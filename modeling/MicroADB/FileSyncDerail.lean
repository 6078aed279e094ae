import MicroADB.FileSyncFollow

/-! Whether bytes of a transfer behind its path are parsed as a request. A transfer that
fails is answered at once, while the rest of it is still to come. -/
namespace MicroADB
open ByteMemory EventRun

def SyncFrame.bytes {cfg : Config}
    (f : SyncFrame cfg) : List UInt8 := slice f.data 0 f.msg.dataLength

/-- The events of a run that goes on from s to s'. -/
def SyncRun.since {ω : Type} (s s' : SyncRun ω) : List SyncEvent := s'.log.drop s.log.length

variable {ω : Type} (cfg : Config) (fs : FileSystem ω)

def writeRun (s : SyncRun ω) (frames : List (SyncFrame cfg)) : SyncRun ω :=
  run (syncStep cfg fs) s (frames.map .write)

variable (t : Transfer)

/-- Where a run that started with the trace log is, between two iterations: r is what the
last one returned, and L is to come in later packets. -/
inductive LoopCourse (log : List SyncEvent) (L : List UInt8) (r : ℤ × SyncCtx ω) : Prop
  | follows (evs : List SyncEvent) (ret : 0 ≤ r.1) (log : r.2.log = log ++ evs)
      (follows : Follows cfg t r.2.svc evs (r.2.rest ++ L))
  | derailed (evs : List SyncEvent) (ret : 0 ≤ r.1) (log : r.2.log = log ++ evs)
      (state : r.2.svc.state = .waitCmd) (size : r.2.svc.size = 0)
      (rest : 0 < r.2.p.msg.dataLength ∨ L ≠ []) (header : headerBytes evs = sizeofReq)
      (failed : ¬Passes cfg t evs)
  | parsed (evs : List SyncEvent) (log : log ++ evs <+: r.2.log)
      (header : sizeofReq < headerBytes evs) (failed : ¬Passes cfg t evs)
  | stopped (evs : List SyncEvent) (ret : r.1 < 0) (log : r.2.log = log ++ evs)
      (header : headerBytes evs = sizeofReq) (passed : Passes cfg t evs)

/-- The same between two packets. -/
inductive Course (log : List SyncEvent) (L : List UInt8) (s : SyncRun ω) : Prop
  | follows (evs : List SyncEvent) (opened : s.closed = false) (log : s.log = log ++ evs)
      (follows : Follows cfg t s.svc evs L)
  | derailed (evs : List SyncEvent) (opened : s.closed = false) (log : s.log = log ++ evs)
      (state : s.svc.state = .waitCmd) (size : s.svc.size = 0) (rest : L ≠ [])
      (header : headerBytes evs = sizeofReq) (failed : ¬Passes cfg t evs)
  | parsed (evs : List SyncEvent) (log : log ++ evs <+: s.log)
      (header : sizeofReq < headerBytes evs) (failed : ¬Passes cfg t evs)
  | stopped (evs : List SyncEvent) (closed : s.closed = true) (log : s.log = log ++ evs)
      (header : headerBytes evs = sizeofReq) (passed : Passes cfg t evs)

section
variable {cfg fs t} {log : List SyncEvent} {L : List UInt8}

/-- Once the service waits for a command, the next byte of the transfer is parsed as one. -/
theorem derailed_parses (c : SyncCtx ω) (evs : List SyncEvent) (hlog : c.log = log ++ evs)
    (hstate : c.svc.state = .waitCmd) (hsize : c.svc.size = 0) (hd : 0 < c.p.msg.dataLength)
    (hheader : headerBytes evs = sizeofReq) (hfail : ¬Passes cfg t evs) :
    LoopCourse cfg t log L (syncIter cfg fs c) := by
  set k := min (sizeofReq-c.svc.size) c.p.msg.dataLength with hk
  refine .parsed (evs ++ [.header k]) ?_ ?_ (fun h => hfail h.of_append)
  · refine sync_iter_prefix cfg fs c ?_
    rw [stateProcess, hstate]
    refine state_wait_cmd_prefix cfg c ?_
    rw [hlog, List.append_assoc]
  · have hpos : 0 < k := by
      rw [hk, hsize]
      exact Nat.lt_min.mpr ⟨by decide,hd⟩
    rw [header_bytes_append, hheader]
    exact Nat.lt_add_of_pos_right (by simpa [SyncEvent.headerBytes] using hpos)

theorem loop_course_iter (c : SyncCtx ω) (ret : ℤ) (hret : 0 ≤ ret) (hd : 0 < c.p.msg.dataLength)
    (h : LoopCourse cfg t log L (ret, c)) : LoopCourse cfg t log L (syncIter cfg fs c) := by
  cases h with
  | follows evs _ hlog hfollows =>
    cases sync_iter_outcome fs hlog hfollows hd with
    | follows evs' hr hl hf _ => exact .follows evs' hr hl hf
    | fails evs' hr hl hs hz hrest hh hfail => exact .derailed evs' hr.ge hl hs hz hrest hh hfail
    | stops evs' hr hl hh hp _ => exact .stopped evs' hr hl hh hp
  | derailed evs _ hlog hstate hsize _ hheader hfail =>
    exact derailed_parses c evs hlog hstate hsize hd hheader hfail
  | parsed evs hlog hheader hfail =>
    exact .parsed evs ( sync_iter_prefix cfg fs c ( state_process_prefix cfg fs c hlog)) hheader hfail
  | stopped evs hneg => exact absurd hret (not_le.mpr hneg)

/-- Nothing but packet_ptr changes between two packets. -/
theorem follows_rewind (svc : AfsService) (n : ℕ) (evs : List SyncEvent) (R : List UInt8)
    (h : Follows cfg t svc evs R) : Follows cfg t { svc with packetPtr := n } evs R := by
  cases h with
  | header a b c d e f => exact .header a b c d e f
  | name a b c d e f g h i => exact .name a b c d e f g h i
  | fileHdr fd parts chunks a b c d e f g h i => exact .fileHdr fd parts chunks a b c d e f g h i
  | fileData fd parts chunks left a b c d e f g h i j =>
    exact .fileData fd parts chunks left a b c d e f g h i j
  | linkHdr made chunks a b c d e f => exact .linkHdr made chunks a b c d e f
  | linkData made chunks ch a b c d e f g => exact .linkData made chunks ch a b c d e f g
  | done link a b c d e f => exact .done link a b c d e f

theorem Passes.append {evs es : List SyncEvent} (h : Passes cfg t evs) (hok : AllSucceed es) :
    Passes cfg t (evs ++ es) := by
  rcases h with h | h
  · exact Or.inl h
  · exact Or.inr ⟨h.absolute,(all_succeed_append _ _).mpr ⟨h.succeed,hok⟩,h.short⟩

/-- Where the loop has ended, the run goes on from there with the next packet. -/
theorem course_after (r : ℤ × SyncCtx ω) (h : LoopCourse cfg t log L r)
    (hend : r.2.p.msg.dataLength = 0 ∨ r.1 < 0) :
    Course cfg t log L (afterCallback fs (if 0 ≤ r.1 then 0 else r.1, r.2)) := by
  have hgo (hr : 0 ≤ r.1) :
      afterCallback fs (if 0 ≤ r.1 then 0 else r.1, r.2) = r.2.run false := by
    rw [if_pos hr]
    rfl
  have hstop (hr : r.1 < 0) :
      afterCallback fs (if 0 ≤ r.1 then 0 else r.1, r.2) = (fileSyncOnClose fs r.2).run true := by
    rw [if_neg (not_le.mpr hr), afterCallback, if_pos hr]
  cases h with
  | follows evs hret hlog hfollows =>
    have h0 : r.2.rest = [] := (rest_eq_nil_iff r.2).mpr (by omega)
    rw [h0] at hfollows
    rw [hgo hret]
    exact .follows evs rfl hlog hfollows
  | derailed evs hret hlog hstate hsize hrest hheader hfail =>
    rw [hgo hret]
    exact .derailed evs rfl hlog hstate hsize (hrest.resolve_left (by omega)) hheader hfail
  | parsed evs hlog hheader hfail =>
    refine .parsed evs ?_ hheader hfail
    rcases lt_or_ge r.1 0 with hr | hr
    · rw [hstop hr]
      exact state_reset_prefix fs r.2 hlog
    · rw [hgo hr]
      exact hlog
  | stopped evs hret hlog hheader hpass =>
    obtain ⟨es,hes,hzero,hok⟩ := state_reset_log fs r.2
    rw [hstop hret]
    refine .stopped (evs ++ es) rfl ?_ ?_ (hpass.append hok)
    · change (stateReset fs r.2).log = _
      rw [hes, hlog, List.append_assoc]
    · rw [header_bytes_append, hheader, hzero, Nat.add_zero]

/-- One packet of the transfer. -/
theorem course_step (s : SyncRun ω) (f : SyncFrame cfg) (h : Course cfg t log (f.bytes ++ L) s) :
    Course cfg t log L (syncStep cfg fs s (.write f)) := by
  set c := s.ctx f.packet
  have hopen (ho : s.closed = false) : syncStep cfg fs s (.write f) =
      afterCallback fs (fileSyncOnWrite cfg fs c) := by
    unfold syncStep
    rw [if_neg (by simp [ho])]
  -- the loop runs to its end from any course on which it starts
  have hloop (h0 : LoopCourse cfg t log L (0, c.rewind)) :
      Course cfg t log L (afterCallback fs (fileSyncOnWrite cfg fs c)) := by
    exact course_after _ (sync_loop_invariant cfg fs (LoopCourse cfg t log L)
      (fun ret d hret hd hc => loop_course_iter d ret hret hd hc) _ _ h0) (write_loop_ends cfg fs c)
  cases h with
  | follows evs ho hlog hfollows =>
    rw [hopen ho]
    exact hloop (.follows evs le_rfl hlog (follows_rewind s.svc 0 evs _ hfollows))
  | derailed evs ho hlog hstate hsize hrest hheader hfail =>
    rw [hopen ho]
    refine hloop (.derailed evs le_rfl hlog hstate hsize ?_ hheader hfail)
    change 0 < f.msg.dataLength ∨ _
    by_contra hno
    rw [not_or, not_lt, Nat.le_zero, not_not] at hno
    apply hrest
    rw [SyncFrame.bytes, hno.1, hno.2]
    rfl
  | parsed evs hlog hheader hfail =>
    rcases Bool.eq_false_or_eq_true s.closed with hc | ho
    · have hstep : syncStep cfg fs s (.write f) = s := by
        unfold syncStep
        rw [if_pos hc]
      rw [hstep]
      exact .parsed evs hlog hheader hfail
    · rw [hopen ho]
      exact hloop (.parsed evs hlog hheader hfail)
  | stopped evs hc hlog hheader hpass =>
    have hstep : syncStep cfg fs s (.write f) = s := by
      unfold syncStep
      rw [if_pos hc]
    rw [hstep]
    exact .stopped evs hc hlog hheader hpass

theorem course_run (frames : List (SyncFrame cfg)) (s : SyncRun ω)
    (h : Course cfg t log (frames.map SyncFrame.bytes).flatten s) :
    Course cfg t log [] (writeRun cfg fs s frames) := by
  induction frames generalizing s with
  | nil => exact h
  | cons f frames ih => exact ih _ (course_step s f h)

end

/-- Of a transfer that an idle service gets in packets, nothing behind its own eight bytes of
header is parsed as a request exactly when it passes: its path is too long, or absolute with
all calls succeeding and no target of a link too long. -/
theorem records_not_parsed_iff (s : SyncRun ω) (frames : List (SyncFrame cfg))
    (hopen : s.closed = false) (hstate : s.svc.state = .waitCmd) (hsize : s.svc.size = 0)
    (hsplit : (frames.map SyncFrame.bytes).flatten = t.stream) :
    headerBytes (s.since (writeRun cfg fs s frames)) ≤ sizeofReq ↔
      Passes cfg t (s.since (writeRun cfg fs s frames)) := by
  have hstart : Follows cfg t s.svc [] t.stream := by
    refine .header hstate ?_ ?_ all_succeed_nil rfl ?_
    · rw [hsize]
      decide
    · rw [hsize]
      rfl
    · rw [collected_of_size_zero hsize, List.nil_append]
  have hcourse : Course cfg t s.log [] (writeRun cfg fs s frames) := by
    refine course_run frames s (.follows [] hopen (List.append_nil _).symm ?_)
    rw [hsplit]
    exact hstart
  have hsince {evs : List SyncEvent} (hlog : (writeRun cfg fs s frames).log = s.log ++ evs) :
      s.since (writeRun cfg fs s frames) = evs := by
    rw [SyncRun.since, hlog, List.drop_left]
  cases hcourse with
  | follows evs _ hlog hfollows =>
    obtain ⟨-,-,hheader,hwell,-⟩ := follows_end cfg t _ evs hfollows
    rw [hsince hlog]
    exact ⟨fun _ => Or.inr hwell,fun _ => hheader.le⟩
  | derailed _ _ _ _ _ hrest => exact absurd rfl hrest
  | parsed evs hlog hheader hfail =>
    obtain ⟨es,hes⟩ := hlog
    rw [hsince (hes.symm.trans (List.append_assoc _ _ _))]
    constructor
    · intro hle
      rw [header_bytes_append] at hle
      omega
    · exact fun hp => absurd hp.of_append hfail
  | stopped evs _ hlog hheader hpass =>
    rw [hsince hlog]
    exact ⟨fun _ => hpass,fun _ => hheader.le⟩

/-- A transfer with one chunk, small enough for one packet. -/
def smallTransfer (name : List UInt8) (h : name.length < 2^32) : Transfer where
  name := name
  chunks := [ascii "abc"]
  time := 0
  name_lt := h
  chunk_lt := by decide

/-- Without CONFIG_ADBD_FILE_SYMLINK the target of a link has the service closed. -/
theorem link_not_parsed :
    headerBytes ((syncStart default ()).since (writeRun readmeConfig emptyFs (syncStart default ())
      [.ofBytes readmeConfig (smallTransfer (ascii "/a,0120777") (by decide)).stream (by decide)])) ≤
        sizeofReq := by
  refine (records_not_parsed_iff readmeConfig emptyFs (smallTransfer (ascii "/a,0120777") (by decide))
    _ _ rfl rfl rfl (by decide +kernel)).mpr (Or.inr ⟨by decide,?_,fun _ h => ?_⟩)
  · decide +kernel
  · cases h

/-- The file cannot be opened, and its DATA header is parsed as a request. -/
theorem failed_send_parsed :
    ¬headerBytes ((syncStart default ()).since (writeRun readmeConfig emptyFs (syncStart default ())
      [.ofBytes readmeConfig (smallTransfer (ascii "/a,0644") (by decide)).stream (by decide)])) ≤
        sizeofReq := by
  decide +kernel

end MicroADB
