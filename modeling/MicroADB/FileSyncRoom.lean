import MicroADB.FileSyncReplies

/-! Whether the replies stay inside the packet. Requests can be pipelined in one packet, and
only the variable part of a reply is cut to the room left by those before it. The iterations tell
whether there was room; that there will be room can be told from the bytes of the packet. -/
namespace MicroADB
open ByteMemory EventRun

variable {ω : Type} (cfg : Config) (fs : FileSystem ω)

/-- write_len and every store are inside the payload area, which held d0 at first, and no
room computed so far was negative. -/
structure Inside (d0 : Mem) (c : SyncCtx ω) : Prop where
  writeLen : c.p.writeLen ≤ cfg.payloadSize
  data : ∀ i, cfg.payloadSize ≤ i → c.p.data i = d0 i
  roomy : Roomy c.log

/-- Every reply to the frame lies in the packet, after each iteration and at the end. -/
def RepliesInside (s : SyncRun ω) : SyncInput cfg → Prop
  | .write f => s.closed = false →
    (∀ c ∈ writeIters cfg fs (s.ctx f.packet), Inside cfg f.data (syncIter cfg fs c).2) ∧
      Inside cfg f.data (fileSyncOnWrite cfg fs (s.ctx f.packet)).2
  | .ack f => s.closed = false → Inside cfg f.data (fileSyncOnAck cfg fs (s.ctx f.packet)).2
  | .close => True

/-- Whenever an iteration is about to reply, the replies before it in the packet leave
room for the fixed part of the reply. -/
def RoomForReplies (s : SyncRun ω) : SyncInput cfg → Prop
  | .write f => s.closed = false → ∀ c ∈ writeIters cfg fs (s.ctx f.packet),
    ∀ h ∈ replyHead cfg fs c, c.p.writeLen+h ≤ cfg.payloadSize
  | _ => True

/-- A reply stays inside exactly when its fixed part does. -/
theorem inside_of_answers (d0 : Mem) (c d : SyncCtx ω) (o : Option ℕ)
    (hans : Answers cfg c d o) (hc : Inside cfg d0 c) :
    Inside cfg d0 d ↔ ∀ h ∈ o, c.p.writeLen+h ≤ cfg.payloadSize := by
  cases o with
  | none =>
    refine ⟨fun _ => by simp,fun _ => ⟨?_,?_,hans.roomy.mpr hc.roomy⟩⟩
    · rw [hans.writeLen]
      exact hc.writeLen
    · rw [hans.data]
      exact hc.data
  | some k =>
    obtain ⟨n,hn⟩ := hans
    constructor
    · rintro hd h ⟨⟩
      by_contra hlt
      obtain ⟨-,hbad⟩ := hn.tight (not_le.mp hlt)
      exact hbad hd.writeLen hd.roomy
    · intro hfit
      obtain ⟨hle,hwl,hroomy⟩ := hn.fits (hfit k rfl)
      refine ⟨by omega,fun i hi => ?_,hroomy.mpr hc.roomy⟩
      rw [hn.data i (Or.inr (by omega))]
      exact hc.data i hi

theorem sync_iters_inside_iff (d0 : Mem) (n : ℕ) (r : ℤ × SyncCtx ω) (hwf : r.2.svc.Wf cfg)
    (hr : Inside cfg d0 r.2) :
    (∀ c ∈ syncIters cfg fs n r, Inside cfg d0 (syncIter cfg fs c).2) ↔
      ∀ c ∈ syncIters cfg fs n r, ∀ h ∈ replyHead cfg fs c,
        c.p.writeLen+h ≤ cfg.payloadSize := by
  induction n generalizing r with
  | zero => simp [syncIters]
  | succ n ih =>
    rw [syncIters]
    split
    · have hstep := inside_of_answers cfg d0 r.2 (syncIter cfg fs r.2).2 _
        (sync_iter_answers cfg fs r.2 hwf hr.writeLen) hr
      have hnext := ih (syncIter cfg fs r.2) ((wf_invariant cfg fs).iter r.2 hwf)
      rw [List.forall_mem_cons, List.forall_mem_cons, hstep]
      constructor
      · rintro ⟨h,ht⟩
        exact ⟨h,(hnext (hstep.mpr h)).mp ht⟩
      · rintro ⟨h,ht⟩
        exact ⟨h,(hnext (hstep.mpr h)).mpr ht⟩
    · simp

theorem inside_packet (s : SyncRun ω) (f : SyncFrame cfg) (h : Roomy s.log) :
    Inside cfg f.data (s.ctx f.packet).rewind := ⟨Nat.zero_le _,fun _ _ => rfl,h⟩

theorem replies_inside_step_iff (hP : 64 ≤ cfg.payloadSize) (s : SyncRun ω)
    (i : SyncInput cfg) (hs : s.svc.Wf cfg ∧ Roomy s.log) :
    RepliesInside cfg fs s i ↔ RoomForReplies cfg fs s i := by
  cases i with
  | close => exact Iff.rfl
  | ack f =>
    refine ⟨fun _ => trivial,fun _ hopen => ?_⟩
    have h0 : Inside cfg f.data (s.ctx f.packet) := ⟨Nat.zero_le _,fun _ _ => rfl,hs.2⟩
    rw [inside_of_answers cfg f.data _ _ _
      (file_sync_on_ack_answers cfg fs _ hs.1 (Nat.zero_le _)) h0]
    -- write_len is 0 and the longest fixed part is that of DENT
    intro h hh
    have hh20 : h ≤ 20 := by
      unfold ackHead at hh
      split at hh
      · cases hh
        decide
      · cases hh
        decide
      · cases hh
    have hwl : (s.ctx f.packet).p.writeLen = 0 := rfl
    omega
  | write f =>
    have h0 := inside_packet cfg s f hs.2
    have hiff := sync_iters_inside_iff cfg fs f.data (4*f.packet.msg.dataLength)
      (0, (s.ctx f.packet).rewind) hs.1 h0
    constructor
    · intro h hopen
      exact hiff.mp (h hopen).1
    · intro h hopen
      have hall := hiff.mpr (h hopen)
      exact ⟨hall,sync_loop_of_iters cfg fs (Inside cfg f.data) _ _ h0 hall⟩

theorem roomy_step (s : SyncRun ω) (i : SyncInput cfg) (hs : Roomy s.log)
    (h : RepliesInside cfg fs s i) : Roomy (syncStep cfg fs s i).log := by
  have hafter (r : ℤ × SyncCtx ω) (hr : Roomy r.2.log) : Roomy (afterCallback fs r).log := by
    unfold afterCallback
    split
    · exact (state_reset_quiet fs r.2).roomy.mpr hr
    · exact hr
  unfold syncStep
  split
  · exact hs
  · rename_i hopen
    rw [Bool.not_eq_true] at hopen
    cases i with
    | write f => exact hafter _ (h hopen).2.roomy
    | ack f => exact hafter _ (h hopen).roomy
    | close => exact (state_reset_quiet fs _).roomy.mpr hs

/-- In every run the replies stay inside the packets exactly when each is started with room
for its fixed part. -/
theorem replies_inside_iff (hP : 64 ≤ cfg.payloadSize) (raw : AfsService) (os : ω)
    (is : List (SyncInput cfg)) :
    Along (syncStep cfg fs) (RepliesInside cfg fs) (syncStart raw os) is ↔
      Along (syncStep cfg fs) (RoomForReplies cfg fs) (syncStart raw os) is := by
  refine along_iff_of_invariant (syncStep cfg fs) (fun s => s.svc.Wf cfg ∧ Roomy s.log) _ _
    (fun s i hs h => ?_) (syncStart raw os) ⟨wf_start cfg raw,roomy_nil⟩ is
    (fun s i _ hs => replies_inside_step_iff cfg fs hP s i hs)
  exact ⟨(wf_invariant cfg fs).step s i hs.1,roomy_step cfg fs s i hs.2 h⟩

/-! What the bytes tell. -/

/-- The fixed part of a reply fits behind those before it. -/
def Fits (written _ _ : ℕ) (q : Reply) : Prop := written+q.fixed ≤ cfg.payloadSize

instance (w t u : ℕ) (q : Reply) : Decidable (Fits cfg w t u q) :=
  inferInstanceAs (Decidable (_ ≤ _))

/-- The requests that a packet completes, with what the service has read before it, have replies
that fit behind each other, whatever the file system answers. -/
def RepliesFit (reason : ℕ) (s : SyncRun ω) : SyncInput cfg → Prop
  | .write f => s.closed = false →
    EachReply cfg reason (Fits cfg) (4*f.msg.dataLength) 0 0 f.bytes s.svc.reading
  | _ => True

/-- The reply to a request that has a packet to itself fits. -/
theorem request_alone_fits (hP : 64 ≤ cfg.payloadSize) (reason : ℕ) (s : SyncRun ω)
    (hs : s.svc.reading = .header []) (f : SyncFrame cfg) (id : ℕ) (name : List UInt8)
    (hlen : name.length < 2^32) (hf : f.bytes = syncRequest id name) :
    RepliesFit cfg reason s (.write f) := by
  intro _
  rw [hs, hf]
  refine each_reply_alone (fun t q hq => ?_) _ id name hlen
  unfold sizeofDent at hq
  unfold Fits
  omega

theorem replies_inside_of_fit (hP : 64 ≤ cfg.payloadSize) (reason : ℕ)
    (hreason : ∀ e, min (fs.strerror e).length cfg.payloadSize ≤ reason) (s : SyncRun ω)
    (i : SyncInput cfg) (hs : s.svc.Wf cfg ∧ Roomy s.log) (h : RepliesFit cfg reason s i) :
    RepliesInside cfg fs s i := by
  cases i with
  | close => trivial
  | ack f => exact (replies_inside_step_iff cfg fs hP s (.ack f) hs).mpr trivial
  | write f =>
    intro hopen
    have h0 := inside_packet cfg s f hs.2
    have hplaced := each_reply_iters hreason (C := Fits cfg)
      (fun w w' _ _ q hw hq => (Nat.add_le_add_right hw q.fixed).trans hq) (fun _ _ _ _ hq _ => hq)
      (4*f.msg.dataLength) (0, (s.ctx f.packet).rewind) 0 hs.1 le_rfl (Nat.zero_le _) (h hopen)
    have hall := sync_iters_forall (Inside cfg f.data) _ _ h0 (fun c hc _ hin => by
      rcases hplaced c hc with hquiet | ⟨q,hq⟩
      · exact (inside_of_answers cfg f.data c _ none hquiet hin).mpr (by simp)
      · refine (inside_of_answers cfg f.data c _ (some q.fixed) hq.answers hin).mpr ?_
        rintro fixed ⟨⟩
        exact hq.place)
    exact ⟨hall,sync_loop_of_iters cfg fs (Inside cfg f.data) _ _ h0 hall⟩

/-- In every run in which the replies to the requests of each packet fit, every reply stays
inside its packet. -/
theorem replies_inside (hP : 64 ≤ cfg.payloadSize) (reason : ℕ)
    (hreason : ∀ e, min (fs.strerror e).length cfg.payloadSize ≤ reason) (raw : AfsService) (os : ω)
    (is : List (SyncInput cfg))
    (h : Along (syncStep cfg fs) (RepliesFit cfg reason) (syncStart raw os) is) :
    Along (syncStep cfg fs) (RepliesInside cfg fs) (syncStart raw os) is := by
  refine along_of_invariant (syncStep cfg fs) (fun s => s.svc.Wf cfg ∧ Roomy s.log)
    (RepliesFit cfg reason) _ (fun s i hs hi => ?_)
    (fun s i hs hi => replies_inside_of_fit cfg fs hP reason hreason s i hs hi)
    (syncStart raw os) ⟨wf_start cfg raw,roomy_nil⟩ is h
  have hin := replies_inside_of_fit cfg fs hP reason hreason s i hs hi
  exact ⟨(wf_invariant cfg fs).step s i hs.1,roomy_step cfg fs s i hs.2 hin⟩

/-- Three STAT requests and a LIST, sixteen bytes each. -/
def statsThenList : SyncFrame readmeConfig :=
  .ofBytes readmeConfig (syncRequest idStat (ascii "/aaaaaaa") ++
    syncRequest idStat (ascii "/aaaaaaa") ++ syncRequest idStat (ascii "/aaaaaaa") ++
    syncRequest idList (ascii "/aaaaaaa")) (by decide)

/-- The first three replies leave 16 bytes for a DONE of 20. -/
theorem stats_then_list_overflow :
    ¬Along (syncStep readmeConfig emptyFs) (RepliesInside readmeConfig emptyFs)
      (syncStart default ()) [.write statsThenList] := by
  have hlen : (fileSyncOnWrite readmeConfig emptyFs
      ((syncStart default ()).ctx statsThenList.packet)).2.p.writeLen = 68 := by decide +kernel
  intro h
  have hin := (h.1 rfl).2.writeLen
  rw [hlen] at hin
  exact absurd hin (by decide)

/-- Four STAT requests fill the packet of the same build exactly. -/
theorem stats_inside :
    Along (syncStep readmeConfig emptyFs) (RepliesInside readmeConfig emptyFs)
      (syncStart default ()) [.write (.ofBytes readmeConfig
        (syncRequest idStat (ascii "/aaaaaaa") ++ syncRequest idStat (ascii "/aaaaaaa") ++
          syncRequest idStat (ascii "/aaaaaaa") ++ syncRequest idStat (ascii "/aaaaaaa"))
        (by decide))] := by
  have hreason : (ascii "No such file or directory").length ≤ 25 := by decide
  apply replies_inside readmeConfig emptyFs (by decide) 25
    (fun _ => (min_le_left _ _).trans hreason) default ()
  refine ⟨fun _ => each_reply_of_behind _ _ _ _ _ ?_,trivial⟩
  decide +kernel

end MicroADB
