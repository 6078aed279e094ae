import MicroADB.FileSyncRequest

/-! When a request is executed: with its last byte, a request without a name apart, which waits
for a packet behind it. -/
namespace MicroADB
open ByteMemory EventRun

variable {ω : Type} {cfg : Config} {fs : FileSystem ω} {id : ℕ} {name : List UInt8}
  {c d e : SyncCtx ω}

/-- The requests that were executed, with their names. -/
def executions (l : List SyncEvent) : List (ℕ × List UInt8) :=
  l.filterMap fun e => match e with | .exec cmd name => some (cmd, name) | _ => none

/-- Nothing was executed between c and d. -/
def NotExecuted (c d : SyncCtx ω) : Prop := ∃ es, d.log = c.log ++ es ∧ executions es = []

@[simp] theorem executions_append (l es : List SyncEvent) :
    executions (l ++ es) = executions l ++ executions es := List.filterMap_append

theorem executions_nil_of (es : List SyncEvent)
    (h : ∀ e ∈ es, e.isHeader ∨ e.isMkdir ∨ e.isWrite) : executions es = [] := by
  refine List.filterMap_eq_nil_iff.mpr (fun e he => ?_)
  have hcase := h e he
  cases e <;>
    first | rfl | simp [SyncEvent.isHeader, SyncEvent.isMkdir, SyncEvent.isWrite] at hcase

theorem NotExecuted.refl (c : SyncCtx ω) : NotExecuted c c := ⟨[],(List.append_nil _).symm,rfl⟩

theorem NotExecuted.trans (h : NotExecuted c d) (h' : NotExecuted d e) : NotExecuted c e := by
  obtain ⟨es,hes,hn⟩ := h
  obtain ⟨es',hes',hn'⟩ := h'
  exact ⟨es ++ es',by rw [hes', hes, List.append_assoc],by rw [executions_append, hn, hn']; rfl⟩

/-! The handlers. -/

theorem stat_entry_not_executed (c : SyncCtx ω) (name : List UInt8) :
    NotExecuted c (statEntry cfg fs c name) := by
  unfold statEntry
  dsimp only
  split
  · exact ⟨[_],rfl,rfl⟩
  · split <;> exact ⟨[_,_],List.append_assoc _ _ _,rfl⟩

theorem state_process_list_not_executed (c : SyncCtx ω) :
    NotExecuted c (stateProcessList cfg fs c).2 := by
  have hread : NotExecuted c (sysReaddir fs c c.svc.u.d).2 := ⟨[_],rfl,rfl⟩
  unfold stateProcessList
  dsimp only
  split
  · exact hread
  · rename_i name _
    have hput (b : SyncCtx ω) : NotExecuted b (putDent cfg b name) := ⟨[_],rfl,rfl⟩
    exact (hread.trans (stat_entry_not_executed _ name)).trans (hput _)

theorem state_init_list_not_executed (c : SyncCtx ω) :
    NotExecuted c (stateInitList cfg fs c).2 := by
  unfold stateInitList
  dsimp only
  split
  · exact NotExecuted.refl c
  · have hmalloc : NotExecuted c (sysMalloc fs c cfg.pathMax).2 := ⟨[_],rfl,rfl⟩
    split
    · exact hmalloc
    · rename_i path raw _
      have hopen (u : AfsUnion) : NotExecuted (sysMalloc fs c cfg.pathMax).2
          (sysOpendir fs ((sysMalloc fs c cfg.pathMax).2.setUnion u) (c.name cfg)).2 := ⟨[_],rfl,rfl⟩
      split
      · exact hmalloc.trans ⟨[_,_],List.append_assoc _ _ _,rfl⟩
      · exact (hmalloc.trans (hopen _)).trans (state_process_list_not_executed _)

theorem state_process_recv_not_executed (c : SyncCtx ω) :
    NotExecuted c (stateProcessRecv cfg fs c).2 := by
  have hread (n : ℤ) (k : ℕ) : NotExecuted c (sysRead fs (c.emit (.room n)) c.svc.u.fd k).2 :=
    ⟨[_,_],List.append_assoc _ _ _,rfl⟩
  unfold stateProcessRecv
  dsimp only
  split
  · exact (hread _ _).trans ⟨[_],rfl,rfl⟩
  · split <;> exact hread _ _

theorem state_init_recv_not_executed (c : SyncCtx ω) :
    NotExecuted c (stateInitRecv cfg fs c).2 := by
  have hopen : NotExecuted c (sysOpen fs c (c.name cfg) .rdonly).2 := ⟨[_],rfl,rfl⟩
  unfold stateInitRecv
  dsimp only
  split
  · exact hopen.trans ⟨[_],rfl,rfl⟩
  · exact hopen.trans (state_process_recv_not_executed _)

theorem state_init_send_not_executed (c : SyncCtx ω) :
    NotExecuted c (stateInitSend cfg fs c).2 := by
  have hfile (b : SyncCtx ω) (mode : ℕ) : NotExecuted b (stateInitSendFile cfg fs b mode).2 := by
    unfold stateInitSendFile
    dsimp only
    split
    · exact ⟨[_,_],List.append_assoc _ _ _,rfl⟩
    · exact ⟨[_],rfl,rfl⟩
  have hlink (b : SyncCtx ω) : NotExecuted b (stateInitSendLink cfg fs b).2 := by
    unfold stateInitSendLink
    dsimp only
    split
    · exact ⟨[_],rfl,rfl⟩
    · split
      · exact ⟨[_,_],List.append_assoc _ _ _,rfl⟩
      · exact ⟨[_],rfl,rfl⟩
  have hpath (b : SyncCtx ω) (mode : ℕ) (isLink : Bool) :
      NotExecuted b (stateInitSendPath cfg fs b mode isLink).2 := by
    have hunlink : NotExecuted b (sysUnlink fs b (b.name cfg)) := ⟨[_],rfl,rfl⟩
    have hdirs : NotExecuted b (createPathDirectories cfg fs (sysUnlink fs b (b.name cfg))).2 := by
      obtain ⟨es,hes,hmkdir⟩ := create_path_directories_log cfg fs (sysUnlink fs b (b.name cfg))
      exact hunlink.trans ⟨es,hes,executions_nil_of es (fun e he => Or.inr (Or.inl (hmkdir e he)))⟩
    unfold stateInitSendPath
    dsimp only
    split
    · exact hdirs.trans ⟨[_],rfl,rfl⟩
    · split
      · exact hdirs.trans (hlink _)
      · exact hdirs.trans (hfile _ _)
  unfold stateInitSend
  split
  · exact hpath _ _ _
  · exact hpath _ _ _

theorem state_init_not_executed (c : SyncCtx ω) : NotExecuted c (stateInit cfg fs c).2 := by
  unfold stateInit
  split_ifs
  · have hstat : NotExecuted c (sysStat fs c (c.name cfg)).2 := ⟨[_],rfl,rfl⟩
    unfold stateInitStat
    dsimp only
    split <;> exact hstat
  · exact state_init_list_not_executed c
  · exact state_init_send_not_executed c
  · exact state_init_recv_not_executed c
  · exact NotExecuted.refl c
  · exact NotExecuted.refl c

theorem state_reset_not_executed (c : SyncCtx ω) : NotExecuted c (stateReset fs c) := by
  have hsame : NotExecuted c ((c.setState .waitCmd).setSize 0) := NotExecuted.refl c
  unfold stateReset
  cases c.svc.state with
  | waitCmd | waitCmdData => exact hsame
  | processList => exact ⟨[_,_],List.append_assoc _ _ _,rfl⟩
  | _ => exact ⟨[_],rfl,rfl⟩

theorem after_callback_not_executed (r : ℤ × SyncCtx ω) :
    ∃ es, (afterCallback fs r).log = r.2.log ++ es ∧ executions es = [] := by
  unfold afterCallback
  split
  · exact state_reset_not_executed r.2
  · exact ⟨[],(List.append_nil _).symm,rfl⟩

/-- A complete request is executed. -/
theorem execute_executes (fs : FileSystem ω) {s : SyncRun ω} (hlt : name.length < cfg.pathMax)
    (hc : Complete id name s c) :
    ∃ es, (execute cfg fs c).2.log = s.log ++ es ∧ executions es = [(id, name)] := by
  obtain ⟨hs,hlog,hheaders⟩ := hc.log
  set b := store c.svc.buff c.svc.namelen [0] with hb
  set d := (c.setBuff b).emit (.exec c.svc.cmd (slice b 0 c.svc.namelen)) with hd
  have hname : slice b 0 c.svc.namelen = name := by
    rw [hb, hc.namelen, slice_store_disjoint _ _ _ _ _ (Or.inl (by omega)), hc.buff]
  have hrun : requestName cfg fs c = stateInit cfg fs d :=
    if_neg (by rw [hc.namelen]; omega)
  have hafter : NotExecuted d (execute cfg fs c).2 := by
    unfold execute
    rw [hrun]
    dsimp only
    split
    · exact (state_init_not_executed d).trans (state_reset_not_executed _)
    · exact state_init_not_executed d
  obtain ⟨es,hes,hnone⟩ := hafter
  refine ⟨hs ++ [.exec id name] ++ es,?_,?_⟩
  · rw [hes, hd, hc.cmd, hname]
    change c.log ++ [_] ++ es = _
    rw [hlog]
    simp only [List.append_assoc]
  · rw [executions_append, executions_append, hnone,
      executions_nil_of hs (fun e he => Or.inl (hheaders e he))]
    rfl

/-! Packets. -/

section
variable {s t : SyncRun ω} {L : List UInt8}

/-- One packet of a request without a name: it is collected, and no more. -/
theorem unnamed_packet (fs : FileSystem ω) (hid : id < 2^32) (hquit : id ≠ idQuit)
    (f : SyncFrame cfg)
    (hos : t.os = s.os) (hlog : ∃ hs, t.log = s.log ++ hs ∧ ∀ e ∈ hs, e.isHeader)
    (h : HeaderWaits id [] L (t.ctx f.packet).rewind) :
    ∃ c, fileSyncOnWrite cfg fs (t.ctx f.packet) = (0, c) ∧ Unanswered s c ∧
      (L ≠ [] → c.rest = [] ∧ HeaderWaits id [] L c) := by
  set c := t.ctx f.packet with hc
  have hlt : ([] : List UInt8).length < cfg.pathMax := by
    have hmax := cfg.pathMax_ge
    rw [List.length_nil]
    omega
  have hloop := sync_loop_invariant cfg fs
    (fun r => 0 ≤ r.1 ∧ Unanswered s r.2 ∧ (HeaderWaits id [] L r.2 ∨ r.2.rest = [] ∧ L = []))
    (fun ret d _ hd hI => by
      obtain ⟨-,hquiet,hwaits | ⟨hrest,-⟩⟩ := hI
      · obtain ⟨e,he,hquiet',hcase⟩ := header_iter fs hid hquit hlt
          hquiet hwaits
        rw [he]
        refine ⟨zero_le_one,hquiet',?_⟩
        rcases hcase with hwaits | hread
        · exact Or.inl hwaits
        · exact Or.inr (List.append_eq_nil_iff.mp hread.rest)
      · rw [(rest_eq_nil_iff _).mp hrest] at hd
        exact absurd hd (lt_irrefl 0))
    (4*c.p.msg.dataLength) (0, c.rewind) ⟨le_rfl,⟨rfl,hos,hlog⟩,Or.inl h⟩
  have hend := file_sync_on_write_ends cfg fs c
  have hwrite : fileSyncOnWrite cfg fs c =
      (if 0 ≤ (syncLoop cfg fs (4*c.p.msg.dataLength) (0, c.rewind)).1 then 0
        else (syncLoop cfg fs (4*c.p.msg.dataLength) (0, c.rewind)).1,
        (syncLoop cfg fs (4*c.p.msg.dataLength) (0, c.rewind)).2) := rfl
  rw [hwrite] at hend ⊢
  generalize syncLoop cfg fs (4*c.p.msg.dataLength) (0, c.rewind) = r at hloop hend
  obtain ⟨hret,hquiet,hcase⟩ := hloop
  rw [if_pos hret] at hend ⊢
  have hnil : r.2.rest = [] := (rest_eq_nil_iff r.2).mpr (by simpa using hend)
  exact ⟨r.2,rfl,hquiet,fun hL => ⟨hnil,hcase.resolve_right (fun h => hL h.2)⟩⟩

/-- The run after a packet that only adds to the request. -/
theorem step_of_waits {f : SyncFrame cfg} {c : SyncCtx ω} (hopen : t.closed = false)
    (hwrite : fileSyncOnWrite cfg fs (t.ctx f.packet) = (0, c)) :
    syncStep cfg fs t (.write f) = c.run false := by
  unfold syncStep
  rw [if_neg (by simp [hopen])]
  change afterCallback fs (fileSyncOnWrite cfg fs (t.ctx f.packet)) = _
  rw [hwrite]
  rfl

theorem frames_nil_of_flatten {frames : List (SyncFrame cfg)}
    (hpos : ∀ f ∈ frames, 0 < f.msg.dataLength)
    (h : (frames.map SyncFrame.bytes).flatten = []) : frames = [] := by
  cases frames with
  | nil => rfl
  | cons f frames =>
    have hnil := (List.append_eq_nil_iff.mp (List.flatten_cons ▸ h)).1
    have hzero := (slice_eq_nil_iff _ _ _).mp hnil
    have hlt := hpos f List.mem_cons_self
    omega

/-- The log of the run after these packets shows these executions since s. -/
def Shows (cfg : Config) (fs : FileSystem ω) (s t : SyncRun ω) (frames : List (SyncFrame cfg))
    (l : List (ℕ × List UInt8)) : Prop :=
  ∃ es, (writeRun cfg fs t frames).log = s.log ++ es ∧ executions es = l

theorem shows_nil (hlog : ∃ hs, t.log = s.log ++ hs ∧ ∀ e ∈ hs, e.isHeader) :
    Shows cfg fs s t [] [] := by
  obtain ⟨hs,hlog,hheaders⟩ := hlog
  exact ⟨hs,hlog,executions_nil_of hs (fun e he => Or.inl (hheaders e he))⟩

theorem unnamed_run (fs : FileSystem ω) (hid : id < 2^32) (hquit : id ≠ idQuit)
    (frames : List (SyncFrame cfg))
    (t : SyncRun ω) (hpos : ∀ f ∈ frames, 0 < f.msg.dataLength) (hos : t.os = s.os)
    (hopen : t.closed = false) (hlog : ∃ hs, t.log = s.log ++ hs ∧ ∀ e ∈ hs, e.isHeader)
    (h : t.svc.state = .waitCmd ∧ t.svc.size < sizeofReq ∧
      t.svc.collected ++ (frames.map SyncFrame.bytes).flatten = syncRequest id []) :
    Shows cfg fs s t frames [] := by
  induction frames generalizing t with
  | nil => exact shows_nil hlog
  | cons f frames ih =>
    obtain ⟨hstate,hsize,hstream⟩ := h
    obtain ⟨c,hwrite,hquiet,hmore⟩ := unnamed_packet fs hid hquit f hos hlog
      ⟨hstate,hsize,hstream⟩
    have hnext := step_of_waits hopen hwrite
    have hrun : Shows cfg fs s t (f :: frames) [] ↔
        Shows cfg fs s (syncStep cfg fs t (.write f)) frames [] := Iff.rfl
    rw [hrun, hnext]
    by_cases hL : (frames.map SyncFrame.bytes).flatten = []
    · have hfs := frames_nil_of_flatten (fun g hg => hpos g (List.mem_cons_of_mem _ hg)) hL
      rw [hfs]
      exact shows_nil hquiet.log
    · obtain ⟨hnil,hwaits⟩ := hmore hL
      have hstream' := hwaits.stream
      rw [hnil, List.nil_append] at hstream'
      exact ih (c.run false) (fun g hg => hpos g (List.mem_cons_of_mem _ hg)) hquiet.os rfl
        hquiet.log ⟨hwaits.state,hwaits.size,hstream'⟩

theorem named_run (fs : FileSystem ω) (hid : id < 2^32) (hquit : id ≠ idQuit) (hne : name ≠ [])
    (hlt : name.length < cfg.pathMax) (frames : List (SyncFrame cfg)) (t : SyncRun ω)
    (hpos : ∀ f ∈ frames, 0 < f.msg.dataLength) (hos : t.os = s.os) (hopen : t.closed = false)
    (hlog : ∃ hs, t.log = s.log ++ hs ∧ ∀ e ∈ hs, e.isHeader)
    (h : Requesting id name t.svc (frames.map SyncFrame.bytes).flatten) :
    (∀ k < frames.length, Shows cfg fs s t (frames.take k) []) ∧
      Shows cfg fs s t frames [(id, name)] := by
  induction frames generalizing t with
  | nil => exact absurd rfl h.ne_nil
  | cons f frames ih =>
    rcases request_packet fs hid hquit hne hlt f t hos hlog h with
      ⟨hL,c,hwrite,hquiet,hrequesting⟩ | ⟨hlast,c,hdone,hwrite⟩
    · have hnext := step_of_waits hopen hwrite
      obtain ⟨hbefore,hat⟩ := ih (c.run false)
        (fun g hg => hpos g (List.mem_cons_of_mem _ hg)) hquiet.os rfl hquiet.log hrequesting
      have hrun (gs : List (SyncFrame cfg)) (l : List (ℕ × List UInt8)) :
          Shows cfg fs s t (f :: gs) l ↔ Shows cfg fs s (c.run false) gs l := by
        rw [← hnext]
        exact Iff.rfl
      refine ⟨fun k hk => ?_,(hrun _ _).mpr hat⟩
      cases k with
      | zero => exact shows_nil hlog
      | succ k => exact (hrun _ _).mpr (hbefore k (by simpa using hk))
    · -- the last packet
      have hfs := frames_nil_of_flatten (fun g hg => hpos g (List.mem_cons_of_mem _ hg)) hlast
      subst hfs
      refine ⟨fun k hk => ?_,?_⟩
      · obtain rfl : k = 0 := by simpa using hk
        exact shows_nil hlog
      · obtain ⟨es,hes,hexec⟩ := execute_executes fs hlt hdone
        have hstep : syncStep cfg fs t (.write f) = afterCallback fs
            (if 0 ≤ (execute cfg fs c).1 then 0 else (execute cfg fs c).1,
              (execute cfg fs c).2) := by
          rw [← hwrite]
          unfold syncStep
          rw [if_neg (by simp [hopen])]
        have hclosed : ∃ es', (syncStep cfg fs t (.write f)).log =
            (execute cfg fs c).2.log ++ es' ∧ executions es' = [] := by
          rw [hstep]
          exact after_callback_not_executed _
        obtain ⟨es',hes',hnone⟩ := hclosed
        refine ⟨es ++ es',?_,?_⟩
        · change (syncStep cfg fs t (.write f)).log = _
          rw [hes', hes, List.append_assoc]
        · rw [executions_append, hexec, hnone]
          rfl

end

/-! Runs. -/

/-- The request in these packets was executed with the last of them, once, and nothing else. -/
structure ExecutedAtEnd (cfg : Config) (fs : FileSystem ω) (s : SyncRun ω) (id : ℕ)
    (name : List UInt8) (frames : List (SyncFrame cfg)) : Prop where
  before : ∀ k < frames.length, executions (s.since (writeRun cfg fs s (frames.take k))) = []
  last : executions (s.since (writeRun cfg fs s frames)) = [(id, name)]

theorem Shows.since {s : SyncRun ω} {frames : List (SyncFrame cfg)} {l : List (ℕ × List UInt8)}
    (h : Shows cfg fs s s frames l) : executions (s.since (writeRun cfg fs s frames)) = l := by
  obtain ⟨es,hes,hl⟩ := h
  rw [SyncRun.since, hes, List.drop_left]
  exact hl

/-- Every sync request, and the splits of its bytes: a request with a name is executed exactly
once, as it was announced, in the call for the packet that holds its last byte; one without a
name is not. -/
theorem executed_at_end_iff (cfg : Config) (fs : FileSystem ω) (s : SyncRun ω) (id : ℕ)
    (name : List UInt8) (frames : List (SyncFrame cfg)) (hid : id ∈ [idStat,idList,idSend,idRecv])
    (hlt : name.length < cfg.pathMax) (hopen : s.closed = false) (hstate : s.svc.state = .waitCmd)
    (hsize : s.svc.size = 0) (hpos : ∀ f ∈ frames, 0 < f.msg.dataLength)
    (hsplit : (frames.map SyncFrame.bytes).flatten = syncRequest id name) :
    ExecutedAtEnd cfg fs s id name frames ↔ name ≠ [] := by
  have hid32 : id < 2^32 ∧ id ≠ idQuit := by
    simp only [List.mem_cons, List.not_mem_nil, or_false] at hid
    rcases hid with rfl | rfl | rfl | rfl <;> decide
  have hlog : ∃ hs, s.log = s.log ++ hs ∧ ∀ e ∈ hs, e.isHeader :=
    ⟨[],(List.append_nil _).symm,by simp⟩
  have hlt8 : s.svc.size < sizeofReq := by
    rw [hsize]
    decide
  have hstream : s.svc.collected ++ (frames.map SyncFrame.bytes).flatten = syncRequest id name := by
    rw [collected_of_size_zero hsize, List.nil_append, hsplit]
  constructor
  · rintro h rfl
    have hshows := unnamed_run fs hid32.1 hid32.2 frames s hpos rfl hopen hlog
      ⟨hstate,hlt8,hstream⟩
    have hlast := h.last
    rw [hshows.since] at hlast
    cases hlast
  · intro hne
    obtain ⟨hbefore,hat⟩ := named_run fs hid32.1 hid32.2 hne hlt frames s hpos rfl hopen
      hlog (.header hstate hlt8 hstream)
    exact ⟨fun k hk => (hbefore k hk).since,hat.since⟩

/-- A STAT in two packets. -/
theorem stat_executed :
    ExecutedAtEnd readmeConfig emptyFs (syncStart default ()) idStat (ascii "/a")
      [.ofBytes readmeConfig ((syncRequest idStat (ascii "/a")).take 9) (by decide),
        .ofBytes readmeConfig ((syncRequest idStat (ascii "/a")).drop 9) (by decide)] :=
  (executed_at_end_iff readmeConfig emptyFs (syncStart default ()) idStat (ascii "/a") _
    (by decide) (by decide) rfl rfl rfl (by decide) (by decide +kernel)).mpr (by decide)

/-- A LIST without a name in one packet waits for more. -/
theorem unnamed_list_waits :
    ¬ExecutedAtEnd readmeConfig emptyFs (syncStart default ()) idList []
      [.ofBytes readmeConfig (syncRequest idList []) (by decide)] := by
  intro h
  have hnone : executions ((syncStart default ()).since (writeRun readmeConfig emptyFs
      (syncStart default ()) [.ofBytes readmeConfig (syncRequest idList []) (by decide)])) = [] := by
    decide +kernel
  have hlast := h.last
  rw [hnone] at hlast
  cases hlast

end MicroADB
