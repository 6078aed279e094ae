import MicroADB.FileSyncRun
import MicroADB.Ledger

/-! The files, directories and path buffers that the file sync service holds. -/
namespace MicroADB
open ByteMemory EventRun Ledger

inductive Res
  | fd (n : ℤ)
  | dir (d : ℕ)
  | buf (b : ℕ)
deriving DecidableEq, Repr

def SyncEvent.acquires : SyncEvent → Option Res
  | .openFile _ _ fd => if 0 ≤ fd then some (.fd fd) else none
  | .opendir _ (some d) => some (.dir d)
  | .malloc _ (some b) => some (.buf b)
  | _ => none

def SyncEvent.releases : SyncEvent → Option Res
  | .close fd => some (.fd fd)
  | .closedir d => some (.dir d)
  | .free b => some (.buf b)
  | _ => none

/-- What is held after a trace, if nothing was released that was not held. -/
def heldBy (l : List SyncEvent) : Option (Multiset Res) :=
  held SyncEvent.acquires SyncEvent.releases 0 l

/-- What the service is to hold in its state. -/
def AfsService.resources (s : AfsService) : Multiset Res :=
  match s.state with
  | .processRecv | .processSendFileHdr | .processSendFileData => {.fd s.u.fd}
  | .processList => {.buf s.u.path, .dir s.u.d}
  | .processSendSymHdr | .processSendSymData => {.buf s.u.linkPath}
  | .waitCmd | .waitCmdData => 0

def Balanced (s : AfsService) (l : List SyncEvent) : Prop := heldBy l = some s.resources

theorem acquires_or_releases (e : SyncEvent) : e.acquires = none ∨ e.releases = none := by
  cases e <;> simp [SyncEvent.acquires, SyncEvent.releases]

theorem heldBy_append (l es : List SyncEvent) : heldBy (l ++ es) =
    (heldBy l).bind (fun h => held SyncEvent.acquires SyncEvent.releases h es) :=
  held_append _ _ _ _ _

variable {ω : Type} (cfg : Config) (fs : FileSystem ω)

theorem balanced_state_reset (c : SyncCtx ω) (h : Balanced c.svc c.log) :
    Balanced (stateReset fs c).svc (stateReset fs c).log := by
  rw [Balanced, state_reset_svc]
  change heldBy (stateReset fs c).log = some 0
  unfold Balanced AfsService.resources at h
  unfold stateReset
  cases hs : c.svc.state <;> simp only [hs] at h ⊢ <;>
    simp [heldBy_append, h, held, settle, SyncEvent.acquires, SyncEvent.releases]

theorem neutral_of_is_mkdir (e : SyncEvent) (h : e.isMkdir) :
    Neutral SyncEvent.acquires SyncEvent.releases e := by
  cases e <;> first | exact ⟨rfl,rfl⟩ | exact h.elim

theorem neutral_of_is_write (e : SyncEvent) (h : e.isWrite) :
    Neutral SyncEvent.acquires SyncEvent.releases e := by
  cases e <;> first | exact ⟨rfl,rfl⟩ | exact h.elim

theorem balanced_state_process_recv (c : SyncCtx ω) (h : Balanced c.svc c.log) :
    Balanced (stateProcessRecv cfg fs c).2.svc (stateProcessRecv cfg fs c).2.log := by
  unfold Balanced at h ⊢
  unfold stateProcessRecv
  dsimp only
  split
  · simp [heldBy_append, h, held, settle, SyncEvent.acquires, SyncEvent.releases]
  · split <;> simp [heldBy_append, h, held, settle, SyncEvent.acquires, SyncEvent.releases]

theorem stat_entry_held (c : SyncCtx ω) (name : List UInt8) :
    heldBy (statEntry cfg fs c name).log = heldBy c.log := by
  unfold statEntry
  dsimp only
  split
  · simp [heldBy_append, held, settle, SyncEvent.acquires, SyncEvent.releases]
  · split <;> simp [heldBy_append, held, settle, SyncEvent.acquires, SyncEvent.releases]

theorem stat_entry_resources (c : SyncCtx ω) (name : List UInt8)
    (hs : c.svc.state = .processList) :
    (statEntry cfg fs c name).svc.resources = c.svc.resources := by
  obtain ⟨-,-,h | ⟨text,h⟩⟩ := stat_entry_keeps cfg fs c name
  · rw [h]
  · rw [h]
    simp only [AfsService.resources, hs, AfsUnion.d, AfsUnion.path]

theorem balanced_state_process_list (c : SyncCtx ω) (h : Balanced c.svc c.log)
    (hs : c.svc.state = .processList) :
    Balanced (stateProcessList cfg fs c).2.svc (stateProcessList cfg fs c).2.log := by
  unfold Balanced at h ⊢
  unfold stateProcessList
  dsimp only
  split
  · simp [heldBy_append, h, held, settle, SyncEvent.acquires, SyncEvent.releases]
  · simp [heldBy_append, stat_entry_held, stat_entry_resources, h, hs, held, settle,
      SyncEvent.acquires, SyncEvent.releases]

/-! The handlers that acquire start with nothing held. -/

theorem balanced_state_init_stat (c : SyncCtx ω) (h : heldBy c.log = some 0)
    (hs : c.svc.resources = 0) :
    Balanced (stateInitStat cfg fs c).2.svc (stateInitStat cfg fs c).2.log := by
  unfold Balanced stateInitStat
  dsimp only
  split
  · simp [heldBy_append, h, held, settle, SyncEvent.acquires, SyncEvent.releases,
      AfsService.resources]
  · simp [heldBy_append, h, hs, held, settle, SyncEvent.acquires, SyncEvent.releases]

theorem balanced_state_init_list (c : SyncCtx ω) (h : heldBy c.log = some 0)
    (hs : c.svc.state = .waitCmdData) :
    Balanced (stateInitList cfg fs c).2.svc (stateInitList cfg fs c).2.log := by
  unfold stateInitList
  dsimp only
  split
  · simp [Balanced, h, hs, AfsService.resources]
  · split
    · rename_i hm
      simp [Balanced, heldBy_append, h, hs, hm, held, settle, SyncEvent.acquires,
        SyncEvent.releases, AfsService.resources]
    · rename_i hm
      split
      · rename_i ho
        simp [Balanced, heldBy_append, h, hs, hm, ho, held, settle, SyncEvent.acquires,
          SyncEvent.releases, AfsService.resources]
      · rename_i ho
        refine balanced_state_process_list cfg fs _ ?_ rfl
        simp [Balanced, heldBy_append, h, hm, ho, held, settle, SyncEvent.acquires,
          SyncEvent.releases, AfsService.resources, AfsUnion.d, AfsUnion.path]
        exact Multiset.pair_comm _ _

theorem balanced_state_init_recv (c : SyncCtx ω) (h : heldBy c.log = some 0)
    (hs : c.svc.state = .waitCmdData) :
    Balanced (stateInitRecv cfg fs c).2.svc (stateInitRecv cfg fs c).2.log := by
  unfold stateInitRecv
  dsimp only
  split
  · rename_i hfd
    simp [Balanced, heldBy_append, h, hs, not_le.mpr hfd, held, settle, SyncEvent.acquires,
      SyncEvent.releases, AfsService.resources]
  · rename_i hfd
    apply balanced_state_process_recv
    simp [Balanced, heldBy_append, h, not_lt.mp hfd, held, settle, SyncEvent.acquires,
      SyncEvent.releases, AfsService.resources, AfsUnion.fd]

theorem balanced_state_init_send_file (c : SyncCtx ω) (mode : ℕ) (h : heldBy c.log = some 0)
    (hs : c.svc.state = .waitCmdData) :
    Balanced (stateInitSendFile cfg fs c mode).2.svc (stateInitSendFile cfg fs c mode).2.log := by
  unfold stateInitSendFile
  dsimp only
  split
  · rename_i hfd
    simp [Balanced, heldBy_append, h, hs, not_le.mpr hfd, held, settle, SyncEvent.acquires,
      SyncEvent.releases, AfsService.resources]
  · rename_i hfd
    simp [Balanced, heldBy_append, h, not_lt.mp hfd, held, settle, SyncEvent.acquires,
      SyncEvent.releases, AfsService.resources, AfsUnion.fd]

theorem balanced_state_init_send_link (c : SyncCtx ω) (h : heldBy c.log = some 0)
    (hs : c.svc.state = .waitCmdData) :
    Balanced (stateInitSendLink cfg fs c).2.svc (stateInitSendLink cfg fs c).2.log := by
  unfold stateInitSendLink
  dsimp only
  split
  · simp [Balanced, heldBy_append, h, hs, held, settle, SyncEvent.acquires,
      SyncEvent.releases, AfsService.resources]
  · split
    · rename_i hm
      simp [Balanced, heldBy_append, h, hs, hm, held, settle, SyncEvent.acquires,
        SyncEvent.releases, AfsService.resources]
    · rename_i hm
      simp [Balanced, heldBy_append, h, hm, held, settle, SyncEvent.acquires,
        SyncEvent.releases, AfsService.resources, AfsUnion.linkPath]

theorem balanced_state_init_send_path (c : SyncCtx ω) (mode : ℕ) (isLink : Bool)
    (h : heldBy c.log = some 0) (hs : c.svc.state = .waitCmdData) :
    Balanced (stateInitSendPath cfg fs c mode isLink).2.svc
      (stateInitSendPath cfg fs c mode isLink).2.log := by
  obtain ⟨evs,hlog,hevs⟩ := create_path_directories_log cfg fs (sysUnlink fs c (c.name cfg))
  have hheld : heldBy (createPathDirectories cfg fs (sysUnlink fs c (c.name cfg))).2.log =
      some 0 := by
    have hn : held SyncEvent.acquires SyncEvent.releases 0 evs = some 0 :=
      held_neutral _ _ _ _ (fun e he => neutral_of_is_mkdir e (hevs e he))
    rw [hlog]
    simp [heldBy_append, h, held, hn, settle, SyncEvent.acquires, SyncEvent.releases]
  have hstate : (createPathDirectories cfg fs (sysUnlink fs c (c.name cfg))).2.svc.state =
      .waitCmdData := by simp [hs]
  unfold stateInitSendPath
  dsimp only
  split
  · simp [Balanced, heldBy_append, hheld, hs, held, settle, SyncEvent.acquires,
      SyncEvent.releases, AfsService.resources]
  · split
    · exact balanced_state_init_send_link cfg fs _ hheld hstate
    · exact balanced_state_init_send_file cfg fs _ _ hheld hstate

theorem balanced_request_name (c : SyncCtx ω) (h : heldBy c.log = some 0)
    (hs : c.svc.state = .waitCmdData) :
    Balanced (requestName cfg fs c).2.svc (requestName cfg fs c).2.log := by
  have hres : c.svc.resources = 0 := by simp [AfsService.resources, hs]
  unfold requestName
  split
  · rw [Balanced, h, hres]
  · set d := (c.setBuff (store c.svc.buff c.svc.namelen [0])).emit
      (.exec (c.setBuff (store c.svc.buff c.svc.namelen [0])).svc.cmd
        (slice (c.setBuff (store c.svc.buff c.svc.namelen [0])).svc.buff 0
          (c.setBuff (store c.svc.buff c.svc.namelen [0])).svc.namelen)) with hd
    have hheld : heldBy d.log = some 0 := by
      simp [hd, heldBy_append, h, held, settle, SyncEvent.acquires, SyncEvent.releases]
    have hstate : d.svc.state = .waitCmdData := hs
    have hdres : d.svc.resources = 0 := hres
    change Balanced (stateInit cfg fs d).2.svc (stateInit cfg fs d).2.log
    unfold stateInit
    split_ifs
    · exact balanced_state_init_stat cfg fs d hheld hdres
    · exact balanced_state_init_list cfg fs d hheld hstate
    · unfold stateInitSend
      split
      · exact balanced_state_init_send_path cfg fs _ _ _ hheld hstate
      · exact balanced_state_init_send_path cfg fs d _ _ hheld hstate
    · exact balanced_state_init_recv cfg fs d hheld hstate
    · rw [Balanced, hheld, hdres]
    · rw [Balanced, hheld, hdres]

/-! The readers hand on what they hold. -/

theorem balanced_after_read (c : SyncCtx ω) (n : ℕ) (fail next : SyncCtx ω → ℤ × SyncCtx ω)
    (h : Balanced c.svc c.log)
    (hfail : ∀ d : SyncCtx ω, d.svc.state = c.svc.state → d.svc.u = c.svc.u →
      Balanced d.svc d.log → Balanced (fail d).2.svc (fail d).2.log)
    (hnext : ∀ d : SyncCtx ω, d.svc.state = c.svc.state → d.svc.u = c.svc.u →
      Balanced d.svc d.log → Balanced (next d).2.svc (next d).2.log) :
    Balanced (afterRead (readFromPacket cfg c n) fail next).2.svc
      (afterRead (readFromPacket cfg c n) fail next).2.log := by
  rcases after_read_cases cfg c n fail next with ⟨-,hr⟩ | ⟨-,-,-,hr⟩ | ⟨-,-,-,hr⟩
  · rw [hr]
    exact hfail _ rfl rfl h
  · rw [hr]
    exact hnext _ rfl rfl h
  · rw [hr]
    exact h

theorem balanced_prepare_fail (c : SyncCtx ω) (r : List UInt8) (h : Balanced c.svc c.log) :
    Balanced (prepareFailMessage cfg c r).svc (prepareFailMessage cfg c r).log := by
  unfold Balanced at h ⊢
  simp [heldBy_append, h, held, settle, SyncEvent.acquires, SyncEvent.releases]

theorem balanced_state_process_send_header (c : SyncCtx ω) (h : Balanced c.svc c.log)
    (hs : c.svc.state = .processSendFileHdr ∨ c.svc.state = .processSendSymHdr) :
    Balanced (stateProcessSendHeader cfg c).2.svc (stateProcessSendHeader cfg c).2.log := by
  refine balanced_after_read cfg c _ _ _ h (fun d _ _ hd => balanced_prepare_fail cfg d _ hd) ?_
  intro d hst _ hd
  rw [← hst] at hs
  unfold sendHeader
  split_ifs
  · exact hd
  · exact balanced_prepare_fail cfg d _ hd
  · rcases hs with hs | hs
    · simp only [Balanced, AfsService.resources, hs] at hd
      simpa [Balanced, AfsService.resources, hs, AfsState.succ] using hd
    · simp only [Balanced, AfsService.resources, hs] at hd
      simpa [Balanced, AfsService.resources, hs, AfsState.succ] using hd

theorem balanced_state_process_send_file (c : SyncCtx ω) (h : Balanced c.svc c.log)
    (hs : c.svc.state = .processSendFileData) :
    Balanced (stateProcessSendFile cfg fs c).2.svc (stateProcessSendFile cfg fs c).2.log := by
  obtain ⟨d,hd,hsvc,-,hcases⟩ := state_process_send_file_cases cfg fs c
  obtain ⟨evs,hlog,hevs⟩ := write_block_log fs c.takeBlock (c.peek c.blockSize)
  have hheld : heldBy d.log = some {.fd c.svc.u.fd} := by
    simp only [Balanced, AfsService.resources, hs] at h
    rw [hd, hlog, ← h]
    exact held_append_neutral _ _ _ _ _ (fun e he => neutral_of_is_write e (hevs e he))
  have hst : d.svc.state = .processSendFileData := by
    rw [hsvc]
    exact hs
  have hu : d.svc.u = c.svc.u := by
    rw [hsvc]
    rfl
  have hbal : Balanced d.svc d.log := by
    rw [Balanced, hheld]
    simp only [AfsService.resources, hst, hu]
  rcases hcases with ⟨-,-,hr⟩ | ⟨-,-,hr⟩ | ⟨-,hr⟩
  · rw [hr]
    simp [Balanced, hheld, AfsService.resources, hs, AfsState.pred, hu]
  · rw [hr]
    exact hbal
  · rw [hr]
    exact balanced_prepare_fail cfg d _ hbal

theorem balanced_state_process_send_sym (c : SyncCtx ω) (h : Balanced c.svc c.log)
    (hs : c.svc.state = .processSendSymData) :
    Balanced (stateProcessSendSym cfg fs c).2.svc (stateProcessSendSym cfg fs c).2.log := by
  refine balanced_after_read cfg c _ _ _ h (fun d _ _ hd => balanced_prepare_fail cfg d _ hd) ?_
  intro d hst _ hd
  rw [hs] at hst
  simp only [Balanced, AfsService.resources, hst] at hd
  unfold sendSymTarget
  dsimp only
  split_ifs
  · simp [Balanced, heldBy_append, hd, hst, held, settle, SyncEvent.acquires,
      SyncEvent.releases, AfsService.resources]
  · simp [Balanced, heldBy_append, hd, hst, held, settle, SyncEvent.acquires,
      SyncEvent.releases, AfsService.resources]
  · simp [Balanced, heldBy_append, hd, hst, held, settle, SyncEvent.acquires,
      SyncEvent.releases, AfsService.resources, AfsState.pred]

theorem balanced_state_process (c : SyncCtx ω) (h : Balanced c.svc c.log) :
    Balanced (stateProcess cfg fs c).2.svc (stateProcess cfg fs c).2.log := by
  unfold stateProcess
  split
  · rename_i hs
    refine balanced_after_read cfg _ _ _ _ ?_ (fun _ _ _ hd => hd) ?_
    · simp only [Balanced, SyncCtx.emit_log, SyncCtx.emit_svc] at h ⊢
      simp [heldBy_append, h, held, settle, SyncEvent.acquires, SyncEvent.releases]
    · intro d hst _ hd
      have hst' : d.svc.state = .waitCmd := hst.trans hs
      unfold requestHeader
      split_ifs
      · exact hd
      · exact hd
      · simp only [Balanced, AfsService.resources, hst'] at hd
        exact hd
  · rename_i hs
    refine balanced_after_read cfg _ _ _ _ h (fun _ _ _ hd => hd) ?_
    intro d hst _ hd
    have hst' : d.svc.state = .waitCmdData := hst.trans hs
    simp only [Balanced, AfsService.resources, hst'] at hd
    exact balanced_request_name cfg fs d hd hst'
  · exact balanced_state_process_send_header cfg c h (Or.inl ‹_›)
  · exact balanced_state_process_send_header cfg c h (Or.inr ‹_›)
  · exact balanced_state_process_send_file cfg fs c h ‹_›
  · split
    · exact balanced_state_process_send_sym cfg fs c h ‹_›
    · exact h
  · exact h
  · exact h

theorem balanced_state_ack (c : SyncCtx ω) (h : Balanced c.svc c.log) :
    Balanced (stateAck cfg fs c).2.svc (stateAck cfg fs c).2.log := by
  unfold stateAck
  split
  · exact balanced_state_process_recv cfg fs c h
  · exact balanced_state_process_list cfg fs c h ‹_›
  all_goals exact h

theorem balanced_invariant : SyncInvariant cfg fs Balanced where
  packetPtr _ _ _ h := h
  process := balanced_state_process cfg fs
  ack := balanced_state_ack cfg fs
  reset := balanced_state_reset fs

/-- What a service holds is determined by its state, in every run; every resource was
released once for each time it was acquired once the service has been closed. -/
theorem held_by_state (raw : AfsService) (os : ω) (is : List (SyncInput cfg)) :
    heldBy (syncRun cfg fs raw os is).log = some (syncRun cfg fs raw os is).svc.resources ∧
    ((syncRun cfg fs raw os is).closed = true →
      heldBy (syncRun cfg fs raw os is).log = some 0 ∧
      acquired SyncEvent.acquires (syncRun cfg fs raw os is).log =
        released SyncEvent.releases (syncRun cfg fs raw os is).log) := by
  have h : Balanced (syncRun cfg fs raw os is).svc (syncRun cfg fs raw os is).log :=
    (balanced_invariant cfg fs).run raw os rfl is
  refine ⟨h,fun hc => ?_⟩
  have hres : (syncRun cfg fs raw os is).svc.resources = 0 := by
    simp [AfsService.resources, (closed_idle raw os is hc).1]
  rw [Balanced, hres] at h
  refine ⟨h,?_⟩
  have hb := held_balance _ _ acquires_or_releases 0 0 _ h
  simpa using hb

end MicroADB
