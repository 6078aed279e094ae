import MicroADB.FileSyncRun

/-! What is true of a file sync service between two steps, whatever it was sent. -/
namespace MicroADB
open ByteMemory EventRun

/-- How much has been collected in buff in each state, and what the union then holds. -/
def AfsService.Wf (cfg : Config) (s : AfsService) : Prop :=
  match s.state with
  | .waitCmd => s.size < sizeofReq
  | .waitCmdData => s.namelen < cfg.pathMax ∧ s.cmd ≠ idQuit ∧
      (s.size < s.namelen ∨ s.size = 0 ∧ s.namelen = 0)
  | .processRecv => s.size = 0 ∧ 0 ≤ s.u.fd
  | .processList => s.size = 0 ∧ s.u.filePtr+2 ≤ cfg.pathMax
  | .processSendFileHdr => s.size < sizeofData ∧ 0 ≤ s.u.fd
  | .processSendFileData => s.size = 0 ∧ 0 ≤ s.u.fd
  | .processSendSymHdr => s.size < sizeofData
  | .processSendSymData => s.size < s.namelen ∨ s.size = 0

variable {ω : Type} (cfg : Config) (fs : FileSystem ω)

theorem wf_state_reset (c : SyncCtx ω) : (stateReset fs c).svc.Wf cfg := by
  simp [AfsService.Wf, state_reset_svc, sizeofReq]

theorem wf_waitCmdData (s : AfsService) (hs : s.state = .waitCmdData) (h : s.Wf cfg) :
    s.namelen < cfg.pathMax ∧ s.cmd ≠ idQuit ∧
      (s.size < s.namelen ∨ s.size = 0 ∧ s.namelen = 0) := by
  simpa only [AfsService.Wf, hs] using h

/-! The handlers that start on a request: a complete name has just been taken, so nothing
is left in buff. -/

theorem wf_state_init_stat (c : SyncCtx ω) (h : c.svc.Wf cfg) (hz : c.svc.size = 0) :
    (stateInitStat cfg fs c).2.svc.Wf cfg := by
  unfold stateInitStat
  dsimp only
  split
  · simp [AfsService.Wf, hz, sizeofReq]
  · exact h

theorem wf_state_process_recv (c : SyncCtx ω) (h : c.svc.Wf cfg) :
    (stateProcessRecv cfg fs c).2.svc.Wf cfg := by
  unfold stateProcessRecv
  dsimp only
  split
  · exact h
  · split <;> exact h

theorem wf_state_process_list (c : SyncCtx ω) (h : c.svc.Wf cfg)
    (hs : c.svc.state = .processList) : (stateProcessList cfg fs c).2.svc.Wf cfg := by
  unfold stateProcessList
  dsimp only
  split
  · exact h
  · rename_i name _
    obtain ⟨-,-,hsvc⟩ := stat_entry_keeps cfg fs (sysReaddir fs c c.svc.u.d).2 name
    rcases hsvc with hsvc | ⟨text,hsvc⟩
    · simpa [hsvc] using h
    · simp only [AfsService.Wf, hs] at h
      simpa [hsvc, AfsService.Wf, hs, AfsUnion.filePtr] using h

theorem wf_state_init_list (c : SyncCtx ω) (h : c.svc.Wf cfg) (hz : c.svc.size = 0)
    (hs : c.svc.state = .waitCmdData) : (stateInitList cfg fs c).2.svc.Wf cfg := by
  have hunion (u : AfsUnion) : (c.setUnion u).svc.Wf cfg := by
    simp only [AfsService.Wf, hs] at h
    simpa [AfsService.Wf, hs] using h
  unfold stateInitList
  dsimp only
  split
  · exact h
  · rename_i hlen
    split
    · exact h
    · split
      · exact hunion _
      · refine wf_state_process_list cfg fs _ ?_ rfl
        simp [AfsService.Wf, hz, AfsUnion.filePtr]
        omega

theorem wf_state_init_recv (c : SyncCtx ω) (h : c.svc.Wf cfg) (hz : c.svc.size = 0)
    (hs : c.svc.state = .waitCmdData) : (stateInitRecv cfg fs c).2.svc.Wf cfg := by
  unfold stateInitRecv
  dsimp only
  split
  · simp only [AfsService.Wf, hs] at h
    simpa [AfsService.Wf, hs] using h
  · rename_i hfd
    apply wf_state_process_recv
    simpa [AfsService.Wf, hz, AfsUnion.fd] using hfd

theorem wf_state_init_send_file (c : SyncCtx ω) (mode : ℕ) (h : c.svc.Wf cfg)
    (hz : c.svc.size = 0) (hs : c.svc.state = .waitCmdData) :
    (stateInitSendFile cfg fs c mode).2.svc.Wf cfg := by
  unfold stateInitSendFile
  dsimp only
  split
  · simp only [AfsService.Wf, hs] at h
    simpa [AfsService.Wf, hs] using h
  · rename_i hfd
    simpa [AfsService.Wf, hz, AfsUnion.fd, sizeofData] using hfd

theorem wf_state_init_send_link (c : SyncCtx ω) (h : c.svc.Wf cfg) (hz : c.svc.size = 0) :
    (stateInitSendLink cfg fs c).2.svc.Wf cfg := by
  unfold stateInitSendLink
  dsimp only
  split
  · exact h
  · split
    · exact h
    · simp [AfsService.Wf, hz, sizeofData]

theorem wf_state_init_send_path (c : SyncCtx ω) (mode : ℕ) (isLink : Bool) (h : c.svc.Wf cfg)
    (hz : c.svc.size = 0) (hs : c.svc.state = .waitCmdData) :
    (stateInitSendPath cfg fs c mode isLink).2.svc.Wf cfg := by
  have hsvc := create_path_directories_svc cfg fs (sysUnlink fs c (c.name cfg))
  rw [sys_unlink_svc] at hsvc
  unfold stateInitSendPath
  dsimp only
  split
  · rw [prepare_fail_errno_svc, hsvc]
    exact h
  · split
    · exact wf_state_init_send_link cfg fs _ (by rw [hsvc]; exact h) (by rw [hsvc]; exact hz)
    · exact wf_state_init_send_file cfg fs _ _ (by rw [hsvc]; exact h) (by rw [hsvc]; exact hz)
        (by rw [hsvc]; exact hs)

theorem wf_request_name (c : SyncCtx ω) (h : c.svc.Wf cfg) (hz : c.svc.size = 0)
    (hs : c.svc.state = .waitCmdData) : (requestName cfg fs c).2.svc.Wf cfg := by
  -- only the terminator is stored before the command is looked at
  have hbuff (m : Mem) : (c.setBuff m).svc.Wf cfg := by
    simp only [AfsService.Wf, hs] at h
    simpa [AfsService.Wf, hs] using h
  unfold requestName
  split
  · exact h
  · dsimp only
    unfold stateInit
    split_ifs
    · exact wf_state_init_stat cfg fs _ (hbuff _) hz
    · exact wf_state_init_list cfg fs _ (hbuff _) hz hs
    · unfold stateInitSend
      split
      · refine wf_state_init_send_path cfg fs _ _ _ ?_ hz hs
        simp only [AfsService.Wf, hs] at h
        simpa [AfsService.Wf, hs] using h
      · exact wf_state_init_send_path cfg fs _ _ _ (hbuff _) hz hs
    · exact wf_state_init_recv cfg fs _ (hbuff _) hz hs
    · exact hbuff _
    · exact hbuff _

/-! The handlers of the loop, on each exit of the reader they call. -/

theorem wf_state_wait_cmd (c : SyncCtx ω) (hs : c.svc.state = .waitCmd) :
    (stateWaitCmd cfg c).2.svc.Wf cfg := by
  set d := c.emit (.header (min (sizeofReq-c.svc.size) c.p.msg.dataLength))
  rcases after_read_cases cfg d sizeofReq (fun c => (-1, c)) (requestHeader cfg) with
    ⟨-,hr⟩ | ⟨-,-,-,hr⟩ | ⟨-,-,hlt,hr⟩
  all_goals
    change (afterRead (readFromPacket cfg d sizeofReq) _ _).2.svc.Wf cfg
    rw [hr]
  · simp [AfsService.Wf, d, hs, sizeofReq]
  · unfold requestHeader
    split_ifs with hq hn
    · simp [AfsService.Wf, SyncCtx.complete, d, hs, sizeofReq]
    · simp [AfsService.Wf, SyncCtx.complete, d, hs, sizeofReq]
    · refine ⟨not_le.mp hn,hq,?_⟩
      rcases Nat.eq_zero_or_pos (word (d.complete sizeofReq).svc.buff 4) with h0 | h0
      · exact Or.inr ⟨rfl,h0⟩
      · exact Or.inl h0
  · have hlt' : c.p.msg.dataLength < sizeofReq-c.svc.size := hlt
    simp only [AfsService.Wf, SyncCtx.short, d, SyncCtx.setSize_svc, SyncCtx.gather_svc,
      SyncCtx.emit_svc, SyncCtx.emit_p, hs]
    omega

theorem wf_state_wait_cmd_data (c : SyncCtx ω) (h : c.svc.Wf cfg)
    (hs : c.svc.state = .waitCmdData) : (stateWaitCmdData cfg fs c).2.svc.Wf cfg := by
  obtain ⟨hmax,hq,hlt⟩ := wf_waitCmdData cfg c.svc hs h
  have hempty : c.svc.namelen < cfg.pathMax ∧ c.svc.cmd ≠ idQuit ∧
      (0 < c.svc.namelen ∨ 0 = 0 ∧ c.svc.namelen = 0) := ⟨hmax,hq,by omega⟩
  rcases after_read_cases cfg c c.svc.namelen (fun c => (-1, c)) (requestName cfg fs) with
    ⟨-,hr⟩ | ⟨-,-,-,hr⟩ | ⟨-,-,hshort,hr⟩
  all_goals
    change (afterRead (readFromPacket cfg c c.svc.namelen) _ _).2.svc.Wf cfg
    rw [hr]
  · simpa only [AfsService.Wf, SyncCtx.setSize_svc, hs] using hempty
  · refine wf_request_name cfg fs _ ?_ rfl hs
    simpa only [AfsService.Wf, SyncCtx.complete, SyncCtx.setSize_svc, SyncCtx.gather_svc, hs]
      using hempty
  · simp only [AfsService.Wf, SyncCtx.short, SyncCtx.setSize_svc, SyncCtx.gather_svc, hs]
    exact ⟨hmax,hq,by omega⟩

/-- The header of a record is read in two states. -/
theorem wf_state_process_send_header (c : SyncCtx ω) (h : c.svc.Wf cfg)
    (hs : c.svc.state = .processSendFileHdr ∨ c.svc.state = .processSendSymHdr) :
    (stateProcessSendHeader cfg c).2.svc.Wf cfg := by
  rcases after_read_cases cfg c sizeofData (readError cfg) (sendHeader cfg) with
    ⟨-,hr⟩ | ⟨-,-,-,hr⟩ | ⟨-,-,hshort,hr⟩
  all_goals
    change (afterRead (readFromPacket cfg c sizeofData) _ _).2.svc.Wf cfg
    rw [hr]
  · rcases hs with hs | hs <;> simp only [AfsService.Wf, hs] at h <;>
      simp [readError, AfsService.Wf, hs, sizeofData, h]
  · unfold sendHeader
    rcases hs with hs | hs <;> simp only [AfsService.Wf, hs] at h <;> split_ifs <;>
      simp [AfsService.Wf, SyncCtx.complete, hs, sizeofData, AfsState.succ, h]
  · rcases hs with hs | hs <;> simp only [AfsService.Wf, hs] at h <;>
      simp only [AfsService.Wf, SyncCtx.short, SyncCtx.setSize_svc, SyncCtx.gather_svc, hs] <;>
      omega

theorem wf_state_process_send_file (c : SyncCtx ω) (h : c.svc.Wf cfg)
    (hs : c.svc.state = .processSendFileData) : (stateProcessSendFile cfg fs c).2.svc.Wf cfg := by
  simp only [AfsService.Wf, hs] at h
  obtain ⟨d,-,hsvc,-,hcases⟩ := state_process_send_file_cases cfg fs c
  rcases hcases with ⟨-,-,hr⟩ | ⟨-,-,hr⟩ | ⟨-,hr⟩
  all_goals rw [hr]
  · simp [AfsService.Wf, hsvc, SyncCtx.takeBlock, hs, AfsState.pred, sizeofData, h.1, h.2]
  · simp [AfsService.Wf, hsvc, SyncCtx.takeBlock, hs, h.1, h.2]
  · simp [AfsService.Wf, hsvc, SyncCtx.takeBlock, hs, h.1, h.2]

theorem wf_state_process_send_sym (c : SyncCtx ω) (hs : c.svc.state = .processSendSymData) :
    (stateProcessSendSym cfg fs c).2.svc.Wf cfg := by
  rcases after_read_cases cfg c c.svc.namelen (readError cfg) (sendSymTarget cfg fs) with
    ⟨-,hr⟩ | ⟨-,-,-,hr⟩ | ⟨-,-,hshort,hr⟩
  all_goals
    change (afterRead (readFromPacket cfg c c.svc.namelen) _ _).2.svc.Wf cfg
    rw [hr]
  · simp [readError, AfsService.Wf, hs]
  · unfold sendSymTarget
    dsimp only
    split_ifs <;> simp [AfsService.Wf, SyncCtx.complete, hs, AfsState.pred, sizeofData]
  · simp only [AfsService.Wf, SyncCtx.short, SyncCtx.setSize_svc, SyncCtx.gather_svc, hs]
    omega

/-- The switch of the loop keeps the invariant. -/
theorem wf_state_process (c : SyncCtx ω) (h : c.svc.Wf cfg) :
    (stateProcess cfg fs c).2.svc.Wf cfg := by
  unfold stateProcess
  cases hs : c.svc.state with
  | waitCmd => exact wf_state_wait_cmd cfg c hs
  | waitCmdData => exact wf_state_wait_cmd_data cfg fs c h hs
  | processRecv => exact h
  | processList => exact h
  | processSendFileHdr => exact wf_state_process_send_header cfg c h (Or.inl hs)
  | processSendSymHdr => exact wf_state_process_send_header cfg c h (Or.inr hs)
  | processSendFileData => exact wf_state_process_send_file cfg fs c h hs
  | processSendSymData =>
    dsimp only
    split
    · exact wf_state_process_send_sym cfg fs c hs
    · exact h

theorem wf_state_ack (c : SyncCtx ω) (h : c.svc.Wf cfg) : (stateAck cfg fs c).2.svc.Wf cfg := by
  unfold stateAck
  split
  · exact wf_state_process_recv cfg fs c h
  · exact wf_state_process_list cfg fs c h ‹_›
  all_goals exact h

theorem wf_invariant : SyncInvariant cfg fs (fun s _ => s.Wf cfg) where
  packetPtr _ _ _ h := h
  process := wf_state_process cfg fs
  ack := wf_state_ack cfg fs
  reset c _ := wf_state_reset cfg fs c

theorem wf_start (raw : AfsService) : (fileSyncService raw).Wf cfg := by
  simp [AfsService.Wf, fileSyncService, sizeofReq]

theorem wf_run (raw : AfsService) (os : ω) (is : List (SyncInput cfg)) :
    (syncRun cfg fs raw os is).svc.Wf cfg :=
  (wf_invariant cfg fs).run raw os (wf_start cfg raw) is

/-! How long the loop is. -/

/-- With less in buff than what is being read, at most one iteration in a row consumes nothing. -/
theorem rank_le_one_of_wf (s : AfsService) (h : s.Wf cfg) : s.rank cfg ≤ 1 := by
  cases hs : s.state <;> simp only [AfsService.Wf, hs] at h <;>
    simp only [AfsService.rank, hs]
  case waitCmd => rw [if_neg h.ne]; decide
  case waitCmdData => split <;> decide
  case processRecv => decide
  case processList => decide
  case processSendFileHdr => rw [if_neg h.1.not_ge]; decide
  case processSendFileData => rw [h.1]; split <;> decide
  case processSendSymHdr => rw [if_neg h.not_ge]; decide
  case processSendSymData => split <;> decide

/-- Every file sync service, packet and file system: the loop of file_sync_on_write makes at most
two iterations for each byte of the packet, however many it is let make, and with so many it
ends. -/
theorem write_iterations_le (raw : AfsService) (os : ω) (is : List (SyncInput cfg))
    (f : SyncFrame cfg) :
    let s := syncRun cfg fs raw os is
    let r := syncLoop cfg fs (2*f.msg.dataLength) (0, (s.ctx f.packet).rewind)
    (r.2.p.msg.dataLength = 0 ∨ r.1 < 0) ∧
      ∀ m, (syncIters cfg fs m (0, (s.ctx f.packet).rewind)).length ≤ 2*f.msg.dataLength := by
  intro s r
  have hwf : s.svc.Wf cfg := wf_run cfg fs raw os is
  have hend : r.2.p.msg.dataLength = 0 ∨ r.1 < 0 := by
    refine sync_loop_ends cfg fs (fun c => c.svc.Wf cfg) 1
      (fun c hc => (wf_invariant cfg fs).iter c hc) (fun c hc => rank_le_one_of_wf cfg c.svc hc)
      _ (0, (s.ctx f.packet).rewind) hwf (fun hd => ?_)
    have hrank := rank_le_one_of_wf cfg (s.ctx f.packet).rewind.svc hwf
    have hpos : 0 < f.msg.dataLength := hd
    change 2*(f.msg.dataLength-1)+(s.ctx f.packet).rewind.svc.rank cfg < 2*f.msg.dataLength
    omega
  exact ⟨hend,fun m => length_sync_iters_le cfg fs _ m _ hend⟩

end MicroADB
