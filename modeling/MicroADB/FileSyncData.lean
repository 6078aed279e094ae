import MicroADB.FileSyncReply

/-! The handlers look at the payload only where it is unread: whatever else is stored in
the packet, they do the same. -/
namespace MicroADB
open ByteMemory EventRun

variable {ω : Type} (cfg : Config) (fs : FileSystem ω)

def SyncCtx.withData (c : SyncCtx ω) (m : Mem) : SyncCtx ω :=
  { c with p := { c.p with data := m } }

section
variable (c : SyncCtx ω) (m : Mem)

@[simp] theorem with_data_svc : (c.withData m).svc = c.svc := rfl
@[simp] theorem with_data_os : (c.withData m).os = c.os := rfl
@[simp] theorem with_data_log : (c.withData m).log = c.log := rfl
@[simp] theorem with_data_p : (c.withData m).p = { c.p with data := m } := rfl
@[simp] theorem with_data_self : c.withData c.p.data = c := rfl
@[simp] theorem with_data_name : (c.withData m).name cfg = c.name cfg := rfl
@[simp] theorem with_data_emit (e : SyncEvent) :
    (c.withData m).emit e = (c.emit e).withData m := rfl
@[simp] theorem with_data_setState (s : AfsState) :
    (c.withData m).setState s = (c.setState s).withData m := rfl
@[simp] theorem with_data_setSize (n : ℕ) :
    (c.withData m).setSize n = (c.setSize n).withData m := rfl
@[simp] theorem with_data_setNamelen (n : ℕ) :
    (c.withData m).setNamelen n = (c.setNamelen n).withData m := rfl
@[simp] theorem with_data_setUnion (u : AfsUnion) :
    (c.withData m).setUnion u = (c.setUnion u).withData m := rfl
@[simp] theorem with_data_setBuff (b : Mem) :
    (c.withData m).setBuff b = (c.setBuff b).withData m := rfl
@[simp] theorem with_data_skip (n : ℕ) : (c.withData m).skip n = (c.skip n).withData m := rfl
@[simp] theorem with_data_advance (n : ℕ) :
    (c.withData m).advance n = (c.advance n).withData m := rfl
@[simp] theorem with_data_put (o : ℕ) (bs : List UInt8) : (c.withData m).put o bs =
    (c.put o bs).withData (store m (c.p.writeLen+o) bs) := rfl

@[simp] theorem sys_stat_with_data (path : List UInt8) : sysStat fs (c.withData m) path =
    ((sysStat fs c path).1, (sysStat fs c path).2.withData m) := rfl
@[simp] theorem sys_lstat_with_data (path : List UInt8) : sysLstat fs (c.withData m) path =
    ((sysLstat fs c path).1, (sysLstat fs c path).2.withData m) := rfl
@[simp] theorem sys_unlink_with_data (path : List UInt8) : sysUnlink fs (c.withData m) path =
    (sysUnlink fs c path).withData m := rfl
@[simp] theorem sys_mkdir_with_data (path : List UInt8) (mode : ℕ) :
    sysMkdir fs (c.withData m) path mode =
      ((sysMkdir fs c path mode).1, (sysMkdir fs c path mode).2.withData m) := rfl
@[simp] theorem sys_open_with_data (path : List UInt8) (mode : OpenMode) :
    sysOpen fs (c.withData m) path mode =
      ((sysOpen fs c path mode).1, (sysOpen fs c path mode).2.withData m) := rfl
@[simp] theorem sys_read_with_data (fd : ℤ) (n : ℕ) : sysRead fs (c.withData m) fd n =
    ((sysRead fs c fd n).1, (sysRead fs c fd n).2.withData m) := rfl
@[simp] theorem sys_write_with_data (fd : ℤ) (bs : List UInt8) :
    sysWrite fs (c.withData m) fd bs =
      ((sysWrite fs c fd bs).1, (sysWrite fs c fd bs).2.withData m) := rfl
@[simp] theorem sys_close_with_data (fd : ℤ) : sysClose fs (c.withData m) fd =
    (sysClose fs c fd).withData m := rfl
@[simp] theorem sys_opendir_with_data (path : List UInt8) : sysOpendir fs (c.withData m) path =
    ((sysOpendir fs c path).1, (sysOpendir fs c path).2.withData m) := rfl
@[simp] theorem sys_readdir_with_data (d : ℕ) : sysReaddir fs (c.withData m) d =
    ((sysReaddir fs c d).1, (sysReaddir fs c d).2.withData m) := rfl
@[simp] theorem sys_closedir_with_data (d : ℕ) : sysClosedir fs (c.withData m) d =
    (sysClosedir fs c d).withData m := rfl
@[simp] theorem sys_malloc_with_data (n : ℕ) : sysMalloc fs (c.withData m) n =
    ((sysMalloc fs c n).1, (sysMalloc fs c n).2.withData m) := rfl
@[simp] theorem sys_free_with_data (b : ℕ) : sysFree fs (c.withData m) b =
    (sysFree fs c b).withData m := rfl
@[simp] theorem sys_symlink_with_data (target path : List UInt8) :
    sysSymlink fs (c.withData m) target path =
      ((sysSymlink fs c target path).1, (sysSymlink fs c target path).2.withData m) := rfl

end

/-- The two contexts differ in the payload at most. -/
structure SameCtx (c d : SyncCtx ω) : Prop where
  svc : d.svc = c.svc
  os : d.os = c.os
  log : d.log = c.log
  writeLen : d.p.writeLen = c.p.writeLen
  msg : d.p.msg = c.p.msg

def SameRun {α : Type} (r r' : α × SyncCtx ω) : Prop := r'.1 = r.1 ∧ SameCtx r.2 r'.2

theorem same_ctx_with_data (c : SyncCtx ω) (m : Mem) : SameCtx c (c.withData m) :=
  ⟨rfl,rfl,rfl,rfl,rfl⟩

theorem with_data_of_same (c d : SyncCtx ω) (h : SameCtx c d) : d = c.withData d.p.data := by
  obtain ⟨h1,h2,h3,h4,h5⟩ := h
  obtain ⟨csvc,⟨cw,cm,cd⟩,cos,clog⟩ := c
  obtain ⟨dsvc,⟨dw,dm,dd⟩,dos,dlog⟩ := d
  simp only [SyncCtx.withData] at *
  subst h1 h2 h3 h4 h5
  rfl

theorem same_run_ite {p q : Prop} [Decidable p] [Decidable q] {α : Type}
    {a b a' b' : α × SyncCtx ω} (h : p ↔ q) (ht : p → SameRun a a') (he : ¬p → SameRun b b') :
    SameRun (if p then a else b) (if q then a' else b') := by
  by_cases hp : p
  · rw [if_pos hp, if_pos (h.mp hp)]
    exact ht hp
  · rw [if_neg hp, if_neg (fun hq => hp (h.mpr hq))]
    exact he hp

theorem state_init_stat_blind (c : SyncCtx ω) (m : Mem) :
    SameRun (stateInitStat cfg fs c) (stateInitStat cfg fs (c.withData m)) := by
  unfold stateInitStat
  simp only [with_data_name, sys_stat_with_data]
  split <;> exact ⟨rfl,rfl,rfl,rfl,rfl,rfl⟩

theorem stat_entry_blind (c : SyncCtx ω) (m : Mem) (name : List UInt8) :
    SameCtx (statEntry cfg fs c name) (statEntry cfg fs (c.withData m) name) := by
  unfold statEntry
  by_cases hlong : (cfg.pathMax : ℤ)-c.svc.u.filePtr ≤ name.length
  · have hlong' : (cfg.pathMax : ℤ)-(c.withData m).svc.u.filePtr ≤ name.length := hlong
    dsimp only
    rw [if_pos hlong, if_pos hlong']
    exact ⟨rfl,rfl,rfl,rfl,rfl⟩
  · have hlong' : ¬(cfg.pathMax : ℤ)-(c.withData m).svc.u.filePtr ≤ name.length := hlong
    dsimp only
    rw [if_neg hlong, if_neg hlong']
    simp only [with_data_svc, with_data_emit, with_data_setUnion, sys_lstat_with_data]
    split <;> exact ⟨rfl,rfl,rfl,rfl,rfl⟩

theorem prepare_fail_message_same (c d : SyncCtx ω) (r : List UInt8) (h : SameCtx c d) :
    SameCtx (prepareFailMessage cfg c r) (prepareFailMessage cfg d r) := by
  rw [with_data_of_same c d h]
  exact ⟨rfl,rfl,rfl,rfl,rfl⟩

theorem prepare_fail_errno_same (c d : SyncCtx ω) (h : SameCtx c d) :
    SameCtx (prepareFailErrno cfg fs c) (prepareFailErrno cfg fs d) := by
  rw [with_data_of_same c d h]
  exact ⟨rfl,rfl,rfl,rfl,rfl⟩

theorem put_dent_same (c d : SyncCtx ω) (name : List UInt8) (h : SameCtx c d) :
    SameCtx (putDent cfg c name) (putDent cfg d name) := by
  rw [with_data_of_same c d h]
  exact ⟨rfl,rfl,rfl,rfl,rfl⟩

theorem state_process_list_blind (c : SyncCtx ω) (m : Mem) :
    SameRun (stateProcessList cfg fs c) (stateProcessList cfg fs (c.withData m)) := by
  unfold stateProcessList
  simp only [with_data_svc, sys_readdir_with_data]
  split
  · exact ⟨rfl,rfl,rfl,rfl,rfl,rfl⟩
  · rename_i name _
    exact ⟨rfl,put_dent_same cfg _ _ name
      (stat_entry_blind cfg fs (sysReaddir fs c c.svc.u.d).2 m name)⟩

theorem state_init_list_blind (c : SyncCtx ω) (m : Mem) :
    SameRun (stateInitList cfg fs c) (stateInitList cfg fs (c.withData m)) := by
  refine same_run_ite Iff.rfl (fun _ => ⟨rfl,rfl,rfl,rfl,rfl,rfl⟩) (fun _ => ?_)
  simp only [with_data_name, sys_malloc_with_data, with_data_setUnion, sys_opendir_with_data,
    with_data_setState]
  split
  · exact ⟨rfl,rfl,rfl,rfl,rfl,rfl⟩
  · split
    · exact ⟨rfl,rfl,rfl,rfl,rfl,rfl⟩
    · exact state_process_list_blind cfg fs _ m

theorem state_process_recv_blind (c : SyncCtx ω) (m : Mem) :
    SameRun (stateProcessRecv cfg fs c) (stateProcessRecv cfg fs (c.withData m)) := by
  unfold stateProcessRecv
  simp only [with_data_svc, with_data_p, with_data_emit, sys_read_with_data]
  split
  · exact ⟨rfl,rfl,rfl,rfl,rfl,rfl⟩
  · split <;> exact ⟨rfl,rfl,rfl,rfl,rfl,rfl⟩

theorem state_init_recv_blind (c : SyncCtx ω) (m : Mem) :
    SameRun (stateInitRecv cfg fs c) (stateInitRecv cfg fs (c.withData m)) := by
  refine same_run_ite Iff.rfl (fun _ => ⟨rfl,rfl,rfl,rfl,rfl,rfl⟩) (fun _ => ?_)
  exact state_process_recv_blind cfg fs _ m

theorem create_path_loop_blind (n : ℕ) (c : SyncCtx ω) (x : ℕ) (m : Mem) :
    SameRun (createPathLoop cfg fs n c x) (createPathLoop cfg fs n (c.withData m) x) := by
  induction n generalizing c x with
  | zero => exact ⟨rfl,rfl,rfl,rfl,rfl,rfl⟩
  | succ n ih =>
    simp only [createPathLoop, with_data_svc]
    split
    · exact ⟨rfl,rfl,rfl,rfl,rfl,rfl⟩
    · exact same_run_ite Iff.rfl (fun _ => ⟨rfl,rfl,rfl,rfl,rfl,rfl⟩) (fun _ => ih _ _)

theorem create_path_directories_blind (c : SyncCtx ω) (m : Mem) :
    SameRun (createPathDirectories cfg fs c) (createPathDirectories cfg fs (c.withData m)) :=
  same_run_ite Iff.rfl (fun _ => ⟨rfl,rfl,rfl,rfl,rfl,rfl⟩)
    (fun _ => create_path_loop_blind cfg fs _ c 0 m)

theorem state_init_send_path_blind (c : SyncCtx ω) (mode : ℕ) (isLink : Bool) (m : Mem) :
    SameRun (stateInitSendPath cfg fs c mode isLink)
      (stateInitSendPath cfg fs (c.withData m) mode isLink) := by
  have hlink (d : SyncCtx ω) (m : Mem) :
      SameRun (stateInitSendLink cfg fs d) (stateInitSendLink cfg fs (d.withData m)) := by
    refine same_run_ite Iff.rfl (fun _ => ⟨rfl,rfl,rfl,rfl,rfl,rfl⟩) (fun _ => ?_)
    simp only [with_data_name, sys_malloc_with_data]
    split <;> exact ⟨rfl,rfl,rfl,rfl,rfl,rfl⟩
  have hfile (d : SyncCtx ω) (m : Mem) : SameRun (stateInitSendFile cfg fs d mode)
      (stateInitSendFile cfg fs (d.withData m) mode) :=
    same_run_ite Iff.rfl (fun _ => ⟨rfl,rfl,rfl,rfl,rfl,rfl⟩) (fun _ => ⟨rfl,rfl,rfl,rfl,rfl,rfl⟩)
  obtain ⟨hret,hctx⟩ := create_path_directories_blind cfg fs (sysUnlink fs c (c.name cfg)) m
  refine same_run_ite (not_congr (by rw [← hret]; rfl)) (fun _ => ⟨rfl,?_⟩) (fun _ => ?_)
  · exact prepare_fail_errno_same cfg fs _ _ hctx
  · have hd := with_data_of_same _ _ hctx
    split
    · exact hd ▸ hlink _ _
    · exact hd ▸ hfile _ _

theorem state_init_send_blind (c : SyncCtx ω) (m : Mem) :
    SameRun (stateInitSend cfg fs c) (stateInitSend cfg fs (c.withData m)) := by
  unfold stateInitSend
  rw [with_data_svc]
  split
  · exact state_init_send_path_blind cfg fs _ _ _ m
  · exact state_init_send_path_blind cfg fs c _ _ m

theorem request_name_blind (c : SyncCtx ω) (m : Mem) :
    SameRun (requestName cfg fs c) (requestName cfg fs (c.withData m)) := by
  have hinit (d : SyncCtx ω) : SameRun (stateInit cfg fs d) (stateInit cfg fs (d.withData m)) := by
    unfold stateInit
    rw [with_data_svc]
    split_ifs
    · exact state_init_stat_blind cfg fs _ m
    · exact state_init_list_blind cfg fs _ m
    · exact state_init_send_blind cfg fs _ m
    · exact state_init_recv_blind cfg fs _ m
    · exact ⟨rfl,rfl,rfl,rfl,rfl,rfl⟩
    · exact ⟨rfl,rfl,rfl,rfl,rfl,rfl⟩
  exact same_run_ite Iff.rfl (fun _ => ⟨rfl,rfl,rfl,rfl,rfl,rfl⟩) (fun _ => hinit _)

/-! The readers. -/

/-- The unread part of the packet is the same in m. -/
def SyncCtx.Unread (c : SyncCtx ω) (m : Mem) : Prop :=
  ∀ i, c.svc.packetPtr ≤ i → i < c.svc.packetPtr+c.p.msg.dataLength → m i = c.p.data i

theorem peek_with_data (c : SyncCtx ω) (m : Mem) (n : ℕ) (h : c.Unread m)
    (hn : n ≤ c.p.msg.dataLength) : (c.withData m).peek n = c.peek n :=
  slice_congr _ _ _ _ (fun i hi hlt => h i hi (by simp only [with_data_svc] at hlt; omega))

theorem gather_with_data (c : SyncCtx ω) (m : Mem) (n : ℕ) (h : c.Unread m)
    (hn : n ≤ c.p.msg.dataLength) : (c.withData m).gather n = (c.gather n).withData m := by
  unfold SyncCtx.gather
  rw [peek_with_data c m n h hn]
  rfl

theorem after_read_blind (c : SyncCtx ω) (m : Mem) (n : ℕ)
    (fail next : SyncCtx ω → ℤ × SyncCtx ω) (h : c.Unread m)
    (hfail : ∀ d, SameRun (fail d) (fail (d.withData m)))
    (hnext : ∀ d, SameRun (next d) (next (d.withData m))) :
    SameRun (afterRead (readFromPacket cfg c n) fail next)
      (afterRead (readFromPacket cfg (c.withData m) n) fail next) := by
  rcases after_read_cases cfg c n fail next with ⟨hb,hr⟩ | ⟨h1,h2,h3,hr⟩ | ⟨h1,h2,h3,hr⟩ <;>
    rcases after_read_cases cfg (c.withData m) n fail next with
      ⟨hb',hr'⟩ | ⟨h1',h2',h3',hr'⟩ | ⟨h1',h2',h3',hr'⟩ <;>
    simp only [with_data_svc, with_data_p] at *
  all_goals try omega
  · rw [hr, hr']
    exact hfail _
  · have hg : (c.withData m).complete n = (c.complete n).withData m := by
      unfold SyncCtx.complete
      rw [with_data_svc, gather_with_data c m _ h h3]
      rfl
    rw [hr, hr', hg]
    exact hnext _
  · have hg : (c.withData m).short = c.short.withData m := by
      unfold SyncCtx.short
      rw [with_data_svc, with_data_p, gather_with_data c m _ h le_rfl]
      rfl
    rw [hr, hr', hg]
    exact ⟨rfl,same_ctx_with_data _ _⟩

theorem write_retry_blind (fd : ℤ) (bs : List UInt8) (k : ℕ) (c : SyncCtx ω) (m : Mem) :
    SameRun (writeRetry fs fd bs k c) (writeRetry fs fd bs k (c.withData m)) := by
  induction k generalizing c with
  | zero => exact ⟨rfl,rfl,rfl,rfl,rfl,rfl⟩
  | succ k ih =>
    exact same_run_ite Iff.rfl (fun _ => ih _) (fun _ => ⟨rfl,rfl,rfl,rfl,rfl,rfl⟩)

theorem write_loop_blind (fd : ℤ) (n : ℕ) (c : SyncCtx ω) (bs : List UInt8) (m : Mem) :
    SameRun (writeLoop fs fd n c bs) (writeLoop fs fd n (c.withData m) bs) := by
  induction n generalizing c bs m with
  | zero => exact ⟨rfl,rfl,rfl,rfl,rfl,rfl⟩
  | succ n ih =>
    obtain ⟨hret,hctx⟩ := write_retry_blind fs fd bs (fs.interrupts c.os) c m
    rw [writeLoop, writeLoop]
    dsimp only [with_data_os]
    rw [hret, with_data_of_same _ _ hctx]
    refine same_run_ite Iff.rfl (fun _ => ⟨rfl,rfl,rfl,rfl,rfl,rfl⟩) (fun _ => ?_)
    exact same_run_ite Iff.rfl (fun _ => ih _ _ _) (fun _ => ⟨rfl,rfl,rfl,rfl,rfl,rfl⟩)

theorem write_block_blind (c : SyncCtx ω) (block : List UInt8) (m : Mem) :
    SameRun (writeBlock fs c block) (writeBlock fs (c.withData m) block) :=
  same_run_ite Iff.rfl (fun _ => write_loop_blind fs _ _ c block m)
    (fun _ => ⟨rfl,rfl,rfl,rfl,rfl,rfl⟩)

theorem state_process_send_file_blind (c : SyncCtx ω) (m : Mem) (h : c.Unread m) :
    SameRun (stateProcessSendFile cfg fs c) (stateProcessSendFile cfg fs (c.withData m)) := by
  have hafter (r r' : Bool × SyncCtx ω) (hr : SameRun r r') :
      SameRun (if r.1 then
          (1, if r.2.svc.namelen = 0 then r.2.setState r.2.svc.state.pred else r.2)
        else ((0 : ℤ), prepareFailMessage cfg r.2 (ascii "write error")))
        (if r'.1 then
          (1, if r'.2.svc.namelen = 0 then r'.2.setState r'.2.svc.state.pred else r'.2)
        else ((0 : ℤ), prepareFailMessage cfg r'.2 (ascii "write error"))) := by
    obtain ⟨b,d⟩ := r
    obtain ⟨b',d'⟩ := r'
    obtain ⟨hb,hctx⟩ := hr
    refine same_run_ite (by simp only at hb; rw [hb]) (fun _ => ⟨rfl,?_⟩)
      (fun _ => ⟨rfl,prepare_fail_message_same cfg _ _ _ hctx⟩)
    simp only at hctx ⊢
    by_cases h0 : d.svc.namelen = 0
    · rw [if_pos h0, if_pos (by rw [hctx.svc]; exact h0)]
      exact ⟨by simp [hctx.svc],hctx.os,hctx.log,hctx.writeLen,hctx.msg⟩
    · rw [if_neg h0, if_neg (by rw [hctx.svc]; exact h0)]
      exact hctx
  have hblock : SameRun (writeBlock fs c.takeBlock (c.peek c.blockSize))
      (writeBlock fs (c.takeBlock.withData m) ((c.withData m).peek c.blockSize)) := by
    rw [peek_with_data c m c.blockSize h (Nat.min_le_left _ _)]
    exact write_block_blind fs c.takeBlock _ m
  exact hafter _ _ hblock

theorem state_process_blind (c : SyncCtx ω) (m : Mem) (h : c.Unread m) :
    SameRun (stateProcess cfg fs c) (stateProcess cfg fs (c.withData m)) := by
  have hheader (d : SyncCtx ω) : SameRun (sendHeader cfg d) (sendHeader cfg (d.withData m)) := by
    unfold sendHeader
    rw [with_data_svc]
    split_ifs <;> exact ⟨rfl,rfl,rfl,rfl,rfl,rfl⟩
  have htarget (d : SyncCtx ω) :
      SameRun (sendSymTarget cfg fs d) (sendSymTarget cfg fs (d.withData m)) := by
    refine same_run_ite Iff.rfl (fun _ => ⟨rfl,prepare_fail_message_same cfg _ _ _
      (same_ctx_with_data d m)⟩) (fun _ => ?_)
    refine same_run_ite Iff.rfl (fun _ => ⟨rfl,?_⟩) (fun _ => ⟨rfl,rfl,rfl,rfl,rfl,rfl⟩)
    exact prepare_fail_message_same cfg _ _ _ ⟨rfl,rfl,rfl,rfl,rfl⟩
  unfold stateProcess
  rw [with_data_svc]
  split
  · refine after_read_blind cfg _ m _ _ _ h (fun _ => ⟨rfl,rfl,rfl,rfl,rfl,rfl⟩) (fun d => ?_)
    unfold requestHeader
    rw [with_data_svc]
    split_ifs <;> exact ⟨rfl,rfl,rfl,rfl,rfl,rfl⟩
  · exact after_read_blind cfg c m _ _ _ h (fun _ => ⟨rfl,rfl,rfl,rfl,rfl,rfl⟩)
      (fun d => request_name_blind cfg fs d m)
  · exact after_read_blind cfg c m _ _ _ h (fun _ => ⟨rfl,rfl,rfl,rfl,rfl,rfl⟩) hheader
  · exact after_read_blind cfg c m _ _ _ h (fun _ => ⟨rfl,rfl,rfl,rfl,rfl,rfl⟩) hheader
  · exact state_process_send_file_blind cfg fs c m h
  · split
    · exact after_read_blind cfg c m _ _ _ h (fun _ => ⟨rfl,rfl,rfl,rfl,rfl,rfl⟩) htarget
    · exact ⟨rfl,rfl,rfl,rfl,rfl,rfl⟩
  · exact ⟨rfl,rfl,rfl,rfl,rfl,rfl⟩
  · exact ⟨rfl,rfl,rfl,rfl,rfl,rfl⟩

theorem state_reset_blind (c : SyncCtx ω) (m : Mem) :
    stateReset fs (c.withData m) = (stateReset fs c).withData m := by
  unfold stateReset
  rw [with_data_svc]
  cases c.svc.state <;> rfl

/-- What an iteration does depends on the unread part of the packet only. -/
theorem sync_iter_blind (c : SyncCtx ω) (m : Mem) (h : c.Unread m) :
    SameRun (syncIter cfg fs c) (syncIter cfg fs (c.withData m)) := by
  obtain ⟨hret,hctx⟩ := state_process_blind cfg fs c m h
  have hd := with_data_of_same _ _ hctx
  unfold syncIter
  dsimp only
  rw [hret]
  split
  · rw [hd, state_reset_blind]
    exact ⟨rfl,same_ctx_with_data _ _⟩
  · exact ⟨rfl,hctx⟩

end MicroADB
