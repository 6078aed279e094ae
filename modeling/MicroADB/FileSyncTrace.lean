import MicroADB.FileSyncRun

/-! The service never reads its trace: a callback appends the same calls to any trace. -/
namespace MicroADB
open ByteMemory

variable {ω : Type} (cfg : Config) (fs : FileSystem ω) (l : List SyncEvent)

/-- The same context behind an earlier trace. -/
def SyncCtx.behind (c : SyncCtx ω) : SyncCtx ω := { c with log := l ++ c.log }

/-- What a handler returns, behind an earlier trace. -/
def behindOf {α : Type} (r : α × SyncCtx ω) : α × SyncCtx ω := (r.1, r.2.behind l)

@[simp] theorem behind_of_mk {α : Type} (x : α) (c : SyncCtx ω) :
    behindOf l (x,c) = (x,c.behind l) := rfl

@[simp] theorem behind_of_fst {α : Type} (r : α × SyncCtx ω) : (behindOf l r).1 = r.1 := rfl

@[simp] theorem behind_of_snd {α : Type} (r : α × SyncCtx ω) :
    (behindOf l r).2 = r.2.behind l := rfl

@[simp] theorem behind_of_ite {α : Type} (p : Prop) [Decidable p] (r s : α × SyncCtx ω) :
    behindOf l (if p then r else s) = if p then behindOf l r else behindOf l s :=
  apply_ite (behindOf l) p r s

namespace SyncCtx
variable (c : SyncCtx ω)

@[simp] theorem behind_svc : (c.behind l).svc = c.svc := rfl
@[simp] theorem behind_p : (c.behind l).p = c.p := rfl
@[simp] theorem behind_os : (c.behind l).os = c.os := rfl
@[simp] theorem behind_log : (c.behind l).log = l ++ c.log := rfl
@[simp] theorem behind_name : (c.behind l).name cfg = c.name cfg := rfl
@[simp] theorem behind_peek (n : ℕ) : (c.behind l).peek n = c.peek n := rfl
@[simp] theorem behind_set_state (s : AfsState) :
    (c.behind l).setState s = (c.setState s).behind l := rfl
@[simp] theorem behind_set_size (n : ℕ) : (c.behind l).setSize n = (c.setSize n).behind l := rfl
@[simp] theorem behind_set_namelen (n : ℕ) :
    (c.behind l).setNamelen n = (c.setNamelen n).behind l := rfl
@[simp] theorem behind_set_union (u : AfsUnion) :
    (c.behind l).setUnion u = (c.setUnion u).behind l := rfl
@[simp] theorem behind_set_buff (m : Mem) : (c.behind l).setBuff m = (c.setBuff m).behind l := rfl
@[simp] theorem behind_skip (n : ℕ) : (c.behind l).skip n = (c.skip n).behind l := rfl
@[simp] theorem behind_gather (n : ℕ) : (c.behind l).gather n = (c.gather n).behind l := rfl
@[simp] theorem behind_put (o : ℕ) (bs : List UInt8) :
    (c.behind l).put o bs = (c.put o bs).behind l := rfl
@[simp] theorem behind_advance (n : ℕ) : (c.behind l).advance n = (c.advance n).behind l := rfl
@[simp] theorem behind_rewind : (c.behind l).rewind = c.rewind.behind l := rfl

@[simp] theorem behind_emit (e : SyncEvent) : (c.behind l).emit e = (c.emit e).behind l := by
  simp only [emit, behind, List.append_assoc]

end SyncCtx

/-! The system calls. -/
section
variable (c : SyncCtx ω)

@[simp] theorem behind_stat (path : List UInt8) :
    sysStat fs (c.behind l) path = behindOf l (sysStat fs c path) :=
  congrArg (Prod.mk _) (SyncCtx.behind_emit l { c with os := _ } _)

@[simp] theorem behind_lstat (path : List UInt8) :
    sysLstat fs (c.behind l) path = behindOf l (sysLstat fs c path) :=
  congrArg (Prod.mk _) (SyncCtx.behind_emit l { c with os := _ } _)

@[simp] theorem behind_unlink (path : List UInt8) :
    sysUnlink fs (c.behind l) path = (sysUnlink fs c path).behind l :=
  SyncCtx.behind_emit l { c with os := _ } _

@[simp] theorem behind_mkdir (path : List UInt8) (mode : ℕ) :
    sysMkdir fs (c.behind l) path mode = behindOf l (sysMkdir fs c path mode) :=
  congrArg (Prod.mk _) (SyncCtx.behind_emit l { c with os := _ } _)

@[simp] theorem behind_open (path : List UInt8) (mode : OpenMode) :
    sysOpen fs (c.behind l) path mode = behindOf l (sysOpen fs c path mode) :=
  congrArg (Prod.mk _) (SyncCtx.behind_emit l { c with os := _ } _)

@[simp] theorem behind_read (fd : ℤ) (n : ℕ) :
    sysRead fs (c.behind l) fd n = behindOf l (sysRead fs c fd n) :=
  congrArg (Prod.mk _) (SyncCtx.behind_emit l { c with os := _ } _)

@[simp] theorem behind_write (fd : ℤ) (bs : List UInt8) :
    sysWrite fs (c.behind l) fd bs = behindOf l (sysWrite fs c fd bs) :=
  congrArg (Prod.mk _) (SyncCtx.behind_emit l { c with os := _ } _)

@[simp] theorem behind_close (fd : ℤ) : sysClose fs (c.behind l) fd = (sysClose fs c fd).behind l :=
  SyncCtx.behind_emit l { c with os := _ } _

@[simp] theorem behind_opendir (path : List UInt8) :
    sysOpendir fs (c.behind l) path = behindOf l (sysOpendir fs c path) :=
  congrArg (Prod.mk _) (SyncCtx.behind_emit l { c with os := _ } _)

@[simp] theorem behind_readdir (d : ℕ) :
    sysReaddir fs (c.behind l) d = behindOf l (sysReaddir fs c d) :=
  congrArg (Prod.mk _) (SyncCtx.behind_emit l { c with os := _ } _)

@[simp] theorem behind_closedir (d : ℕ) :
    sysClosedir fs (c.behind l) d = (sysClosedir fs c d).behind l :=
  SyncCtx.behind_emit l { c with os := _ } _

@[simp] theorem behind_malloc (n : ℕ) :
    sysMalloc fs (c.behind l) n = behindOf l (sysMalloc fs c n) :=
  congrArg (Prod.mk _) (SyncCtx.behind_emit l { c with os := _ } _)

@[simp] theorem behind_free (b : ℕ) : sysFree fs (c.behind l) b = (sysFree fs c b).behind l :=
  SyncCtx.behind_emit l { c with os := _ } _

@[simp] theorem behind_symlink (target path : List UInt8) :
    sysSymlink fs (c.behind l) target path = behindOf l (sysSymlink fs c target path) :=
  congrArg (Prod.mk _) (SyncCtx.behind_emit l { c with os := _ } _)

end

/-! The handlers. -/

@[simp] theorem behind_fail_message (c : SyncCtx ω) (reason : List UInt8) :
    prepareFailMessage cfg (c.behind l) reason = (prepareFailMessage cfg c reason).behind l := by
  simp [prepareFailMessage]

@[simp] theorem behind_fail_errno (c : SyncCtx ω) :
    prepareFailErrno cfg fs (c.behind l) = (prepareFailErrno cfg fs c).behind l :=
  behind_fail_message cfg l c _

@[simp] theorem behind_read_from_packet (c : SyncCtx ω) (n : ℕ) :
    readFromPacket cfg (c.behind l) n = behindOf l (readFromPacket cfg c n) := by
  unfold readFromPacket
  rw [behind_of_ite]
  dsimp only
  rw [behind_of_ite]
  rfl

/-- A handler that does not read the trace. -/
def Traced (f : SyncCtx ω → ℤ × SyncCtx ω) : Prop := ∀ l c, f (c.behind l) = behindOf l (f c)

theorem behind_after_read (c : SyncCtx ω) (n : ℕ) {fail next : SyncCtx ω → ℤ × SyncCtx ω}
    (hfail : Traced fail) (hnext : Traced next) :
    afterRead (readFromPacket cfg (c.behind l) n) fail next =
      behindOf l (afterRead (readFromPacket cfg c n) fail next) := by
  simp [afterRead, hfail l, hnext l]

@[simp] theorem behind_create_path_loop (n : ℕ) (c : SyncCtx ω) (x : ℕ) :
    createPathLoop cfg fs n (c.behind l) x = behindOf l (createPathLoop cfg fs n c x) := by
  induction n generalizing c x with
  | zero => rfl
  | succ n ih =>
    rw [createPathLoop, createPathLoop, SyncCtx.behind_svc]
    split
    · rfl
    · simp only [SyncCtx.behind_set_buff, SyncCtx.behind_name, behind_mkdir, behind_of_fst,
        behind_of_snd, SyncCtx.behind_svc, SyncCtx.behind_os, ih, behind_of_ite]
      rfl

@[simp] theorem behind_create_path (c : SyncCtx ω) :
    createPathDirectories cfg fs (c.behind l) = behindOf l (createPathDirectories cfg fs c) := by
  simp [createPathDirectories]

@[simp] theorem behind_state_reset (c : SyncCtx ω) :
    stateReset fs (c.behind l) = (stateReset fs c).behind l := by
  unfold stateReset
  rw [SyncCtx.behind_svc]
  cases c.svc.state <;> simp

theorem traced_init_stat : Traced (stateInitStat cfg fs) := by
  intro l c
  unfold stateInitStat
  simp only [SyncCtx.behind_name, behind_stat, behind_of_fst, behind_of_snd]
  split <;> simp

@[simp] theorem behind_stat_entry (c : SyncCtx ω) (name : List UInt8) :
    statEntry cfg fs (c.behind l) name = (statEntry cfg fs c name).behind l := by
  unfold statEntry
  simp only [SyncCtx.behind_svc, SyncCtx.behind_emit, SyncCtx.behind_set_union, behind_lstat,
    behind_of_fst, behind_of_snd]
  split
  · simp
  · split <;> simp

@[simp] theorem behind_put_dent (c : SyncCtx ω) (name : List UInt8) :
    putDent cfg (c.behind l) name = (putDent cfg c name).behind l := by
  unfold putDent
  dsimp only
  rw [SyncCtx.behind_p, SyncCtx.behind_emit, SyncCtx.behind_put, SyncCtx.behind_put,
    SyncCtx.behind_put, SyncCtx.behind_advance]

@[simp] theorem behind_put_done (c : SyncCtx ω) :
    putListDone (c.behind l) = (putListDone c).behind l := by
  simp [putListDone]

theorem traced_process_list : Traced (stateProcessList cfg fs) := by
  intro l c
  unfold stateProcessList
  simp only [SyncCtx.behind_svc, behind_readdir, behind_of_fst, behind_of_snd]
  split <;> simp

theorem traced_init_list : Traced (stateInitList cfg fs) := by
  intro l c
  unfold stateInitList
  simp only [SyncCtx.behind_name, behind_malloc, behind_of_fst, behind_of_snd]
  split
  · simp
  · split
    · simp
    · simp only [SyncCtx.behind_set_union, behind_opendir, behind_of_fst, behind_of_snd]
      split
      · simp
      · rw [SyncCtx.behind_set_state]
        exact traced_process_list cfg fs l _

theorem behind_init_send_file (c : SyncCtx ω) (mode : ℕ) :
    stateInitSendFile cfg fs (c.behind l) mode = behindOf l (stateInitSendFile cfg fs c mode) := by
  simp [stateInitSendFile]

theorem traced_init_send_link : Traced (stateInitSendLink cfg fs) := by
  intro l c
  unfold stateInitSendLink
  simp only [SyncCtx.behind_name, behind_malloc, behind_of_fst, behind_of_snd]
  split
  · simp
  · split <;> simp

theorem behind_init_send_path (c : SyncCtx ω) (mode : ℕ) (isLink : Bool) :
    stateInitSendPath cfg fs (c.behind l) mode isLink =
      behindOf l (stateInitSendPath cfg fs c mode isLink) := by
  unfold stateInitSendPath
  simp only [SyncCtx.behind_name, behind_unlink, behind_create_path, behind_of_fst, behind_of_snd,
    behind_fail_errno, traced_init_send_link cfg fs l, behind_init_send_file, behind_of_ite,
    behind_of_mk]

theorem traced_init_send : Traced (stateInitSend cfg fs) := by
  intro l c
  unfold stateInitSend
  rw [SyncCtx.behind_svc]
  split
  · dsimp only
    rw [SyncCtx.behind_set_buff]
    exact behind_init_send_path cfg fs l _ _ _
  · exact behind_init_send_path cfg fs l _ _ _

theorem traced_process_recv : Traced (stateProcessRecv cfg fs) := by
  intro l c
  unfold stateProcessRecv
  simp only [SyncCtx.behind_p, SyncCtx.behind_emit, SyncCtx.behind_svc, behind_read, behind_of_fst,
    behind_of_snd]
  split
  · simp
  · split <;> simp

theorem traced_init_recv : Traced (stateInitRecv cfg fs) := by
  intro l c
  unfold stateInitRecv
  simp only [SyncCtx.behind_name, behind_open, behind_of_fst, behind_of_snd, SyncCtx.behind_set_union,
    SyncCtx.behind_set_state, behind_fail_message, traced_process_recv cfg fs l, behind_of_ite,
    behind_of_mk]

theorem traced_init : Traced (stateInit cfg fs) := by
  intro l c
  simp only [stateInit, SyncCtx.behind_svc, traced_init_stat cfg fs l, traced_init_list cfg fs l,
    traced_init_send cfg fs l, traced_init_recv cfg fs l, behind_of_ite, behind_of_mk]
  rfl

theorem traced_request_name : Traced (requestName cfg fs) := by
  intro l c
  simp only [requestName, SyncCtx.behind_svc, SyncCtx.behind_set_buff, SyncCtx.behind_emit,
    traced_init cfg fs l, behind_of_ite, behind_of_mk]

theorem traced_request_header : Traced (requestHeader (ω := ω) cfg) := by
  intro l c
  simp only [requestHeader, SyncCtx.behind_svc, behind_of_ite, behind_of_mk]
  rfl

theorem traced_send_header : Traced (sendHeader (ω := ω) cfg) := by
  intro l c
  unfold sendHeader
  simp [prepareOkayMessage]

theorem traced_read_error : Traced (readError (ω := ω) cfg) := by
  intro l c
  simp [readError]

theorem traced_send_sym_target : Traced (sendSymTarget cfg fs) := by
  intro l c
  simp only [sendSymTarget, SyncCtx.behind_svc, SyncCtx.behind_set_buff, SyncCtx.behind_name,
    behind_symlink, behind_of_fst, behind_of_snd, behind_fail_message, SyncCtx.behind_set_state,
    behind_of_ite, behind_of_mk]

@[simp] theorem behind_write_retry (fd : ℤ) (bs : List UInt8) (k : ℕ) (c : SyncCtx ω) :
    writeRetry fs fd bs k (c.behind l) = behindOf l (writeRetry fs fd bs k c) := by
  induction k generalizing c with
  | zero => exact behind_write fs l c fd bs
  | succ k ih =>
    simp only [writeRetry, behind_write, behind_of_fst, behind_of_snd, SyncCtx.behind_os, ih,
      behind_of_ite]

@[simp] theorem behind_write_loop (fd : ℤ) (n : ℕ) (c : SyncCtx ω) (bs : List UInt8) :
    writeLoop fs fd n (c.behind l) bs = behindOf l (writeLoop fs fd n c bs) := by
  induction n generalizing c bs with
  | zero => rfl
  | succ n ih =>
    simp only [writeLoop, SyncCtx.behind_os, behind_write_retry, behind_of_fst, behind_of_snd, ih,
      behind_of_ite, behind_of_mk]

@[simp] theorem behind_write_block (c : SyncCtx ω) (block : List UInt8) :
    writeBlock fs (c.behind l) block = behindOf l (writeBlock fs c block) := by
  simp [writeBlock]

theorem traced_process_send_file : Traced (stateProcessSendFile cfg fs) := by
  intro l c
  unfold stateProcessSendFile
  simp [apply_ite (SyncCtx.behind l)]

theorem traced_process : Traced (stateProcess cfg fs) := by
  intro l c
  unfold stateProcess
  rw [SyncCtx.behind_svc]
  have hheader := traced_send_header (ω := ω) cfg
  have herror := traced_read_error (ω := ω) cfg
  split
  · unfold stateWaitCmd
    simp only [SyncCtx.behind_svc, SyncCtx.behind_p, SyncCtx.behind_emit]
    exact behind_after_read cfg l _ _ (fun _ _ => rfl) (traced_request_header cfg)
  · exact behind_after_read cfg l _ _ (fun _ _ => rfl) (traced_request_name cfg fs)
  · exact behind_after_read cfg l _ _ herror hheader
  · exact behind_after_read cfg l _ _ herror hheader
  · exact traced_process_send_file cfg fs l c
  · split
    · exact behind_after_read cfg l _ _ herror (traced_send_sym_target cfg fs)
    · rfl
  · rfl
  · rfl

theorem traced_iter : Traced (syncIter cfg fs) := by
  intro l c
  simp only [syncIter, traced_process cfg fs l, behind_of_fst, behind_of_snd, behind_state_reset,
    behind_of_mk, apply_ite (SyncCtx.behind l)]

theorem behind_sync_loop (n : ℕ) (r : ℤ × SyncCtx ω) :
    syncLoop cfg fs n (behindOf l r) = behindOf l (syncLoop cfg fs n r) := by
  induction n generalizing r with
  | zero => rfl
  | succ n ih =>
    simp only [syncLoop, behind_of_fst, behind_of_snd, SyncCtx.behind_p, traced_iter cfg fs l, ih,
      behind_of_ite]

/-- A WRTE appends the same calls to any trace. -/
theorem traced_on_write : Traced (fileSyncOnWrite cfg fs) := by
  intro l c
  have hloop := behind_sync_loop cfg fs l (4*c.p.msg.dataLength) (0,c.rewind)
  exact congrArg (fun r : ℤ × SyncCtx ω => (if 0 ≤ r.1 then 0 else r.1, r.2)) hloop

theorem traced_ack : Traced (stateAck cfg fs) := by
  intro l c
  unfold stateAck
  rw [SyncCtx.behind_svc]
  split
  · exact traced_process_recv cfg fs l c
  · exact traced_process_list cfg fs l c
  all_goals rfl

/-- The same for an OKAY. -/
theorem traced_on_ack : Traced (fileSyncOnAck cfg fs) := by
  intro l c
  simp only [fileSyncOnAck, SyncCtx.behind_rewind, traced_ack cfg fs l, behind_of_fst,
    behind_of_snd, behind_state_reset, behind_of_ite, behind_of_mk]

/-! A service that shares the file system with others, which may change it between the callbacks. -/

inductive SyncHistory : AfsService → List SyncEvent → Prop
  | start (raw : AfsService) : SyncHistory (fileSyncService raw) []
  | call {s : AfsService} {l : List SyncEvent} {c : SyncCtx ω} (h : SyncHistory s l)
    (hcall : SyncCall cfg fs s c) : SyncHistory c.svc (l ++ c.log)
  | close {s : AfsService} {l : List SyncEvent} (h : SyncHistory s l) (p : Apacket) (os : ω) :
    SyncHistory (fileSyncOnClose fs ⟨s,p,os,[]⟩).svc (l ++ (fileSyncOnClose fs ⟨s,p,os,[]⟩).log)

/-- I is an invariant of the callbacks of the service. -/
structure SyncCallbacks (I : AfsService → List SyncEvent → Prop) : Prop where
  write : ∀ c : SyncCtx ω, I c.svc c.log →
    I (fileSyncOnWrite cfg fs c).2.svc (fileSyncOnWrite cfg fs c).2.log
  ack : ∀ c : SyncCtx ω, I c.svc c.log →
    I (fileSyncOnAck cfg fs c).2.svc (fileSyncOnAck cfg fs c).2.log
  close : ∀ c : SyncCtx ω, I c.svc c.log → I (fileSyncOnClose fs c).svc (fileSyncOnClose fs c).log

variable {cfg fs} {I : AfsService → List SyncEvent → Prop}

theorem SyncInvariant.callbacks (h : SyncInvariant cfg fs I) : SyncCallbacks cfg fs I :=
  ⟨h.on_write,h.on_ack,h.reset⟩

/-- What the callbacks keep holds in every history. -/
theorem SyncCallbacks.history (h : SyncCallbacks cfg fs I) (h0 : ∀ raw, I (fileSyncService raw) [])
    {s : AfsService} {l : List SyncEvent} (hs : SyncHistory cfg fs s l) : I s l := by
  induction hs with
  | start raw => exact h0 raw
  | @call s l c _ hcall ih =>
    cases hcall with
    | write p os =>
      have hw := h.write (SyncCtx.behind l ⟨s,p,os,[]⟩) (by simpa using ih)
      rwa [traced_on_write] at hw
    | ack p os =>
      have ha := h.ack (SyncCtx.behind l ⟨s,p,os,[]⟩) (by simpa using ih)
      rwa [traced_on_ack] at ha
  | @close s l _ p os ih =>
    have hc := h.close (SyncCtx.behind l ⟨s,p,os,[]⟩) (by simpa using ih)
    rwa [fileSyncOnClose, behind_state_reset] at hc

end MicroADB
