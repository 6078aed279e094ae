import MicroADB.FileSync

/-! What the handlers of the file sync service do to the parts of their context. -/
namespace MicroADB
open ByteMemory

namespace SyncCtx
variable {ω : Type} (c : SyncCtx ω)

@[simp] theorem emit_svc (e : SyncEvent) : (c.emit e).svc = c.svc := rfl
@[simp] theorem emit_p (e : SyncEvent) : (c.emit e).p = c.p := rfl
@[simp] theorem emit_os (e : SyncEvent) : (c.emit e).os = c.os := rfl
@[simp] theorem emit_log (e : SyncEvent) : (c.emit e).log = c.log ++ [e] := rfl
@[simp] theorem setState_svc (s : AfsState) : (c.setState s).svc = { c.svc with state := s } := rfl
@[simp] theorem setState_p (s : AfsState) : (c.setState s).p = c.p := rfl
@[simp] theorem setState_os (s : AfsState) : (c.setState s).os = c.os := rfl
@[simp] theorem setState_log (s : AfsState) : (c.setState s).log = c.log := rfl
@[simp] theorem setSize_svc (n : ℕ) : (c.setSize n).svc = { c.svc with size := n } := rfl
@[simp] theorem setSize_p (n : ℕ) : (c.setSize n).p = c.p := rfl
@[simp] theorem setSize_os (n : ℕ) : (c.setSize n).os = c.os := rfl
@[simp] theorem setSize_log (n : ℕ) : (c.setSize n).log = c.log := rfl
@[simp] theorem setNamelen_svc (n : ℕ) : (c.setNamelen n).svc = { c.svc with namelen := n } := rfl
@[simp] theorem setNamelen_p (n : ℕ) : (c.setNamelen n).p = c.p := rfl
@[simp] theorem setNamelen_os (n : ℕ) : (c.setNamelen n).os = c.os := rfl
@[simp] theorem setNamelen_log (n : ℕ) : (c.setNamelen n).log = c.log := rfl
@[simp] theorem setUnion_svc (u : AfsUnion) : (c.setUnion u).svc = { c.svc with u := u } := rfl
@[simp] theorem setUnion_p (u : AfsUnion) : (c.setUnion u).p = c.p := rfl
@[simp] theorem setUnion_os (u : AfsUnion) : (c.setUnion u).os = c.os := rfl
@[simp] theorem setUnion_log (u : AfsUnion) : (c.setUnion u).log = c.log := rfl
@[simp] theorem setBuff_svc (m : Mem) : (c.setBuff m).svc = { c.svc with buff := m } := rfl
@[simp] theorem setBuff_p (m : Mem) : (c.setBuff m).p = c.p := rfl
@[simp] theorem setBuff_os (m : Mem) : (c.setBuff m).os = c.os := rfl
@[simp] theorem setBuff_log (m : Mem) : (c.setBuff m).log = c.log := rfl
@[simp] theorem skip_svc (n : ℕ) :
    (c.skip n).svc = { c.svc with packetPtr := c.svc.packetPtr+n } := rfl
@[simp] theorem skip_p (n : ℕ) : (c.skip n).p =
    { c.p with msg := { c.p.msg with dataLength := c.p.msg.dataLength-n } } := rfl
@[simp] theorem skip_os (n : ℕ) : (c.skip n).os = c.os := rfl
@[simp] theorem skip_log (n : ℕ) : (c.skip n).log = c.log := rfl
@[simp] theorem put_svc (o : ℕ) (bs : List UInt8) : (c.put o bs).svc = c.svc := rfl
@[simp] theorem put_p (o : ℕ) (bs : List UInt8) : (c.put o bs).p =
    { c.p with data := store c.p.data (c.p.writeLen+o) bs } := rfl
@[simp] theorem put_os (o : ℕ) (bs : List UInt8) : (c.put o bs).os = c.os := rfl
@[simp] theorem put_log (o : ℕ) (bs : List UInt8) : (c.put o bs).log = c.log := rfl
@[simp] theorem advance_svc (n : ℕ) : (c.advance n).svc = c.svc := rfl
@[simp] theorem advance_p (n : ℕ) : (c.advance n).p =
    { c.p with writeLen := u32 (c.p.writeLen+n) } := rfl
@[simp] theorem advance_os (n : ℕ) : (c.advance n).os = c.os := rfl
@[simp] theorem advance_log (n : ℕ) : (c.advance n).log = c.log := rfl
@[simp] theorem gather_svc (n : ℕ) : (c.gather n).svc = { c.svc with
    packetPtr := c.svc.packetPtr+n, buff := store c.svc.buff c.svc.size (c.peek n) } := rfl
@[simp] theorem gather_p (n : ℕ) : (c.gather n).p =
    { c.p with msg := { c.p.msg with dataLength := c.p.msg.dataLength-n } } := rfl
@[simp] theorem gather_os (n : ℕ) : (c.gather n).os = c.os := rfl
@[simp] theorem gather_log (n : ℕ) : (c.gather n).log = c.log := rfl
@[simp] theorem length_peek (n : ℕ) : (c.peek n).length = n := length_slice _ _ _

end SyncCtx

section
variable {ω : Type} (fs : FileSystem ω) (c : SyncCtx ω)

@[simp] theorem sys_stat_svc (path : List UInt8) : (sysStat fs c path).2.svc = c.svc := rfl
@[simp] theorem sys_stat_p (path : List UInt8) : (sysStat fs c path).2.p = c.p := rfl
@[simp] theorem sys_lstat_svc (path : List UInt8) : (sysLstat fs c path).2.svc = c.svc := rfl
@[simp] theorem sys_lstat_p (path : List UInt8) : (sysLstat fs c path).2.p = c.p := rfl
@[simp] theorem sys_unlink_svc (path : List UInt8) : (sysUnlink fs c path).svc = c.svc := rfl
@[simp] theorem sys_unlink_p (path : List UInt8) : (sysUnlink fs c path).p = c.p := rfl
@[simp] theorem sys_mkdir_svc (path : List UInt8) (mode : ℕ) :
    (sysMkdir fs c path mode).2.svc = c.svc := rfl
@[simp] theorem sys_mkdir_p (path : List UInt8) (mode : ℕ) :
    (sysMkdir fs c path mode).2.p = c.p := rfl
@[simp] theorem sys_open_svc (path : List UInt8) (mode : OpenMode) :
    (sysOpen fs c path mode).2.svc = c.svc := rfl
@[simp] theorem sys_open_p (path : List UInt8) (mode : OpenMode) :
    (sysOpen fs c path mode).2.p = c.p := rfl
@[simp] theorem sys_read_svc (fd : ℤ) (n : ℕ) : (sysRead fs c fd n).2.svc = c.svc := rfl
@[simp] theorem sys_read_p (fd : ℤ) (n : ℕ) : (sysRead fs c fd n).2.p = c.p := rfl
@[simp] theorem sys_write_svc (fd : ℤ) (bs : List UInt8) : (sysWrite fs c fd bs).2.svc = c.svc := rfl
@[simp] theorem sys_write_p (fd : ℤ) (bs : List UInt8) : (sysWrite fs c fd bs).2.p = c.p := rfl
@[simp] theorem sys_close_svc (fd : ℤ) : (sysClose fs c fd).svc = c.svc := rfl
@[simp] theorem sys_close_p (fd : ℤ) : (sysClose fs c fd).p = c.p := rfl
@[simp] theorem sys_opendir_svc (path : List UInt8) : (sysOpendir fs c path).2.svc = c.svc := rfl
@[simp] theorem sys_opendir_p (path : List UInt8) : (sysOpendir fs c path).2.p = c.p := rfl
@[simp] theorem sys_readdir_svc (d : ℕ) : (sysReaddir fs c d).2.svc = c.svc := rfl
@[simp] theorem sys_readdir_p (d : ℕ) : (sysReaddir fs c d).2.p = c.p := rfl
@[simp] theorem sys_closedir_svc (d : ℕ) : (sysClosedir fs c d).svc = c.svc := rfl
@[simp] theorem sys_closedir_p (d : ℕ) : (sysClosedir fs c d).p = c.p := rfl
@[simp] theorem sys_malloc_svc (n : ℕ) : (sysMalloc fs c n).2.svc = c.svc := rfl
@[simp] theorem sys_malloc_p (n : ℕ) : (sysMalloc fs c n).2.p = c.p := rfl
@[simp] theorem sys_free_svc (b : ℕ) : (sysFree fs c b).svc = c.svc := rfl
@[simp] theorem sys_free_p (b : ℕ) : (sysFree fs c b).p = c.p := rfl
@[simp] theorem sys_symlink_svc (target path : List UInt8) :
    (sysSymlink fs c target path).2.svc = c.svc := rfl
@[simp] theorem sys_symlink_p (target path : List UInt8) :
    (sysSymlink fs c target path).2.p = c.p := rfl

@[simp] theorem sys_stat_log (path : List UInt8) : (sysStat fs c path).2.log =
    c.log ++ [.stat path (sysStat fs c path).1.isSome] := rfl
@[simp] theorem sys_lstat_log (path : List UInt8) : (sysLstat fs c path).2.log =
    c.log ++ [.lstat path (sysLstat fs c path).1.isSome] := rfl
@[simp] theorem sys_unlink_log (path : List UInt8) : (sysUnlink fs c path).log =
    c.log ++ [.unlink path] := rfl
@[simp] theorem sys_open_log (path : List UInt8) (mode : OpenMode) :
    (sysOpen fs c path mode).2.log = c.log ++
    [.openFile path mode (sysOpen fs c path mode).1] := rfl
@[simp] theorem sys_read_log (fd : ℤ) (n : ℕ) : (sysRead fs c fd n).2.log =
    c.log ++ [.read fd ((sysRead fs c fd n).1.map List.length)] := rfl
@[simp] theorem sys_close_log (fd : ℤ) : (sysClose fs c fd).log = c.log ++ [.close fd] := rfl
@[simp] theorem sys_opendir_log (path : List UInt8) : (sysOpendir fs c path).2.log =
    c.log ++ [.opendir path (sysOpendir fs c path).1] := rfl
@[simp] theorem sys_readdir_log (d : ℕ) : (sysReaddir fs c d).2.log =
    c.log ++ [.readdir d (sysReaddir fs c d).1] := rfl
@[simp] theorem sys_closedir_log (d : ℕ) : (sysClosedir fs c d).log =
    c.log ++ [.closedir d] := rfl
@[simp] theorem sys_malloc_log (n : ℕ) : (sysMalloc fs c n).2.log =
    c.log ++ [.malloc n ((sysMalloc fs c n).1.map Prod.fst)] := rfl
@[simp] theorem sys_free_log (b : ℕ) : (sysFree fs c b).log = c.log ++ [.free b] := rfl
@[simp] theorem sys_symlink_log (target path : List UInt8) : (sysSymlink fs c target path).2.log =
    c.log ++ [.symlink target path (sysSymlink fs c target path).1] := rfl

end

variable {ω : Type} (cfg : Config) (fs : FileSystem ω)

/-- All that is missing of n bytes has been read. -/
def SyncCtx.complete (c : SyncCtx ω) (n : ℕ) : SyncCtx ω :=
  (c.gather (n-c.svc.size)).setSize 0

/-- The rest of the packet has been read and does not complete what is being read. -/
def SyncCtx.short (c : SyncCtx ω) : SyncCtx ω :=
  (c.gather c.p.msg.dataLength).setSize (c.svc.size+c.p.msg.dataLength)

/-- The three exits of read_from_packet. -/
theorem read_from_packet_cases (c : SyncCtx ω) (n : ℕ) :
    ((n < c.svc.size ∨ cfg.pathMax < n) ∧
      readFromPacket cfg c n = (-(eINVAL : ℤ), c.setSize 0)) ∨
    (c.svc.size ≤ n ∧ n ≤ cfg.pathMax ∧ n-c.svc.size ≤ c.p.msg.dataLength ∧
      readFromPacket cfg c n = (0, c.complete n)) ∨
    (c.svc.size ≤ n ∧ n ≤ cfg.pathMax ∧ c.p.msg.dataLength < n-c.svc.size ∧
      readFromPacket cfg c n = (-(eAGAIN : ℤ), c.short)) := by
  by_cases hbad : n < c.svc.size ∨ cfg.pathMax < n
  · exact Or.inl ⟨hbad, by simp only [readFromPacket, if_pos hbad]⟩
  · right
    have hle : c.svc.size ≤ n ∧ n ≤ cfg.pathMax := by omega
    by_cases hdone : n-c.svc.size ≤ c.p.msg.dataLength
    · refine Or.inl ⟨hle.1,hle.2,hdone,?_⟩
      have hn : c.svc.size+(n-c.svc.size) = n := by omega
      simp only [readFromPacket, if_neg hbad, Nat.min_eq_left hdone]
      rw [if_pos (by simpa using hn)]
      rfl
    · refine Or.inr ⟨hle.1,hle.2,by omega,?_⟩
      have hmin : min (n-c.svc.size) c.p.msg.dataLength = c.p.msg.dataLength :=
        Nat.min_eq_right (by omega)
      simp only [readFromPacket, if_neg hbad, hmin]
      rw [if_neg (by simp; omega)]
      rfl

/-- What a reading handler does on each of the three exits. -/
theorem after_read_cases (c : SyncCtx ω) (n : ℕ) (fail next : SyncCtx ω → ℤ × SyncCtx ω) :
    ((n < c.svc.size ∨ cfg.pathMax < n) ∧
      afterRead (readFromPacket cfg c n) fail next = fail (c.setSize 0)) ∨
    (c.svc.size ≤ n ∧ n ≤ cfg.pathMax ∧ n-c.svc.size ≤ c.p.msg.dataLength ∧
      afterRead (readFromPacket cfg c n) fail next = next (c.complete n)) ∨
    (c.svc.size ≤ n ∧ n ≤ cfg.pathMax ∧ c.p.msg.dataLength < n-c.svc.size ∧
      afterRead (readFromPacket cfg c n) fail next = (1, c.short)) := by
  rcases read_from_packet_cases cfg c n with ⟨hbad,h⟩ | ⟨h1,h2,h3,h⟩ | ⟨h1,h2,h3,h⟩
  · exact Or.inl ⟨hbad,by simp [afterRead, h, eINVAL, eAGAIN]⟩
  · exact Or.inr (Or.inl ⟨h1,h2,h3,by simp [afterRead, h]⟩)
  · exact Or.inr (Or.inr ⟨h1,h2,h3,by simp [afterRead, h, eAGAIN]⟩)

/-! Which parts of the service and of the packet's header the handlers leave alone. -/

@[simp] theorem prepare_fail_message_svc (c : SyncCtx ω) (r : List UInt8) :
    (prepareFailMessage cfg c r).svc = c.svc := rfl

@[simp] theorem prepare_fail_message_msg (c : SyncCtx ω) (r : List UInt8) :
    (prepareFailMessage cfg c r).p.msg = c.p.msg := rfl

@[simp] theorem prepare_fail_message_os (c : SyncCtx ω) (r : List UInt8) :
    (prepareFailMessage cfg c r).os = c.os := rfl

@[simp] theorem prepare_fail_message_log (c : SyncCtx ω) (r : List UInt8) :
    (prepareFailMessage cfg c r).log = c.log ++
    [.room (cfg.payloadSize-sizeofData-c.p.writeLen)] := rfl

@[simp] theorem prepare_fail_errno_log (c : SyncCtx ω) :
    (prepareFailErrno cfg fs c).log = c.log ++
    [.room (cfg.payloadSize-sizeofData-c.p.writeLen)] := rfl

@[simp] theorem prepare_okay_message_log (c : SyncCtx ω) : (prepareOkayMessage c).log = c.log := rfl

@[simp] theorem put_list_done_svc (c : SyncCtx ω) : (putListDone c).svc = c.svc := rfl

@[simp] theorem put_list_done_msg (c : SyncCtx ω) : (putListDone c).p.msg = c.p.msg := rfl

@[simp] theorem put_dent_svc (c : SyncCtx ω) (name : List UInt8) :
    (putDent cfg c name).svc = c.svc := rfl

@[simp] theorem put_dent_msg (c : SyncCtx ω) (name : List UInt8) :
    (putDent cfg c name).p.msg = c.p.msg := rfl

@[simp] theorem put_dent_log (c : SyncCtx ω) (name : List UInt8) : (putDent cfg c name).log =
    c.log ++ [.room (cfg.payloadSize-sizeofDent-c.p.writeLen)] := rfl

@[simp] theorem put_list_done_log (c : SyncCtx ω) : (putListDone c).log = c.log := rfl

@[simp] theorem prepare_fail_errno_svc (c : SyncCtx ω) :
    (prepareFailErrno cfg fs c).svc = c.svc := rfl

@[simp] theorem prepare_fail_errno_msg (c : SyncCtx ω) :
    (prepareFailErrno cfg fs c).p.msg = c.p.msg := rfl

@[simp] theorem prepare_okay_message_svc (c : SyncCtx ω) : (prepareOkayMessage c).svc = c.svc := rfl

@[simp] theorem prepare_okay_message_msg (c : SyncCtx ω) :
    (prepareOkayMessage c).p.msg = c.p.msg := rfl

/-- create_path_directories leaves the string as it was: each slash is put back before
the loop goes on or gives up. -/
theorem create_path_loop_keeps (n : ℕ) (c : SyncCtx ω) (x : ℕ) :
    (createPathLoop cfg fs n c x).2.svc = c.svc ∧ (createPathLoop cfg fs n c x).2.p = c.p := by
  induction n generalizing c x with
  | zero => exact ⟨rfl,rfl⟩
  | succ n ih =>
    rw [createPathLoop]
    split
    · exact ⟨rfl,rfl⟩
    · rename_i y hy
      have hback : store (store c.svc.buff y [0]) y [47] = c.svc.buff :=
        store_restore _ _ _ _ (strchr_bounds _ _ _ _ _ hy).2.2
      dsimp only
      split
      · exact ⟨by simp [hback],rfl⟩
      · exact ⟨(ih _ y).1.trans (by simp [hback]),(ih _ y).2.trans rfl⟩

@[simp] theorem create_path_directories_svc (c : SyncCtx ω) :
    (createPathDirectories cfg fs c).2.svc = c.svc := by
  unfold createPathDirectories
  split
  · rfl
  · exact (create_path_loop_keeps cfg fs _ c 0).1

@[simp] theorem create_path_directories_p (c : SyncCtx ω) :
    (createPathDirectories cfg fs c).2.p = c.p := by
  unfold createPathDirectories
  split
  · rfl
  · exact (create_path_loop_keeps cfg fs _ c 0).2

theorem write_retry_keeps (fd : ℤ) (bs : List UInt8) (k : ℕ) (c : SyncCtx ω) :
    (writeRetry fs fd bs k c).2.svc = c.svc ∧ (writeRetry fs fd bs k c).2.p = c.p := by
  induction k generalizing c with
  | zero => exact ⟨rfl,rfl⟩
  | succ k ih =>
    rw [writeRetry]
    split
    · exact ih _
    · exact ⟨rfl,rfl⟩

theorem write_loop_keeps (fd : ℤ) (n : ℕ) (c : SyncCtx ω) (bs : List UInt8) :
    (writeLoop fs fd n c bs).2.svc = c.svc ∧ (writeLoop fs fd n c bs).2.p = c.p := by
  induction n generalizing c bs with
  | zero => exact ⟨rfl,rfl⟩
  | succ n ih =>
    have hr := write_retry_keeps fs fd bs (fs.interrupts c.os) c
    rw [writeLoop]
    split
    · exact ⟨rfl,rfl⟩
    · dsimp only
      split
      · exact ⟨(ih _ _).1.trans hr.1,(ih _ _).2.trans hr.2⟩
      · exact hr

theorem write_block_keeps (c : SyncCtx ω) (block : List UInt8) :
    (writeBlock fs c block).2.svc = c.svc ∧ (writeBlock fs c block).2.p = c.p := by
  unfold writeBlock
  split
  · exact write_loop_keeps fs _ _ _ _
  · exact ⟨rfl,rfl⟩

/-! The loops add calls of one kind to the trace. -/

def SyncEvent.isMkdir : SyncEvent → Prop
  | .mkdir _ _ _ => True
  | _ => False

def SyncEvent.isWrite : SyncEvent → Prop
  | .write _ _ _ _ => True
  | _ => False

theorem create_path_loop_log (n : ℕ) (c : SyncCtx ω) (x : ℕ) :
    ∃ evs, (createPathLoop cfg fs n c x).2.log = c.log ++ evs ∧ ∀ e ∈ evs, e.isMkdir := by
  induction n generalizing c x with
  | zero => exact ⟨[],by simp [createPathLoop],by simp⟩
  | succ n ih =>
    rw [createPathLoop]
    split
    · exact ⟨[],by simp,by simp⟩
    · dsimp only
      split
      · exact ⟨[_],rfl,by simp [SyncEvent.isMkdir]⟩
      · obtain ⟨evs,hlog,hevs⟩ := ih ((sysMkdir fs (c.setBuff _) _ _).2.setBuff _) _
        refine ⟨_ :: evs,hlog.trans (List.append_assoc _ [_] evs),?_⟩
        exact List.forall_mem_cons.mpr ⟨trivial,hevs⟩

theorem create_path_directories_log (c : SyncCtx ω) :
    ∃ evs, (createPathDirectories cfg fs c).2.log = c.log ++ evs ∧ ∀ e ∈ evs, e.isMkdir := by
  unfold createPathDirectories
  split
  · exact ⟨[],by simp,by simp⟩
  · exact create_path_loop_log cfg fs _ c 0

theorem write_retry_log (fd : ℤ) (bs : List UInt8) (k : ℕ) (c : SyncCtx ω) :
    ∃ evs, (writeRetry fs fd bs k c).2.log = c.log ++ evs ∧ ∀ e ∈ evs, e.isWrite := by
  induction k generalizing c with
  | zero => exact ⟨[_],rfl,by simp [SyncEvent.isWrite]⟩
  | succ k ih =>
    rw [writeRetry]
    split
    · obtain ⟨evs,hlog,hevs⟩ := ih (sysWrite fs c fd bs).2
      refine ⟨_ :: evs,hlog.trans (List.append_assoc _ [_] evs),?_⟩
      exact List.forall_mem_cons.mpr ⟨trivial,hevs⟩
    · exact ⟨[_],rfl,by simp [SyncEvent.isWrite]⟩

theorem write_loop_log (fd : ℤ) (n : ℕ) (c : SyncCtx ω) (bs : List UInt8) :
    ∃ evs, (writeLoop fs fd n c bs).2.log = c.log ++ evs ∧ ∀ e ∈ evs, e.isWrite := by
  induction n generalizing c bs with
  | zero => exact ⟨[],by simp [writeLoop],by simp⟩
  | succ n ih =>
    rw [writeLoop]
    split
    · exact ⟨[],by simp,by simp⟩
    · obtain ⟨evs,hlog,hevs⟩ := write_retry_log fs fd bs (fs.interrupts c.os) c
      dsimp only
      split
      · obtain ⟨evs',hlog',hevs'⟩ := ih (writeRetry fs fd bs (fs.interrupts c.os) c).2
          (bs.drop (writeRetry fs fd bs (fs.interrupts c.os) c).1.toNat)
        refine ⟨evs ++ evs',by rw [hlog', hlog, List.append_assoc],?_⟩
        intro e he
        rcases List.mem_append.mp he with he | he
        · exact hevs e he
        · exact hevs' e he
      · exact ⟨evs,hlog,hevs⟩

theorem write_block_log (c : SyncCtx ω) (block : List UInt8) :
    ∃ evs, (writeBlock fs c block).2.log = c.log ++ evs ∧ ∀ e ∈ evs, e.isWrite := by
  unfold writeBlock
  split
  · exact write_loop_log fs _ _ _ _
  · exact ⟨[],by simp,by simp⟩

theorem state_reset_svc (c : SyncCtx ω) :
    (stateReset fs c).svc = { c.svc with state := .waitCmd, size := 0 } := by
  unfold stateReset
  split <;> rfl

@[simp] theorem state_reset_p (c : SyncCtx ω) : (stateReset fs c).p = c.p := by
  unfold stateReset
  split <;> rfl

/-! The trace only grows: what it starts with stays. -/

section
variable {l : List SyncEvent}

theorem prefix_of_log {l' evs : List SyncEvent} {c : SyncCtx ω} (h : l <+: c.log)
    (hlog : l' = c.log ++ evs) : l <+: l' := by
  rw [hlog]
  exact h.trans (List.prefix_append _ _)

theorem state_init_stat_prefix (c : SyncCtx ω) (h : l <+: c.log) :
    l <+: (stateInitStat cfg fs c).2.log := by
  unfold stateInitStat
  dsimp only
  split <;> exact prefix_of_log h (sys_stat_log fs c _)

theorem stat_entry_prefix (c : SyncCtx ω) (name : List UInt8) (h : l <+: c.log) :
    l <+: (statEntry cfg fs c name).log := by
  have hroom (e : SyncEvent) : l <+: (c.emit e).log := prefix_of_log h rfl
  unfold statEntry
  dsimp only
  split
  · exact hroom _
  · split <;> exact prefix_of_log (hroom _) rfl

theorem state_process_list_prefix (c : SyncCtx ω) (h : l <+: c.log) :
    l <+: (stateProcessList cfg fs c).2.log := by
  have hread := prefix_of_log h (sys_readdir_log fs c c.svc.u.d)
  unfold stateProcessList
  dsimp only
  split
  · exact hread
  · exact prefix_of_log ( stat_entry_prefix cfg fs _ _ hread) (put_dent_log cfg _ _)

theorem state_init_list_prefix (c : SyncCtx ω) (h : l <+: c.log) :
    l <+: (stateInitList cfg fs c).2.log := by
  have hmalloc := prefix_of_log h (sys_malloc_log fs c cfg.pathMax)
  unfold stateInitList
  dsimp only
  split
  · exact h
  · split
    · exact hmalloc
    · rename_i path _
      set d := (sysMalloc fs c cfg.pathMax).2.setUnion
        (.list 0 path.1 (store path.2 0 (c.name cfg ++ [47])) ((c.name cfg).length+1))
      have hopen : l <+: (sysOpendir fs d (c.name cfg)).2.log :=
        prefix_of_log (c := d) hmalloc (sys_opendir_log fs d (c.name cfg))
      split
      · exact prefix_of_log hopen (sys_free_log fs _ _)
      · exact state_process_list_prefix cfg fs _ hopen

theorem state_process_recv_prefix (c : SyncCtx ω) (h : l <+: c.log) :
    l <+: (stateProcessRecv cfg fs c).2.log := by
  have hread (e : SyncEvent) (fd : ℤ) (n : ℕ) : l <+: (sysRead fs (c.emit e) fd n).2.log :=
    prefix_of_log (prefix_of_log h rfl : l <+: (c.emit e).log) (sys_read_log fs (c.emit e) fd n)
  unfold stateProcessRecv
  dsimp only
  split
  · exact prefix_of_log (hread _ _ _) (prepare_fail_message_log cfg _ _)
  · split <;> exact hread _ _ _

theorem state_init_recv_prefix (c : SyncCtx ω) (h : l <+: c.log) :
    l <+: (stateInitRecv cfg fs c).2.log := by
  have hopen := prefix_of_log h (sys_open_log fs c (c.name cfg) .rdonly)
  unfold stateInitRecv
  dsimp only
  split
  · exact prefix_of_log hopen (prepare_fail_message_log cfg _ _)
  · exact state_process_recv_prefix cfg fs _ hopen

theorem state_init_send_prefix (c : SyncCtx ω) (h : l <+: c.log) :
    l <+: (stateInitSend cfg fs c).2.log := by
  have hlink (d : SyncCtx ω) (h : l <+: d.log) : l <+: (stateInitSendLink cfg fs d).2.log := by
    have hmalloc := prefix_of_log h (sys_malloc_log fs d ((d.name cfg).length+1))
    unfold stateInitSendLink
    dsimp only
    split
    · exact prefix_of_log h (prepare_fail_message_log cfg _ _)
    · split
      · exact prefix_of_log hmalloc (prepare_fail_message_log cfg _ _)
      · exact hmalloc
  have hfile (d : SyncCtx ω) (mode : ℕ) (h : l <+: d.log) :
      l <+: (stateInitSendFile cfg fs d mode).2.log := by
    have hopen := prefix_of_log h (sys_open_log fs d (d.name cfg) (.create mode))
    unfold stateInitSendFile
    dsimp only
    split
    · exact prefix_of_log hopen rfl
    · exact hopen
  have hpath (d : SyncCtx ω) (mode : ℕ) (isLink : Bool) (h : l <+: d.log) :
      l <+: (stateInitSendPath cfg fs d mode isLink).2.log := by
    obtain ⟨evs,hlog,-⟩ := create_path_directories_log cfg fs (sysUnlink fs d (d.name cfg))
    have hdirs := prefix_of_log (prefix_of_log h (sys_unlink_log fs d (d.name cfg))) hlog
    unfold stateInitSendPath
    dsimp only
    split
    · exact prefix_of_log hdirs (prepare_fail_errno_log cfg fs _)
    · split
      · exact hlink _ hdirs
      · exact hfile _ _ hdirs
  unfold stateInitSend
  split
  · exact hpath (c.setBuff _) _ _ h
  · exact hpath _ _ _ h

/-- A reader whose continuations only add to the trace. -/
theorem after_read_prefix (c : SyncCtx ω) (n : ℕ) (fail next : SyncCtx ω → ℤ × SyncCtx ω)
    (h : l <+: c.log) (hfail : ∀ d, l <+: d.log → l <+: (fail d).2.log)
    (hnext : ∀ d, l <+: d.log → l <+: (next d).2.log) :
    l <+: (afterRead (readFromPacket cfg c n) fail next).2.log := by
  rcases after_read_cases cfg c n fail next with ⟨-,hr⟩ | ⟨-,-,-,hr⟩ | ⟨-,-,-,hr⟩
  · rw [hr]
    exact hfail _ h
  · rw [hr]
    exact hnext _ h
  · rw [hr]
    exact h

theorem request_name_prefix (c : SyncCtx ω) (h : l <+: c.log) :
    l <+: (requestName cfg fs c).2.log := by
  have hinit (d : SyncCtx ω) (h : l <+: d.log) : l <+: (stateInit cfg fs d).2.log := by
    unfold stateInit
    split_ifs
    · exact state_init_stat_prefix cfg fs d h
    · exact state_init_list_prefix cfg fs d h
    · exact state_init_send_prefix cfg fs d h
    · exact state_init_recv_prefix cfg fs d h
    · exact h
    · exact h
  unfold requestName
  split
  · exact h
  · exact hinit ((c.setBuff _).emit _) (prefix_of_log h rfl)

theorem state_wait_cmd_prefix (c : SyncCtx ω)
    (h : l <+: c.log ++ [.header (min (sizeofReq-c.svc.size) c.p.msg.dataLength)]) :
    l <+: (stateWaitCmd cfg c).2.log := by
  refine after_read_prefix cfg (c.emit _) _ _ _ h (fun _ h => h) (fun d h => ?_)
  unfold requestHeader
  split_ifs <;> exact h

theorem state_process_prefix (c : SyncCtx ω) (h : l <+: c.log) :
    l <+: (stateProcess cfg fs c).2.log := by
  have hfail (d : SyncCtx ω) (h : l <+: d.log) : l <+: (readError cfg d).2.log :=
    prefix_of_log h (prepare_fail_message_log cfg d _)
  have hheader : l <+: (stateProcessSendHeader cfg c).2.log := by
    refine after_read_prefix cfg c _ _ _ h hfail (fun d h => ?_)
    unfold sendHeader
    split_ifs
    · exact h
    · exact prefix_of_log h (prepare_fail_message_log cfg _ _)
    · exact h
  have htarget (d : SyncCtx ω) (h : l <+: d.log) : l <+: (sendSymTarget cfg fs d).2.log := by
    have hcall (b : SyncCtx ω) (target path : List UInt8) (h : l <+: b.log) :
        l <+: (sysSymlink fs b target path).2.log := prefix_of_log h (sys_symlink_log fs b _ _)
    unfold sendSymTarget
    dsimp only
    split_ifs
    · exact prefix_of_log h (prepare_fail_message_log cfg _ _)
    · exact prefix_of_log (hcall (d.setBuff _) _ _ h) (prepare_fail_message_log cfg _ _)
    · exact hcall (d.setBuff _) _ _ h
  unfold stateProcess
  split
  · exact state_wait_cmd_prefix cfg c (prefix_of_log h rfl)
  · exact after_read_prefix cfg c _ _ _ h (fun _ h => h) ( request_name_prefix cfg fs)
  · exact hheader
  · exact hheader
  · obtain ⟨evs,hlog,-⟩ := write_block_log fs
      ((c.setNamelen (c.svc.namelen-min c.p.msg.dataLength c.svc.namelen)).skip
        (min c.p.msg.dataLength c.svc.namelen)) (c.peek (min c.p.msg.dataLength c.svc.namelen))
    have hblock := prefix_of_log (c := c) h hlog
    unfold stateProcessSendFile
    dsimp only
    split
    · split <;> exact hblock
    · exact prefix_of_log hblock (prepare_fail_message_log cfg _ _)
  · split
    · exact after_read_prefix cfg c _ _ _ h hfail htarget
    · exact h
  · exact h
  · exact h

theorem state_reset_prefix (c : SyncCtx ω) (h : l <+: c.log) : l <+: (stateReset fs c).log := by
  unfold stateReset
  cases c.svc.state with
  | processList => exact prefix_of_log (prefix_of_log h (sys_free_log fs c _)) (sys_closedir_log fs _ _)
  | processRecv => exact prefix_of_log h (sys_close_log fs c _)
  | processSendSymHdr => exact prefix_of_log h (sys_free_log fs c _)
  | processSendSymData => exact prefix_of_log h (sys_free_log fs c _)
  | processSendFileHdr => exact prefix_of_log h (sys_close_log fs c _)
  | processSendFileData => exact prefix_of_log h (sys_close_log fs c _)
  | waitCmd => exact h
  | waitCmdData => exact h

theorem sync_iter_prefix (c : SyncCtx ω) (h : l <+: (stateProcess cfg fs c).2.log) :
    l <+: (syncIter cfg fs c).2.log := by
  unfold syncIter
  dsimp only
  split
  · exact state_reset_prefix fs _ h
  · exact h

end

/-! The handlers that start on a complete request, or continue one, consume nothing. -/

/-- A handler that returned ret has left the unread part of the packet and the counters
alone, and if it is to go on the service is in a state that waits for what comes next. -/
structure Started (c c' : SyncCtx ω) (ret : ℤ) : Prop where
  packetPtr : c'.svc.packetPtr = c.svc.packetPtr
  size : c'.svc.size = c.svc.size
  namelen : c'.svc.namelen = c.svc.namelen
  msg : c'.p.msg = c.p.msg
  state : 0 < ret → c'.svc.state = .waitCmd ∨ c'.svc.state = .processRecv ∨
    c'.svc.state = .processList ∨ c'.svc.state = .processSendFileHdr ∨
    c'.svc.state = .processSendSymHdr

theorem state_init_stat_started (c : SyncCtx ω) :
    Started c (stateInitStat cfg fs c).2 (stateInitStat cfg fs c).1 := by
  unfold stateInitStat
  dsimp only
  split <;> constructor <;> simp

theorem stat_entry_keeps (c : SyncCtx ω) (name : List UInt8) :
    (statEntry cfg fs c name).p.msg = c.p.msg ∧
    (statEntry cfg fs c name).p.writeLen = c.p.writeLen ∧
    ((statEntry cfg fs c name).svc = c.svc ∨
      ∃ text, (statEntry cfg fs c name).svc =
        { c.svc with u := .list c.svc.u.d c.svc.u.path text c.svc.u.filePtr }) := by
  unfold statEntry
  dsimp only
  split
  · exact ⟨rfl,rfl,Or.inl rfl⟩
  · split
    · exact ⟨rfl,rfl,Or.inr ⟨_,rfl⟩⟩
    · exact ⟨rfl,rfl,Or.inr ⟨_,rfl⟩⟩

theorem state_process_list_started (c : SyncCtx ω) (hs : c.svc.state = .processList) :
    Started c (stateProcessList cfg fs c).2 (stateProcessList cfg fs c).1 := by
  unfold stateProcessList
  dsimp only
  split
  · constructor <;> simp [putListDone]
  · rename_i name _
    obtain ⟨hm,-,hsvc⟩ := stat_entry_keeps cfg fs
      (sysReaddir fs c c.svc.u.d).2 name
    rcases hsvc with hsvc | ⟨text,hsvc⟩ <;> constructor <;> simp [hsvc, hm, hs]

theorem state_init_list_started (c : SyncCtx ω) :
    Started c (stateInitList cfg fs c).2 (stateInitList cfg fs c).1 := by
  unfold stateInitList
  dsimp only
  split
  · constructor <;> simp [putListDone]
  · split
    · constructor <;> simp [putListDone]
    · split
      · constructor <;> simp [putListDone]
      · have h := state_process_list_started cfg fs
        exact ⟨(h _ rfl).packetPtr,(h _ rfl).size,(h _ rfl).namelen,(h _ rfl).msg,(h _ rfl).state⟩

theorem state_init_send_started (c : SyncCtx ω) :
    Started c (stateInitSend cfg fs c).2 (stateInitSend cfg fs c).1 := by
  have hfile (d : SyncCtx ω) (mode : ℕ) :
      Started d (stateInitSendFile cfg fs d mode).2 (stateInitSendFile cfg fs d mode).1 := by
    unfold stateInitSendFile
    dsimp only
    split <;> constructor <;> simp
  have hlink (d : SyncCtx ω) :
      Started d (stateInitSendLink cfg fs d).2 (stateInitSendLink cfg fs d).1 := by
    unfold stateInitSendLink
    dsimp only
    split
    · constructor <;> simp
    · split <;> constructor <;> simp
  have hpath (d : SyncCtx ω) (mode : ℕ) (isLink : Bool) :
      Started d (stateInitSendPath cfg fs d mode isLink).2
        (stateInitSendPath cfg fs d mode isLink).1 := by
    unfold stateInitSendPath
    dsimp only
    have hsvc := create_path_directories_svc cfg fs (sysUnlink fs d (d.name cfg))
    have hp := create_path_directories_p cfg fs (sysUnlink fs d (d.name cfg))
    split
    · constructor <;> simp
    · split
      · have h := hlink (createPathDirectories cfg fs (sysUnlink fs d (d.name cfg))).2
        exact ⟨by simp [h.packetPtr],by simp [h.size],by simp [h.namelen],by simp [h.msg],h.state⟩
      · have h := hfile (createPathDirectories cfg fs (sysUnlink fs d (d.name cfg))).2 mode
        exact ⟨by simp [h.packetPtr],by simp [h.size],by simp [h.namelen],by simp [h.msg],h.state⟩
  unfold stateInitSend
  split
  · have h := hpath
    exact ⟨(h _ _ _).packetPtr,(h _ _ _).size,(h _ _ _).namelen,(h _ _ _).msg,(h _ _ _).state⟩
  · exact hpath c _ _

theorem state_process_recv_started (c : SyncCtx ω) (hs : c.svc.state = .processRecv) :
    Started c (stateProcessRecv cfg fs c).2 (stateProcessRecv cfg fs c).1 := by
  unfold stateProcessRecv
  dsimp only
  split
  · constructor <;> simp
  · split <;> constructor <;> simp [hs]

theorem state_init_recv_started (c : SyncCtx ω) :
    Started c (stateInitRecv cfg fs c).2 (stateInitRecv cfg fs c).1 := by
  unfold stateInitRecv
  dsimp only
  split
  · constructor <;> simp
  · have h := state_process_recv_started cfg fs
    exact ⟨(h _ rfl).packetPtr,(h _ rfl).size,(h _ rfl).namelen,(h _ rfl).msg,(h _ rfl).state⟩

theorem state_init_started (c : SyncCtx ω) :
    Started c (stateInit cfg fs c).2 (stateInit cfg fs c).1 := by
  unfold stateInit
  split_ifs
  · exact state_init_stat_started cfg fs c
  · exact state_init_list_started cfg fs c
  · exact state_init_send_started cfg fs c
  · exact state_init_recv_started cfg fs c
  · constructor <;> simp
  · constructor <;> simp

/-! Progress of the loop. -/

/-- How many iterations can follow in this state that consume nothing. -/
def AfsService.rank (s : AfsService) : ℕ :=
  match s.state with
  | .waitCmd => if s.size = sizeofReq then 2 else 0
  | .waitCmdData => if s.size = s.namelen then 1 else 0
  | .processSendFileHdr | .processSendSymHdr => if sizeofData ≤ s.size then 2 else 0
  | .processSendFileData => if s.namelen = 0 then if sizeofData ≤ s.size then 3 else 1 else 0
  | .processSendSymData =>
    if s.size = s.namelen ∨ s.namelen < s.size ∨ cfg.pathMax < s.namelen then 1 else 0
  | .processRecv | .processList => 0

theorem rank_le (s : AfsService) : s.rank cfg ≤ 3 := by
  unfold AfsService.rank
  cases s.state <;> dsimp only <;> (try split_ifs) <;> decide

theorem rank_le_one (s : AfsService) (h : s.size = 0) : s.rank cfg ≤ 1 := by
  unfold AfsService.rank
  rw [h]
  cases s.state <;> dsimp only <;> (try split_ifs) <;> simp_all [sizeofReq, sizeofData]

/-- The packet's bytes are consumed in order, and none twice. -/
structure Consumed (c c' : SyncCtx ω) (k : ℕ) : Prop where
  le : k ≤ c.p.msg.dataLength
  packetPtr : c'.svc.packetPtr = c.svc.packetPtr+k
  msg : c'.p.msg = { c.p.msg with dataLength := c.p.msg.dataLength-k }

/-- One step either consumes a byte of the packet or comes closer to one that does. -/
def Progress (c : SyncCtx ω) (r : ℤ × SyncCtx ω) : Prop :=
  ∃ k, Consumed c r.2 k ∧
    (0 ≤ r.1 → 0 < k ∨ 0 < c.svc.rank cfg ∧ (0 < r.1 → r.2.svc.rank cfg < c.svc.rank cfg))

theorem progress_of_consumed (c : SyncCtx ω) (r : ℤ × SyncCtx ω) (k : ℕ) (h : Consumed c r.2 k)
    (hk : 0 ≤ r.1 → k = 0 → 0 < c.svc.rank cfg ∧
      (0 < r.1 → r.2.svc.rank cfg < c.svc.rank cfg)) : Progress cfg c r := by
  refine ⟨k,h,fun h0 => ?_⟩
  rcases Nat.eq_zero_or_pos k with hz | hz
  · exact Or.inr (hk h0 hz)
  · exact Or.inl hz

theorem rank_of_started (c c' : SyncCtx ω) (ret : ℤ) (h : Started c c' ret) (hr : 0 < ret)
    (hs : c.svc.size = 0) : c'.svc.rank cfg = 0 := by
  have hsize := h.size.trans hs
  rcases h.state hr with h | h | h | h | h <;>
    simp [AfsService.rank, h, hsize, sizeofReq, sizeofData]

/-- A reading handler makes progress when its two continuations leave the packet alone
and lower the rank where nothing was missing. -/
theorem after_read_progress (c : SyncCtx ω) (n : ℕ) (fail next : SyncCtx ω → ℤ × SyncCtx ω)
    (hd : 0 < c.p.msg.dataLength)
    (hfail : n < c.svc.size ∨ cfg.pathMax < n →
      Consumed (c.setSize 0) (fail (c.setSize 0)).2 0 ∧ (fail (c.setSize 0)).1 ≤ 0 ∧
      (0 ≤ (fail (c.setSize 0)).1 → 0 < c.svc.rank cfg))
    (hnext : Consumed (c.complete n) (next (c.complete n)).2 0 ∧
      (0 ≤ (next (c.complete n)).1 → n = c.svc.size → 0 < c.svc.rank cfg ∧
        (0 < (next (c.complete n)).1 →
          (next (c.complete n)).2.svc.rank cfg < c.svc.rank cfg))) :
    Progress cfg c (afterRead (readFromPacket cfg c n) fail next) := by
  rcases after_read_cases cfg c n fail next with ⟨hbad,h⟩ | ⟨h1,h2,h3,h⟩ | ⟨h1,h2,h3,h⟩
  · rw [h]
    obtain ⟨hk,hr,hrank⟩ := hfail hbad
    exact progress_of_consumed cfg c _ 0 ⟨Nat.zero_le _,hk.packetPtr,hk.msg⟩
      (fun h0 _ => ⟨hrank h0,by omega⟩)
  · rw [h]
    obtain ⟨hk,hrank⟩ := hnext
    exact progress_of_consumed cfg c _ (n-c.svc.size) ⟨h3,hk.packetPtr,hk.msg⟩
      (fun h0 hz => hrank h0 (by omega))
  · rw [h]
    exact progress_of_consumed cfg c _ c.p.msg.dataLength ⟨le_rfl,rfl,rfl⟩ (by omega)

theorem state_wait_cmd_progress (c : SyncCtx ω) (hs : c.svc.state = .waitCmd)
    (hd : 0 < c.p.msg.dataLength) : Progress cfg c (stateWaitCmd cfg c) := by
  set d := c.emit (.header (min (sizeofReq-c.svc.size) c.p.msg.dataLength))
  have h : Progress cfg d (stateWaitCmd cfg c) := by
    refine after_read_progress cfg d sizeofReq _ _ hd ?_ ⟨?_,?_⟩
    · exact fun _ => ⟨⟨Nat.zero_le _,rfl,rfl⟩,by simp,by simp⟩
    · unfold requestHeader
      split_ifs <;> exact ⟨Nat.zero_le _,rfl,rfl⟩
    · intro _ hsize
      have hrank : d.svc.rank cfg = 2 := by
        have hst : d.svc.state = .waitCmd := hs
        simp [AfsService.rank, hst, ← hsize]
      rw [hrank]
      refine ⟨by decide,?_⟩
      unfold requestHeader
      split_ifs
      · simp
      · simp
      · exact fun _ => Nat.lt_succ_of_le (rank_le_one cfg _ rfl)
  obtain ⟨k,hk,hp⟩ := h
  exact ⟨k,⟨hk.le,hk.packetPtr,hk.msg⟩,hp⟩

theorem state_wait_cmd_data_progress (c : SyncCtx ω) (hs : c.svc.state = .waitCmdData)
    (hd : 0 < c.p.msg.dataLength) : Progress cfg c (stateWaitCmdData cfg fs c) := by
  have hinit := state_init_started cfg fs
  refine after_read_progress cfg c c.svc.namelen _ _ hd ?_ ⟨?_,?_⟩
  · exact fun _ => ⟨⟨Nat.zero_le _,rfl,rfl⟩,by simp,by simp⟩
  · unfold requestName
    split_ifs
    · exact ⟨Nat.zero_le _,rfl,rfl⟩
    · exact ⟨Nat.zero_le _,(hinit _).packetPtr,(hinit _).msg⟩
  · intro _ hsize
    have hrank : c.svc.rank cfg = 1 := by simp [AfsService.rank, hs, ← hsize]
    rw [hrank]
    refine ⟨by decide,?_⟩
    unfold requestName
    split_ifs
    · simp
    · intro hr
      rw [rank_of_started cfg _ _ _ (hinit _) hr rfl]
      decide

theorem state_process_send_header_progress (c : SyncCtx ω)
    (hs : c.svc.state = .processSendFileHdr ∨ c.svc.state = .processSendSymHdr)
    (hd : 0 < c.p.msg.dataLength) : Progress cfg c (stateProcessSendHeader cfg c) := by
  have hrank (hsize : sizeofData ≤ c.svc.size) : c.svc.rank cfg = 2 := by
    rcases hs with hs | hs <;> simp [AfsService.rank, hs, hsize]
  have hmax := cfg.pathMax_ge
  refine after_read_progress cfg c sizeofData _ _ hd ?_ ⟨?_,?_⟩
  · intro hbad
    refine ⟨⟨Nat.zero_le _,rfl,rfl⟩,le_rfl,fun _ => ?_⟩
    rw [hrank (by unfold sizeofData at hbad ⊢; omega)]
    decide
  · unfold sendHeader
    split_ifs <;> exact ⟨Nat.zero_le _,rfl,rfl⟩
  · intro _ hsize
    rw [hrank hsize.le]
    refine ⟨by decide,?_⟩
    unfold sendHeader
    split_ifs
    · simp
    · simp
    · exact fun _ => Nat.lt_succ_of_le (rank_le_one cfg _ rfl)

/-- The bytes of the packet that belong to the DATA chunk in progress. -/
def SyncCtx.blockSize (c : SyncCtx ω) : ℕ := min c.p.msg.dataLength c.svc.namelen

def SyncCtx.takeBlock (c : SyncCtx ω) : SyncCtx ω :=
  (c.setNamelen (c.svc.namelen-c.blockSize)).skip c.blockSize

/-- The block is written, and completes the chunk or not, or cannot be written. -/
theorem state_process_send_file_cases (c : SyncCtx ω) :
    ∃ d, d = (writeBlock fs c.takeBlock (c.peek c.blockSize)).2 ∧
      d.svc = c.takeBlock.svc ∧ d.p = c.takeBlock.p ∧
      (((writeBlock fs c.takeBlock (c.peek c.blockSize)).1 = true ∧
          c.svc.namelen ≤ c.p.msg.dataLength ∧
          stateProcessSendFile cfg fs c = (1, d.setState c.svc.state.pred)) ∨
        ((writeBlock fs c.takeBlock (c.peek c.blockSize)).1 = true ∧
          c.p.msg.dataLength < c.svc.namelen ∧ stateProcessSendFile cfg fs c = (1, d)) ∨
        ((writeBlock fs c.takeBlock (c.peek c.blockSize)).1 = false ∧
          stateProcessSendFile cfg fs c =
            (0, prepareFailMessage cfg d (ascii "write error")))) := by
  obtain ⟨hsvc,hp⟩ := write_block_keeps fs c.takeBlock (c.peek c.blockSize)
  have hdef : stateProcessSendFile cfg fs c =
      if (writeBlock fs c.takeBlock (c.peek c.blockSize)).1 then
        (1, if (writeBlock fs c.takeBlock (c.peek c.blockSize)).2.svc.namelen = 0 then
          (writeBlock fs c.takeBlock (c.peek c.blockSize)).2.setState
            (writeBlock fs c.takeBlock (c.peek c.blockSize)).2.svc.state.pred
          else (writeBlock fs c.takeBlock (c.peek c.blockSize)).2)
      else (0, prepareFailMessage cfg (writeBlock fs c.takeBlock (c.peek c.blockSize)).2
        (ascii "write error")) := rfl
  refine ⟨_,rfl,hsvc,hp,?_⟩
  rw [hdef, hsvc]
  have hlen : c.takeBlock.svc.namelen = c.svc.namelen-c.blockSize := rfl
  have hstate : c.takeBlock.svc.state = c.svc.state := rfl
  have hz : c.takeBlock.svc.namelen = 0 ↔ c.svc.namelen ≤ c.p.msg.dataLength := by
    rw [hlen, SyncCtx.blockSize]
    omega
  cases hw : (writeBlock fs c.takeBlock (c.peek c.blockSize)).1 with
  | false => exact Or.inr (Or.inr ⟨rfl,by simp⟩)
  | true =>
    by_cases hle : c.svc.namelen ≤ c.p.msg.dataLength
    · exact Or.inl ⟨rfl,hle,by simp [hz, hle, hstate]⟩
    · exact Or.inr (Or.inl ⟨rfl,by omega,by simp [hz, hle]⟩)

theorem state_process_send_file_progress (c : SyncCtx ω)
    (hs : c.svc.state = .processSendFileData) (hd : 0 < c.p.msg.dataLength) :
    Progress cfg c (stateProcessSendFile cfg fs c) := by
  have hrank (hz : c.blockSize = 0) :
      c.svc.rank cfg = if sizeofData ≤ c.svc.size then 3 else 1 := by
    have hn : c.svc.namelen = 0 := by
      rw [SyncCtx.blockSize] at hz
      omega
    simp [AfsService.rank, hs, hn]
  obtain ⟨d,-,hsvc,hp,⟨-,hle,h⟩ | ⟨-,hle,h⟩ | ⟨-,h⟩⟩ := state_process_send_file_cases cfg fs c
  · rw [h]
    refine progress_of_consumed cfg c _ c.blockSize
      ⟨Nat.min_le_left _ _,by simp [hsvc, SyncCtx.takeBlock],by simp [hp, SyncCtx.takeBlock]⟩ ?_
    intro _ hz
    rw [hrank hz]
    refine ⟨by split <;> decide,fun _ => ?_⟩
    simp only [AfsService.rank, SyncCtx.setState_svc, hs, AfsState.pred, hsvc, SyncCtx.takeBlock,
      SyncCtx.skip_svc, SyncCtx.setNamelen_svc]
    split <;> decide
  · rw [h]
    refine progress_of_consumed cfg c _ c.blockSize
      ⟨Nat.min_le_left _ _,by simp [hsvc, SyncCtx.takeBlock],by simp [hp, SyncCtx.takeBlock]⟩ ?_
    intro _ hz
    rw [SyncCtx.blockSize] at hz
    omega
  · rw [h]
    refine progress_of_consumed cfg c _ c.blockSize
      ⟨Nat.min_le_left _ _,by simp [hsvc, SyncCtx.takeBlock],by simp [hp, SyncCtx.takeBlock]⟩ ?_
    intro _ hz
    rw [hrank hz]
    exact ⟨by split <;> decide,by simp⟩

theorem state_process_send_sym_progress (c : SyncCtx ω)
    (hs : c.svc.state = .processSendSymData) (hd : 0 < c.p.msg.dataLength) :
    Progress cfg c (stateProcessSendSym cfg fs c) := by
  refine after_read_progress cfg c c.svc.namelen _ _ hd ?_ ⟨?_,?_⟩
  · intro hbad
    refine ⟨⟨Nat.zero_le _,rfl,rfl⟩,le_rfl,fun _ => ?_⟩
    have hrank : c.svc.rank cfg = 1 := by simp [AfsService.rank, hs, hbad]
    rw [hrank]
    decide
  · unfold sendSymTarget
    dsimp only
    split_ifs <;> exact ⟨Nat.zero_le _,rfl,rfl⟩
  · intro _ hsize
    have hrank : c.svc.rank cfg = 1 := by simp [AfsService.rank, hs, ← hsize]
    rw [hrank]
    refine ⟨by decide,?_⟩
    unfold sendSymTarget
    dsimp only
    split_ifs
    · simp
    · simp
    · simp [AfsService.rank, SyncCtx.complete, hs, AfsState.pred, sizeofData]

theorem state_process_progress (c : SyncCtx ω) (hd : 0 < c.p.msg.dataLength) :
    Progress cfg c (stateProcess cfg fs c) := by
  have hnone : Progress cfg c (-1, c) :=
    progress_of_consumed cfg c _ 0 ⟨Nat.zero_le _,rfl,rfl⟩ (by simp)
  unfold stateProcess
  split
  · exact state_wait_cmd_progress cfg c ‹_› hd
  · exact state_wait_cmd_data_progress cfg fs c ‹_› hd
  · exact state_process_send_header_progress cfg c (Or.inl ‹_›) hd
  · exact state_process_send_header_progress cfg c (Or.inr ‹_›) hd
  · exact state_process_send_file_progress cfg fs c ‹_› hd
  · split
    · exact state_process_send_sym_progress cfg fs c ‹_› hd
    · exact hnone
  · exact hnone
  · exact hnone

theorem rank_state_reset (c : SyncCtx ω) : (stateReset fs c).svc.rank cfg = 0 := by
  simp [AfsService.rank, state_reset_svc, sizeofReq]

theorem sync_iter_consumed (c : SyncCtx ω) (hd : 0 < c.p.msg.dataLength) :
    ∃ k, Consumed c (syncIter cfg fs c).2 k ∧
      (0 ≤ (syncIter cfg fs c).1 →
        0 < k ∨ (syncIter cfg fs c).2.svc.rank cfg < c.svc.rank cfg) := by
  obtain ⟨k,hk,hp⟩ := state_process_progress cfg fs c hd
  refine ⟨k,?_,fun h0 => ?_⟩
  · unfold syncIter
    dsimp only
    split
    · exact ⟨hk.le,by rw [state_reset_svc]; exact hk.packetPtr,by rw [state_reset_p]; exact hk.msg⟩
    · exact hk
  · rcases hp h0 with h | ⟨h,hr⟩
    · exact Or.inl h
    · right
      unfold syncIter
      dsimp only
      split
      · rw [rank_state_reset]
        exact h
      · exact hr (by omega)

/-! The loop. -/

theorem sync_loop_go (n : ℕ) (r : ℤ × SyncCtx ω) (hd : 0 < r.2.p.msg.dataLength) (hr : 0 ≤ r.1) :
    syncLoop cfg fs (n+1) r = syncLoop cfg fs n (syncIter cfg fs r.2) := by
  rw [syncLoop, if_pos ⟨hd,hr⟩]

theorem sync_loop_stop (n : ℕ) (r : ℤ × SyncCtx ω)
    (h : r.2.p.msg.dataLength = 0 ∨ r.1 < 0) : syncLoop cfg fs n r = r := by
  cases n with
  | zero => rfl
  | succ n => rw [syncLoop, if_neg (by omega)]

/-- What every iteration keeps holds at the end of the loop. -/
theorem sync_loop_invariant (I : ℤ × SyncCtx ω → Prop)
    (hstep : ∀ ret c, 0 ≤ ret → 0 < c.p.msg.dataLength → I (ret, c) → I (syncIter cfg fs c))
    (n : ℕ) (r : ℤ × SyncCtx ω) (h : I r) : I (syncLoop cfg fs n r) := by
  induction n generalizing r with
  | zero => exact h
  | succ n ih =>
    rw [syncLoop]
    split
    · rename_i hgo
      exact ih _ (hstep r.1 r.2 hgo.2 hgo.1 h)
    · exact h

/-- The loop of file_sync_on_write comes to its end: where what the iterations keep bounds the
rank by b, b+1 iterations for each byte left, less those the rank says are not needed, are
enough. -/
theorem sync_loop_ends (I : SyncCtx ω → Prop) (b : ℕ) (hI : ∀ c, I c → I (syncIter cfg fs c).2)
    (hb : ∀ c, I c → c.svc.rank cfg ≤ b) (n : ℕ) (r : ℤ × SyncCtx ω) (hr : I r.2)
    (hn : 0 < r.2.p.msg.dataLength → (b+1)*(r.2.p.msg.dataLength-1)+r.2.svc.rank cfg < n) :
    (syncLoop cfg fs n r).2.p.msg.dataLength = 0 ∨ (syncLoop cfg fs n r).1 < 0 := by
  induction n generalizing r with
  | zero =>
    left
    by_contra h
    exact absurd (hn (Nat.pos_of_ne_zero h)) (by omega)
  | succ n ih =>
    by_cases hgo : 0 < r.2.p.msg.dataLength ∧ 0 ≤ r.1
    · rw [sync_loop_go cfg fs n r hgo.1 hgo.2]
      obtain ⟨k,hk,hp⟩ := sync_iter_consumed cfg fs r.2 hgo.1
      have hlen : (syncIter cfg fs r.2).2.p.msg.dataLength = r.2.p.msg.dataLength-k :=
        congrArg Amessage.dataLength hk.msg
      rcases lt_or_ge (syncIter cfg fs r.2).1 0 with hneg | hpos
      · rw [sync_loop_stop cfg fs n _ (Or.inr hneg)]
        exact Or.inr hneg
      · refine ih _ (hI _ hr) (fun hd' => ?_)
        have hle := hk.le
        have hrank := hb _ (hI _ hr)
        have hbound := hn hgo.1
        rcases hp hpos with h | h
        · -- a byte less, which is worth b+1 iterations
          have hmul : (b+1)*((syncIter cfg fs r.2).2.p.msg.dataLength-1)+(b+1) ≤
              (b+1)*(r.2.p.msg.dataLength-1) := by
            rw [← Nat.mul_succ]
            exact Nat.mul_le_mul_left _ (by omega)
          omega
        · have hmul := Nat.mul_le_mul_left (b+1)
            (show (syncIter cfg fs r.2).2.p.msg.dataLength-1 ≤ r.2.p.msg.dataLength-1 by omega)
          omega
    · have hstop : r.2.p.msg.dataLength = 0 ∨ r.1 < 0 := by omega
      rw [sync_loop_stop cfg fs _ r hstop]
      exact hstop

/-- The contexts in which an iteration of the loop starts. -/
def syncIters : ℕ → ℤ × SyncCtx ω → List (SyncCtx ω)
  | 0, _ => []
  | n+1, r =>
    if 0 < r.2.p.msg.dataLength ∧ 0 ≤ r.1 then r.2 :: syncIters n (syncIter cfg fs r.2) else []

def writeIters (c : SyncCtx ω) : List (SyncCtx ω) :=
  syncIters cfg fs (4*c.p.msg.dataLength) (0, c.rewind)

/-- A loop that has ended after n iterations makes no more. -/
theorem length_sync_iters_le (n m : ℕ) (r : ℤ × SyncCtx ω)
    (h : (syncLoop cfg fs n r).2.p.msg.dataLength = 0 ∨ (syncLoop cfg fs n r).1 < 0) :
    (syncIters cfg fs m r).length ≤ n := by
  induction n generalizing m r with
  | zero =>
    cases m with
    | zero => exact le_rfl
    | succ m =>
      change r.2.p.msg.dataLength = 0 ∨ r.1 < 0 at h
      rw [syncIters, if_neg (by omega)]
      exact le_rfl
  | succ n ih =>
    cases m with
    | zero => exact Nat.zero_le _
    | succ m =>
      rw [syncIters]
      split
      · rename_i hgo
        rw [sync_loop_go cfg fs n r hgo.1 hgo.2] at h
        exact Nat.succ_le_succ (ih m _ h)
      · exact Nat.zero_le _

/-- What holds at the start and after each iteration holds at the end. -/
theorem sync_loop_of_iters (Q : SyncCtx ω → Prop) (n : ℕ) (r : ℤ × SyncCtx ω) (h0 : Q r.2)
    (h : ∀ c ∈ syncIters cfg fs n r, Q (syncIter cfg fs c).2) :
    Q (syncLoop cfg fs n r).2 := by
  induction n generalizing r with
  | zero => exact h0
  | succ n ih =>
    rw [syncLoop]
    rw [syncIters] at h
    split
    · rename_i hgo
      rw [if_pos hgo] at h
      obtain ⟨hhead,htail⟩ := List.forall_mem_cons.mp h
      exact ih _ hhead htail
    · exact h0

/-- The number of iterations file_sync_on_write is cut after is out of reach. -/
theorem write_loop_ends (c : SyncCtx ω) :
    (syncLoop cfg fs (4*c.p.msg.dataLength) (0, c.rewind)).2.p.msg.dataLength = 0 ∨
      (syncLoop cfg fs (4*c.p.msg.dataLength) (0, c.rewind)).1 < 0 := by
  refine sync_loop_ends cfg fs (fun _ => True) 3 (fun _ _ => trivial)
    (fun d _ => rank_le cfg d.svc) _ (0, c.rewind) trivial (fun hd => ?_)
  have hrank := rank_le cfg c.rewind.svc
  have hpos : 0 < c.p.msg.dataLength := hd
  change 4*(c.p.msg.dataLength-1)+c.rewind.svc.rank cfg < 4*c.p.msg.dataLength
  omega

/-- file_sync_on_write returns only when the packet is used up or the service failed. -/
theorem file_sync_on_write_ends (c : SyncCtx ω) :
    (fileSyncOnWrite cfg fs c).2.p.msg.dataLength = 0 ∨ (fileSyncOnWrite cfg fs c).1 < 0 := by
  rcases write_loop_ends cfg fs c with h | h
  · exact Or.inl h
  · right
    unfold fileSyncOnWrite
    dsimp only
    rw [if_neg (by omega)]
    exact h

end MicroADB
