import MicroADB.FileSyncRun

/-! The calls of a file sync service with the states of the file system between them: a property of
these states and of the trace that each call keeps is kept by every run. -/
namespace MicroADB
open ByteMemory EventRun

variable {ω : Type} {cfg : Config} {fs : FileSystem ω}

/-! The calls with their states. -/

/-- A call of the file system, as the trace tells it; the other events leave it as it is. -/
inductive Call (fs : FileSystem ω) : ω → SyncEvent → ω → Prop
  | stat (s : ω) (path : List UInt8) :
    Call fs s (.stat path (fs.stat s path).2.isSome) (fs.stat s path).1
  | lstat (s : ω) (path : List UInt8) :
    Call fs s (.lstat path (fs.lstat s path).2.isSome) (fs.lstat s path).1
  | unlink (s : ω) (path : List UInt8) : Call fs s (.unlink path) (fs.unlink s path)
  | mkdir (s : ω) (path : List UInt8) (mode : ℕ) :
    Call fs s (.mkdir path (fs.mkdir s path mode).2 (fs.errno (fs.mkdir s path mode).1))
      (fs.mkdir s path mode).1
  | openFile (s : ω) (path : List UInt8) (mode : OpenMode) :
    Call fs s (.openFile path mode (fs.openFile s path mode).2) (fs.openFile s path mode).1
  | read (s : ω) (fd : ℤ) (n : ℕ) :
    Call fs s (.read fd ((fs.read s fd n).2.map List.length)) (fs.read s fd n).1
  | write (s : ω) (fd : ℤ) (bs : List UInt8) :
    Call fs s (.write fd bs (fs.write s fd bs).2 (fs.errno (fs.write s fd bs).1)) (fs.write s fd bs).1
  | close (s : ω) (fd : ℤ) : Call fs s (.close fd) (fs.close s fd)
  | opendir (s : ω) (path : List UInt8) :
    Call fs s (.opendir path (fs.opendir s path).2) (fs.opendir s path).1
  | readdir (s : ω) (d : ℕ) : Call fs s (.readdir d (fs.readdir s d).2) (fs.readdir s d).1
  | closedir (s : ω) (d : ℕ) : Call fs s (.closedir d) (fs.closedir s d)
  | malloc (s : ω) (n : ℕ) :
    Call fs s (.malloc n ((fs.malloc s n).2.map Prod.fst)) (fs.malloc s n).1
  | free (s : ω) (b : ℕ) : Call fs s (.free b) (fs.free s b)
  | symlink (s : ω) (target path : List UInt8) :
    Call fs s (.symlink target path (fs.symlink s target path).2) (fs.symlink s target path).1
  | header (s : ω) (n : ℕ) : Call fs s (.header n) s
  | exec (s : ω) (cmd : ℕ) (name : List UInt8) : Call fs s (.exec cmd name) s
  | room (s : ω) (n : ℤ) : Call fs s (.room n) s

/-- The calls of a trace, one behind the other. -/
inductive Performed (fs : FileSystem ω) (s : ω) : List SyncEvent → ω → Prop
  | nil : Performed fs s [] s
  | snoc {es : List SyncEvent} {s' s'' : ω} {e : SyncEvent} (h : Performed fs s es s')
    (he : Call fs s' e s'') : Performed fs s (es ++ [e]) s''

/-- A trace in two parts has a state between them. -/
theorem Performed.split {s s'' : ω} {es fs' : List SyncEvent}
    (h : Performed fs s (es ++ fs') s'') :
    ∃ s', Performed fs s es s' ∧ Performed fs s' fs' s'' := by
  induction fs' using List.reverseRecOn generalizing s'' with
  | nil => exact ⟨s'',by simpa using h,.nil⟩
  | append_singleton fs' e ih =>
    rw [← List.append_assoc] at h
    generalize hl : es ++ fs' ++ [e] = l at h
    cases h with
    | nil => simp at hl
    | snoc hrest he =>
      obtain ⟨rfl,rfl⟩ := List.append_inj' hl rfl |>.imp id List.singleton_inj.mp
      obtain ⟨s',h1,h2⟩ := ih hrest
      exact ⟨s',h1,h2.snoc he⟩

/-- A property of the file system and the trace that every call keeps. -/
def Callwise (fs : FileSystem ω) (P : ω → List SyncEvent → Prop) : Prop :=
  ∀ s l e s', P s l → Call fs s e s' → P s' (l ++ [e])

section
variable {P : ω → List SyncEvent → Prop} (hP : Callwise fs P)
include hP

theorem calls_stat_entry (c : SyncCtx ω) (name : List UInt8) (h : P c.os c.log) :
    P (statEntry cfg fs c name).os (statEntry cfg fs c name).log := by
  have hroom (n : ℤ) : P (c.emit (.room n)).os (c.emit (.room n)).log := hP _ _ _ _ h (.room _ n)
  unfold statEntry
  dsimp only
  split
  · exact hroom _
  · split <;> exact hP _ _ _ _ (hroom _) (.lstat _ _)

theorem calls_process_list (c : SyncCtx ω) (h : P c.os c.log) :
    P (stateProcessList cfg fs c).2.os (stateProcessList cfg fs c).2.log := by
  have hread := hP _ _ _ _ h (.readdir c.os c.svc.u.d)
  unfold stateProcessList
  dsimp only
  split
  · exact hread
  · rename_i name _
    exact hP _ _ _ _ (calls_stat_entry hP (sysReaddir fs c c.svc.u.d).2 name hread) (.room _ _)

theorem calls_init_list (c : SyncCtx ω) (h : P c.os c.log) :
    P (stateInitList cfg fs c).2.os (stateInitList cfg fs c).2.log := by
  have hmalloc := hP _ _ _ _ h (.malloc c.os cfg.pathMax)
  unfold stateInitList
  dsimp only
  split
  · exact h
  · split
    · exact hmalloc
    · have hopen := hP _ _ _ _ hmalloc (.opendir _ (c.name cfg))
      split
      · exact hP _ _ _ _ hopen (.free _ _)
      · exact calls_process_list hP _ hopen

theorem calls_fail_message (c : SyncCtx ω) (reason : List UInt8) (h : P c.os c.log) :
    P (prepareFailMessage cfg c reason).os (prepareFailMessage cfg c reason).log :=
  hP _ _ _ _ h (.room _ _)

theorem calls_process_recv (c : SyncCtx ω) (h : P c.os c.log) :
    P (stateProcessRecv cfg fs c).2.os (stateProcessRecv cfg fs c).2.log := by
  have hroom (n : ℤ) := hP _ _ _ _ h (.room _ n)
  have hread (n : ℤ) (fd : ℤ) (k : ℕ) := hP _ _ _ _ (hroom n) (.read _ fd k)
  unfold stateProcessRecv
  dsimp only
  split
  · exact calls_fail_message hP _ _ (hread _ _ _)
  · split <;> exact hread _ _ _

theorem calls_init_recv (c : SyncCtx ω) (h : P c.os c.log) :
    P (stateInitRecv cfg fs c).2.os (stateInitRecv cfg fs c).2.log := by
  have hopen := hP _ _ _ _ h (.openFile c.os (c.name cfg) .rdonly)
  unfold stateInitRecv
  dsimp only
  split
  · exact calls_fail_message hP _ _ hopen
  · exact calls_process_recv hP _ hopen

theorem calls_create_path_loop (n : ℕ) (c : SyncCtx ω) (x : ℕ) (h : P c.os c.log) :
    P (createPathLoop cfg fs n c x).2.os (createPathLoop cfg fs n c x).2.log := by
  induction n generalizing c x with
  | zero => exact h
  | succ n ih =>
    rw [createPathLoop]
    split
    · exact h
    · have hmkdir (d : SyncCtx ω) (path : List UInt8) (hd : P d.os d.log) :=
        hP _ _ _ _ hd (.mkdir d.os path 0o775)
      dsimp only
      split
      · exact hmkdir (c.setBuff _) _ h
      · exact ih _ _ (hmkdir (c.setBuff _) _ h)

theorem calls_init_send_path (c : SyncCtx ω) (mode : ℕ) (isLink : Bool) (h : P c.os c.log) :
    P (stateInitSendPath cfg fs c mode isLink).2.os
      (stateInitSendPath cfg fs c mode isLink).2.log := by
  have hdirs (d : SyncCtx ω) (hd : P d.os d.log) :
      P (createPathDirectories cfg fs d).2.os (createPathDirectories cfg fs d).2.log := by
    unfold createPathDirectories
    split
    · exact hd
    · exact calls_create_path_loop hP _ d 0 hd
  have hmade := hdirs (sysUnlink fs c (c.name cfg)) (hP _ _ _ _ h (.unlink _ _))
  unfold stateInitSendPath
  dsimp only
  split
  · exact calls_fail_message hP _ _ hmade
  · set d := (createPathDirectories cfg fs (sysUnlink fs c (c.name cfg))).2
    split
    · unfold stateInitSendLink
      dsimp only
      split
      · exact calls_fail_message hP _ _ hmade
      · have hmalloc := hP _ _ _ _ hmade (.malloc d.os ((d.name cfg).length+1))
        split
        · exact calls_fail_message hP _ _ hmalloc
        · exact hmalloc
    · have hopen := hP _ _ _ _ hmade (.openFile d.os (d.name cfg) (.create mode))
      unfold stateInitSendFile
      dsimp only
      split
      · exact calls_fail_message hP _ _ hopen
      · exact hopen

theorem calls_init (c : SyncCtx ω) (h : P c.os c.log) :
    P (stateInit cfg fs c).2.os (stateInit cfg fs c).2.log := by
  unfold stateInit
  split_ifs
  · have hstat := hP _ _ _ _ h (.stat c.os (c.name cfg))
    unfold stateInitStat
    dsimp only
    split <;> exact hstat
  · exact calls_init_list hP c h
  · unfold stateInitSend
    split
    · exact calls_init_send_path hP (c.setBuff _) _ _ h
    · exact calls_init_send_path hP c _ _ h
  · exact calls_init_recv hP c h
  · exact h
  · exact h

omit hP in
theorem calls_after_read (c : SyncCtx ω) (n : ℕ) (fail next : SyncCtx ω → ℤ × SyncCtx ω)
    (h : P c.os c.log) (hfail : ∀ d, P d.os d.log → P (fail d).2.os (fail d).2.log)
    (hnext : ∀ d, P d.os d.log → P (next d).2.os (next d).2.log) :
    P (afterRead (readFromPacket cfg c n) fail next).2.os
      (afterRead (readFromPacket cfg c n) fail next).2.log := by
  rcases after_read_cases cfg c n fail next with ⟨-,hr⟩ | ⟨-,-,-,hr⟩ | ⟨-,-,-,hr⟩
  · rw [hr]
    exact hfail _ h
  · rw [hr]
    exact hnext _ h
  · rw [hr]
    exact h

theorem calls_send_header (c : SyncCtx ω) (h : P c.os c.log) :
    P (stateProcessSendHeader cfg c).2.os (stateProcessSendHeader cfg c).2.log := by
  refine calls_after_read c _ _ _ h (fun d hd => calls_fail_message hP d _ hd) (fun d hd => ?_)
  unfold sendHeader
  split_ifs
  · exact hd
  · exact calls_fail_message hP d _ hd
  · exact hd

theorem calls_send_sym (c : SyncCtx ω) (h : P c.os c.log) :
    P (stateProcessSendSym cfg fs c).2.os (stateProcessSendSym cfg fs c).2.log := by
  refine calls_after_read c _ _ _ h (fun d hd => calls_fail_message hP d _ hd) (fun d hd => ?_)
  have hlink (target : List UInt8) := hP _ _ _ _ hd (.symlink d.os target d.svc.u.linkText)
  unfold sendSymTarget
  dsimp only
  split_ifs
  · exact calls_fail_message hP d _ hd
  · exact calls_fail_message hP _ _ (hlink _)
  · exact hlink _

theorem calls_write_retry (fd : ℤ) (bs : List UInt8) (k : ℕ) (c : SyncCtx ω) (h : P c.os c.log) :
    P (writeRetry fs fd bs k c).2.os (writeRetry fs fd bs k c).2.log := by
  induction k generalizing c with
  | zero => exact hP _ _ _ _ h (.write _ _ _)
  | succ k ih =>
    have hwrite := hP _ _ _ _ h (.write c.os fd bs)
    rw [writeRetry]
    split
    · exact ih _ hwrite
    · exact hwrite

theorem calls_write_loop (fd : ℤ) (n : ℕ) (c : SyncCtx ω) (bs : List UInt8) (h : P c.os c.log) :
    P (writeLoop fs fd n c bs).2.os (writeLoop fs fd n c bs).2.log := by
  induction n generalizing c bs with
  | zero => exact h
  | succ n ih =>
    have hretry := calls_write_retry hP fd bs (fs.interrupts c.os) c h
    rw [writeLoop]
    split
    · exact h
    · dsimp only
      split
      · exact ih _ _ hretry
      · exact hretry

theorem calls_send_file (c : SyncCtx ω) (h : P c.os c.log) :
    P (stateProcessSendFile cfg fs c).2.os (stateProcessSendFile cfg fs c).2.log := by
  have hblock (d : SyncCtx ω) (block : List UInt8) (hd : P d.os d.log) :
      P (writeBlock fs d block).2.os (writeBlock fs d block).2.log := by
    unfold writeBlock
    split
    · exact calls_write_loop hP _ _ d block hd
    · exact hd
  have hwritten (n m : ℕ) (block : List UInt8) := hblock ((c.setNamelen n).skip m) block h
  unfold stateProcessSendFile
  dsimp only
  split
  · split <;> exact hwritten _ _ _
  · exact calls_fail_message hP _ _ (hwritten _ _ _)

theorem calls_process (c : SyncCtx ω) (h : P c.os c.log) :
    P (stateProcess cfg fs c).2.os (stateProcess cfg fs c).2.log := by
  unfold stateProcess
  split
  · refine calls_after_read (c.emit _) _ _ _ (hP _ _ _ _ h (.header _ _)) (fun d hd => hd)
      (fun d hd => ?_)
    unfold requestHeader
    split_ifs <;> exact hd
  · refine calls_after_read c _ _ _ h (fun d hd => hd) (fun d hd => ?_)
    unfold requestName
    split
    · exact hd
    · exact calls_init hP _ (hP _ _ _ _ hd (.exec _ _ _))
  · exact calls_send_header hP c h
  · exact calls_send_header hP c h
  · exact calls_send_file hP c h
  · split
    · exact calls_send_sym hP c h
    · exact h
  · exact h
  · exact h

theorem calls_reset (c : SyncCtx ω) (h : P c.os c.log) :
    P (stateReset fs c).os (stateReset fs c).log := by
  unfold stateReset
  cases c.svc.state with
  | processList => exact hP _ _ _ _ (hP _ _ _ _ h (.free _ _)) (.closedir _ _)
  | processRecv => exact hP _ _ _ _ h (.close _ _)
  | processSendSymHdr => exact hP _ _ _ _ h (.free _ _)
  | processSendSymData => exact hP _ _ _ _ h (.free _ _)
  | processSendFileHdr => exact hP _ _ _ _ h (.close _ _)
  | processSendFileData => exact hP _ _ _ _ h (.close _ _)
  | waitCmd => exact h
  | waitCmdData => exact h

theorem calls_on_write (c : SyncCtx ω) (h : P c.os c.log) :
    P (fileSyncOnWrite cfg fs c).2.os (fileSyncOnWrite cfg fs c).2.log := by
  refine sync_loop_invariant cfg fs (fun r => P r.2.os r.2.log) (fun _ d _ _ hd => ?_) _ _ h
  unfold syncIter
  dsimp only
  split
  · exact calls_reset hP _ (calls_process hP d hd)
  · exact calls_process hP d hd

theorem calls_on_ack (c : SyncCtx ω) (h : P c.os c.log) :
    P (fileSyncOnAck cfg fs c).2.os (fileSyncOnAck cfg fs c).2.log := by
  have hack : P (stateAck cfg fs c.rewind).2.os (stateAck cfg fs c.rewind).2.log := by
    unfold stateAck
    split
    · exact calls_process_recv hP _ h
    · exact calls_process_list hP _ h
    all_goals exact h
  unfold fileSyncOnAck
  dsimp only
  split
  · exact hack
  · exact calls_reset hP _ hack

theorem calls_step (s : SyncRun ω) (i : SyncInput cfg) (h : P s.os s.log) :
    P (syncStep cfg fs s i).os (syncStep cfg fs s i).log := by
  have hafter (r : ℤ × SyncCtx ω) (hr : P r.2.os r.2.log) :
      P (afterCallback fs r).os (afterCallback fs r).log := by
    unfold afterCallback
    split
    · exact calls_reset hP _ hr
    · exact hr
  unfold syncStep
  split
  · exact h
  · cases i with
    | write f => exact hafter _ (calls_on_write hP _ h)
    | ack f => exact hafter _ (calls_on_ack hP _ h)
    | close => exact calls_reset hP _ h

end

/-- What a run adds to its trace is what it has done to the file system. -/
theorem run_performed (fs : FileSystem ω) (s : SyncRun ω) (is : List (SyncInput cfg)) :
    ∃ es, (run (syncStep cfg fs) s is).log = s.log ++ es ∧
      Performed fs s.os es (run (syncStep cfg fs) s is).os := by
  have hP : Callwise fs (fun os l => ∃ es, l = s.log ++ es ∧ Performed fs s.os es os) := by
    rintro os _ e os' ⟨es,rfl,h⟩ he
    exact ⟨es ++ [e],List.append_assoc _ _ _,h.snoc he⟩
  exact run_invariant (syncStep cfg fs)
    (fun t => ∃ es, t.log = s.log ++ es ∧ Performed fs s.os es t.os)
    (fun t i h => calls_step hP t i h) s ⟨[],(List.append_nil _).symm,.nil⟩ is

end MicroADB
