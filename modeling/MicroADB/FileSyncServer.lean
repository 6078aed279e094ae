import MicroADB.FileSyncDirs
import MicroADB.FileSyncRequest
import MicroADB.Monitor

/-! What the file sync service is for: a server that is given one request at a time and makes the
calls that its kind prescribes, in their order, on the paths that it names. A run of the service
makes the calls of this server, however its requests are cut into packets and whatever fails. -/
namespace MicroADB
open ByteMemory EventRun Monitor

/-- What is to be done next, with what is held for it. -/
inductive Job
  | idle
  | stat (path : List UInt8)
  | list (dir : List UInt8)
  | opendir (b : ℕ) (dir : List UInt8)
  | listing (b d : ℕ) (dir : List UInt8)
  | entry (b d : ℕ) (dir name : List UInt8)
  | listed (b d : ℕ)
  | closedir (d : ℕ)
  | unlink (path : List UInt8) (mode : ℕ) (isLink : Bool)
  | makeDirs (dirs : List (List UInt8)) (path : List UInt8) (mode : ℕ) (isLink : Bool)
  | upload (fd : ℤ)
  | symlink (b : ℕ) (path : List UInt8)
  | free (b : ℕ)
  | recv (path : List UInt8)
  | download (fd : ℤ)
  | close (fd : ℤ)
deriving DecidableEq, Repr

/-- The path of an entry, up to its first NUL. -/
def entryPath (dir name : List UInt8) : List UInt8 := (dir ++ 47 :: name).takeWhile (fun b => b ≠ 0)

/-- The first thing to be done for a request. A directory whose path leaves no room for an entry is
not listed, and other commands are not known. -/
def requested (cfg : Config) (cmd : ℕ) (name : List UInt8) : Job :=
  if cmd = idStat then .stat (cName cfg name)
  else if cmd = idList then
    if cfg.pathMax-3 ≤ (cName cfg name).length then .idle else .list (cName cfg name)
  else if cmd = idSend then
    .unlink (sendPath cfg name) (sendMode cfg name &&& 0o777) (sIsLnk (sendMode cfg name))
  else if cmd = idRecv then .recv (cName cfg name)
  else .idle

/-- The job behind an event that is what was expected. -/
def expect (p : Prop) [Decidable p] (job : Job) : Option Job := if p then some job else none

@[simp] theorem expect_of {p : Prop} [Decidable p] (h : p) (job : Job) :
    expect p job = some job := if_pos h

/-- The calls of a job, by what they return. -/
def serve (cfg : Config) : Job → SyncEvent → Option Job
  | job, .header _ => some job
  | job, .room _ => some job
  | .idle, .exec cmd name => some (requested cfg cmd name)
  | .stat path, .stat path' _ => expect (path' = path) .idle
  | .list dir, .malloc n res =>
    expect (n = cfg.pathMax) (match res with | some b => .opendir b dir | none => .idle)
  | .opendir b dir, .opendir dir' res =>
    expect (dir' = dir) (match res with | some d => .listing b d dir | none => .free b)
  | .listing b d dir, .readdir d' res =>
    expect (d' = d) (match res with
      | some name =>
        if dir.length+1+name.length < cfg.pathMax then .entry b d dir name else .listing b d dir
      | none => .listed b d)
  | .entry b d dir name, .lstat path _ => expect (path = entryPath dir name) (.listing b d dir)
  | .listing b d _, .free b' => expect (b' = b) (.closedir d)
  | .listed b d, .free b' => expect (b' = b) (.closedir d)
  | .closedir d, .closedir d' => expect (d' = d) .idle
  | .unlink path mode isLink, .unlink path' =>
    expect (path' = path)
      (if path.head? = some 47 then .makeDirs (parents path) path mode isLink else .idle)
  | .makeDirs (dir :: dirs) path mode isLink, .mkdir dir' ret errno =>
    expect (dir' = dir)
      (if 0 ≤ ret ∨ errno = eEXIST then .makeDirs dirs path mode isLink else .idle)
  | .makeDirs [] path mode false, .openFile path' mode' fd =>
    expect (path' = path ∧ mode' = .create mode) (if 0 ≤ fd then .upload fd else .idle)
  | .makeDirs [] path _ true, .malloc n res =>
    expect (n = path.length+1) (match res with | some b => .symlink b path | none => .idle)
  | .upload fd, .write fd' _ ret errno =>
    expect (fd' = fd) (if 0 < ret ∨ ret < 0 ∧ errno = eINTR then .upload fd else .close fd)
  | .upload fd, .close fd' => expect (fd' = fd) .idle
  | .symlink b path, .symlink _ path' ret =>
    expect (path' = path) (if ret = 0 then .symlink b path else .free b)
  | .symlink b _, .free b' => expect (b' = b) .idle
  | .free b, .free b' => expect (b' = b) .idle
  | .recv path, .openFile path' mode fd =>
    expect (path' = path ∧ mode = .rdonly) (if 0 ≤ fd then .download fd else .idle)
  | .download fd, .read fd' res =>
    expect (fd' = fd) (if res = none ∨ res = some 0 then .close fd else .download fd)
  | .download fd, .close fd' => expect (fd' = fd) .idle
  | .close fd, .close fd' => expect (fd' = fd) .idle
  | _, _ => none

/-! One step, event by event. -/

section Serve

variable (cfg : Config) (path path' dir dir' name : List UInt8) (mode n b b' d d' : ℕ) (fd fd' : ℤ)

@[simp] theorem serve_header (job : Job) : serve cfg job (.header n) = some job := by
  cases job <;> rfl

@[simp] theorem serve_room (job : Job) (n : ℤ) : serve cfg job (.room n) = some job := by
  cases job <;> rfl

@[simp] theorem serve_exec (cmd : ℕ) :
    serve cfg .idle (.exec cmd name) = some (requested cfg cmd name) := rfl

@[simp] theorem serve_stat (found : Bool) :
    serve cfg (.stat path) (.stat path' found) = expect (path' = path) .idle := rfl

@[simp] theorem serve_list_malloc (res : Option ℕ) : serve cfg (.list dir) (.malloc n res) =
    expect (n = cfg.pathMax) (match res with | some b => .opendir b dir | none => .idle) := rfl

@[simp] theorem serve_opendir (res : Option ℕ) : serve cfg (.opendir b dir) (.opendir dir' res) =
    expect (dir' = dir) (match res with | some d => .listing b d dir | none => .free b) := rfl

@[simp] theorem serve_readdir (res : Option (List UInt8)) :
    serve cfg (.listing b d dir) (.readdir d' res) =
      expect (d' = d) (match res with
        | some name =>
          if dir.length+1+name.length < cfg.pathMax then .entry b d dir name else .listing b d dir
        | none => .listed b d) := rfl

@[simp] theorem serve_lstat (found : Bool) : serve cfg (.entry b d dir name) (.lstat path found) =
    expect (path = entryPath dir name) (.listing b d dir) := rfl

@[simp] theorem serve_listing_free :
    serve cfg (.listing b d dir) (.free b') = expect (b' = b) (.closedir d) := rfl

@[simp] theorem serve_listed_free :
    serve cfg (.listed b d) (.free b') = expect (b' = b) (.closedir d) := rfl

@[simp] theorem serve_closedir :
    serve cfg (.closedir d) (.closedir d') = expect (d' = d) .idle := rfl

@[simp] theorem serve_unlink (isLink : Bool) : serve cfg (.unlink path mode isLink) (.unlink path') =
    expect (path' = path)
      (if path.head? = some 47 then .makeDirs (parents path) path mode isLink else .idle) := rfl

@[simp] theorem serve_mkdir (dirs : List (List UInt8)) (isLink : Bool) (ret : ℤ) (errno : ℕ) :
    serve cfg (.makeDirs (dir :: dirs) path mode isLink) (.mkdir dir' ret errno) =
      expect (dir' = dir)
        (if 0 ≤ ret ∨ errno = eEXIST then .makeDirs dirs path mode isLink else .idle) := rfl

@[simp] theorem serve_create (mode' : OpenMode) :
    serve cfg (.makeDirs [] path mode false) (.openFile path' mode' fd) =
      expect (path' = path ∧ mode' = .create mode) (if 0 ≤ fd then .upload fd else .idle) := rfl

@[simp] theorem serve_link_malloc (res : Option ℕ) :
    serve cfg (.makeDirs [] path mode true) (.malloc n res) =
      expect (n = path.length+1) (match res with | some b => .symlink b path | none => .idle) := rfl

@[simp] theorem serve_write (bytes : List UInt8) (ret : ℤ) (errno : ℕ) :
    serve cfg (.upload fd) (.write fd' bytes ret errno) =
      expect (fd' = fd) (if 0 < ret ∨ ret < 0 ∧ errno = eINTR then .upload fd else .close fd) := rfl

@[simp] theorem serve_upload_close :
    serve cfg (.upload fd) (.close fd') = expect (fd' = fd) .idle := rfl

@[simp] theorem serve_symlink (target : List UInt8) (ret : ℤ) :
    serve cfg (.symlink b path) (.symlink target path' ret) =
      expect (path' = path) (if ret = 0 then .symlink b path else .free b) := rfl

@[simp] theorem serve_symlink_free :
    serve cfg (.symlink b path) (.free b') = expect (b' = b) .idle := rfl

@[simp] theorem serve_free : serve cfg (.free b) (.free b') = expect (b' = b) .idle := rfl

@[simp] theorem serve_recv (mode' : OpenMode) :
    serve cfg (.recv path) (.openFile path' mode' fd) =
      expect (path' = path ∧ mode' = .rdonly) (if 0 ≤ fd then .download fd else .idle) := rfl

@[simp] theorem serve_read (res : Option ℕ) : serve cfg (.download fd) (.read fd' res) =
    expect (fd' = fd) (if res = none ∨ res = some 0 then .close fd else .download fd) := rfl

@[simp] theorem serve_download_close :
    serve cfg (.download fd) (.close fd') = expect (fd' = fd) .idle := rfl

@[simp] theorem serve_close : serve cfg (.close fd) (.close fd') = expect (fd' = fd) .idle := rfl

end Serve

/-- What the service is doing in its state. -/
def AfsService.job (s : AfsService) : Job :=
  match s.state with
  | .waitCmd | .waitCmdData => .idle
  | .processRecv => .download s.u.fd
  | .processList => .listing s.u.path s.u.d (slice s.u.text 0 (s.u.filePtr-1))
  | .processSendFileHdr | .processSendFileData => .upload s.u.fd
  | .processSendSymHdr | .processSendSymData => .symlink s.u.linkPath s.u.linkText

/-- The calls so far have led to what the service is doing. In list.path a slash is in front of
list.file_ptr. -/
structure Doing (cfg : Config) (s : AfsService) (l : List SyncEvent) : Prop where
  job : follow (serve cfg) .idle l = some s.job
  slash : s.state = .processList → 0 < s.u.filePtr ∧ s.u.text (s.u.filePtr-1) = 47

namespace AfsUnion

variable (d path : ℕ) (text : Mem) (filePtr : ℕ)

@[simp] theorem list_d : (list d path text filePtr).d = d := rfl
@[simp] theorem list_path : (list d path text filePtr).path = path := rfl
@[simp] theorem list_text : (list d path text filePtr).text = text := rfl
@[simp] theorem list_filePtr : (list d path text filePtr).filePtr = filePtr := rfl

end AfsUnion

variable {ω : Type} {cfg : Config} {fs : FileSystem ω}

theorem Doing.same {s s' : AfsService} {l : List SyncEvent} (h : Doing cfg s l)
    (hs : s'.state = s.state) (hu : s'.u = s.u) : Doing cfg s' l := by
  have hjob : s'.job = s.job := by
    unfold AfsService.job
    rw [hs, hu]
  refine ⟨hjob ▸ h.job,fun hl => ?_⟩
  rw [hu]
  exact h.slash (hs ▸ hl)

/-- An event that every job allows. -/
theorem Doing.aside {s : AfsService} {l : List SyncEvent} (h : Doing cfg s l) {e : SyncEvent}
    (he : serve cfg s.job e = some s.job) : Doing cfg s (l ++ [e]) :=
  ⟨follow_trans h.job (follow_still (by simpa using he)),h.slash⟩

theorem Doing.fail_message {c : SyncCtx ω} (h : Doing cfg c.svc c.log) (reason : List UInt8) :
    Doing cfg (prepareFailMessage cfg c reason).svc (prepareFailMessage cfg c reason).log :=
  h.aside (serve_room cfg _ _)

/-! The end of a job. -/

/-- The service is done with its request. -/
theorem doing_idle {s : AfsService} {l : List SyncEvent}
    (hs : s.state = .waitCmd ∨ s.state = .waitCmdData)
    (h : follow (serve cfg) .idle l = some .idle) : Doing cfg s l := by
  refine ⟨?_,fun hl => ?_⟩
  · rcases hs with hs | hs <;> simpa [AfsService.job, hs] using h
  · rw [hl] at hs
    rcases hs with hs | hs <;> cases hs

theorem Doing.reset {c : SyncCtx ω} (h : Doing cfg c.svc c.log) :
    Doing cfg (stateReset fs c).svc (stateReset fs c).log := by
  refine doing_idle (Or.inl (by rw [state_reset_svc])) ?_
  have hjob := h.job
  unfold stateReset
  unfold AfsService.job at hjob
  cases hs : c.svc.state <;> simp only [hs] at hjob ⊢ <;> simp [hjob]

/-- What an iteration or an acknowledge leaves: a handler that is done or has failed is reset. -/
def settled (fs : FileSystem ω) (r : ℤ × SyncCtx ω) : SyncCtx ω :=
  if r.1 ≤ 0 then stateReset fs r.2 else r.2

def Handled (cfg : Config) (fs : FileSystem ω) (r : ℤ × SyncCtx ω) : Prop :=
  Doing cfg (settled fs r).svc (settled fs r).log

theorem Doing.handled {r : ℤ × SyncCtx ω} (h : Doing cfg r.2.svc r.2.log) : Handled cfg fs r := by
  unfold Handled settled
  split
  · exact h.reset
  · exact h

/-- A handler that ends its request with a job that only releases what is held. -/
theorem handled_end {r : ℤ × SyncCtx ω} (job : Job) (es : List SyncEvent) (hr : r.1 = 0)
    (hjob : follow (serve cfg) .idle r.2.log = some job)
    (hlog : (stateReset fs r.2).log = r.2.log ++ es)
    (hes : follow (serve cfg) job es = some .idle) : Handled cfg fs r := by
  unfold Handled settled
  rw [if_pos hr.le]
  refine doing_idle (Or.inl (by rw [state_reset_svc])) ?_
  rw [hlog]
  exact follow_trans hjob hes

/-- A handler that ends its request with nothing held. -/
theorem handled_idle {r : ℤ × SyncCtx ω} (hs : r.2.svc.state = .waitCmd ∨ r.2.svc.state = .waitCmdData)
    (h : follow (serve cfg) .idle r.2.log = some .idle) : Handled cfg fs r :=
  (doing_idle hs h).handled

/-! The handlers. -/

variable (cfg fs)

theorem handled_stat (c : SyncCtx ω) (hs : c.svc.state = .waitCmdData)
    (h : follow (serve cfg) .idle c.log = some (.stat (c.name cfg))) :
    Handled cfg fs (stateInitStat cfg fs c) := by
  unfold stateInitStat
  dsimp only
  split
  · exact handled_idle (Or.inl rfl) (by simp [h])
  · exact handled_idle (Or.inr hs) (by simp [h])

/-- list.path with a name behind the slash. -/
theorem list_path_text (text : Mem) (n : ℕ) (name : List UInt8) (hpos : 0 < n)
    (hslash : text (n-1) = 47) (hfits : n+name.length < cfg.pathMax) :
    cstring (store text n (name ++ [0])) 0 cfg.pathMax = entryPath (slice text 0 (n-1)) name := by
  have hfront : slice text 0 n = slice text 0 (n-1) ++ [47] := by
    have hadd := slice_add text 0 (n-1) 1
    rw [Nat.sub_add_cancel hpos, Nat.zero_add, slice_succ, slice_zero, hslash] at hadd
    exact hadd
  have hname : slice (store text n (name ++ [0])) n name.length = name := by
    have hstored := congrArg (List.take name.length) (slice_store_self text n (name ++ [0]))
    rwa [take_slice, min_eq_left (by simp), List.take_left] at hstored
  have hlen : (slice text 0 (n-1) ++ 47 :: name).length = n+name.length := by
    simp only [List.length_append, length_slice, List.length_cons]
    omega
  refine cstring_of_text _ 0 _ _ ?_ ?_ (hlen ▸ hfits)
  · rw [hlen, slice_add, Nat.zero_add, hname, slice_store_disjoint _ _ _ _ _ (Or.inl (by omega)),
      hfront, List.append_assoc]
    rfl
  · rw [hlen, Nat.zero_add, store_apply_of_mem text n name.length (name ++ [0]) (by simp)]
    simp

/-- One entry, behind the call of readdir that yielded it. -/
theorem doing_stat_entry (c : SyncCtx ω) (name : List UInt8) (hs : c.svc.state = .processList)
    (hslash : 0 < c.svc.u.filePtr ∧ c.svc.u.text (c.svc.u.filePtr-1) = 47)
    (h : follow (serve cfg) .idle c.log =
      some (if (slice c.svc.u.text 0 (c.svc.u.filePtr-1)).length+1+name.length < cfg.pathMax then
        .entry c.svc.u.path c.svc.u.d (slice c.svc.u.text 0 (c.svc.u.filePtr-1)) name
      else .listing c.svc.u.path c.svc.u.d (slice c.svc.u.text 0 (c.svc.u.filePtr-1)))) :
    Doing cfg (statEntry cfg fs c name).svc (statEntry cfg fs c name).log := by
  rw [length_slice, Nat.sub_add_cancel hslash.1] at h
  unfold statEntry
  dsimp only
  have hfront (bs : List UInt8) :
      slice (store c.svc.u.text c.svc.u.filePtr bs) 0 (c.svc.u.filePtr-1) =
        slice c.svc.u.text 0 (c.svc.u.filePtr-1) :=
    slice_store_disjoint _ _ _ _ _ (Or.inl (by omega))
  split
  · rename_i hlong
    rw [if_neg (by omega)] at h
    refine ⟨?_,fun _ => hslash⟩
    simp [h, AfsService.job, hs]
  · rename_i hfits
    rw [if_pos (by omega)] at h
    have hpath := list_path_text cfg c.svc.u.text c.svc.u.filePtr name hslash.1 hslash.2 (by omega)
    have hkept : store c.svc.u.text c.svc.u.filePtr (name ++ [0]) (c.svc.u.filePtr-1) = 47 := by
      rw [store_apply_of_lt _ _ _ _ (by omega)]
      exact hslash.2
    split <;> refine ⟨?_,fun _ => ⟨hslash.1,hkept⟩⟩ <;>
      simp [h, AfsService.job, hs, hpath, hfront]

theorem handled_process_list (c : SyncCtx ω) (hs : c.svc.state = .processList)
    (h : Doing cfg c.svc c.log) : Handled cfg fs (stateProcessList cfg fs c) := by
  have hslash := h.slash hs
  have hjob := h.job
  simp only [AfsService.job, hs] at hjob
  unfold stateProcessList
  dsimp only
  split
  · rename_i hres
    refine handled_end (.listed c.svc.u.path c.svc.u.d) [.free c.svc.u.path,.closedir c.svc.u.d] rfl ?_ ?_ ?_
    · simp [hjob, hres]
    · simp [stateReset, hs]
    · simp
  · rename_i name hres
    apply Doing.handled
    have hentry := doing_stat_entry cfg fs (sysReaddir fs c c.svc.u.d).2 name hs hslash
      (by simp [hjob, hres])
    exact hentry.aside (serve_room cfg _ _)

theorem handled_init_list (c : SyncCtx ω) (hs : c.svc.state = .waitCmdData)
    (h : follow (serve cfg) .idle c.log = some (if cfg.pathMax-3 ≤ (c.name cfg).length then .idle
      else .list (c.name cfg))) : Handled cfg fs (stateInitList cfg fs c) := by
  unfold stateInitList
  dsimp only
  split
  · rename_i hlong
    rw [if_pos hlong] at h
    exact handled_idle (Or.inr hs) (by simpa using h)
  · rename_i hshort
    rw [if_neg hshort] at h
    split
    · rename_i hm
      exact handled_idle (Or.inr hs) (by simp [h, hm])
    · rename_i path hm
      split
      · rename_i ho
        exact handled_idle (Or.inr hs) (by simp [h, hm, ho])
      · rename_i d ho
        refine handled_process_list cfg fs _ rfl ⟨?_,fun _ => ⟨Nat.succ_pos _,?_⟩⟩
        · have hname : slice (store path.2 0 (c.name cfg ++ [47])) 0 (c.name cfg).length =
              c.name cfg := by
            have hstored := congrArg (List.take (c.name cfg).length)
              (slice_store_self path.2 0 (c.name cfg ++ [47]))
            rwa [take_slice, min_eq_left (by simp), List.take_left] at hstored
          simp [h, hm, ho, AfsService.job, hname]
        · have hstored := store_apply_of_mem path.2 0 (c.name cfg).length (c.name cfg ++ [47])
            (by simp)
          simpa using hstored

theorem handled_process_recv (c : SyncCtx ω) (hs : c.svc.state = .processRecv)
    (h : Doing cfg c.svc c.log) : Handled cfg fs (stateProcessRecv cfg fs c) := by
  have hjob := h.job
  simp only [AfsService.job, hs] at hjob
  unfold stateProcessRecv
  dsimp only
  split
  · rename_i hres
    refine handled_end (.close c.svc.u.fd) [.close c.svc.u.fd] rfl ?_ ?_ ?_
    · simp [hjob, hres]
    · simp [stateReset, hs]
    · simp
  · rename_i bs hres
    split
    · rename_i hnil
      refine handled_end (.close c.svc.u.fd) [.close c.svc.u.fd] rfl ?_ ?_ ?_
      · simp [hjob, hres, hnil]
      · simp [stateReset, hs]
      · simp
    · rename_i hne
      apply Doing.handled
      refine ⟨?_,fun hl => ?_⟩
      · simp [hjob, hres, hne, AfsService.job, hs]
      · exact absurd (hs.symm.trans hl) (by decide)

theorem handled_init_recv (c : SyncCtx ω) (hs : c.svc.state = .waitCmdData)
    (h : follow (serve cfg) .idle c.log = some (.recv (c.name cfg))) :
    Handled cfg fs (stateInitRecv cfg fs c) := by
  unfold stateInitRecv
  dsimp only
  split
  · rename_i hfd
    exact handled_idle (Or.inr hs) (by simp [h, not_le.mpr hfd])
  · rename_i hfd
    refine handled_process_recv cfg fs _ rfl ⟨?_,fun hl => by cases hl⟩
    simp [h, not_lt.mp hfd, AfsService.job, AfsUnion.fd]

/-- The walk over the directories of a path: they are made, or one cannot be. -/
theorem make_dirs_served (dirs : List (List UInt8)) (path : List UInt8) (mode : ℕ) (isLink : Bool)
    (c : SyncCtx ω)
    (h : follow (serve cfg) .idle c.log = some (.makeDirs dirs path mode isLink)) :
    follow (serve cfg) .idle (makeDirs fs dirs c).2.log =
      some (if (makeDirs fs dirs c).1 = 0 then .makeDirs [] path mode isLink else .idle) := by
  induction dirs generalizing c with
  | nil => exact h
  | cons dir dirs ih =>
    have hcall : (sysMkdir fs c dir 0o775).2.log = c.log ++
        [.mkdir dir (sysMkdir fs c dir 0o775).1 (fs.errno (sysMkdir fs c dir 0o775).2.os)] := rfl
    rw [makeDirs]
    generalize sysMkdir fs c dir 0o775 = r at hcall
    split
    · rename_i hbad
      rw [if_neg (by omega), hcall]
      have hfail : ¬(0 ≤ r.1 ∨ fs.errno r.2.os = eEXIST) :=
        not_or.mpr ⟨not_le.mpr hbad.1,hbad.2⟩
      simp [h, hfail]
    · rename_i hgood
      apply ih
      have hok : 0 ≤ r.1 ∨ fs.errno r.2.os = eEXIST := by
        by_contra hno
        exact hgood ⟨not_le.mp (not_or.mp hno).1,(not_or.mp hno).2⟩
      rw [hcall]
      simp [h, hok]

theorem handled_init_send_file (c : SyncCtx ω) (mode : ℕ) (hs : c.svc.state = .waitCmdData)
    (h : follow (serve cfg) .idle c.log = some (.makeDirs [] (c.name cfg) mode false)) :
    Handled cfg fs (stateInitSendFile cfg fs c mode) := by
  unfold stateInitSendFile
  dsimp only
  split
  · rename_i hfd
    exact handled_idle (Or.inr hs) (by simp [h, not_le.mpr hfd])
  · rename_i hfd
    apply Doing.handled
    refine ⟨?_,fun hl => by cases hl⟩
    simp [h, not_lt.mp hfd, AfsService.job, AfsUnion.fd]

theorem handled_init_send_link (c : SyncCtx ω) (mode : ℕ) (hs : c.svc.state = .waitCmdData)
    (hlt : (c.name cfg).length < cfg.pathMax)
    (h : follow (serve cfg) .idle c.log = some (.makeDirs [] (c.name cfg) mode true)) :
    Handled cfg fs (stateInitSendLink cfg fs c) := by
  unfold stateInitSendLink
  dsimp only
  rw [if_neg (not_le.mpr hlt)]
  split
  · rename_i hm
    exact handled_idle (Or.inr hs) (by simp [h, hm])
  · rename_i hm
    apply Doing.handled
    refine ⟨?_,fun hl => by cases hl⟩
    simp [h, hm, AfsService.job, AfsUnion.linkPath, AfsUnion.linkText]

theorem handled_init_send_path (c : SyncCtx ω) (mode : ℕ) (isLink : Bool)
    (hs : c.svc.state = .waitCmdData) (hlt : (c.name cfg).length < cfg.pathMax)
    (h : follow (serve cfg) .idle c.log = some (.unlink (c.name cfg) mode isLink)) :
    Handled cfg fs (stateInitSendPath cfg fs c mode isLink) := by
  set d := sysUnlink fs c (c.name cfg) with hd
  have hname : d.name cfg = c.name cfg := rfl
  have hunlinked : follow (serve cfg) .idle d.log = some (if (c.name cfg).head? = some 47 then
      .makeDirs (parents (c.name cfg)) (c.name cfg) mode isLink else .idle) := by
    simp [hd, h]
  have hdef : stateInitSendPath cfg fs c mode isLink =
      if (createPathDirectories cfg fs d).1 ≠ 0 then
        (0, prepareFailErrno cfg fs (createPathDirectories cfg fs d).2)
      else if isLink then stateInitSendLink cfg fs (createPathDirectories cfg fs d).2
      else stateInitSendFile cfg fs (createPathDirectories cfg fs d).2 mode := rfl
  have hsvc := create_path_directories_svc cfg fs d
  rw [hdef]
  by_cases habs : (c.name cfg).head? = some 47
  · rw [if_pos habs] at hunlinked
    obtain ⟨hwalk,-⟩ := create_path_directories_walks cfg fs d (c.name cfg) hname hlt habs
    have hmade := make_dirs_served cfg fs _ _ _ _ d hunlinked
    rw [← hwalk] at hmade
    have hname' : (createPathDirectories cfg fs d).2.name cfg = c.name cfg := by
      rw [SyncCtx.name, hsvc]
      exact hname
    have hs' : (createPathDirectories cfg fs d).2.svc.state = .waitCmdData := by
      rw [hsvc]
      exact hs
    generalize createPathDirectories cfg fs d = r at *
    split
    · rename_i hbad
      rw [if_neg hbad] at hmade
      exact handled_idle (Or.inr hs') (by simpa using hmade)
    · rename_i hzero
      rw [not_not] at hzero
      rw [if_pos hzero, ← hname'] at hmade
      cases isLink with
      | true => exact handled_init_send_link cfg fs _ mode hs' (hname' ▸ hlt) hmade
      | false => exact handled_init_send_file cfg fs _ mode hs' hmade
  · rw [if_neg habs] at hunlinked
    have hfirst : c.svc.buff 0 ≠ 47 := by
      intro h47
      have hpos := cfg.pathMax_ge
      obtain ⟨k,hk⟩ := Nat.exists_eq_succ_of_ne_zero (by omega : cfg.pathMax ≠ 0)
      rw [SyncCtx.name, hk, cstring, if_neg (by rw [h47]; decide), List.head?_cons, h47] at habs
      exact habs rfl
    have hrefused : createPathDirectories cfg fs d = (-1, d) := if_pos hfirst
    rw [hrefused, if_pos (show (-1 : ℤ) ≠ 0 by decide)]
    exact handled_idle (Or.inr hs) (by simpa using hunlinked)

theorem send_path_lt (name : List UInt8) (hlt : name.length < cfg.pathMax) :
    (sendPath cfg name).length < cfg.pathMax := (send_path_length cfg name).trans_lt hlt

/-- The name of a complete request is in buff, with its terminator. -/
theorem handled_request (c : SyncCtx ω) (name : List UInt8) (hs : c.svc.state = .waitCmdData)
    (hname : slice c.svc.buff 0 name.length = name) (hnul : c.svc.buff name.length = 0)
    (hlt : name.length < cfg.pathMax)
    (h : follow (serve cfg) .idle c.log = some (requested cfg c.svc.cmd name)) :
    Handled cfg fs (stateInit cfg fs c) := by
  have hstr : c.name cfg = cName cfg name :=
    cstring_congr _ _ _ _ name.length (name_mem_end name) (Nat.zero_le _)
      (fun i _ hi => name_mem_of_slice _ name hname hnul i hi)
  unfold requested at h
  unfold stateInit
  split
  · rename_i hcmd
    rw [if_pos hcmd, ← hstr] at h
    exact handled_stat cfg fs c hs h
  rename_i hstat
  rw [if_neg hstat] at h
  split
  · rename_i hcmd
    rw [if_pos hcmd, ← hstr] at h
    exact handled_init_list cfg fs c hs h
  rename_i hlist
  rw [if_neg hlist] at h
  split
  · rename_i hcmd
    rw [if_pos hcmd] at h
    obtain ⟨m,hsend,hpath,-⟩ := state_init_send_eq cfg fs c name hname hnul
    rw [← hpath] at h
    rw [hsend]
    refine handled_init_send_path cfg fs _ _ _ hs ?_ h
    rw [hpath]
    exact send_path_lt cfg name hlt
  rename_i hsend
  rw [if_neg hsend] at h
  split
  · rename_i hcmd
    rw [if_pos hcmd, ← hstr] at h
    exact handled_init_recv cfg fs c hs h
  rename_i hrecv
  rw [if_neg hrecv] at h
  -- neither QUIT nor an unknown command makes a call
  split <;> exact handled_idle (Or.inr hs) h

theorem handled_request_name (c : SyncCtx ω) (hs : c.svc.state = .waitCmdData)
    (h : Doing cfg c.svc c.log) : Handled cfg fs (requestName cfg fs c) := by
  have hidle := h.job
  simp only [AfsService.job, hs] at hidle
  unfold requestName
  split
  · exact h.handled
  · rename_i hlt
    set d := c.setBuff (store c.svc.buff c.svc.namelen [0]) with hd
    have hnul : d.svc.buff c.svc.namelen = 0 :=
      store_apply_of_mem c.svc.buff c.svc.namelen 0 [0] (by simp)
    refine handled_request cfg fs _ (slice d.svc.buff 0 c.svc.namelen) hs ?_ ?_ ?_ ?_
    · rw [length_slice]
      rfl
    · rw [length_slice]
      exact hnul
    · rw [length_slice]
      omega
    · simp [hd, hidle]

/-! The readers. -/

theorem handled_after_read (c : SyncCtx ω) (n : ℕ) (fail next : SyncCtx ω → ℤ × SyncCtx ω)
    (h : Doing cfg c.svc c.log)
    (hfail : ∀ d : SyncCtx ω, d.svc.state = c.svc.state → Doing cfg d.svc d.log →
      Handled cfg fs (fail d))
    (hnext : ∀ d : SyncCtx ω, d.svc.state = c.svc.state → Doing cfg d.svc d.log →
      Handled cfg fs (next d)) :
    Handled cfg fs (afterRead (readFromPacket cfg c n) fail next) := by
  rcases after_read_cases cfg c n fail next with ⟨-,hr⟩ | ⟨-,-,-,hr⟩ | ⟨-,-,-,hr⟩
  · rw [hr]
    exact hfail _ rfl (h.same rfl rfl)
  · rw [hr]
    exact hnext _ rfl (h.same rfl rfl)
  · rw [hr]
    exact Doing.handled (h.same rfl rfl)

theorem handled_send_header (c : SyncCtx ω)
    (hs : c.svc.state = .processSendFileHdr ∨ c.svc.state = .processSendSymHdr)
    (h : Doing cfg c.svc c.log) : Handled cfg fs (stateProcessSendHeader cfg c) := by
  refine handled_after_read cfg fs c _ _ _ h (fun d _ hd => (hd.fail_message _).handled) ?_
  intro d hst hd
  rw [← hst] at hs
  have hjob := hd.job
  unfold sendHeader
  split_ifs
  · exact Doing.handled (hd.same rfl rfl)
  · exact (hd.fail_message _).handled
  · apply Doing.handled
    rcases hs with hs | hs
    · refine ⟨?_,fun hl => by simp [hs, AfsState.succ] at hl⟩
      simp only [AfsService.job, hs] at hjob
      simpa [AfsService.job, hs, AfsState.succ] using hjob
    · refine ⟨?_,fun hl => by simp [hs, AfsState.succ] at hl⟩
      simp only [AfsService.job, hs] at hjob
      simpa [AfsService.job, hs, AfsState.succ] using hjob

/-! Writes. -/

theorem sys_write_log (fd : ℤ) (bs : List UInt8) (c : SyncCtx ω) : (sysWrite fs c fd bs).2.log =
    c.log ++ [.write fd bs (sysWrite fs c fd bs).1 (fs.errno (sysWrite fs c fd bs).2.os)] := rfl

/-- A write that is interrupted finitely often, or fails. -/
theorem write_retry_served (fd : ℤ) (bs : List UInt8) (k : ℕ) (c : SyncCtx ω)
    (hk : fs.interrupts c.os ≤ k) (h : follow (serve cfg) .idle c.log = some (.upload fd)) :
    follow (serve cfg) .idle (writeRetry fs fd bs k c).2.log =
      some (if 0 < (writeRetry fs fd bs k c).1 then .upload fd else .close fd) := by
  have hcall : follow (serve cfg) .idle (sysWrite fs c fd bs).2.log =
      some (if 0 < (sysWrite fs c fd bs).1 ∨ (sysWrite fs c fd bs).1 < 0 ∧
        fs.errno (sysWrite fs c fd bs).2.os = eINTR then .upload fd else .close fd) := by
    rw [sys_write_log]
    simp [h]
  have hless := fs.write_interrupted c.os fd bs
  induction k generalizing c with
  | zero =>
    have hno : ¬((sysWrite fs c fd bs).1 < 0 ∧ fs.errno (sysWrite fs c fd bs).2.os = eINTR) := by
      rintro ⟨hneg,hint⟩
      have := hless hneg hint
      omega
    rw [writeRetry, hcall]
    simp only [hno, or_false]
  | succ k ih =>
    rw [writeRetry]
    split
    · rename_i hint
      rw [if_pos (Or.inr hint)] at hcall
      refine ih _ ?_ hcall ?_ (fs.write_interrupted _ fd bs)
      · have := hless hint.1 hint.2
        exact Nat.le_of_lt_succ (this.trans_le hk)
      · rw [sys_write_log]
        simp [hcall]
    · rename_i hno
      rw [hcall]
      simp only [hno, or_false]

theorem write_loop_served (fd : ℤ) (n : ℕ) (c : SyncCtx ω) (bs : List UInt8)
    (h : follow (serve cfg) .idle c.log = some (.upload fd)) :
    follow (serve cfg) .idle (writeLoop fs fd n c bs).2.log =
      some (if (writeLoop fs fd n c bs).1 then .upload fd else .close fd) := by
  induction n generalizing c bs with
  | zero => exact h
  | succ n ih =>
    rw [writeLoop]
    split
    · exact h
    · have hretry := write_retry_served cfg fs fd bs (fs.interrupts c.os) c le_rfl h
      dsimp only
      split
      · rename_i hpos
        rw [if_pos hpos] at hretry
        exact ih _ _ hretry
      · rename_i hneg
        rw [if_neg hneg] at hretry
        exact hretry

theorem handled_send_file (c : SyncCtx ω) (hs : c.svc.state = .processSendFileData)
    (h : Doing cfg c.svc c.log) : Handled cfg fs (stateProcessSendFile cfg fs c) := by
  have hjob := h.job
  simp only [AfsService.job, hs] at hjob
  obtain ⟨d,hd,hsvc,-,hcases⟩ := state_process_send_file_cases cfg fs c
  have hwritten : follow (serve cfg) .idle d.log =
      some (if (writeBlock fs c.takeBlock (c.peek c.blockSize)).1 then .upload c.svc.u.fd
        else .close c.svc.u.fd) := by
    rw [hd]
    unfold writeBlock
    split
    · exact write_loop_served cfg fs _ _ _ _ hjob
    · exact hjob
  have hst : d.svc.state = .processSendFileData := by
    rw [hsvc]
    exact hs
  have hu : d.svc.u = c.svc.u := by
    rw [hsvc]
    rfl
  rcases hcases with ⟨hok,-,hr⟩ | ⟨hok,-,hr⟩ | ⟨hbad,hr⟩
  · rw [hok, if_pos rfl] at hwritten
    rw [hr, hs]
    apply Doing.handled
    refine ⟨?_,fun hl => by cases hl⟩
    simpa [AfsService.job, AfsState.pred, hu] using hwritten
  · rw [hok, if_pos rfl] at hwritten
    rw [hr]
    apply Doing.handled
    refine ⟨?_,fun hl => ?_⟩
    · simpa [AfsService.job, hst, hu] using hwritten
    · exact absurd (hst.symm.trans hl) (by decide)
  · rw [hbad, if_neg (by decide)] at hwritten
    rw [hr]
    refine handled_end (.close c.svc.u.fd) [.close c.svc.u.fd] rfl ?_ ?_ ?_
    · simp [hwritten]
    · simp [stateReset, hst, hu]
    · simp

theorem handled_send_sym (c : SyncCtx ω) (hs : c.svc.state = .processSendSymData)
    (h : Doing cfg c.svc c.log) : Handled cfg fs (stateProcessSendSym cfg fs c) := by
  refine handled_after_read cfg fs c _ _ _ h (fun d _ hd => (hd.fail_message _).handled) ?_
  intro d hst hd
  rw [hs] at hst
  have hjob := hd.job
  simp only [AfsService.job, hst] at hjob
  unfold sendSymTarget
  dsimp only
  split
  · exact (hd.fail_message _).handled
  · split
    · rename_i hbad
      refine handled_end (.free d.svc.u.linkPath) [.free d.svc.u.linkPath] rfl ?_ ?_ ?_
      · simpa [hjob] using hbad
      · simp [stateReset, hst]
      · simp
    · rename_i hok
      apply Doing.handled
      rw [not_not] at hok
      refine ⟨?_,fun hl => by simp [hst, AfsState.pred] at hl⟩
      simpa [hjob, AfsService.job, hst, AfsState.pred] using hok

/-! The callbacks, and runs. -/

theorem handled_process (c : SyncCtx ω) (h : Doing cfg c.svc c.log) :
    Handled cfg fs (stateProcess cfg fs c) := by
  unfold stateProcess
  split
  · rename_i hs
    have hheader : Doing cfg c.svc (c.log ++
        [.header (min (sizeofReq-c.svc.size) c.p.msg.dataLength)]) := h.aside (serve_header cfg _ _)
    refine handled_after_read cfg fs _ _ _ _ hheader (fun d _ hd => hd.handled) ?_
    intro d hst hd
    unfold requestHeader
    split_ifs
    · exact hd.handled
    · exact hd.handled
    · apply Doing.handled
      have hjob := hd.job
      simp only [AfsService.job, hst, SyncCtx.emit_svc, hs] at hjob
      exact doing_idle (Or.inr rfl) hjob
  · rename_i hs
    refine handled_after_read cfg fs c _ _ _ h (fun d _ hd => hd.handled) ?_
    exact fun d hst hd => handled_request_name cfg fs d (hst.trans hs) hd
  · exact handled_send_header cfg fs c (Or.inl ‹_›) h
  · exact handled_send_header cfg fs c (Or.inr ‹_›) h
  · exact handled_send_file cfg fs c ‹_› h
  · split
    · exact handled_send_sym cfg fs c ‹_› h
    · exact h.handled
  · exact h.handled
  · exact h.handled

theorem handled_ack (c : SyncCtx ω) (h : Doing cfg c.svc c.log) :
    Handled cfg fs (stateAck cfg fs c) := by
  unfold stateAck
  split
  · exact handled_process_recv cfg fs c ‹_› h
  · exact handled_process_list cfg fs c ‹_› h
  all_goals exact h.handled

theorem doing_iter (c : SyncCtx ω) (h : Doing cfg c.svc c.log) :
    Doing cfg (syncIter cfg fs c).2.svc (syncIter cfg fs c).2.log := handled_process cfg fs c h

theorem doing_write (c : SyncCtx ω) (h : Doing cfg c.svc c.log) :
    Doing cfg (fileSyncOnWrite cfg fs c).2.svc (fileSyncOnWrite cfg fs c).2.log :=
  sync_loop_invariant cfg fs (fun r => Doing cfg r.2.svc r.2.log)
    (fun _ c _ _ hc => doing_iter cfg fs c hc) _ _ (h.same rfl rfl)

theorem doing_ack (c : SyncCtx ω) (h : Doing cfg c.svc c.log) :
    Doing cfg (fileSyncOnAck cfg fs c).2.svc (fileSyncOnAck cfg fs c).2.log := by
  have hack : Handled cfg fs (stateAck cfg fs c.rewind) := handled_ack cfg fs _ (h.same rfl rfl)
  unfold Handled settled at hack
  unfold fileSyncOnAck
  dsimp only
  split
  · rename_i hpos
    rwa [if_neg (not_le.mpr hpos)] at hack
  · rename_i hneg
    rwa [if_pos (not_lt.mp hneg)] at hack

theorem doing_step (s : SyncRun ω) (i : SyncInput cfg) (h : Doing cfg s.svc s.log) :
    Doing cfg (syncStep cfg fs s i).svc (syncStep cfg fs s i).log := by
  have hafter (r : ℤ × SyncCtx ω) (hr : Doing cfg r.2.svc r.2.log) :
      Doing cfg (afterCallback fs r).svc (afterCallback fs r).log := by
    unfold afterCallback
    split
    · exact hr.reset
    · exact hr
  unfold syncStep
  split
  · exact h
  · cases i with
    | write f => exact hafter _ (doing_write cfg fs _ h)
    | ack f => exact hafter _ (doing_ack cfg fs _ h)
    | close =>
      have hclosed : Doing cfg (stateReset fs (s.ctx default)).svc
          (stateReset fs (s.ctx default)).log := Doing.reset h
      exact hclosed

theorem doing_run (raw : AfsService) (os : ω) (is : List (SyncInput cfg)) :
    Doing cfg (syncRun cfg fs raw os is).svc (syncRun cfg fs raw os is).log :=
  run_invariant (syncStep cfg fs) (fun s => Doing cfg s.svc s.log) (doing_step cfg fs)
    (syncStart raw os) (doing_idle (Or.inl rfl) rfl) is

/-- In every run, the calls of the service are calls of the server, which is then at the job of the
service's state; it is idle when the service has been closed. -/
theorem service_serves (raw : AfsService) (os : ω) (is : List (SyncInput cfg)) :
    follow (serve cfg) .idle (syncRun cfg fs raw os is).log =
        some (syncRun cfg fs raw os is).svc.job ∧
      ((syncRun cfg fs raw os is).closed = true → (syncRun cfg fs raw os is).svc.job = .idle) := by
  refine ⟨(doing_run cfg fs raw os is).job,fun hc => ?_⟩
  rw [AfsService.job, (closed_idle raw os is hc).1]

/-! What a request allows. The paths, descriptors and directories of the calls are those of the
request that the service has been given last. -/

/-- A request that was given to the service, with what was opened for it. -/
structure Request where
  cmd : ℕ
  name : List UInt8
  fd : Option ℤ
  dir : Option ℕ

/-- The request in force behind an event. -/
def Request.after : Option Request → SyncEvent → Option Request
  | _, .exec cmd name => some ⟨cmd,name,none,none⟩
  | some r, .openFile _ _ fd => some { r with fd := some fd }
  | some r, .opendir _ (some d) => some { r with dir := some d }
  | r, _ => r

def inForce (l : List SyncEvent) : Option Request := l.foldl Request.after none

theorem in_force_append (l : List SyncEvent) (e : SyncEvent) :
    inForce (l ++ [e]) = Request.after (inForce l) e := List.foldl_append

theorem request_after_ne_none (r : Request) (e : SyncEvent) : Request.after (some r) e ≠ none := by
  unfold Request.after
  split <;> simp_all

/-- The calls that a request allows. -/
def Request.Allows (cfg : Config) (r : Request) : SyncEvent → Prop
  | .stat path _ => r.cmd = idStat ∧ path = cName cfg r.name
  | .opendir dir _ => r.cmd = idList ∧ dir = cName cfg r.name
  | .readdir d _ => r.cmd = idList ∧ r.dir = some d
  | .lstat path _ => r.cmd = idList ∧ ∃ entry, path = entryPath (cName cfg r.name) entry
  | .closedir d => r.cmd = idList ∧ r.dir = some d
  | .unlink path => r.cmd = idSend ∧ path = sendPath cfg r.name
  | .mkdir dir _ _ => r.cmd = idSend ∧ dir ∈ parents (sendPath cfg r.name)
  | .symlink _ path _ => r.cmd = idSend ∧ path = sendPath cfg r.name
  | .openFile path mode _ =>
    r.cmd = idSend ∧ path = sendPath cfg r.name ∧
        mode = .create (sendMode cfg r.name &&& 0o777) ∨
      r.cmd = idRecv ∧ path = cName cfg r.name ∧ mode = .rdonly
  | .write fd _ _ _ => r.cmd = idSend ∧ r.fd = some fd
  | .read fd _ => r.cmd = idRecv ∧ r.fd = some fd
  | .close fd => r.fd = some fd
  | _ => True

/-- The events that are calls on files and directories. -/
def SyncEvent.onFiles : SyncEvent → Bool
  | .malloc .. | .free _ | .header _ | .exec .. | .room _ => false
  | _ => true

/-- The request behind a job, with the paths and handles of the job. -/
def Request.Asks (cfg : Config) (r : Request) : Job → Prop
  | .idle | .free _ => True
  | .stat path => r.cmd = idStat ∧ path = cName cfg r.name
  | .list dir | .opendir _ dir => r.cmd = idList ∧ dir = cName cfg r.name
  | .listing _ d dir | .entry _ d dir _ =>
    r.cmd = idList ∧ dir = cName cfg r.name ∧ r.dir = some d
  | .listed _ d | .closedir d => r.cmd = idList ∧ r.dir = some d
  | .unlink path mode _ =>
    r.cmd = idSend ∧ path = sendPath cfg r.name ∧ mode = sendMode cfg r.name &&& 0o777
  | .makeDirs dirs path mode _ =>
    r.cmd = idSend ∧ path = sendPath cfg r.name ∧ mode = sendMode cfg r.name &&& 0o777 ∧
      ∀ dir ∈ dirs, dir ∈ parents (sendPath cfg r.name)
  | .upload fd => r.cmd = idSend ∧ r.fd = some fd
  | .symlink _ path => r.cmd = idSend ∧ path = sendPath cfg r.name
  | .recv path => r.cmd = idRecv ∧ path = cName cfg r.name
  | .download fd => r.cmd = idRecv ∧ r.fd = some fd
  | .close fd => r.fd = some fd

theorem of_expect {p : Prop} [Decidable p] {job job' : Job} (h : expect p job = some job') :
    p ∧ job = job' := by
  unfold expect at h
  split at h
  · exact ⟨‹p›,Option.some.inj h⟩
  · cases h

theorem requested_asks (cfg : Config) (cmd : ℕ) (name : List UInt8) (fd : Option ℤ)
    (dir : Option ℕ) : Request.Asks cfg ⟨cmd,name,fd,dir⟩ (requested cfg cmd name) := by
  unfold requested
  split_ifs <;> simp [Request.Asks, *]

/-- A call that the server makes for a request is one that the request allows, and leaves a job for
the request. -/
theorem serve_allows {cfg : Config} {r : Request} {job job' : Job} {e : SyncEvent}
    (ha : r.Asks cfg job) (h : serve cfg job e = some job') :
    r.Allows cfg e ∧ ∀ r', Request.after (some r) e = some r' → r'.Asks cfg job' := by
  have hkeep (he : Request.after (some r) e = some r) (hasks : r.Asks cfg job') :
      ∀ r', Request.after (some r) e = some r' → r'.Asks cfg job' := by
    intro r' hr
    obtain rfl := Option.some.inj (he.symm.trans hr)
    exact hasks
  cases e with
  | header n =>
    obtain rfl := Option.some.inj ((serve_header cfg n job).symm.trans h)
    exact ⟨trivial,hkeep rfl ha⟩
  | room n =>
    obtain rfl := Option.some.inj ((serve_room cfg job n).symm.trans h)
    exact ⟨trivial,hkeep rfl ha⟩
  | exec cmd name =>
    cases job with
    | idle =>
      obtain rfl := Option.some.inj h
      refine ⟨trivial,?_⟩
      intro r' hr
      obtain rfl := Option.some.inj hr
      exact requested_asks ..
    | _ => cases h
  -- the two ways to open a file: for an upload behind its directories, and for a download
  | openFile path mode fd =>
    cases job with
    | makeDirs dirs _ _ isLink =>
      cases dirs <;> cases isLink <;> try cases h
      obtain ⟨⟨rfl,rfl⟩,rfl⟩ := of_expect h
      obtain ⟨hcmd,hpath,hmode,-⟩ := ha
      refine ⟨Or.inl ⟨hcmd,hpath,by rw [hmode]⟩,?_⟩
      intro r' hr
      obtain rfl := Option.some.inj hr
      split_ifs
      · exact ⟨hcmd,rfl⟩
      · trivial
    | recv _ =>
      obtain ⟨⟨rfl,rfl⟩,rfl⟩ := of_expect h
      refine ⟨Or.inr ⟨ha.1,ha.2,rfl⟩,?_⟩
      intro r' hr
      obtain rfl := Option.some.inj hr
      split_ifs
      · exact ⟨ha.1,rfl⟩
      · trivial
    | _ => cases h
  | mkdir path ret errno =>
    cases job with
    | makeDirs dirs _ _ _ =>
      cases dirs with
      | nil => cases h
      | cons dir dirs =>
        obtain ⟨rfl,rfl⟩ := of_expect h
        obtain ⟨hcmd,hpath,hmode,hdirs⟩ := ha
        refine ⟨⟨hcmd,hdirs _ List.mem_cons_self⟩,hkeep rfl ?_⟩
        split_ifs
        · exact ⟨hcmd,hpath,hmode,fun d hd => hdirs d (List.mem_cons_of_mem _ hd)⟩
        · trivial
    | _ => cases h
  | malloc n res =>
    refine ⟨trivial,hkeep rfl ?_⟩
    cases job with
    | list _ =>
      obtain ⟨-,rfl⟩ := of_expect h
      cases res with
      | none => trivial
      | some b => exact ha
    | makeDirs dirs _ _ isLink =>
      cases dirs <;> cases isLink <;> try cases h
      obtain ⟨-,rfl⟩ := of_expect h
      cases res with
      | none => trivial
      | some b => exact ⟨ha.1,ha.2.1⟩
    | _ => cases h
  | opendir dir res =>
    cases job with
    | opendir b _ =>
      obtain ⟨rfl,rfl⟩ := of_expect h
      refine ⟨ha,?_⟩
      intro r' hr
      cases res with
      | none => trivial
      | some d =>
        obtain rfl := Option.some.inj hr
        exact ⟨ha.1,ha.2,rfl⟩
    | _ => cases h
  | readdir d res =>
    cases job with
    | listing b _ dir =>
      obtain ⟨rfl,rfl⟩ := of_expect h
      refine ⟨⟨ha.1,ha.2.2⟩,hkeep rfl ?_⟩
      cases res with
      | none => exact ⟨ha.1,ha.2.2⟩
      | some name =>
        dsimp only
        split_ifs <;> exact ha
    | _ => cases h
  -- the calls that are expected of one job, on its path or its handle
  | _ =>
    cases job <;> try cases h
    all_goals
      obtain ⟨hp,rfl⟩ := of_expect h
      clear h
      try split
      all_goals simp_all [Request.Asks, Request.Allows, Request.after]

variable {cfg}

/-- The job is for the request in force; without one there is nothing to do. -/
def Behind (cfg : Config) (q : Option Request) (job : Job) : Prop :=
  (q = none → job = .idle) ∧ ∀ r, q = some r → r.Asks cfg job

theorem serve_idle {job : Job} {e : SyncEvent} (h : serve cfg .idle e = some job) :
    e.onFiles = false ∧ Behind cfg (Request.after none e) job := by
  cases e with
  | exec cmd name =>
    obtain rfl := Option.some.inj h
    refine ⟨rfl,?_,?_⟩
    · intro hr
      cases hr
    · intro r hr
      obtain rfl := Option.some.inj hr
      exact requested_asks ..
  | header n => exact ⟨rfl,fun _ => (Option.some.inj h).symm,by simp [Request.after]⟩
  | room n => exact ⟨rfl,fun _ => (Option.some.inj h).symm,by simp [Request.after]⟩
  | _ => cases h

theorem follow_behind {l : List SyncEvent} {job : Job}
    (h : follow (serve cfg) .idle l = some job) : Behind cfg (inForce l) job := by
  refine follow_invariant (fun l job => Behind cfg (inForce l) job) ?_ []
    ⟨fun _ => rfl,fun r hr => by cases hr⟩ h
  intro l job e job' hl he
  rw [in_force_append]
  cases hq : inForce l with
  | some r =>
    rw [hq] at hl
    refine ⟨fun hnone => ?_,(serve_allows (hl.2 r rfl) he).2⟩
    exact absurd hnone (request_after_ne_none r e)
  | none =>
    rw [hq] at hl
    rw [hl.1 rfl] at he
    exact (serve_idle he).2

/-- Each call on files is one that the request in force allows: it is of the request's kind, on the
path that the request names, and on the descriptor or the directory that was opened for the
request. -/
def Granted (cfg : Config) (log : List SyncEvent) : Prop :=
  ∀ l e r, log = l ++ e :: r → e.onFiles = true → ∃ q, inForce l = some q ∧ q.Allows cfg e

theorem follow_granted {log : List SyncEvent} {job : Job}
    (h : follow (serve cfg) .idle log = some job) : Granted cfg log := by
  rintro l e r rfl he
  obtain ⟨job₁,job₂,hfront,hcall,-⟩ := follow_at h
  have hbehind := follow_behind hfront
  cases hq : inForce l with
  | some q =>
    rw [hq] at hbehind
    exact ⟨q,rfl,(serve_allows (hbehind.2 q rfl) hcall).1⟩
  | none =>
    rw [hq] at hbehind
    rw [hbehind.1 rfl] at hcall
    rw [(serve_idle hcall).1] at he
    cases he

variable (cfg)

/-- In every run, the calls on files are what the requests allow. -/
theorem calls_granted (raw : AfsService) (os : ω) (is : List (SyncInput cfg)) :
    Granted cfg (syncRun cfg fs raw os is).log :=
  follow_granted (doing_run cfg fs raw os is).job

end MicroADB
