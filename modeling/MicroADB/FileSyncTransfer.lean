import MicroADB.FileSyncRun

/-! A SEND transfer as the host streams it: the request with the path, the DATA chunks and
DONE, cut into packets anywhere. How far the service has come in it is told by its state,
the bytes it has collected and the bytes that are still to come. -/
namespace MicroADB
open ByteMemory EventRun

/-- The name with its mode suffix, the contents of the chunks and the time sent with DONE. -/
structure Transfer where
  name : List UInt8
  chunks : List (List UInt8)
  time : ℕ
  name_lt : name.length < 2^32
  chunk_lt : ∀ ch ∈ chunks, ch.length < 2^32

def dataRecords (time : ℕ) : List (List UInt8) → List UInt8
  | [] => le32 idDone ++ le32 time
  | ch :: chunks => le32 idData ++ le32 ch.length ++ (ch ++ dataRecords time chunks)

def Transfer.stream (t : Transfer) : List UInt8 :=
  le32 idSend ++ le32 t.name.length ++ (t.name ++ dataRecords t.time t.chunks)

theorem data_records_length (time : ℕ) (chunks : List (List UInt8)) :
    8 ≤ (dataRecords time chunks).length := by
  cases chunks with
  | nil => exact le_rfl
  | cons ch chunks =>
    simp only [dataRecords, List.length_append, length_le32]
    omega

/-- The records start with a header of two words. -/
theorem data_records_split (time : ℕ) (chunks : List (List UInt8)) :
    ∃ id n rest, dataRecords time chunks = (le32 id ++ le32 n) ++ rest ∧
      match chunks with
      | [] => id = idDone ∧ n = time ∧ rest = []
      | ch :: chunks => id = idData ∧ n = ch.length ∧ rest = ch ++ dataRecords time chunks := by
  cases chunks with
  | nil => exact ⟨idDone,time,[],by simp [dataRecords],rfl,rfl,rfl⟩
  | cons ch chunks => exact ⟨idData,ch.length,_,rfl,rfl,rfl,rfl⟩

/-! What the trace tells of a transfer. -/

def SyncEvent.headerBytes : SyncEvent → ℕ
  | .header n => n
  | _ => 0

/-- How many bytes state_wait_cmd has taken as bytes of a request header. -/
def headerBytes (l : List SyncEvent) : ℕ := (l.map SyncEvent.headerBytes).sum

@[simp] theorem header_bytes_nil : headerBytes [] = 0 := rfl

@[simp] theorem header_bytes_append (l es : List SyncEvent) :
    headerBytes (l ++ es) = headerBytes l+headerBytes es := by
  simp [headerBytes]

@[simp] theorem header_bytes_cons (e : SyncEvent) (es : List SyncEvent) :
    headerBytes (e :: es) = e.headerBytes+headerBytes es := by
  simp [headerBytes]

/-- The calls that a transfer needs: mkdir may find the directory there, write may be
interrupted or short. -/
def SyncEvent.succeeds : SyncEvent → Prop
  | .mkdir _ ret errno => 0 ≤ ret ∨ errno = eEXIST
  | .openFile _ _ fd => 0 ≤ fd
  | .write _ _ ret errno => 0 < ret ∨ ret < 0 ∧ errno = eINTR
  | .malloc _ res => res.isSome
  | .symlink _ _ ret => ret = 0
  | _ => True

instance : DecidablePred SyncEvent.succeeds
  | .mkdir _ ret errno => inferInstanceAs (Decidable (0 ≤ ret ∨ errno = eEXIST))
  | .openFile _ _ fd => inferInstanceAs (Decidable (0 ≤ fd))
  | .write _ _ ret errno => inferInstanceAs (Decidable (0 < ret ∨ ret < 0 ∧ errno = eINTR))
  | .malloc _ res => inferInstanceAs (Decidable (res.isSome = true))
  | .symlink _ _ ret => inferInstanceAs (Decidable (ret = 0))
  | .stat .. | .lstat .. | .unlink .. | .read .. | .close .. | .opendir .. | .readdir ..
  | .closedir .. | .free .. | .header .. | .exec .. | .room .. => isTrue trivial

/-- What happens to the files themselves. -/
inductive FileOp
  | opened (path : List UInt8) (mode : OpenMode) (fd : ℤ)
  | wrote (fd : ℤ) (bytes : List UInt8)
  | closed (fd : ℤ)
deriving DecidableEq, Repr

/-- A call of write counts with the bytes that it took. -/
def SyncEvent.fileOp : SyncEvent → Option FileOp
  | .openFile path mode fd => if 0 ≤ fd then some (.opened path mode fd) else none
  | .write fd bs ret _ => if 0 < ret then some (.wrote fd (bs.take ret.toNat)) else none
  | .close fd => some (.closed fd)
  | _ => none

def fileOps (l : List SyncEvent) : List FileOp := l.filterMap SyncEvent.fileOp

@[simp] theorem file_ops_nil : fileOps [] = [] := rfl

@[simp] theorem file_ops_append (l es : List SyncEvent) :
    fileOps (l ++ es) = fileOps l ++ fileOps es := List.filterMap_append

/-- Events that are neither request headers nor file operations. -/
theorem header_bytes_of_is_mkdir (evs : List SyncEvent) (h : ∀ e ∈ evs, e.isMkdir) :
    headerBytes evs = 0 ∧ fileOps evs = [] := by
  induction evs with
  | nil => exact ⟨rfl,rfl⟩
  | cons e evs ih =>
    obtain ⟨he,hevs⟩ := List.forall_mem_cons.mp h
    obtain ⟨h1,h2⟩ := ih hevs
    cases e with
    | mkdir path ret errno =>
      refine ⟨by simp [SyncEvent.headerBytes, h1],?_⟩
      rw [fileOps, List.filterMap_cons_none rfl]
      exact h2
    | _ => exact he.elim

theorem header_bytes_of_is_write (evs : List SyncEvent) (h : ∀ e ∈ evs, e.isWrite) :
    headerBytes evs = 0 := by
  induction evs with
  | nil => rfl
  | cons e evs ih =>
    obtain ⟨he,hevs⟩ := List.forall_mem_cons.mp h
    cases e with
    | write fd bs ret errno => simp [SyncEvent.headerBytes, ih hevs]
    | _ => exact he.elim

variable {ω : Type} (cfg : Config) (fs : FileSystem ω)

/-! The path and the mode of a SEND request. -/

/-- The name as state_wait_cmd_data leaves it in buff. -/
def nameMem (name : List UInt8) : Mem := store (fun _ => 0) 0 name

/-- Where state_init_send finds the comma in front of the mode. -/
def sendComma (name : List UInt8) : Option ℕ := strrchr (nameMem name) 44 0 cfg.pathMax

def sendPath (name : List UInt8) : List UInt8 :=
  match sendComma cfg name with
  | some tmp => cstring (store (nameMem name) tmp [0]) 0 cfg.pathMax
  | none => cstring (nameMem name) 0 cfg.pathMax

def sendMode (name : List UInt8) : ℕ :=
  match sendComma cfg name with
  | some tmp => u32 (strtoul (cstring (store (nameMem name) tmp [0]) (tmp+1)
      (cfg.pathMax-(tmp+1))))
  | none => 0o644

theorem name_mem_end (name : List UInt8) : nameMem name name.length = 0 := by
  rw [nameMem, store_apply_of_ge _ _ _ _ (by omega)]

theorem name_mem_of_slice (m : Mem) (name : List UInt8) (h : slice m 0 name.length = name)
    (hz : m name.length = 0) (i : ℕ) (hi : i ≤ name.length) : m i = nameMem name i := by
  rcases Nat.lt_or_eq_of_le hi with hlt | rfl
  · have hm := (slice_eq_iff m 0 name).mp h i hlt
    have hs := store_apply_of_mem (fun _ => 0) 0 i name hlt
    rw [Nat.zero_add] at hm hs
    rw [hm, nameMem, hs]
  · rw [hz, name_mem_end]

theorem send_path_length (name : List UInt8) : (sendPath cfg name).length ≤ name.length := by
  unfold sendPath
  have hcut (tmp : ℕ) (h : sendComma cfg name = some tmp) : tmp < name.length :=
    strrchr_lt _ _ _ _ _ _ h (name_mem_end name) (Nat.zero_le _)
  split
  · rename_i tmp htmp
    have hz : store (nameMem name) tmp [0] name.length = 0 := by
      rw [store_apply_of_ge _ _ _ _ (by simpa using hcut tmp htmp), name_mem_end]
    simpa using cstring_length_le_of_nul _ 0 cfg.pathMax _ hz (Nat.zero_le _)
  · simpa using cstring_length_le_of_nul _ 0 cfg.pathMax _ (name_mem_end name) (Nat.zero_le _)

/-- state_init_send on a name that is in buff. -/
theorem state_init_send_eq (c : SyncCtx ω) (name : List UInt8)
    (h : slice c.svc.buff 0 name.length = name) (hz : c.svc.buff name.length = 0) :
    ∃ m, stateInitSend cfg fs c = stateInitSendPath cfg fs (c.setBuff m)
        (sendMode cfg name &&& 0o777) (sIsLnk (sendMode cfg name)) ∧
      (c.setBuff m).name cfg = sendPath cfg name ∧ (m 0 = 47 ↔ name.head? = some 47) := by
  have hmem := name_mem_of_slice c.svc.buff name h hz
  have hfind : strrchr c.svc.buff 44 0 cfg.pathMax = sendComma cfg name :=
    strrchr_congr _ _ _ _ _ _ (name_mem_end name) (Nat.zero_le _) (fun i _ hi => hmem i hi)
  have hhead : c.svc.buff 0 = 47 ↔ name.head? = some 47 := by
    cases name with
    | nil =>
      rw [List.length_nil] at hz
      simp [hz]
    | cons a name =>
      have h0 := (slice_eq_iff c.svc.buff 0 _).mp h 0 (by simp)
      rw [Nat.zero_add] at h0
      simp [h0]
  unfold stateInitSend
  rw [hfind]
  cases hcomma : sendComma cfg name with
  | none =>
    refine ⟨c.svc.buff,?_,?_,hhead⟩
    · have hperm : 0o644 &&& 0o777 = 0o644 := by decide
      have hlink : sIsLnk 0o644 = false := by decide
      simp only [sendMode, hcomma, hperm, hlink]
      rfl
    · simp only [sendPath, hcomma]
      exact cstring_congr _ _ _ _ _ (name_mem_end name) (Nat.zero_le _) (fun i _ hi => hmem i hi)
  | some tmp =>
    have hlt : tmp < name.length :=
      strrchr_lt _ _ _ _ _ _ hcomma (name_mem_end name) (Nat.zero_le _)
    have hcut (i : ℕ) (hi : i ≤ name.length) :
        store c.svc.buff tmp [0] i = store (nameMem name) tmp [0] i := by
      unfold store
      rw [hmem i hi]
    have hend : store (nameMem name) tmp [0] name.length = 0 := by
      rw [store_apply_of_ge _ _ _ _ (by simpa using hlt), name_mem_end]
    refine ⟨store c.svc.buff tmp [0],?_,?_,?_⟩
    · have hmode : cstring (store c.svc.buff tmp [0]) (tmp+1) (cfg.pathMax-(tmp+1)) =
          cstring (store (nameMem name) tmp [0]) (tmp+1) (cfg.pathMax-(tmp+1)) :=
        cstring_congr _ _ _ _ _ hend hlt (fun i _ hi => hcut i hi)
      simp only [sendMode, hcomma, SyncCtx.setBuff_svc, hmode]
    · simp only [sendPath, hcomma]
      exact cstring_congr _ _ _ _ _ hend (Nat.zero_le _) (fun i _ hi => hcut i hi)
    · -- a slash at the start is not the comma
      have hcommaAt : c.svc.buff tmp = 44 := (strrchr_bounds _ _ _ _ _ (hfind.trans hcomma)).2.2
      rw [← hhead]
      rcases Nat.eq_zero_or_pos tmp with rfl | hpos
      · have h0 := store_apply_of_mem c.svc.buff 0 0 [0] (by simp)
        rw [Nat.zero_add] at h0
        rw [h0, hcommaAt]
        decide
      · rw [store_apply_of_lt _ _ _ _ hpos]

/-! What the calls of a transfer come to. -/

/-- The calls all succeed, or one of them does not. -/
def AllSucceed (evs : List SyncEvent) : Prop := ∀ e ∈ evs, e.succeeds

instance (evs : List SyncEvent) : Decidable (AllSucceed evs) :=
  inferInstanceAs (Decidable (∀ e ∈ evs, e.succeeds))

@[simp] theorem all_succeed_nil : AllSucceed [] := by simp [AllSucceed]

@[simp] theorem all_succeed_append (evs es : List SyncEvent) :
    AllSucceed (evs ++ es) ↔ AllSucceed evs ∧ AllSucceed es := List.forall_mem_append

@[simp] theorem all_succeed_cons (e : SyncEvent) (es : List SyncEvent) :
    AllSucceed (e :: es) ↔ e.succeeds ∧ AllSucceed es := List.forall_mem_cons

theorem create_path_loop_outcome (n : ℕ) (c : SyncCtx ω) (x : ℕ) :
    ∃ evs, (createPathLoop cfg fs n c x).2.log = c.log ++ evs ∧ (∀ e ∈ evs, e.isMkdir) ∧
      ((createPathLoop cfg fs n c x).1 = 0 ∧ AllSucceed evs ∨
        (createPathLoop cfg fs n c x).1 < 0 ∧ ¬AllSucceed evs) := by
  induction n generalizing c x with
  | zero => exact ⟨[],by simp [createPathLoop],by simp,Or.inl ⟨rfl,all_succeed_nil⟩⟩
  | succ n ih =>
    rw [createPathLoop]
    split
    · exact ⟨[],by simp,by simp,Or.inl ⟨rfl,all_succeed_nil⟩⟩
    · rename_i y _
      set b := c.setBuff (store c.svc.buff y [0]) with hb
      set r := sysMkdir fs b (b.name cfg) 0o775 with hr
      have hlog : r.2.log = c.log ++ [.mkdir (b.name cfg) r.1 (fs.errno r.2.os)] := rfl
      dsimp only
      split
      · rename_i hbad
        refine ⟨[.mkdir (b.name cfg) r.1 (fs.errno r.2.os)],hlog,by simp [SyncEvent.isMkdir],
          Or.inr ⟨hbad.1,?_⟩⟩
        have herr : fs.errno r.2.os ≠ eEXIST := hbad.2
        simp only [all_succeed_cons, SyncEvent.succeeds]
        rintro ⟨h | h,-⟩
        · exact absurd hbad.1 (not_lt.mpr h)
        · exact herr h
      · rename_i hok
        have hgood : 0 ≤ r.1 ∨ fs.errno r.2.os = eEXIST := by
          rcases lt_or_ge r.1 0 with h | h
          · exact Or.inr (by_contra fun hne => hok ⟨h,hne⟩)
          · exact Or.inl h
        obtain ⟨evs,hlog',hmk,hret⟩ := ih (r.2.setBuff (store r.2.svc.buff y [47])) y
        refine ⟨.mkdir (b.name cfg) r.1 (fs.errno r.2.os) :: evs,?_,?_,?_⟩
        · rw [hlog', SyncCtx.setBuff_log, hlog, List.append_assoc]
          rfl
        · exact List.forall_mem_cons.mpr ⟨trivial,hmk⟩
        · rcases hret with ⟨h1,h2⟩ | ⟨h1,h2⟩
          · exact Or.inl ⟨h1,(all_succeed_cons _ _).mpr ⟨hgood,h2⟩⟩
          · exact Or.inr ⟨h1,fun h => h2 ((all_succeed_cons _ _).mp h).2⟩

theorem create_path_directories_outcome (c : SyncCtx ω) :
    ∃ evs, (createPathDirectories cfg fs c).2.log = c.log ++ evs ∧ (∀ e ∈ evs, e.isMkdir) ∧
      ((createPathDirectories cfg fs c).1 = 0 ∧ c.svc.buff 0 = 47 ∧ AllSucceed evs ∨
        (createPathDirectories cfg fs c).1 < 0 ∧ (c.svc.buff 0 = 47 → ¬AllSucceed evs)) := by
  unfold createPathDirectories
  split
  · rename_i h0
    exact ⟨[],by simp,by simp,Or.inr ⟨by simp,fun h => absurd h h0⟩⟩
  · rename_i h0
    obtain ⟨evs,hlog,hmk,hret⟩ := create_path_loop_outcome cfg fs cfg.pathMax c 0
    refine ⟨evs,hlog,hmk,?_⟩
    rcases hret with ⟨h1,h2⟩ | ⟨h1,h2⟩
    · exact Or.inl ⟨h1,not_not.mp h0,h2⟩
    · exact Or.inr ⟨h1,fun _ => h2⟩

/-- One call of write is interrupted, takes bytes or fails. -/
theorem sys_write_outcome (fd : ℤ) (bs : List UInt8) (c : SyncCtx ω) :
    ∃ e, (sysWrite fs c fd bs).2.log = c.log ++ [e] ∧
      (((sysWrite fs c fd bs).1 < 0 ∧ fs.errno (sysWrite fs c fd bs).2.os = eINTR) ∧
          fs.interrupts (sysWrite fs c fd bs).2.os < fs.interrupts c.os ∧
          e.succeeds ∧ e.fileOp = none ∨
        ¬((sysWrite fs c fd bs).1 < 0 ∧ fs.errno (sysWrite fs c fd bs).2.os = eINTR) ∧
          (0 < (sysWrite fs c fd bs).1 ∧ (sysWrite fs c fd bs).1 ≤ bs.length ∧ e.succeeds ∧
              e.fileOp = some (.wrote fd (bs.take (sysWrite fs c fd bs).1.toNat)) ∨
            (sysWrite fs c fd bs).1 ≤ 0 ∧ ¬e.succeeds)) := by
  set r := sysWrite fs c fd bs
  refine ⟨.write fd bs r.1 (fs.errno r.2.os),rfl,?_⟩
  by_cases hint : r.1 < 0 ∧ fs.errno r.2.os = eINTR
  · refine Or.inl ⟨hint,fs.write_interrupted c.os fd bs hint.1 hint.2,Or.inr hint,?_⟩
    simp [SyncEvent.fileOp, hint.1.le]
  · refine Or.inr ⟨hint,?_⟩
    rcases lt_or_ge 0 r.1 with hpos | hneg
    · exact Or.inl ⟨hpos,fs.write_le c.os fd bs,Or.inl hpos,by simp [SyncEvent.fileOp, hpos]⟩
    · refine Or.inr ⟨hneg,?_⟩
      rintro (h | h)
      · exact absurd h (not_lt.mpr hneg)
      · exact hint h

/-- An interrupted write is called again until it takes bytes or fails: the environment
interrupts it finitely often. -/
theorem write_retry_outcome (fd : ℤ) (bs : List UInt8) (k : ℕ) (c : SyncCtx ω)
    (hk : fs.interrupts c.os ≤ k) :
    ∃ evs, (writeRetry fs fd bs k c).2.log = c.log ++ evs ∧
      (0 < (writeRetry fs fd bs k c).1 ∧ (writeRetry fs fd bs k c).1 ≤ bs.length ∧
          AllSucceed evs ∧ fileOps evs = [.wrote fd (bs.take (writeRetry fs fd bs k c).1.toNat)] ∨
        (writeRetry fs fd bs k c).1 ≤ 0 ∧ ¬AllSucceed evs) := by
  induction k generalizing c with
  | zero =>
    obtain ⟨e,hlog,⟨-,hlt,-⟩ | ⟨-,⟨hpos,hle,hok,hop⟩ | ⟨hneg,hbad⟩⟩⟩ := sys_write_outcome fs fd bs c
    · omega
    · exact ⟨[e],hlog,Or.inl ⟨hpos,hle,by simpa using hok,by simp [fileOps, hop, writeRetry]⟩⟩
    · exact ⟨[e],hlog,Or.inr ⟨hneg,by simpa using hbad⟩⟩
  | succ k ih =>
    obtain ⟨e,hlog,⟨hint,hlt,hok,hop⟩ | ⟨hno,hrest⟩⟩ := sys_write_outcome fs fd bs c
    · obtain ⟨evs,hlog',hret⟩ := ih (sysWrite fs c fd bs).2 (by omega)
      rw [writeRetry, if_pos hint]
      refine ⟨e :: evs,?_,?_⟩
      · rw [hlog', hlog, List.append_assoc]
        rfl
      · have hops : fileOps (e :: evs) = fileOps evs := List.filterMap_cons_none hop
        simp only [all_succeed_cons, hok, true_and, hops]
        exact hret
    · rw [writeRetry, if_neg hno]
      rcases hrest with ⟨hpos,hle,hok,hop⟩ | ⟨hneg,hbad⟩
      · exact ⟨[e],hlog,Or.inl ⟨hpos,hle,by simpa using hok,by simp [fileOps, hop]⟩⟩
      · exact ⟨[e],hlog,Or.inr ⟨hneg,by simpa using hbad⟩⟩

/-- The write loop writes the block in parts, or meets a call that fails. -/
theorem write_loop_outcome (fd : ℤ) (n : ℕ) (c : SyncCtx ω) (bs : List UInt8)
    (hn : bs.length ≤ n) :
    ∃ evs, (writeLoop fs fd n c bs).2.log = c.log ++ evs ∧
      ((writeLoop fs fd n c bs).1 = true ∧ AllSucceed evs ∧
          (∃ parts : List (List UInt8), fileOps evs = parts.map (.wrote fd) ∧ parts.flatten = bs) ∨
        (writeLoop fs fd n c bs).1 = false ∧ ¬AllSucceed evs) := by
  induction n generalizing c bs with
  | zero =>
    have hnil : bs = [] := List.length_eq_zero_iff.mp (by omega)
    exact ⟨[],by simp [writeLoop],Or.inl ⟨rfl,all_succeed_nil,[],rfl,by simp [hnil]⟩⟩
  | succ n ih =>
    rw [writeLoop]
    split
    · rename_i hnil
      exact ⟨[],by simp,Or.inl ⟨rfl,all_succeed_nil,[],rfl,by simp [hnil]⟩⟩
    · obtain ⟨evs,hlog,⟨hpos,hle,hok,hops⟩ | ⟨hneg,hbad⟩⟩ :=
        write_retry_outcome fs fd bs (fs.interrupts c.os) c le_rfl
      · set r := writeRetry fs fd bs (fs.interrupts c.os) c
        dsimp only
        rw [if_pos hpos]
        obtain ⟨evs',hlog',hret⟩ := ih r.2 (bs.drop r.1.toNat) (by
          rw [List.length_drop]
          omega)
        refine ⟨evs ++ evs',by rw [hlog', hlog, List.append_assoc],?_⟩
        rcases hret with ⟨htrue,hok',parts,hparts,hflat⟩ | ⟨hfalse,hbad⟩
        · refine Or.inl ⟨htrue,(all_succeed_append _ _).mpr ⟨hok,hok'⟩,
            bs.take r.1.toNat :: parts,?_,?_⟩
          · rw [file_ops_append, hops, hparts]
            rfl
          · rw [List.flatten_cons, hflat, List.take_append_drop]
        · exact Or.inr ⟨hfalse,fun h => hbad ((all_succeed_append _ _).mp h).2⟩
      · dsimp only
        rw [if_neg (not_lt.mpr hneg)]
        exact ⟨evs,hlog,Or.inr ⟨rfl,hbad⟩⟩

/-- A transfer that has been started: the service waits for the first record, with the file
open or the path of the link kept. -/
inductive Begun (path : List UInt8) (mode : ℕ) (s : AfsService) :
    Bool → AfsService → List FileOp → Prop
  | file (fd : ℤ) (hfd : 0 ≤ fd) : Begun path mode s false
      { s with state := .processSendFileHdr, u := .sendFile fd } [.opened path (.create mode) fd]
  | link (u : AfsUnion) : Begun path mode s true { s with state := .processSendSymHdr, u := u } []

theorem state_init_send_link_outcome (c : SyncCtx ω) (mode : ℕ)
    (hlen : (c.name cfg).length < cfg.pathMax) :
    ∃ evs, (stateInitSendLink cfg fs c).2.log = c.log ++ evs ∧ headerBytes evs = 0 ∧
      ((stateInitSendLink cfg fs c).1 = 1 ∧ AllSucceed evs ∧
          (stateInitSendLink cfg fs c).2.p = c.p ∧
          Begun (c.name cfg) mode c.svc true (stateInitSendLink cfg fs c).2.svc (fileOps evs) ∨
        (stateInitSendLink cfg fs c).1 = 0 ∧ ¬AllSucceed evs) := by
  unfold stateInitSendLink
  dsimp only
  rw [if_neg (not_le.mpr hlen)]
  cases hm : (sysMalloc fs c ((c.name cfg).length+1)).1 with
  | none =>
    refine ⟨[.malloc ((c.name cfg).length+1) none,
      .room (cfg.payloadSize-sizeofData-c.p.writeLen)],?_,rfl,Or.inr ⟨rfl,?_⟩⟩
    · simp [hm]
    · simp [SyncEvent.succeeds]
  | some path =>
    refine ⟨[.malloc ((c.name cfg).length+1) (some path.1)],?_,rfl,Or.inl ⟨rfl,?_,rfl,?_⟩⟩
    · simp [hm]
    · simp [SyncEvent.succeeds]
    · exact Begun.link _

theorem state_init_send_file_outcome (c : SyncCtx ω) (mode : ℕ) :
    ∃ evs, (stateInitSendFile cfg fs c mode).2.log = c.log ++ evs ∧ headerBytes evs = 0 ∧
      ((stateInitSendFile cfg fs c mode).1 = 1 ∧ AllSucceed evs ∧
          (stateInitSendFile cfg fs c mode).2.p = c.p ∧
          Begun (c.name cfg) mode c.svc false (stateInitSendFile cfg fs c mode).2.svc
            (fileOps evs) ∨
        (stateInitSendFile cfg fs c mode).1 = 0 ∧ ¬AllSucceed evs) := by
  unfold stateInitSendFile
  dsimp only
  set fd := (sysOpen fs c (c.name cfg) (.create mode)).1
  split
  · rename_i hneg
    refine ⟨[.openFile (c.name cfg) (.create mode) fd,
      .room (cfg.payloadSize-sizeofData-c.p.writeLen)],?_,rfl,Or.inr ⟨rfl,?_⟩⟩
    · simp [fd]
    · simpa [SyncEvent.succeeds] using hneg
  · rename_i hpos
    rw [not_lt] at hpos
    refine ⟨[.openFile (c.name cfg) (.create mode) fd],rfl,rfl,Or.inl ⟨rfl,?_,rfl,?_⟩⟩
    · simpa [SyncEvent.succeeds] using hpos
    · have hops : fileOps [.openFile (c.name cfg) (.create mode) fd] =
          [.opened (c.name cfg) (.create mode) fd] := by
        simp [fileOps, SyncEvent.fileOp, hpos]
      rw [hops]
      exact Begun.file fd hpos

/-- What state_init_send comes to on a path that is shorter than PATH_MAX: the transfer is
started, or a call fails, or the path is not absolute. -/
theorem state_init_send_path_outcome (c : SyncCtx ω) (mode : ℕ) (isLink : Bool)
    (hlen : (c.name cfg).length < cfg.pathMax) :
    ∃ evs, (stateInitSendPath cfg fs c mode isLink).2.log = c.log ++ evs ∧
      headerBytes evs = 0 ∧
      ((stateInitSendPath cfg fs c mode isLink).1 = 1 ∧ c.svc.buff 0 = 47 ∧ AllSucceed evs ∧
          (stateInitSendPath cfg fs c mode isLink).2.p = c.p ∧
          Begun (c.name cfg) mode c.svc isLink (stateInitSendPath cfg fs c mode isLink).2.svc
            (fileOps evs) ∨
        (stateInitSendPath cfg fs c mode isLink).1 = 0 ∧
          (c.svc.buff 0 = 47 → ¬AllSucceed evs)) := by
  have hdef : stateInitSendPath cfg fs c mode isLink =
      if (createPathDirectories cfg fs (sysUnlink fs c (c.name cfg))).1 ≠ 0 then
        (0, prepareFailErrno cfg fs (createPathDirectories cfg fs (sysUnlink fs c (c.name cfg))).2)
      else if isLink then
        stateInitSendLink cfg fs (createPathDirectories cfg fs (sysUnlink fs c (c.name cfg))).2
      else stateInitSendFile cfg fs
        (createPathDirectories cfg fs (sysUnlink fs c (c.name cfg))).2 mode := rfl
  obtain ⟨evs,hlog,hmk,hret⟩ := create_path_directories_outcome cfg fs (sysUnlink fs c (c.name cfg))
  obtain ⟨hread,hops⟩ := header_bytes_of_is_mkdir evs hmk
  have hsvc := create_path_directories_svc cfg fs (sysUnlink fs c (c.name cfg))
  have hp := create_path_directories_p cfg fs (sysUnlink fs c (c.name cfg))
  rw [sys_unlink_log, List.append_assoc] at hlog
  rw [sys_unlink_svc] at hsvc
  rw [sys_unlink_p] at hp
  rw [hdef]
  set r := createPathDirectories cfg fs (sysUnlink fs c (c.name cfg))
  set pre : List SyncEvent := [.unlink (c.name cfg)] ++ evs with hpre
  have hname : r.2.name cfg = c.name cfg := by
    unfold SyncCtx.name
    rw [hsvc]
  have hpread : headerBytes pre = 0 := by simp [hpre, SyncEvent.headerBytes, hread]
  have hpops (es : List SyncEvent) : fileOps (pre ++ es) = fileOps es := by
    rw [hpre, file_ops_append, file_ops_append, hops]
    rfl
  rcases hret with ⟨h0,habs,hok⟩ | ⟨hneg,hbad⟩
  · have hpok : AllSucceed pre := by simp [hpre, SyncEvent.succeeds, hok]
    rw [if_neg (by rw [h0]; simp)]
    cases isLink with
    | true =>
      rw [if_pos rfl]
      obtain ⟨es,hlog',hread',hret⟩ := state_init_send_link_outcome cfg fs r.2 mode
        (by rw [hname]; exact hlen)
      refine ⟨pre ++ es,by rw [hlog', hlog, List.append_assoc],by simp [hpread, hread'],?_⟩
      rw [hname, hp, hsvc, ← hpops es] at hret
      rcases hret with ⟨h1,h2,h3,h4⟩ | ⟨h1,h2⟩
      · exact Or.inl ⟨h1,habs,(all_succeed_append _ _).mpr ⟨hpok,h2⟩,h3,h4⟩
      · exact Or.inr ⟨h1,fun _ h => h2 ((all_succeed_append _ _).mp h).2⟩
    | false =>
      rw [if_neg (by simp)]
      obtain ⟨es,hlog',hread',hret⟩ := state_init_send_file_outcome cfg fs r.2 mode
      refine ⟨pre ++ es,by rw [hlog', hlog, List.append_assoc],by simp [hpread, hread'],?_⟩
      rw [hname, hp, hsvc, ← hpops es] at hret
      rcases hret with ⟨h1,h2,h3,h4⟩ | ⟨h1,h2⟩
      · exact Or.inl ⟨h1,habs,(all_succeed_append _ _).mpr ⟨hpok,h2⟩,h3,h4⟩
      · exact Or.inr ⟨h1,fun _ h => h2 ((all_succeed_append _ _).mp h).2⟩
  · rw [if_pos hneg.ne]
    refine ⟨pre ++ [.room (cfg.payloadSize-sizeofData-c.p.writeLen)],?_,?_,Or.inr ⟨rfl,?_⟩⟩
    · rw [prepare_fail_errno_log, hlog, hp, List.append_assoc]
    · simp [hpread, SyncEvent.headerBytes]
    · intro habs h
      rw [hpre, all_succeed_append, all_succeed_append] at h
      exact hbad habs h.1.2

/-! Bytes collected and bytes to come. -/

/-- What has been collected of the header, name or target that is being read. -/
def AfsService.collected (s : AfsService) : List UInt8 := slice s.buff 0 s.size

/-- The unread bytes of the packet. -/
def SyncCtx.rest (c : SyncCtx ω) : List UInt8 := c.peek c.p.msg.dataLength

@[simp] theorem length_collected (s : AfsService) : s.collected.length = s.size :=
  length_slice _ _ _

@[simp] theorem length_rest (c : SyncCtx ω) : c.rest.length = c.p.msg.dataLength :=
  length_slice _ _ _

theorem rest_eq_nil_iff (c : SyncCtx ω) : c.rest = [] ↔ c.p.msg.dataLength = 0 :=
  slice_eq_nil_iff _ _ _

theorem rest_split (c : SyncCtx ω) (k : ℕ) (hk : k ≤ c.p.msg.dataLength) :
    c.rest = c.peek k ++ slice c.p.data (c.svc.packetPtr+k) (c.p.msg.dataLength-k) := by
  unfold SyncCtx.rest SyncCtx.peek
  rw [← slice_add]
  congr 1
  omega

/-- Once the n bytes A are complete they are in buff, and B is to come. -/
theorem complete_stream (c : SyncCtx ω) (n : ℕ) (A B L : List UInt8) (hA : A.length = n)
    (hle : c.svc.size ≤ n) (hdone : n-c.svc.size ≤ c.p.msg.dataLength)
    (h : c.svc.collected ++ (c.rest ++ L) = A ++ B) :
    slice (c.complete n).svc.buff 0 n = A ∧ (c.complete n).rest ++ L = B := by
  have hpeek := rest_split c (n-c.svc.size) hdone
  have hbuff : slice (c.complete n).svc.buff 0 n = c.svc.collected ++ c.peek (n-c.svc.size) := by
    have hs := slice_store_append c.svc.buff 0 c.svc.size (c.peek (n-c.svc.size))
    rw [Nat.zero_add, SyncCtx.length_peek] at hs
    have hn : c.svc.size+(n-c.svc.size) = n := by omega
    rw [hn] at hs
    exact hs
  have hrest : (c.complete n).rest =
      slice c.p.data (c.svc.packetPtr+(n-c.svc.size)) (c.p.msg.dataLength-(n-c.svc.size)) := rfl
  have hsplit : (c.svc.collected ++ c.peek (n-c.svc.size)) ++ ((c.complete n).rest ++ L) =
      A ++ B := by
    rw [← h, hpeek, hrest]
    simp only [List.append_assoc]
  have hlen : (c.svc.collected ++ c.peek (n-c.svc.size)).length = A.length := by
    rw [List.length_append, length_collected, SyncCtx.length_peek]
    omega
  obtain ⟨h1,h2⟩ := List.append_inj hsplit hlen
  exact ⟨hbuff.trans h1,h2⟩

theorem short_stream (c : SyncCtx ω) (L : List UInt8) :
    c.short.svc.collected ++ (c.short.rest ++ L) = c.svc.collected ++ (c.rest ++ L) := by
  have hbuff : c.short.svc.collected = c.svc.collected ++ c.rest := by
    have hs := slice_store_append c.svc.buff 0 c.svc.size c.rest
    rw [Nat.zero_add, length_rest] at hs
    exact hs
  have hrest : c.short.rest = [] := by
    rw [rest_eq_nil_iff]
    exact Nat.sub_self _
  rw [hbuff, hrest, List.nil_append, List.append_assoc]

end MicroADB
