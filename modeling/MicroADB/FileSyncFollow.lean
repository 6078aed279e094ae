import MicroADB.FileSyncTransfer

/-! The service follows a transfer: from each position in it, one iteration of the loop
comes to a later one, unless a call fails or the service gives up. -/
namespace MicroADB
open ByteMemory EventRun

variable {ω : Type} (cfg : Config) (fs : FileSystem ω) (t : Transfer)

/-- The request was accepted, and every call so far has succeeded. -/
structure Accepted (link : Bool) (evs : List SyncEvent) : Prop where
  name_lt : t.name.length < cfg.pathMax
  absolute : t.name.head? = some 47
  link : sIsLnk (sendMode cfg t.name) = link
  header : headerBytes evs = sizeofReq
  succeed : AllSucceed evs

/-- The file was opened and these blocks were written to it. -/
def Written (fd : ℤ) (parts : List (List UInt8)) (evs : List SyncEvent) : Prop :=
  fileOps evs = .opened (sendPath cfg t.name) (.create (sendMode cfg t.name &&& 0o777)) fd ::
    parts.map (.wrote fd)

/-- The file was opened, the blocks written to it make up the chunks, and it was closed. -/
def Uploaded (evs : List SyncEvent) : Prop :=
  ∃ (fd : ℤ) (parts : List (List UInt8)), fileOps evs =
    .opened (sendPath cfg t.name) (.create (sendMode cfg t.name &&& 0o777)) fd ::
      parts.map (.wrote fd) ++ [.closed fd] ∧ parts.flatten = t.chunks.flatten

/-- Where the service svc is in the transfer, after the events evs, with the bytes R to come. -/
inductive Follows (svc : AfsService) (evs : List SyncEvent) (R : List UInt8) : Prop
  | header (state : svc.state = .waitCmd) (size : svc.size < sizeofReq)
      (header : headerBytes evs = svc.size) (succeed : AllSucceed evs) (ops : fileOps evs = [])
      (stream : svc.collected ++ R = t.stream)
  | name (state : svc.state = .waitCmdData) (cmd : svc.cmd = idSend)
      (namelen : svc.namelen = t.name.length) (name_lt : t.name.length < cfg.pathMax)
      (size : svc.size ≤ t.name.length) (header : headerBytes evs = sizeofReq)
      (succeed : AllSucceed evs) (ops : fileOps evs = [])
      (stream : svc.collected ++ R = t.name ++ dataRecords t.time t.chunks)
  | fileHdr (fd : ℤ) (parts chunks : List (List UInt8)) (state : svc.state = .processSendFileHdr)
      (size : svc.size < sizeofData) (accepted : Accepted cfg t false evs) (hu : svc.u = .sendFile fd)
      (hfd : 0 ≤ fd) (written : Written cfg t fd parts evs)
      (content : parts.flatten ++ chunks.flatten = t.chunks.flatten)
      (mem : ∀ ch ∈ chunks, ch ∈ t.chunks)
      (stream : svc.collected ++ R = dataRecords t.time chunks)
  | fileData (fd : ℤ) (parts chunks : List (List UInt8)) (left : List UInt8)
      (state : svc.state = .processSendFileData) (size : svc.size = 0)
      (namelen : svc.namelen = left.length) (accepted : Accepted cfg t false evs)
      (hu : svc.u = .sendFile fd) (hfd : 0 ≤ fd) (written : Written cfg t fd parts evs)
      (content : parts.flatten ++ (left ++ chunks.flatten) = t.chunks.flatten)
      (mem : ∀ ch ∈ chunks, ch ∈ t.chunks)
      (stream : R = left ++ dataRecords t.time chunks)
  | linkHdr (made chunks : List (List UInt8)) (state : svc.state = .processSendSymHdr)
      (size : svc.size < sizeofData) (accepted : Accepted cfg t true evs)
      (split : t.chunks = made ++ chunks) (short : ∀ ch ∈ made, ch.length < cfg.pathMax)
      (stream : svc.collected ++ R = dataRecords t.time chunks)
  | linkData (made chunks : List (List UInt8)) (ch : List UInt8)
      (state : svc.state = .processSendSymData) (size : svc.size ≤ ch.length)
      (namelen : svc.namelen = ch.length) (accepted : Accepted cfg t true evs)
      (split : t.chunks = made ++ ch :: chunks) (short : ∀ ch ∈ made, ch.length < cfg.pathMax)
      (stream : svc.collected ++ R = ch ++ dataRecords t.time chunks)
  | done (link : Bool) (state : svc.state = .waitCmd) (size : svc.size = 0)
      (accepted : Accepted cfg t link evs)
      (file : link = false → Uploaded cfg t evs)
      (short : link = true → ∀ ch ∈ t.chunks, ch.length < cfg.pathMax)
      (stream : R = [])

/-- The condition under which nothing fails on the way: the path is too long, and the
service is closed in front of it, or all goes well. -/
structure GoesWell (evs : List SyncEvent) : Prop where
  absolute : t.name.head? = some 47
  succeed : AllSucceed evs
  short : sIsLnk (sendMode cfg t.name) = true → cfg.fileSymlink = true →
    ∀ ch ∈ t.chunks, ch.length < cfg.pathMax

def Passes (evs : List SyncEvent) : Prop := cfg.pathMax ≤ t.name.length ∨ GoesWell cfg t evs

variable {cfg t} in
theorem Passes.of_append {evs es : List SyncEvent} (h : Passes cfg t (evs ++ es)) :
    Passes cfg t evs := by
  rcases h with h | h
  · exact Or.inl h
  · exact Or.inr ⟨h.absolute,((all_succeed_append _ _).mp h.succeed).1,h.short⟩

/-- The transfer is at its end exactly when nothing is to come. -/
theorem follows_end (svc : AfsService) (evs : List SyncEvent) (h : Follows cfg t svc evs []) :
    svc.state = .waitCmd ∧ svc.size = 0 ∧ headerBytes evs = sizeofReq ∧ GoesWell cfg t evs ∧
      (sIsLnk (sendMode cfg t.name) = false → Uploaded cfg t evs) := by
  have hlen {A B : List UInt8} {n : ℕ} (hs : svc.collected ++ [] = A ++ B)
      (hn : svc.size < n) (hA : n ≤ (A ++ B).length) : False := by
    have h := congrArg List.length hs
    rw [List.append_nil, length_collected] at h
    omega
  have hrec (chunks : List (List UInt8)) := data_records_length t.time chunks
  cases h with
  | header state size header succeed ops stream =>
    refine (hlen stream size ?_).elim
    simp only [List.length_append, length_le32, sizeofReq]
    omega
  | name state cmd namelen name_lt size header succeed ops stream =>
    refine (hlen stream (Nat.lt_succ_of_le size) ?_).elim
    have := hrec t.chunks
    rw [List.length_append]
    omega
  | fileHdr fd parts chunks state size accepted hu hfd written content mem stream =>
    refine (hlen (B := []) (stream.trans (List.append_nil _).symm) size ?_).elim
    rw [List.append_nil]
    exact hrec chunks
  | fileData fd parts chunks left state size namelen accepted hu hfd written content mem stream =>
    have h := congrArg List.length stream
    have hr := hrec chunks
    rw [List.length_append, List.length_nil] at h
    omega
  | linkHdr made chunks state size accepted split short stream =>
    refine (hlen (B := []) (stream.trans (List.append_nil _).symm) size ?_).elim
    rw [List.append_nil]
    exact hrec chunks
  | linkData made chunks ch state size namelen accepted split short stream =>
    refine (hlen stream (Nat.lt_succ_of_le size) ?_).elim
    have hr := hrec chunks
    rw [List.length_append]
    omega
  | done link state size accepted file short stream =>
    refine ⟨state,size,accepted.header,⟨accepted.absolute,accepted.succeed,fun hl _ => ?_⟩,?_⟩
    · exact short (accepted.link.symm.trans hl)
    · exact fun hl => file (accepted.link.symm.trans hl)

/-! One iteration. -/

/-- The reply of an iteration: the status at the end of the transfer, nothing before. -/
def StatusAtEnd (c d : SyncCtx ω) (R : List UInt8) : Prop :=
  R ≠ [] ∧ d.p.writeLen = c.p.writeLen ∨
  R = [] ∧ d.p.writeLen = u32 (c.p.writeLen+sizeofStatus) ∧
    d.p.data = store c.p.data c.p.writeLen (le32 idOkay ++ le32 0)

/-- What an iteration can come to. The run has made the trace log so far, and L is to come
in later packets. -/
inductive Outcome (log : List SyncEvent) (L : List UInt8) (c : SyncCtx ω)
    (r : ℤ × SyncCtx ω) : Prop
  | follows (evs : List SyncEvent) (ret : 0 ≤ r.1) (log : r.2.log = log ++ evs)
      (follows : Follows cfg t r.2.svc evs (r.2.rest ++ L))
      (status : StatusAtEnd c r.2 (r.2.rest ++ L))
  | fails (evs : List SyncEvent) (ret : r.1 = 0) (log : r.2.log = log ++ evs)
      (state : r.2.svc.state = .waitCmd) (size : r.2.svc.size = 0)
      (rest : 0 < r.2.p.msg.dataLength ∨ L ≠ []) (header : headerBytes evs = sizeofReq)
      (failed : ¬Passes cfg t evs)
  | stops (evs : List SyncEvent) (ret : r.1 < 0) (log : r.2.log = log ++ evs)
      (header : headerBytes evs = sizeofReq) (passed : Passes cfg t evs)
      (reason : cfg.pathMax ≤ t.name.length ∨ sIsLnk (sendMode cfg t.name) = true)

theorem sync_iter_go (c : SyncCtx ω) (h : 0 < (stateProcess cfg fs c).1) :
    syncIter cfg fs c = stateProcess cfg fs c := by
  unfold syncIter
  dsimp only
  rw [if_neg (not_le.mpr h)]

theorem sync_iter_reset (c : SyncCtx ω) (h : (stateProcess cfg fs c).1 ≤ 0) :
    syncIter cfg fs c = ((stateProcess cfg fs c).1, stateReset fs (stateProcess cfg fs c).2) := by
  unfold syncIter
  dsimp only
  rw [if_pos h]

/-- A reset adds to the trace what it releases, and that always succeeds. -/
theorem state_reset_log (c : SyncCtx ω) : ∃ es, (stateReset fs c).log = c.log ++ es ∧
    headerBytes es = 0 ∧ AllSucceed es := by
  unfold stateReset
  cases c.svc.state with
  | processList => exact ⟨[_,_],List.append_assoc _ _ _,rfl,by simp [SyncEvent.succeeds]⟩
  | processRecv => exact ⟨[_],rfl,rfl,by simp [SyncEvent.succeeds]⟩
  | processSendSymHdr => exact ⟨[_],rfl,rfl,by simp [SyncEvent.succeeds]⟩
  | processSendSymData => exact ⟨[_],rfl,rfl,by simp [SyncEvent.succeeds]⟩
  | processSendFileHdr => exact ⟨[_],rfl,rfl,by simp [SyncEvent.succeeds]⟩
  | processSendFileData => exact ⟨[_],rfl,rfl,by simp [SyncEvent.succeeds]⟩
  | waitCmd => exact ⟨[],by simp,rfl,by simp⟩
  | waitCmdData => exact ⟨[],by simp,rfl,by simp⟩

variable {cfg fs t} in
/-- A handler that answered FAIL while records are still to come. -/
theorem outcome_of_fail {c d : SyncCtx ω} {log evs : List SyncEvent} {L : List UInt8}
    (hrun : stateProcess cfg fs c = (0, d)) (hlog : d.log = log ++ evs)
    (hrest : 0 < d.p.msg.dataLength ∨ L ≠ []) (hheader : headerBytes evs = sizeofReq)
    (hfail : ¬Passes cfg t evs) : Outcome cfg t log L c (syncIter cfg fs c) := by
  obtain ⟨es,hes,hzero,-⟩ := state_reset_log fs d
  rw [sync_iter_reset cfg fs c (by rw [hrun]), hrun]
  refine .fails (evs ++ es) rfl ?_ ?_ ?_ ?_ ?_ (fun h => hfail h.of_append)
  · change (stateReset fs d).log = _
    rw [hes, hlog, List.append_assoc]
  · change (stateReset fs d).svc.state = _
    rw [state_reset_svc]
  · change (stateReset fs d).svc.size = _
    rw [state_reset_svc]
  · change 0 < (stateReset fs d).p.msg.dataLength ∨ _
    rw [state_reset_p]
    exact hrest
  · rw [header_bytes_append, hheader, hzero, Nat.add_zero]

variable {cfg fs t} in
/-- A handler that had the service closed, although nothing had failed. -/
theorem outcome_of_stop {c d : SyncCtx ω} {log evs : List SyncEvent} {L : List UInt8}
    (hrun : stateProcess cfg fs c = (-1, d)) (hlog : d.log = log ++ evs)
    (hheader : headerBytes evs = sizeofReq)
    (hpass : ∀ es, AllSucceed es → Passes cfg t (evs ++ es))
    (hreason : cfg.pathMax ≤ t.name.length ∨ sIsLnk (sendMode cfg t.name) = true) :
    Outcome cfg t log L c (syncIter cfg fs c) := by
  obtain ⟨es,hes,hzero,hok⟩ := state_reset_log fs d
  rw [sync_iter_reset cfg fs c (by rw [hrun]; simp), hrun]
  refine .stops (evs ++ es) (by simp) ?_ ?_ (hpass es hok) hreason
  · change (stateReset fs d).log = _
    rw [hes, hlog, List.append_assoc]
  · rw [header_bytes_append, hheader, hzero, Nat.add_zero]

/-- Something of the records is left behind the bytes that were taken. -/
theorem rest_of_append_ne (c : SyncCtx ω) (L : List UInt8) (h : c.rest ++ L ≠ []) :
    0 < c.p.msg.dataLength ∨ L ≠ [] := by
  by_contra hno
  rw [not_or, not_lt, Nat.le_zero, not_not, ← rest_eq_nil_iff] at hno
  exact h (by rw [hno.1, hno.2, List.append_nil])

section
variable {cfg fs t}
variable {log evs : List SyncEvent} {L : List UInt8} {c : SyncCtx ω}

/-- A handler that goes on and leaves the replies alone. -/
theorem outcome_of_go {d : SyncCtx ω} {evs' : List SyncEvent}
    (hrun : stateProcess cfg fs c = (1, d))
    (hlog : d.log = log ++ evs') (hp : d.p.writeLen = c.p.writeLen)
    (hfollows : Follows cfg t d.svc evs' (d.rest ++ L)) (hne : d.rest ++ L ≠ []) :
    Outcome cfg t log L c (syncIter cfg fs c) := by
  rw [sync_iter_go cfg fs c (by rw [hrun]; simp), hrun]
  exact .follows evs' (by simp) hlog hfollows (Or.inl ⟨hne,hp⟩)

theorem append_data_records_ne (A : List UInt8) (chunks : List (List UInt8)) :
    A ++ dataRecords t.time chunks ≠ [] := by
  intro h
  have hrec := data_records_length t.time chunks
  rw [(List.append_eq_nil_iff.mp h).2] at hrec
  exact absurd hrec (by decide)

theorem data_records_ne (chunks : List (List UInt8)) : dataRecords t.time chunks ≠ [] :=
  append_data_records_ne [] chunks

/-- What is to come after a read that did not complete what it was to read. -/
theorem short_ne (A B : List UInt8) (h : c.short.svc.collected ++ (c.short.rest ++ L) = A ++ B)
    (hlen : c.short.svc.size < (A ++ B).length) : c.short.rest ++ L ≠ [] := by
  intro hnil
  rw [hnil, List.append_nil] at h
  have hl := congrArg List.length h
  rw [length_collected] at hl
  omega

theorem rest_congr {d e : SyncCtx ω} (hp : e.p = d.p) (hptr : e.svc.packetPtr = d.svc.packetPtr) :
    e.rest = d.rest := by
  unfold SyncCtx.rest SyncCtx.peek
  rw [hp, hptr]

theorem collected_of_size_zero {s : AfsService} (h : s.size = 0) : s.collected = [] := by
  rw [AfsService.collected, h, slice_zero]

theorem header_outcome (hlog : c.log = log ++ evs) (state : c.svc.state = .waitCmd)
    (size : c.svc.size < sizeofReq) (header : headerBytes evs = c.svc.size)
    (succeed : AllSucceed evs) (ops : fileOps evs = [])
    (stream : c.svc.collected ++ (c.rest ++ L) = t.stream) :
    Outcome cfg t log L c (syncIter cfg fs c) := by
  have hmax := cfg.pathMax_ge
  set k := min (sizeofReq-c.svc.size) c.p.msg.dataLength with hk
  set d := c.emit (.header k) with hd
  have hlogd : d.log = log ++ (evs ++ [.header k]) := by
    rw [hd, SyncCtx.emit_log, hlog, List.append_assoc]
  have hhead : headerBytes (evs ++ [.header k]) = c.svc.size+k := by
    simp [SyncEvent.headerBytes, header]
  have hok : AllSucceed (evs ++ [.header k]) := by simp [SyncEvent.succeeds, succeed]
  have hops : fileOps (evs ++ [.header k]) = [] := by
    rw [file_ops_append, ops]
    rfl
  have hprocess : stateProcess cfg fs c =
      afterRead (readFromPacket cfg d sizeofReq) (fun c => (-1, c)) (requestHeader cfg) := by
    rw [stateProcess, state]
    rfl
  rcases after_read_cases cfg d sizeofReq (fun c => (-1, c)) (requestHeader cfg) with
    ⟨hbad,-⟩ | ⟨hle,-,hdone,hr⟩ | ⟨hle,-,hshort,hr⟩
  · have hdsize : d.svc.size = c.svc.size := rfl
    unfold sizeofReq at *
    omega
  · -- the header is complete: it is the SEND request's own
    obtain ⟨hbuff,hrest⟩ := complete_stream d sizeofReq (le32 idSend ++ le32 t.name.length)
      (t.name ++ dataRecords t.time t.chunks) L rfl hle hdone stream
    obtain ⟨hid,hlen⟩ := words_of_slice _ 0 _ _ hbuff
    rw [u32_of_lt _ (by decide)] at hid
    rw [Nat.zero_add, u32_of_lt _ t.name_lt] at hlen
    have hkd : c.svc.size+k = sizeofReq := by
      have hdone' : sizeofReq-c.svc.size ≤ c.p.msg.dataLength := hdone
      omega
    rw [hkd] at hhead
    set e := d.complete sizeofReq with he
    rw [hr] at hprocess
    by_cases hlong : cfg.pathMax ≤ t.name.length
    · have hrun : stateProcess cfg fs c = (-1, e) := by
        rw [hprocess, requestHeader, hid, hlen, if_neg (by decide), if_pos hlong]
      exact outcome_of_stop hrun hlogd hhead (fun _ _ => Or.inl hlong) (Or.inl hlong)
    · have hrun : stateProcess cfg fs c = (1, { e with svc := { e.svc with
          cmd := idSend, namelen := t.name.length, state := .waitCmdData } }) := by
        rw [hprocess, requestHeader, hid, hlen, if_neg (by decide), if_neg hlong]
        simp only [hlen]
        rfl
      refine outcome_of_go hrun hlogd rfl (.name rfl rfl rfl (not_le.mp hlong) (Nat.zero_le _)
        hhead hok hops ?_) ?_
      · exact hrest
      · change e.rest ++ L ≠ []
        rw [hrest]
        exact append_data_records_ne _ _
  · have hrun : stateProcess cfg fs c = (1, d.short) := hprocess.trans hr
    have hstream : d.short.svc.collected ++ (d.short.rest ++ L) = t.stream :=
      (short_stream d L).trans stream
    have hshort' : c.p.msg.dataLength < sizeofReq-c.svc.size := hshort
    have hsize : d.short.svc.size = c.svc.size+c.p.msg.dataLength := rfl
    refine outcome_of_go hrun hlogd rfl (.header state ?_ ?_ hok hops hstream)
      (short_ne _ _ hstream ?_)
    · omega
    · rw [hhead, hsize]
      omega
    · rw [hsize]
      simp only [List.length_append, length_le32]
      unfold sizeofReq at hshort'
      omega

theorem request_name_send {e : SyncCtx ω} {n : ℕ} (hcmd : e.svc.cmd = idSend)
    (hlen : e.svc.namelen = n) (hlt : n < cfg.pathMax) : requestName cfg fs e =
      stateInitSend cfg fs ((e.setBuff (store e.svc.buff n [0])).emit
        (.exec idSend (slice (store e.svc.buff n [0]) 0 n))) := by
  have hinit (d : SyncCtx ω) (hd : d.svc.cmd = idSend) :
      stateInit cfg fs d = stateInitSend cfg fs d := by
    rw [stateInit, if_neg (by rw [hd]; decide), if_neg (by rw [hd]; decide), if_pos hd]
  subst hlen
  rw [requestName, if_neg (not_le.mpr hlt)]
  dsimp only [SyncCtx.setBuff_svc]
  rw [hcmd, hinit]
  exact hcmd

/-- What a handler adds to the trace in front of a FAIL message is all that is there. -/
theorem outcome_of_fail_message {d : SyncCtx ω} {evs : List SyncEvent} {text : List UInt8}
    (hrun : stateProcess cfg fs c = (0, prepareFailMessage cfg d text))
    (hlog : d.log = log ++ evs) (hheader : headerBytes evs = sizeofReq)
    (hne : d.rest ++ L ≠ []) (hfail : ∀ room, ¬Passes cfg t (evs ++ [.room room])) :
    Outcome cfg t log L c (syncIter cfg fs c) := by
  have hroom : (prepareFailMessage cfg d text).log =
      log ++ (evs ++ [.room (cfg.payloadSize-sizeofData-d.p.writeLen)]) := by
    rw [prepare_fail_message_log, hlog, List.append_assoc]
  refine outcome_of_fail hrun hroom ?_ ?_ (hfail _)
  · rw [prepare_fail_message_msg]
    exact rest_of_append_ne d L hne
  · rw [header_bytes_append, hheader]
    rfl

/-- A transfer that was started waits for its first record. -/
theorem Begun.follows {s svc : AfsService} {es : List SyncEvent} {R : List UInt8}
    (h : Begun (sendPath cfg t.name) (sendMode cfg t.name &&& 0o777) s
      (sIsLnk (sendMode cfg t.name)) svc (fileOps es))
    (hacc : ∀ link, sIsLnk (sendMode cfg t.name) = link → Accepted cfg t link evs)
    (hops : fileOps evs = fileOps es) (hsize : svc.size = 0)
    (hR : R = dataRecords t.time t.chunks) : Follows cfg t svc evs R := by
  have hcollected : svc.collected ++ R = dataRecords t.time t.chunks := by
    rw [collected_of_size_zero hsize, List.nil_append, hR]
  have hshort : svc.size < sizeofData := by
    rw [hsize]
    decide
  rw [← hops] at h
  generalize hl : sIsLnk (sendMode cfg t.name) = link at h
  have haccepted := hacc link hl
  generalize hall : fileOps evs = ops at h
  cases h with
  | file fd hfd =>
    exact .fileHdr fd [] t.chunks rfl hshort haccepted rfl hfd hall rfl (fun _ h => h) hcollected
  | link u => exact .linkHdr [] t.chunks rfl hshort haccepted rfl (by simp) hcollected

/-- The name of the request is there: it is split, and the transfer started. -/
theorem name_complete_outcome (hlog : c.log = log ++ evs) (cmd : c.svc.cmd = idSend)
    (namelen : c.svc.namelen = t.name.length) (name_lt : t.name.length < cfg.pathMax)
    (header : headerBytes evs = sizeofReq) (succeed : AllSucceed evs) (ops : fileOps evs = [])
    (hrun : stateProcess cfg fs c = requestName cfg fs (c.complete t.name.length))
    (hbuff : slice (c.complete t.name.length).svc.buff 0 t.name.length = t.name)
    (hrest : (c.complete t.name.length).rest ++ L = dataRecords t.time t.chunks) :
    Outcome cfg t log L c (syncIter cfg fs c) := by
  set e := c.complete t.name.length with he
  set b := store e.svc.buff t.name.length [0] with hb
  set f := (e.setBuff b).emit (.exec idSend (slice b 0 t.name.length)) with hf
  have hname : slice b 0 t.name.length = t.name := by
    rw [hb, slice_store_disjoint _ _ _ _ _ (Or.inl (by omega)), hbuff]
  have hnul : b t.name.length = 0 := store_apply_of_mem e.svc.buff _ 0 [0] (by simp)
  obtain ⟨m,hsend,hpath,habs⟩ := state_init_send_eq cfg fs f t.name hname hnul
  have hstarted := state_init_send_started cfg fs f
  rw [hsend] at hstarted
  have hlen : ((f.setBuff m).name cfg).length < cfg.pathMax := by
    rw [hpath]
    exact lt_of_le_of_lt (send_path_length cfg t.name) name_lt
  obtain ⟨es,hlog',hread,hret⟩ := state_init_send_path_outcome cfg fs (f.setBuff m)
    (sendMode cfg t.name &&& 0o777) (sIsLnk (sendMode cfg t.name)) hlen
  rw [request_name_send (e := e) cmd namelen name_lt, hsend] at hrun
  set r := stateInitSendPath cfg fs (f.setBuff m) (sendMode cfg t.name &&& 0o777)
    (sIsLnk (sendMode cfg t.name))
  set evs' := evs ++ (.exec idSend (slice b 0 t.name.length) :: es) with hevs
  have hlogd : r.2.log = log ++ evs' := by
    rw [hlog', SyncCtx.setBuff_log, hf, SyncCtx.emit_log, SyncCtx.setBuff_log]
    change c.log ++ _ ++ _ = _
    rw [hlog, hevs]
    simp only [List.append_assoc, List.singleton_append]
  have hhead : headerBytes evs' = sizeofReq := by
    simp [hevs, SyncEvent.headerBytes, hread, header]
  have hok : AllSucceed evs' ↔ AllSucceed es := by
    simp [hevs, SyncEvent.succeeds, succeed]
  rcases hret with ⟨h1,h47,hes,hp,hbegun⟩ | ⟨h0,hbad⟩
  · -- the transfer is started: nothing but the records is to come
    have hrun1 : stateProcess cfg fs c = (1, r.2) := by
      rw [hrun, ← h1]
    have hrecords : r.2.rest ++ L = dataRecords t.time t.chunks := by
      rw [rest_congr (d := e) hp hstarted.packetPtr]
      exact hrest
    have hops : fileOps evs' = fileOps es := by
      rw [hevs, file_ops_append, ops, List.nil_append]
      exact List.filterMap_cons_none rfl
    have hacc (link : Bool) (hl : sIsLnk (sendMode cfg t.name) = link) :
        Accepted cfg t link evs' := ⟨name_lt,habs.mp h47,hl,hhead,hok.mpr hes⟩
    rw [hpath] at hbegun
    refine outcome_of_go hrun1 hlogd (by rw [hp]; rfl)
      (hbegun.follows hacc hops hstarted.size hrecords) ?_
    rw [hrecords]
    exact data_records_ne _
  · -- a call has failed, or the path is not absolute
    have hrun0 : stateProcess cfg fs c = (0, r.2) := by
      rw [hrun, ← h0]
    refine outcome_of_fail hrun0 hlogd ?_ hhead ?_
    · have hne : e.rest ++ L ≠ [] := by
        rw [hrest]
        exact data_records_ne _
      have hmsg : r.2.p.msg = e.p.msg := hstarted.msg
      rw [hmsg]
      exact rest_of_append_ne e L hne
    · rintro (h | h)
      · omega
      · exact hbad (habs.mpr h.absolute) (hok.mp h.succeed)

theorem name_outcome (hlog : c.log = log ++ evs) (state : c.svc.state = .waitCmdData)
    (cmd : c.svc.cmd = idSend) (namelen : c.svc.namelen = t.name.length)
    (name_lt : t.name.length < cfg.pathMax) (size : c.svc.size ≤ t.name.length)
    (header : headerBytes evs = sizeofReq) (succeed : AllSucceed evs) (ops : fileOps evs = [])
    (stream : c.svc.collected ++ (c.rest ++ L) = t.name ++ dataRecords t.time t.chunks) :
    Outcome cfg t log L c (syncIter cfg fs c) := by
  have hprocess : stateProcess cfg fs c =
      afterRead (readFromPacket cfg c t.name.length) (fun c => (-1, c)) (requestName cfg fs) := by
    rw [stateProcess, state]
    simp only [stateWaitCmdData, namelen]
  rcases after_read_cases cfg c t.name.length (fun c => (-1, c)) (requestName cfg fs) with
    ⟨hbad,-⟩ | ⟨hle,-,hdone,hr⟩ | ⟨hle,-,hshort,hr⟩
  · omega
  · obtain ⟨hbuff,hrest⟩ := complete_stream c _ t.name _ L rfl hle hdone stream
    exact name_complete_outcome hlog cmd namelen name_lt header succeed ops (hprocess.trans hr)
      hbuff hrest
  · have hrun : stateProcess cfg fs c = (1, c.short) := hprocess.trans hr
    have hstream := (short_stream c L).trans stream
    have hsize : c.short.svc.size = c.svc.size+c.p.msg.dataLength := rfl
    refine outcome_of_go hrun hlog rfl
      (.name state cmd namelen name_lt ?_ header succeed ops hstream) (short_ne _ _ hstream ?_)
    · omega
    · have hrec := data_records_length t.time t.chunks
      rw [hsize, List.length_append]
      omega

/-- The three exits of state_process_send_header on the records of a transfer. -/
theorem send_header_cases (cfg : Config) (chunks : List (List UInt8))
    (hmem : ∀ ch ∈ chunks, ch.length < 2^32)
    (size : c.svc.size < sizeofData)
    (stream : c.svc.collected ++ (c.rest ++ L) = dataRecords t.time chunks) :
    (chunks = [] ∧ stateProcessSendHeader cfg c =
        (0, prepareOkayMessage (c.complete sizeofData)) ∧
      (c.complete sizeofData).rest ++ L = []) ∨
    (∃ ch rest, chunks = ch :: rest ∧ stateProcessSendHeader cfg c =
        (1, ((c.complete sizeofData).setNamelen ch.length).setState c.svc.state.succ) ∧
      (c.complete sizeofData).rest ++ L = ch ++ dataRecords t.time rest) ∨
    (stateProcessSendHeader cfg c = (1, c.short) ∧ c.short.svc.size < sizeofData ∧
      c.short.rest ++ L ≠ []) := by
  have hmax := cfg.pathMax_ge
  rcases after_read_cases cfg c sizeofData (readError cfg) (sendHeader cfg) with
    ⟨hbad,-⟩ | ⟨hle,-,hdone,hr⟩ | ⟨hle,-,hshort,hr⟩
  · unfold sizeofData at *
    omega
  · have hrun : stateProcessSendHeader cfg c = sendHeader cfg (c.complete sizeofData) := hr
    rw [hrun, sendHeader]
    obtain ⟨id,n,rest,hsplit,hmatch⟩ := data_records_split t.time chunks
    obtain ⟨hbuff,hrest⟩ := complete_stream c sizeofData (le32 id ++ le32 n) rest L rfl hle hdone
      (stream.trans hsplit)
    obtain ⟨hid,hlen⟩ := words_of_slice _ 0 _ _ hbuff
    rw [Nat.zero_add] at hlen
    rw [hid, hlen]
    cases chunks with
    | nil =>
      obtain ⟨rfl,-,rfl⟩ := hmatch
      exact Or.inl ⟨rfl,by rw [if_pos (by decide), if_pos (by decide)],hrest⟩
    | cons ch chunks =>
      obtain ⟨rfl,rfl,rfl⟩ := hmatch
      rw [u32_of_lt ch.length (hmem ch (List.mem_cons_self ..)), if_neg (by decide)]
      exact Or.inr (Or.inl ⟨ch,chunks,rfl,rfl,hrest⟩)
  · refine Or.inr (Or.inr ⟨hr,?_,?_⟩)
    · have hsize : c.short.svc.size = c.svc.size+c.p.msg.dataLength := rfl
      omega
    · refine short_ne (dataRecords t.time chunks) [] ?_ ?_
      · rw [short_stream, stream, List.append_nil]
      · have hrec := data_records_length t.time chunks
        have hsize : c.short.svc.size = c.svc.size+c.p.msg.dataLength := rfl
        rw [List.append_nil, hsize]
        unfold sizeofData at hshort
        omega

theorem Accepted.append {link : Bool} {es : List SyncEvent} (h : Accepted cfg t link evs)
    (hread : headerBytes es = 0) (hok : AllSucceed es) : Accepted cfg t link (evs ++ es) where
  name_lt := h.name_lt
  absolute := h.absolute
  link := h.link
  header := by rw [header_bytes_append, h.header, hread, Nat.add_zero]
  succeed := (all_succeed_append _ _).mpr ⟨h.succeed,hok⟩

theorem Accepted.fails {link : Bool} {es : List SyncEvent} (h : Accepted cfg t link evs)
    (hbad : ¬AllSucceed es) : ¬Passes cfg t (evs ++ es) := by
  rintro (hp | hp)
  · exact absurd hp (not_le.mpr h.name_lt)
  · exact hbad ((all_succeed_append _ _).mp hp.succeed).2

/-- A target of a link that is too long for the buffer. -/
theorem Accepted.too_long {ch : List UInt8} (h : Accepted cfg t true evs)
    (hsym : cfg.fileSymlink = true) (hch : ch ∈ t.chunks) (hlen : cfg.pathMax ≤ ch.length)
    (es : List SyncEvent) : ¬Passes cfg t (evs ++ es) := by
  rintro (hp | hp)
  · exact absurd hp (not_le.mpr h.name_lt)
  · exact absurd (hp.short h.link hsym ch hch) (not_lt.mpr hlen)

theorem Written.append {fd : ℤ} {parts parts' : List (List UInt8)} {es : List SyncEvent}
    (h : Written cfg t fd parts evs) (hes : fileOps es = parts'.map (.wrote fd)) :
    Written cfg t fd (parts ++ parts') (evs ++ es) := by
  rw [Written, file_ops_append, h, hes, List.map_append]
  rfl

/-- DONE is answered with OKAY, and what the transfer held is released. -/
theorem outcome_of_done {link : Bool} {e : SyncEvent}
    (hrun : stateProcess cfg fs c = (0, prepareOkayMessage (c.complete sizeofData)))
    (hlog : (stateReset fs (prepareOkayMessage (c.complete sizeofData))).log = c.log ++ [e])
    (hc : c.log = log ++ evs) (hread : e.headerBytes = 0) (hok : e.succeeds)
    (hacc : Accepted cfg t link evs) (hrest : (c.complete sizeofData).rest ++ L = [])
    (hfile : link = false → Uploaded cfg t (evs ++ [e]))
    (hshort : link = true → ∀ ch ∈ t.chunks, ch.length < cfg.pathMax) :
    Outcome cfg t log L c (syncIter cfg fs c) := by
  set d := prepareOkayMessage (c.complete sizeofData) with hd
  have hend : (stateReset fs d).rest ++ L = [] := by
    obtain ⟨h1,h2⟩ := List.append_eq_nil_iff.mp hrest
    rw [h2, List.append_nil, rest_eq_nil_iff, state_reset_p]
    exact (rest_eq_nil_iff (c.complete sizeofData)).mp h1
  rw [sync_iter_reset cfg fs c (by rw [hrun]), hrun]
  refine .follows (evs ++ [e]) le_rfl ?_ (.done link ?_ ?_ ?_ hfile hshort hend) (Or.inr ⟨hend,?_,?_⟩)
  · change (stateReset fs d).log = _
    rw [hlog, hc, List.append_assoc]
  · change (stateReset fs d).svc.state = _
    rw [state_reset_svc]
  · change (stateReset fs d).svc.size = _
    rw [state_reset_svc]
  · exact hacc.append (by simp [hread]) (by simpa using hok)
  · change (stateReset fs d).p.writeLen = _
    rw [state_reset_p]
    rfl
  · change (stateReset fs d).p.data = _
    rw [state_reset_p]
    rfl

theorem file_header_outcome (fd : ℤ) (parts chunks : List (List UInt8)) (hlog : c.log = log ++ evs)
    (state : c.svc.state = .processSendFileHdr) (size : c.svc.size < sizeofData)
    (accepted : Accepted cfg t false evs) (hu : c.svc.u = .sendFile fd) (hfd : 0 ≤ fd)
    (written : Written cfg t fd parts evs)
    (content : parts.flatten ++ chunks.flatten = t.chunks.flatten)
    (mem : ∀ ch ∈ chunks, ch ∈ t.chunks)
    (stream : c.svc.collected ++ (c.rest ++ L) = dataRecords t.time chunks) :
    Outcome cfg t log L c (syncIter cfg fs c) := by
  have hprocess : stateProcess cfg fs c = stateProcessSendHeader cfg c := by
    rw [stateProcess, state]
  rcases send_header_cases cfg chunks (fun ch h => t.chunk_lt ch (mem ch h)) size stream with
    ⟨rfl,hrun,hrest⟩ | ⟨ch,rest,rfl,hrun,hrest⟩ | ⟨hrun,hsize,hne⟩
  · refine outcome_of_done (e := .close fd) (hprocess.trans hrun) ?_ hlog rfl trivial accepted
      hrest (fun _ => ⟨fd,parts,?_,?_⟩) (fun h => by cases h)
    · have hstate : (prepareOkayMessage (c.complete sizeofData)).svc.state = .processSendFileHdr :=
        state
      have hfile : (prepareOkayMessage (c.complete sizeofData)).svc.u.fd = fd := by
        change c.svc.u.fd = fd
        rw [hu]
        rfl
      simp only [stateReset, hstate, hfile]
      rfl
    · rw [file_ops_append, written]
      rfl
    · simpa using content
  · refine outcome_of_go (hprocess.trans hrun) hlog rfl ?_ ?_
    · refine .fileData fd parts rest ch ?_ rfl rfl accepted hu hfd written ?_
        (fun x hx => mem x (List.mem_cons_of_mem _ hx)) hrest
      · change c.svc.state.succ = _
        rw [state]
        rfl
      · simpa using content
    · change (c.complete sizeofData).rest ++ L ≠ []
      rw [hrest]
      exact append_data_records_ne _ _
  · exact outcome_of_go (hprocess.trans hrun) hlog rfl (.fileHdr fd parts chunks state hsize accepted
      hu hfd written content mem ((short_stream c L).trans stream)) hne

theorem link_header_outcome (made chunks : List (List UInt8)) (hlog : c.log = log ++ evs)
    (state : c.svc.state = .processSendSymHdr) (size : c.svc.size < sizeofData)
    (accepted : Accepted cfg t true evs) (split : t.chunks = made ++ chunks)
    (short : ∀ ch ∈ made, ch.length < cfg.pathMax)
    (stream : c.svc.collected ++ (c.rest ++ L) = dataRecords t.time chunks) :
    Outcome cfg t log L c (syncIter cfg fs c) := by
  have hprocess : stateProcess cfg fs c = stateProcessSendHeader cfg c := by
    rw [stateProcess, state]
  have hmem (ch : List UInt8) (h : ch ∈ chunks) : ch.length < 2^32 :=
    t.chunk_lt ch (by rw [split]; exact List.mem_append_right _ h)
  rcases send_header_cases cfg chunks hmem size stream with
    ⟨rfl,hrun,hrest⟩ | ⟨ch,rest,rfl,hrun,hrest⟩ | ⟨hrun,hsize,hne⟩
  · refine outcome_of_done (e := .free c.svc.u.linkPath) (hprocess.trans hrun) ?_ hlog rfl trivial
      accepted hrest (fun h => by cases h) (fun _ => ?_)
    · have hstate : (prepareOkayMessage (c.complete sizeofData)).svc.state = .processSendSymHdr :=
        state
      simp only [stateReset, hstate]
      rfl
    · rw [split, List.append_nil]
      exact short
  · refine outcome_of_go (hprocess.trans hrun) hlog rfl ?_ ?_
    · refine .linkData made rest ch ?_ (Nat.zero_le _) rfl accepted split short hrest
      change c.svc.state.succ = _
      rw [state]
      rfl
    · change (c.complete sizeofData).rest ++ L ≠ []
      rw [hrest]
      exact append_data_records_ne _ _
  · exact outcome_of_go (hprocess.trans hrun) hlog rfl (.linkHdr made chunks state hsize accepted
      split short ((short_stream c L).trans stream)) hne

/-- The block in the packet, and what is to come behind it. -/
theorem take_block_stream (left : List UInt8) (B : List UInt8)
    (hlen : c.svc.namelen = left.length) (stream : c.rest ++ L = left ++ B) :
    c.peek c.blockSize = left.take c.blockSize ∧
      c.takeBlock.rest ++ L = left.drop c.blockSize ++ B := by
  have hle : c.blockSize ≤ c.p.msg.dataLength := Nat.min_le_left _ _
  have hle' : c.blockSize ≤ left.length := by
    rw [← hlen]
    exact Nat.min_le_right _ _
  have hsplit := rest_split c c.blockSize hle
  have hrest : c.takeBlock.rest =
      slice c.p.data (c.svc.packetPtr+c.blockSize) (c.p.msg.dataLength-c.blockSize) := rfl
  have happ : c.peek c.blockSize ++ (c.takeBlock.rest ++ L) =
      left.take c.blockSize ++ (left.drop c.blockSize ++ B) := by
    rw [hrest, ← List.append_assoc, ← hsplit, stream, ← List.append_assoc, List.take_append_drop]
  refine List.append_inj happ ?_
  rw [SyncCtx.length_peek, List.length_take]
  omega

/-- A block of a file is written, in one piece or in several, or a write fails. -/
theorem file_block_written (fs : FileSystem ω) (fd : ℤ) (hu : c.svc.u = .sendFile fd) (hfd : 0 ≤ fd) :
    ∃ d es, d.svc = c.takeBlock.svc ∧ d.p = c.takeBlock.p ∧ d.log = c.log ++ es ∧
      headerBytes es = 0 ∧
      (AllSucceed es ∧
          (∃ parts : List (List UInt8), fileOps es = parts.map (.wrote fd) ∧
            parts.flatten = c.peek c.blockSize) ∧
          (c.svc.namelen ≤ c.p.msg.dataLength ∧
              stateProcessSendFile cfg fs c = (1, d.setState c.svc.state.pred) ∨
            c.p.msg.dataLength < c.svc.namelen ∧ stateProcessSendFile cfg fs c = (1, d)) ∨
        ¬AllSucceed es ∧
          stateProcessSendFile cfg fs c = (0, prepareFailMessage cfg d (ascii "write error"))) := by
  have hcfd : c.takeBlock.svc.u.fd = fd := by
    change c.svc.u.fd = fd
    rw [hu]
    rfl
  have hwrite : writeBlock fs c.takeBlock (c.peek c.blockSize) =
      writeLoop fs fd (c.peek c.blockSize).length c.takeBlock (c.peek c.blockSize) := by
    rw [writeBlock, hcfd, if_pos hfd]
  obtain ⟨es,hlog,hret⟩ := write_loop_outcome fs fd _ c.takeBlock (c.peek c.blockSize) le_rfl
  rw [← hwrite] at hlog hret
  obtain ⟨es',hlog',hwr⟩ := write_block_log fs c.takeBlock (c.peek c.blockSize)
  obtain rfl : es' = es := List.append_cancel_left (hlog'.symm.trans hlog)
  obtain ⟨d,hd,hsvc,hp,hcases⟩ := state_process_send_file_cases cfg fs c
  rw [← hd] at hlog
  refine ⟨d,es',hsvc,hp,hlog,header_bytes_of_is_write es' hwr,?_⟩
  rcases hret with ⟨htrue,hok,hparts⟩ | ⟨hfalse,hbad⟩
  · refine Or.inl ⟨hok,hparts,?_⟩
    rcases hcases with ⟨-,hcase⟩ | ⟨-,hcase⟩ | ⟨hfalse,-⟩
    · exact Or.inl hcase
    · exact Or.inr hcase
    · rw [htrue] at hfalse
      cases hfalse
  · refine Or.inr ⟨hbad,?_⟩
    rcases hcases with ⟨htrue,-⟩ | ⟨htrue,-⟩ | ⟨-,hcase⟩
    · rw [hfalse] at htrue
      cases htrue
    · rw [hfalse] at htrue
      cases htrue
    · exact hcase

theorem file_data_outcome (fd : ℤ) (parts chunks : List (List UInt8)) (left : List UInt8)
    (hlog : c.log = log ++ evs) (state : c.svc.state = .processSendFileData)
    (size : c.svc.size = 0) (namelen : c.svc.namelen = left.length)
    (accepted : Accepted cfg t false evs) (hu : c.svc.u = .sendFile fd) (hfd : 0 ≤ fd)
    (written : Written cfg t fd parts evs)
    (content : parts.flatten ++ (left ++ chunks.flatten) = t.chunks.flatten)
    (mem : ∀ ch ∈ chunks, ch ∈ t.chunks)
    (stream : c.rest ++ L = left ++ dataRecords t.time chunks) :
    Outcome cfg t log L c (syncIter cfg fs c) := by
  have hprocess : stateProcess cfg fs c = stateProcessSendFile cfg fs c := by
    rw [stateProcess, state]
  obtain ⟨hblock,hrest⟩ := take_block_stream left _ namelen stream
  obtain ⟨d,es,hsvc,hp,hdlog,hread,hcases⟩ := file_block_written fs fd hu hfd
  rw [hlog, List.append_assoc] at hdlog
  have hdrest : d.rest ++ L = left.drop c.blockSize ++ dataRecords t.time chunks := by
    rw [rest_congr (d := c.takeBlock) hp (by rw [hsvc])]
    exact hrest
  have hdsize : d.svc.size = 0 := by
    rw [hsvc]
    exact size
  have hdu : d.svc.u = .sendFile fd := by
    rw [hsvc]
    exact hu
  have hne := append_data_records_ne (t := t) (left.drop c.blockSize) chunks
  rcases hcases with ⟨hok,⟨parts',hops,hflat⟩,⟨hdone,hr⟩ | ⟨hmore,hr⟩⟩ | ⟨hbad,hr⟩
  · -- the chunk is complete
    have hall : c.blockSize = left.length := by
      rw [SyncCtx.blockSize, namelen]
      omega
    have hdrop : left.drop c.blockSize = [] := by
      rw [hall, List.drop_length]
    rw [hdrop, List.nil_append] at hdrest hne
    rw [hblock, hall, List.take_length] at hflat
    refine outcome_of_go (hprocess.trans hr) hdlog (by rw [SyncCtx.setState_p, hp]; rfl)
      (.fileHdr fd (parts ++ parts') chunks ?_ ?_ (accepted.append hread hok) hdu hfd
        (written.append hops) ?_ mem ?_) ?_
    · change c.svc.state.pred = _
      rw [state]
      rfl
    · change d.svc.size < _
      rw [hdsize]
      decide
    · rw [List.flatten_append, hflat, List.append_assoc]
      exact content
    · rw [collected_of_size_zero (by exact hdsize), List.nil_append]
      exact hdrest
    · change d.rest ++ L ≠ []
      rw [hdrest]
      exact hne
  · -- the packet is used up
    refine outcome_of_go (hprocess.trans hr) hdlog (by rw [hp]; rfl)
      (.fileData fd (parts ++ parts') chunks (left.drop c.blockSize) ?_ hdsize ?_
        (accepted.append hread hok) hdu hfd (written.append hops) ?_ mem hdrest)
      (by rw [hdrest]; exact hne)
    · rw [hsvc]
      exact state
    · rw [hsvc, List.length_drop, ← namelen]
      rfl
    · have hleft : left.take c.blockSize ++ left.drop c.blockSize = left := List.take_append_drop _ _
      rw [List.flatten_append, hflat, hblock, List.append_assoc, ← List.append_assoc (left.take _),
        hleft]
      exact content
  · refine outcome_of_fail_message (hprocess.trans hr) hdlog ?_ (by rw [hdrest]; exact hne)
      (fun room => ?_)
    · rw [header_bytes_append, accepted.header, hread, Nat.add_zero]
    · rw [List.append_assoc]
      exact accepted.fails (fun hall => hbad ((all_succeed_append _ _).mp hall).1)

/-- The target of the link is there: the link is made, unless the target fills the buffer or the
call fails. -/
theorem sym_target_outcome (made chunks : List (List UInt8)) (ch : List UInt8) (e : SyncCtx ω)
    (hrun : stateProcess cfg fs c = sendSymTarget cfg fs e) (hlog : e.log = log ++ evs)
    (state : e.svc.state = .processSendSymData) (size : e.svc.size = 0)
    (namelen : e.svc.namelen = ch.length) (hp : e.p.writeLen = c.p.writeLen)
    (hsym : cfg.fileSymlink = true) (accepted : Accepted cfg t true evs)
    (split : t.chunks = made ++ ch :: chunks) (short : ∀ ch ∈ made, ch.length < cfg.pathMax)
    (hrest : e.rest ++ L = dataRecords t.time chunks) :
    Outcome cfg t log L c (syncIter cfg fs c) := by
  have hne : e.rest ++ L ≠ [] := by
    rw [hrest]
    exact data_records_ne _
  rw [sendSymTarget, namelen] at hrun
  by_cases hfit : cfg.pathMax ≤ ch.length
  · rw [if_pos hfit] at hrun
    have hch : ch ∈ t.chunks := by rw [split]; simp
    exact outcome_of_fail_message hrun hlog accepted.header hne
      (fun room => accepted.too_long hsym hch hfit _)
  rw [if_neg hfit] at hrun
  dsimp only at hrun
  set f := e.setBuff (store e.svc.buff ch.length [0]) with hf
  set r := sysSymlink fs f (f.name cfg) f.svc.u.linkText with hr
  have hlogr : r.2.log = log ++ (evs ++ [.symlink (f.name cfg) f.svc.u.linkText r.1]) := by
    rw [hr, sys_symlink_log]
    change e.log ++ _ = _
    rw [hlog, List.append_assoc]
  by_cases hret : r.1 = 0
  · rw [if_neg (not_not.mpr hret)] at hrun
    refine outcome_of_go hrun hlogr hp (.linkHdr (made ++ [ch]) chunks ?_ ?_
      (accepted.append rfl (by simp [SyncEvent.succeeds, hret])) ?_ ?_ ?_) hne
    · change e.svc.state.pred = _
      rw [state]
      rfl
    · change e.svc.size < _
      rw [size]
      decide
    · rw [split, List.append_assoc]
      rfl
    · intro x hx
      rcases List.mem_append.mp hx with h | h
      · exact short x h
      · rw [List.mem_singleton.mp h]
        exact not_le.mp hfit
    · rw [collected_of_size_zero (by exact size), List.nil_append]
      exact hrest
  · rw [if_pos hret] at hrun
    refine outcome_of_fail_message hrun hlogr ?_ hne (fun room => ?_)
    · rw [header_bytes_append, accepted.header]
      rfl
    · rw [List.append_assoc]
      exact accepted.fails (by simp [SyncEvent.succeeds, hret])

theorem link_data_outcome (made chunks : List (List UInt8)) (ch : List UInt8)
    (hlog : c.log = log ++ evs) (state : c.svc.state = .processSendSymData)
    (size : c.svc.size ≤ ch.length) (namelen : c.svc.namelen = ch.length)
    (accepted : Accepted cfg t true evs) (split : t.chunks = made ++ ch :: chunks)
    (short : ∀ ch ∈ made, ch.length < cfg.pathMax)
    (stream : c.svc.collected ++ (c.rest ++ L) = ch ++ dataRecords t.time chunks) :
    Outcome cfg t log L c (syncIter cfg fs c) := by
  have hrec := data_records_length t.time chunks
  by_cases hsym : cfg.fileSymlink = true
  · have hprocess : stateProcess cfg fs c =
        afterRead (readFromPacket cfg c ch.length) (readError cfg) (sendSymTarget cfg fs) := by
      rw [stateProcess, state]
      simp only [hsym, if_true, stateProcessSendSym, namelen]
    rcases after_read_cases cfg c ch.length (readError cfg) (sendSymTarget cfg fs) with
      ⟨hbad,hr⟩ | ⟨hle,-,hdone,hr⟩ | ⟨hle,-,hshort,hr⟩
    · -- the target does not fit the buffer at all
      have hch : ch ∈ t.chunks := by rw [split]; simp
      refine outcome_of_fail_message (d := c.setSize 0) (hprocess.trans hr) hlog accepted.header ?_
        (fun room => accepted.too_long hsym hch (by omega) _)
      change c.rest ++ L ≠ []
      intro hnil
      rw [hnil, List.append_nil] at stream
      have hl := congrArg List.length stream
      rw [length_collected, List.length_append] at hl
      omega
    · obtain ⟨hbuff,hrest⟩ := complete_stream c ch.length ch _ L rfl hle hdone stream
      exact sym_target_outcome made chunks ch _ (hprocess.trans hr) hlog state rfl namelen rfl hsym
        accepted split short hrest
    · have hrun : stateProcess cfg fs c = (1, c.short) := hprocess.trans hr
      have hstream := (short_stream c L).trans stream
      have hsize : c.short.svc.size = c.svc.size+c.p.msg.dataLength := rfl
      refine outcome_of_go hrun hlog rfl (.linkData made chunks ch state ?_ namelen accepted split
        short hstream) (short_ne _ _ hstream ?_)
      · omega
      · rw [hsize, List.length_append]
        omega
  · -- without CONFIG_ADBD_FILE_SYMLINK there is no handler for the target
    have hrun : stateProcess cfg fs c = (-1, c) := by
      rw [stateProcess, state]
      simp only [hsym, Bool.false_eq_true, if_false]
    refine outcome_of_stop hrun hlog accepted.header
      (fun es hes => Or.inr ⟨accepted.absolute,?_,?_⟩) (Or.inr accepted.link)
    · exact (all_succeed_append _ _).mpr ⟨accepted.succeed,hes⟩
    · exact fun _ h => absurd h hsym

/-- One iteration of the loop, wherever the service is in the transfer. -/
theorem sync_iter_outcome (fs : FileSystem ω) (hlog : c.log = log ++ evs)
    (h : Follows cfg t c.svc evs (c.rest ++ L)) (hd : 0 < c.p.msg.dataLength) :
    Outcome cfg t log L c (syncIter cfg fs c) := by
  cases h with
  | header state size header succeed ops stream =>
    exact header_outcome hlog state size header succeed ops stream
  | name state cmd namelen name_lt size header succeed ops stream =>
    exact name_outcome hlog state cmd namelen name_lt size header succeed ops stream
  | fileHdr fd parts chunks state size accepted hu hfd written content mem stream =>
    exact file_header_outcome fd parts chunks hlog state size accepted hu hfd written content mem
      stream
  | fileData fd parts chunks left state size namelen accepted hu hfd written content mem stream =>
    exact file_data_outcome fd parts chunks left hlog state size namelen accepted hu hfd written
      content mem stream
  | linkHdr made chunks state size accepted split short stream =>
    exact link_header_outcome made chunks hlog state size accepted split short stream
  | linkData made chunks ch state size namelen accepted split short stream =>
    exact link_data_outcome made chunks ch hlog state size namelen accepted split short stream
  | done link state size accepted file short stream =>
    have h0 := (rest_eq_nil_iff c).mp (List.append_eq_nil_iff.mp stream).1
    omega

end

end MicroADB
