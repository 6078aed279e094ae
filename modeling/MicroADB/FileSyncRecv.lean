import MicroADB.FileSyncRequest

/-! The reply to a RECV request: the file in DATA records, one for the request and one for
each OKAY, and a DONE or a FAIL at its end. -/
namespace MicroADB
open ByteMemory EventRun

variable {ω : Type} {cfg : Config} {fs : FileSystem ω}

/-- The results of read for n bytes, from the state s on: some blocks, and the end of the file
or, without ok, an error. -/
inductive Reads (fs : FileSystem ω) (fd : ℤ) (n : ℕ) : ω → List (List UInt8) → Bool → Prop
  | eof (s : ω) (h : (fs.read s fd n).2 = some []) : Reads fs fd n s [] true
  | error (s : ω) (h : (fs.read s fd n).2 = none) : Reads fs fd n s [] false
  | block (s : ω) (bs : List UInt8) (blocks : List (List UInt8)) (ok : Bool)
    (h : (fs.read s fd n).2 = some bs) (hne : bs ≠ [])
    (rest : Reads fs fd n (fs.read s fd n).1 blocks ok) : Reads fs fd n s (bs :: blocks) ok

def dataRecord (bs : List UInt8) : List UInt8 := le32 idData ++ le32 bs.length ++ bs

def doneRecord : List UInt8 := le32 idDone ++ le32 0

def failRecord (reason : List UInt8) : List UInt8 := le32 idFail ++ le32 reason.length ++ reason

/-- The last record: the end of the file, or what read failed for. -/
def lastRecord (ok : Bool) : List UInt8 := if ok then doneRecord else failRecord
    (ascii "read failed")

def recvRecords (blocks : List (List UInt8)) (ok : Bool) : List (List UInt8) :=
  blocks.map dataRecord ++ [lastRecord ok]

/-- The records carry the blocks. -/
theorem recv_records_content (blocks : List (List UInt8)) (ok : Bool) :
    ((recvRecords blocks ok).dropLast.map (List.drop sizeofData)).flatten = blocks.flatten := by
  have hdrop (bs : List UInt8) : (dataRecord bs).drop sizeofData = bs := by
    rw [dataRecord]
    exact List.drop_left' rfl
  rw [recvRecords, List.dropLast_concat, List.map_map]
  congr 1
  calc blocks.map (List.drop sizeofData ∘ dataRecord) = blocks.map id :=
        List.map_congr_left (fun bs _ => hdrop bs)
    _ = blocks := List.map_id blocks

/-- The descriptors that were closed. -/
def closedFds (evs : List SyncEvent) : List ℤ :=
  evs.filterMap fun e => match e with | .close fd => some fd | _ => none

/-- A block is neither empty nor longer than was asked for. -/
theorem Reads.block_length {fd : ℤ} {n : ℕ} {s : ω} {blocks : List (List UInt8)} {ok : Bool}
    (h : Reads fs fd n s blocks ok) : ∀ bs ∈ blocks, 1 ≤ bs.length ∧ bs.length ≤ n := by
  induction h with
  | eof s h => simp
  | error s h => simp
  | block s bs blocks ok h hne rest ih =>
    intro b hb
    rcases List.mem_cons.mp hb with rfl | hb
    · exact ⟨List.length_pos_of_ne_nil hne,fs.read_le s fd n b h⟩
    · exact ih b hb

/-- The call of read in state_process_recv asks for the room behind a DATA header. -/
theorem recv_read_eq (h64 : 64 ≤ cfg.payloadSize) (c : SyncCtx ω) (fd : ℤ)
    (hw : c.p.writeLen = 0) (hu : c.svc.u = .recv fd) :
    sysRead fs (c.emit (.room (cfg.payloadSize-sizeofData-c.p.writeLen))) c.svc.u.fd
        (sizeT (cfg.payloadSize-sizeofData-c.p.writeLen)) =
      sysRead fs (c.emit (.room (cfg.payloadSize-sizeofData-c.p.writeLen))) fd
        (cfg.payloadSize-sizeofData) := by
  have hmax := cfg.payload_lt
  have hsize : sizeT (cfg.payloadSize-sizeofData-c.p.writeLen) = cfg.payloadSize-sizeofData := by
    rw [hw, sizeT_of_nonneg] <;> unfold sizeofData <;> omega
  rw [hsize, hu]
  rfl

/-- A FAIL record of its own has room for a short reason. -/
theorem fail_message_reply (h64 : 64 ≤ cfg.payloadSize) (c : SyncCtx ω) (reason : List UInt8)
    (hw : c.p.writeLen = 0) (hlen : reason.length ≤ 56) :
    (prepareFailMessage cfg c reason).reply = failRecord reason := by
  have hmax := cfg.payload_lt
  have hroom : min reason.length (sizeT (cfg.payloadSize-sizeofData-c.p.writeLen)) =
      reason.length := by
    rw [hw, sizeT_of_nonneg] <;> unfold sizeofData <;> omega
  unfold prepareFailMessage
  dsimp only
  rw [hroom, List.take_length]
  refine reply_record (c.emit _) (le32 idFail ++ le32 reason.length) reason hw ?_
  change 8+reason.length < 2^32
  omega

/-- One record: a block, or the last one. -/
theorem state_process_recv_spec (h64 : 64 ≤ cfg.payloadSize) (c : SyncCtx ω) (fd : ℤ)
    (blocks : List (List UInt8)) (ok : Bool) (hw : c.p.writeLen = 0) (hu : c.svc.u = .recv fd)
    (h : Reads fs fd (cfg.payloadSize-sizeofData) c.os blocks ok) :
    (stateProcessRecv cfg fs c).2.svc = c.svc ∧
      (∃ evs, (stateProcessRecv cfg fs c).2.log = c.log ++ evs ∧ closedFds evs = []) ∧
      ((∃ bs rest, blocks = bs :: rest ∧ (stateProcessRecv cfg fs c).1 = 1 ∧
          (stateProcessRecv cfg fs c).2.reply = dataRecord bs ∧
          Reads fs fd (cfg.payloadSize-sizeofData) (stateProcessRecv cfg fs c).2.os rest ok) ∨
        blocks = [] ∧ (stateProcessRecv cfg fs c).1 = 0 ∧
          (stateProcessRecv cfg fs c).2.reply = lastRecord ok) := by
  have hmax := cfg.payload_lt
  set d := (sysRead fs (c.emit (.room (cfg.payloadSize-sizeofData-c.p.writeLen))) fd
    (cfg.payloadSize-sizeofData)).2 with hd
  have hdw : d.p.writeLen = 0 := hw
  have hlog : d.log = c.log ++ [.room (cfg.payloadSize-sizeofData-c.p.writeLen),.read fd
      ((fs.read c.os fd (cfg.payloadSize-sizeofData)).2.map List.length)] := List.append_assoc _ _ _
  unfold stateProcessRecv
  dsimp only
  rw [recv_read_eq h64 c fd hw hu]
  cases h with
  | eof _ h =>
    have hres : (sysRead fs (c.emit (.room (cfg.payloadSize-sizeofData-c.p.writeLen))) fd
        (cfg.payloadSize-sizeofData)).1 = some [] := h
    rw [hres]
    exact ⟨rfl,⟨_,hlog,rfl⟩,Or.inr ⟨rfl,rfl,reply_put d doneRecord hdw (by decide)⟩⟩
  | error _ h =>
    have hres : (sysRead fs (c.emit (.room (cfg.payloadSize-sizeofData-c.p.writeLen))) fd
        (cfg.payloadSize-sizeofData)).1 = none := h
    have hfail : (prepareFailMessage cfg d (ascii "read failed")).log =
        c.log ++ ([.room (cfg.payloadSize-sizeofData-c.p.writeLen),.read fd
          ((fs.read c.os fd (cfg.payloadSize-sizeofData)).2.map List.length)] ++
          [.room (cfg.payloadSize-sizeofData-d.p.writeLen)]) := by
      rw [prepare_fail_message_log, hlog, List.append_assoc]
    rw [hres]
    exact ⟨rfl,⟨_,hfail,rfl⟩,Or.inr ⟨rfl,rfl,
      fail_message_reply h64 d (ascii "read failed") hdw (by decide)⟩⟩
  | block _ bs rest _ h hne hrest =>
    have hres : (sysRead fs (c.emit (.room (cfg.payloadSize-sizeofData-c.p.writeLen))) fd
        (cfg.payloadSize-sizeofData)).1 = some bs := h
    have hle := fs.read_le _ _ _ _ h
    rw [hres]
    dsimp only
    rw [if_neg hne]
    refine ⟨rfl,⟨_,hlog,rfl⟩,Or.inl ⟨bs,rest,rfl,rfl,?_,hrest⟩⟩
    refine reply_record d (le32 idData ++ le32 bs.length) bs hdw ?_
    change 8+bs.length < 2^32
    unfold sizeofData at hle
    omega

/-! The transfer. -/

/-- The run that started with the trace log has still to answer the records: the file is open,
or it was closed once and the service is idle. -/
inductive Serving (fs : FileSystem ω) (n : ℕ) (fd : ℤ) (log : List SyncEvent) (t : SyncRun ω) :
    List (List UInt8) → Prop
  | serves (blocks : List (List UInt8)) (ok : Bool) (opened : t.closed = false)
    (state : t.svc.state = .processRecv) (hu : t.svc.u = .recv fd)
    (reads : Reads fs fd n t.os blocks ok)
    (events : ∃ evs, t.log = log ++ evs ∧ closedFds evs = []) :
    Serving fs n fd log t (recvRecords blocks ok)
  | idle (opened : t.closed = false) (state : t.svc.state = .waitCmd) (size : t.svc.size = 0)
    (events : ∃ evs, t.log = log ++ evs ∧ closedFds evs = [fd]) : Serving fs n fd log t []

variable {fd : ℤ} {log : List SyncEvent}

/-- Nothing is left to answer: the service is idle. -/
theorem Serving.idle_state {n : ℕ} {t : SyncRun ω} (h : Serving fs n fd log t []) :
    t.svc.state = .waitCmd ∧ t.svc.size = 0 ∧
      ∃ evs, t.log = log ++ evs ∧ closedFds evs = [fd] := by
  generalize hl : ([] : List (List UInt8)) = l at h
  cases h with
  | serves blocks ok => exact absurd hl.symm (by simp [recvRecords])
  | idle _ state size events => exact ⟨state,size,events⟩

theorem serving_after {n : ℕ} {t : SyncRun ω} {c : SyncCtx ω} {rs : List (List UInt8)}
    (ht : t.After c) (h : Serving fs n fd log (c.run false) rs) : Serving fs n fd log t rs := by
  obtain ⟨m,hsvc⟩ := ht.svc
  cases h with
  | serves blocks ok _ state hu reads events =>
    refine .serves blocks ok ht.opened ?_ ?_ (ht.os ▸ reads) (ht.log ▸ events)
    · rw [hsvc]
      exact state
    · rw [hsvc]
      exact hu
  | idle _ state size events =>
    refine .idle ht.opened ?_ ?_ (ht.log ▸ events)
    · rw [hsvc]
      exact state
    · rw [hsvc]
      exact size

/-- A record is answered, and behind the last one the file is closed: r is what the handler
left, the reset included. -/
theorem recv_record (h64 : 64 ≤ cfg.payloadSize) (c : SyncCtx ω) (blocks : List (List UInt8))
    (ok : Bool) (hw : c.p.writeLen = 0) (hstate : c.svc.state = .processRecv)
    (hu : c.svc.u = .recv fd) (h : Reads fs fd (cfg.payloadSize-sizeofData) c.os blocks ok)
    (hlog : ∃ evs, c.log = log ++ evs ∧ closedFds evs = []) :
    ∃ r rs, recvRecords blocks ok = r :: rs ∧
      ((stateProcessRecv cfg fs c).1 = 1 ∧ (stateProcessRecv cfg fs c).2.reply = r ∧
          Serving fs (cfg.payloadSize-sizeofData) fd log ((stateProcessRecv cfg fs c).2.run false) rs ∨
        (stateProcessRecv cfg fs c).1 = 0 ∧
          (stateReset fs (stateProcessRecv cfg fs c).2).reply = r ∧
          Serving fs (cfg.payloadSize-sizeofData) fd log
            ((stateReset fs (stateProcessRecv cfg fs c).2).run false) rs) := by
  obtain ⟨hsvc,⟨es,hes,hclosed⟩,hcase⟩ := state_process_recv_spec h64 c fd blocks ok hw hu h
  obtain ⟨evs,hevs,hnone⟩ := hlog
  generalize stateProcessRecv cfg fs c = q at *
  have hlogq : q.2.log = log ++ (evs ++ es) := by rw [hes, hevs, List.append_assoc]
  have hfds : closedFds (evs ++ es) = [] := by
    rw [closedFds, List.filterMap_append, ← closedFds, ← closedFds, hnone, hclosed]
    rfl
  rcases hcase with ⟨bs,rest,rfl,hret,hreply,hreads⟩ | ⟨rfl,hret,hreply⟩
  · have hq : q.2.svc.state = .processRecv := hsvc ▸ hstate
    have hqu : q.2.svc.u = .recv fd := hsvc ▸ hu
    exact ⟨dataRecord bs,recvRecords rest ok,rfl,Or.inl ⟨hret,hreply,
      .serves rest ok rfl hq hqu hreads ⟨_,hlogq,hfds⟩⟩⟩
  · have hreset : stateReset fs q.2 = ((sysClose fs q.2 fd).setState .waitCmd).setSize 0 := by
      have hq : q.2.svc.state = .processRecv := hsvc ▸ hstate
      have hqu : q.2.svc.u.fd = fd := by
        rw [hsvc, hu]
        rfl
      simp only [stateReset, hq, hqu]
    refine ⟨lastRecord ok,[],rfl,Or.inr ⟨hret,?_,?_⟩⟩
    · rw [hreset]
      exact hreply
    · rw [hreset]
      refine .idle rfl rfl rfl ⟨(evs ++ es) ++ [.close fd],?_,?_⟩
      · change q.2.log ++ [.close fd] = _
        rw [hlogq, List.append_assoc]
      · rw [closedFds, List.filterMap_append, ← closedFds, hfds]
        rfl

theorem recv_ack (h64 : 64 ≤ cfg.payloadSize) (t : SyncRun ω) (f : SyncFrame cfg) (r : List UInt8)
    (rs : List (List UInt8)) (h : Serving fs (cfg.payloadSize-sizeofData) fd log t (r :: rs)) :
    ∃ c, fileSyncOnAck cfg fs (t.ctx f.packet) = (0, c) ∧ c.reply = r ∧
      Serving fs (cfg.payloadSize-sizeofData) fd log (c.run false) rs := by
  generalize hl : r :: rs = l at h
  cases h with
  | idle => cases hl
  | serves blocks ok opened state hu reads events =>
    have hack : stateAck cfg fs (t.ctx f.packet).rewind =
        stateProcessRecv cfg fs (t.ctx f.packet).rewind := by
      have hs : (t.ctx f.packet).rewind.svc.state = .processRecv := state
      simp only [stateAck, hs]
    obtain ⟨r',rs',hr,hcase⟩ :=
      recv_record h64 (t.ctx f.packet).rewind blocks ok rfl state hu reads events
    obtain ⟨rfl,rfl⟩ := List.cons.inj (hl.trans hr)
    unfold fileSyncOnAck
    rw [hack]
    rcases hcase with ⟨hret,hreply,hserving⟩ | ⟨hret,hreply,hserving⟩
    · dsimp only
      rw [if_pos (by rw [hret]; decide)]
      exact ⟨_,rfl,hreply,hserving⟩
    · dsimp only
      rw [if_neg (by rw [hret]; decide), hret]
      exact ⟨_,rfl,hreply,hserving⟩

/-- The request opens the file and answers the first record. -/
theorem recv_execute (h64 : 64 ≤ cfg.payloadSize) (s : SyncRun ω) (path : List UInt8)
    (hlt : path.length < cfg.pathMax) (blocks : List (List UInt8)) (ok : Bool)
    (hfd : 0 ≤ (fs.openFile s.os (cName cfg path) .rdonly).2)
    (hreads : Reads fs (fs.openFile s.os (cName cfg path) .rdonly).2
      (cfg.payloadSize-sizeofData) (fs.openFile s.os (cName cfg path) .rdonly).1 blocks ok)
    (c : SyncCtx ω) (hc : Complete idRecv path s c) :
    0 ≤ (execute cfg fs c).1 ∧ ∃ r rs, recvRecords blocks ok = r :: rs ∧
      (execute cfg fs c).2.reply = r ∧
      Serving fs (cfg.payloadSize-sizeofData) (fs.openFile s.os (cName cfg path) .rdonly).2 s.log
        ((execute cfg fs c).2.run false) rs := by
  obtain ⟨hs,hlog,hheaders⟩ := hc.log
  set b := store c.svc.buff c.svc.namelen [0] with hb
  set d := (c.setBuff b).emit (.exec idRecv (slice b 0 c.svc.namelen)) with hd
  have hname : d.name cfg = cName cfg path := hc.name_eq
  have hos : d.os = s.os := hc.os
  set e := ((sysOpen fs d (cName cfg path) .rdonly).2.setUnion
    (.recv (fs.openFile s.os (cName cfg path) .rdonly).2)).setState .processRecv with he
  have hrun : requestName cfg fs c = stateProcessRecv cfg fs e := by
    have hcmd : (c.setBuff b).svc.cmd = idRecv := hc.cmd
    have hinit : stateInit cfg fs d = stateInitRecv cfg fs d := by
      have hdcmd : d.svc.cmd = idRecv := hc.cmd
      rw [stateInit, hdcmd, if_neg (by decide), if_neg (by decide), if_neg (by decide),
        if_pos rfl]
    have hopen : (sysOpen fs d (cName cfg path) .rdonly).1 =
        (fs.openFile s.os (cName cfg path) .rdonly).2 := by
      rw [← hos]
      rfl
    rw [requestName, if_neg (by rw [hc.namelen]; omega)]
    dsimp only
    rw [hcmd]
    change stateInit cfg fs d = _
    rw [hinit, stateInitRecv, hname, hopen, if_neg (not_lt.mpr hfd)]
  have hevents : ∃ evs, e.log = s.log ++ evs ∧ closedFds evs = [] := by
    refine ⟨hs ++ [.exec idRecv (slice b 0 c.svc.namelen),.openFile (cName cfg path) .rdonly
      (fs.openFile d.os (cName cfg path) .rdonly).2],?_,?_⟩
    · change c.log ++ [_] ++ [_] = _
      rw [hlog, List.append_assoc, List.append_assoc]
      rfl
    · refine List.filterMap_eq_nil_iff.mpr (fun x hx => ?_)
      rcases List.mem_append.mp hx with hx | hx
      · have hh := hheaders x hx
        cases x <;> first | rfl | cases hh
      · rcases List.mem_cons.mp hx with rfl | hx
        · rfl
        · rw [List.mem_singleton.mp hx]
  have hereads : Reads fs (fs.openFile s.os (cName cfg path) .rdonly).2
      (cfg.payloadSize-sizeofData) e.os blocks ok := by
    have heos : e.os = (fs.openFile s.os (cName cfg path) .rdonly).1 := by
      rw [← hos]
      rfl
    rw [heos]
    exact hreads
  obtain ⟨r,rs,hr,hcase⟩ := recv_record h64 e blocks ok hc.writeLen rfl rfl hereads hevents
  unfold execute
  rw [hrun]
  dsimp only
  rcases hcase with ⟨hret,hreply,hserving⟩ | ⟨hret,hreply,hserving⟩
  · rw [if_neg (by rw [hret]; decide), hret]
    exact ⟨by decide,r,rs,hr,hreply,hserving⟩
  · rw [if_pos (by rw [hret]), hret]
    exact ⟨le_rfl,r,rs,hr,hreply,hserving⟩

/-- A RECV of a file that opens, alone from the idle state and cut into packets anywhere: the
blocks that read returns are sent in DATA records, the first in the answer to the request and
one in each answer to an OKAY, then DONE, or FAIL when read failed; and with that the file has
been closed once and the service is idle. -/
theorem recv_sends_file (cfg : Config) (fs : FileSystem ω) (h64 : 64 ≤ cfg.payloadSize)
    (s : SyncRun ω) (path : List UInt8) (frames acks : List (SyncFrame cfg))
    (blocks : List (List UInt8)) (ok : Bool)
    (hopen : s.closed = false) (hstate : s.svc.state = .waitCmd) (hsize : s.svc.size = 0)
    (hne : path ≠ []) (hlt : path.length < cfg.pathMax)
    (hsplit : (frames.map SyncFrame.bytes).flatten = syncRequest idRecv path)
    (hfd : 0 ≤ (fs.openFile s.os (cName cfg path) .rdonly).2)
    (hreads : Reads fs (fs.openFile s.os (cName cfg path) .rdonly).2
      (cfg.payloadSize-sizeofData) (fs.openFile s.os (cName cfg path) .rdonly).1 blocks ok)
    (hacks : blocks.length ≤ acks.length) :
    ∃ first rest i j, recvRecords blocks ok = first :: rest ∧ i+1+j = frames.length ∧
      writeResults cfg fs s frames =
        List.replicate i (0, []) ++ [(0, first)] ++ List.replicate j (0, []) ∧
      ackResults cfg fs (writeRun cfg fs s frames) acks =
        rest.map (fun r => (0, r)) ++ List.replicate (acks.length-blocks.length) (0, []) ∧
      (∀ bs ∈ blocks, 1 ≤ bs.length ∧ bs.length ≤ cfg.payloadSize-8) ∧
      ((first :: rest).dropLast.map (List.drop sizeofData)).flatten = blocks.flatten ∧
      closedFds (s.since (ackRun cfg fs (writeRun cfg fs s frames) acks)) =
        [(fs.openFile s.os (cName cfg path) .rdonly).2] ∧
      (ackRun cfg fs (writeRun cfg fs s frames) acks).svc.state = .waitCmd ∧
      (ackRun cfg fs (writeRun cfg fs s frames) acks).svc.size = 0 ∧
      (ackRun cfg fs (writeRun cfg fs s frames) acks).closed = false := by
  have hexecute := recv_execute h64 s path hlt blocks ok hfd hreads
  obtain ⟨c,i,j,hdone,hlen,hres,hafter⟩ := request_delivered (by decide) (by decide)
    hne hlt (fun c hc => (hexecute c hc).1) frames hopen hstate hsize hsplit
  obtain ⟨-,first,rest,hrecords,hreply,hserving⟩ := hexecute c hdone
  have hcount : rest.length = blocks.length := by
    have hl := congrArg List.length hrecords
    simpa [recvRecords] using hl.symm
  obtain ⟨hacked,hst,hsz,hcl,⟨u,hidle,hlog⟩,-⟩ :=
    acks_served (Serving fs (cfg.payloadSize-sizeofData) _ s.log)
      (fun t rs h => by cases h <;> assumption) (fun t f r rs h => recv_ack h64 t f r rs h)
      (fun t h => ⟨h.idle_state.1,h.idle_state.2.1⟩) rest acks (hcount ▸ hacks) _
      (serving_after hafter hserving)
  obtain ⟨-,-,evs,hevs,hclosed⟩ := hidle.idle_state
  refine ⟨first,rest,i,j,hrecords,hlen,hreply ▸ hres,hcount ▸ hacked,hreads.block_length,?_,?_,
    hst,hsz,hcl⟩
  · rw [← hrecords, recv_records_content]
  · rw [SyncRun.since, hlog, hevs, List.drop_left]
    exact hclosed

/-- A file system with one file of three bytes, which is read at once. -/
def readableFs : FileSystem ℕ where
  errno _ := 2
  strerror _ := ascii "No such file or directory"
  stat s _ := (s, none)
  lstat s _ := (s, none)
  unlink s _ := s
  mkdir s _ _ := (s, -1)
  openFile s _ _ := (s, 3)
  read s _ n := (s+1, some (if s = 0 then (ascii "abc").take n else []))
  write s _ _ := (s, -1)
  close s _ := s
  opendir s _ := (s, none)
  readdir s _ := (s, none)
  closedir s _ := s
  malloc s _ := (s, some (0, fun _ => 0))
  free s _ := s
  symlink s _ _ := (s, -1)
  interrupts _ := 0
  strerror_lt _ := emptyFs.strerror_lt 2
  readdir_lt _ d name h := emptyFs.readdir_lt () d name h
  read_le s _ n bs h := by
    obtain rfl := Option.some.inj h
    split
    · exact List.length_take_le n _
    · exact Nat.zero_le n
  read_lt s _ n bs h := by
    obtain rfl := Option.some.inj h
    split
    · exact (List.length_take_le' n _).trans (by decide)
    · exact Nat.zero_le _
  write_le _ fd bs := emptyFs.write_le () fd bs
  write_interrupted _ fd bs hret h := emptyFs.write_interrupted () fd bs hret h

/-- The request in two packets, cut in its header, and two OKAYs. -/
theorem recv_sends_three_bytes :
    ackResults readmeConfig readableFs (writeRun readmeConfig readableFs (syncStart default 0)
        [.ofBytes readmeConfig ((syncRequest idRecv (ascii "/a")).take 5) (by decide),
          .ofBytes readmeConfig ((syncRequest idRecv (ascii "/a")).drop 5) (by decide)])
      [.ofBytes readmeConfig [] (by decide),.ofBytes readmeConfig [] (by decide)] =
      [(0, doneRecord), (0, [])] := by
  have hreads : Reads readableFs 3 (readmeConfig.payloadSize-sizeofData) 0 [ascii "abc"] true :=
    .block 0 (ascii "abc") [] true rfl (by decide) (.eof 1 rfl)
  obtain ⟨first,rest,i,j,hrecords,-,-,hacked,-⟩ := recv_sends_file readmeConfig readableFs
    (by decide) (syncStart default 0) (ascii "/a")
    [.ofBytes readmeConfig ((syncRequest idRecv (ascii "/a")).take 5) (by decide),
      .ofBytes readmeConfig ((syncRequest idRecv (ascii "/a")).drop 5) (by decide)]
    [.ofBytes readmeConfig [] (by decide),.ofBytes readmeConfig [] (by decide)]
    [ascii "abc"] true rfl rfl rfl (by decide) (by decide) (by decide +kernel) (by decide) hreads
    (by decide)
  obtain ⟨-,rfl⟩ := List.cons.inj hrecords
  exact hacked

end MicroADB
