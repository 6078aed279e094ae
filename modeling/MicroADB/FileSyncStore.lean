import MicroADB.FileStore
import MicroADB.FileSyncCalls
import MicroADB.FileSyncExecute
import MicroADB.FileSyncRecv
import MicroADB.FileSyncServer
import MicroADB.FileSyncUpload

/-! A file that was uploaded is downloaded as it was, on any file system that keeps the contents of
files. -/
namespace MicroADB
open ByteMemory EventRun FileStore Monitor

variable {ω : Type} {cfg : Config} {fs : FileSystem ω}

/-! A request has a header of its own. -/

/-- The bytes of a header that has been taken for a request that is not executed yet. -/
def pendingHeader (s : AfsService) : ℕ :=
  match s.state with
  | .waitCmd => s.size
  | .waitCmdData => sizeofReq
  | _ => 0

def Headed (s : AfsService) (es : List SyncEvent) : Prop :=
  sizeofReq*(executions es).length+pendingHeader s ≤ headerBytes es

theorem Headed.more {s s' : AfsService} {es new : List SyncEvent} (h : Headed s es)
    (hn : executions new = []) (hp : pendingHeader s' ≤ pendingHeader s+headerBytes new) :
    Headed s' (es ++ new) := by
  unfold Headed at h ⊢
  rw [executions_append, hn, List.append_nil, header_bytes_append]
  omega

theorem pending_reset (c : SyncCtx ω) : pendingHeader (stateReset fs c).svc = 0 := by
  rw [state_reset_svc]
  rfl

/-- A state in which a request is under way. -/
def AfsState.busy : AfsState → Bool
  | .waitCmd | .waitCmdData => false
  | _ => true

theorem pending_busy {s : AfsService} (h : s.state.busy = true) : pendingHeader s = 0 := by
  unfold pendingHeader
  cases hs : s.state <;> simp_all [AfsState.busy]

/-- The handlers of a request that is under way execute nothing. -/
theorem busy_process (cfg : Config) (fs : FileSystem ω) (c : SyncCtx ω) (hs : c.svc.state.busy = true) :
    NotExecuted c (stateProcess cfg fs c).2 ∧
      (0 < (stateProcess cfg fs c).1 → (stateProcess cfg fs c).2.svc.state.busy = true) := by
  have hfail (d : SyncCtx ω) (reason : List UInt8) : NotExecuted d (prepareFailMessage cfg d reason) :=
    ⟨[_],rfl,rfl⟩
  have hread (n : ℕ) (next : SyncCtx ω → ℤ × SyncCtx ω)
      (hnext : ∀ d, d.svc.state = c.svc.state → NotExecuted d (next d).2 ∧
        (0 < (next d).1 → (next d).2.svc.state.busy = true)) :
      NotExecuted c (afterRead (readFromPacket cfg c n) (readError cfg) next).2 ∧
        (0 < (afterRead (readFromPacket cfg c n) (readError cfg) next).1 →
          (afterRead (readFromPacket cfg c n) (readError cfg) next).2.svc.state.busy = true) := by
    rcases after_read_cases cfg c n (readError cfg) next with ⟨-,hr⟩ | ⟨-,-,-,hr⟩ | ⟨-,-,-,hr⟩
    · rw [hr]
      exact ⟨hfail _ _,fun h => absurd h (by simp [readError])⟩
    · rw [hr]
      exact hnext (c.complete n) rfl
    · rw [hr]
      exact ⟨NotExecuted.refl c,fun _ => hs⟩
  have hheader (hst : c.svc.state = .processSendFileHdr ∨ c.svc.state = .processSendSymHdr) :
      NotExecuted c (stateProcessSendHeader cfg c).2 ∧
        (0 < (stateProcessSendHeader cfg c).1 →
          (stateProcessSendHeader cfg c).2.svc.state.busy = true) := by
    refine hread sizeofData (sendHeader cfg) (fun d hd => ?_)
    unfold sendHeader
    split_ifs
    · exact ⟨NotExecuted.refl d,fun h => absurd h (by simp)⟩
    · exact ⟨hfail d _,fun h => absurd h (by simp)⟩
    · refine ⟨NotExecuted.refl d,fun _ => ?_⟩
      change d.svc.state.succ.busy = true
      rw [hd]
      rcases hst with hst | hst <;> rw [hst] <;> rfl
  unfold stateProcess
  split
  · rename_i hst
    rw [hst] at hs
    cases hs
  · rename_i hst
    rw [hst] at hs
    cases hs
  · rename_i hst
    exact hheader (Or.inl hst)
  · rename_i hst
    exact hheader (Or.inr hst)
  · rename_i hst
    obtain ⟨d,hd,hsvc,-,hcases⟩ := state_process_send_file_cases cfg fs c
    obtain ⟨es,hes,hwr⟩ := write_block_log fs c.takeBlock (c.peek c.blockSize)
    have hwritten : NotExecuted c d :=
      ⟨es,hd ▸ hes,executions_nil_of es (fun e he => Or.inr (Or.inr (hwr e he)))⟩
    rcases hcases with ⟨-,-,hr⟩ | ⟨-,-,hr⟩ | ⟨-,hr⟩
    · rw [hr]
      refine ⟨hwritten,fun _ => ?_⟩
      change c.svc.state.pred.busy = true
      rw [hst]
      rfl
    · rw [hr]
      refine ⟨hwritten,fun _ => ?_⟩
      rw [hsvc]
      exact hs
    · rw [hr]
      exact ⟨hwritten.trans (hfail d _),fun h => absurd h (by simp)⟩
  · rename_i hst
    split
    · refine hread _ (sendSymTarget cfg fs) (fun d hd => ?_)
      have hlink (target : List UInt8) (b : SyncCtx ω) (hb : b.log = d.log) :
          NotExecuted d (sysSymlink fs b target b.svc.u.linkText).2 := ⟨[_],by rw [← hb]; rfl,rfl⟩
      unfold sendSymTarget
      dsimp only
      split_ifs
      · exact ⟨hfail d _,fun h => absurd h (by simp)⟩
      · exact ⟨(hlink _ (d.setBuff _) rfl).trans (hfail _ _),fun h => absurd h (by simp)⟩
      · refine ⟨hlink _ (d.setBuff _) rfl,fun _ => ?_⟩
        change d.svc.state.pred.busy = true
        rw [hd, hst]
        rfl
    · exact ⟨NotExecuted.refl c,fun h => absurd h (by simp)⟩
  · exact ⟨NotExecuted.refl c,fun h => absurd h (by simp)⟩
  · exact ⟨NotExecuted.refl c,fun h => absurd h (by simp)⟩

/-- A request that goes on has no header to come. -/
theorem pending_started {c c' : SyncCtx ω} {ret : ℤ} (h : Started c c' ret) (hret : 0 < ret)
    (hsize : c.svc.size = 0) : pendingHeader c'.svc = 0 := by
  have hz := h.size.trans hsize
  rcases h.state hret with hs | hs | hs | hs | hs <;> simp [pendingHeader, hs, hz]

/-- What an iteration leaves when its handler has added new to the trace. -/
theorem Headed.iter {c : SyncCtx ω} {r : ℤ × SyncCtx ω} {base es new : List SyncEvent}
    (hlog : c.log = base ++ es) (hr : stateProcess cfg fs c = r) (hnew : r.2.log = c.log ++ new)
    (hdone : r.1 ≤ 0 → sizeofReq*(executions (es ++ new)).length ≤ headerBytes (es ++ new))
    (hgo : 0 < r.1 → Headed r.2.svc (es ++ new)) :
    ∃ es', (syncIter cfg fs c).2.log = base ++ es' ∧ Headed (syncIter cfg fs c).2.svc es' := by
  unfold syncIter
  rw [hr]
  dsimp only
  split
  · rename_i hle
    obtain ⟨es',hes,hn⟩ : NotExecuted r.2 (stateReset fs r.2) := state_reset_not_executed r.2
    refine ⟨es ++ new ++ es',?_,?_⟩
    · rw [hes, hnew, hlog]
      simp only [List.append_assoc]
    · have h := hdone hle
      unfold Headed
      rw [pending_reset, executions_append, hn, List.append_nil, header_bytes_append]
      omega
  · rename_i hpos
    exact ⟨es ++ new,by rw [hnew, hlog, List.append_assoc],hgo (not_le.mp hpos)⟩

theorem headed_iter (cfg : Config) (fs : FileSystem ω) (c : SyncCtx ω) (base es : List SyncEvent)
    (hlog : c.log = base ++ es) (h : Headed c.svc es) :
    ∃ es', (syncIter cfg fs c).2.log = base ++ es' ∧ Headed (syncIter cfg fs c).2.svc es' := by
  have hbound (s : AfsService) (l : List SyncEvent) (h : Headed s l) :
      sizeofReq*(executions l).length ≤ headerBytes l := le_of_add_le_left h
  cases hb : c.svc.state.busy with
  | true =>
    obtain ⟨⟨new,hnew,hn⟩,hbusy⟩ := busy_process cfg fs c hb
    have hz := pending_busy hb
    refine Headed.iter hlog rfl hnew (fun _ => ?_) (fun hpos => ?_)
    · exact hbound (stateReset fs c).svc _ (h.more hn (by rw [pending_reset]; omega))
    · exact h.more hn (by rw [pending_busy (hbusy hpos)]; omega)
  | false =>
    cases hs : c.svc.state with
    | waitCmd =>
      have hpend : pendingHeader c.svc = c.svc.size := by rw [pendingHeader, hs]
      set n := min (sizeofReq-c.svc.size) c.p.msg.dataLength with hn
      have hmore (s' : AfsService) (hp : pendingHeader s' ≤ c.svc.size+n) :
          Headed s' (es ++ [.header n]) := by
        refine h.more rfl ?_
        rw [hpend]
        simpa [SyncEvent.headerBytes] using hp
      have hrun : stateProcess cfg fs c = afterRead (readFromPacket cfg (c.emit (.header n)) sizeofReq)
          (fun c => (-1, c)) (requestHeader cfg) := by
        rw [stateProcess, hs]
        rfl
      have hzero := hmore (stateReset fs c).svc (by rw [pending_reset]; omega)
      rcases after_read_cases cfg (c.emit (.header n)) sizeofReq (fun c => (-1, c))
        (requestHeader cfg) with ⟨-,hr⟩ | ⟨h1,-,h3,hr⟩ | ⟨h1,-,h3,hr⟩
      · exact Headed.iter hlog (hrun.trans hr) rfl (fun _ => hbound _ _ hzero)
          (fun hpos => absurd hpos (by simp))
      · have hnew : (requestHeader cfg ((c.emit (.header n)).complete sizeofReq)).2.log =
            c.log ++ [.header n] := by
          unfold requestHeader
          split_ifs <;> rfl
        refine Headed.iter hlog (hrun.trans hr) hnew (fun _ => hbound _ _ hzero) (fun hpos => ?_)
        refine hmore _ ?_
        change c.svc.size ≤ sizeofReq at h1
        change sizeofReq-c.svc.size ≤ c.p.msg.dataLength at h3
        unfold requestHeader at hpos ⊢
        split_ifs at hpos ⊢
        · exact absurd hpos (by simp)
        · exact absurd hpos (by simp)
        · change sizeofReq ≤ _
          omega
      · refine Headed.iter hlog (hrun.trans hr) rfl (fun _ => hbound _ _ hzero) (fun _ => hmore _ ?_)
        change c.p.msg.dataLength < sizeofReq-c.svc.size at h3
        have hst : (c.emit (.header n)).short.svc.state = .waitCmd := hs
        rw [pendingHeader, hst]
        change c.svc.size+c.p.msg.dataLength ≤ _
        omega
    | waitCmdData =>
      have hpend : pendingHeader c.svc = sizeofReq := by rw [pendingHeader, hs]
      have hrun : stateProcess cfg fs c = afterRead (readFromPacket cfg c c.svc.namelen)
          (fun c => (-1, c)) (requestName cfg fs) := by
        rw [stateProcess, hs]
        rfl
      rcases after_read_cases cfg c c.svc.namelen (fun c => (-1, c)) (requestName cfg fs) with
        ⟨-,hr⟩ | ⟨-,-,-,hr⟩ | ⟨-,-,-,hr⟩
      · exact Headed.iter hlog (hrun.trans hr) (List.append_nil _).symm
          (fun _ => by simpa using hbound _ _ h) (fun hpos => absurd hpos (by simp))
      · set d := c.complete c.svc.namelen with hd
        by_cases hlen : cfg.pathMax ≤ d.svc.namelen
        · have hstop : requestName cfg fs d = (-1, d) := if_pos hlen
          exact Headed.iter hlog (hrun.trans (hr.trans hstop)) (List.append_nil _).symm
            (fun _ => by simpa using hbound _ _ h) (fun hpos => absurd hpos (by simp))
        · set b := store d.svc.buff d.svc.namelen [0] with hb
          set e := (d.setBuff b).emit (.exec d.svc.cmd (slice b 0 d.svc.namelen)) with he
          have hinit : requestName cfg fs d = stateInit cfg fs e := if_neg hlen
          obtain ⟨new,hnew,hn⟩ : NotExecuted e (stateInit cfg fs e).2 :=
            state_init_not_executed e
          have hstarted := state_init_started cfg fs e
          have hnew' : (stateInit cfg fs e).2.log =
              c.log ++ ([.exec d.svc.cmd (slice b 0 d.svc.namelen)] ++ new) := by
            rw [hnew, ← List.append_assoc]
            rfl
          have hcount : sizeofReq*(executions (es ++
              ([.exec d.svc.cmd (slice b 0 d.svc.namelen)] ++ new))).length ≤ headerBytes (es ++
                ([.exec d.svc.cmd (slice b 0 d.svc.namelen)] ++ new)) := by
            unfold Headed at h
            rw [hpend] at h
            rw [executions_append, executions_append, hn, header_bytes_append, List.append_nil,
              List.length_append]
            change sizeofReq*((executions es).length+1) ≤ _
            rw [Nat.mul_add, Nat.mul_one]
            omega
          refine Headed.iter hlog (hrun.trans (hr.trans hinit)) hnew' (fun _ => hcount)
            (fun hpos => ?_)
          unfold Headed
          rwa [pending_started hstarted hpos rfl, Nat.add_zero]
      · refine Headed.iter hlog (hrun.trans hr) (List.append_nil _).symm
          (fun _ => by simpa using hbound _ _ h) (fun _ => ?_)
        rw [List.append_nil]
        have hst : c.short.svc.state = .waitCmdData := hs
        have hsame : pendingHeader c.short.svc = pendingHeader c.svc := by
          rw [hpend, pendingHeader, hst]
        unfold Headed at h ⊢
        rwa [hsame]
    | _ => simp [hs, AfsState.busy] at hb

theorem headed_write_run (cfg : Config) (fs : FileSystem ω) (s : SyncRun ω)
    (hs : s.svc.state = .waitCmd) (hsize : s.svc.size = 0) (frames : List (SyncFrame cfg)) :
    ∃ es, (writeRun cfg fs s frames).log = s.log ++ es ∧
      Headed (writeRun cfg fs s frames).svc es := by
  have hreset (c : SyncCtx ω) (es : List SyncEvent) (hlog : c.log = s.log ++ es)
      (h : Headed c.svc es) :
      ∃ es', (stateReset fs c).log = s.log ++ es' ∧ Headed (stateReset fs c).svc es' := by
    obtain ⟨new,hnew,hn⟩ : NotExecuted c (stateReset fs c) := state_reset_not_executed c
    exact ⟨es ++ new,by rw [hnew, hlog, List.append_assoc],h.more hn (by rw [pending_reset]; omega)⟩
  have hwrite (c : SyncCtx ω) (es : List SyncEvent) (hlog : c.log = s.log ++ es)
      (h : Headed c.svc es) : ∃ es', (fileSyncOnWrite cfg fs c).2.log = s.log ++ es' ∧
        Headed (fileSyncOnWrite cfg fs c).2.svc es' := by
    refine sync_loop_invariant cfg fs
      (fun r => ∃ es, r.2.log = s.log ++ es ∧ Headed r.2.svc es) (fun _ d _ _ hd => ?_) _ _
      ⟨es,hlog,h⟩
    obtain ⟨es,hlog,h⟩ := hd
    exact headed_iter cfg fs d s.log es hlog h
  have hstep (t : SyncRun ω) (f : SyncFrame cfg)
      (h : ∃ es, t.log = s.log ++ es ∧ Headed t.svc es) :
      ∃ es, (syncStep cfg fs t (.write f)).log = s.log ++ es ∧
        Headed (syncStep cfg fs t (.write f)).svc es := by
    obtain ⟨es,hlog,h⟩ := h
    unfold syncStep
    split
    · exact ⟨es,hlog,h⟩
    · obtain ⟨es',hlog',h'⟩ := hwrite (t.ctx f.packet) es hlog h
      dsimp only
      unfold afterCallback
      split
      · exact hreset _ es' hlog' h'
      · exact ⟨es',hlog',h'⟩
  have hrun (t : SyncRun ω) (h : ∃ es, t.log = s.log ++ es ∧ Headed t.svc es) :
      ∃ es, (writeRun cfg fs t frames).log = s.log ++ es ∧
        Headed (writeRun cfg fs t frames).svc es := by
    induction frames generalizing t with
    | nil => exact h
    | cons f frames ih => exact ih _ (hstep t f h)
  refine hrun s ⟨[],(List.append_nil _).symm,?_⟩
  simp [Headed, pendingHeader, hs, hsize, executions]

/-! The contents of files. -/

variable {Node : Type} {disk : ω → Disk (List UInt8) Node UInt8}

/-- A file system that keeps the contents of files: its calls do what POSIX says. -/
structure Stores (fs : FileSystem ω) (disk : ω → Disk (List UInt8) Node UInt8) : Prop where
  create : ∀ s p mode, 0 ≤ (fs.openFile s p (.create mode)).2 →
    (disk (fs.openFile s p (.create mode)).1).Writing p (fs.openFile s p (.create mode)).2 []
  rdonly : ∀ s p, 0 ≤ (fs.openFile s p .rdonly).2 →
    Disk.OpenedRead (disk s) (disk (fs.openFile s p .rdonly).1) p (fs.openFile s p .rdonly).2
  write : ∀ s fd bs, Disk.Wrote (disk s) (disk (fs.write s fd bs).1) fd
    (bs.take (fs.write s fd bs).2.toNat)
  read : ∀ s fd n bs, (fs.read s fd n).2 = some bs →
    Disk.HasRead (disk s) (disk (fs.read s fd n).1) fd n bs
  close : ∀ s fd, Disk.Closed (disk s) (disk (fs.close s fd))

/-- The bytes that were written to files. -/
def writtenBytes (l : List SyncEvent) : List UInt8 :=
  l.flatMap fun e => match e with | .write _ bs ret _ => bs.take ret.toNat | _ => []

/-- Calls of write on one descriptor, and events that are no calls. -/
def SyncEvent.writesTo (fd : ℤ) : SyncEvent → Prop
  | .write fd' _ _ _ => fd' = fd
  | .header _ => True
  | .room _ => True
  | _ => False

/-- The writes go behind what the file contains. -/
theorem writing_performed (h : Stores fs disk) {s s' : ω} {es : List SyncEvent} {p : List UInt8}
    {fd : ℤ} {content : List UInt8} (hp : Performed fs s es s')
    (hes : ∀ e ∈ es, e.writesTo fd) (hw : (disk s).Writing p fd content) :
    (disk s').Writing p fd (content ++ writtenBytes es) := by
  induction hp with
  | nil => simpa [writtenBytes] using hw
  | @snoc es t t' e _ he ih =>
    have hprev := ih (fun e he => hes e (List.mem_append_left _ he))
    have hlast := hes e (by simp)
    rw [writtenBytes, List.flatMap_append, ← writtenBytes, ← List.append_assoc]
    cases he with
    | write fd' bs =>
      obtain rfl : fd' = fd := hlast
      simpa using hprev.wrote (h.write t fd' bs)
    | header => simpa using hprev
    | room => simpa using hprev
    | _ => exact hlast.elim

/-- A file is read to its end, unless a read fails on the way. -/
theorem reads_stored (h : Stores fs disk) {n : ℕ} (hn : 0 < n) {fd : ℤ} (rest : List UInt8) (s : ω)
    (hr : (disk s).Reading fd rest) : ∃ blocks ok, Reads fs fd n s blocks ok ∧
      blocks.flatten <+: rest ∧ (ok = true → blocks.flatten = rest) := by
  induction hl : rest.length using Nat.strongRecOn generalizing rest s with
  | ind k ih =>
    cases hread : (fs.read s fd n).2 with
    | none => exact ⟨[],false,.error s hread,List.nil_prefix,by simp⟩
    | some bs =>
      obtain ⟨rest',rfl,hrest,heof⟩ := hr.has_read (h.read s fd n bs hread)
      by_cases hbs : bs = []
      · refine ⟨[],true,.eof s (hbs ▸ hread),List.nil_prefix,fun _ => ?_⟩
        exact (heof hbs hn).symm
      · have hlt : rest'.length < k := by
          rw [← hl, List.length_append]
          have := List.length_pos_of_ne_nil hbs
          omega
        obtain ⟨blocks,ok,hreads,hpre,hall⟩ := ih _ hlt rest' _ hrest rfl
        refine ⟨bs :: blocks,ok,.block s bs blocks ok hread hbs hreads,?_,fun hok => ?_⟩
        · exact (List.prefix_append_right_inj bs).mpr hpre
        · rw [List.flatten_cons, hall hok]

/-! The trace of an upload. -/

def FileOp.bytes : FileOp → List UInt8
  | .wrote _ bs => bs
  | _ => []

theorem written_bytes_ops (l : List SyncEvent) : writtenBytes l = (fileOps l).flatMap FileOp.bytes := by
  induction l with
  | nil => rfl
  | cons e l ih =>
    rw [writtenBytes, List.flatMap_cons, ← writtenBytes, ih]
    unfold fileOps
    cases e with
    | write fd bs ret errno =>
      by_cases hret : 0 < ret
      · simp [SyncEvent.fileOp, hret, FileOp.bytes]
      · simp [SyncEvent.fileOp, hret, Int.toNat_of_nonpos (not_lt.mp hret)]
    | openFile path mode fd => by_cases hfd : 0 ≤ fd <;> simp [SyncEvent.fileOp, hfd, FileOp.bytes]
    | close fd => simp [SyncEvent.fileOp, FileOp.bytes]
    | _ =>
      rw [List.filterMap_cons_none rfl]
      rfl

/-- Until it is closed an upload writes to its file. -/
theorem upload_writes {fd : ℤ} {job : Job} {es : List SyncEvent} (hok : AllSucceed es)
    (hopen : ∀ e ∈ es, ∀ fd', e ≠ .close fd')
    (h : follow (serve cfg) (.upload fd) es = some job) :
    job = .upload fd ∧ ∀ e ∈ es, e.writesTo fd := by
  induction es with
  | nil => exact ⟨(Option.some.inj h).symm,by simp⟩
  | cons e es ih =>
    rw [follow_cons] at h
    obtain ⟨job',he,hrest⟩ := Option.bind_eq_some_iff.mp h
    obtain ⟨hsucc,hok⟩ := (all_succeed_cons e es).mp hok
    have hstep : job' = .upload fd ∧ e.writesTo fd := by
      cases e with
      | write fd' bs ret errno =>
        obtain ⟨rfl,rfl⟩ := of_expect he
        have hgo : 0 < ret ∨ ret < 0 ∧ errno = eINTR := hsucc
        rw [if_pos hgo]
        exact ⟨rfl,rfl⟩
      | close fd' => exact absurd rfl (hopen _ List.mem_cons_self fd')
      | header n => exact ⟨(Option.some.inj he).symm,trivial⟩
      | room n => exact ⟨(Option.some.inj he).symm,trivial⟩
      | _ => cases he
    obtain ⟨rfl,hwr⟩ := hstep
    obtain ⟨hjob,hall⟩ := ih hok (fun e he => hopen e (List.mem_cons_of_mem _ he)) hrest
    exact ⟨hjob,List.forall_mem_cons.mpr ⟨hwr,hall⟩⟩

/-- Without a request the idle server makes no calls. -/
theorem idle_still {job : Job} {es : List SyncEvent} (hexec : executions es = [])
    (h : follow (serve cfg) .idle es = some job) :
    job = .idle ∧ ∀ e ∈ es, ∀ fd, e.writesTo fd := by
  induction es with
  | nil => exact ⟨(Option.some.inj h).symm,by simp⟩
  | cons e es ih =>
    rw [follow_cons] at h
    obtain ⟨job',he,hrest⟩ := Option.bind_eq_some_iff.mp h
    have hstep : job' = .idle ∧ ∀ fd, e.writesTo fd := by
      cases e with
      | exec cmd name => simp [executions] at hexec
      | header n => exact ⟨(Option.some.inj he).symm,fun _ => trivial⟩
      | room n => exact ⟨(Option.some.inj he).symm,fun _ => trivial⟩
      | _ => cases he
    obtain ⟨rfl,hwr⟩ := hstep
    have hnone : executions es = [] := by
      have hcons : executions (e :: es) = executions [e] ++ executions es :=
        executions_append [e] es
      exact (List.append_eq_nil_iff.mp (hcons.symm.trans hexec)).2
    obtain ⟨hjob,hall⟩ := ih hnone hrest
    exact ⟨hjob,List.forall_mem_cons.mpr ⟨hwr,hall⟩⟩

theorem open_create_uploads {job job' : Job} {p : List UInt8} {mode : ℕ} {fd : ℤ} (hfd : 0 ≤ fd)
    (h : serve cfg job (.openFile p (.create mode) fd) = some job') :
    job ≠ .idle ∧ job' = .upload fd := by
  cases job with
  | makeDirs dirs path mode' isLink =>
    cases dirs <;> cases isLink <;> first | cases h | skip
    obtain ⟨-,rfl⟩ := of_expect h
    rw [if_pos hfd]
    exact ⟨by simp,rfl⟩
  | recv path =>
    obtain ⟨⟨-,hmode⟩,-⟩ := of_expect h
    cases hmode
  | _ => cases h

/-- An upload that succeeds opens its file, writes to it alone, and closes it. -/
theorem upload_trace {evs : List SyncEvent} {p : List UInt8} {mode : ℕ} {fd : ℤ}
    {parts : List (List UInt8)} (hok : AllSucceed evs)
    (hserve : follow (serve cfg) .idle evs = some .idle) (hexec : (executions evs).length ≤ 1)
    (hops : fileOps evs = .opened p (.create mode) fd :: parts.map (.wrote fd) ++ [.closed fd]) :
    0 ≤ fd ∧ ∃ A B C, evs = A ++ [.openFile p (.create mode) fd] ++ B ++ [.close fd] ++ C ∧
      (∀ e ∈ B, e.writesTo fd) ∧ writtenBytes B = parts.flatten ∧
      ∀ e ∈ C, ∀ fd, e.writesTo fd := by
  obtain ⟨A,e,R,rfl,-,he,hR⟩ := List.filterMap_eq_cons_iff.mp hops
  obtain ⟨B₁,R',rfl,hB₁,hR'⟩ := List.filterMap_eq_append_iff.mp hR
  obtain ⟨B₂,e',C,rfl,hB₂,he',hC⟩ := List.filterMap_eq_cons_iff.mp hR'
  obtain ⟨rfl,hfd⟩ : e = .openFile p (.create mode) fd ∧ 0 ≤ fd := by
    cases e <;> simp only [SyncEvent.fileOp] at he <;> try cases he
    all_goals split_ifs at he
    all_goals simp_all
  obtain rfl : e' = .close fd := by
    cases e' <;> simp only [SyncEvent.fileOp] at he' <;> try cases he'
    all_goals first | rfl | split_ifs at he'
    all_goals simp_all
  have hB : fileOps (B₁ ++ B₂) = parts.map (.wrote fd) := by
    rw [file_ops_append, fileOps, hB₁, fileOps, List.filterMap_eq_nil_iff.mpr hB₂, List.append_nil]
  have hnoclose (x : SyncEvent) (hx : x ∈ B₁ ++ B₂) (fd' : ℤ) : x ≠ .close fd' := by
    rintro rfl
    have hmem : FileOp.closed fd' ∈ fileOps (B₁ ++ B₂) :=
      List.mem_filterMap.mpr ⟨_,hx,rfl⟩
    rw [hB] at hmem
    simp at hmem
  -- the stations of the server: the open, its upload, the close
  have hsplit : A ++ .openFile p (.create mode) fd :: (B₁ ++ (B₂ ++ .close fd :: C)) =
      A ++ .openFile p (.create mode) fd :: ((B₁ ++ B₂) ++ .close fd :: C) := by
    simp only [List.append_assoc]
  rw [hsplit] at hserve hexec hok
  obtain ⟨job₁,job₂,hA,hopen,hrest⟩ := follow_at hserve
  obtain ⟨hidle,rfl⟩ := open_create_uploads hfd hopen
  obtain ⟨job₃,job₄,hjobB,hclose,hend⟩ := follow_at hrest
  simp only [all_succeed_append, all_succeed_cons] at hok
  obtain ⟨rfl,hwrites⟩ := upload_writes
    ((all_succeed_append _ _).mpr ⟨hok.2.2.1.1,hok.2.2.1.2⟩) hnoclose hjobB
  obtain ⟨-,rfl⟩ := of_expect hclose
  -- the one request is in front of the open
  have hsome : executions A ≠ [] := fun hnone => hidle (idle_still hnone hA).1
  have hcount : (executions A).length+(executions C).length ≤ 1 := by
    refine le_trans ?_ hexec
    rw [executions_append]
    change _ ≤ (executions A ++ executions ([.openFile p (.create mode) fd] ++
      ((B₁ ++ B₂) ++ ([.close fd] ++ C)))).length
    simp only [executions_append, List.length_append]
    omega
  have hnone : executions C = [] := by
    have := List.length_pos_of_ne_nil hsome
    exact List.eq_nil_of_length_eq_zero (by omega)
  refine ⟨hfd,A,B₁ ++ B₂,C,by simp,hwrites,?_,(idle_still hnone hend).2⟩
  rw [written_bytes_ops, hB, List.flatMap_map]
  exact List.flatMap_id'

theorem Performed.call {s s' : ω} {e : SyncEvent} (h : Performed fs s [e] s') : Call fs s e s' := by
  generalize hl : [e] = l at h
  cases h with
  | nil => cases hl
  | @snoc es t _ e' hnil he =>
    have hl' : [] ++ [e] = es ++ [e'] := hl
    obtain ⟨rfl,he'⟩ := List.append_inj' hl' rfl
    obtain rfl := List.singleton_inj.mp he'
    generalize hn : ([] : List SyncEvent) = l at hnil
    cases hnil with
    | nil => exact he
    | snoc _ _ => exact absurd hn (by simp)

/-- Events that are no calls leave the files alone. -/
theorem contains_performed {s s' : ω} {es : List SyncEvent} {p content : List UInt8}
    (hp : Performed fs s es s') (hes : ∀ e ∈ es, ∀ fd, e.writesTo fd)
    (hc : (disk s).Contains p content) : (disk s').Contains p content := by
  induction hp with
  | nil => exact hc
  | @snoc es t t' e _ he ih =>
    have hprev := ih (fun e he => hes e (List.mem_append_left _ he))
    have hlast := hes e (by simp)
    cases he with
    | write fd bs => exact absurd (hlast (fd+1)) (by simp [SyncEvent.writesTo])
    | header => exact hprev
    | room => exact hprev
    | _ => exact (hlast 0).elim

/-- Behind an upload that succeeds the file contains what was written. -/
theorem upload_stored (h : Stores fs disk) {s s' : ω} {evs : List SyncEvent} {p : List UInt8}
    {mode : ℕ} {fd : ℤ} {parts : List (List UInt8)} (hp : Performed fs s evs s')
    (hok : AllSucceed evs) (hserve : follow (serve cfg) .idle evs = some .idle)
    (hexec : (executions evs).length ≤ 1)
    (hops : fileOps evs = .opened p (.create mode) fd :: parts.map (.wrote fd) ++ [.closed fd]) :
    (disk s').Contains p parts.flatten := by
  obtain ⟨hfd,A,B,C,rfl,hB,hbytes,hC⟩ := upload_trace hok hserve hexec hops
  obtain ⟨t₄,hp,hlast⟩ := hp.split
  obtain ⟨t₃,hp,hclose⟩ := hp.split
  obtain ⟨t₂,hp,hwrites⟩ := hp.split
  obtain ⟨t₁,-,hopen⟩ := hp.split
  have hcreated : (disk t₂).Writing p fd [] := by
    generalize he : SyncEvent.openFile p (.create mode) fd = e at hopen
    have hcall := hopen.call
    cases hcall with
    | openFile path mode' =>
      obtain ⟨rfl,rfl,rfl⟩ := SyncEvent.openFile.inj he
      exact h.create _ _ _ hfd
    | _ => cases he
  have hwritten := writing_performed h hwrites hB hcreated
  rw [List.nil_append, hbytes] at hwritten
  have hclosed : (disk t₄).Contains p parts.flatten := by
    generalize he : SyncEvent.close fd = e at hclose
    have hcall := hclose.call
    cases hcall with
    | close fd' => exact hwritten.contains.closed (h.close _ _)
    | _ => cases he
  exact contains_performed hlast hC hclosed

/-! Round trips. -/

/-- What the service answers a request and the OKAYs behind it, without the empty answers. -/
def pullReplies (cfg : Config) (fs : FileSystem ω) (s : SyncRun ω) (frames acks : List (SyncFrame cfg)) :
    List (List UInt8) :=
  ((writeResults cfg fs s frames ++ ackResults cfg fs (writeRun cfg fs s frames) acks).map
    Prod.snd).filter (· ≠ [])

theorem recv_records_ne {blocks : List (List UInt8)} {ok : Bool} :
    ∀ r ∈ recvRecords blocks ok, r ≠ [] := by
  intro r hr hnil
  subst hnil
  rcases List.mem_append.mp hr with hr | hr
  · obtain ⟨bs,-,hbs⟩ := List.mem_map.mp hr
    have hlen := congrArg List.length hbs
    simp [dataRecord] at hlen
  · have hlast := List.mem_singleton.mp hr
    cases ok <;> exact absurd hlast (by decide)

/-- A download answers with the blocks that are read. -/
theorem recv_pull_replies (h64 : 64 ≤ cfg.payloadSize) (t : SyncRun ω) (path : List UInt8)
    (frames acks : List (SyncFrame cfg)) (blocks : List (List UInt8)) (ok : Bool)
    (hopen : t.closed = false) (hstate : t.svc.state = .waitCmd) (hsize : t.svc.size = 0)
    (hne : path ≠ []) (hlt : path.length < cfg.pathMax)
    (hsplit : (frames.map SyncFrame.bytes).flatten = syncRequest idRecv path)
    (hfd : 0 ≤ (fs.openFile t.os (cName cfg path) .rdonly).2)
    (hreads : Reads fs (fs.openFile t.os (cName cfg path) .rdonly).2
      (cfg.payloadSize-sizeofData) (fs.openFile t.os (cName cfg path) .rdonly).1 blocks ok)
    (hacks : blocks.length ≤ acks.length) :
    pullReplies cfg fs t frames acks = recvRecords blocks ok := by
  have hexecute := recv_execute h64 t path hlt blocks ok hfd hreads
  obtain ⟨c,i,j,hdone,-,hres,hafter⟩ := request_delivered (by decide) (by decide)
    hne hlt (fun c hc => (hexecute c hc).1) frames hopen hstate hsize hsplit
  obtain ⟨-,first,rest,hrecords,hreply,hserving⟩ := hexecute c hdone
  have hcount : rest.length = blocks.length := by
    have hl := congrArg List.length hrecords
    simpa [recvRecords] using hl.symm
  obtain ⟨hacked,-⟩ :=
    acks_served (Serving fs (cfg.payloadSize-sizeofData) _ t.log)
      (fun t rs h => by cases h <;> assumption) (fun t f r rs h => recv_ack h64 t f r rs h)
      (fun t h => ⟨h.idle_state.1,h.idle_state.2.1⟩) rest acks (hcount ▸ hacks) _
      (serving_after hafter hserving)
  have hrecs : ∀ r ∈ recvRecords blocks ok, r ≠ [] := recv_records_ne
  rw [hrecords] at hrecs ⊢
  rw [pullReplies, hres, hacked, hreply]
  have hfirst : first ≠ [] := hrecs first List.mem_cons_self
  have hrest : ∀ r ∈ rest, r ≠ [] := fun r hr => hrecs r (List.mem_cons_of_mem _ hr)
  simpa [List.filter_append, Function.comp_def, hfirst] using hrest

/-- An upload whose calls all succeed is followed to its end. -/
theorem upload_follows (u : Upload cfg) (s : SyncRun ω) (frames : List (SyncFrame cfg))
    (hopen : s.closed = false) (hstate : s.svc.state = .waitCmd) (hsize : s.svc.size = 0)
    (hne : ∀ f ∈ frames, 0 < f.msg.dataLength)
    (hsplit : (frames.map SyncFrame.bytes).flatten = u.transfer.stream)
    (hok : AllSucceed (s.since (writeRun cfg fs s frames))) :
    ∃ evs, (writeRun cfg fs s frames).log = s.log ++ evs ∧ AllSucceed evs ∧
      Follows cfg u.transfer (writeRun cfg fs s frames).svc evs [] := by
  have hstart : Follows cfg u.transfer s.svc [] u.transfer.stream := by
    refine .header hstate ?_ ?_ all_succeed_nil rfl ?_
    · rw [hsize]
      decide
    · rw [hsize]
      rfl
    · rw [collected_of_size_zero hsize, List.nil_append]
  cases frames with
  | nil =>
    have hlen := congrArg List.length hsplit
    simp only [Transfer.stream, List.length_append, length_le32, List.map_nil, List.flatten_nil,
      List.length_nil] at hlen
    omega
  | cons f frames =>
    rw [← hsplit] at hstart
    rcases uploading_run fs f frames s [] hne hopen (List.append_nil _).symm hstart with
      ⟨evs,⟨es,hes⟩,hbad⟩ | ⟨-,-,evs,hlog,hf⟩
    · refine absurd ?_ hbad
      rw [SyncRun.since, ← hes, List.append_assoc, List.drop_left, all_succeed_append] at hok
      exact hok.1
    · refine ⟨evs,hlog,?_,hf⟩
      rwa [SyncRun.since, hlog, List.drop_left] at hok

/-- The upload of an idle service, when all calls succeed, leaves the chunks in the file. -/
theorem upload_contains (h : Stores fs disk) (u : Upload cfg) (raw : AfsService) (os : ω)
    (is : List (SyncInput cfg)) (frames : List (SyncFrame cfg))
    (hopen : (syncRun cfg fs raw os is).closed = false)
    (hstate : (syncRun cfg fs raw os is).svc.state = .waitCmd)
    (hsize : (syncRun cfg fs raw os is).svc.size = 0)
    (hne : ∀ f ∈ frames, 0 < f.msg.dataLength)
    (hsplit : (frames.map SyncFrame.bytes).flatten = u.transfer.stream)
    (hok : AllSucceed ((syncRun cfg fs raw os is).since
      (writeRun cfg fs (syncRun cfg fs raw os is) frames))) :
    (disk (writeRun cfg fs (syncRun cfg fs raw os is) frames).os).Contains u.path
      u.chunks.flatten := by
  set s := syncRun cfg fs raw os is with hs
  obtain ⟨evs,hlog,hsucceed,hf⟩ := upload_follows u s frames hopen hstate hsize hne hsplit hok
  obtain ⟨hst,-,hheader,-,hup⟩ := follows_end cfg u.transfer _ evs hf
  obtain ⟨es,hes,hperformed⟩ := run_performed fs s (frames.map SyncInput.write)
  obtain rfl : es = evs := List.append_cancel_left (hes.symm.trans hlog)
  obtain ⟨es',hes',hheaded⟩ := headed_write_run cfg fs s hstate hsize frames
  obtain rfl : es' = es := List.append_cancel_left (hes'.symm.trans hlog)
  have hreg : sIsLnk (sendMode cfg u.transfer.name) = false := by
    rw [upload_mode]
    exact u.regular
  obtain ⟨fd,parts,hops,hparts⟩ := hup hreg
  rw [upload_path] at hops
  have hexec : (executions es').length ≤ 1 := by
    unfold Headed at hheaded
    rw [hheader, sizeofReq] at hheaded
    omega
  have hserve : follow (serve cfg) .idle es' = some .idle := by
    have hfront := (doing_run cfg fs raw os is).job
    have hall := (doing_run cfg fs raw os (is ++ frames.map .write)).job
    have hrun : syncRun cfg fs raw os (is ++ frames.map .write) = writeRun cfg fs s frames :=
      run_append _ _ _ _
    have hjob (t : AfsService) (ht : t.state = .waitCmd) : t.job = .idle := by
      rw [AfsService.job, ht]
    rw [hrun, hlog, follow_append, hjob _ hst] at hall
    rw [← hs, hjob _ hstate] at hfront
    rwa [hfront] at hall
  exact hparts ▸ upload_stored h hperformed hsucceed hserve hexec hops

/-- The files by their paths, and the next descriptor. -/
structure MemFiles where
  disk : Disk (List UInt8) (List UInt8) UInt8
  next : ℤ

namespace MemFiles

def openFile (s : MemFiles) (p : List UInt8) : OpenMode → MemFiles × ℤ
  | .create _ =>
    (⟨⟨Function.update s.disk.names p (some p),Function.update s.disk.data p [],
      Function.update s.disk.opened s.next (some (p, 0))⟩,s.next+1⟩, s.next)
  | .rdonly =>
    match s.disk.names p with
    | none => (s, -1)
    | some i =>
      (⟨{ s.disk with opened := Function.update s.disk.opened s.next (some (i, 0)) },s.next+1⟩,
        s.next)

/-- Three bytes at most are read at a time. -/
def read (s : MemFiles) (fd : ℤ) (n : ℕ) : MemFiles × Option (List UInt8) :=
  match s.disk.opened fd with
  | none => (s, none)
  | some (i, o) =>
    let bs := ((s.disk.data i).drop o).take (min n 3)
    ({ s with disk := { s.disk with
        opened := Function.update s.disk.opened fd (some (i, o+bs.length)) } }, some bs)

def write (s : MemFiles) (fd : ℤ) (bs : List UInt8) : MemFiles × ℤ :=
  match s.disk.opened fd with
  | none => (s, -1)
  | some (i, o) =>
    ({ s with disk := { s.disk with
        data := Function.update s.disk.data i (overwrite (s.disk.data i) o bs)
        opened := Function.update s.disk.opened fd (some (i, o+bs.length)) } }, bs.length)

theorem read_length {s : MemFiles} {fd : ℤ} {n : ℕ} {bs : List UInt8}
    (h : (s.read fd n).2 = some bs) : bs.length ≤ min n 3 := by
  unfold read at h
  split at h
  · cases h
  · obtain rfl := Option.some.inj h
    exact List.length_take_le _ _

theorem write_length (s : MemFiles) (fd : ℤ) (bs : List UInt8) :
    (s.write fd bs).2 = -1 ∨ (s.write fd bs).2 = bs.length := by
  unfold write
  split
  · exact Or.inl rfl
  · exact Or.inr rfl

theorem write_le (s : MemFiles) (fd : ℤ) (bs : List UInt8) : (s.write fd bs).2 ≤ bs.length := by
  rcases write_length s fd bs with h | h
  · omega
  · exact h.le

theorem read_lt {s : MemFiles} {fd : ℤ} {n : ℕ} {bs : List UInt8}
    (h : (s.read fd n).2 = some bs) : bs.length ≤ 0x7ffff000 := by
  have hmin : bs.length ≤ min n 3 := read_length h
  omega

theorem strerror_lt (e : ℕ) : (emptyFs.strerror e).length < 2^30 := emptyFs.strerror_lt e

theorem not_interrupted : 2 ≠ eINTR := by decide

end MemFiles

def memFs : FileSystem MemFiles where
  errno _ := 2
  strerror _ := ascii "No such file or directory"
  stat s _ := (s, none)
  lstat s _ := (s, none)
  unlink s p := { s with disk := { s.disk with names := Function.update s.disk.names p none } }
  mkdir s _ _ := (s, 0)
  openFile := MemFiles.openFile
  read := MemFiles.read
  write := MemFiles.write
  close s fd := { s with disk := { s.disk with opened := Function.update s.disk.opened fd none } }
  opendir s _ := (s, none)
  readdir s _ := (s, none)
  closedir s _ := s
  malloc s _ := (s, some (0, fun _ => 0))
  free s _ := s
  symlink s _ _ := (s, -1)
  interrupts _ := 0
  strerror_lt := MemFiles.strerror_lt
  readdir_lt _ d name h := emptyFs.readdir_lt () d name h
  read_le _ _ _ _ h := (MemFiles.read_length h).trans (Nat.min_le_left _ _)
  read_lt _ _ _ _ h := MemFiles.read_lt h
  write_le := MemFiles.write_le
  write_interrupted _ _ _ _ h := absurd h MemFiles.not_interrupted

theorem stores_mem : Stores memFs MemFiles.disk where
  create s p _ _ := ⟨p,Function.update_self _ _ _,Function.update_self _ _ _,
    Function.update_self _ _ _⟩
  rdonly s p hfd := by
    change 0 ≤ (s.openFile p .rdonly).2 at hfd
    change Disk.OpenedRead s.disk (s.openFile p .rdonly).1.disk p (s.openFile p .rdonly).2
    cases hn : s.disk.names p with
    | none => simp [MemFiles.openFile, hn] at hfd
    | some i =>
      simp only [MemFiles.openFile, hn]
      exact ⟨rfl,i,hn,Function.update_self _ _ _⟩
  write s fd bs := by
    change Disk.Wrote s.disk (s.write fd bs).1.disk fd (bs.take (s.write fd bs).2.toNat)
    cases ho : s.disk.opened fd with
    | none =>
      refine ⟨?_,fun i o h => ?_,fun i o h => ?_⟩
      · simp [MemFiles.write, ho]
      · cases ho.symm.trans h
      · cases ho.symm.trans h
    | some io =>
      obtain ⟨i,o⟩ := io
      simp only [MemFiles.write, ho, Int.toNat_natCast, List.take_length]
      refine ⟨rfl,fun j k h => ?_,fun j k h => ?_⟩
      · obtain ⟨rfl,rfl⟩ := Prod.mk.inj (Option.some.inj (ho.symm.trans h))
        exact Function.update_self _ _ _
      · obtain ⟨rfl,rfl⟩ := Prod.mk.inj (Option.some.inj (ho.symm.trans h))
        exact Function.update_self _ _ _
  read s fd n bs h := by
    change (s.read fd n).2 = some bs at h
    change Disk.HasRead s.disk (s.read fd n).1.disk fd n bs
    cases ho : s.disk.opened fd with
    | none => simp [MemFiles.read, ho] at h
    | some io =>
      obtain ⟨i,o⟩ := io
      simp only [MemFiles.read, ho, Option.some.injEq] at h ⊢
      subst h
      refine ⟨rfl,fun j k h => ?_,fun j k h hnil hn => ?_,fun j k h => ?_⟩
      · obtain ⟨rfl,rfl⟩ := Prod.mk.inj (Option.some.inj (ho.symm.trans h))
        exact List.take_prefix _ _
      · obtain ⟨rfl,rfl⟩ := Prod.mk.inj (Option.some.inj (ho.symm.trans h))
        rcases List.take_eq_nil_iff.mp hnil with h0 | hnil
        · omega
        · exact hnil
      · obtain ⟨rfl,rfl⟩ := Prod.mk.inj (Option.some.inj (ho.symm.trans h))
        exact Function.update_self _ _ _
  close _ _ := ⟨rfl,rfl⟩

def emptyMem : MemFiles := ⟨⟨fun _ => none,fun _ => [],fun _ => none⟩,3⟩

/-- The upload in two packets, on a fresh service. -/
def smallPush : SyncRun MemFiles :=
  writeRun readmeConfig memFs (syncRun readmeConfig memFs default emptyMem [])
    [.ofBytes readmeConfig (smallUpload.transfer.stream.take 20) (by decide),
      .ofBytes readmeConfig (smallUpload.transfer.stream.drop 20) (by decide)]

/-- Every call of the upload succeeds, and it leaves an idle service and a file that opens. -/
theorem small_push_done :
    AllSucceed ((syncRun readmeConfig memFs default emptyMem []).since smallPush) ∧
      smallPush.closed = false ∧ smallPush.svc.state = .waitCmd ∧ smallPush.svc.size = 0 ∧
      0 ≤ (memFs.openFile smallPush.os smallUpload.path .rdonly).2 := by
  decide +kernel

end MicroADB
