import MicroADB.FileSyncUpload

/-! A single request on its way to an idle service, cut into packets anywhere: nothing is
answered before its last byte, and with that byte it is executed. -/
namespace MicroADB
open ByteMemory EventRun

variable {ω : Type} (cfg : Config) (fs : FileSystem ω) (id : ℕ) (name : List UInt8)

/-- Where the service svc is in the request, with the bytes R to come. -/
inductive Requesting (svc : AfsService) (R : List UInt8) : Prop
  | header (state : svc.state = .waitCmd) (size : svc.size < sizeofReq)
      (stream : svc.collected ++ R = syncRequest id name)
  | name (state : svc.state = .waitCmdData) (cmd : svc.cmd = id)
      (namelen : svc.namelen = name.length) (size : svc.size < name.length)
      (stream : svc.collected ++ R = name)

def SyncEvent.isHeader : SyncEvent → Prop
  | .header _ => True
  | _ => False

/-- Nothing has been answered or called since the run was in the state s. -/
structure Unanswered (s : SyncRun ω) (c : SyncCtx ω) : Prop where
  writeLen : c.p.writeLen = 0
  os : c.os = s.os
  log : ∃ hs, c.log = s.log ++ hs ∧ ∀ e ∈ hs, e.isHeader

/-- The request is complete in buff, and it was the end of the packet. -/
structure Complete (s : SyncRun ω) (c : SyncCtx ω) : Prop extends Unanswered s c where
  state : c.svc.state = .waitCmdData
  cmd : c.svc.cmd = id
  namelen : c.svc.namelen = name.length
  size : c.svc.size = 0
  buff : slice c.svc.buff 0 name.length = name
  rest : c.p.msg.dataLength = 0

/-- The rest of the iteration that completes a request. -/
def execute (c : SyncCtx ω) : ℤ × SyncCtx ω :=
  let r := requestName cfg fs c
  (r.1, if r.1 ≤ 0 then stateReset fs r.2 else r.2)

variable {cfg fs id name} {L R : List UInt8} {c : SyncCtx ω} {s : SyncRun ω}

theorem sync_request_length : (syncRequest id name).length = sizeofReq+name.length := by
  simp only [syncRequest, List.length_append, length_le32]
  rfl

/-- Something of the request is to come. -/
theorem Requesting.ne_nil {svc : AfsService} (h : Requesting id name svc R) : R ≠ [] := by
  rintro rfl
  cases h with
  | header _ size stream =>
    have hlen := congrArg List.length stream
    rw [List.append_nil, length_collected, sync_request_length] at hlen
    omega
  | name _ _ _ size stream =>
    have hlen := congrArg List.length stream
    rw [List.append_nil, length_collected] at hlen
    omega

theorem Unanswered.headers {s : SyncRun ω} {c d : SyncCtx ω} (h : Unanswered s c)
    (hw : d.p.writeLen = c.p.writeLen) (hos : d.os = c.os) (hs : List SyncEvent)
    (hlog : d.log = c.log ++ hs) (hh : ∀ e ∈ hs, e.isHeader) : Unanswered s d := by
  obtain ⟨ks,hks,hk⟩ := h.log
  refine ⟨hw.trans h.writeLen,hos.trans h.os,ks ++ hs,by rw [hlog, hks, List.append_assoc],?_⟩
  intro e he
  rcases List.mem_append.mp he with he | he
  · exact hk e he
  · exact hh e he

/-- What an iteration on a packet of the request comes to. -/
inductive Requested (cfg : Config) (fs : FileSystem ω) (id : ℕ) (name : List UInt8)
    (s : SyncRun ω) (L : List UInt8) (r : ℤ × SyncCtx ω) : Prop
  | waits (ret : 0 ≤ r.1) (quiet : Unanswered s r.2)
      (requesting : Requesting id name r.2.svc (r.2.rest ++ L))
  | executes (c : SyncCtx ω) (done : Complete id name s c) (result : r = execute cfg fs c)
      (last : L = [])

/-- Behind a complete header, with the bytes L of the request behind the packet. -/
structure HeaderRead (id : ℕ) (name L : List UInt8) (d : SyncCtx ω) : Prop where
  state : d.svc.state = .waitCmdData
  cmd : d.svc.cmd = id
  namelen : d.svc.namelen = name.length
  size : d.svc.size = 0
  rest : d.rest ++ L = name

/-- In the header. -/
structure HeaderWaits (id : ℕ) (name L : List UInt8) (d : SyncCtx ω) : Prop where
  state : d.svc.state = .waitCmd
  size : d.svc.size < sizeofReq
  stream : d.svc.collected ++ (d.rest ++ L) = syncRequest id name

/-- An iteration on the header. -/
theorem header_iter (fs : FileSystem ω) (hid : id < 2^32) (hquit : id ≠ idQuit)
    (hlt : name.length < cfg.pathMax)
    (hs : Unanswered s c) (h : HeaderWaits id name L c) :
    ∃ d, syncIter cfg fs c = (1, d) ∧ Unanswered s d ∧
      (HeaderWaits id name L d ∨ HeaderRead id name L d) := by
  have hmax := cfg.pathMax_ge
  have hsize := h.size
  set k := min (sizeofReq-c.svc.size) c.p.msg.dataLength with hk
  set d := c.emit (.header k) with hd
  have hprocess : stateProcess cfg fs c =
      afterRead (readFromPacket cfg d sizeofReq) (fun c => (-1, c)) (requestHeader cfg) := by
    rw [stateProcess, h.state]
    rfl
  have hheader : ∀ e ∈ [SyncEvent.header k], e.isHeader := by simp [SyncEvent.isHeader]
  rcases after_read_cases cfg d sizeofReq (fun c => (-1, c)) (requestHeader cfg) with
    ⟨hbad,-⟩ | ⟨hle,-,hdone,hr⟩ | ⟨hle,-,hshort,hr⟩
  · have hdsize : d.svc.size = c.svc.size := rfl
    unfold sizeofReq at *
    omega
  · have hstream : d.svc.collected ++ (d.rest ++ L) =
        (le32 id ++ le32 name.length) ++ name := h.stream
    obtain ⟨hbuff,hrest⟩ := complete_stream d sizeofReq (le32 id ++ le32 name.length) name L rfl
      hle hdone hstream
    obtain ⟨hword,hlen⟩ := words_of_slice _ 0 _ _ hbuff
    have hlt32 : name.length < 2^32 := by
      have hpath := cfg.pathMax_lt
      omega
    rw [u32_of_lt _ hid] at hword
    rw [Nat.zero_add, u32_of_lt _ hlt32] at hlen
    set e := d.complete sizeofReq with he
    have hrun : stateProcess cfg fs c = (1, { e with svc := { e.svc with
        cmd := id, namelen := name.length, state := .waitCmdData } }) := by
      rw [hprocess, hr, requestHeader, hword, hlen, if_neg hquit, if_neg (not_le.mpr hlt)]
      simp only [hlen]
      rfl
    rw [sync_iter_go cfg fs c (by rw [hrun]; simp), hrun]
    exact ⟨_,rfl,hs.headers rfl rfl [.header k] rfl hheader,Or.inr ⟨rfl,rfl,rfl,rfl,hrest⟩⟩
  · have hrun : stateProcess cfg fs c = (1, d.short) := hprocess.trans hr
    have hshort' : c.p.msg.dataLength < sizeofReq-c.svc.size := hshort
    rw [sync_iter_go cfg fs c (by rw [hrun]; simp), hrun]
    refine ⟨_,rfl,hs.headers rfl rfl [.header k] rfl hheader,
      Or.inl ⟨h.state,?_,(short_stream d L).trans h.stream⟩⟩
    change c.svc.size+c.p.msg.dataLength < sizeofReq
    omega

theorem header_requested (hid : id < 2^32) (hquit : id ≠ idQuit) (hne : name ≠ [])
    (hlt : name.length < cfg.pathMax) (hs : Unanswered s c) (h : HeaderWaits id name L c) :
    Requested cfg fs id name s L (syncIter cfg fs c) := by
  obtain ⟨d,hd,hquiet,hwaits | hread⟩ := header_iter fs hid hquit hlt hs h
  · rw [hd]
    exact .waits (by simp) hquiet (.header hwaits.state hwaits.size hwaits.stream)
  · rw [hd]
    refine .waits (by simp) hquiet (.name hread.state hread.cmd hread.namelen ?_ ?_)
    · rw [hread.size]
      exact List.length_pos_of_ne_nil hne
    · rw [collected_of_size_zero hread.size, List.nil_append]
      exact hread.rest

theorem name_requested (hlt : name.length < cfg.pathMax) (hs : Unanswered s c)
    (state : c.svc.state = .waitCmdData) (cmd : c.svc.cmd = id)
    (namelen : c.svc.namelen = name.length) (size : c.svc.size < name.length)
    (stream : c.svc.collected ++ (c.rest ++ L) = name) :
    Requested cfg fs id name s L (syncIter cfg fs c) := by
  have hprocess : stateProcess cfg fs c =
      afterRead (readFromPacket cfg c name.length) (fun c => (-1, c)) (requestName cfg fs) := by
    rw [stateProcess, state]
    simp only [stateWaitCmdData, namelen]
  rcases after_read_cases cfg c name.length (fun c => (-1, c)) (requestName cfg fs) with
    ⟨hbad,-⟩ | ⟨hle,-,hdone,hr⟩ | ⟨hle,-,hshort,hr⟩
  · omega
  · have hstream : c.svc.collected ++ (c.rest ++ L) = name ++ [] := by
      rw [List.append_nil]
      exact stream
    obtain ⟨hbuff,hrest⟩ := complete_stream c _ name [] L rfl hle hdone hstream
    obtain ⟨hzero,hL⟩ := List.append_eq_nil_iff.mp hrest
    refine .executes (c.complete name.length) ⟨hs.headers rfl rfl [] (List.append_nil _).symm (by simp),
      state,cmd,namelen,rfl,hbuff,(rest_eq_nil_iff _).mp hzero⟩ ?_ hL
    unfold syncIter execute
    rw [hprocess, hr]
  · have hrun : stateProcess cfg fs c = (1, c.short) := hprocess.trans hr
    rw [sync_iter_go cfg fs c (by rw [hrun]; simp), hrun]
    refine .waits (by simp) (hs.headers rfl rfl [] (List.append_nil _).symm (by simp))
      (.name state cmd namelen ?_ ((short_stream c L).trans stream))
    change c.svc.size+c.p.msg.dataLength < name.length
    omega

/-- The handlers leave the rest of the packet as it is. -/
theorem execute_data_length (cfg : Config) (fs : FileSystem ω) (c : SyncCtx ω) :
    (execute cfg fs c).2.p.msg.dataLength = c.p.msg.dataLength := by
  have hname : (requestName cfg fs c).2.p.msg = c.p.msg := by
    unfold requestName
    split
    · rfl
    · exact (state_init_started cfg fs _).msg
  unfold execute
  dsimp only
  split
  · rw [state_reset_p, hname]
  · rw [hname]

/-- One packet of the request. -/
theorem request_packet (fs : FileSystem ω) (hid : id < 2^32) (hquit : id ≠ idQuit) (hne : name ≠ [])
    (hlt : name.length < cfg.pathMax) (f : SyncFrame cfg) (t : SyncRun ω) (hos : t.os = s.os)
    (hlog : ∃ hs, t.log = s.log ++ hs ∧ ∀ e ∈ hs, e.isHeader)
    (h : Requesting id name t.svc (f.bytes ++ L)) :
    (L ≠ [] ∧ ∃ c, fileSyncOnWrite cfg fs (t.ctx f.packet) = (0, c) ∧ Unanswered s c ∧
        Requesting id name c.svc L) ∨
      L = [] ∧ ∃ c, Complete id name s c ∧ fileSyncOnWrite cfg fs (t.ctx f.packet) =
        (if 0 ≤ (execute cfg fs c).1 then 0 else (execute cfg fs c).1, (execute cfg fs c).2) := by
  set c := t.ctx f.packet with hc
  have hstart : Requested cfg fs id name s L (0, c.rewind) := by
    refine .waits le_rfl ⟨rfl,hos,hlog⟩ ?_
    cases h with
    | header state size stream => exact .header state size stream
    | name state cmd namelen size stream => exact .name state cmd namelen size stream
  have hloop : Requested cfg fs id name s L (syncLoop cfg fs (4*c.p.msg.dataLength) (0, c.rewind)) := by
    refine sync_loop_invariant cfg fs (Requested cfg fs id name s L) (fun ret d _ hd h => ?_) _ _
      hstart
    cases h with
    | waits _ quiet requesting =>
      cases requesting with
      | header state size stream =>
        exact header_requested hid hquit hne hlt quiet ⟨state,size,stream⟩
      | name state cmd namelen size stream =>
        exact name_requested hlt quiet state cmd namelen size stream
    | executes e done result _ =>
      -- the packet was used up when the request was complete
      have hzero : d.p.msg.dataLength = 0 := by
        rw [← done.rest, ← execute_data_length cfg fs e, ← result]
      omega
  have hend := file_sync_on_write_ends cfg fs c
  have hwrite : fileSyncOnWrite cfg fs c =
      (if 0 ≤ (syncLoop cfg fs (4*c.p.msg.dataLength) (0, c.rewind)).1 then 0
        else (syncLoop cfg fs (4*c.p.msg.dataLength) (0, c.rewind)).1,
        (syncLoop cfg fs (4*c.p.msg.dataLength) (0, c.rewind)).2) := rfl
  rw [hwrite] at hend ⊢
  generalize syncLoop cfg fs (4*c.p.msg.dataLength) (0, c.rewind) = r at hloop hend
  cases hloop with
  | waits ret quiet requesting =>
    rw [if_pos ret] at hend ⊢
    have hnil : r.2.rest = [] := (rest_eq_nil_iff r.2).mpr (by simpa using hend)
    rw [hnil, List.nil_append] at requesting
    exact Or.inl ⟨requesting.ne_nil,r.2,rfl,quiet,requesting⟩
  | executes e done result last =>
    subst result
    exact Or.inr ⟨last,e,done,rfl⟩

/-! The whole request. -/

/-- The reply that a callback leaves in its packet. -/
def SyncCtx.reply (c : SyncCtx ω) : List UInt8 := slice c.p.data 0 c.p.writeLen

/-- The run has come to what the callback left, the position in its packet apart. -/
structure SyncRun.After (t : SyncRun ω) (c : SyncCtx ω) : Prop where
  svc : ∃ n, t.svc = { c.svc with packetPtr := n }
  os : t.os = c.os
  log : t.log = c.log
  opened : t.closed = false

/-- A packet without payload changes nothing. -/
theorem empty_packets (fs : FileSystem ω) (frames : List (SyncFrame cfg)) (t : SyncRun ω)
    (c : SyncCtx ω)
    (h : t.After c) (hempty : ∀ f ∈ frames, f.msg.dataLength = 0) :
    writeResults cfg fs t frames = List.replicate frames.length (0, []) ∧
      (writeRun cfg fs t frames).After c := by
  induction frames generalizing t with
  | nil => exact ⟨rfl,h⟩
  | cons f frames ih =>
    have hzero := hempty f List.mem_cons_self
    have hwrite : fileSyncOnWrite cfg fs (t.ctx f.packet) = (0, (t.ctx f.packet).rewind) := by
      have hlen : (t.ctx f.packet).p.msg.dataLength = 0 := hzero
      rw [fileSyncOnWrite, hlen]
      rfl
    have hstep : syncStep cfg fs t (.write f) = (t.ctx f.packet).rewind.run false := by
      unfold syncStep
      rw [if_neg (by simp [h.opened])]
      change afterCallback fs (fileSyncOnWrite cfg fs (t.ctx f.packet)) = _
      rw [hwrite]
      rfl
    have hafter : (syncStep cfg fs t (.write f)).After c := by
      rw [hstep]
      obtain ⟨n,hsvc⟩ := h.svc
      refine ⟨⟨0,?_⟩,h.os,h.log,rfl⟩
      change { t.svc with packetPtr := 0 } = _
      rw [hsvc]
    obtain ⟨hres,hrun⟩ := ih _ hafter (fun g hg => hempty g (List.mem_cons_of_mem _ hg))
    refine ⟨?_,hrun⟩
    rw [writeResults, hwrite, hres]
    rfl

/-- The packets of a request up to the one that completes it, the reply to that, and empty
packets behind it. -/
theorem request_run (hid : id < 2^32) (hquit : id ≠ idQuit) (hne : name ≠ [])
    (hlt : name.length < cfg.pathMax)
    (hret : ∀ c, Complete id name s c → 0 ≤ (execute cfg fs c).1) (frames : List (SyncFrame cfg))
    (t : SyncRun ω) (hos : t.os = s.os) (hopen : t.closed = false)
    (hlog : ∃ hs, t.log = s.log ++ hs ∧ ∀ e ∈ hs, e.isHeader)
    (h : Requesting id name t.svc (frames.map SyncFrame.bytes).flatten) :
    ∃ c i j, Complete id name s c ∧ i+1+j = frames.length ∧
      writeResults cfg fs t frames = List.replicate i (0, []) ++
        [(0, (execute cfg fs c).2.reply)] ++ List.replicate j (0, []) ∧
      (writeRun cfg fs t frames).After (execute cfg fs c).2 := by
  induction frames generalizing t with
  | nil => exact absurd rfl h.ne_nil
  | cons f frames ih =>
    have hstep : syncStep cfg fs t (.write f) =
        afterCallback fs (fileSyncOnWrite cfg fs (t.ctx f.packet)) := by
      unfold syncStep
      rw [if_neg (by simp [hopen])]
    rcases request_packet fs hid hquit hne hlt f t hos hlog h with
      ⟨-,d,hwrite,hquiet,hrequesting⟩ | ⟨hlast,c,hdone,hwrite⟩
    · -- more of the request is to come
      have hnext : syncStep cfg fs t (.write f) = d.run false := by
        rw [hstep, hwrite]
        rfl
      obtain ⟨c,i,j,hdone,hlen,hres,hafter⟩ :=
        ih (syncStep cfg fs t (.write f)) (by rw [hnext]; exact hquiet.os) (by rw [hnext]; rfl)
          (by rw [hnext]; exact hquiet.log) (by rw [hnext]; exact hrequesting)
      refine ⟨c,i+1,j,hdone,by rw [List.length_cons]; omega,?_,hafter⟩
      rw [writeResults, hres, hwrite]
      dsimp only
      rw [hquiet.writeLen, slice_zero, List.replicate_succ]
      rfl
    · rw [if_pos (hret c hdone)] at hwrite
      have hnext : syncStep cfg fs t (.write f) = (execute cfg fs c).2.run false := by
        rw [hstep, hwrite]
        rfl
      have hafter : (syncStep cfg fs t (.write f)).After (execute cfg fs c).2 := by
        rw [hnext]
        exact ⟨⟨_,rfl⟩,rfl,rfl,rfl⟩
      have hempty (g : SyncFrame cfg) (hg : g ∈ frames) : g.msg.dataLength = 0 := by
        have hnil := List.flatten_eq_nil_iff.mp hlast g.bytes (List.mem_map_of_mem hg)
        exact (slice_eq_nil_iff _ _ _).mp hnil
      obtain ⟨hres,hrun⟩ := empty_packets fs frames _ _ hafter hempty
      refine ⟨c,0,frames.length,hdone,by rw [List.length_cons]; omega,?_,hrun⟩
      rw [writeResults, hres, hwrite]
      rfl

/-- A request from the idle state. -/
theorem request_delivered (hid : id < 2^32) (hquit : id ≠ idQuit) (hne : name ≠ [])
    (hlt : name.length < cfg.pathMax)
    (hret : ∀ c, Complete id name s c → 0 ≤ (execute cfg fs c).1) (frames : List (SyncFrame cfg))
    (hopen : s.closed = false) (hstate : s.svc.state = .waitCmd) (hsize : s.svc.size = 0)
    (hsplit : (frames.map SyncFrame.bytes).flatten = syncRequest id name) :
    ∃ c i j, Complete id name s c ∧ i+1+j = frames.length ∧
      writeResults cfg fs s frames = List.replicate i (0, []) ++
        [(0, (execute cfg fs c).2.reply)] ++ List.replicate j (0, []) ∧
      (writeRun cfg fs s frames).After (execute cfg fs c).2 := by
  refine request_run hid hquit hne hlt hret frames s rfl hopen
    ⟨[],(List.append_nil _).symm,by simp⟩ ?_
  rw [hsplit]
  refine .header hstate ?_ ?_
  · rw [hsize]
    decide
  · rw [collected_of_size_zero hsize, List.nil_append]

/-! The OKAY frames behind it. -/

variable (cfg fs) in
/-- What file_sync_on_ack returns for each OKAY, and the reply it leaves in its packet. -/
def ackResults (s : SyncRun ω) : List (SyncFrame cfg) → List (ℤ × List UInt8)
  | [] => []
  | f :: frames =>
    let r := fileSyncOnAck cfg fs (s.ctx f.packet)
    (r.1, r.2.reply) :: ackResults (syncStep cfg fs s (.ack f)) frames

variable (cfg fs) in
def ackRun (s : SyncRun ω) (frames : List (SyncFrame cfg)) : SyncRun ω :=
  run (syncStep cfg fs) s (frames.map .ack)

/-- An OKAY that the idle service gets is answered with nothing. -/
theorem idle_acks (fs : FileSystem ω) (frames : List (SyncFrame cfg)) (t : SyncRun ω)
    (hopen : t.closed = false) (hstate : t.svc.state = .waitCmd) (hsize : t.svc.size = 0) :
    ackResults cfg fs t frames = List.replicate frames.length (0, []) ∧
      (ackRun cfg fs t frames).svc.state = .waitCmd ∧ (ackRun cfg fs t frames).svc.size = 0 ∧
      (ackRun cfg fs t frames).closed = false ∧ (ackRun cfg fs t frames).log = t.log ∧
      (ackRun cfg fs t frames).svc.u = t.svc.u := by
  induction frames generalizing t with
  | nil => exact ⟨rfl,hstate,hsize,hopen,rfl,rfl⟩
  | cons f frames ih =>
    have hack : fileSyncOnAck cfg fs (t.ctx f.packet) =
        (0, ((t.ctx f.packet).rewind.setState .waitCmd).setSize 0) := by
      have hidle : (t.ctx f.packet).rewind.svc.state = .waitCmd := hstate
      simp only [fileSyncOnAck, stateAck, hidle, stateReset]
      rfl
    have hstep : syncStep cfg fs t (.ack f) =
        (((t.ctx f.packet).rewind.setState .waitCmd).setSize 0).run false := by
      unfold syncStep
      rw [if_neg (by simp [hopen])]
      change afterCallback fs (fileSyncOnAck cfg fs (t.ctx f.packet)) = _
      rw [hack]
      rfl
    obtain ⟨hres,hrest⟩ := ih (syncStep cfg fs t (.ack f)) (by rw [hstep]; rfl) (by rw [hstep]; rfl)
      (by rw [hstep]; rfl)
    have hlog : (syncStep cfg fs t (.ack f)).log = t.log := by
      rw [hstep]
      rfl
    have hu : (syncStep cfg fs t (.ack f)).svc.u = t.svc.u := by
      rw [hstep]
      rfl
    rw [hlog, hu] at hrest
    refine ⟨?_,hrest⟩
    rw [ackResults, hres, hack]
    rfl

/-- A service that answers every OKAY with the next record, and is idle behind the last. What
holds between two records holds at every moment. -/
theorem acks_served (I : SyncRun ω → List (List UInt8) → Prop)
    (hopen : ∀ t rs, I t rs → t.closed = false)
    (hnext : ∀ t (f : SyncFrame cfg) r rs, I t (r :: rs) →
      ∃ c, fileSyncOnAck cfg fs (t.ctx f.packet) = (0, c) ∧ c.reply = r ∧ I (c.run false) rs)
    (hidle : ∀ t, I t [] → t.svc.state = .waitCmd ∧ t.svc.size = 0)
    (rs : List (List UInt8)) (acks : List (SyncFrame cfg)) (hle : rs.length ≤ acks.length)
    (t : SyncRun ω) (h : I t rs) :
    ackResults cfg fs t acks =
        rs.map (fun r => (0, r)) ++ List.replicate (acks.length-rs.length) (0, []) ∧
      (ackRun cfg fs t acks).svc.state = .waitCmd ∧ (ackRun cfg fs t acks).svc.size = 0 ∧
      (ackRun cfg fs t acks).closed = false ∧ (∃ u, I u [] ∧ (ackRun cfg fs t acks).log = u.log) ∧
      ∀ k, ∃ u rs', I u rs' ∧ (ackRun cfg fs t (acks.take k)).svc.u = u.svc.u := by
  induction rs generalizing acks t with
  | nil =>
    obtain ⟨hstate,hsize⟩ := hidle t h
    have hidle (as : List (SyncFrame cfg)) := idle_acks fs as t (hopen t [] h) hstate hsize
    obtain ⟨hres,hstate',hsize',hopen',hlog,-⟩ := hidle acks
    exact ⟨hres,hstate',hsize',hopen',⟨t,h,hlog⟩,
      fun k => ⟨t,[],h,(hidle (acks.take k)).2.2.2.2.2⟩⟩
  | cons r rs ih =>
    cases acks with
    | nil => simp at hle
    | cons f acks =>
      obtain ⟨c,hack,hreply,hI⟩ := hnext t f r rs h
      have hstep : syncStep cfg fs t (.ack f) = c.run false := by
        unfold syncStep
        rw [if_neg (by simp [hopen t _ h])]
        change afterCallback fs (fileSyncOnAck cfg fs (t.ctx f.packet)) = _
        rw [hack]
        rfl
      obtain ⟨hres,hstate,hsize,hopen',hend,hfixed⟩ := ih acks (by simpa using hle)
        (syncStep cfg fs t (.ack f)) (by rw [hstep]; exact hI)
      refine ⟨?_,hstate,hsize,hopen',hend,fun k => ?_⟩
      · rw [ackResults, hres, hack, hreply]
        simp
      · cases k with
        | zero => exact ⟨t,_,h,rfl⟩
        | succ k => exact hfixed k

/-! Replies. -/

/-- The name in buff, as C code sees it. -/
def cName (cfg : Config) (name : List UInt8) : List UInt8 := cstring (nameMem name) 0 cfg.pathMax

theorem cName_eq (hlt : name.length < cfg.pathMax) (hnul : (0 : UInt8) ∉ name) :
    cName cfg name = name := by
  refine cstring_of_slice _ 0 _ name (slice_store_self _ 0 name) hnul ?_ hlt
  rw [Nat.zero_add]
  exact name_mem_end name

/-- The name of a complete request, with its terminator in place. -/
theorem Complete.name_eq (h : Complete id name s c) :
    (c.setBuff (store c.svc.buff c.svc.namelen [0])).name cfg = cName cfg name := by
  have hbuff : slice (store c.svc.buff name.length [0]) 0 name.length = name := by
    rw [slice_store_disjoint _ _ _ _ _ (Or.inl (by omega)), h.buff]
  have hnul : store c.svc.buff name.length [0] name.length = 0 :=
    store_apply_of_mem c.svc.buff _ 0 [0] (by simp)
  rw [SyncCtx.name, h.namelen]
  exact cstring_congr _ _ _ _ name.length (name_mem_end name) (Nat.zero_le _)
    (fun i _ hi => name_mem_of_slice _ name hbuff hnul i hi)

/-- A header that is stored in front of a body. -/
theorem slice_header_body (m : Mem) (o : ℕ) (h b : List UInt8) :
    slice (store (store m (o+h.length) b) o h) o (h.length+b.length) = h ++ b := by
  rw [slice_add, slice_store_self, slice_store_disjoint _ _ _ _ _ (Or.inr le_rfl),
    slice_store_self]

/-- A reply of its own in an empty packet. -/
theorem reply_put (c : SyncCtx ω) (bs : List UInt8) (hw : c.p.writeLen = 0)
    (hlen : bs.length < 2^32) : ((c.put 0 bs).advance bs.length).reply = bs := by
  have hn : ((c.put 0 bs).advance bs.length).p.writeLen = bs.length := by
    change u32 (c.p.writeLen+bs.length) = _
    rw [hw, Nat.zero_add, u32_of_lt _ hlen]
  rw [SyncCtx.reply, hn]
  change slice (store c.p.data (c.p.writeLen+0) bs) 0 bs.length = bs
  rw [hw]
  exact slice_store_self _ _ _

/-- The same with the header stored behind the body. -/
theorem reply_record (c : SyncCtx ω) (h b : List UInt8) (hw : c.p.writeLen = 0)
    (hlen : h.length+b.length < 2^32) :
    (((c.put h.length b).put 0 h).advance (h.length+b.length)).reply = h ++ b := by
  have hn : (((c.put h.length b).put 0 h).advance (h.length+b.length)).p.writeLen =
      h.length+b.length := by
    change u32 (c.p.writeLen+(h.length+b.length)) = _
    rw [hw, Nat.zero_add, u32_of_lt _ hlen]
  rw [SyncCtx.reply, hn]
  change slice (store (store c.p.data (c.p.writeLen+h.length) b) (c.p.writeLen+0) h) 0 _ = _
  rw [hw, Nat.add_zero]
  exact slice_header_body c.p.data 0 h b

end MicroADB
