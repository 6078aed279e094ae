import MicroADB.AdbRun

/-! What a function of the daemon can do: acts that concern the transport, a packet or one
service, and the deeds they consist of, which tell what fails. -/
namespace MicroADB
open ByteMemory EventRun

/-! What the code keeps of a service. -/

structure UvStream.Wf (s : UvStream) : Prop where
  starved : s.starved = true → s.active = false
  closing : s.closing = true → s.active = false ∧ s.starved = false

/-- The reads and requests that a service can have in its state. -/
def ServiceKind.Allows (s : UvStream) : ServiceKind → Prop
  | .sync _ => s.active = false ∧ s.starved = false ∧ s.Quiet
  | .tcp state =>
    (s.active = true ∨ s.starved = true → state = .connected) ∧
      (s.writes ≠ [] → StreamState.connected.index ≤ state.index) ∧
      (s.connecting = true → state = .notConnected) ∧
      (s.closing = true → StreamState.notConnected.index < state.index)
  | .shell waitAck => (s.active = true ∨ s.starved = true → waitAck = false) ∧ s.connecting = false

structure Service.Wf (svc : Service) : Prop where
  stream : svc.stream.Wf
  kind : svc.kind.Allows svc.stream
  freed : svc.freed = true → svc.stream.active = false
  exiting : svc.exiting = true → svc.stream.closing = true ∧ svc.stream.Quiet

/-! What the trace says about the pool. -/

/-- An allocation was refused since the last release. -/
def refusedSinceRelease (log : List Event) : Bool :=
  log.foldl (fun b e => match e with | .refused => true | .release _ => false | _ => b) false

/-- There was no packet for a reader, or no memory. -/
def Short (log : List Event) : Prop :=
  refusedSinceRelease log = true ∨ Event.outOfMemory ∈ log

/-- The events that concern neither the pool nor the frames and services of the host. -/
def Event.plain : Event → Bool
  | .sync .. | .write .. | .kept .. | .handleLost | .onKick _ => true
  | .close why => why ≠ .badHeader ∧ why ≠ .badData
  | .fault f => f ≠ .frameCount ∧ f ≠ .nullNext
  | _ => false

/-! Acts. -/

variable {ω : Type}

/-- What sending a frame and closing the transport may change. -/
structure Quietly (d d' : Daemon ω) : Prop where
  services : d'.services = d.services
  heap : d'.heap = d.heap
  nextServiceId : d'.nextServiceId = d.nextServiceId
  isConnected : d'.isConnected = d.isConnected
  curPacket : d'.curPacket = d.curPacket
  curLen : d'.curLen = d.curLen
  frameCount : d'.frameCount = d.frameCount
  live : d'.live = d.live
  fresh : d'.fresh = d.fresh
  gone : d'.gone = d.gone
  crashed : d.crashed = true → d'.crashed = true
  wf : d.socket.Wf → d'.socket.Wf
  starved : d'.socket.starved = true → d.socket.starved = true
  closing : d.socket.closing = true → d'.socket.closing = true
  log : ∃ es, d'.log = d.log ++ es ∧ ∀ e ∈ es, e.plain = true

theorem Quietly.refl (d : Daemon ω) : Quietly d d :=
  ⟨rfl,rfl,rfl,rfl,rfl,rfl,rfl,rfl,rfl,rfl,id,id,id,id,[],(List.append_nil _).symm,by simp⟩

theorem Quietly.trans {d d' d'' : Daemon ω} (h : Quietly d d') (h' : Quietly d' d'') :
    Quietly d d'' where
  services := h'.services.trans h.services
  heap := h'.heap.trans h.heap
  nextServiceId := h'.nextServiceId.trans h.nextServiceId
  isConnected := h'.isConnected.trans h.isConnected
  curPacket := h'.curPacket.trans h.curPacket
  curLen := h'.curLen.trans h.curLen
  frameCount := h'.frameCount.trans h.frameCount
  live := h'.live.trans h.live
  fresh := h'.fresh.trans h.fresh
  gone := h'.gone.trans h.gone
  crashed := fun hc => h'.crashed (h.crashed hc)
  wf := fun hw => h'.wf (h.wf hw)
  starved := fun hs => h.starved (h'.starved hs)
  closing := fun hc => h'.closing (h.closing hc)
  log := by
    obtain ⟨es,hes,hp⟩ := h.log
    obtain ⟨fs,hfs,hq⟩ := h'.log
    refine ⟨es ++ fs,by rw [hfs, hes, List.append_assoc],fun e he => ?_⟩
    rcases List.mem_append.mp he with he | he
    · exact hp e he
    · exact hq e he

theorem quietly_emits (d : Daemon ω) (es : List Event) (h : ∀ e ∈ es, e.plain = true) :
    Quietly d { d with log := d.log ++ es } :=
  ⟨rfl,rfl,rfl,rfl,rfl,rfl,rfl,rfl,rfl,rfl,id,id,id,id,es,rfl,h⟩

theorem quietly_emit (d : Daemon ω) (e : Event) (h : e.plain = true) : Quietly d (d.emit e) :=
  quietly_emits d [e] (fun _ he => List.mem_singleton.mp he ▸ h)

theorem quietly_fault (d : Daemon ω) (f : Fault) (h : (Event.fault f).plain = true) :
    Quietly d (d.fault f) :=
  { quietly_emit d (.fault f) h with crashed := fun _ => rfl }

theorem quietly_os (d : Daemon ω) (os : ω) : Quietly d (d.setOs os) :=
  { Quietly.refl d with }

theorem quietly_socket (d : Daemon ω) (s : UvStream) (hw : d.socket.Wf → s.Wf)
    (hs : s.starved = true → d.socket.starved = true)
    (hc : d.socket.closing = true → s.closing = true) : Quietly d (d.setSocket s) :=
  { Quietly.refl d with wf := hw, starved := hs, closing := hc }

theorem quietly_pop (d : Daemon ω) (rest : List ApacketUv) :
    Quietly d (d.setSocket { d.socket with writes := rest }) :=
  quietly_socket d _ (fun hw => ⟨hw.starved,hw.closing⟩) id id

/-- What a callback may change of a service, a new write request apart. -/
structure Change (d : Daemon ω) (a : ℕ) (svc svc' : Service) : Prop where
  closing : svc'.stream.closing = svc.stream.closing
  freed : svc'.freed = svc.freed
  wf : svc.Wf → svc'.Wf
  starved : svc'.stream.starved = true → svc.stream.starved = true ∨ Short d.log
  quiet : svc.stream.Quiet → svc'.stream.Quiet
  peerId : svc.peerId ≠ 0 → svc'.peerId = svc.peerId

/-- A service as its constructor returns it. -/
structure Constructed (svc : Service) : Prop where
  closing : svc.stream.closing = false
  freed : svc.freed = false
  wf : svc.Wf
  starved : svc.stream.starved = false
  kind : svc.kind ≠ .tcp .errorClose
  afs : ∀ s, svc.kind = .sync s → ∃ raw, s = fileSyncService raw

inductive Act (cfg : Config) (uv : Uv ω) : Daemon ω → Daemon ω → Prop
  | quietly (d d' : Daemon ω) (h : Quietly d d') : Act cfg uv d d'
  | alloc (d : Daemon ω) (cap : ℕ) (init : ℕ × Mem) (h : d.frameCount < cfg.frameMax) :
    Act cfg uv d (newPacket d cap init).2
  | refuse (d : Daemon ω) (h : cfg.frameMax ≤ d.frameCount) : Act cfg uv d (refuse cfg d)
  | outOfMemory (d : Daemon ω) (h : (uv.packetMalloc d.os).2 = none) :
    Act cfg uv d (d.emit .outOfMemory)
  | service (d : Daemon ω) (a : ℕ) (svc svc' : Service) (ha : d.alive a = some svc)
    (h : Change d a svc svc') : Act cfg uv d (d.setService a svc')

/-- What the frames of the host do besides. -/
inductive FrameAct : Daemon ω → Daemon ω → Prop
  | push (d : Daemon ω) (a : ℕ) (svc : Service) (up : ApacketUv) (ha : d.alive a = some svc)
    (hreg : a ∈ d.services) (hcl : svc.stream.closing = false)
    (hk : svc.kind.Allows svc.stream → svc.kind.Allows (svc.stream.push up)) :
    FrameAct d (d.setService a { svc with stream := svc.stream.push up })
  | register (d : Daemon ω) (svc : Service) (peerId : ℕ) (params : ServiceParams)
    (h : Constructed svc) : FrameAct d (registerService d svc peerId params).2
  | serviceId (d : Daemon ω) (n : ℕ) : FrameAct d { d with nextServiceId := n }
  | reboot (d : Daemon ω) (target : List UInt8) : FrameAct d (d.emit (.reboot target))
  | reached (d : Daemon ω) (a : ℕ) (e : Event) (ha : a ∈ d.services)
    (h : e = .onWrite a ∨ e = .onAck a) : FrameAct d (d.emit e)

/-- The plain events of which none is a failure, a close or a loss. -/
def Event.harmless : Event → Bool
  | .sync .. | .write _ _ _ true | .kept .. | .onKick _ => true
  | .fault f => f ≠ .frameCount ∧ f ≠ .nullNext ∧ f ≠ .closingTwice
  | _ => false

/-- Quietly, and nothing fails. -/
structure Calmly (d d' : Daemon ω) : Prop where
  quietly : Quietly d d'
  closing : d'.socket.closing = d.socket.closing
  writes : d.socket.writes <+: d'.socket.writes
  log : ∃ es, d'.log = d.log ++ es ∧ ∀ e ∈ es, e.harmless = true

/-- A tcp service that is not connected. Its on_close frees it. -/
def ServiceKind.Unconnected : ServiceKind → Prop
  | .tcp state => state.index ≤ StreamState.notConnected.index
  | _ => False

instance : DecidablePred ServiceKind.Unconnected
  | .tcp state => inferInstanceAs (Decidable (state.index ≤ StreamState.notConnected.index))
  | .sync _ | .shell _ => isFalse id

theorem not_unconnected {state : StreamState}
    (h : StreamState.notConnected.index < state.index) : ¬(ServiceKind.tcp state).Unconnected :=
  not_le.mpr h

/-- The acts again, with the failures among them. The connection of a service that fails is not one
of them, nor is a close of the transport for another reason. -/
inductive Deed (cfg : Config) (uv : Uv ω) : Daemon ω → Daemon ω → Prop
  | calmly (d d' : Daemon ω) (h : Calmly d d') : Deed cfg uv d d'
  | send (d : Daemon ω) (up : ApacketUv) : Deed cfg uv d (sendFrame uv d up)
  | outOfMemory (d : Daemon ω) (h : (uv.packetMalloc d.os).2 = none) : Deed cfg uv d
    (opsClose ((d.setOs (uv.packetMalloc d.os).1).emit .outOfMemory) .outOfMemory)
  | alloc (d : Daemon ω) (cap : ℕ) (init : ℕ × Mem) (h : d.frameCount < cfg.frameMax) :
    Deed cfg uv d (newPacket d cap init).2
  | refuse (d : Daemon ω) (h : cfg.frameMax ≤ d.frameCount) : Deed cfg uv d (refuse cfg d)
  | service (d : Daemon ω) (a : ℕ) (svc svc' : Service) (ha : d.alive a = some svc)
    (h : Change d a svc svc') (hk : svc'.kind.Unconnected → svc'.kind = svc.kind) :
    Deed cfg uv d (d.setService a svc')

theorem calmly_emits (d : Daemon ω) (es : List Event) (h : ∀ e ∈ es, e.harmless = true)
    (hp : ∀ e ∈ es, e.plain = true) : Calmly d { d with log := d.log ++ es } :=
  ⟨quietly_emits d es hp,rfl,List.prefix_rfl,es,rfl,h⟩

theorem calmly_emit (d : Daemon ω) (e : Event) (h : e.harmless = true) (hp : e.plain = true) :
    Calmly d (d.emit e) :=
  ⟨quietly_emit d e hp,rfl,List.prefix_rfl,[e],rfl,fun _ he => List.mem_singleton.mp he ▸ h⟩

theorem calmly_fault (d : Daemon ω) (f : Fault) (h : (Event.fault f).harmless = true)
    (hp : (Event.fault f).plain = true) : Calmly d (d.fault f) :=
  ⟨quietly_fault d f hp,rfl,List.prefix_rfl,[.fault f],rfl,fun _ he => List.mem_singleton.mp he ▸ h⟩

theorem calmly_of_quietly {d d' : Daemon ω} (hq : Quietly d d')
    (hcl : d'.socket.closing = d.socket.closing) (hw : d'.socket.writes = d.socket.writes)
    (hlog : d'.log = d.log) : Calmly d d' :=
  ⟨hq,hcl,by rw [hw],[],by rw [hlog, List.append_nil],by simp⟩

theorem calmly_os (d : Daemon ω) (os : ω) : Calmly d (d.setOs os) :=
  calmly_of_quietly (quietly_os d os) rfl rfl rfl

/-! The transport. -/

theorem ops_close_open (d : Daemon ω) (why : CloseReason) (h : d.socket.closing = false) :
    opsClose d why = (d.setSocket d.socket.close).emit (.close why) :=
  if_neg (by simp [h])

theorem quietly_ops_close (d : Daemon ω) (why : CloseReason)
    (h : (Event.close why).plain = true) : Quietly d (opsClose d why) := by
  unfold opsClose
  split
  · exact quietly_fault d _ rfl
  · have hsocket : Quietly d (d.setSocket d.socket.close) :=
      quietly_socket d _ (fun _ => ⟨by simp [UvStream.close],by simp [UvStream.close]⟩)
        (by simp [UvStream.close]) (by simp [UvStream.close])
    exact hsocket.trans (quietly_emit _ _ h)

theorem quietly_write (uv : Uv ω) (d : Daemon ω) (up : ApacketUv) :
    Quietly d (tcpUvWrite uv d up).2 := by
  unfold tcpUvWrite
  generalize (if d.socket.closing = true then (d.os, false) else uv.write d.os) = r
  have hemit : Quietly d ((d.setOs r.1).emit (.write up.addr up.p.msg up.p.payload r.2)) :=
    (quietly_os d r.1).trans (quietly_emit _ _ rfl)
  dsimp only
  split
  · exact hemit.trans (quietly_socket _ _ (fun hw => ⟨hw.starved,hw.closing⟩) id id)
  · exact hemit

theorem quietly_send_frame (uv : Uv ω) (d : Daemon ω) (up : ApacketUv) :
    Quietly d (sendFrame uv d up) := by
  unfold sendFrame
  dsimp only
  split
  · exact (quietly_write uv d _).trans (quietly_ops_close _ _ rfl)
  · exact quietly_write uv d _

theorem alive_iff (d : Daemon ω) (a : ℕ) (svc : Service) :
    d.alive a = some svc ↔ d.heap a = some svc ∧ svc.freed = false := by
  simp [Daemon.alive, Option.filter_eq_some_iff]

theorem set_service_alive (d : Daemon ω) (a : ℕ) (svc : Service) (h : svc.freed = false) :
    (d.setService a svc).alive a = some svc :=
  (alive_iff _ _ _).mpr ⟨Function.update_self _ _ _,h⟩

/-! Allocation. -/

theorem allocate_heap (cfg : Config) (uv : Uv ω) (d : Daemon ω) (b : Bool) :
    (adbUvPacketAllocate cfg uv d b).2.heap = d.heap ∧
      (adbUvPacketAllocate cfg uv d b).2.services = d.services := by
  unfold adbUvPacketAllocate
  split
  · exact ⟨rfl,rfl⟩
  · dsimp only
    split
    · exact ⟨(quietly_ops_close _ _ rfl).heap,(quietly_ops_close _ _ rfl).services⟩
    · exact ⟨rfl,rfl⟩

theorem allocate_alive (cfg : Config) (uv : Uv ω) (d : Daemon ω) (b : Bool) (a : ℕ) :
    (adbUvPacketAllocate cfg uv d b).2.alive a = d.alive a := by
  rw [Daemon.alive, Daemon.alive, (allocate_heap cfg uv d b).1]

/-- A reader that got no packet was refused one, or there was no memory. -/
theorem allocate_short (cfg : Config) (uv : Uv ω) (d : Daemon ω) (b : Bool)
    (h : (adbUvPacketAllocate cfg uv d b).1 = none) :
    Short (adbUvPacketAllocate cfg uv d b).2.log := by
  unfold adbUvPacketAllocate at h ⊢
  split
  · left
    change refusedSinceRelease (d.log ++ [.refused]) = true
    simp [refusedSinceRelease]
  · rename_i hlt
    rw [if_neg hlt] at h
    dsimp only at h ⊢
    split
    · obtain ⟨es,hes,-⟩ := (quietly_ops_close ((d.setOs (uv.packetMalloc d.os).1).emit
        .outOfMemory) .outOfMemory rfl).log
      right
      rw [hes]
      simp [Daemon.emit]
    · rename_i init hinit
      simp [hinit] at h

/-- An allocation that succeeds does nothing else. -/
theorem allocate_some (cfg : Config) (uv : Uv ω) (d : Daemon ω) (b : Bool) (ap : RawPacket)
    (h : (adbUvPacketAllocate cfg uv d b).1 = some ap) :
    (adbUvPacketAllocate cfg uv d b).2.crashed = d.crashed ∧
      (adbUvPacketAllocate cfg uv d b).2.socket = d.socket := by
  unfold adbUvPacketAllocate at h ⊢
  split
  · rename_i hle
    rw [if_pos hle] at h
    cases h
  · rename_i hlt
    rw [if_neg hlt] at h
    dsimp only at h ⊢
    split
    · rename_i hnone
      rw [hnone] at h
      cases h
    · exact ⟨rfl,rfl⟩

/-! The changes that callbacks make of a service. -/

theorem socket_start_kind (svc : Service) : (adbHalSocketStart svc).kind = svc.kind := by
  unfold adbHalSocketStart
  split <;> rfl

theorem shell_kick_kind (svc : Service) (waitAck : Bool) :
    (shellKick svc waitAck).kind = svc.kind := by
  unfold shellKick
  split
  · rfl
  · split <;> rfl

@[simp] theorem UvStream.readStart_closing (s : UvStream) : s.readStart.closing = s.closing := by
  unfold UvStream.readStart
  split <;> rfl

@[simp] theorem UvStream.readStart_writes (s : UvStream) : s.readStart.writes = s.writes := by
  unfold UvStream.readStart
  split <;> rfl

@[simp] theorem UvStream.readStart_connecting (s : UvStream) :
    s.readStart.connecting = s.connecting := by
  unfold UvStream.readStart
  split <;> rfl

theorem UvStream.readStart_starved (s : UvStream) (h : s.readStart.starved = true) :
    s.starved = true := by
  unfold UvStream.readStart at h
  split at h
  · exact h
  · cases h

theorem UvStream.Wf.readStart {s : UvStream} (h : s.Wf) : s.readStart.Wf := by
  unfold UvStream.readStart
  split
  · exact h
  · rename_i hc
    exact ⟨by simp,fun h' => absurd h' hc⟩

theorem Change.refl (d : Daemon ω) (a : ℕ) (svc : Service) : Change d a svc svc :=
  ⟨rfl,rfl,id,Or.inl,id,fun _ => rfl⟩

/-- Reading is started in a state in which it may be. -/
theorem change_read_start (d : Daemon ω) (a : ℕ) (svc : Service) (kind : ServiceKind)
    (hk : svc.kind.Allows svc.stream → kind.Allows svc.stream.readStart) (hf : svc.freed = false) :
    Change d a svc { svc with kind := kind, stream := svc.stream.readStart } where
  closing := svc.stream.readStart_closing
  freed := rfl
  wf hw := ⟨hw.stream.readStart,hk hw.kind,by simp [hf],fun he => by
    simpa [UvStream.Quiet] using hw.exiting he⟩
  starved hs := Or.inl (svc.stream.readStart_starved hs)
  quiet hq := ⟨by simpa using hq.1,by simpa using hq.2⟩
  peerId _ := rfl

theorem change_kind (d : Daemon ω) (a : ℕ) (svc : Service) (kind : ServiceKind)
    (hk : svc.kind.Allows svc.stream → kind.Allows svc.stream) :
    Change d a svc { svc with kind := kind } :=
  ⟨rfl,rfl,fun hw => ⟨hw.stream,hk hw.kind,hw.freed,hw.exiting⟩,Or.inl,id,fun _ => rfl⟩

theorem change_socket_start (d : Daemon ω) (a : ℕ) (svc : Service) (state : StreamState)
    (hk : svc.kind = .tcp state) (hs : StreamState.notConnected.index < state.index)
    (hf : svc.freed = false) :
    Change d a svc (adbHalSocketStart { svc with kind := .tcp .connected }) := by
  have hallows (s : UvStream) (hw : s.writes = svc.stream.writes)
      (hc : s.connecting = svc.stream.connecting) (h : svc.kind.Allows svc.stream) :
      (ServiceKind.tcp .connected).Allows s := by
    rw [hk] at h
    refine ⟨fun _ => rfl,fun _ => le_rfl,fun hcon => ?_,fun _ => by decide⟩
    rw [h.2.2.1 (hc ▸ hcon)] at hs
    exact absurd hs (lt_irrefl _)
  unfold adbHalSocketStart
  split
  · exact change_kind d a svc _ (hallows _ rfl rfl)
  · exact change_read_start d a svc _ (hallows _ (by simp) (by simp)) hf

theorem change_shell_kick (d : Daemon ω) (a : ℕ) (svc : Service) (waitAck : Bool)
    (hk : svc.kind = .shell waitAck) (hf : svc.freed = false) :
    Change d a svc (shellKick { svc with kind := .shell false } false) := by
  have hallows (s : UvStream) (hc : s.connecting = svc.stream.connecting)
      (h : svc.kind.Allows svc.stream) : (ServiceKind.shell false).Allows s := by
    rw [hk] at h
    exact ⟨fun _ => rfl,hc.trans h.2⟩
  unfold shellKick
  split
  · contradiction
  · split
    · exact change_kind d a svc _ (hallows _ rfl)
    · exact change_read_start d a svc _ (hallows _ (by simp)) hf

/-- A write request is added. -/
theorem push_wf {svc : Service} (up : ApacketUv) (hw : svc.Wf) (hcl : svc.stream.closing = false)
    (hk : svc.kind.Allows svc.stream → svc.kind.Allows (svc.stream.push up)) :
    Service.Wf { svc with stream := svc.stream.push up } := by
  refine ⟨⟨hw.stream.starved,hw.stream.closing⟩,hk hw.kind,hw.freed,fun he => ?_⟩
  have hclosing := (hw.exiting he).1
  rw [hcl] at hclosing
  cases hclosing

theorem starve_wf {svc : Service} (ha : svc.stream.active = true) (hw : svc.Wf) :
    Service.Wf { svc with stream := svc.stream.starve } := by
  unfold UvStream.starve
  split
  · exact hw
  · rename_i hc
    refine ⟨⟨fun _ => rfl,fun h => absurd h hc⟩,?_,fun _ => rfl,hw.exiting⟩
    have hkind := hw.kind
    cases hsk : svc.kind with
    | sync s =>
      rw [hsk] at hkind
      rw [hkind.1] at ha
      cases ha
    | tcp state =>
      rw [hsk] at hkind
      exact ⟨fun _ => hkind.1 (Or.inl ha),hkind.2.1,hkind.2.2⟩
    | shell waitAck =>
      rw [hsk] at hkind
      exact ⟨fun _ => hkind.1 (Or.inl ha),hkind.2⟩

/-- Reading stops for the lack of a packet. -/
theorem change_starve (d : Daemon ω) (a : ℕ) (svc : Service) (ha : svc.stream.active = true)
    (hs : Short d.log) : Change d a svc { svc with stream := svc.stream.starve } := by
  have hwf (hw : svc.Wf) := starve_wf ha hw
  unfold UvStream.starve at hwf ⊢
  split
  · exact Change.refl d a svc
  · rename_i hc
    rw [if_neg hc] at hwf
    exact ⟨rfl,rfl,hwf,fun _ => Or.inr hs,id,fun _ => rfl⟩

/-- Data was read from a stream, which waits for the OKAY from now on. -/
theorem change_read_stop (d : Daemon ω) (a : ℕ) (svc : Service) (kind : ServiceKind)
    (hk : svc.kind.Allows svc.stream → kind.Allows svc.stream.readStop) :
    Change d a svc { svc with kind := kind, stream := svc.stream.readStop } :=
  ⟨rfl,rfl,
    fun hw => ⟨⟨fun _ => rfl,fun hc => ⟨rfl,(hw.stream.closing hc).2⟩⟩,hk hw.kind,fun _ => rfl,
      hw.exiting⟩,
    Or.inl,id,fun _ => rfl⟩

/-! The services as their constructors return them. -/

theorem constructed_sync (raw : AfsService) :
    Constructed (newService (.sync (fileSyncService raw)) .idle) :=
  ⟨rfl,rfl,⟨⟨by simp [newService, UvStream.idle],by simp [newService, UvStream.idle]⟩,
    ⟨rfl,rfl,rfl,rfl⟩,by simp [newService],by simp [newService]⟩,rfl,by simp [newService],
    fun _ hk => ⟨raw,(ServiceKind.sync.inj hk).symm⟩⟩

theorem constructed_tcp :
    Constructed (newService (.tcp .notConnected) { UvStream.idle with connecting := true }) :=
  ⟨rfl,rfl,⟨⟨by simp [newService, UvStream.idle],by simp [newService, UvStream.idle]⟩,
    ⟨by simp [newService, UvStream.idle],by simp [newService, UvStream.idle],fun _ => rfl,
      by simp [newService, UvStream.idle]⟩,by simp [newService],by simp [newService]⟩,rfl,
    by simp [newService],by simp [newService]⟩

theorem constructed_shell : Constructed (shellKick (newService (.shell false) .idle) false) := by
  refine ⟨rfl,rfl,⟨⟨?_,?_⟩,⟨fun _ => rfl,rfl⟩,?_,?_⟩,rfl,?_,?_⟩ <;>
    simp [shellKick, newService, UvStream.idle, UvStream.readStart]

end MicroADB
