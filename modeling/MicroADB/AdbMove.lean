import MicroADB.AdbAside
import MicroADB.FileSyncRun

/-! The moves a callback is made of: the packet that it holds changes hands, one service changes,
one frame is handed to the transport. The state of a callback is the packet in hand, by its
address, and the daemon. -/
namespace MicroADB
open ByteMemory EventRun

variable {ω : Type} {cfg : Config} {fs : FileSystem ω} {uv : Uv ω} {d d' : Daemon ω}

/-- The events that change neither a packet nor a service. -/
def Event.idle : Event → Bool
  | .refused | .outOfMemory | .received _ | .handed .. | .handleLost | .reboot _ | .onKick _
  | .serviceClose _ false | .notFound _ => true
  | _ => false

/-- A step that touches no packet and no service. -/
structure Unmoved (d d' : Daemon ω) : Prop where
  services : d'.services = d.services
  heap : d'.heap = d.heap
  nextServiceId : d'.nextServiceId = d.nextServiceId
  fresh : d'.fresh = d.fresh
  live : d'.live = d.live
  gone : d'.gone = d.gone
  writes : d'.socket.writes = d.socket.writes
  closing : d'.socket.closing = d.socket.closing
  curPacket : d'.curPacket.map RawPacket.addr = d.curPacket.map RawPacket.addr
  crashed : d.crashed = true → d'.crashed = true
  log : ∃ es, d'.log = d.log ++ es ∧ ∀ e ∈ es, e.idle = true

/-- What a callback changes of a service without an event. -/
inductive Shift (svc : Service) : Service → Prop
  | adopt (peerId : ℕ) (h : svc.peerId = 0) : Shift svc { svc with peerId := peerId }
  | start (h : svc.kind = .tcp .connected) : Shift svc (adbHalSocketStart svc)
  | kick (waitAck : Bool) (h : svc.kind = .shell waitAck) : Shift svc (shellKick svc waitAck)
  | starve (h : svc.stream.active = true) : Shift svc { svc with stream := svc.stream.starve }
  | stop (h : svc.kind = .tcp .connected) : Shift svc { svc with stream := svc.stream.readStop }
  | notify (h : svc.kind = .tcp .notConnected) : Shift svc
      { svc with
        kind := .tcp .notifyClient, stream := { svc.stream with connecting := false } }
  | fail (h : svc.kind = .tcp .notConnected) : Shift svc
      { svc with
        kind := .tcp .errorClose, id := 0, stream := { svc.stream with connecting := false } }
  | exit (hcl : svc.stream.closing = true) (hq : svc.stream.Quiet) :
    Shift svc { svc with exiting := true }

/-- What on_ack makes of a service without a reply of its own. -/
def Service.acked (svc : Service) : Service :=
  match svc.kind with
  | .sync _ => svc
  | .tcp .waitAck => adbHalSocketStart { svc with kind := .tcp .connected }
  | .tcp _ => svc
  | .shell _ => shellKick { svc with kind := .shell false } false

/-- The services that keep packets of the host: a shell, and a tcp service that is connected. -/
def ServiceKind.Takes : ServiceKind → Prop
  | .sync _ => False
  | .tcp state => StreamState.connected.index ≤ state.index
  | .shell _ => True

def ServiceKind.IsSync : ServiceKind → Prop
  | .sync _ => True
  | _ => False

/-- A frame of the stream of a service. -/
structure FrameOf (command : ℕ) (svc : Service) (up : ApacketUv) : Prop where
  command : up.p.msg.command = command
  arg0 : up.p.msg.arg0 = svc.id
  arg1 : up.p.msg.arg1 = svc.peerId

/-- What waits for the OKAY of the host behind the data that was read. -/
inductive Filled (svc : Service) : Service → Prop
  | tcp (h : svc.kind = .tcp .connected) :
    Filled svc { svc with kind := .tcp .waitAck, stream := svc.stream.readStop }
  | shell (h : svc.kind = .shell false) :
    Filled svc { svc with kind := .shell true, stream := svc.stream.readStop }

/-- The packet that adb_service_close is given for its CLSE leaves the hand. -/
def GivenUp (up : Option ApacketUv) (h h' : Option ℕ) : Prop :=
  match up with
  | none => h' = h
  | some up => h = some up.addr ∧ h' = none

/-- The moves of adb_process_packet and of the kicks. -/
inductive Move (cfg : Config) (fs : FileSystem ω) (uv : Uv ω) :
    Option ℕ × Daemon ω → Option ℕ × Daemon ω → Prop
  | unmoved {h : Option ℕ} {d d' : Daemon ω} (hu : Unmoved d d') : Move cfg fs uv (h,d) (h,d')
  | crash {h : Option ℕ} {d : Daemon ω} (es : List Event)
    (hes : (∃ f, f ≠ .assertion ∧ f ≠ .badRelease ∧ es = [.fault f]) ∨
      ∃ a, es = [.serviceClose a true,.fault .useAfterFree]) :
    Move cfg fs uv (h,d) (none,{ d with log := d.log ++ es, crashed := true })
  | badRelease {d : Daemon ω} (b : ℕ) (hb : b ∉ d.live) :
    Move cfg fs uv (some b,d) (none,d.fault .badRelease)
  | halt {h : Option ℕ} {d : Daemon ω} (hc : d.crashed = true) : Move cfg fs uv (h,d) (none,d)
  | close {h : Option ℕ} {d : Daemon ω} (why : CloseReason) :
    Move cfg fs uv (h,d) (h,opsClose d why)
  | alloc {d : Daemon ω} (cap : ℕ) (init : ℕ × Mem) :
    Move cfg fs uv (none,d) (some d.fresh,(newPacket d cap init).2)
  | release {d : Daemon ω} (b : ℕ) (n : ℤ) :
    Move cfg fs uv (some b,d) (none,setFrameCount (freePacket d b) n)
  | send {d : Daemon ω} (up : ApacketUv) (hokay : up.p.msg.command ≠ aOkay)
    (hwrte : up.p.msg.command ≠ aWrte) (hw : up.p.writeLen = 0) :
    Move cfg fs uv (some up.addr,d) (none,sendFrame uv d up)
  | shift {h : Option ℕ} {d : Daemon ω} {a : ℕ} {svc svc' : Service} (ha : d.alive a = some svc)
    (hs : Shift svc svc') : Move cfg fs uv (h,d) (h,d.setService a svc')
  | register {h : Option ℕ} {d : Daemon ω} {svc : Service} (peerId : ℕ) (params : ServiceParams)
    (hc : Constructed svc) (hid : d.nextServiceId ≠ 0) (hp : peerId ≠ 0)
    (hk : svc.kind.IsSync ∨ svc.kind = .tcp .notConnected ∨ svc.kind = .shell false) :
    Move cfg fs uv (h,d) (h,(registerService d svc peerId params).2)
  | writes {h : Option ℕ} {d : Daemon ω} {a : ℕ} (hreg : a ∈ d.services) :
    Move cfg fs uv (h,d) (h,d.emit (.onWrite a))
  | written {h : Option ℕ} {d : Daemon ω} {a : ℕ} {svc : Service} {s : AfsService}
    (hreg : a ∈ d.services) (ha : d.alive a = some svc) (hk : svc.kind = .sync s)
    (c : SyncCtx ω) (hcall : SyncCall cfg fs s c) :
    Move cfg fs uv (h,d) (h,syncDone (d.emit (.onWrite a)) a svc c)
  | kept {d : Daemon ω} {a : ℕ} {svc : Service} (up : ApacketUv) (os : ω)
    (ha : d.alive a = some svc) (hk : svc.kind.Takes) (hcl : svc.stream.closing = false) :
    Move cfg fs uv (some up.addr,d)
      (none,((d.setOs os).emit (.kept a up.addr)).setService a
        { svc with stream := svc.stream.push up })
  | acked {h : Option ℕ} {d : Daemon ω} {a : ℕ} {svc : Service} (hreg : a ∈ d.services)
    (ha : d.alive a = some svc) (hk : ¬svc.kind.IsSync) :
    Move cfg fs uv (h,d) (h,(d.emit (.onAck a)).setService a svc.acked)
  | ackedSync {h : Option ℕ} {d : Daemon ω} {a : ℕ} {svc : Service} {s : AfsService}
    (hreg : a ∈ d.services) (ha : d.alive a = some svc) (hk : svc.kind = .sync s)
    (c : SyncCtx ω) (hcall : SyncCall cfg fs s c) :
    Move cfg fs uv (h,d) (h,syncDone (d.emit (.onAck a)) a svc c)
  | okay {d : Daemon ω} {a : ℕ} {svc : Service} (up : ApacketUv) (ha : d.alive a = some svc)
    (hf : FrameOf aOkay svc up) (hw : up.p.writeLen = 0)
    (hk : svc.kind.IsSync ∨ ∃ waitAck, svc.kind = .shell waitAck) :
    Move cfg fs uv (some up.addr,d) (none,sendFrame uv d up)
  | connect {d : Daemon ω} {a : ℕ} {svc : Service} (up : ApacketUv) (ha : d.alive a = some svc)
    (hk : svc.kind = .tcp .notifyClient) (hf : FrameOf aOkay svc up) (hw : up.p.writeLen = 0) :
    Move cfg fs uv (some up.addr,d)
      (none,sendFrame uv
        (d.setService a (adbHalSocketStart { svc with kind := .tcp .connected })) up)
  | closed {h h' : Option ℕ} {d : Daemon ω} {a : ℕ} {svc : Service} (up : Option ApacketUv)
    (hh : GivenUp up h h') (hreg : a ∈ d.services) (ha : d.alive a = some svc)
    (hcl : svc.stream.closing = false) (hg : d.gone = false) (hc : d.crashed = false) :
    Move cfg fs uv (h,d) (h',adbServiceClose fs uv d a up)

/-- A sync service is done with a request, and the OKAY takes its replies along. -/
inductive Answering (uv : Uv ω) (a : ℕ) : Option ℕ × Daemon ω → Option ℕ × Daemon ω → Prop
  | replied {d : Daemon ω} {svc : Service} (up : ApacketUv) (ha : d.alive a = some svc)
    (hk : svc.kind.IsSync) (hf : FrameOf aOkay svc up) (hw : 0 < up.p.writeLen) :
    Answering uv a (some up.addr,d) (none,sendFrame uv d up)

/-- A sync service goes on with its replies in the packet of an OKAY. -/
inductive Continued (cfg : Config) (fs : FileSystem ω) (uv : Uv ω) (a : ℕ) :
    Option ℕ × Daemon ω → Option ℕ × Daemon ω → Prop
  | continued {d : Daemon ω} {svc : Service} {s : AfsService} (c : SyncCtx ω) (up : ApacketUv)
    (hreg : a ∈ d.services) (ha : d.alive a = some svc) (hk : svc.kind = .sync s)
    (hf : FrameOf aWrte svc up) (hw : up.p.writeLen = 0) (hcall : SyncCall cfg fs s c) :
    Continued cfg fs uv a (some up.addr,d) (none,sendFrame uv (syncDone (d.emit (.onAck a)) a svc c) up)

/-- The chains of moves. -/
def Moves (cfg : Config) (fs : FileSystem ω) (uv : Uv ω) :
    Option ℕ × Daemon ω → Option ℕ × Daemon ω → Prop :=
  Relation.ReflTransGen (Move cfg fs uv)

/-! What a move keeps of the program and of the table. -/

theorem Unmoved.refl (d : Daemon ω) : Unmoved d d :=
  ⟨rfl,rfl,rfl,rfl,rfl,rfl,rfl,rfl,rfl,id,[],(List.append_nil _).symm,by simp⟩

theorem ops_close_crashed (d : Daemon ω) (why : CloseReason) (hc : d.crashed = true) :
    (opsClose d why).crashed = true := by
  unfold opsClose
  split
  · rfl
  · exact hc

theorem send_frame_crashed (uv : Uv ω) (d : Daemon ω) (up : ApacketUv) (hc : d.crashed = true) :
    (sendFrame uv d up).crashed = true := (quietly_send_frame uv d up).crashed hc

theorem Move.crashed {x y : Option ℕ × Daemon ω} (h : Move cfg fs uv x y)
    (hc : x.2.crashed = true) : y.2.crashed = true := by
  cases h with
  | unmoved hu => exact hu.crashed hc
  | crash es _ => rfl
  | badRelease b _ => rfl
  | close why => exact ops_close_crashed _ why hc
  | send up _ _ _ => exact send_frame_crashed uv _ up hc
  | okay up _ _ _ _ => exact send_frame_crashed uv _ up hc
  | connect up _ _ _ _ => exact send_frame_crashed uv _ up hc
  | closed up _ _ _ _ _ _ => exact (aside_service_close (c := False) fs uv _ _ up).crashed hc
  | _ => exact hc

/-- A change that leaves the handle as it was, and what the code keeps of a service. -/
structure Kept (svc svc' : Service) : Prop where
  closing : svc'.stream.closing = svc.stream.closing
  freed : svc'.freed = svc.freed
  wf : svc.Wf → svc'.Wf

theorem Change.kept {a : ℕ} {svc svc' : Service} (h : Change d a svc svc') : Kept svc svc' :=
  ⟨h.closing,h.freed,h.wf⟩

theorem socket_start_kept (d : Daemon ω) {svc : Service} {state : StreamState}
    (hk : svc.kind = .tcp state) (hs : StreamState.notConnected.index < state.index)
    (hf : svc.freed = false) :
    Kept svc (adbHalSocketStart { svc with kind := .tcp .connected }) :=
  (change_socket_start d 0 svc state hk hs hf).kept

/-- The connection of a tcp service was made or failed. -/
theorem connected_kept {svc : Service} (hk : svc.kind = .tcp .notConnected) (state : StreamState)
    (id : ℕ) : Kept svc
      { svc with
        kind := .tcp state, id := id, stream := { svc.stream with connecting := false } } := by
  refine ⟨rfl,rfl,fun hw => ⟨⟨hw.stream.starved,hw.stream.closing⟩,?_,hw.freed,
    fun he => ⟨(hw.exiting he).1,(hw.exiting he).2.1,rfl⟩⟩⟩
  have hwk := hw.kind
  rw [hk] at hwk
  refine ⟨fun hr => ?_,fun hwr => ?_,by simp,fun hcl => ?_⟩
  · have hr := hwk.1 hr
    cases hr
  · exact absurd (hwk.2.1 hwr) (by decide)
  · exact absurd (hwk.2.2.2 hcl) (by decide)

theorem Shift.kept (d : Daemon ω) {svc svc' : Service} (h : Shift svc svc')
    (hf : svc.freed = false) : Kept svc svc' := by
  cases h with
  | adopt peerId _ => exact ⟨rfl,rfl,fun hw => ⟨hw.stream,hw.kind,hw.freed,hw.exiting⟩⟩
  | start hk =>
    have hkept := socket_start_kept d hk (by decide) hf
    rw [← hk] at hkept
    exact hkept
  | kick waitAck hk =>
    cases waitAck with
    | true => exact ⟨rfl,rfl,id⟩
    | false =>
      have hkept := (change_shell_kick d 0 svc _ hk hf).kept
      rw [← hk] at hkept
      exact hkept
  | starve ha =>
    refine ⟨?_,rfl,starve_wf ha⟩
    change svc.stream.starve.closing = _
    unfold UvStream.starve
    split <;> rfl
  | stop hk =>
    refine (change_read_stop d 0 svc svc.kind (fun hw => ?_)).kept
    rw [hk] at hw ⊢
    exact ⟨fun _ => rfl,hw.2⟩
  | notify hk => exact connected_kept hk .notifyClient svc.id
  | fail hk => exact connected_kept hk .errorClose 0
  | exit hcl hq => exact ⟨rfl,rfl,fun hw => ⟨hw.stream,hw.kind,hw.freed,fun _ => ⟨hcl,hq⟩⟩⟩

theorem acked_kept (d : Daemon ω) {svc : Service} (hf : svc.freed = false) :
    Kept svc svc.acked := by
  unfold Service.acked
  split
  · exact ⟨rfl,rfl,id⟩
  · rename_i hk
    exact socket_start_kept d hk (by decide) hf
  · exact ⟨rfl,rfl,id⟩
  · rename_i waitAck hk
    exact (change_shell_kick d 0 svc waitAck hk hf).kept

theorem push_kept {svc : Service} (up : ApacketUv) (hk : svc.kind.Takes)
    (hcl : svc.stream.closing = false) : Kept svc { svc with stream := svc.stream.push up } := by
  refine ⟨rfl,rfl,fun hw => push_wf up hw hcl (fun hallows => ?_)⟩
  cases hkind : svc.kind with
  | sync s =>
    rw [hkind] at hk
    exact hk.elim
  | tcp state =>
    rw [hkind] at hk hallows
    exact ⟨hallows.1,fun _ => hk,hallows.2.2⟩
  | shell waitAck =>
    rw [hkind] at hallows
    exact hallows

theorem Table.kept (h : Table d) {a : ℕ} {svc svc' : Service} (ha : d.alive a = some svc)
    (hk : Kept svc svc') : Table (d.setService a svc') :=
  h.set_service ha hk.closing hk.freed (hk.wf (h.wf a svc ((alive_iff _ _ _).mp ha).1))

theorem Table.sync_done (h : Table d) {a : ℕ} {svc : Service} {s : AfsService}
    (ha : d.alive a = some svc) (hk : svc.kind = .sync s) (c : SyncCtx ω) :
    Table (syncDone d a svc c) := by
  have hkept : Kept svc { svc with kind := .sync c.svc } := by
    refine ⟨rfl,rfl,fun hw => ⟨hw.stream,?_,hw.freed,hw.exiting⟩⟩
    have hkind := hw.kind
    rw [hk] at hkind
    exact hkind
  have hset : Table (d.setService a { svc with kind := .sync c.svc }) := h.kept ha hkept
  exact hset.of_same rfl rfl le_rfl

theorem Table.send_frame (h : Table d) (uv : Uv ω) (up : ApacketUv) :
    Table (sendFrame uv d up) := by
  have hq := quietly_send_frame uv d up
  exact h.of_same hq.services hq.heap hq.fresh.ge

theorem Table.ops_close (h : Table d) (why : CloseReason) : Table (opsClose d why) := by
  unfold opsClose
  split <;> exact h.of_same rfl rfl le_rfl

theorem Move.table {x y : Option ℕ × Daemon ω} (h : Move cfg fs uv x y)
    (ht : x.2.crashed = false → Table x.2) (hc : y.2.crashed = false) : Table y.2 := by
  have hc' : x.2.crashed = false := by
    by_contra hcr
    rw [h.crashed (by simpa using hcr)] at hc
    cases hc
  have htable := ht hc'
  have hfreed {d : Daemon ω} {a : ℕ} {svc : Service} (ha : d.alive a = some svc) :
      svc.freed = false := ((alive_iff _ _ _).mp ha).2
  cases h with
  | unmoved hu => exact htable.of_same hu.services hu.heap hu.fresh.ge
  | crash es _ => exact htable.of_same rfl rfl le_rfl
  | badRelease b _ => exact htable.of_same rfl rfl le_rfl
  | halt _ => exact htable
  | close why => exact htable.ops_close why
  | alloc cap init => exact htable.of_same rfl rfl (Nat.le_succ _)
  | release b n => exact htable.of_same rfl rfl le_rfl
  | send up _ _ _ => exact htable.send_frame uv up
  | @shift h d a svc svc' ha hs => exact htable.kept ha (hs.kept d (hfreed ha))
  | register peerId params hcon _ _ _ => exact htable.register peerId params hcon
  | writes _ => exact htable.of_same rfl rfl le_rfl
  | @written h d a svc s _ ha hk c =>
    have hemit : Table (d.emit (.onWrite a)) := htable.of_same rfl rfl le_rfl
    exact hemit.sync_done ha hk c
  | @kept d a svc up os ha hk hcl =>
    have hemit : Table ((d.setOs os).emit (.kept a up.addr)) := htable.of_same rfl rfl le_rfl
    exact hemit.kept ha (push_kept up hk hcl)
  | @acked h d a svc _ ha _ =>
    have hemit : Table (d.emit (.onAck a)) := htable.of_same rfl rfl le_rfl
    exact hemit.kept ha (acked_kept d (hfreed ha))
  | @ackedSync h d a svc s _ ha hk c =>
    have hemit : Table (d.emit (.onAck a)) := htable.of_same rfl rfl le_rfl
    exact hemit.sync_done ha hk c
  | okay up _ _ _ _ => exact htable.send_frame uv up
  | @connect d a svc up ha hk _ _ =>
    exact (htable.kept ha (socket_start_kept d hk (by decide) (hfreed ha))).send_frame uv up
  | closed up _ _ _ _ _ _ => exact htable.close _ up hc

theorem Moves.table {x y : Option ℕ × Daemon ω} (h : Moves cfg fs uv x y)
    (ht : x.2.crashed = false → Table x.2) (hc : y.2.crashed = false) : Table y.2 := by
  induction h with
  | refl => exact ht hc
  | tail _ hm ih => exact hm.table ih hc

end MicroADB
