import MicroADB.AdbMoveFrames

/-! Every callback is a chain of moves. -/
namespace MicroADB
open ByteMemory EventRun

variable {ω : Type} {cfg : Config} {fs : FileSystem ω} {uv : Uv ω} {d d' : Daemon ω}
  {h : Option ℕ}

/-- The moves of the callbacks: a packet comes back from libuv, is received or lost, a WRTE follows
its OKAY, and what has been closed is freed. -/
inductive StepMove (cfg : Config) (fs : FileSystem ω) (uv : Uv ω) :
    Option ℕ × Daemon ω → Option ℕ × Daemon ω → Prop
  | move {x y : Option ℕ × Daemon ω} (hm : Move cfg fs uv x y) : StepMove cfg fs uv x y
  | pop {d : Daemon ω} {up : ApacketUv} {rest : List ApacketUv}
    (hw : d.socket.writes = up :: rest) :
    StepMove cfg fs uv (none,d) (some up.addr,d.setSocket { d.socket with writes := rest })
  | reply {d : Daemon ω} {up : ApacketUv} {rest : List ApacketUv}
    (hw : d.socket.writes = up :: rest) (hpos : 0 < up.p.writeLen) :
    StepMove cfg fs uv (none,d)
      (none,adbSendDataFrame uv (d.setSocket { d.socket with writes := rest }) up)
  | popStream {d : Daemon ω} {a : ℕ} {svc : Service} {up : ApacketUv} {rest : List ApacketUv}
    (ha : d.alive a = some svc) (hw : svc.stream.writes = up :: rest) :
    StepMove cfg fs uv (none,d)
      (some up.addr,d.setService a { svc with stream := { svc.stream with writes := rest } })
  | handed {d : Daemon ω} {ap : RawPacket} (hcur : d.curPacket = some ap) :
    StepMove cfg fs uv (none,d) (some ap.addr,{ d with curPacket := none })
  | keep {d : Daemon ω} (ap : RawPacket) (hcur : d.curPacket = none) :
    StepMove cfg fs uv (some ap.addr,d) (none,{ d with curPacket := some ap, curLen := 0 })
  | releaseCur {d : Daemon ω} {ap : RawPacket} (hcur : d.curPacket = some ap) (n : ℤ) :
    StepMove cfg fs uv (none,d) (none,setFrameCount (freePacket d ap.addr) n)
  | badCur {d : Daemon ω} {ap : RawPacket} (hcur : d.curPacket = some ap) (hb : ap.addr ∉ d.live) :
    StepMove cfg fs uv (none,d) (none,d.fault .badRelease)
  | dropCur {d : Daemon ω} : StepMove cfg fs uv (none,d) (none,{ d with curPacket := none })
  | dropped {d : Daemon ω} (b : ℕ) : StepMove cfg fs uv (some b,d) (none,d)
  | free {d : Daemon ω} {a : ℕ} {svc : Service} (ha : d.alive a = some svc)
    (hcl : svc.stream.closing = true) (hq : svc.stream.Quiet) :
    StepMove cfg fs uv (none,d) (none,freeService d a svc)
  | gone {d : Daemon ω} (hs : d.services = []) :
    StepMove cfg fs uv (none,d) (none,{ d with gone := true }.emit .clientFreed)

def StepMoves (cfg : Config) (fs : FileSystem ω) (uv : Uv ω) :
    Option ℕ × Daemon ω → Option ℕ × Daemon ω → Prop :=
  Relation.ReflTransGen (StepMove cfg fs uv)

/-- The bytes that were read from the stream of a service are sent to the host. -/
inductive Fed (uv : Uv ω) (a : ℕ) (bs : List UInt8) :
    Option ℕ × Daemon ω → Option ℕ × Daemon ω → Prop
  | fed {d : Daemon ω} {svc svc' : Service} (up : ApacketUv) (ha : d.alive a = some svc)
    (hf : Filled svc svc') (hst : svc.stream.starved = false) (hframe : FrameOf aWrte svc up)
    (hp : up.p.payload = bs) (hne : bs ≠ []) (hw : up.p.writeLen = 0) :
    Fed uv a bs (some up.addr,d) (none,sendFrame uv (d.setService a svc') up)

/-- The packet of a WRTE that a stream has written goes back with its OKAY. -/
inductive Returned (uv : Uv ω) (a : ℕ) : Daemon ω → Daemon ω → Prop
  | returned {d : Daemon ω} {svc : Service} {up : ApacketUv} {rest : List ApacketUv}
    (ha : d.alive a = some svc) (hw : svc.stream.writes = up :: rest) (hk : svc.kind.Takes) :
    Returned uv a d (adbSendOkayFrame uv
      (d.setService a { svc with stream := { svc.stream with writes := rest } }) up svc.id
      svc.peerId)

/-- The service whose stream has written a packet of the host. -/
def streamReturns (d : Daemon ω) : Input → Option ℕ
  | .streamWritten a fail =>
    if d.crashed = false ∧ ((d.alive a).any fun svc =>
        !svc.stream.writes.isEmpty && !fail) = true then some a
    else none
  | _ => none

/-- The bytes that a callback reads from the stream of a service: those for which there is a
packet. -/
def streamBytes (cfg : Config) (uv : Uv ω) (d : Daemon ω) : Input → Option (ℕ × List UInt8)
  | .streamRead a (.data bs) =>
    if d.crashed = false ∧ ((d.alive a).any fun svc => svc.stream.active) = true ∧
        (adbHalApacketAllocate cfg uv d).1.isSome = true ∧ bs.take cfg.payloadSize ≠ [] then
      some (a, bs.take cfg.payloadSize)
    else none
  | _ => none

/-- The service that answers the frame of a read with data. -/
def streamReplies (cfg : Config) (fs : FileSystem ω) (uv : Uv ω) (d : Daemon ω) : Input → Option ℕ
  | .transportRead r =>
    if d.crashed = false ∧ d.socket.active = true then
      let n := receive cfg fs uv d r
      if n.2.crashed then none else n.1.bind (frameReplies cfg fs uv n.2)
    else none
  | _ => none

/-! Chains. -/

theorem Moves.steps {x y : Option ℕ × Daemon ω} (hm : Moves cfg fs uv x y) :
    StepMoves cfg fs uv x y := by
  induction hm with
  | refl => exact Relation.ReflTransGen.refl
  | tail _ hm ih => exact ih.tail (.move hm)

theorem StepMove.steps {x y : Option ℕ × Daemon ω} (hm : StepMove cfg fs uv x y) :
    StepMoves cfg fs uv x y := Relation.ReflTransGen.single hm

theorem StepMoves.refl (x : Option ℕ × Daemon ω) : StepMoves cfg fs uv x x :=
  Relation.ReflTransGen.refl

theorem StepMoves.trans {x y z : Option ℕ × Daemon ω} (hm : StepMoves cfg fs uv x y)
    (hm' : StepMoves cfg fs uv y z) : StepMoves cfg fs uv x z :=
  Relation.ReflTransGen.trans hm hm'

theorem StepMoves.next {x : Option ℕ × Daemon ω} {f : Daemon ω → Daemon ω}
    (hm : StepMoves cfg fs uv x (h,d))
    (hf : d.crashed = false → StepMoves cfg fs uv (h,d) (none,f d)) :
    StepMoves cfg fs uv x (none,d.next f) := by
  unfold Daemon.next
  split
  · rename_i hc
    exact hm.trans (Move.halt hc).moves.steps
  · rename_i hc
    exact hm.trans (hf (by simpa using hc))

theorem StepMove.crashed {x y : Option ℕ × Daemon ω} (hm : StepMove cfg fs uv x y)
    (hc : x.2.crashed = true) : y.2.crashed = true := by
  cases hm with
  | move hm => exact hm.crashed hc
  | reply _ _ => exact send_frame_crashed uv _ _ hc
  | badCur _ _ => rfl
  | _ => exact hc

theorem StepMove.table {x y : Option ℕ × Daemon ω} (hm : StepMove cfg fs uv x y)
    (ht : x.2.crashed = false → Table x.2) (hc : y.2.crashed = false) : Table y.2 := by
  have hc' : x.2.crashed = false := by
    by_contra hcr
    rw [hm.crashed (by simpa using hcr)] at hc
    cases hc
  have htable := ht hc'
  cases hm with
  | move hm => exact hm.table ht hc
  | pop _ => exact htable.of_same rfl rfl le_rfl
  | @reply d up rest _ _ =>
    have hpop : Table (d.setSocket { d.socket with writes := rest }) :=
      htable.of_same rfl rfl le_rfl
    exact hpop.send_frame uv _
  | @popStream d a svc up rest ha hw => exact htable.kept ha (change_pop d a svc up rest hw).kept
  | handed _ => exact htable.of_same rfl rfl le_rfl
  | keep ap _ => exact htable.of_same rfl rfl le_rfl
  | releaseCur _ n => exact htable.of_same rfl rfl le_rfl
  | badCur _ _ => exact htable.of_same rfl rfl le_rfl
  | dropCur => exact htable.of_same rfl rfl le_rfl
  | dropped b => exact htable
  | free ha hcl _ => exact htable.free ha hcl
  | gone _ => exact htable.of_same rfl rfl le_rfl

theorem StepMoves.table {x y : Option ℕ × Daemon ω} (hm : StepMoves cfg fs uv x y)
    (ht : x.2.crashed = false → Table x.2) (hc : y.2.crashed = false) : Table y.2 := by
  induction hm with
  | refl => exact ht hc
  | tail _ hm ih => exact hm.table ih hc

/-! Reads of the transport. -/

theorem allocate_cur_packet (cfg : Config) (uv : Uv ω) (d : Daemon ω) (b : Bool) :
    (adbUvPacketAllocate cfg uv d b).2.curPacket = d.curPacket := by
  unfold adbUvPacketAllocate
  split
  · rfl
  · dsimp only
    split
    · exact (quietly_ops_close _ _ rfl).curPacket
    · rfl

theorem moves_allocate_frame (cfg : Config) (fs : FileSystem ω) (uv : Uv ω) (d : Daemon ω) :
    StepMoves cfg fs uv (none,d) (none,(adbUvAllocateFrame cfg uv d).2) ∧
      ((adbUvAllocateFrame cfg uv d).1 ≠ 0 →
        (adbUvAllocateFrame cfg uv d).2.curPacket ≠ none) := by
  unfold adbUvAllocateFrame
  split
  · rename_i ap hcur
    have hne : d.curPacket ≠ none := by
      rw [hcur]
      exact nofun
    split <;> exact ⟨StepMoves.refl _,fun _ => hne⟩
  · rename_i hcur
    have halloc := (moves_allocate cfg fs uv d (!d.isConnected)).steps
    dsimp only
    split
    · rename_i hnone
      rw [hnone] at halloc
      exact ⟨halloc,fun hz => absurd rfl hz⟩
    · rename_i ap hsome
      rw [hsome] at halloc
      have hcur' := (allocate_cur_packet cfg uv d (!d.isConnected)).trans hcur
      exact ⟨halloc.trans (StepMove.keep ap hcur').steps,fun _ => nofun⟩

theorem moves_receive_bytes (ap : RawPacket) (bs : List UInt8) (hcur : d.curPacket = some ap) :
    StepMoves cfg fs uv (none,d)
      ((receiveBytes cfg d ap bs).1.map ApacketUv.addr,(receiveBytes cfg d ap bs).2) := by
  let e : Daemon ω :=
    { d with curPacket := some { ap with raw := store ap.raw d.curLen bs } }.emit (.received bs)
  have hreceived : StepMoves cfg fs uv (none,d) (none,e) := by
    refine (Move.unmoved ?_).moves.steps
    exact { Unmoved.refl d with
      curPacket := by
        change some ap.addr = _
        rw [hcur]
        rfl
      log := ⟨[.received bs],rfl,fun _ hm => List.mem_singleton.mp hm ▸ rfl⟩ }
  have hunmoved : Unmoved e { e with curLen := d.curLen+bs.length } := { Unmoved.refl e with }
  have hcounted : Move cfg fs uv (none,e) _ := Move.unmoved hunmoved
  have hlen := hreceived.trans hcounted.moves.steps
  have hhand : StepMove cfg fs uv (none,{ e with curLen := d.curLen+bs.length }) _ :=
    StepMove.handed rfl
  have hhanded := hlen.trans hhand.steps
  unfold receiveBytes
  dsimp only
  split
  · exact hreceived.trans (Move.close _).moves.steps
  · split
    · exact hlen
    · split
      · exact hlen.trans (Move.close _).moves.steps
      · exact hhanded

/-- The packet of a frame that has not been received. -/
theorem moves_release_cur (cfg : Config) (fs : FileSystem ω) (uv : Uv ω)
    (ht : d.crashed = false → Table d) (hc : d.crashed = false)
    {ap : RawPacket} (hcur : d.curPacket = some ap) :
    StepMoves cfg fs uv (none,d) (none,adbHalApacketRelease cfg fs uv d ap.addr) := by
  have hfree (n : ℤ) :
      StepMoves cfg fs uv (none,d) (none,setFrameCount (freePacket d ap.addr) n) :=
    (StepMove.releaseCur hcur n).steps
  rcases release_cases cfg fs uv d ap.addr with ⟨hb,hr⟩ | hr | ⟨n,hr⟩ | ⟨n,hr⟩ <;> rw [hr]
  · exact (StepMove.badCur hcur hb).steps
  · exact (moves_fault d .frameCount (by decide)).steps
  · exact (hfree n).trans (moves_tcp_uv_kick (fun hc' => (hfree n).table ht hc') hc).steps
  · exact hfree n

theorem moves_release_unused (ht : d.crashed = false → Table d) (hc : d.crashed = false)
    (ap : RawPacket) (hcur : d.curPacket = some ap) :
    StepMoves cfg fs uv (none,d) (none,releaseUnused cfg fs uv d ap) := by
  unfold releaseUnused
  split
  · exact (moves_release_cur _ _ _ ht hc hcur).next (fun _ => StepMove.dropCur.steps)
  · exact StepMoves.refl _

theorem moves_receive (cfg : Config) (fs : FileSystem ω) (uv : Uv ω) (d : Daemon ω)
    (r : ReadResult) (ht : d.crashed = false → Table d) :
    StepMoves cfg fs uv (none,d)
      ((receive cfg fs uv d r).1.map ApacketUv.addr,(receive cfg fs uv d r).2) := by
  obtain ⟨hframe,hcur⟩ := moves_allocate_frame cfg fs uv d
  unfold receive
  dsimp only
  split
  · exact hframe
  · rename_i hc
    split
    · refine hframe.trans (moves_socket _ _ ?_ ?_).steps
      · split
        · unfold UvStream.starve
          split <;> rfl
        · rfl
      · split
        · unfold UvStream.starve
          split <;> rfl
        · rfl
    · rename_i hne
      have hcur := hcur hne
      refine hframe.trans ?_
      unfold adbUvOnDataAvailable
      split
      · rename_i ap bs hap
        split
        · exact moves_release_unused (hframe.table ht) (by simpa using hc) ap hap
        · exact moves_receive_bytes ap _ hap
      · rename_i hnone
        exact absurd hnone hcur
      · exact (Move.close _).moves.steps

/-! Writes and the end of the transport. -/

theorem moves_after_write {up : ApacketUv} {rest : List ApacketUv}
    (hw : d.socket.writes = up :: rest) (ht : d.crashed = false → Table d)
    (hc : d.crashed = false) (fail : Bool) :
    StepMoves cfg fs uv (none,d) (none,adbUvAfterWrite cfg fs uv
      (d.setSocket { d.socket with writes := rest }) up fail) := by
  have hpop : StepMoves cfg fs uv (none,d)
      (some up.addr,d.setSocket { d.socket with writes := rest }) := (StepMove.pop hw).steps
  have hrelease := hpop.trans (moves_release _ _ _ (hpop.table ht) hc up.addr).steps
  unfold adbUvAfterWrite
  split
  · exact hrelease.next (fun _ => (Move.close _).moves.steps)
  · split
    · rename_i hpos
      exact (StepMove.reply hw hpos).steps
    · exact hrelease

theorem moves_destroy_loop (l : List ℕ) (ht : d.crashed = false → Table d)
    (hc : d.crashed = false) (hl : d.services = l) :
    StepMoves cfg fs uv (none,d) (none,destroyLoop fs uv l d) := by
  induction l generalizing d with
  | nil => exact (StepMove.gone hl).steps
  | cons a rest ih =>
    have htable := ht hc
    have hreg : a ∈ d.services := hl ▸ List.mem_cons_self
    have hclose : Moves cfg fs uv (none,d) (none,adbServiceClose fs uv d a none) := by
      rcases moves_service_close _ _ _ htable hc hreg none rfl with hm | ⟨hm,-⟩ <;> exact hm
    exact hclose.steps.next (fun hc' =>
      ih (hclose.table ht) hc' (service_close_first htable none hl hc'))

theorem moves_close_client (ht : d.crashed = false → Table d) (hc : d.crashed = false) :
    StepMoves cfg fs uv (none,d) (none,adbUvCloseClient cfg fs uv d) := by
  unfold adbUvCloseClient adbDestroyClient
  split
  · rename_i ap hcur
    have hrelease := moves_release_cur cfg fs uv ht hc hcur
    refine hrelease.next (fun hc' => ?_)
    refine StepMove.dropCur.steps.trans (moves_destroy_loop _ ?_ hc' rfl)
    exact fun hc'' => (hrelease.table ht hc'').of_same rfl rfl le_rfl
  · exact moves_destroy_loop _ ht hc rfl

/-! The streams of the services. -/

/-- adb_service_close with a packet, for a service in the list or not. -/
theorem moves_close_any (ht : d.crashed = false → Table d) (hc : d.crashed = false) (a : ℕ)
    (up : ApacketUv) :
    StepMoves cfg fs uv (some up.addr,d) (none,adbServiceClose fs uv d a (some up)) := by
  by_cases hreg : a ∈ d.services
  · exact (moves_close_with (ht hc) hc hreg up).steps
  · have hcrash (f : Fault) (hf : f ≠ .assertion ∧ f ≠ .badRelease) :
        StepMoves cfg fs uv (some up.addr,d) (none,(d.emit (.serviceClose a false)).fault f) :=
      ((moves_emit d (.serviceClose a false) rfl).trans (moves_fault _ f hf)).steps
    unfold adbServiceClose
    rw [decide_eq_false hreg]
    dsimp only
    split
    · exact hcrash _ (by decide)
    · split
      · exact hcrash _ (by decide)
      · rw [if_neg (show a ∉ (d.emit (.serviceClose a false)).services from hreg)]
        exact ((moves_emit d (.serviceClose a false) rfl).trans (moves_emit _ _ rfl)).steps.trans
          (StepMove.dropped up.addr).steps

theorem moves_stream_failed {a : ℕ} {svc : Service} {up : ApacketUv} {rest : List ApacketUv}
    (ht : d.crashed = false → Table d) (hc : d.crashed = false) (ha : d.alive a = some svc)
    (hw : svc.stream.writes = up :: rest) :
    StepMoves cfg fs uv (none,d) (none,adbServiceClose fs uv
      (d.setService a { svc with stream := { svc.stream with writes := rest } }) a (some up)) := by
  have hpop : StepMoves cfg fs uv (none,d)
      (some up.addr,d.setService a { svc with stream := { svc.stream with writes := rest } }) :=
    (StepMove.popStream ha hw).steps
  exact hpop.trans (moves_close_any (hpop.table ht) hc a up)

/-- A stream that has requests takes packets. -/
theorem takes_of_writes {svc : Service} (h : svc.Wf) (hw : svc.stream.writes ≠ []) :
    svc.kind.Takes := by
  have hallows := h.kind
  cases hk : svc.kind with
  | sync s =>
    rw [hk] at hallows
    exact absurd hallows.2.2.1 hw
  | tcp state =>
    rw [hk] at hallows
    exact hallows.2.1 hw
  | shell waitAck => trivial

theorem moves_stream_connected {a : ℕ} {svc : Service} (ht : d.crashed = false → Table d)
    (hc : d.crashed = false) (ha : d.alive a = some svc) (hcon : svc.stream.connecting = true)
    (fail : Bool) :
    StepMoves cfg fs uv (none,d) (none,streamConnected cfg fs uv d a svc fail) := by
  obtain ⟨hheap,hfreed⟩ := (alive_iff _ _ _).mp ha
  unfold streamConnected
  split
  · rename_i state hk
    have hallows := ((ht hc).wf a svc hheap).kind
    rw [hk] at hallows
    obtain rfl := hallows.2.2.1 hcon
    have hopen : svc.stream.closing = false := by
      by_contra hcl
      exact absurd (hallows.2.2.2 (by simpa using hcl)) (by decide)
    dsimp only
    unfold tcpStreamOnConnectCb
    split
    · have hfail : Move cfg fs uv (none,d) _ := Move.shift ha (.fail hk)
      refine (hfail.moves.trans (moves_try_close (hfail.moves.table ht)
        (set_service_alive d a _ ?_) ?_)).steps
      · exact hfreed
      · exact hopen
    · have hnotify : Move cfg fs uv (none,d) _ := Move.shift ha (.notify hk)
      refine (hnotify.moves.trans (moves_try_connect (fun svc' ha' => ?_))).steps
      obtain rfl := Option.some.inj (ha'.symm.trans (set_service_alive d a _ hfreed))
      rfl
  · exact StepMoves.refl _

theorem moves_stream_closed {a : ℕ} {svc : Service} (ha : d.alive a = some svc)
    (hcl : svc.stream.closing = true) (hq : svc.stream.Quiet) :
    StepMoves cfg fs uv (none,d) (none,streamClosed d a svc) := by
  unfold streamClosed
  split
  · exact (StepMove.free ha hcl hq).steps
  · exact (Move.shift ha (.exit hcl hq)).moves.steps
  · exact StepMoves.refl _

/-- A stream that is read is open, and no read of it was stopped. -/
theorem active_open {svc : Service} (hw : svc.Wf) (hact : svc.stream.active = true) :
    svc.stream.closing = false ∧ svc.stream.starved = false := by
  constructor
  · by_contra hcl
    rw [(hw.stream.closing (by simpa using hcl)).1] at hact
    cases hact
  · by_contra hst
    rw [hw.stream.starved (by simpa using hst)] at hact
    cases hact

theorem stream_bytes_none {a : ℕ} (r : ReadResult) (h : (adbHalApacketAllocate cfg uv d).1 = none) :
    streamBytes cfg uv d (.streamRead a r) = none := by
  cases r with
  | error => rfl
  | data bs =>
    refine if_neg (fun hb => ?_)
    rw [h] at hb
    cases hb.2.2.1

theorem stream_bytes_nil {a : ℕ} {bs : List UInt8} (h : bs.take cfg.payloadSize = []) :
    streamBytes cfg uv d (.streamRead a (.data bs)) = none :=
  if_neg (fun hb => hb.2.2.2 h)

theorem stream_bytes_some {a : ℕ} {svc : Service} {up : ApacketUv} {bs : List UInt8}
    (hc : d.crashed = false) (ha : d.alive a = some svc) (hact : svc.stream.active = true)
    (hup : (adbHalApacketAllocate cfg uv d).1 = some up) (h : bs.take cfg.payloadSize ≠ []) :
    streamBytes cfg uv d (.streamRead a (.data bs)) = some (a, bs.take cfg.payloadSize) := by
  refine if_pos ⟨hc,?_,?_,h⟩
  · rw [ha]
    exact hact
  · rw [hup]
    rfl

theorem hal_allocate_some {up : ApacketUv} (h : (adbHalApacketAllocate cfg uv d).1 = some up) :
    (adbHalApacketAllocate cfg uv d).2.crashed = d.crashed := by
  obtain ⟨ap,hap,-⟩ := Option.map_eq_some_iff.mp h
  exact (allocate_some cfg uv d false ap hap).1

/-- The WRTE with bytes that were read. -/
def ApacketUv.wrte (up : ApacketUv) (svc : Service) (bs : List UInt8) : ApacketUv :=
  ((up.setData (store up.p.data 0 bs)).message aWrte svc.id svc.peerId bs.length).setWriteLen 0

theorem wrte_payload (up : ApacketUv) (svc : Service) (bs : List UInt8) :
    (up.wrte svc bs).p.payload = bs := slice_store_self up.p.data 0 bs

theorem send_data_shell (uv : Uv ω) (d : Daemon ω) (up : ApacketUv) (svc : Service)
    (bs : List UInt8) (n : ℕ) :
    adbSendDataFrame uv d (((up.setData (store up.p.data 0 bs)).setWriteLen bs.length).message
      aWrte svc.id svc.peerId n) = sendFrame uv d (up.wrte svc bs) := rfl

theorem send_data_tcp (uv : Uv ω) (d : Daemon ω) (up : ApacketUv) (svc : Service)
    (bs : List UInt8) (command arg0 arg1 : ℕ) :
    adbSendDataFrame uv d
      ((((up.setData (store up.p.data 0 bs)).message command arg0 arg1 bs.length).setWriteLen
        bs.length).message aWrte svc.id svc.peerId bs.length) = sendFrame uv d (up.wrte svc bs) := rfl

/-- A shell is read: the bytes go to the host, or it is closed, or there is no packet. -/
theorem moves_shell_read {a : ℕ} {svc : Service} {waitAck : Bool} (r : ReadResult)
    (ht : d.crashed = false → Table d) (hc : d.crashed = false) (ha : d.alive a = some svc)
    (hk : svc.kind = .shell waitAck) (hact : svc.stream.active = true) :
    match streamBytes cfg uv d (.streamRead a r) with
    | none => StepMoves cfg fs uv (none,d) (none,shellRead cfg fs uv d a svc waitAck r)
    | some p => ∃ x, StepMoves cfg fs uv (none,d) x ∧
        Fed uv p.1 p.2 x (none,shellRead cfg fs uv d a svc waitAck r) := by
  have hwf := (ht hc).wf a svc ((alive_iff _ _ _).mp ha).1
  have hallows := hwf.kind
  rw [hk] at hallows
  obtain rfl := hallows.1 (Or.inl hact)
  obtain ⟨hcl,hst⟩ := active_open hwf hact
  have halloc := moves_hal_allocate cfg fs uv d
  have ha' : (adbHalApacketAllocate cfg uv d).2.alive a = some svc :=
    (allocate_alive cfg uv d false a).trans ha
  unfold shellRead
  rw [if_neg (by decide)]
  dsimp only
  cases hup : (adbHalApacketAllocate cfg uv d).1 with
  | none =>
    rw [hup] at halloc
    rw [stream_bytes_none r hup]
    exact (halloc.next (fun _ => (Move.shift ha' (.starve hact)).moves)).steps
  | some up =>
    rw [hup] at halloc
    have hc' := (hal_allocate_some hup).trans hc
    have htable := halloc.table ht hc'
    have hreg := (htable.registered a).mpr ⟨svc,ha',hcl⟩
    have hclose := halloc.trans (moves_close_with htable hc' hreg up)
    unfold Daemon.next
    rw [if_neg (by simp [hc'])]
    unfold pipeOnDataAvailable
    cases r with
    | error => exact hclose.steps
    | data bs =>
      dsimp only
      by_cases hnil : bs.take cfg.payloadSize = []
      · rw [stream_bytes_nil hnil, if_pos hnil]
        exact hclose.steps
      · rw [stream_bytes_some hc ha hact hup hnil, if_neg hnil]
        rw [send_data_shell]
        exact ⟨_,halloc.steps,Fed.fed (up.wrte svc _) ha' (.shell hk) hst ⟨rfl,rfl,rfl⟩
          (wrte_payload up svc _) hnil rfl⟩

theorem tcp_on_data_zero (fs : FileSystem ω) (uv : Uv ω) (d : Daemon ω) (a : ℕ) (svc : Service)
    (up : ApacketUv) (hz : up.p.msg.dataLength = 0) :
    tcpStreamOnDataCb fs uv d a svc .connected up = adbServiceClose fs uv d a (some up) := by
  unfold tcpStreamOnDataCb
  rw [if_neg (by simp), if_pos hz]

theorem tcp_on_data_sent (fs : FileSystem ω) (uv : Uv ω) (d : Daemon ω) (a : ℕ) (svc : Service)
    (up : ApacketUv) (bs : List UInt8) (command arg0 arg1 : ℕ) (hne : bs ≠ []) :
    tcpStreamOnDataCb fs uv d a svc .connected
        ((up.setData (store up.p.data 0 bs)).message command arg0 arg1 bs.length) =
      sendFrame uv
        (d.setService a { svc with kind := .tcp .waitAck, stream := svc.stream.readStop })
        (up.wrte svc bs) := by
  have hlen : ((up.setData (store up.p.data 0 bs)).message command arg0 arg1
      bs.length).p.msg.dataLength ≠ 0 := fun hz => hne (List.length_eq_zero_iff.mp hz)
  unfold tcpStreamOnDataCb
  rw [if_neg (by simp), if_neg hlen]
  exact send_data_tcp uv _ up svc bs command arg0 arg1

/-- The same for the socket of a tcp service, where a read may also find nothing. -/
theorem moves_tcp_read {a : ℕ} {svc : Service} {state : StreamState} (r : ReadResult)
    (ht : d.crashed = false → Table d) (hc : d.crashed = false) (ha : d.alive a = some svc)
    (hk : svc.kind = .tcp state) (hact : svc.stream.active = true) :
    match streamBytes cfg uv d (.streamRead a r) with
    | none => StepMoves cfg fs uv (none,d) (none,tcpRead cfg fs uv d a svc state r)
    | some p => ∃ x, StepMoves cfg fs uv (none,d) x ∧
        Fed uv p.1 p.2 x (none,tcpRead cfg fs uv d a svc state r) := by
  obtain ⟨hheap,hfreed⟩ := (alive_iff _ _ _).mp ha
  have hwf := (ht hc).wf a svc hheap
  have hallows := hwf.kind
  rw [hk] at hallows
  obtain rfl := hallows.1 (Or.inl hact)
  obtain ⟨hcl,hst⟩ := active_open hwf hact
  have halloc := moves_hal_allocate cfg fs uv d
  have ha' : (adbHalApacketAllocate cfg uv d).2.alive a = some svc :=
    (allocate_alive cfg uv d false a).trans ha
  unfold tcpRead
  dsimp only
  cases hup : (adbHalApacketAllocate cfg uv d).1 with
  | none =>
    rw [hup] at halloc
    rw [stream_bytes_none r hup]
    exact (halloc.next (fun _ => (Move.shift ha' (.starve hact)).moves)).steps
  | some up =>
    rw [hup] at halloc
    have hc' := (hal_allocate_some hup).trans hc
    have htable := halloc.table ht hc'
    have hreg := (htable.registered a).mpr ⟨svc,ha',hcl⟩
    unfold Daemon.next
    rw [if_neg (by simp [hc'])]
    generalize (adbHalApacketAllocate cfg uv d).2 = d₁ at *
    unfold tcpStreamOnDataAvailable
    cases r with
    | error =>
      dsimp only
      rw [tcp_on_data_zero fs uv _ _ _ _ rfl]
      exact (halloc.trans (moves_close_with htable hc' hreg
        ((up.setData up.p.data).message up.p.msg.command up.p.msg.arg0 up.p.msg.arg1 0))).steps
    | data bs =>
      dsimp only
      by_cases hnil : bs.take cfg.payloadSize = []
      · rw [stream_bytes_nil hnil, if_pos hnil]
        exact (halloc.trans (moves_release _ _ _ (fun _ => htable) hc' up.addr)).steps
      · have hstop : Move cfg fs uv (some up.addr,d₁) _ := Move.shift ha' (.stop hk)
        have hset := set_service_alive d₁ a { svc with stream := svc.stream.readStop } hfreed
        rw [stream_bytes_some hc ha hact hup hnil, if_neg hnil,
          tcp_on_data_sent fs uv _ a _ up _ _ _ _ hnil]
        refine ⟨_,(halloc.trans hstop.moves).steps,?_⟩
        exact Fed.fed (up.wrte { svc with stream := svc.stream.readStop } _) hset (.tcp hk) hst
          ⟨rfl,rfl,rfl⟩ (wrte_payload up _ _) hnil rfl

theorem stream_bytes_quiet {a : ℕ} (r : ReadResult)
    (hq : d.crashed = true ∨ ∀ svc, d.alive a = some svc → svc.stream.active = false) :
    streamBytes cfg uv d (.streamRead a r) = none := by
  cases r with
  | error => rfl
  | data bs =>
    refine if_neg (fun hb => ?_)
    rcases hq with hc | hq
    · rw [hc] at hb
      cases hb.1
    · obtain ⟨svc,ha,hact⟩ := (Option.any_eq_true _ _).mp hb.2.1
      rw [hq svc ha] at hact
      cases hact

/-- A callback for a stream of a service that is in memory. -/
theorem moves_touch {svc : Service} {f : Daemon ω → Daemon ω}
    (hf : svc.freed = false → StepMoves cfg fs uv (none,d) (none,f d)) :
    StepMoves cfg fs uv (none,d) (none,touchFreed d svc f) := by
  unfold touchFreed
  split
  · exact (moves_fault d _ (by decide)).steps
  · rename_i hfreed
    exact hf (by simpa using hfreed)

theorem stream_read_moves (cfg : Config) (fs : FileSystem ω) (uv : Uv ω) (a : ℕ) (r : ReadResult)
    (ht : d.crashed = false → Table d)
    (hc : d.crashed = false) :
    match streamBytes cfg uv d (.streamRead a r) with
    | none => StepMoves cfg fs uv (none,d) (none,step cfg fs uv d (.streamRead a r))
    | some p => ∃ x, StepMoves cfg fs uv (none,d) x ∧
        Fed uv p.1 p.2 x (none,step cfg fs uv d (.streamRead a r)) := by
  by_cases hread : ∃ svc, d.alive a = some svc ∧ svc.stream.active = true
  · obtain ⟨svc,ha,hact⟩ := hread
    obtain ⟨hheap,hfreed⟩ := (alive_iff _ _ _).mp ha
    have hstep : step cfg fs uv d (.streamRead a r) = streamRead cfg fs uv d a svc r := by
      unfold step touchFreed
      rw [if_neg (by simp [hc])]
      dsimp only
      rw [hheap]
      dsimp only
      rw [if_pos hact, if_neg (by simp [hfreed])]
    rw [hstep]
    unfold streamRead
    cases hk : svc.kind with
    | sync s =>
      have hallows := ((ht hc).wf a svc hheap).kind
      rw [hk] at hallows
      rw [hallows.1] at hact
      cases hact
    | tcp state => exact moves_tcp_read r ht hc ha hk hact
    | shell waitAck => exact moves_shell_read r ht hc ha hk hact
  · have hquiet (svc : Service) (ha : d.alive a = some svc) : svc.stream.active = false := by
      by_contra hact
      exact hread ⟨svc,ha,by simpa using hact⟩
    rw [stream_bytes_quiet r (Or.inr hquiet)]
    dsimp only
    unfold step
    rw [if_neg (by simp [hc])]
    dsimp only
    split
    · rename_i svc hheap
      split
      · rename_i hact
        refine moves_touch (fun hf => ?_)
        rw [hquiet svc ((alive_iff d a svc).mpr ⟨hheap,hf⟩)] at hact
        cases hact
      · exact StepMoves.refl _
    · exact StepMoves.refl _

/-- What a callback is: it returns the packet that a stream has written, or it is a chain of moves,
at the end of which the bytes are sent that it read from a stream, or a sync service answers with
data. -/
inductive Stepped (cfg : Config) (fs : FileSystem ω) (uv : Uv ω) (d : Daemon ω) (i : Input)
    (d' : Daemon ω) : Prop
  | moves (hb : streamBytes cfg uv d i = none) (hr : streamReturns d i = none)
    (hm : StepMoves cfg fs uv (none,d) (none,d'))
  | fed (a : ℕ) (bs : List UInt8) (x : Option ℕ × Daemon ω)
    (hb : streamBytes cfg uv d i = some (a,bs)) (hr : streamReturns d i = none)
    (hm : StepMoves cfg fs uv (none,d) x) (hf : Fed uv a bs x (none,d'))
  | returned (a : ℕ) (hb : streamBytes cfg uv d i = none) (hr : streamReturns d i = some a)
    (h : Returned uv a d d')
  | replied (a : ℕ) (x : Option ℕ × Daemon ω) (hb : streamBytes cfg uv d i = none)
    (hr : streamReturns d i = none) (hs : streamReplies cfg fs uv d i = some a)
    (hm : StepMoves cfg fs uv (none,d) x) (hf : Answering uv a x (none,d'))
  | continued (a : ℕ) (x : Option ℕ × Daemon ω) (hb : streamBytes cfg uv d i = none)
    (hr : streamReturns d i = none) (hm : StepMoves cfg fs uv (none,d) x)
    (hf : Continued cfg fs uv a x (none,d'))

theorem transport_read_stepped (r : ReadResult) (ht : d.crashed = false → Table d)
    (hc : d.crashed = false) :
    Stepped cfg fs uv d (.transportRead r) (step cfg fs uv d (.transportRead r)) := by
  have hreceive := moves_receive cfg fs uv d r ht
  unfold step
  rw [if_neg (by simp [hc])]
  dsimp only
  by_cases hact : d.socket.active = true
  · rw [if_pos hact]
    have hreplies : streamReplies cfg fs uv d (.transportRead r) =
        if (receive cfg fs uv d r).2.crashed then none
        else (receive cfg fs uv d r).1.bind (frameReplies cfg fs uv (receive cfg fs uv d r).2) :=
      if_pos ⟨hc,hact⟩
    unfold transportRead
    generalize receive cfg fs uv d r = n at *
    obtain ⟨up,e⟩ := n
    dsimp only at *
    cases up with
    | none => exact .moves rfl rfl hreceive
    | some up =>
      dsimp only
      cases hc' : e.crashed with
      | true =>
        rw [Daemon.next, if_pos hc']
        exact .moves rfl rfl (hreceive.trans (Move.halt hc').moves.steps)
      | false =>
        rw [hc', if_neg (by decide)] at hreplies
        rw [Daemon.next, if_neg (by simp [hc'])]
        cases framed_process_packet up cfg fs uv (hreceive.table ht) hc' with
        | moves _ hm => exact .moves rfl rfl (hreceive.trans hm.steps)
        | replied a y hr hm hf =>
          exact .replied a y rfl rfl (hreplies.trans hr) (hreceive.trans hm.steps) hf
        | continued a y _ hm hf => exact .continued a y rfl rfl (hreceive.trans hm.steps) hf
  · rw [if_neg hact]
    exact .moves rfl rfl (StepMoves.refl _)

theorem stream_read_stepped (a : ℕ) (r : ReadResult) (ht : d.crashed = false → Table d)
    (hc : d.crashed = false) :
    Stepped cfg fs uv d (.streamRead a r) (step cfg fs uv d (.streamRead a r)) := by
  have hread := stream_read_moves cfg fs uv a r ht hc
  cases hb : streamBytes cfg uv d (.streamRead a r) with
  | none =>
    rw [hb] at hread
    exact .moves hb rfl hread
  | some p =>
    rw [hb] at hread
    obtain ⟨x,hm,hf⟩ := hread
    exact .fed p.1 p.2 x hb rfl hm hf

theorem stream_written_stepped (a : ℕ) (fail : Bool) (ht : d.crashed = false → Table d)
    (hc : d.crashed = false) :
    Stepped cfg fs uv d (.streamWritten a fail) (step cfg fs uv d (.streamWritten a fail)) := by
  by_cases hwritten : ∃ svc up rest, d.alive a = some svc ∧ svc.stream.writes = up :: rest
  · obtain ⟨svc,up,rest,ha,hw⟩ := hwritten
    obtain ⟨hheap,hfreed⟩ := (alive_iff _ _ _).mp ha
    have hstep : step cfg fs uv d (.streamWritten a fail) = serviceAfterWrite fs uv
        (d.setService a { svc with stream := { svc.stream with writes := rest } }) a up
        fail := by
      unfold step touchFreed streamWritten
      rw [if_neg (by simp [hc])]
      dsimp only
      rw [hheap]
      dsimp only
      rw [if_neg (by simp [hw]), if_neg (by simp [hfreed]), hw]
    rw [hstep]
    unfold serviceAfterWrite
    by_cases hf : fail = true
    · have hreturns : streamReturns d (.streamWritten a fail) = none := by
        refine if_neg (fun h => ?_)
        have hany := h.2
        rw [ha, Option.any_some, hf] at hany
        simp at hany
      rw [if_pos hf]
      exact .moves rfl hreturns (moves_stream_failed ht hc ha hw)
    · have hreturns : streamReturns d (.streamWritten a fail) = some a := by
        refine if_pos ⟨hc,?_⟩
        rw [ha]
        simpa [hw] using hf
      have hset := set_service_alive d a
        { svc with stream := { svc.stream with writes := rest } } hfreed
      have htakes := takes_of_writes ((ht hc).wf a svc hheap) (by rw [hw]; exact List.cons_ne_nil _ _)
      rw [if_neg hf, Daemon.withService, hset]
      exact .returned a rfl hreturns (.returned ha hw htakes)
  · have hreturns : streamReturns d (.streamWritten a fail) = none := by
      refine if_neg (fun h => ?_)
      obtain ⟨svc,ha,hany⟩ := (Option.any_eq_true _ _).mp h.2
      have hne : svc.stream.writes ≠ [] := by
        intro hnil
        rw [hnil] at hany
        cases hany
      obtain ⟨up,rest,hw⟩ := List.exists_cons_of_ne_nil hne
      exact hwritten ⟨svc,up,rest,ha,hw⟩
    refine .moves rfl hreturns ?_
    unfold step
    rw [if_neg (by simp [hc])]
    dsimp only
    split
    · rename_i svc hheap
      split
      · exact StepMoves.refl _
      · rename_i hne
        refine moves_touch (fun hf => ?_)
        obtain ⟨up,rest,hw⟩ := List.exists_cons_of_ne_nil hne
        exact absurd ⟨svc,up,rest,(alive_iff d a svc).mpr ⟨hheap,hf⟩,hw⟩ hwritten
    · exact StepMoves.refl _

theorem step_stepped (cfg : Config) (fs : FileSystem ω) (uv : Uv ω) (i : Input)
    (ht : d.crashed = false → Table d) :
    Stepped cfg fs uv d i (step cfg fs uv d i) := by
  by_cases hcr : d.crashed = true
  · have hsame : step cfg fs uv d i = d := if_pos hcr
    have hbytes : streamBytes cfg uv d i = none := by
      cases i with
      | streamRead a r => exact stream_bytes_quiet r (Or.inl hcr)
      | _ => rfl
    have hreturns : streamReturns d i = none := by
      cases i with
      | streamWritten a fail =>
        refine if_neg (fun h => ?_)
        rw [hcr] at h
        cases h.1
      | _ => rfl
    rw [hsame]
    exact .moves hbytes hreturns (StepMoves.refl _)
  have hc : d.crashed = false := by simpa using hcr
  have hcall := step_callback cfg fs uv d i hc
  cases i with
  | streamRead a r => exact stream_read_stepped a r ht hc
  | transportRead r => exact transport_read_stepped r ht hc
  | streamWritten a fail => exact stream_written_stepped a fail ht hc
  | transportWritten fail =>
    refine .moves rfl rfl ?_
    generalize step cfg fs uv d (.transportWritten fail) = d' at hcall
    cases hcall with
    | none => exact StepMoves.refl _
    | transportWritten _ up rest hw => exact moves_after_write hw ht hc _
    | touched => exact (moves_fault d _ (by decide)).steps
  | transportClosed =>
    refine .moves rfl rfl ?_
    generalize step cfg fs uv d .transportClosed = d' at hcall
    cases hcall with
    | none => exact StepMoves.refl _
    | transportClosed => exact moves_close_client ht hc
    | touched => exact (moves_fault d _ (by decide)).steps
  | connected a fail =>
    refine .moves rfl rfl ?_
    generalize step cfg fs uv d (.connected a fail) = d' at hcall
    cases hcall with
    | none => exact StepMoves.refl _
    | connected _ _ svc ha hcon => exact moves_stream_connected ht hc ha hcon fail
    | touched => exact (moves_fault d _ (by decide)).steps
  | streamClosed a =>
    refine .moves rfl rfl ?_
    generalize step cfg fs uv d (.streamClosed a) = d' at hcall
    cases hcall with
    | none => exact StepMoves.refl _
    | streamClosed _ svc ha hcl hquiet => exact moves_stream_closed ha hcl hquiet
    | touched => exact (moves_fault d _ (by decide)).steps
  | processClosed a =>
    refine .moves rfl rfl ?_
    generalize step cfg fs uv d (.processClosed a) = d' at hcall
    cases hcall with
    | none => exact StepMoves.refl _
    | processClosed _ svc ha hex =>
      obtain ⟨hcl,hquiet⟩ := ((ht hc).wf a svc ((alive_iff d a svc).mp ha).1).exiting hex
      exact (StepMove.free ha hcl hquiet).steps
    | touched => exact (moves_fault d _ (by decide)).steps

end MicroADB
