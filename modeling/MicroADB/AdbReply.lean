import MicroADB.AdbKick
import MicroADB.AdbQueue
import MicroADB.FileSyncReply

/-! The answer to a WRTE of the host. The packet of the request carries the OKAY and behind it
what the service replied, and is lost with the reply when the service fails. -/
namespace MicroADB
open ByteMemory EventRun

variable {ω : Type} {cfg : Config} {fs : FileSystem ω} {uv : Uv ω} {d d' : Daemon ω}
  {up : ApacketUv} {a : ℕ} {svc : Service} {s : AfsService}

/-! The handler of a sync service. -/

/-- What on_write_frame of a sync service starts from. -/
def requestCtx (d : Daemon ω) (up : ApacketUv) (s : AfsService) : SyncCtx ω := ⟨s,up.p,d.os,[]⟩

theorem on_write_sync (cfg : Config) (fs : FileSystem ω) (uv : Uv ω) (up : ApacketUv)
    (ha : d.alive a = some svc) (hk : svc.kind = .sync s) :
    onWriteFrame cfg fs uv d a up =
      ((fileSyncOnWrite cfg fs (requestCtx d up s)).1,
        { up with p := (fileSyncOnWrite cfg fs (requestCtx d up s)).2.p },
        syncDone (d.emit (.onWrite a)) a svc (fileSyncOnWrite cfg fs (requestCtx d up s)).2) := by
  unfold onWriteFrame
  rw [ha]
  dsimp only
  rw [hk]
  rfl

theorem service_write_ne_zero (d : Daemon ω) (a : ℕ) (svc : Service) (up : ApacketUv) :
    (serviceWrite uv d a svc up).1 ≠ 0 := by
  have hfail : (-1 : ℤ) ≠ 0 := by decide
  unfold serviceWrite
  split
  · exact hfail
  · dsimp only
    split
    · exact one_ne_zero
    · exact hfail

/-- Only a sync service is done with a packet when on_write_frame returns. -/
theorem on_write_zero (h : (onWriteFrame cfg fs uv d a up).1 = 0) :
    ∃ svc s, d.alive a = some svc ∧ svc.kind = .sync s := by
  unfold onWriteFrame at h
  split at h
  · cases h
  · rename_i svc ha
    dsimp only at h
    split at h
    · rename_i s hk
      exact ⟨svc,s,ha,hk⟩
    · unfold atcpStreamOnWrite at h
      split at h
      · cases h
      · exact absurd h (service_write_ne_zero _ _ _ _)
    · exact absurd h (service_write_ne_zero _ _ _ _)

/-- What the callback of a sync service leaves. -/
theorem sync_done_log (d : Daemon ω) (a : ℕ) (svc : Service) (c : SyncCtx ω) :
    (syncDone d a svc c).log = d.log ++ c.log.map (.sync a) := rfl

theorem sync_done_alive (c : SyncCtx ω) (ha : d.alive a = some svc) :
    (syncDone d a svc c).alive a = some { svc with kind := .sync c.svc } :=
  alive_of_heap (d := (d.setOs c.os).setService a { svc with kind := .sync c.svc }) rfl
    (set_service_alive _ a _ ((alive_iff _ _ _).mp ha).2)

/-! The exchange. -/

/-- The events about the packet at b: it is handed to the transport, kept or released. -/
def packetEvents (b : ℕ) (es : List Event) : List Event :=
  es.filter fun e => match e with
    | .write c .. | .release c | .kept _ c => c = b
    | _ => false

@[simp] theorem packet_events_append (b : ℕ) (es es' : List Event) :
    packetEvents b (es ++ es') = packetEvents b es ++ packetEvents b es' := List.filter_append _ _

theorem packet_events_sync (b : ℕ) (es : List SyncEvent) :
    packetEvents b (es.map (.sync a)) = [] := by
  refine List.filter_eq_nil_iff.mpr (fun e he => ?_)
  obtain ⟨_,_,rfl⟩ := List.mem_map.mp he
  simp

/-- A frame that passes the checks of the peer. -/
def PeerAccepts (cfg : Config) (m : Amessage) (payload : List UInt8) : Prop :=
  payload.length = m.dataLength ∧ ∀ p : Apacket, p.msg = m → p.payload = payload →
    adbCheckFrameHeader cfg p = 0 ∧ adbCheckFrameData p = 0

theorem seal_accepts (p : Apacket) (h : p.msg.dataLength ≤ cfg.payloadSize) :
    PeerAccepts cfg p.seal.msg p.payload := by
  refine ⟨length_slice _ _ _,fun q hmsg hpay => ⟨?_,?_⟩⟩
  · refine (check_header_eq_zero_iff _ q).mpr ?_
    rw [hmsg]
    exact ⟨rfl,h⟩
  · refine (check_frame_data_eq_zero_iff q).mpr ?_
    rw [hmsg, hpay]
    rfl

/-- The OKAY for a packet, as libuv is given it. -/
def okayPacket (svc : Service) (up : ApacketUv) : ApacketUv :=
  (up.message aOkay svc.id svc.peerId 0).sealed

/-- The WRTE with the reply in a packet whose OKAY has been sent. -/
def replyPacket (up : ApacketUv) : ApacketUv :=
  ((up.message aWrte up.p.msg.arg0 up.p.msg.arg1 up.p.writeLen).setWriteLen 0).sealed

/-- The packet of a WRTE that on_write_frame of the service at a is done with, through the
frames that libuv takes: other callbacks may come between, and leave any state e. -/
structure Exchange (cfg : Config) (fs : FileSystem ω) (uv : Uv ω) (d : Daemon ω) (up : ApacketUv)
    (a : ℕ) (svc : Service) (done : ApacketUv) : Prop where
  /-- The OKAY is sent, and nothing else is done with the packet. -/
  okay : packetEvents up.addr (since d (handleWriteFrame cfg fs uv d up)) =
    [.write up.addr (okayPacket svc done).p.msg [] true]
  pending : (handleWriteFrame cfg fs uv d up).socket.writes =
    d.socket.writes ++ [okayPacket svc done]
  okay_frame : (okayPacket svc done).p.msg.command = aOkay ∧
    (okayPacket svc done).p.msg.arg0 = svc.id ∧ (okayPacket svc done).p.msg.arg1 = svc.peerId ∧
    PeerAccepts cfg (okayPacket svc done).p.msg []
  /-- When it has been written, the reply is sent if there is one. -/
  reply : 0 < done.p.writeLen → ∀ (e : Daemon ω) rest, e.crashed = false →
    e.socket.writes = okayPacket svc done :: rest →
    Writable uv (e.setSocket { e.socket with writes := rest }) →
    since e (step cfg fs uv e (.transportWritten false)) =
        [.write up.addr (replyPacket (okayPacket svc done)).p.msg
          (slice done.p.data 0 done.p.writeLen) true] ∧
      (step cfg fs uv e (.transportWritten false)).socket.writes =
        rest ++ [replyPacket (okayPacket svc done)]
  reply_frame : (replyPacket (okayPacket svc done)).p.msg.command = aWrte ∧
    (replyPacket (okayPacket svc done)).p.msg.arg0 = svc.id ∧
    (replyPacket (okayPacket svc done)).p.msg.arg1 = svc.peerId ∧
    PeerAccepts cfg (replyPacket (okayPacket svc done)).p.msg
      (slice done.p.data 0 done.p.writeLen)
  /-- When the last frame has been written, the packet is released. -/
  release : ∀ (e : Daemon ω) rest last, e.crashed = false →
    last = (if 0 < done.p.writeLen then replyPacket (okayPacket svc done)
      else okayPacket svc done) →
    e.socket.writes = last :: rest →
    step cfg fs uv e (.transportWritten false) =
      adbHalApacketRelease cfg fs uv (e.setSocket { e.socket with writes := rest }) up.addr

/-- Every WRTE for which on_write_frame returns 0 with w reply bytes: one OKAY without payload
goes to the peer, then if w > 0 one WRTE with those bytes, both with the ids of the service and
accepted by the checks, and the packet is released once, when the last has been written. -/
theorem write_exchange (cfg : Config) (fs : FileSystem ω) (uv : Uv ω) (d : Daemon ω)
    (up : ApacketUv) (a : ℕ) (hc : d.crashed = false)
    (hfind : adbClientFindService d up.p.msg.arg1 up.p.msg.arg0 = some a)
    (hret : (onWriteFrame cfg fs uv d a up).1 = 0)
    (hlen : (onWriteFrame cfg fs uv d a up).2.1.p.writeLen ≤ cfg.payloadSize)
    (htaken : Writable uv (onWriteFrame cfg fs uv d a up).2.2) :
    ∃ svc, d.alive a = some svc ∧
      Exchange cfg fs uv d up a svc (onWriteFrame cfg fs uv d a up).2.1 := by
  obtain ⟨svc,s,ha,hk⟩ := on_write_zero hret
  refine ⟨svc,ha,?_⟩
  have hwrite := on_write_sync cfg fs uv up ha hk
  set r := fileSyncOnWrite cfg fs (requestCtx d up s) with hr
  rw [hwrite] at hret hlen htaken ⊢
  dsimp only at hret hlen htaken ⊢
  set done : ApacketUv := { up with p := r.2.p } with hdone
  set e₀ := syncDone (d.emit (.onWrite a)) a svc r.2 with he₀
  have halive : e₀.alive a = some { svc with kind := .sync r.2.svc } :=
    sync_done_alive r.2 ha
  have hhandle : handleWriteFrame cfg fs uv d up =
      sendFrame uv e₀ (done.message aOkay svc.id svc.peerId 0) := by
    unfold handleWriteFrame
    rw [hfind]
    dsimp only
    rw [hwrite]
    unfold Daemon.next
    rw [if_neg (show ¬e₀.crashed = true by
      change ¬d.crashed = true
      simp [hc])]
    dsimp only
    rw [hret, if_neg (by decide), if_pos rfl]
    unfold Daemon.withService
    rw [halive]
    rfl
  have hsend := send_frame_taken (done.message aOkay svc.id svc.peerId 0) htaken
  rw [hsend] at hhandle
  have hlog : (handleWriteFrame cfg fs uv d up).log = d.log ++ (.onWrite a :: r.2.log.map (.sync a) ++
      [.write up.addr (okayPacket svc done).p.msg [] true]) := by
    rw [hhandle]
    simp only [Daemon.set_socket_log, Daemon.emit_log, Daemon.set_os_log, he₀, sync_done_log,
      List.append_assoc, List.cons_append, List.nil_append]
    rfl
  refine
    { okay := ?_
      pending := ?_
      okay_frame := ⟨rfl,rfl,rfl,seal_accepts (done.message aOkay svc.id svc.peerId 0).p
        (Nat.zero_le _)⟩
      reply := fun hpos e rest hcr hw htaken' => ?_
      reply_frame := ⟨rfl,rfl,rfl,?_⟩
      release := fun e rest last hcr hlast hw => ?_ }
  · rw [since_of_log hlog, packet_events_append]
    have hsync : packetEvents up.addr (Event.onWrite a :: r.2.log.map (.sync a)) = [] :=
      packet_events_sync up.addr r.2.log
    rw [hsync]
    show packetEvents up.addr [.write up.addr (okayPacket svc done).p.msg [] true] = _
    simp [packetEvents]
  · rw [hhandle]
    rfl
  · have hstep : step cfg fs uv e (.transportWritten false) = sendFrame uv
        (e.setSocket { e.socket with writes := rest })
        (((okayPacket svc done).message aWrte svc.id svc.peerId done.p.writeLen).setWriteLen 0) := by
      rw [step_written hcr hw]
      unfold adbUvAfterWrite
      rw [if_neg (by decide), if_pos (show 0 < (okayPacket svc done).p.writeLen from hpos)]
      rfl
    rw [send_frame_taken _ htaken'] at hstep
    rw [hstep]
    exact ⟨since_of_log rfl,rfl⟩
  · exact seal_accepts
      (((okayPacket svc done).message aWrte svc.id svc.peerId done.p.writeLen).setWriteLen 0).p hlen
  · have hzero : last.p.writeLen = 0 := by
      rw [hlast]
      split
      · rfl
      · exact Nat.eq_zero_of_not_pos ‹_›
    have haddr : last.addr = up.addr := by
      rw [hlast]
      split <;> rfl
    rw [step_written hcr hw]
    unfold adbUvAfterWrite
    rw [if_neg (by decide), if_neg (by omega), haddr]

/-- The exchange in a run: when the writes before it have called back, the OKAY is the next to do so.
With no reply the packet is then released. -/
theorem exchange_without_reply {done : ApacketUv} (h : Exchange cfg fs uv d up a svc done)
    (hs : Sound cfg uv [] (handleWriteFrame cfg fs uv d up)) (before : List Input)
    (hbefore : (before.map Input.pops).sum = d.socket.writes.length)
    (hzero : done.p.writeLen = 0) :
    let e := run (step cfg fs uv) (handleWriteFrame cfg fs uv d up) before
    e.crashed = false → ∃ rest, e.socket.writes = okayPacket svc done :: rest ∧
      step cfg fs uv e (.transportWritten false) =
        adbHalApacketRelease cfg fs uv (e.setSocket { e.socket with writes := rest }) up.addr := by
  intro e hc
  obtain ⟨rest,hrest⟩ := queued_last before hs h.pending hbefore hc
  refine ⟨rest,hrest,h.release e rest _ hc ?_ hrest⟩
  rw [hzero, if_neg (lt_irrefl 0)]

/-- With a reply, that is sent now, and the packet is released when the writes between have called
back and that of the reply does. -/
theorem exchange_with_reply {done : ApacketUv} (h : Exchange cfg fs uv d up a svc done)
    (hs : Sound cfg uv [] (handleWriteFrame cfg fs uv d up)) (before between : List Input)
    (hbefore : (before.map Input.pops).sum = d.socket.writes.length)
    (hpos : 0 < done.p.writeLen) :
    let e := run (step cfg fs uv) (handleWriteFrame cfg fs uv d up) before
    let e' := run (step cfg fs uv) (step cfg fs uv e (.transportWritten false)) between
    e.crashed = false → e'.crashed = false → ∃ rest,
      e.socket.writes = okayPacket svc done :: rest ∧
      (Writable uv (e.setSocket { e.socket with writes := rest }) →
        since e (step cfg fs uv e (.transportWritten false)) =
            [.write up.addr (replyPacket (okayPacket svc done)).p.msg
              (slice done.p.data 0 done.p.writeLen) true] ∧
          ((between.map Input.pops).sum = rest.length → ∃ rest',
            e'.socket.writes = replyPacket (okayPacket svc done) :: rest' ∧
            step cfg fs uv e' (.transportWritten false) = adbHalApacketRelease cfg fs uv
              (e'.setSocket { e'.socket with writes := rest' }) up.addr)) := by
  intro e e' hc hc'
  obtain ⟨rest,hrest⟩ := queued_last before hs h.pending hbefore hc
  refine ⟨rest,hrest,fun htaken => ?_⟩
  obtain ⟨hsince,hwrites⟩ := h.reply hpos e rest hc hrest htaken
  refine ⟨hsince,fun hbetween => ?_⟩
  have hsound : Sound cfg uv [] (step cfg fs uv e (.transportWritten false)) :=
    sound_callback _ (sound_runs hs before)
  obtain ⟨rest',hrest'⟩ := queued_last between hsound hwrites hbetween hc'
  refine ⟨rest',hrest',h.release e' rest' _ hc' ?_ hrest'⟩
  rw [if_pos hpos]

/-- A request in a WRTE of the host. -/
def requestPacket (bs : List UInt8) : ApacketUv :=
  ⟨7,defaultConfig.payloadSize,0,⟨aWrte,5,1,bs.length,0,0⟩,store (fun _ => 0) 0 bs⟩

/-- A client with an open sync service. -/
def syncOpened : Daemon Unit :=
  daemonRun defaultConfig emptyFs plainUv [] () (hostFrame aOpen 5 0 (ascii "sync:" ++ [0]))

/-- STAT of a file. -/
def statRequest : List UInt8 := le32 idStat ++ le32 9 ++ ascii "/file.txt"

theorem stat_exchange : ∃ svc, syncOpened.alive 1 = some svc ∧
    Exchange defaultConfig emptyFs plainUv syncOpened (requestPacket statRequest) 1 svc
      (onWriteFrame defaultConfig emptyFs plainUv syncOpened 1 (requestPacket statRequest)).2.1 :=
  write_exchange defaultConfig emptyFs plainUv syncOpened (requestPacket statRequest) 1
    (by decide +kernel) (by decide +kernel) (by decide +kernel) (by decide +kernel)
    ⟨by decide +kernel,rfl⟩

/-! A failing service. -/

/-- The command of a frame that is handed to the transport. -/
def Event.sends : Event → Option ℕ
  | .write _ m _ _ => some m.command
  | _ => none

/-- No reply is sent. -/
def Replyless (d d' : Daemon ω) : Prop := Logs (fun e => e.sends ≠ some aWrte) d d'

theorem replyless_emit (d : Daemon ω) (e : Event) (h : e.sends = none) :
    Replyless d (d.emit e) := by
  refine (Logs.refl _ d).emit ?_
  rw [h]
  exact nofun

theorem replyless_ops_close (d : Daemon ω) (why : CloseReason) : Replyless d (opsClose d why) := by
  unfold opsClose
  split
  · exact replyless_emit d _ rfl
  · exact replyless_emit (d.setSocket d.socket.close) _ rfl

theorem replyless_send_frame (uv : Uv ω) (d : Daemon ω) (up : ApacketUv)
    (h : up.p.msg.command ≠ aWrte) : Replyless d (sendFrame uv d up) := by
  obtain ⟨ok,es,hlog,hes⟩ := send_frame_log uv d up
  refine ⟨_,hlog,fun e he => ?_⟩
  rcases List.mem_cons.mp he with rfl | he
  · exact fun hs => h (Option.some.inj hs)
  · rcases hes e he with rfl | rfl <;> exact nofun

/-- The end of a service sends a CLSE at most. -/
theorem replyless_on_close (fs : FileSystem ω) (d : Daemon ω) (a : ℕ) :
    Replyless d (onClose fs d a) := by
  have hfault (e : Daemon ω) (f : Fault) : Replyless e (e.fault f) := replyless_emit e _ rfl
  have hclose (e : Daemon ω) (svc : Service) : Replyless e (uvCloseStream e a svc) := by
    unfold uvCloseStream
    split
    · exact hfault e _
    · exact Logs.refl _ e
  have hfree (e : Daemon ω) (svc : Service) : Replyless e (freeService e a svc) :=
    replyless_emit (e.setService a _) _ rfl
  have hemit : Replyless d (d.emit (.onClose a)) := replyless_emit d _ rfl
  unfold onClose Daemon.withService
  split
  · exact hfault d _
  · dsimp only
    split
    · rename_i svc _ _ s _
      set c := fileSyncOnClose fs (⟨s,default,d.os,[]⟩ : SyncCtx ω) with hc
      have hdone : Replyless (d.emit (.onClose a)) (syncDone (d.emit (.onClose a)) a svc c) := by
        refine ⟨c.log.map (.sync a),rfl,fun e he => ?_⟩
        obtain ⟨_,_,rfl⟩ := List.mem_map.mp he
        exact nofun
      exact (hemit.trans hdone).trans (hfree _ _)
    · split
      · exact hemit.trans (hclose _ _)
      · exact hemit.trans (hfree _ _)
    · exact hemit.trans (hclose _ _)

theorem replyless_service_close (fs : FileSystem ω) (uv : Uv ω) (d : Daemon ω) (a : ℕ)
    (up : Option ApacketUv) : Replyless d (adbServiceClose fs uv d a up) := by
  have hcalled : Replyless d (d.emit (.serviceClose a (decide (a ∈ d.services)))) :=
    replyless_emit d _ rfl
  have hfault (e : Daemon ω) (f : Fault) : Replyless e (e.fault f) := replyless_emit e _ rfl
  have hexit (e : Daemon ω) : Replyless e (exitFreeService fs uv e a up) := by
    unfold exitFreeService Daemon.withService
    split
    · exact hfault e _
    · cases up with
      | none => exact Logs.next (Logs.refl _ e) (replyless_on_close fs e a)
      | some up =>
        have hclse : aClse ≠ aWrte := by decide
        exact Logs.next (replyless_send_frame uv e _ hclse) (replyless_on_close fs _ a)
  unfold adbServiceClose
  dsimp only
  split
  · exact hcalled.trans (hfault _ _)
  · split
    · exact hcalled.trans (hfault _ _)
    · split
      · exact hcalled.trans (hexit _)
      · exact hcalled.trans (replyless_emit _ _ rfl)

/-- The WRTE that makes a sync service fail is answered with its replies before the CLSE. -/
def RepliesSent (cfg : Config) (fs : FileSystem ω) (uv : Uv ω) (d : Daemon ω) (up : ApacketUv)
    (svc : Service) (s : AfsService) : Prop :=
  let r := fileSyncOnWrite cfg fs (requestCtx d up s)
  r.1 < 0 → (∃ c ∈ writeIters cfg fs (requestCtx d up s), (replyHead cfg fs c).isSome) →
    ∃ es es' b m ok, since d (handleWriteFrame cfg fs uv d up) =
        es ++ .write b m (slice r.2.p.data 0 r.2.p.writeLen) ok :: es' ∧
      m.command = aWrte ∧ m.arg0 = svc.id ∧ m.arg1 = svc.peerId ∧
      ∃ e ∈ es', e.sends = some aClse

/-- Whatever the failing packet had executed before is answered exactly when nothing of it is
answered at all: the error takes the packet for the CLSE. -/
theorem replies_sent_iff (cfg : Config) (fs : FileSystem ω) (uv : Uv ω) (d : Daemon ω)
    (up : ApacketUv) (a : ℕ) (svc : Service) (s : AfsService)
    (hfind : adbClientFindService d up.p.msg.arg1 up.p.msg.arg0 = some a)
    (ha : d.alive a = some svc) (hk : svc.kind = .sync s) :
    RepliesSent cfg fs uv d up svc s ↔
      ((fileSyncOnWrite cfg fs (requestCtx d up s)).1 < 0 →
        ∀ c ∈ writeIters cfg fs (requestCtx d up s), replyHead cfg fs c = none) := by
  have hwrite := on_write_sync cfg fs uv up ha hk
  -- Behind the error there is no reply in the trace.
  have hsilent (hfail : (fileSyncOnWrite cfg fs (requestCtx d up s)).1 < 0) :
      Replyless d (handleWriteFrame cfg fs uv d up) := by
    have hdone : Replyless d (onWriteFrame cfg fs uv d a up).2.2 := by
      rw [hwrite]
      have hemit : Replyless d (d.emit (.onWrite a)) := replyless_emit d _ rfl
      refine hemit.trans ⟨_,sync_done_log _ a svc _,fun e he => ?_⟩
      obtain ⟨_,_,rfl⟩ := List.mem_map.mp he
      exact nofun
    unfold handleWriteFrame
    rw [hfind]
    dsimp only
    refine Logs.next hdone ?_
    have hneg : (onWriteFrame cfg fs uv d a up).1 < 0 := by
      rw [hwrite]
      exact hfail
    rw [if_pos hneg]
    exact replyless_service_close fs uv _ a _
  constructor
  · intro h hfail c hin
    by_contra hne
    obtain ⟨es,es',b,m,ok,hsince,hm,-⟩ := h hfail ⟨c,hin,Option.isSome_iff_ne_none.mpr hne⟩
    have hsent := (hsilent hfail).mem_since
    rw [hsince] at hsent
    exact hsent _ (List.mem_append_right _ List.mem_cons_self) (congrArg some hm)
  · intro h hfail ⟨c,hin,hsome⟩
    rw [h hfail c hin] at hsome
    cases hsome

def quitRequest : List UInt8 := le32 idQuit ++ le32 0

/-- STAT of a file and QUIT in one WRTE: the STAT is not answered. -/
def statThenQuit : List UInt8 := statRequest ++ quitRequest

theorem quit_loses_reply : ∃ svc s, syncOpened.alive 1 = some svc ∧ svc.kind = .sync s ∧
    ¬RepliesSent defaultConfig emptyFs plainUv syncOpened (requestPacket statThenQuit) svc s := by
  have hrun : ((syncOpened.alive 1).any fun svc => svc.kind.afs.any fun s =>
      decide ((fileSyncOnWrite defaultConfig emptyFs
        (requestCtx syncOpened (requestPacket statThenQuit) s)).1 < 0) &&
      (writeIters defaultConfig emptyFs
        (requestCtx syncOpened (requestPacket statThenQuit) s)).any
          fun c => (replyHead defaultConfig emptyFs c).isSome) = true := by decide +kernel
  have hnone : ∀ e ∈ since syncOpened (handleWriteFrame defaultConfig emptyFs plainUv syncOpened
      (requestPacket statThenQuit)), e.sends ≠ some aWrte := by decide +kernel
  obtain ⟨svc,ha,hsvc⟩ := (Option.any_eq_true _ _).mp hrun
  obtain ⟨s,hs,hsync⟩ := (Option.any_eq_true _ _).mp hsvc
  obtain ⟨hfail,hany⟩ := (Bool.and_eq_true _ _).mp hsync
  obtain ⟨c,hin,hsome⟩ := List.any_eq_true.mp hany
  refine ⟨svc,s,ha,ServiceKind.afs_eq hs,fun h => ?_⟩
  obtain ⟨es,es',b,m,ok,hsince,hm,-⟩ := h (of_decide_eq_true hfail) ⟨c,hin,hsome⟩
  rw [hsince] at hnone
  exact hnone _ (List.mem_append_right _ List.mem_cons_self) (congrArg some hm)

/-- QUIT alone, before which nothing was to be answered. -/
theorem quit_unanswered : ∃ svc s, syncOpened.alive 1 = some svc ∧ svc.kind = .sync s ∧
    (fileSyncOnWrite defaultConfig emptyFs
      (requestCtx syncOpened (requestPacket quitRequest) s)).1 < 0 ∧
    RepliesSent defaultConfig emptyFs plainUv syncOpened (requestPacket quitRequest) svc s := by
  have hrun : ((syncOpened.alive 1).any fun svc => svc.kind.afs.any fun s =>
      decide ((fileSyncOnWrite defaultConfig emptyFs
        (requestCtx syncOpened (requestPacket quitRequest) s)).1 < 0) &&
      (writeIters defaultConfig emptyFs
        (requestCtx syncOpened (requestPacket quitRequest) s)).all
          fun c => decide (replyHead defaultConfig emptyFs c = none)) = true := by decide +kernel
  obtain ⟨svc,ha,hsvc⟩ := (Option.any_eq_true _ _).mp hrun
  obtain ⟨s,hs,hsync⟩ := (Option.any_eq_true _ _).mp hsvc
  obtain ⟨hfail,hall⟩ := (Bool.and_eq_true _ _).mp hsync
  have hk : svc.kind = .sync s := ServiceKind.afs_eq hs
  refine ⟨svc,s,ha,hk,of_decide_eq_true hfail,?_⟩
  refine (replies_sent_iff defaultConfig emptyFs plainUv syncOpened (requestPacket quitRequest) 1
    svc s (by decide +kernel) ha hk).mpr ?_
  exact fun _ c hc => of_decide_eq_true (List.all_eq_true.mp hall c hc)

end MicroADB
