import MicroADB.AdbBanner
import MicroADB.AdbUv

/-! The functions of adb_client.c, of the services and of the packet pool. A function
maps the daemon it finds to the daemon it leaves, behind the value it returns. -/
namespace MicroADB
open ByteMemory

variable {ω : Type} (cfg : Config) (fs : FileSystem ω) (uv : Uv ω)

/-! Frames. -/

def sendFrame (d : Daemon ω) (up : ApacketUv) : Daemon ω :=
  let r := tcpUvWrite uv d { up with p := up.p.seal }
  if r.1 ≠ 0 then opsClose r.2 .writeFailed else r.2

/-- A packet with another header and payload length. -/
def ApacketUv.message (up : ApacketUv) (command arg0 arg1 dataLength : ℕ) : ApacketUv :=
  { up with
    p :=
      { up.p with
        msg :=
          { up.p.msg with
            command := command
            arg0 := arg0
            arg1 := arg1
            dataLength := dataLength } } }

def ApacketUv.setWriteLen (up : ApacketUv) (n : ℕ) : ApacketUv :=
  { up with p := { up.p with writeLen := n } }

def ApacketUv.setData (up : ApacketUv) (m : Mem) : ApacketUv :=
  { up with p := { up.p with data := m } }

def sendCloseFrame (d : Daemon ω) (up : ApacketUv) (local_ remote : ℕ) : Daemon ω :=
  sendFrame uv d ((up.message aClse local_ remote 0).setWriteLen 0)

def sendCnxnFrame (d : Daemon ω) (up : ApacketUv) : Daemon ω :=
  let r := adbFillConnectData cfg.product up.p.data cfg.cnxnPayloadSize
  sendFrame uv d ((up.setData r.2).message aCnxn aVersion cfg.payloadSize (u32OfInt r.1))

def adbSendOkayFrameWithData (d : Daemon ω) (up : ApacketUv) (local_ remote : ℕ) : Daemon ω :=
  sendFrame uv d (up.message aOkay local_ remote 0)

def adbSendOkayFrame (d : Daemon ω) (up : ApacketUv) (local_ remote : ℕ) : Daemon ω :=
  adbSendOkayFrameWithData uv d (up.setWriteLen 0) local_ remote

def adbSendDataFrame (d : Daemon ω) (up : ApacketUv) : Daemon ω :=
  sendFrame uv d
    ((up.message aWrte up.p.msg.arg0 up.p.msg.arg1 up.p.writeLen).setWriteLen 0)

/-! The end of a service. -/

/-- Take over what a callback of a sync service leaves. -/
def syncDone (d : Daemon ω) (a : ℕ) (svc : Service) (c : SyncCtx ω) : Daemon ω :=
  { (d.setOs c.os).setService a { svc with kind := .sync c.svc } with
    log := d.log ++ c.log.map (.sync a) }

def onClose (d : Daemon ω) (a : ℕ) : Daemon ω :=
  d.withService a fun svc =>
    let d := d.emit (.onClose a)
    match svc.kind with
    | .sync s =>
      let c := fileSyncOnClose fs ⟨s,default,d.os,[]⟩
      freeService (syncDone d a svc c) a { svc with kind := .sync c.svc }
    | .tcp state =>
      if StreamState.notConnected.index < state.index then uvCloseStream d a svc
      else freeService d a svc
    | .shell _ => uvCloseStream d a svc

/-- exit_free_service -/
def exitFreeService (d : Daemon ω) (a : ℕ) (up : Option ApacketUv) : Daemon ω :=
  d.withService a fun svc =>
    let d := match up with
      | some up => sendCloseFrame uv d up svc.id svc.peerId
      | none => d
    d.next fun d => onClose fs d a

/-- The search starts at the head of the list, which may be NULL, and reads the next
field of each service it passes. -/
def adbServiceClose (d : Daemon ω) (a : ℕ) (up : Option ApacketUv) : Daemon ω :=
  let d := d.emit (.serviceClose a (decide (a ∈ d.services)))
  if d.gone then d.fault .useAfterFree
  else if d.services = [] then d.fault .nullNext
  else if a ∈ d.services then
    exitFreeService fs uv { d with services := d.services.erase a } a up
  else d.emit (.notFound a)

/-! Kicks. -/

def tryClose (d : Daemon ω) (a : ℕ) : Daemon ω :=
  let r := adbHalApacketAllocate cfg uv d
  r.2.next fun d =>
    match r.1 with
    | none => d
    | some up => adbServiceClose fs uv d a (some up)

/-- adb_hal_socket_start -/
def adbHalSocketStart (svc : Service) : Service :=
  if svc.stream.active then svc else { svc with stream := svc.stream.readStart }

def tryConnect (d : Daemon ω) (a : ℕ) : Daemon ω :=
  let r := adbHalApacketAllocate cfg uv d
  r.2.next fun d =>
    match r.1 with
    | none => d
    | some up =>
      d.withService a fun svc =>
        let svc := adbHalSocketStart { svc with kind := .tcp .connected }
        adbSendOkayFrame uv (d.setService a svc) up svc.id svc.peerId

def shellKick (svc : Service) (waitAck : Bool) : Service :=
  if waitAck then svc
  else if svc.stream.active then svc
  else { svc with stream := svc.stream.readStart }

def atcpStreamOnKick (d : Daemon ω) (a : ℕ) (svc : Service) (state : StreamState) : Daemon ω :=
  match state with
  | .notConnected | .waitAck => d
  | .connected => d.setService a (adbHalSocketStart svc)
  | .notifyClient => tryConnect cfg uv d a
  | .errorClose => tryClose cfg fs uv d a

/-- A sync service has no on_kick. -/
def onKick (d : Daemon ω) (a : ℕ) : Daemon ω :=
  d.withService a fun svc =>
    match svc.kind with
    | .sync _ => d
    | .tcp state => atcpStreamOnKick cfg fs uv (d.emit (.onKick a)) a svc state
    | .shell waitAck => (d.emit (.onKick a)).setService a (shellKick svc waitAck)

/-- The loop of adb_client_kick_services over the rest of the list: the next field is
read behind the callback. -/
def kickLoop : List ℕ → Daemon ω → Daemon ω
  | [], d => d
  | a :: rest, d =>
    (onKick cfg fs uv d a).next fun d => d.withService a fun _ => kickLoop rest d

def adbClientKickServices (d : Daemon ω) : Daemon ω := kickLoop cfg fs uv d.services d

def tcpUvKick (d : Daemon ω) : Daemon ω :=
  adbClientKickServices cfg fs uv
    (if d.socket.active then d else d.setSocket d.socket.readStart)

/-! Packets. -/

/-- free(up) -/
def freePacket (d : Daemon ω) (a : ℕ) : Daemon ω :=
  { d with live := d.live.erase a }.emit (.release a)

def setFrameCount (d : Daemon ω) (n : ℤ) : Daemon ω := { d with frameCount := n }

/-- C gives no meaning to the release of a packet that has been released before. -/
def adbHalApacketRelease (d : Daemon ω) (a : ℕ) : Daemon ω :=
  if a ∉ d.live then d.fault .badRelease
  else if d.frameCount ≤ 0 then d.fault .frameCount
  else if cfg.frameMax < d.frameCount then
    tcpUvKick cfg fs uv (setFrameCount (freePacket d a) (cfg.frameMax-1))
  else setFrameCount (freePacket d a) (d.frameCount-1)

def adbUvAfterWrite (d : Daemon ω) (up : ApacketUv) (fail : Bool) : Daemon ω :=
  if fail then
    (adbHalApacketRelease cfg fs uv d up.addr).next fun d => opsClose d .writeFailed
  else if 0 < up.p.writeLen then adbSendDataFrame uv d up
  else adbHalApacketRelease cfg fs uv d up.addr

/-! Callbacks of the services for a frame: the returned int, the packet, the daemon. -/

def shellWrite (d : Daemon ω) (a : ℕ) (svc : Service) (up : ApacketUv) : ℤ × Daemon ω :=
  serviceWrite uv d a svc up

def atcpStreamOnWrite (d : Daemon ω) (a : ℕ) (svc : Service) (state : StreamState)
    (up : ApacketUv) : ℤ × Daemon ω :=
  if state.index < StreamState.connected.index then (-1, d) else serviceWrite uv d a svc up

def onWriteFrame (d : Daemon ω) (a : ℕ) (up : ApacketUv) : ℤ × ApacketUv × Daemon ω :=
  match d.alive a with
  | none => (1, up, d.fault .useAfterFree)
  | some svc =>
    let d := d.emit (.onWrite a)
    match svc.kind with
    | .sync s =>
      let r := fileSyncOnWrite cfg fs ⟨s,up.p,d.os,[]⟩
      (r.1, { up with p := r.2.p }, syncDone d a svc r.2)
    | .tcp state =>
      let r := atcpStreamOnWrite uv d a svc state up
      (r.1, up, r.2)
    | .shell _ =>
      let r := shellWrite uv d a svc up
      (r.1, up, r.2)

/-- uv_read_start fails on a closing stream only. -/
def atcpStreamOnAck (d : Daemon ω) (a : ℕ) (svc : Service) (state : StreamState) :
    ℤ × Daemon ω :=
  if state = .waitAck then
    (if svc.stream.active = false ∧ svc.stream.closing = true then -eINVAL else 0,
      d.setService a (adbHalSocketStart { svc with kind := .tcp .connected }))
  else (0, d)

def shellAck (d : Daemon ω) (a : ℕ) (svc : Service) : ℤ × Daemon ω :=
  (0, d.setService a (shellKick { svc with kind := .shell false } false))

def onAckFrame (d : Daemon ω) (a : ℕ) (up : ApacketUv) : ℤ × ApacketUv × Daemon ω :=
  match d.alive a with
  | none => (1, up, d.fault .useAfterFree)
  | some svc =>
    let d := d.emit (.onAck a)
    match svc.kind with
    | .sync s =>
      let r := fileSyncOnAck cfg fs ⟨s,up.p,d.os,[]⟩
      (r.1, { up with p := r.2.p }, syncDone d a svc r.2)
    | .tcp state =>
      let r := atcpStreamOnAck d a svc state
      (r.1, up, r.2)
    | .shell _ =>
      let r := shellAck d a svc
      (r.1, up, r.2)

/-! Opening a service. -/

/-- atoi, with the clamping of strtol and the cut to an int. -/
def atoi (s : List UInt8) : ℤ :=
  let clamp (v : ℤ) : ℤ := (max (-2^63) (min v (2^63-1))+2^31)%2^32-2^31
  match s.dropWhile isspace with
  | 45 :: s => clamp (-digitsValue 10 s)
  | 43 :: s => clamp (digitsValue 10 s)
  | s => clamp (digitsValue 10 s)

inductive ServiceName
  | sync
  | tcp (port : ℤ)
  | shell (cmd : List UInt8)
  | reboot (target : List UInt8)
  | unknown
deriving DecidableEq

/-- strncmp of the name with a text. -/
def ApacketUv.NameStarts (up : ApacketUv) (s : List UInt8) : Prop :=
  slice up.p.data 0 s.length = s

instance (up : ApacketUv) (s : List UInt8) : Decidable (up.NameStarts s) :=
  inferInstanceAs (Decidable (_ = _))

/-- The string n bytes behind the start of the name. -/
def ApacketUv.nameFrom (up : ApacketUv) (n : ℕ) : List UInt8 := cstring up.p.data n (up.cap-n)

/-- The comparisons of adb_service_open with the services of this build. A shell takes its
command from behind "shell:". -/
def serviceName (up : ApacketUv) : ServiceName :=
  if cfg.fileService = true ∧ up.NameStarts (ascii "sync:") then .sync
  else if cfg.socketService = true ∧ up.NameStarts (ascii "tcp:") then
    .tcp (atoi (up.nameFrom 4))
  else if cfg.shellService = true ∧ up.NameStarts (ascii "shell") then .shell (up.nameFrom 6)
  else if up.NameStarts (ascii "reboot:") then .reboot (up.nameFrom 7)
  else .unknown

def newService (kind : ServiceKind) (stream : UvStream) : Service :=
  ⟨0,0,kind,stream,false,false⟩

def newSyncService (d : Daemon ω) : Option Service × Daemon ω :=
  let r := uv.afsMalloc d.os
  (r.2.map (fun raw => newService (.sync (fileSyncService raw)) .idle), d.setOs r.1)

def tcpForwardService (d : Daemon ω) (up : ApacketUv) (port : ℤ) :
    Option Service × ApacketUv × Daemon ω :=
  if port = 0 then (none, up, d)
  else
    let r := uv.connect d.os port
    match r.2 with
    | none =>
      (some (newService (.tcp .notConnected) { UvStream.idle with connecting := true }),
        up.setWriteLen apacketServiceInitAsync, d.setOs r.1)
    | some .connect => (none, up, (d.setOs r.1).emit .handleLost)
    | some _ => (none, up, d.setOs r.1)

def shellService (d : Daemon ω) (cmd : List UInt8) : Option Service × Daemon ω :=
  let r := uv.shell d.os cmd
  match r.2 with
  | none => (some (shellKick (newService (.shell false) .idle) false), d.setOs r.1)
  | some .pipeOpen | some .spawn => (none, (d.setOs r.1).emit .handleLost)
  | some _ => (none, d.setOs r.1)

/-- The rest of adb_service_open, with adb_register_service. -/
def registerService (d : Daemon ω) (svc : Service) (peerId : ℕ) (params : ServiceParams) :
    ℕ × Daemon ω :=
  (d.fresh,
    { (d.setService d.fresh { svc with id := d.nextServiceId, peerId := peerId }) with
      services := d.fresh :: d.services
      nextServiceId := u32 (d.nextServiceId+1)
      fresh := d.fresh+1 }.emit (.opened d.fresh params))

/-- The end of adb_service_open behind the constructor of the service. -/
def finishOpen (r : Option Service × ApacketUv × Daemon ω) (params : ServiceParams) :
    Option ℕ × ApacketUv × Daemon ω :=
  match r.1 with
  | none => (none, r.2)
  | some svc =>
    let n := registerService r.2.2 svc r.2.1.p.msg.arg0 params
    (some n.1, r.2.1, n.2)

/-- The address of the service, the packet, the daemon. -/
def adbServiceOpen (d : Daemon ω) (up : ApacketUv) : Option ℕ × ApacketUv × Daemon ω :=
  if d.nextServiceId = 0 then (none, up, d.fault .idOverflow)
  else match serviceName cfg up with
    | .sync =>
      let r := newSyncService uv d
      finishOpen (r.1, up, r.2) .sync
    | .tcp port => finishOpen (tcpForwardService uv d up port) (.tcp port)
    | .shell cmd =>
      let r := shellService uv d cmd
      finishOpen (r.1, up, r.2) (.shell cmd)
    | .reboot target => (none, up, d.emit (.reboot target))
    | .unknown => (none, up, d)

/-! The frames of the host. -/

/-- The name gets its terminator in the last byte of the payload. -/
def terminateName (up : ApacketUv) : ApacketUv :=
  up.setData (store up.p.data (if 0 < up.p.msg.dataLength then up.p.msg.dataLength-1 else 0) [0])

/-- handle_open_frame behind adb_service_open. -/
def afterOpen (r : Option ℕ × ApacketUv × Daemon ω) : Daemon ω :=
  r.2.2.next fun d =>
    let up := r.2.1
    match r.1 with
    | none =>
      if 0 < up.p.writeLen then
        adbSendOkayFrameWithData uv { d with nextServiceId := u32 (d.nextServiceId+1) } up
          d.nextServiceId up.p.msg.arg0
      else sendCloseFrame uv d up 0 up.p.msg.arg0
    | some a =>
      if up.p.writeLen = apacketServiceInitAsync then adbHalApacketRelease cfg fs uv d up.addr
      else d.withService a fun svc => adbSendOkayFrameWithData uv d up svc.id svc.peerId

def handleOpenFrame (d : Daemon ω) (up : ApacketUv) : Daemon ω :=
  if up.p.msg.arg0 = 0 ∨ up.p.msg.arg1 ≠ 0 then adbHalApacketRelease cfg fs uv d up.addr
  else afterOpen cfg fs uv (adbServiceOpen cfg uv d (terminateName up))

def adbClientFindService (d : Daemon ω) (id peerId : ℕ) : Option ℕ :=
  d.services.find? fun a =>
    match d.heap a with
    | none => false
    | some svc => svc.id = id ∧ (peerId = 0 ∨ svc.peerId = peerId)

def handleCloseFrame (d : Daemon ω) (up : ApacketUv) : Daemon ω :=
  let d := match adbClientFindService d up.p.msg.arg1 up.p.msg.arg0 with
    | some a => adbServiceClose fs uv d a none
    | none => d
  d.next fun d => adbHalApacketRelease cfg fs uv d up.addr

def handleWriteFrame (d : Daemon ω) (up : ApacketUv) : Daemon ω :=
  match adbClientFindService d up.p.msg.arg1 up.p.msg.arg0 with
  | none => sendCloseFrame uv d up up.p.msg.arg1 up.p.msg.arg0
  | some a =>
    let r := onWriteFrame cfg fs uv d a up
    r.2.2.next fun d =>
      if r.1 < 0 then adbServiceClose fs uv d a (some r.2.1)
      else if r.1 = 0 then
        d.withService a fun svc => adbSendOkayFrameWithData uv d r.2.1 svc.id svc.peerId
      else d

/-- An OKAY gives the peer id to a service that has none yet. -/
def updatePeerId (d : Daemon ω) (a peerId : ℕ) : Daemon ω :=
  d.withService a fun svc =>
    if svc.peerId = 0 then d.setService a { svc with peerId := peerId } else d

def handleOkayFrame (d : Daemon ω) (up : ApacketUv) : Daemon ω :=
  match adbClientFindService d up.p.msg.arg1 0 with
  | none => sendCloseFrame uv d up up.p.msg.arg1 up.p.msg.arg0
  | some a =>
    (updatePeerId d a up.p.msg.arg0).next fun d =>
      let r := onAckFrame cfg fs d a up
      r.2.2.next fun d =>
        if r.1 < 0 then adbServiceClose fs uv d a (some r.2.1)
        else if 0 < r.1 then d
        else if 0 < r.2.1.p.writeLen then
          d.withService a fun svc =>
            adbSendDataFrame uv d
              (r.2.1.message r.2.1.p.msg.command svc.id svc.peerId r.2.1.p.msg.dataLength)
        else adbHalApacketRelease cfg fs uv d r.2.1.addr

def sendAuthRequest (d : Daemon ω) (up : ApacketUv) : Daemon ω :=
  let r := uv.random d.os
  match r.2 with
  | none =>
    (adbHalApacketRelease cfg fs uv (d.setOs r.1) up.addr).next fun d => opsClose d .randomFailed
  | some m =>
    let token := slice m 0 cfg.tokenSize
    sendFrame uv { (d.setOs r.1) with token := token }
      ((up.setData (store up.p.data 0 token)).message aAuth adbAuthToken 0 cfg.tokenSize)

/-- send_cnxn_frame and is_connected = 1 -/
def acceptConnection (d : Daemon ω) (up : ApacketUv) : Daemon ω :=
  (sendCnxnFrame cfg uv d up).next fun d => { d with isConnected := true }

/-- No signature is ever accepted: the keys are skipped. -/
def handleAuthFrame (d : Daemon ω) (up : ApacketUv) : Daemon ω :=
  if up.p.msg.arg0 = adbAuthToken then adbHalApacketRelease cfg fs uv d up.addr
  else if up.p.msg.arg0 = adbAuthSignature then sendAuthRequest cfg fs uv d up
  else if up.p.msg.arg0 = adbAuthRsaPublicKey ∧ cfg.authPubkey = true then
    acceptConnection cfg uv d up
  else adbHalApacketRelease cfg fs uv d up.addr

def invalidFrame (d : Daemon ω) (up : ApacketUv) : Daemon ω :=
  (adbHalApacketRelease cfg fs uv d up.addr).next fun d => opsClose d .badCommand

/-- The switch over the command of a frame behind the comment "Client is connected". -/
def dispatchFrame (d : Daemon ω) (up : ApacketUv) : Daemon ω :=
  if up.p.msg.command = aOpen then handleOpenFrame cfg fs uv d up
  else if up.p.msg.command = aClse then handleCloseFrame cfg fs uv d up
  else if up.p.msg.command = aWrte then handleWriteFrame cfg fs uv d up
  else if up.p.msg.command = aOkay then handleOkayFrame cfg fs uv d up
  else invalidFrame cfg fs uv d up

def adbProcessPacket (d : Daemon ω) (up : ApacketUv) : Daemon ω :=
  let d := d.emit (.handed d.isConnected up.p.msg up.p.payload)
  let up := up.setWriteLen 0
  if up.p.msg.command = aCnxn then
    if cfg.authentication = true ∧ d.isConnected = false then sendAuthRequest cfg fs uv d up
    else acceptConnection cfg uv d up
  else if cfg.authentication = true ∧ up.p.msg.command = aAuth then
    if d.isConnected then invalidFrame cfg fs uv d up else handleAuthFrame cfg fs uv d up
  else dispatchFrame cfg fs uv d up

end MicroADB
