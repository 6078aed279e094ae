import MicroADB.AdbClient
import MicroADB.EventRun

/-! The callbacks that libuv delivers, in any order, and the runs of a client from its
creation. -/
namespace MicroADB
open ByteMemory EventRun

variable {ω : Type} (cfg : Config) (fs : FileSystem ω) (uv : Uv ω)

/-- What a read finds: some bytes, none (nread = 0), or an error or the end. -/
inductive ReadResult
  | data (bs : List UInt8)
  | error

/-- A callback of libuv. The status of a request is fail when it is negative. -/
inductive Input
  | transportRead (r : ReadResult)
  | transportWritten (fail : Bool)
  | transportClosed
  | streamRead (a : ℕ) (r : ReadResult)
  | streamWritten (a : ℕ) (fail : Bool)
  | connected (a : ℕ) (fail : Bool)
  | streamClosed (a : ℕ)
  | processClosed (a : ℕ)

/-! Receiving a frame. -/

/-- The length that adb_uv_allocate_frame offers, 0 when there is no packet. -/
def adbUvAllocateFrame (d : Daemon ω) : ℕ × Daemon ω :=
  match d.curPacket with
  | some ap =>
    if d.curLen < sizeofAmessage then (sizeofAmessage-d.curLen, d)
    else (sizeofAmessage+(amessage ap.raw).dataLength-d.curLen, d)
  | none =>
    let r := adbUvPacketAllocate cfg uv d (!d.isConnected)
    match r.1 with
    | none => (0, r.2)
    | some ap => (sizeofAmessage, { r.2 with curPacket := some ap, curLen := 0 })

/-- The limit on data_length that is in force. -/
def frameLimit (isConnected : Bool) : ℕ :=
  if isConnected then cfg.payloadSize else cfg.cnxnPayloadSize

/-- adb_check_frame_header, or adb_check_auth_frame_header before the connection. -/
def checkFrameHeader (isConnected : Bool) (p : Apacket) : ℤ :=
  if isConnected then adbCheckFrameHeader cfg p else adbCheckAuthFrameHeader cfg p

/-- adb_uv_on_data_available for nread = bs.length > 0, up to the call of
adb_process_packet: libuv has stored the bytes at the address that was offered. -/
def receiveBytes (d : Daemon ω) (ap : RawPacket) (bs : List UInt8) :
    Option ApacketUv × Daemon ω :=
  let ap := { ap with raw := store ap.raw d.curLen bs }
  let d := { d with curPacket := some ap }.emit (.received bs)
  if d.curLen < sizeofAmessage ∧ sizeofAmessage ≤ d.curLen+bs.length ∧
      checkFrameHeader cfg d.isConnected ap.packet.p ≠ 0 then
    (none, opsClose d .badHeader)
  else
    let d := { d with curLen := d.curLen+bs.length }
    if d.curLen < sizeofAmessage+(amessage ap.raw).dataLength then (none, d)
    else if adbCheckFrameData ap.packet.p ≠ 0 then (none, opsClose d .badData)
    else (some ap.packet, { d with curPacket := none })

/-- The exit of adb_uv_on_data_available for nread = 0. -/
def releaseUnused (d : Daemon ω) (ap : RawPacket) : Daemon ω :=
  if d.curLen = 0 then
    (adbHalApacketRelease cfg fs uv d ap.addr).next fun d => { d with curPacket := none }
  else d

/-- adb_uv_on_data_available with a packet, up to the call of adb_process_packet. -/
def adbUvOnDataAvailable (d : Daemon ω) (r : ReadResult) (len : ℕ) : Option ApacketUv × Daemon ω :=
  match d.curPacket, r with
  | some ap, .data bs =>
    if bs.take len = [] then (none, releaseUnused cfg fs uv d ap)
    else receiveBytes cfg d ap (bs.take len)
  | none, .data _ => (none, d.fault .assertion)
  | _, .error => (none, opsClose d .readError)

/-- A read of the transport, up to the call of adb_process_packet. Without room libuv
reports UV_ENOBUFS and the read is stopped. -/
def receive (d : Daemon ω) (r : ReadResult) : Option ApacketUv × Daemon ω :=
  let n := adbUvAllocateFrame cfg uv d
  if n.2.crashed then (none, n.2)
  else if n.1 = 0 then
    (none, n.2.setSocket
      (if d.curPacket.isNone then n.2.socket.starve else n.2.socket.readStop))
  else adbUvOnDataAvailable cfg fs uv n.2 r n.1

def transportRead (d : Daemon ω) (r : ReadResult) : Daemon ω :=
  let n := receive cfg fs uv d r
  match n.1 with
  | none => n.2
  | some up => n.2.next fun d => adbProcessPacket cfg fs uv d up

/-! The end of the client. -/

/-- The loop of adb_destroy_client, which has read the next field before. -/
def destroyLoop : List ℕ → Daemon ω → Daemon ω
  | [], d => { d with gone := true }.emit .clientFreed
  | a :: rest, d => (adbServiceClose fs uv d a none).next fun d => destroyLoop rest d

def adbDestroyClient (d : Daemon ω) : Daemon ω := destroyLoop fs uv d.services d

def adbUvCloseClient (d : Daemon ω) : Daemon ω :=
  match d.curPacket with
  | some ap =>
    (adbHalApacketRelease cfg fs uv d ap.addr).next fun d =>
      adbDestroyClient fs uv { d with curPacket := none }
  | none => adbDestroyClient fs uv d

/-! The streams of the services. -/

/-- pipe_on_data_available behind alloc_buffer, with a packet. -/
def pipeOnDataAvailable (d : Daemon ω) (a : ℕ) (svc : Service) (up : ApacketUv)
    (r : ReadResult) : Daemon ω :=
  match r with
  | .error => adbServiceClose fs uv d a (some up)
  | .data bs =>
    let bs := bs.take cfg.payloadSize
    if bs = [] then adbServiceClose fs uv d a (some up)
    else
      let d := d.setService a
        { svc with kind := .shell true, stream := svc.stream.readStop }
      adbSendDataFrame uv d
        (((up.setData (store up.p.data 0 bs)).setWriteLen bs.length).message aWrte svc.id
          svc.peerId up.p.msg.dataLength)

/-- alloc_buffer and pipe_on_data_available. -/
def shellRead (d : Daemon ω) (a : ℕ) (svc : Service) (waitAck : Bool) (r : ReadResult) :
    Daemon ω :=
  if waitAck then d.fault .assertion
  else
    let n := adbHalApacketAllocate cfg uv d
    n.2.next fun d =>
      match n.1 with
      | none => d.setService a { svc with stream := svc.stream.starve }
      | some up => pipeOnDataAvailable cfg fs uv d a svc up r

/-- tcp_stream_on_data_cb. The packet's data_length is the number of bytes read. -/
def tcpStreamOnDataCb (d : Daemon ω) (a : ℕ) (svc : Service) (state : StreamState)
    (up : ApacketUv) : Daemon ω :=
  if state ≠ .connected then adbServiceClose fs uv d a (some up)
  else if up.p.msg.dataLength = 0 then adbServiceClose fs uv d a (some up)
  else
    let d := d.setService a { svc with kind := .tcp .waitAck, stream := svc.stream.readStop }
    adbSendDataFrame uv d
      ((up.setWriteLen up.p.msg.dataLength).message aWrte svc.id svc.peerId up.p.msg.dataLength)

/-- tcp_stream_on_data_available with a packet. -/
def tcpStreamOnDataAvailable (d : Daemon ω) (a : ℕ) (svc : Service) (state : StreamState)
    (up : ApacketUv) (r : ReadResult) : Daemon ω :=
  let received (n : ℕ) (m : Mem) : ApacketUv :=
    (up.setData m).message up.p.msg.command up.p.msg.arg0 up.p.msg.arg1 n
  match r with
  | .error => tcpStreamOnDataCb fs uv d a svc state (received 0 up.p.data)
  | .data bs =>
    let bs := bs.take cfg.payloadSize
    if bs = [] then adbHalApacketRelease cfg fs uv d up.addr
    else
      let svc := { svc with stream := svc.stream.readStop }
      tcpStreamOnDataCb fs uv (d.setService a svc) a svc state
        (received bs.length (store up.p.data 0 bs))

/-- tcp_stream_allocate_frame and tcp_stream_on_data_available. -/
def tcpRead (d : Daemon ω) (a : ℕ) (svc : Service) (state : StreamState) (r : ReadResult) :
    Daemon ω :=
  let n := adbHalApacketAllocate cfg uv d
  n.2.next fun d =>
    match n.1 with
    | none => d.setService a { svc with stream := svc.stream.starve }
    | some up => tcpStreamOnDataAvailable cfg fs uv d a svc state up r

/-- shell_after_write, and stream_send_data_frame_cb behind fwd_tcp_after_write: the
packet goes back with the CLSE or the OKAY. -/
def serviceAfterWrite (d : Daemon ω) (a : ℕ) (up : ApacketUv) (fail : Bool) : Daemon ω :=
  if fail then adbServiceClose fs uv d a (some up)
  else d.withService a fun svc => adbSendOkayFrame uv d up svc.id svc.peerId

def tcpStreamOnConnectCb (d : Daemon ω) (a : ℕ) (svc : Service) (state : StreamState)
    (fail : Bool) : Daemon ω :=
  if fail = true ∨ state ≠ .notConnected then
    tryClose cfg fs uv (d.setService a { svc with kind := .tcp .errorClose, id := 0 }) a
  else tryConnect cfg uv (d.setService a { svc with kind := .tcp .notifyClient }) a

def streamRead (d : Daemon ω) (a : ℕ) (svc : Service) (r : ReadResult) : Daemon ω :=
  match svc.kind with
  | .sync _ => d
  | .tcp state => tcpRead cfg fs uv d a svc state r
  | .shell waitAck => shellRead cfg fs uv d a svc waitAck r

/-- The callback of the oldest write request. On a closing stream its status is negative, or that of
a write that was complete before. -/
def streamWritten (d : Daemon ω) (a : ℕ) (svc : Service) (fail : Bool) : Daemon ω :=
  match svc.stream.writes with
  | [] => d
  | up :: rest =>
    serviceAfterWrite fs uv
      (d.setService a { svc with stream := { svc.stream with writes := rest } }) a up fail

def streamConnected (d : Daemon ω) (a : ℕ) (svc : Service) (fail : Bool) : Daemon ω :=
  match svc.kind with
  | .tcp state =>
    let svc := { svc with stream := { svc.stream with connecting := false } }
    tcpStreamOnConnectCb cfg fs uv d a svc state fail
  | _ => d

/-- The close callback of the socket frees a tcp service, that of the pipe closes the
process. -/
def streamClosed (d : Daemon ω) (a : ℕ) (svc : Service) : Daemon ω :=
  match svc.kind with
  | .tcp _ => freeService d a svc
  | .shell _ => d.setService a { svc with exiting := true }
  | .sync _ => d

/-- A callback of the stream of a service that has been freed. -/
def touchFreed (d : Daemon ω) (svc : Service) (f : Daemon ω → Daemon ω) : Daemon ω :=
  if svc.freed then d.fault .useAfterFree else f d

/-- The requests and handles that libuv knows decide which callbacks are possible. Any
other input is none, and a program that has crashed takes no more. -/
def step (d : Daemon ω) (i : Input) : Daemon ω :=
  if d.crashed then d
  else match i with
    | .transportRead r => if d.socket.active then transportRead cfg fs uv d r else d
    | .transportWritten fail =>
      match d.socket.writes with
      | [] => d
      | up :: rest =>
        adbUvAfterWrite cfg fs uv (d.setSocket { d.socket with writes := rest }) up fail
    | .transportClosed =>
      if d.socket.closing = true ∧ d.socket.writes = [] ∧ d.gone = false then
        adbUvCloseClient cfg fs uv d
      else d
    | .streamRead a r =>
      match d.heap a with
      | some svc =>
        if svc.stream.active then touchFreed d svc fun d => streamRead cfg fs uv d a svc r else d
      | none => d
    | .streamWritten a fail =>
      match d.heap a with
      | some svc =>
        if svc.stream.writes = [] then d
        else touchFreed d svc fun d => streamWritten fs uv d a svc fail
      | none => d
    | .connected a fail =>
      match d.heap a with
      | some svc =>
        if svc.stream.connecting then
          touchFreed d svc fun d => streamConnected cfg fs uv d a svc fail
        else d
      | none => d
    | .streamClosed a =>
      match d.heap a with
      | some svc =>
        if svc.stream.closing = true ∧ svc.stream.Quiet ∧ svc.exiting = false ∧
            svc.freed = false then streamClosed d a svc
        else d
      | none => d
    | .processClosed a =>
      match d.heap a with
      | some svc =>
        if svc.exiting = true ∧ svc.freed = false then freeService d a svc else d
      | none => d

/-- A client behind tcp_on_connection: the transport is being read. -/
def daemonStart (token : List UInt8) (os : ω) : Daemon ω where
  nextServiceId := 1
  services := []
  isConnected := false
  token := token
  curPacket := none
  curLen := 0
  frameCount := 0
  socket := UvStream.idle.readStart
  heap := fun _ => none
  live := []
  fresh := 0
  gone := false
  crashed := false
  os := os
  log := []

def daemonRun (token : List UInt8) (os : ω) (is : List Input) : Daemon ω :=
  run (step cfg fs uv) (daemonStart token os) is

end MicroADB
