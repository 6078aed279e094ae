import MicroADB.AdbFrame
import MicroADB.FileSync

/-! The daemon of one client as libuv drives it: stream handles, packets, services, the
state of the program and the steps that allocate a packet, write it and close a handle. -/
namespace MicroADB
open ByteMemory

/-- apacket_uv_t, with the identity of its block and the size of its data area. -/
structure ApacketUv where
  addr : ℕ
  cap : ℕ
  p : Apacket
deriving Inhabited

/-- A packet as malloc returns it and as a frame is received into it. The bytes start at
&p.msg. -/
structure RawPacket where
  addr : ℕ
  cap : ℕ
  writeLen : ℕ
  raw : Mem

def RawPacket.packet (ap : RawPacket) : ApacketUv where
  addr := ap.addr
  cap := ap.cap
  p :=
    { writeLen := ap.writeLen
      msg := amessage ap.raw
      data := fun i => ap.raw (sizeofAmessage+i) }

/-- A uv_stream_t. uv_is_active is active: it is being read. -/
structure UvStream where
  active : Bool
  closing : Bool
  /-- Reads were stopped because there was no packet for them. The code does not keep this. -/
  starved : Bool
  connecting : Bool
  /-- The packets of the write requests that have not called back, oldest first. -/
  writes : List ApacketUv
deriving Inhabited

namespace UvStream

def idle : UvStream := ⟨false,false,false,false,[]⟩

/-- uv_read_start, which fails on a closing stream. -/
def readStart (s : UvStream) : UvStream :=
  if s.closing then s else { s with active := true, starved := false }

def readStop (s : UvStream) : UvStream := { s with active := false }

/-- uv_read_stop on UV_ENOBUFS. -/
def starve (s : UvStream) : UvStream :=
  if s.closing then s else { s with active := false, starved := true }

def close (s : UvStream) : UvStream := { s with active := false, starved := false, closing := true }

def push (s : UvStream) (up : ApacketUv) : UvStream := { s with writes := s.writes ++ [up] }

/-- No request on the stream is waiting for its callback. -/
def Quiet (s : UvStream) : Prop := s.writes = [] ∧ s.connecting = false

instance (s : UvStream) : Decidable s.Quiet :=
  decidable_of_iff (s.writes.isEmpty = true ∧ s.connecting = false) (by simp [Quiet])

end UvStream

/-- enum stream_state -/
inductive StreamState
  | errorClose
  | notConnected
  | notifyClient
  | connected
  | waitAck
deriving DecidableEq, Repr

def StreamState.index : StreamState → ℕ
  | .errorClose => 0
  | .notConnected => 1
  | .notifyClient => 2
  | .connected => 3
  | .waitAck => 4

/-- The service structure around an adb_service_t. -/
inductive ServiceKind
  | sync (afs : AfsService)
  | tcp (state : StreamState)
  | shell (waitAck : Bool)

/-- The structure of a sync service. -/
def ServiceKind.afs : ServiceKind → Option AfsService
  | .sync s => some s
  | _ => none

/-- The state of a tcp service. -/
def ServiceKind.tcpState : ServiceKind → Option StreamState
  | .tcp state => some state
  | _ => none

/-- The wait_ack of a shell. -/
def ServiceKind.shellAck : ServiceKind → Option Bool
  | .shell waitAck => some waitAck
  | _ => none

theorem ServiceKind.afs_eq {kind : ServiceKind} {s : AfsService} (h : kind.afs = some s) :
    kind = .sync s := by
  cases kind with
  | sync s' => exact congrArg ServiceKind.sync (Option.some.inj h)
  | _ => cases h

theorem ServiceKind.tcp_state_eq {kind : ServiceKind} {state : StreamState}
    (h : kind.tcpState = some state) : kind = .tcp state := by
  cases kind with
  | tcp state' => exact congrArg ServiceKind.tcp (Option.some.inj h)
  | _ => cases h

theorem ServiceKind.shell_ack_eq {kind : ServiceKind} {waitAck : Bool}
    (h : kind.shellAck = some waitAck) : kind = .shell waitAck := by
  cases kind with
  | shell waitAck' => exact congrArg ServiceKind.shell (Option.some.inj h)
  | _ => cases h

structure Service where
  id : ℕ
  peerId : ℕ
  kind : ServiceKind
  /-- The socket of a tcp service, the pipe of a shell. -/
  stream : UvStream
  /-- uv_close of the shell's process was called. -/
  exiting : Bool
  freed : Bool

/-- What a service is opened with. -/
inductive ServiceParams
  | sync
  | tcp (port : ℤ)
  | shell (cmd : List UInt8)
deriving DecidableEq, Repr

/-- Why client->ops->close is called. -/
inductive CloseReason
  | writeFailed
  | randomFailed
  | badCommand
  | outOfMemory
  | readError
  | badHeader
  | badData
deriving DecidableEq, Repr

/-- Where the program aborts, or where C gives it no meaning any more. -/
inductive Fault
  /-- assert(client->frame_count > 0) -/
  | frameCount
  | assertion
  | badRelease
  | useAfterFree
  | nullNext
  | closingTwice
  | idOverflow
deriving DecidableEq, Repr

/-- A step of the daemon that the theorems speak about. -/
inductive Event
  | sync (a : ℕ) (e : SyncEvent)
  | alloc (a : ℕ)
  | refused
  | outOfMemory
  | release (a : ℕ)
  | received (bs : List UInt8)
  /-- A frame is handed to adb_process_packet, with is_connected as it was then. -/
  | handed (isConnected : Bool) (msg : Amessage) (payload : List UInt8)
  /-- client->ops->write of the packet at a; ok when libuv took the frame for the peer. -/
  | write (a : ℕ) (msg : Amessage) (payload : List UInt8) (ok : Bool)
  /-- client->ops->close -/
  | close (why : CloseReason)
  | opened (a : ℕ) (params : ServiceParams)
  /-- A start-up failed and freed a service with a handle that was initialised in it. -/
  | handleLost
  | reboot (target : List UInt8)
  | onWrite (a : ℕ)
  /-- libuv took the packet at b for the stream of the service at a. -/
  | kept (a b : ℕ)
  | onAck (a : ℕ)
  | onKick (a : ℕ)
  | onClose (a : ℕ)
  /-- adb_service_close is called, with the service in the list or not. -/
  | serviceClose (a : ℕ) (registered : Bool)
  | notFound (a : ℕ)
  | freed (a : ℕ)
  | clientFreed
  | fault (f : Fault)
deriving DecidableEq

/-- The exits of shell_service that return NULL, in their order. -/
inductive ShellExit
  | service
  | argv
  | ptmx
  | grant
  | unlock
  | slave
  | pipeInit
  | pipeOpen
  | spawn
deriving DecidableEq

/-- The exits of tcp_forward_service behind its test of the port. -/
inductive ConnectExit
  | service
  | tcpInit
  | connect
deriving DecidableEq

/-- libuv and malloc with states ω, as the outcomes of an arbitrary environment: NULL and
failures as none or false, the bytes of new memory as they happen to be. -/
structure Uv (ω : Type) where
  /-- A packet: its write_len, and the bytes from its message on. -/
  packetMalloc : ω → ω × Option (ℕ × Mem)
  /-- uv_write to a stream that is not closing. -/
  write : ω → ω × Bool
  random : ω → ω × Option Mem
  afsMalloc : ω → ω × Option AfsService
  /-- The exit that the start-up of a tcp service takes; none when it succeeds. -/
  connect : ω → ℤ → ω × Option ConnectExit
  /-- The same for a shell. -/
  shell : ω → List UInt8 → ω × Option ShellExit

/-- An environment in which everything succeeds, for runs on fixed inputs. -/
def plainUv : Uv Unit where
  packetMalloc s := (s, some (0, fun _ => 0))
  write s := (s, true)
  random s := (s, some (fun _ => 0))
  afsMalloc s := (s, some default)
  connect s _ := (s, none)
  shell s _ := (s, none)

/-- adb_client_t, the adb_client_uv_t and the handle around it, the services and packets
in memory, the environment and the trace. -/
structure Daemon (ω : Type) where
  nextServiceId : ℕ
  /-- The list of services by their addresses, newest first. -/
  services : List ℕ
  isConnected : Bool
  token : List UInt8
  curPacket : Option RawPacket
  curLen : ℕ
  frameCount : ℤ
  socket : UvStream
  heap : ℕ → Option Service
  /-- The addresses of the packets that have been allocated and not released. -/
  live : List ℕ
  /-- The address of the next block. -/
  fresh : ℕ
  /-- The client has been freed. -/
  gone : Bool
  crashed : Bool
  os : ω
  log : List Event

variable {ω : Type}

namespace Daemon

def emit (d : Daemon ω) (e : Event) : Daemon ω := { d with log := d.log ++ [e] }

def fault (d : Daemon ω) (f : Fault) : Daemon ω := { d.emit (.fault f) with crashed := true }

/-- The next statement, which a program that has crashed does not reach. -/
def next (d : Daemon ω) (f : Daemon ω → Daemon ω) : Daemon ω := if d.crashed then d else f d

def setOs (d : Daemon ω) (os : ω) : Daemon ω := { d with os := os }

def setSocket (d : Daemon ω) (s : UvStream) : Daemon ω := { d with socket := s }

def setService (d : Daemon ω) (a : ℕ) (svc : Service) : Daemon ω :=
  { d with heap := Function.update d.heap a (some svc) }

/-- A service that has not been freed. -/
def alive (d : Daemon ω) (a : ℕ) : Option Service := (d.heap a).filter (fun svc => !svc.freed)

/-- Code that dereferences a service. -/
def withService (d : Daemon ω) (a : ℕ) (f : Service → Daemon ω) : Daemon ω :=
  match d.alive a with
  | none => d.fault .useAfterFree
  | some svc => f svc

@[simp] theorem set_service_heap (d : Daemon ω) (a : ℕ) (svc : Service) :
    (d.setService a svc).heap = Function.update d.heap a (some svc) := rfl

@[simp] theorem set_service_services (d : Daemon ω) (a : ℕ) (svc : Service) :
    (d.setService a svc).services = d.services := rfl

@[simp] theorem emit_services (d : Daemon ω) (e : Event) : (d.emit e).services = d.services := rfl

@[simp] theorem emit_heap (d : Daemon ω) (e : Event) : (d.emit e).heap = d.heap := rfl

@[simp] theorem emit_alive (d : Daemon ω) (e : Event) (a : ℕ) : (d.emit e).alive a = d.alive a := rfl

@[simp] theorem emit_log (d : Daemon ω) (e : Event) : (d.emit e).log = d.log ++ [e] := rfl

@[simp] theorem emit_crashed (d : Daemon ω) (e : Event) : (d.emit e).crashed = d.crashed := rfl

@[simp] theorem emit_socket (d : Daemon ω) (e : Event) : (d.emit e).socket = d.socket := rfl

@[simp] theorem emit_os (d : Daemon ω) (e : Event) : (d.emit e).os = d.os := rfl

@[simp] theorem emit_frame_count (d : Daemon ω) (e : Event) :
    (d.emit e).frameCount = d.frameCount := rfl

@[simp] theorem set_os_crashed (d : Daemon ω) (os : ω) : (d.setOs os).crashed = d.crashed := rfl

@[simp] theorem set_os_socket (d : Daemon ω) (os : ω) : (d.setOs os).socket = d.socket := rfl

@[simp] theorem set_os_services (d : Daemon ω) (os : ω) : (d.setOs os).services = d.services := rfl

@[simp] theorem set_os_heap (d : Daemon ω) (os : ω) : (d.setOs os).heap = d.heap := rfl

@[simp] theorem set_os_os (d : Daemon ω) (os : ω) : (d.setOs os).os = os := rfl

@[simp] theorem set_os_frame_count (d : Daemon ω) (os : ω) :
    (d.setOs os).frameCount = d.frameCount := rfl

@[simp] theorem set_os_log (d : Daemon ω) (os : ω) : (d.setOs os).log = d.log := rfl

@[simp] theorem set_socket_crashed (d : Daemon ω) (s : UvStream) :
    (d.setSocket s).crashed = d.crashed := rfl

@[simp] theorem set_socket_socket (d : Daemon ω) (s : UvStream) : (d.setSocket s).socket = s := rfl

@[simp] theorem set_socket_services (d : Daemon ω) (s : UvStream) :
    (d.setSocket s).services = d.services := rfl

@[simp] theorem set_socket_heap (d : Daemon ω) (s : UvStream) :
    (d.setSocket s).heap = d.heap := rfl

@[simp] theorem set_socket_os (d : Daemon ω) (s : UvStream) : (d.setSocket s).os = d.os := rfl

@[simp] theorem set_socket_frame_count (d : Daemon ω) (s : UvStream) :
    (d.setSocket s).frameCount = d.frameCount := rfl

@[simp] theorem set_socket_log (d : Daemon ω) (s : UvStream) : (d.setSocket s).log = d.log := rfl

@[simp] theorem set_service_crashed (d : Daemon ω) (a : ℕ) (svc : Service) :
    (d.setService a svc).crashed = d.crashed := rfl

@[simp] theorem set_service_socket (d : Daemon ω) (a : ℕ) (svc : Service) :
    (d.setService a svc).socket = d.socket := rfl

@[simp] theorem set_service_os (d : Daemon ω) (a : ℕ) (svc : Service) :
    (d.setService a svc).os = d.os := rfl

@[simp] theorem set_service_frame_count (d : Daemon ω) (a : ℕ) (svc : Service) :
    (d.setService a svc).frameCount = d.frameCount := rfl

@[simp] theorem set_service_log (d : Daemon ω) (a : ℕ) (svc : Service) :
    (d.setService a svc).log = d.log := rfl

end Daemon

variable (cfg : Config) (uv : Uv ω)

/-- tcp_uv_close. uv_close aborts on a handle that is already closing. -/
def opsClose (d : Daemon ω) (why : CloseReason) : Daemon ω :=
  if d.socket.closing then d.fault .closingTwice
  else (d.setSocket d.socket.close).emit (.close why)

/-- A new block for a packet. -/
def newPacket (d : Daemon ω) (cap : ℕ) (init : ℕ × Mem) : RawPacket × Daemon ω :=
  (⟨d.fresh,cap,init.1,init.2⟩,
    { d with
      frameCount := d.frameCount+1
      live := d.fresh :: d.live
      fresh := d.fresh+1 }.emit (.alloc d.fresh))

def refuse (d : Daemon ω) : Daemon ω := { d with frameCount := cfg.frameMax+1 }.emit .refused

def adbUvPacketAllocate (d : Daemon ω) (beforeConnect : Bool) : Option RawPacket × Daemon ω :=
  if cfg.frameMax ≤ d.frameCount then (none, refuse cfg d)
  else
    let r := uv.packetMalloc d.os
    match r.2 with
    | none => (none, opsClose ((d.setOs r.1).emit .outOfMemory) .outOfMemory)
    | some init =>
      let cap := if beforeConnect then cfg.cnxnPayloadSize else cfg.payloadSize
      let n := newPacket (d.setOs r.1) cap init
      (some n.1, n.2)

def adbHalApacketAllocate (d : Daemon ω) : Option ApacketUv × Daemon ω :=
  let r := adbUvPacketAllocate cfg uv d false
  (r.1.map RawPacket.packet, r.2)

/-- tcp_uv_write. uv_write fails on a closing stream. -/
def tcpUvWrite (d : Daemon ω) (up : ApacketUv) : ℤ × Daemon ω :=
  let r := if d.socket.closing then (d.os, false) else uv.write d.os
  let d := (d.setOs r.1).emit (.write up.addr up.p.msg up.p.payload r.2)
  if r.2 then (0, d.setSocket (d.socket.push up)) else (-1, d)

/-- uv_write to the stream of a service, 1 when the service keeps the packet. -/
def serviceWrite (d : Daemon ω) (a : ℕ) (svc : Service) (up : ApacketUv) : ℤ × Daemon ω :=
  if svc.stream.closing then (-1, d)
  else
    let r := uv.write d.os
    if r.2 then
      (1, ((d.setOs r.1).emit (.kept a up.addr)).setService a
        { svc with stream := svc.stream.push up })
    else (-1, d.setOs r.1)

/-- uv_close of the stream of a service. -/
def uvCloseStream (d : Daemon ω) (a : ℕ) (svc : Service) : Daemon ω :=
  if svc.stream.closing then d.fault .closingTwice
  else d.setService a { svc with stream := svc.stream.close }

def freeService (d : Daemon ω) (a : ℕ) (svc : Service) : Daemon ω :=
  (d.setService a { svc with freed := true }).emit (.freed a)

end MicroADB
