import MicroADB.FileSystem

/-! The service of file_sync_service.c. A handler maps the context of a callback (the
service, the packet in hand, the file system, the trace so far) to the returned int
and the context it leaves. -/
namespace MicroADB
open ByteMemory

def mkid (a b c d : Char) : ℕ :=
  a.toNat ||| b.toNat <<< 8 ||| c.toNat <<< 16 ||| d.toNat <<< 24

def idStat : ℕ := mkid 'S' 'T' 'A' 'T'
def idList : ℕ := mkid 'L' 'I' 'S' 'T'
def idSend : ℕ := mkid 'S' 'E' 'N' 'D'
def idRecv : ℕ := mkid 'R' 'E' 'C' 'V'
def idDent : ℕ := mkid 'D' 'E' 'N' 'T'
def idDone : ℕ := mkid 'D' 'O' 'N' 'E'
def idData : ℕ := mkid 'D' 'A' 'T' 'A'
def idOkay : ℕ := mkid 'O' 'K' 'A' 'Y'
def idFail : ℕ := mkid 'F' 'A' 'I' 'L'
def idQuit : ℕ := mkid 'Q' 'U' 'I' 'T'

/-! sizeof the members of union syncmsg. -/

def sizeofReq : ℕ := 8
def sizeofStat : ℕ := 16
def sizeofDent : ℕ := 20
def sizeofData : ℕ := 8
def sizeofStatus : ℕ := 8

inductive AfsState
  | waitCmd
  | waitCmdData
  | processRecv
  | processList
  | processSendFileHdr
  | processSendFileData
  | processSendSymHdr
  | processSendSymData
deriving DecidableEq, Repr, Inhabited

/-- state += 1 in the order of the enumeration. -/
def AfsState.succ : AfsState → AfsState
  | .waitCmd => .waitCmdData
  | .waitCmdData => .processRecv
  | .processRecv => .processList
  | .processList => .processSendFileHdr
  | .processSendFileHdr => .processSendFileData
  | .processSendFileData => .processSendSymHdr
  | .processSendSymHdr => .processSendSymData
  | .processSendSymData => .processSendSymData

/-- state -= 1 in the order of the enumeration. -/
def AfsState.pred : AfsState → AfsState
  | .waitCmd => .waitCmd
  | .waitCmdData => .waitCmd
  | .processRecv => .waitCmdData
  | .processList => .processRecv
  | .processSendFileHdr => .processList
  | .processSendFileData => .processSendFileHdr
  | .processSendSymHdr => .processSendFileData
  | .processSendSymData => .processSendSymHdr

/-- The anonymous union. The member written last is the constructor. -/
inductive AfsUnion
  | unset
  /-- list.d, list.path with the text in it, and list.file_ptr - list.path -/
  | list (d path : ℕ) (text : Mem) (filePtr : ℕ)
  | sendFile (fd : ℤ)
  /-- send_link.path with the string in it -/
  | sendLink (path : ℕ) (text : List UInt8)
  | recv (fd : ℤ)
deriving Inhabited

/-- send_file.fd and recv.fd are the same int. -/
def AfsUnion.fd : AfsUnion → ℤ
  | .sendFile fd => fd
  | .recv fd => fd
  | _ => 0

def AfsUnion.d : AfsUnion → ℕ
  | .list d _ _ _ => d
  | _ => 0

def AfsUnion.path : AfsUnion → ℕ
  | .list _ path _ _ => path
  | _ => 0

def AfsUnion.text : AfsUnion → Mem
  | .list _ _ text _ => text
  | _ => fun _ => 0

def AfsUnion.filePtr : AfsUnion → ℕ
  | .list _ _ _ filePtr => filePtr
  | _ => 0

def AfsUnion.linkPath : AfsUnion → ℕ
  | .sendLink path _ => path
  | _ => 0

def AfsUnion.linkText : AfsUnion → List UInt8
  | .sendLink _ text => text
  | _ => []

/-- afs_service_t. packet_ptr is kept as an index into the packet's data. -/
structure AfsService where
  packetPtr : ℕ
  state : AfsState
  cmd : ℕ
  namelen : ℕ
  u : AfsUnion
  size : ℕ
  buff : Mem
deriving Inhabited

structure SyncCtx (ω : Type) where
  svc : AfsService
  p : Apacket
  os : ω
  log : List SyncEvent

namespace SyncCtx
variable {ω : Type}

def emit (c : SyncCtx ω) (e : SyncEvent) : SyncCtx ω := { c with log := c.log ++ [e] }

def setState (c : SyncCtx ω) (s : AfsState) : SyncCtx ω :=
    { c with svc := { c.svc with state := s } }

def setSize (c : SyncCtx ω) (n : ℕ) : SyncCtx ω := { c with svc := { c.svc with size := n } }

def setNamelen (c : SyncCtx ω) (n : ℕ) : SyncCtx ω := { c with svc := { c.svc with namelen := n } }

def setUnion (c : SyncCtx ω) (u : AfsUnion) : SyncCtx ω := { c with svc := { c.svc with u := u } }

def setBuff (c : SyncCtx ω) (m : Mem) : SyncCtx ω := { c with svc := { c.svc with buff := m } }

/-- The next n unread bytes of the packet. -/
def peek (c : SyncCtx ω) (n : ℕ) : List UInt8 := slice c.p.data c.svc.packetPtr n

/-- Move packet_ptr over n bytes. -/
def skip (c : SyncCtx ω) (n : ℕ) : SyncCtx ω :=
  { c with
    svc := { c.svc with packetPtr := c.svc.packetPtr+n }
    p := { c.p with msg := { c.p.msg with dataLength := c.p.msg.dataLength-n } } }

/-- Copy the next n unread bytes behind the size bytes collected in buff. -/
def gather (c : SyncCtx ω) (n : ℕ) : SyncCtx ω :=
  (c.setBuff (store c.svc.buff c.svc.size (c.peek n))).skip n

/-- Store bytes at offset o of the reply under construction, msg = p->data + p->write_len. -/
def put (c : SyncCtx ω) (o : ℕ) (bs : List UInt8) : SyncCtx ω :=
  { c with p := { c.p with data := store c.p.data (c.p.writeLen+o) bs } }

/-- p->write_len += n, in 32 bits. -/
def advance (c : SyncCtx ω) (n : ℕ) : SyncCtx ω :=
  { c with p := { c.p with writeLen := u32 (c.p.writeLen+n) } }

end SyncCtx

/-! The system calls, each with its entry in the trace. -/
section
variable {ω : Type} (fs : FileSystem ω) (c : SyncCtx ω)

def sysStat (path : List UInt8) : Option Stat × SyncCtx ω :=
  ((fs.stat c.os path).2,
    { c with os := (fs.stat c.os path).1 }.emit (.stat path (fs.stat c.os path).2.isSome))

def sysLstat (path : List UInt8) : Option Stat × SyncCtx ω :=
  ((fs.lstat c.os path).2,
    { c with os := (fs.lstat c.os path).1 }.emit (.lstat path (fs.lstat c.os path).2.isSome))

def sysUnlink (path : List UInt8) : SyncCtx ω :=
  { c with os := fs.unlink c.os path }.emit (.unlink path)

def sysMkdir (path : List UInt8) (mode : ℕ) : ℤ × SyncCtx ω :=
  let r := fs.mkdir c.os path mode
  (r.2, { c with os := r.1 }.emit (.mkdir path r.2 (fs.errno r.1)))

def sysOpen (path : List UInt8) (mode : OpenMode) : ℤ × SyncCtx ω :=
  let r := fs.openFile c.os path mode
  (r.2, { c with os := r.1 }.emit (.openFile path mode r.2))

def sysRead (fd : ℤ) (n : ℕ) : Option (List UInt8) × SyncCtx ω :=
  let r := fs.read c.os fd n
  (r.2, { c with os := r.1 }.emit (.read fd (r.2.map List.length)))

def sysWrite (fd : ℤ) (bs : List UInt8) : ℤ × SyncCtx ω :=
  let r := fs.write c.os fd bs
  (r.2, { c with os := r.1 }.emit (.write fd bs r.2 (fs.errno r.1)))

def sysClose (fd : ℤ) : SyncCtx ω := { c with os := fs.close c.os fd }.emit (.close fd)

def sysOpendir (path : List UInt8) : Option ℕ × SyncCtx ω :=
  let r := fs.opendir c.os path
  (r.2, { c with os := r.1 }.emit (.opendir path r.2))

def sysReaddir (d : ℕ) : Option (List UInt8) × SyncCtx ω :=
  let r := fs.readdir c.os d
  (r.2, { c with os := r.1 }.emit (.readdir d r.2))

def sysClosedir (d : ℕ) : SyncCtx ω := { c with os := fs.closedir c.os d }.emit (.closedir d)

def sysMalloc (n : ℕ) : Option (ℕ × Mem) × SyncCtx ω :=
  let r := fs.malloc c.os n
  (r.2, { c with os := r.1 }.emit (.malloc n (r.2.map Prod.fst)))

def sysFree (b : ℕ) : SyncCtx ω := { c with os := fs.free c.os b }.emit (.free b)

def sysSymlink (target path : List UInt8) : ℤ × SyncCtx ω :=
  let r := fs.symlink c.os target path
  (r.2, { c with os := r.1 }.emit (.symlink target path r.2))

end

variable {ω : Type} (cfg : Config) (fs : FileSystem ω)

/-! Helpers. -/

def prepareFailMessage (c : SyncCtx ω) (reason : List UInt8) : SyncCtx ω :=
  let room : ℤ := cfg.payloadSize-sizeofData-c.p.writeLen
  let len := min reason.length (sizeT room)
  let c := c.emit (.room room)
  let c := c.put sizeofData (reason.take len)
  let c := c.put 0 (le32 idFail ++ le32 len)
  c.advance (sizeofData+len)

def prepareFailErrno (c : SyncCtx ω) : SyncCtx ω :=
  prepareFailMessage cfg c (fs.strerror (fs.errno c.os))

def prepareOkayMessage (c : SyncCtx ω) : SyncCtx ω :=
  (c.put 0 (le32 idOkay ++ le32 0)).advance sizeofStatus

def readFromPacket (c : SyncCtx ω) (size : ℕ) : ℤ × SyncCtx ω :=
  if size < c.svc.size ∨ cfg.pathMax < size then (-eINVAL, c.setSize 0)
  else
    let chunkSize := min (size-c.svc.size) c.p.msg.dataLength
    let c' := (c.gather chunkSize).setSize (c.svc.size+chunkSize)
    if c'.svc.size = size then (0, c'.setSize 0) else (-eAGAIN, c')

/-- The test of the value that read_from_packet returned: wait for more, fail, or go on. -/
def afterRead (r : ℤ × SyncCtx ω) (fail next : SyncCtx ω → ℤ × SyncCtx ω) : ℤ × SyncCtx ω :=
  if r.1 ≠ 0 then if r.1 = -eAGAIN then (1, r.2) else fail r.2 else next r.2

/-- The string in buff. -/
def SyncCtx.name (c : SyncCtx ω) : List UInt8 := cstring c.svc.buff 0 cfg.pathMax

/-- The loop of create_path_directories, with x the index of the last slash seen. -/
def createPathLoop : ℕ → SyncCtx ω → ℕ → ℤ × SyncCtx ω
  | 0, c, _ => (0, c)
  | n+1, c, x =>
    match strchr c.svc.buff 47 (x+1) (cfg.pathMax-(x+1)) with
    | none => (0, c)
    | some x =>
      let c := c.setBuff (store c.svc.buff x [0])
      let r := sysMkdir fs c (c.name cfg) 0o775
      let c := r.2.setBuff (store r.2.svc.buff x [47])
      if r.1 < 0 ∧ fs.errno c.os ≠ eEXIST then (r.1, c) else createPathLoop n c x

def createPathDirectories (c : SyncCtx ω) : ℤ × SyncCtx ω :=
  if c.svc.buff 0 ≠ 47 then (-1, c) else createPathLoop cfg fs cfg.pathMax c 0

def stateReset (c : SyncCtx ω) : SyncCtx ω :=
  let c := match c.svc.state with
    | .processList => sysClosedir fs (sysFree fs c c.svc.u.path) c.svc.u.d
    | .processRecv => sysClose fs c c.svc.u.fd
    | .processSendSymHdr | .processSendSymData => sysFree fs c c.svc.u.linkPath
    | .processSendFileHdr | .processSendFileData => sysClose fs c c.svc.u.fd
    | .waitCmd | .waitCmdData => c
  (c.setState .waitCmd).setSize 0

def stateInitStat (c : SyncCtx ω) : ℤ × SyncCtx ω :=
  let r := sysStat fs c (c.name cfg)
  match r.1 with
  | some st =>
    let c := r.2.put 0 (le32 idStat ++ le32 st.stMode ++ le32 (u32OfInt st.stSize) ++
      le32 (u32OfInt st.stMtime))
    (1, (c.advance sizeofStat).setState .waitCmd)
  | none => (0, (r.2.put 0 (le32 idStat ++ le32 0 ++ le32 0 ++ le32 0)).advance sizeofStat)

/-- The DONE record that ends a listing. -/
def putListDone (c : SyncCtx ω) : SyncCtx ω :=
  (c.put 0 (le32 idDone ++ le32 0 ++ le32 0 ++ le32 0 ++ le32 0)).advance sizeofDent

/-- The mode, size and time of an entry of the listing, zeros when lstat is not
possible or fails. -/
def statEntry (c : SyncCtx ω) (name : List UInt8) : SyncCtx ω :=
  let remaining : ℤ := cfg.pathMax-c.svc.u.filePtr
  let c := c.emit (.room remaining)
  if remaining ≤ name.length then c.put 4 (le32 0 ++ le32 0 ++ le32 0)
  else
    let text := store c.svc.u.text c.svc.u.filePtr (name ++ [0])
    let c := c.setUnion (.list c.svc.u.d c.svc.u.path text c.svc.u.filePtr)
    let r := sysLstat fs c (cstring text 0 cfg.pathMax)
    match r.1 with
    | none => r.2.put 4 (le32 0 ++ le32 0 ++ le32 0)
    | some st => r.2.put 4 (le32 st.stMode ++ le32 (u32OfInt st.stSize) ++ le32 (u32OfInt st.stMtime))

/-- len > remaining ? remaining : len -/
def dentLen (remaining len : ℤ) : ℤ := if remaining < len then remaining else len

/-- The rest of a DENT record, the name cut to the room that is left. Where the room is negative
memcpy is called with (size_t)len and the program does not survive it: what follows here, with
nothing copied, is then not a run of the code. The event room tells of it. -/
def putDent (c : SyncCtx ω) (name : List UInt8) : SyncCtx ω :=
  let remaining : ℤ := cfg.payloadSize-sizeofDent-c.p.writeLen
  let c := c.emit (.room remaining)
  let len := dentLen remaining name.length
  let c := (c.put 0 (le32 idDent)).put 16 (le32 (u32OfInt len))
  let c := c.put sizeofDent (name.take len.toNat)
  c.advance (sizeT (sizeofDent+len))

def stateProcessList (c : SyncCtx ω) : ℤ × SyncCtx ω :=
  let r := sysReaddir fs c c.svc.u.d
  match r.1 with
  | none => (0, putListDone r.2)
  | some name => (1, putDent cfg (statEntry cfg fs r.2 name) name)

def stateInitList (c : SyncCtx ω) : ℤ × SyncCtx ω :=
  let name := c.name cfg
  if cfg.pathMax-3 ≤ name.length then (0, putListDone c)
  else
    let r := sysMalloc fs c cfg.pathMax
    match r.1 with
    | none => (0, putListDone r.2)
    | some path =>
      let text := store path.2 0 (name ++ [47])
      let r := sysOpendir fs (r.2.setUnion (.list 0 path.1 text (name.length+1))) name
      match r.1 with
      | none => (0, putListDone (sysFree fs r.2 path.1))
      | some d =>
        let c := r.2.setUnion (.list d path.1 text (name.length+1))
        stateProcessList cfg fs (c.setState .processList)

def stateInitSendFile (c : SyncCtx ω) (mode : ℕ) : ℤ × SyncCtx ω :=
  let r := sysOpen fs c (c.name cfg) (.create mode)
  let c := r.2.setUnion (.sendFile r.1)
  if r.1 < 0 then (0, prepareFailErrno cfg fs c) else (1, c.setState .processSendFileHdr)

def stateInitSendLink (c : SyncCtx ω) : ℤ × SyncCtx ω :=
  let name := c.name cfg
  if cfg.pathMax ≤ name.length then (0, prepareFailMessage cfg c (ascii "path too long"))
  else
    let r := sysMalloc fs c (name.length+1)
    match r.1 with
    | none => (0, prepareFailMessage cfg r.2 (ascii "out of memory"))
    | some path => (1, (r.2.setUnion (.sendLink path.1 name)).setState .processSendSymHdr)

/-! strtoul with base 0. -/

def isspace (b : UInt8) : Bool := b == 32 || (9 ≤ b && b ≤ 13)

def digitValue (b : UInt8) : ℕ :=
  if 48 ≤ b ∧ b ≤ 57 then b.toNat-48
  else if 97 ≤ b ∧ b ≤ 122 then b.toNat-87
  else if 65 ≤ b ∧ b ≤ 90 then b.toNat-55
  else 36

def digitsValue (base : ℕ) (s : List UInt8) : ℕ :=
  (s.takeWhile (fun b => digitValue b < base)).foldl (fun v b => v*base+digitValue b) 0

def strtoulDigits : List UInt8 → ℕ
  | 48 :: x :: d :: s =>
    if (x = 120 ∨ x = 88) ∧ digitValue d < 16 then digitsValue 16 (d :: s)
    else digitsValue 8 (48 :: x :: d :: s)
  | 48 :: s => digitsValue 8 (48 :: s)
  | s => digitsValue 10 s

/-- An overflow gives ULONG_MAX, a minus sign negates in unsigned long. -/
def strtoul (s : List UInt8) : ℕ :=
  match s.dropWhile isspace with
  | 45 :: s => if 2^64 ≤ strtoulDigits s then 2^64-1 else (2^64-strtoulDigits s)%2^64
  | 43 :: s => min (strtoulDigits s) (2^64-1)
  | s => min (strtoulDigits s) (2^64-1)

def sIsLnk (mode : ℕ) : Bool := mode &&& 0o170000 == 0o120000

/-- The rest of state_init_send, once the mode has been cut off the path. -/
def stateInitSendPath (c : SyncCtx ω) (mode : ℕ) (isLink : Bool) : ℤ × SyncCtx ω :=
  let r := createPathDirectories cfg fs (sysUnlink fs c (c.name cfg))
  if r.1 ≠ 0 then (0, prepareFailErrno cfg fs r.2)
  else if isLink then stateInitSendLink cfg fs r.2
  else stateInitSendFile cfg fs r.2 mode

def stateInitSend (c : SyncCtx ω) : ℤ × SyncCtx ω :=
  match strrchr c.svc.buff 44 0 cfg.pathMax with
  | some tmp =>
    let c := c.setBuff (store c.svc.buff tmp [0])
    let mode := u32 (strtoul (cstring c.svc.buff (tmp+1) (cfg.pathMax-(tmp+1))))
    stateInitSendPath cfg fs c (mode &&& 0o777) (sIsLnk mode)
  | none => stateInitSendPath cfg fs c 0o644 false

/-- state_process_send_header on a complete header. -/
def sendHeader (c : SyncCtx ω) : ℤ × SyncCtx ω :=
  if word c.svc.buff 0 ≠ idData then
    if word c.svc.buff 0 = idDone then (0, prepareOkayMessage c)
    else (0, prepareFailMessage cfg c (ascii "invalid data message"))
  else
    let c := c.setNamelen (word c.svc.buff 4)
    (1, c.setState c.svc.state.succ)

/-- The exit on a value of read_from_packet other than -EAGAIN, for the two readers of a
transfer. -/
def readError (c : SyncCtx ω) : ℤ × SyncCtx ω := (0, prepareFailMessage cfg c (ascii "read error"))

def stateProcessSendHeader (c : SyncCtx ω) : ℤ × SyncCtx ω :=
  afterRead (readFromPacket cfg c sizeofData) (readError cfg) (sendHeader cfg)

/-- write, called again while it is interrupted. -/
def writeRetry (fd : ℤ) (bs : List UInt8) : ℕ → SyncCtx ω → ℤ × SyncCtx ω
  | 0, c => sysWrite fs c fd bs
  | k+1, c =>
    let r := sysWrite fs c fd bs
    if r.1 < 0 ∧ fs.errno r.2.os = eINTR then writeRetry fd bs k r.2 else r

/-- The write loop over a block of at most n bytes; false is the error exit. -/
def writeLoop (fd : ℤ) : ℕ → SyncCtx ω → List UInt8 → Bool × SyncCtx ω
  | 0, c, _ => (true, c)
  | n+1, c, bs =>
    if bs = [] then (true, c)
    else
      let r := writeRetry fs fd bs (fs.interrupts c.os) c
      if 0 < r.1 then writeLoop fd n r.2 (bs.drop r.1.toNat) else (false, r.2)

/-- The block is passed over, not written, where there is no open file. -/
def writeBlock (c : SyncCtx ω) (block : List UInt8) : Bool × SyncCtx ω :=
  if 0 ≤ c.svc.u.fd then writeLoop fs c.svc.u.fd block.length c block else (true, c)

def stateProcessSendFile (c : SyncCtx ω) : ℤ × SyncCtx ω :=
  let blockSize := min c.p.msg.dataLength c.svc.namelen
  let block := c.peek blockSize
  let r := writeBlock fs ((c.setNamelen (c.svc.namelen-blockSize)).skip blockSize) block
  if r.1 then
    (1, if r.2.svc.namelen = 0 then r.2.setState r.2.svc.state.pred else r.2)
  else (0, prepareFailMessage cfg r.2 (ascii "write error"))

/-- state_process_send_sym on a complete target. -/
def sendSymTarget (c : SyncCtx ω) : ℤ × SyncCtx ω :=
  if cfg.pathMax ≤ c.svc.namelen then
    (0, prepareFailMessage cfg c (ascii "symlink target too long"))
  else
    let c := c.setBuff (store c.svc.buff c.svc.namelen [0])
    let r := sysSymlink fs c (c.name cfg) c.svc.u.linkText
    if r.1 ≠ 0 then (0, prepareFailMessage cfg r.2 (ascii "symlink call failed"))
    else (1, r.2.setState r.2.svc.state.pred)

def stateProcessSendSym (c : SyncCtx ω) : ℤ × SyncCtx ω :=
  afterRead (readFromPacket cfg c c.svc.namelen) (readError cfg) (sendSymTarget cfg fs)

def stateProcessRecv (c : SyncCtx ω) : ℤ × SyncCtx ω :=
  let room : ℤ := cfg.payloadSize-sizeofData-c.p.writeLen
  let r := sysRead fs (c.emit (.room room)) c.svc.u.fd (sizeT room)
  match r.1 with
  | none => (0, prepareFailMessage cfg r.2 (ascii "read failed"))
  | some bs =>
    if bs = [] then (0, (r.2.put 0 (le32 idDone ++ le32 0)).advance sizeofStatus)
    else
      let c := (r.2.put sizeofData bs).put 0 (le32 idData ++ le32 bs.length)
      (1, c.advance (sizeofData+bs.length))

def stateInitRecv (c : SyncCtx ω) : ℤ × SyncCtx ω :=
  let r := sysOpen fs c (c.name cfg) .rdonly
  let c := r.2.setUnion (.recv r.1)
  if r.1 < 0 then (0, prepareFailMessage cfg c (ascii "file does not exist"))
  else stateProcessRecv cfg fs (c.setState .processRecv)

/-- state_wait_cmd on a complete header. -/
def requestHeader (c : SyncCtx ω) : ℤ × SyncCtx ω :=
  if word c.svc.buff 0 = idQuit then (-1, c)
  else if cfg.pathMax ≤ word c.svc.buff 4 then (-1, c)
  else
    let c := { c with svc := { c.svc with cmd := word c.svc.buff 0 } }
    (1, (c.setNamelen (word c.svc.buff 4)).setState .waitCmdData)

def stateWaitCmd (c : SyncCtx ω) : ℤ × SyncCtx ω :=
  let c := c.emit (.header (min (sizeofReq-c.svc.size) c.p.msg.dataLength))
  afterRead (readFromPacket cfg c sizeofReq) (fun c => (-1, c)) (requestHeader cfg)

/-- The switch over the command, on the terminated name. -/
def stateInit (c : SyncCtx ω) : ℤ × SyncCtx ω :=
  if c.svc.cmd = idStat then stateInitStat cfg fs c
  else if c.svc.cmd = idList then stateInitList cfg fs c
  else if c.svc.cmd = idSend then stateInitSend cfg fs c
  else if c.svc.cmd = idRecv then stateInitRecv cfg fs c
  else if c.svc.cmd = idQuit then (0, c)
  else (-1, c)

/-- state_wait_cmd_data on a complete name. -/
def requestName (c : SyncCtx ω) : ℤ × SyncCtx ω :=
  if cfg.pathMax ≤ c.svc.namelen then (-1, c)
  else
    let c := c.setBuff (store c.svc.buff c.svc.namelen [0])
    stateInit cfg fs (c.emit (.exec c.svc.cmd (slice c.svc.buff 0 c.svc.namelen)))

def stateWaitCmdData (c : SyncCtx ω) : ℤ × SyncCtx ω :=
  afterRead (readFromPacket cfg c c.svc.namelen) (fun c => (-1, c)) (requestName cfg fs)

/-- The switch in the loop of file_sync_on_write. -/
def stateProcess (c : SyncCtx ω) : ℤ × SyncCtx ω :=
  match c.svc.state with
  | .waitCmd => stateWaitCmd cfg c
  | .waitCmdData => stateWaitCmdData cfg fs c
  | .processSendFileHdr | .processSendSymHdr => stateProcessSendHeader cfg c
  | .processSendFileData => stateProcessSendFile cfg fs c
  | .processSendSymData => if cfg.fileSymlink then stateProcessSendSym cfg fs c else (-1, c)
  | .processRecv | .processList => (-1, c)

/-- The body of the loop of file_sync_on_write. -/
def syncIter (c : SyncCtx ω) : ℤ × SyncCtx ω :=
  let r := stateProcess cfg fs c
  (r.1, if r.1 ≤ 0 then stateReset fs r.2 else r.2)

/-- The loop of file_sync_on_write, cut after n iterations. -/
def syncLoop : ℕ → ℤ × SyncCtx ω → ℤ × SyncCtx ω
  | 0, r => r
  | n+1, r => if 0 < r.2.p.msg.dataLength ∧ 0 ≤ r.1 then syncLoop n (syncIter cfg fs r.2) else r

/-- svc->packet_ptr = p->data. -/
def SyncCtx.rewind (c : SyncCtx ω) : SyncCtx ω := { c with svc := { c.svc with packetPtr := 0 } }

/-- At most three iterations in a row consume nothing, so four for each byte of the
packet reach the end of the loop (sync_loop_ends). -/
def fileSyncOnWrite (c : SyncCtx ω) : ℤ × SyncCtx ω :=
  let r := syncLoop cfg fs (4*c.p.msg.dataLength) (0, c.rewind)
  (if 0 ≤ r.1 then 0 else r.1, r.2)

/-- The switch of file_sync_on_ack. -/
def stateAck (c : SyncCtx ω) : ℤ × SyncCtx ω :=
  match c.svc.state with
  | .processRecv => stateProcessRecv cfg fs c
  | .processList => stateProcessList cfg fs c
  | .processSendFileHdr | .processSendSymHdr | .waitCmd => (0, c)
  | .waitCmdData | .processSendFileData | .processSendSymData => (-1, c)

def fileSyncOnAck (c : SyncCtx ω) : ℤ × SyncCtx ω :=
  let r := stateAck cfg fs c.rewind
  if 0 < r.1 then (0, r.2) else (r.1, stateReset fs r.2)

/-- The release of the service itself leaves nothing behind and is not modelled. -/
def fileSyncOnClose (c : SyncCtx ω) : SyncCtx ω := stateReset fs c

/-- file_sync_service: malloc leaves the other fields as they happen to be. -/
def fileSyncService (raw : AfsService) : AfsService := { raw with size := 0, state := .waitCmd }

end MicroADB
