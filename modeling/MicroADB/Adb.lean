import MicroADB.ByteMemory

/-! The data of adb.h: build configuration, frame header and packet. -/
namespace MicroADB
open ByteMemory

/-- The bytes of a string literal. -/
def ascii (s : String) : List UInt8 := s.toList.map (fun ch => UInt8.ofNat ch.toNat)

/-- The strings of the banner. A property that is not configured is none. -/
structure Product where
  deviceId : List UInt8
  productName : Option (List UInt8)
  productModel : Option (List UInt8)
  productDevice : Option (List UInt8)
  features : List UInt8

/-- The CONFIG_ADBD_* build options and PATH_MAX. Sizes are positive int literals. -/
structure Config where
  payloadSize : ℕ
  cnxnPayloadSize : ℕ
  frameMax : ℕ
  tokenSize : ℕ
  pathMax : ℕ
  authentication : Bool
  authPubkey : Bool
  fileService : Bool
  fileSymlink : Bool
  socketService : Bool
  shellService : Bool
  product : Product
  payload_lt : payloadSize < 2^31
  cnxn_lt : cnxnPayloadSize < 2^31
  pathMax_ge : 256 ≤ pathMax
  pathMax_lt : pathMax < 2^31

/-- The options of CMakeLists.txt, on a system whose PATH_MAX is 4096. -/
def defaultConfig : Config where
  payloadSize := 1024
  cnxnPayloadSize := 1024
  frameMax := 4
  tokenSize := 20
  pathMax := 4096
  authentication := false
  authPubkey := false
  fileService := true
  fileSymlink := false
  socketService := true
  shellService := true
  product :=
    { deviceId := ascii "abcd"
      productName := some (ascii "adb_dev")
      productModel := some (ascii "adb_board")
      productDevice := some (ascii "NuttX_device")
      features := ascii "cmd" }
  payload_lt := by decide
  cnxn_lt := by decide
  pathMax_ge := by decide
  pathMax_lt := by decide

/-- The options of the build that README.md shows. -/
def readmeConfig : Config :=
  { defaultConfig with
    payloadSize := 64
    frameMax := 1
    authentication := true
    authPubkey := true
    payload_lt := by decide }

def aCnxn : ℕ := 0x4e584e43
def aOpen : ℕ := 0x4e45504f
def aOkay : ℕ := 0x59414b4f
def aClse : ℕ := 0x45534c43
def aWrte : ℕ := 0x45545257
def aAuth : ℕ := 0x48545541

def adbAuthToken : ℕ := 1
def adbAuthSignature : ℕ := 2
def adbAuthRsaPublicKey : ℕ := 3

def aVersion : ℕ := 0x01000000

/-- The frame header, six 32-bit words on the wire. -/
structure Amessage where
  command : ℕ
  arg0 : ℕ
  arg1 : ℕ
  dataLength : ℕ
  dataCheck : ℕ
  magic : ℕ
deriving DecidableEq, Repr, Inhabited

/-- A packet. The data area is addressed from its first byte and its bound is the
business of the code that uses it. -/
structure Apacket where
  writeLen : ℕ
  msg : Amessage
  data : Mem
deriving Inhabited

/-- APACKET_SERVICE_INIT_ASYNC. -/
def apacketServiceInitAsync : ℕ := 2^32-1

def sizeofAmessage : ℕ := 24

end MicroADB
