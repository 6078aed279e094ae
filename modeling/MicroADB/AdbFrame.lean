import MicroADB.Adb

/-! Frames on the wire: the checks of adb_frame.c and the fields that send_frame fills in. -/
namespace MicroADB
open ByteMemory

/-- The header as it lies in memory. -/
def Amessage.bytes (m : Amessage) : List UInt8 :=
  le32 m.command ++ le32 m.arg0 ++ le32 m.arg1 ++ le32 m.dataLength ++ le32 m.dataCheck ++
    le32 m.magic

/-- The header in the first bytes of a buffer. -/
def amessage (m : Mem) : Amessage where
  command := word m 0
  arg0 := word m 4
  arg1 := word m 8
  dataLength := word m 12
  dataCheck := word m 16
  magic := word m 20

def Apacket.payload (p : Apacket) : List UInt8 := slice p.data 0 p.msg.dataLength

/-- sum += *x++ in an unsigned int. -/
def byteSum (bs : List UInt8) : ℕ := bs.foldl (fun sum x => u32 (sum+x.toNat)) 0

def magicOf (command : ℕ) : ℕ := command ^^^ 0xffffffff

def adbCheckFrameMagic (p : Apacket) : ℤ := if p.msg.magic ≠ magicOf p.msg.command then -1 else 0

/-- The two header checks, which differ in the limit only. -/
def checkHeader (limit : ℕ) (p : Apacket) : ℤ :=
  if adbCheckFrameMagic p ≠ 0 then adbCheckFrameMagic p
  else if limit < p.msg.dataLength then -1
  else 0

def adbCheckFrameHeader (cfg : Config) (p : Apacket) : ℤ := checkHeader cfg.payloadSize p

def adbCheckAuthFrameHeader (cfg : Config) (p : Apacket) : ℤ := checkHeader cfg.cnxnPayloadSize p

def adbCheckFrameData (p : Apacket) : ℤ := if byteSum p.payload ≠ p.msg.dataCheck then -1 else 0

/-- The magic and the checksum that send_frame stores in the header. -/
def Apacket.seal (p : Apacket) : Apacket :=
  { p with
    msg := { p.msg with magic := magicOf p.msg.command, dataCheck := byteSum p.payload } }

theorem byteSum_lt (bs : List UInt8) : byteSum bs < 2^32 := by
  rcases List.eq_nil_or_concat bs with rfl | ⟨as,b,rfl⟩
  · decide
  · rw [byteSum, List.concat_eq_append, List.foldl_append]
    exact u32_lt _

theorem magicOf_lt (n : ℕ) (h : n < 2^32) : magicOf n < 2^32 := Nat.xor_lt_two_pow h (by decide)

@[simp] theorem Apacket.seal_payload (p : Apacket) : p.seal.payload = p.payload := rfl

@[simp] theorem Amessage.length_bytes (m : Amessage) : m.bytes.length = sizeofAmessage := rfl

/-- A frame passes the header check iff its magic and its length are right. -/
theorem check_header_eq_zero_iff (limit : ℕ) (p : Apacket) :
    checkHeader limit p = 0 ↔ p.msg.magic = magicOf p.msg.command ∧ p.msg.dataLength ≤ limit := by
  unfold checkHeader adbCheckFrameMagic
  by_cases hm : p.msg.magic = magicOf p.msg.command <;>
    by_cases hl : p.msg.dataLength ≤ limit <;> simp [hm, hl, Nat.not_lt.mpr, Nat.lt_of_not_le]

theorem check_frame_data_eq_zero_iff (p : Apacket) :
    adbCheckFrameData p = 0 ↔ p.msg.dataCheck = byteSum p.payload := by
  unfold adbCheckFrameData
  split <;> simp_all [eq_comm]

end MicroADB
