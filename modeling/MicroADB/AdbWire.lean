import MicroADB.AdbRun
import MicroADB.PrefixCode

/-! A frame on the wire and the stream of bytes that holds it. -/
namespace MicroADB
open ByteMemory PrefixCode

/-- A frame as it is sent: the header and the payload behind it. -/
abbrev Frame := Amessage × List UInt8

def wire (f : Frame) : List UInt8 := f.1.bytes ++ f.2

/-- The fields of a header are below 2^32. -/
def Amessage.Fits (m : Amessage) : Prop :=
  m.command < 2^32 ∧ m.arg0 < 2^32 ∧ m.arg1 < 2^32 ∧ m.dataLength < 2^32 ∧ m.dataCheck < 2^32 ∧
    m.magic < 2^32

/-- The fields fit their words and the length is that of the payload. -/
structure Shaped (f : Frame) : Prop where
  fits : f.1.Fits
  length : f.2.length = f.1.dataLength

/-- A frame that the receiver takes under a limit for the length. -/
structure WellFormed (limit : ℕ) (f : Frame) : Prop where
  shaped : Shaped f
  magic : f.1.magic = magicOf f.1.command
  limit : f.1.dataLength ≤ limit
  check : f.1.dataCheck = byteSum f.2

/-! Reading a frame off a stream. -/

def bytesMem (bs : List UInt8) : Mem := fun i => bs.getD i 0

/-- The header at the front of a stream. -/
def header (bs : List UInt8) : Amessage := amessage (bytesMem bs)

def payload (bs : List UInt8) : List UInt8 := (bs.drop sizeofAmessage).take (header bs).dataLength

/-- The header is there and wrong. -/
def BadHeader (limit : ℕ) (bs : List UInt8) : Prop :=
  sizeofAmessage ≤ bs.length ∧
    ((header bs).magic ≠ magicOf (header bs).command ∨ limit < (header bs).dataLength)

/-- The header is there and right, and so is the payload, but for its checksum. -/
def BadData (limit : ℕ) (bs : List UInt8) : Prop :=
  sizeofAmessage ≤ bs.length ∧ (header bs).magic = magicOf (header bs).command ∧
    (header bs).dataLength ≤ limit ∧ sizeofAmessage+(header bs).dataLength ≤ bs.length ∧
    (header bs).dataCheck ≠ byteSum (payload bs)

@[simp] theorem length_wire (f : Frame) : (wire f).length = sizeofAmessage+f.2.length := by
  rw [wire, List.length_append, Amessage.length_bytes]

theorem wire_ne_nil (f : Frame) : wire f ≠ [] :=
  List.ne_nil_of_length_pos (by rw [length_wire, sizeofAmessage]; omega)

theorem amessage_congr (m m' : Mem) (h : ∀ i, i < sizeofAmessage → m i = m' i) :
    amessage m = amessage m' := by
  have hword (o : ℕ) (ho : o+4 ≤ sizeofAmessage) : word m o = word m' o := by
    rw [word, word, slice_congr m m' o 4 (fun i _ hi => h i (by omega))]
  unfold amessage
  rw [hword 0 (by decide), hword 4 (by decide), hword 8 (by decide), hword 12 (by decide),
    hword 16 (by decide), hword 20 (by decide)]

/-- A buffer that holds a stream has its header. -/
theorem amessage_of_slice (m : Mem) (bs : List UInt8) (h : slice m 0 bs.length = bs)
    (hl : sizeofAmessage ≤ bs.length) : amessage m = header bs := by
  refine amessage_congr _ _ (fun i hi => ?_)
  have hb := (slice_eq_iff m 0 bs).mp h i (by omega)
  rw [Nat.zero_add] at hb
  rw [hb, bytesMem, List.getD_eq_getElem _ _ (by omega)]

theorem slice_bytesMem (bs : List UInt8) (o n : ℕ) (h : o+n ≤ bs.length) :
    slice (bytesMem bs) o n = (bs.drop o).take n := by
  refine List.ext_getElem (by simp; omega) (fun i hi _ => ?_)
  have hi : i < n := by simpa using hi
  rw [getElem_slice, bytesMem, List.getD_eq_getElem _ _ (by omega), List.getElem_take,
    List.getElem_drop]

theorem le32_ofLe32 (a b c d : UInt8) : le32 (ofLe32 [a,b,c,d]) = [a,b,c,d] := by
  have ha := a.toNat_lt
  have hb := b.toNat_lt
  have hc := c.toNat_lt
  have hd := d.toNat_lt
  simp only [le32, ofLe32, List.getD_cons_zero, List.getD_cons_succ, List.cons.injEq, and_true]
  refine ⟨?_,?_,?_,?_⟩ <;> apply UInt8.toNat_inj.mp <;> rw [UInt8.toNat_ofNat'] <;> omega

theorem le32_word (m : Mem) (o : ℕ) : le32 (word m o) = slice m o 4 :=
  le32_ofLe32 (m o) (m (o+1)) (m (o+2)) (m (o+3))

theorem bytes_amessage (m : Mem) : (amessage m).bytes = slice m 0 sizeofAmessage := by
  have hsplit : slice m 0 sizeofAmessage = slice m 0 4 ++ slice m 4 4 ++ slice m 8 4 ++
      slice m 12 4 ++ slice m 16 4 ++ slice m 20 4 := rfl
  rw [hsplit]
  unfold amessage Amessage.bytes
  simp only [le32_word]

theorem le32_inj {a b : ℕ} (ha : a < 2^32) (hb : b < 2^32) (h : le32 a = le32 b) : a = b := by
  rw [← u32_of_lt a ha, ← u32_of_lt b hb, ← ofLe32_le32, ← ofLe32_le32, h]

theorem amessage_fits (m : Mem) : (amessage m).Fits :=
  ⟨word_lt _ _,word_lt _ _,word_lt _ _,word_lt _ _,word_lt _ _,word_lt _ _⟩

theorem bytes_inj {m m' : Amessage} (h : m.Fits) (h' : m'.Fits) (he : m.bytes = m'.bytes) :
    m = m' := by
  obtain ⟨h0,h1,h2,h3,h4,h5⟩ := h
  obtain ⟨k0,k1,k2,k3,k4,k5⟩ := h'
  obtain ⟨he,e5⟩ := List.append_inj' he rfl
  obtain ⟨he,e4⟩ := List.append_inj' he rfl
  obtain ⟨he,e3⟩ := List.append_inj' he rfl
  obtain ⟨he,e2⟩ := List.append_inj' he rfl
  obtain ⟨e0,e1⟩ := List.append_inj' he rfl
  cases m
  cases m'
  simp only [Amessage.mk.injEq]
  exact ⟨le32_inj h0 k0 e0,le32_inj h1 k1 e1,le32_inj h2 k2 e2,le32_inj h3 k3 e3,
    le32_inj h4 k4 e4,le32_inj h5 k5 e5⟩

theorem header_bytes (m : Amessage) (h : m.Fits) (t : List UInt8) : header (m.bytes ++ t) = m := by
  refine bytes_inj (amessage_fits _) h ?_
  rw [header, bytes_amessage, slice_bytesMem _ _ _ (by simp), List.drop_zero,
    ← Amessage.length_bytes m, List.take_left]

theorem Shaped.header {f : Frame} (h : Shaped f) (t : List UInt8) : header (wire f ++ t) = f.1 := by
  rw [wire, List.append_assoc]
  exact header_bytes f.1 h.fits _

theorem Shaped.payload {f : Frame} (h : Shaped f) (t : List UInt8) :
    payload (wire f ++ t) = f.2 := by
  rw [MicroADB.payload, h.header, wire, List.append_assoc, ← Amessage.length_bytes f.1,
    List.drop_left, ← h.length, List.take_left]

/-- A header that is there, with the payload that it announces. -/
theorem front_shaped (bs : List UInt8)
    (hl : sizeofAmessage+(header bs).dataLength ≤ bs.length) :
    Shaped (header bs, payload bs) ∧ wire (header bs, payload bs) =
      bs.take (sizeofAmessage+(header bs).dataLength) := by
  refine ⟨⟨amessage_fits _,?_⟩,?_⟩
  · simp only [payload, List.length_take, List.length_drop]
    omega
  · rw [wire, header, bytes_amessage, slice_bytesMem _ _ _ (by omega), List.drop_zero,
      List.take_add]
    rfl

/-- Frames tell where they end, whatever their limit. -/
theorem wire_prefix_free : PrefixFree wire Shaped := by
  rintro f g hf hg ⟨t,ht⟩
  have hh := hf.header t
  have hp := hf.payload t
  rw [ht] at hh hp
  have hh' := hg.header []
  have hp' := hg.payload []
  rw [List.append_nil] at hh' hp'
  exact Prod.ext (hh.symm.trans hh') (hp.symm.trans hp')

/-- A stream that begins with a well-formed frame. -/
theorem front_iff (limit : ℕ) (bs : List UInt8) :
    (∃ f, WellFormed limit f ∧ wire f <+: bs) ↔ sizeofAmessage+(header bs).dataLength ≤ bs.length ∧
      (header bs).magic = magicOf (header bs).command ∧ (header bs).dataLength ≤ limit ∧
      (header bs).dataCheck = byteSum (payload bs) := by
  constructor
  · rintro ⟨f,hf,t,rfl⟩
    rw [hf.shaped.header, hf.shaped.payload, List.length_append, length_wire, hf.shaped.length]
    exact ⟨by omega,hf.magic,hf.limit,hf.check⟩
  · rintro ⟨hl,hm,hlim,hc⟩
    obtain ⟨hs,hw⟩ := front_shaped bs hl
    exact ⟨_,⟨hs,hm,hlim,hc⟩,hw ▸ List.take_prefix _ _⟩

/-- What send_frame sends is a well-formed frame. -/
theorem seal_well_formed (limit : ℕ) (p : Apacket) (hl : p.msg.dataLength ≤ limit)
    (hf : p.msg.command < 2^32 ∧ p.msg.arg0 < 2^32 ∧ p.msg.arg1 < 2^32 ∧
      p.msg.dataLength < 2^32) : WellFormed limit (p.seal.msg, p.payload) where
  shaped := ⟨⟨hf.1,hf.2.1,hf.2.2.1,hf.2.2.2,byteSum_lt _,magicOf_lt _ hf.1⟩,length_slice _ _ _⟩
  magic := rfl
  limit := hl
  check := rfl

end MicroADB
