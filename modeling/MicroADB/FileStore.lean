import Mathlib.Tactic

/-! Files as they are kept: what paths name, what files contain, and which are open on a descriptor,
with their offsets. The operations are relations, which leave open what they do to other paths and
files. -/
namespace FileStore

variable {Path Node B : Type*}

structure Disk (Path Node B : Type*) where
  names : Path → Option Node
  data : Node → List B
  opened : ℤ → Option (Node × ℕ)

/-- Bytes from the offset o on, over those that are there. -/
def overwrite (content : List B) (o : ℕ) (bs : List B) : List B :=
  content.take o ++ bs ++ content.drop (o+bs.length)

@[simp] theorem overwrite_end (content bs : List B) :
    overwrite content content.length bs = content ++ bs := by
  rw [overwrite, List.take_length, List.drop_eq_nil_of_le (Nat.le_add_right _ _), List.append_nil]

namespace Disk

/-- The path names a file with this content. -/
def Contains (d : Disk Path Node B) (p : Path) (content : List B) : Prop :=
  ∃ i, d.names p = some i ∧ d.data i = content

/-- The path names the file that is open on fd, and that has been written up to its end. -/
def Writing (d : Disk Path Node B) (p : Path) (fd : ℤ) (content : List B) : Prop :=
  ∃ i, d.names p = some i ∧ d.data i = content ∧ d.opened fd = some (i, content.length)

/-- The rest is still to be read from fd. -/
def Reading (d : Disk Path Node B) (fd : ℤ) (rest : List B) : Prop :=
  ∃ i o, d.opened fd = some (i, o) ∧ (d.data i).drop o = rest

variable (d d' : Disk Path Node B)

/-- d' is d behind a write of these bytes. -/
structure Wrote (fd : ℤ) (bs : List B) : Prop where
  names : d'.names = d.names
  data : ∀ i o, d.opened fd = some (i, o) → d'.data i = overwrite (d.data i) o bs
  opened : ∀ i o, d.opened fd = some (i, o) → d'.opened fd = some (i, o+bs.length)

/-- d' is d behind a read of at most n bytes that returned bs. -/
structure HasRead (fd : ℤ) (n : ℕ) (bs : List B) : Prop where
  data : d'.data = d.data
  bytes : ∀ i o, d.opened fd = some (i, o) → bs <+: (d.data i).drop o
  eof : ∀ i o, d.opened fd = some (i, o) → bs = [] → 0 < n → (d.data i).drop o = []
  opened : ∀ i o, d.opened fd = some (i, o) → d'.opened fd = some (i, o+bs.length)

/-- d' is d behind the opening of a file for reading. -/
structure OpenedRead (p : Path) (fd : ℤ) : Prop where
  data : d'.data = d.data
  opened : ∃ i, d.names p = some i ∧ d'.opened fd = some (i, 0)

/-- d' is d behind a close. -/
structure Closed : Prop where
  names : d'.names = d.names
  data : d'.data = d.data

variable {d d'} {p : Path} {fd : ℤ} {content rest bs : List B} {n : ℕ}

theorem Writing.contains (h : d.Writing p fd content) : d.Contains p content := by
  obtain ⟨i,hname,hdata,-⟩ := h
  exact ⟨i,hname,hdata⟩

theorem Writing.wrote (h : d.Writing p fd content) (hw : Wrote d d' fd bs) :
    d'.Writing p fd (content ++ bs) := by
  obtain ⟨i,hname,rfl,hopen⟩ := h
  refine ⟨i,?_,?_,?_⟩
  · rw [hw.names, hname]
  · rw [hw.data i _ hopen, overwrite_end]
  · rw [hw.opened i _ hopen, List.length_append]

theorem Contains.closed (h : d.Contains p content) (hc : Closed d d') : d'.Contains p content := by
  obtain ⟨i,hname,hdata⟩ := h
  exact ⟨i,by rw [hc.names, hname],by rw [hc.data, hdata]⟩

theorem Contains.opened_read (h : d.Contains p content) (ho : OpenedRead d d' p fd) :
    d'.Reading fd content := by
  obtain ⟨i,hname,hdata⟩ := h
  obtain ⟨j,hj,hopen⟩ := ho.opened
  obtain rfl := Option.some.inj (hname.symm.trans hj)
  exact ⟨i,0,hopen,by rw [ho.data, hdata, List.drop_zero]⟩

/-- What is read is the front of the rest, and it is empty only at the end. -/
theorem Reading.has_read (h : d.Reading fd rest) (hr : HasRead d d' fd n bs) :
    ∃ rest', rest = bs ++ rest' ∧ d'.Reading fd rest' ∧ (bs = [] → 0 < n → rest = []) := by
  obtain ⟨i,o,hopen,rfl⟩ := h
  obtain ⟨rest',hrest⟩ := hr.bytes i o hopen
  refine ⟨rest',hrest.symm,⟨i,o+bs.length,hr.opened i o hopen,?_⟩,hr.eof i o hopen⟩
  rw [hr.data, ← List.drop_drop, ← hrest, List.drop_left]

end Disk

end FileStore
