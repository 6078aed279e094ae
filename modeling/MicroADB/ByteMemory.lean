import Mathlib.Data.List.GetD
import Mathlib.Tactic

/-! Byte-addressed memory as the C code sees it: blocks are copied in and out,
strings end at the first NUL, and 32-bit words are little-endian. -/
namespace ByteMemory

abbrev Mem := ℕ → UInt8

/-- The n bytes from offset o. -/
def slice (m : Mem) (o n : ℕ) : List UInt8 := (List.range n).map (fun i => m (o+i))

/-- memcpy of a block to offset o. -/
def store (m : Mem) (o : ℕ) (bs : List UInt8) : Mem := fun i =>
  if o ≤ i ∧ i < o+bs.length then bs.getD (i-o) 0 else m i

@[simp] theorem length_slice (m : Mem) (o n : ℕ) : (slice m o n).length = n := by
  simp [slice]

@[simp] theorem slice_zero (m : Mem) (o : ℕ) : slice m o 0 = [] := rfl

theorem slice_eq_nil_iff (m : Mem) (o n : ℕ) : slice m o n = [] ↔ n = 0 := by
  rw [← List.length_eq_zero_iff, length_slice]

theorem getElem_slice (m : Mem) (o n i : ℕ) (h : i < (slice m o n).length) :
    (slice m o n)[i] = m (o+i) := by
  simp [slice]

theorem slice_add (m : Mem) (o n k : ℕ) :
    slice m o (n+k) = slice m o n ++ slice m (o+n) k := by
  simp [slice, List.range_add, Nat.add_assoc, Function.comp_def]

theorem slice_succ (m : Mem) (o n : ℕ) : slice m o (n+1) = m o :: slice m (o+1) n := by
  rw [Nat.add_comm, slice_add]
  simp [slice]

theorem slice_congr (m m' : Mem) (o n : ℕ) (h : ∀ i, o ≤ i → i < o+n → m i = m' i) :
    slice m o n = slice m' o n := by
  apply List.ext_getElem
  · simp
  · intro i hi _
    have hn : i < n := by simpa using hi
    rw [getElem_slice, getElem_slice]
    exact h _ (by omega) (by omega)

theorem slice_eq_iff (m : Mem) (o : ℕ) (bs : List UInt8) :
    slice m o bs.length = bs ↔ ∀ i (h : i < bs.length), m (o+i) = bs[i] := by
  constructor
  · intro h i hi
    have hs : i < (slice m o bs.length).length := by simpa using hi
    rw [← getElem_slice m o bs.length i hs]
    exact List.getElem_of_eq h hs
  · intro h
    apply List.ext_getElem
    · simp
    · intro i _ hi
      rw [getElem_slice]
      exact h i hi

theorem take_slice (m : Mem) (o n k : ℕ) : (slice m o n).take k = slice m o (min k n) := by
  apply List.ext_getElem
  · simp
  · intro i _ _
    simp [slice]

@[simp] theorem store_nil (m : Mem) (o : ℕ) : store m o [] = m := by
  funext i
  simp only [store, List.length_nil, Nat.add_zero]
  rw [if_neg (by omega)]

theorem store_apply_of_lt (m : Mem) (o i : ℕ) (bs : List UInt8) (h : i < o) :
    store m o bs i = m i := by
  rw [store, if_neg (by omega)]

theorem store_apply_of_ge (m : Mem) (o i : ℕ) (bs : List UInt8) (h : o+bs.length ≤ i) :
    store m o bs i = m i := by
  rw [store, if_neg (by omega)]

theorem store_apply_of_mem (m : Mem) (o i : ℕ) (bs : List UInt8) (h : i < bs.length) :
    store m o bs (o+i) = bs[i] := by
  rw [store, if_pos (by omega), Nat.add_sub_cancel_left, List.getD_eq_getElem _ _ h]

/-- A load of the stored block. -/
theorem slice_store_self (m : Mem) (o : ℕ) (bs : List UInt8) :
    slice (store m o bs) o bs.length = bs :=
  (slice_eq_iff _ _ _).mpr (fun i hi => store_apply_of_mem m o i bs hi)

/-- A store leaves every block that it does not meet as it was. -/
theorem slice_store_disjoint (m : Mem) (o p n : ℕ) (bs : List UInt8)
    (h : p+n ≤ o ∨ o+bs.length ≤ p) : slice (store m o bs) p n = slice m p n := by
  apply slice_congr
  intro i hp hn
  rcases h with h | h
  · exact store_apply_of_lt m o i bs (by omega)
  · exact store_apply_of_ge m o i bs (by omega)

theorem store_append (m : Mem) (o : ℕ) (as bs : List UInt8) :
    store (store m o as) (o+as.length) bs = store m o (as ++ bs) := by
  funext i
  by_cases h1 : i < o
  · rw [store_apply_of_lt _ _ _ _ (by omega), store_apply_of_lt _ _ _ _ h1,
      store_apply_of_lt _ _ _ _ h1]
  by_cases h2 : i < o+as.length
  · obtain ⟨j,rfl⟩ := Nat.exists_eq_add_of_le (Nat.le_of_not_lt h1)
    have hj : j < as.length := by omega
    rw [store_apply_of_lt _ _ _ _ h2, store_apply_of_mem _ _ _ _ hj,
      store_apply_of_mem _ _ _ _ (by simp only [List.length_append]; omega),
      List.getElem_append_left hj]
  by_cases h3 : i < o+as.length+bs.length
  · obtain ⟨j,rfl⟩ := Nat.exists_eq_add_of_le (Nat.le_of_not_lt h2)
    have hj : j < bs.length := by omega
    rw [store_apply_of_mem _ _ _ _ hj, Nat.add_assoc,
      store_apply_of_mem _ _ _ _ (by simp only [List.length_append]; omega),
      List.getElem_append_right (by omega)]
    simp
  · rw [store_apply_of_ge _ _ _ _ (by omega), store_apply_of_ge _ _ _ _ (by omega),
      store_apply_of_ge _ _ _ _ (by simp only [List.length_append]; omega)]

/-- The same when the block behind is stored first. -/
theorem store_front (m : Mem) (o : ℕ) (as bs : List UInt8) :
    store (store m (o+as.length) bs) o as = store m o (as ++ bs) := by
  rw [← store_append]
  funext i
  by_cases h : o ≤ i ∧ i < o+as.length
  · obtain ⟨j,rfl⟩ := Nat.exists_eq_add_of_le h.1
    have hj : j < as.length := by omega
    rw [store_apply_of_mem _ _ _ _ hj, store_apply_of_lt _ _ _ _ h.2, store_apply_of_mem _ _ _ _ hj]
  · have hold (m : Mem) : store m o as i = m i := if_neg h
    rw [hold]
    unfold store
    rw [if_neg h]

/-- Copying a block that a neighbouring slice continues. -/
theorem slice_store_append (m : Mem) (o n : ℕ) (bs : List UInt8) :
    slice (store m (o+n) bs) o (n+bs.length) = slice m o n ++ bs := by
  rw [slice_add, slice_store_self, slice_store_disjoint _ _ _ _ _ (Or.inl le_rfl)]

/-! Strings: the last argument bounds the search by the size of the buffer. -/

def cstring (m : Mem) : ℕ → ℕ → List UInt8
  | _, 0 => []
  | i, k+1 => if m i = 0 then [] else m i :: cstring m (i+1) k

def strchr (m : Mem) (c : UInt8) : ℕ → ℕ → Option ℕ
  | _, 0 => none
  | i, k+1 => if m i = c then some i else if m i = 0 then none else strchr m c (i+1) k

def strrchr (m : Mem) (c : UInt8) : ℕ → ℕ → Option ℕ
  | _, 0 => none
  | i, k+1 =>
    if m i = 0 then none
    else match strrchr m c (i+1) k with
      | some j => some j
      | none => if m i = c then some i else none

/-- A terminated block reads back as the string it holds. -/
theorem cstring_of_slice (m : Mem) (i k : ℕ) (s : List UInt8) (hs : slice m i s.length = s)
    (hn : (0 : UInt8) ∉ s) (hz : m (i+s.length) = 0) (hk : s.length < k) : cstring m i k = s := by
  induction s generalizing i k with
  | nil =>
    obtain ⟨k,rfl⟩ := Nat.exists_eq_succ_of_ne_zero (by omega : k ≠ 0)
    simp only [List.length_nil, Nat.add_zero] at hz
    simp [cstring, hz]
  | cons a s ih =>
    obtain ⟨k,rfl⟩ := Nat.exists_eq_succ_of_ne_zero (by omega : k ≠ 0)
    simp only [List.length_cons, slice_succ, List.cons.injEq] at hs
    simp only [List.mem_cons, not_or] at hn
    have ha : m i ≠ 0 := by
      rw [hs.1]
      exact fun h => hn.1 h.symm
    have hz' : m (i+1+s.length) = 0 := by
      rw [← hz]
      congr 1
      simp only [List.length_cons]
      omega
    rw [cstring, if_neg ha, ih (i+1) k hs.2 hn.2 hz' (by simpa using hk), hs.1]

/-- A terminated block reads back up to its first NUL. -/
theorem cstring_of_text (m : Mem) (i k : ℕ) (s : List UInt8) (hs : slice m i s.length = s)
    (hz : m (i+s.length) = 0) (hk : s.length < k) :
    cstring m i k = s.takeWhile (fun b => b ≠ 0) := by
  induction s generalizing i k with
  | nil => exact cstring_of_slice m i k [] hs List.not_mem_nil hz hk
  | cons a s ih =>
    obtain ⟨k,rfl⟩ := Nat.exists_eq_succ_of_ne_zero (by omega : k ≠ 0)
    simp only [List.length_cons, slice_succ, List.cons.injEq] at hs
    have hz' : m (i+1+s.length) = 0 := by
      rw [← hz]
      congr 1
      simp only [List.length_cons]
      omega
    rw [cstring, ih (i+1) k hs.2 hz' (by simpa using hk), hs.1]
    by_cases ha : a = 0
    · rw [if_pos ha, List.takeWhile_cons_of_neg (by simpa using ha)]
    · rw [if_neg ha, List.takeWhile_cons_of_pos (by simpa using ha)]

/-- A string that was stored with its terminator, among others. -/
theorem cstring_stored (m : Mem) (o : ℕ) (as s bs : List UInt8) (hs : (0 : UInt8) ∉ s) (k : ℕ)
    (hk : s.length < k) : cstring (store m o (as ++ (s ++ 0 :: bs))) (o+as.length) k = s := by
  rw [← store_append, List.append_cons s 0 bs, ← store_append _ _ (s ++ [0])]
  refine cstring_of_slice _ _ _ _ ?_ hs ?_ hk
  · rw [slice_store_disjoint _ _ _ _ _ (Or.inl (by simp)), ← store_append,
      slice_store_disjoint _ _ _ _ _ (Or.inl (by simp)), slice_store_self]
  · rw [store_apply_of_lt _ _ _ _ (by simp)]
    have hlast := store_apply_of_mem (store m o as) (o+as.length) s.length (s ++ [0]) (by simp)
    simpa using hlast

theorem strchr_bounds (m : Mem) (c : UInt8) (i k j : ℕ) (h : strchr m c i k = some j) :
    i ≤ j ∧ j < i+k ∧ m j = c := by
  induction k generalizing i with
  | zero => simp [strchr] at h
  | succ k ih =>
    simp only [strchr] at h
    split_ifs at h with h1 h2
    · obtain rfl := Option.some.inj h
      exact ⟨le_rfl, by omega, h1⟩
    · obtain ⟨hi,hj,hc⟩ := ih (i+1) h
      exact ⟨by omega, by omega, hc⟩

theorem strrchr_bounds (m : Mem) (c : UInt8) (i k j : ℕ) (h : strrchr m c i k = some j) :
    i ≤ j ∧ j < i+k ∧ m j = c := by
  induction k generalizing i with
  | zero => simp [strrchr] at h
  | succ k ih =>
    rw [strrchr] at h
    split at h
    · cases h
    · split at h
      · rename_i j' hj
        obtain rfl := Option.some.inj h
        obtain ⟨hi,hj,hc⟩ := ih (i+1) hj
        exact ⟨by omega, by omega, hc⟩
      · split at h
        · rename_i hc
          obtain rfl := Option.some.inj h
          exact ⟨le_rfl, by omega, hc⟩
        · cases h

/-- Strings are looked at up to their terminator only. -/
theorem cstring_congr (m m' : Mem) (i k z : ℕ) (hz : m z = 0) (hi : i ≤ z)
    (h : ∀ j, i ≤ j → j ≤ z → m' j = m j) : cstring m' i k = cstring m i k := by
  induction k generalizing i with
  | zero => rfl
  | succ k ih =>
    rw [cstring, cstring, h i le_rfl hi]
    split
    · rfl
    · rename_i hne
      have hlt : i < z := lt_of_le_of_ne hi (fun he => hne (he ▸ hz))
      rw [ih (i+1) hlt (fun j hj hjz => h j (by omega) hjz)]

theorem strrchr_congr (m m' : Mem) (c : UInt8) (i k z : ℕ) (hz : m z = 0) (hi : i ≤ z)
    (h : ∀ j, i ≤ j → j ≤ z → m' j = m j) : strrchr m' c i k = strrchr m c i k := by
  induction k generalizing i with
  | zero => rfl
  | succ k ih =>
    rw [strrchr, strrchr, h i le_rfl hi]
    split
    · rfl
    · rename_i hne
      have hlt : i < z := lt_of_le_of_ne hi (fun he => hne (he ▸ hz))
      rw [ih (i+1) hlt (fun j hj hjz => h j (by omega) hjz)]

/-- The character is found in front of the terminator. -/
theorem strrchr_lt (m : Mem) (c : UInt8) (i k j z : ℕ) (h : strrchr m c i k = some j)
    (hz : m z = 0) (hi : i ≤ z) : j < z := by
  induction k generalizing i with
  | zero => simp [strrchr] at h
  | succ k ih =>
    rw [strrchr] at h
    split at h
    · cases h
    · rename_i hne
      have hlt : i < z := lt_of_le_of_ne hi (fun he => hne (he ▸ hz))
      split at h
      · rename_i j' hj
        obtain rfl := Option.some.inj h
        exact ih (i+1) hj hlt
      · split at h
        · obtain rfl := Option.some.inj h
          exact hlt
        · cases h

theorem cstring_length_le_of_nul (m : Mem) (i k z : ℕ) (hz : m z = 0) (hi : i ≤ z) :
    (cstring m i k).length ≤ z-i := by
  induction k generalizing i with
  | zero => simp [cstring]
  | succ k ih =>
    rw [cstring]
    split
    · simp
    · rename_i hne
      have hlt : i < z := lt_of_le_of_ne hi (fun he => hne (he ▸ hz))
      have hrec := ih (i+1) hlt
      rw [List.length_cons]
      omega

/-- The last separator of a string is the one with none behind it. -/
theorem strrchr_of_slice (m : Mem) (c : UInt8) (i k : ℕ) (s t : List UInt8)
    (hs : slice m i (s.length+1+t.length) = s ++ c :: t) (hn : (0 : UInt8) ∉ s) (hc : c ≠ 0)
    (ht : c ∉ t ∧ (0 : UInt8) ∉ t) (hz : m (i+(s.length+1+t.length)) = 0)
    (hk : s.length+1+t.length < k) : strrchr m c i k = some (i+s.length) := by
  have hnone (t : List UInt8) (i k : ℕ) (hs : slice m i t.length = t) (hc : c ∉ t)
      (hz : m (i+t.length) = 0) : strrchr m c i k = none := by
    induction t generalizing i k with
    | nil =>
      cases k with
      | zero => rfl
      | succ k => rw [strrchr, if_pos (by simpa using hz)]
    | cons a t ih =>
      cases k with
      | zero => rfl
      | succ k =>
        simp only [List.length_cons, slice_succ, List.cons.injEq] at hs
        simp only [List.mem_cons, not_or] at hc
        have hz' : m (i+1+t.length) = 0 := by
          rw [← hz]
          congr 1
          simp only [List.length_cons]
          omega
        rw [strrchr, ih (i+1) k hs.2 hc.2 hz', hs.1]
        simp [Ne.symm hc.1]
  induction s generalizing i k with
  | nil =>
    obtain ⟨k,rfl⟩ := Nat.exists_eq_succ_of_ne_zero (by omega : k ≠ 0)
    simp only [List.length_nil, Nat.zero_add, Nat.add_comm 1, slice_succ, List.nil_append,
      List.cons.injEq] at hs
    have hz' : m (i+1+t.length) = 0 := by
      rw [← hz]
      congr 1
      simp only [List.length_nil]
      omega
    rw [strrchr, hnone t (i+1) k hs.2 ht.1 hz', hs.1]
    simp [hc]
  | cons a s ih =>
    obtain ⟨k,rfl⟩ := Nat.exists_eq_succ_of_ne_zero (by omega : k ≠ 0)
    have hlen : (a :: s).length+1+t.length = (s.length+1+t.length)+1 := by
      simp only [List.length_cons]
      omega
    rw [hlen, slice_succ, List.cons_append, List.cons.injEq] at hs
    simp only [List.mem_cons, not_or] at hn
    have hz' : m (i+1+(s.length+1+t.length)) = 0 := by
      rw [← hz, hlen]
      congr 1
      omega
    have ha : m i ≠ 0 := by
      rw [hs.1]
      exact fun h => hn.1 h.symm
    rw [strrchr, if_neg ha, ih (i+1) k hs.2 hn.2 hz' (by omega)]
    simp only [List.length_cons, Option.some.injEq]
    omega

theorem cstring_head (m : Mem) (i k : ℕ) (h : 0 < (cstring m i k).length) :
    (cstring m i k).head? = some (m i) := by
  cases k with
  | zero => simp [cstring] at h
  | succ k =>
    rw [cstring] at h ⊢
    split at h
    · cases h
    · rename_i hne
      rw [if_neg hne]
      rfl

/-- A string from one of its positions on. -/
theorem cstring_drop (m : Mem) (i k x : ℕ) (hx : x ≤ (cstring m i k).length) :
    cstring m (i+x) (k-x) = (cstring m i k).drop x := by
  induction x generalizing i k with
  | zero => rfl
  | succ x ih =>
    cases k with
    | zero => simp [cstring] at hx
    | succ k =>
      rw [cstring] at hx ⊢
      split at hx
      · cases hx
      · rename_i hne
        rw [if_neg hne, List.drop_succ_cons, ← ih (i+1) k (Nat.le_of_succ_le_succ hx)]
        congr 1 <;> omega

/-- A NUL at a position of a string ends it there. -/
theorem cstring_cut (m : Mem) (i k x : ℕ) (hx : x < (cstring m i k).length) :
    cstring (store m (i+x) [0]) i k = (cstring m i k).take x := by
  induction x generalizing i k with
  | zero =>
    cases k with
    | zero => rfl
    | succ k =>
      have hnul : store m i [0] i = 0 := store_apply_of_mem m i 0 [0] (by simp)
      rw [cstring, Nat.add_zero, if_pos hnul]
      rfl
  | succ x ih =>
    cases k with
    | zero => cases hx
    | succ k =>
      have hkeep : store m (i+(x+1)) [0] i = m i := store_apply_of_lt _ _ _ _ (by omega)
      rw [cstring] at hx
      split at hx
      · cases hx
      · rename_i hne
        have hrec := ih (i+1) k (Nat.lt_of_succ_lt_succ hx)
        have hpos : i+(x+1) = i+1+x := by omega
        rw [cstring, cstring, hkeep, if_neg hne, if_neg hne, List.take_succ_cons, ← hrec, hpos]

/-- strchr looks at the string only. -/
theorem strchr_cstring (m : Mem) (c : UInt8) (i k : ℕ) (hc : c ≠ 0) :
    strchr m c i k = ((cstring m i k).findIdx? (· == c)).map (i+·) := by
  induction k generalizing i with
  | zero => rfl
  | succ k ih =>
    rw [strchr, cstring]
    by_cases hm : m i = c
    · rw [if_pos hm, if_neg (hm ▸ hc), List.findIdx?_cons, if_pos (beq_iff_eq.mpr hm)]
      rfl
    · rw [if_neg hm]
      by_cases hz : m i = 0
      · rw [if_pos hz, if_pos hz]
        rfl
      · rw [if_neg hz, if_neg hz, ih, List.findIdx?_cons, if_neg (by simpa using hm),
          Option.map_map]
        congr 1
        funext x
        exact (by omega : i+1+x = i+(x+1))

/-- Putting back the byte that a NUL had replaced restores the memory. -/
theorem store_restore (m : Mem) (i : ℕ) (a b : UInt8) (h : m i = b) :
    store (store m i [a]) i [b] = m := by
  funext j
  by_cases hj : j = i
  · subst hj
    have hs := store_apply_of_mem (store m j [a]) j 0 [b] (by simp)
    simpa [h] using hs
  · simp only [store, List.length_cons, List.length_nil]
    rw [if_neg (by omega), if_neg (by omega)]

/-! 32-bit words. -/

def u32 (n : ℕ) : ℕ := n%2^32

/-- The 32-bit pattern of a signed value. -/
def u32OfInt (n : ℤ) : ℕ := (n%2^32).toNat

/-- A signed difference stored in a 64-bit size_t. -/
def sizeT (n : ℤ) : ℕ := (n%2^64).toNat

theorem u32_of_lt (n : ℕ) (h : n < 2^32) : u32 n = n := Nat.mod_eq_of_lt h

theorem u32_lt (n : ℕ) : u32 n < 2^32 := Nat.mod_lt _ (by decide)

theorem sizeT_of_nonneg (n : ℤ) (h0 : 0 ≤ n) (h : n < 2^64) : sizeT n = n.toNat := by
  rw [sizeT, Int.emod_eq_of_lt h0 h]

def le32 (n : ℕ) : List UInt8 :=
  [UInt8.ofNat n, UInt8.ofNat (n/2^8), UInt8.ofNat (n/2^16), UInt8.ofNat (n/2^24)]

def ofLe32 (bs : List UInt8) : ℕ :=
  (bs.getD 0 0).toNat+2^8*(bs.getD 1 0).toNat+2^16*(bs.getD 2 0).toNat+2^24*(bs.getD 3 0).toNat

@[simp] theorem length_le32 (n : ℕ) : (le32 n).length = 4 := rfl

theorem ofLe32_lt (bs : List UInt8) : ofLe32 bs < 2^32 := by
  have h (i : ℕ) : (bs.getD i 0).toNat < 2^8 := (bs.getD i 0).toNat_lt
  have h0 := h 0
  have h1 := h 1
  have h2 := h 2
  have h3 := h 3
  unfold ofLe32
  omega

theorem ofLe32_le32 (n : ℕ) : ofLe32 (le32 n) = u32 n := by
  simp only [ofLe32, le32, List.getD_cons_zero, List.getD_cons_succ, UInt8.toNat_ofNat', u32]
  omega

/-- The word at offset o. -/
def word (m : Mem) (o : ℕ) : ℕ := ofLe32 (slice m o 4)

/-- Two words that lie behind each other. -/
theorem words_of_slice (m : Mem) (o a b : ℕ) (h : slice m o 8 = le32 a ++ le32 b) :
    word m o = u32 a ∧ word m (o+4) = u32 b := by
  have hsplit : slice m o 4 ++ slice m (o+4) 4 = le32 a ++ le32 b := by
    rw [← slice_add]
    exact h
  obtain ⟨ha,hb⟩ := List.append_inj hsplit (by simp)
  rw [word, word, ha, hb, ofLe32_le32, ofLe32_le32]
  exact ⟨rfl,rfl⟩

theorem word_lt (m : Mem) (o : ℕ) : word m o < 2^32 := ofLe32_lt _

end ByteMemory
