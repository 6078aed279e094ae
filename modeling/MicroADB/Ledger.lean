import Mathlib.Data.Multiset.AddSub
import Mathlib.Tactic

/-! Accounts of resources over a trace of events: what is held after it, if nothing was
given back that was not held. -/
namespace Ledger

variable {E R : Type*} [DecidableEq R] (acquires releases : E → Option R)

def settle (h : Multiset R) (e : E) : Option (Multiset R) :=
  match acquires e, releases e with
  | some r, _ => some (r ::ₘ h)
  | none, some r => if r ∈ h then some (h.erase r) else none
  | none, none => some h

/-- What is held after the events, starting from h; none when something was given back
that was not held at the time. -/
def held : Multiset R → List E → Option (Multiset R)
  | h, [] => some h
  | h, e :: es => (settle acquires releases h e).bind (fun h' => held h' es)

def acquired (es : List E) : Multiset R := es.filterMap acquires

def released (es : List E) : Multiset R := es.filterMap releases

theorem held_append (h : Multiset R) (es fs : List E) :
    held acquires releases h (es ++ fs) =
      (held acquires releases h es).bind (fun h' => held acquires releases h' fs) := by
  induction es generalizing h with
  | nil => rfl
  | cons e es ih =>
    simp only [List.cons_append, held, Option.bind_assoc]
    congr 1
    funext h'
    exact ih h'

/-- Events that neither acquire nor release. -/
def Neutral (e : E) : Prop := acquires e = none ∧ releases e = none

theorem held_neutral (h : Multiset R) (es : List E)
    (hn : ∀ e ∈ es, Neutral acquires releases e) : held acquires releases h es = some h := by
  induction es with
  | nil => rfl
  | cons e es ih =>
    obtain ⟨ha,hr⟩ := hn e List.mem_cons_self
    have htail := ih (fun e he => hn e (List.mem_cons_of_mem _ he))
    simp only [held, settle, ha, hr, Option.bind_some, htail]

theorem held_append_neutral (h : Multiset R) (es fs : List E)
    (hn : ∀ e ∈ fs, Neutral acquires releases e) :
    held acquires releases h (es ++ fs) = held acquires releases h es := by
  rw [held_append]
  simp only [held_neutral acquires releases _ fs hn, Option.bind_fun_some]

section Last

variable {acquires releases} {h k : Multiset R} {es : List E} {e : E} {r : R}

theorem held_acquire (hk : held acquires releases h es = some k) (ha : acquires e = some r) :
    held acquires releases h (es ++ [e]) = some (r ::ₘ k) := by
  rw [held_append, hk]
  simp [held, settle, ha]

theorem held_release (hk : held acquires releases h es = some (r ::ₘ k)) (ha : acquires e = none)
    (hr : releases e = some r) : held acquires releases h (es ++ [e]) = some k := by
  rw [held_append, hk]
  simp [held, settle, ha, hr]

theorem held_pass (hk : held acquires releases h es = some k) (he : Neutral acquires releases e) :
    held acquires releases h (es ++ [e]) = some k := by
  rw [held_append_neutral acquires releases h es [e] (by simpa using he), hk]

end Last

/-- The resources held after the events are those of S, each of them once. -/
def Exact (es : List E) (S : R → Prop) : Prop :=
  ∃ m, held acquires releases 0 es = some m ∧ m.Nodup ∧ ∀ r, r ∈ m ↔ S r

section Exact

variable {acquires releases} {es : List E} {e : E} {r : R} {S T : R → Prop}

theorem exact_nil (hS : ∀ r, ¬S r) : Exact acquires releases [] S :=
  ⟨0,rfl,Multiset.nodup_zero,fun r => iff_of_false (Multiset.notMem_zero r) (hS r)⟩

theorem Exact.congr (h : Exact acquires releases es S) (hT : ∀ x, T x ↔ S x) :
    Exact acquires releases es T := by
  obtain ⟨m,hm,hn,hmem⟩ := h
  exact ⟨m,hm,hn,fun x => (hmem x).trans (hT x).symm⟩

theorem Exact.pass (h : Exact acquires releases es S) (he : Neutral acquires releases e)
    (hT : ∀ x, T x ↔ S x) : Exact acquires releases (es ++ [e]) T := by
  obtain ⟨m,hm,hn,hmem⟩ := h
  exact ⟨m,held_pass hm he,hn,fun x => (hmem x).trans (hT x).symm⟩

theorem Exact.acquire (h : Exact acquires releases es S) (ha : acquires e = some r) (hr : ¬S r)
    (hT : ∀ x, T x ↔ x = r ∨ S x) : Exact acquires releases (es ++ [e]) T := by
  obtain ⟨m,hm,hn,hmem⟩ := h
  refine ⟨r ::ₘ m,held_acquire hm ha,Multiset.nodup_cons.mpr ⟨?_,hn⟩,fun x => ?_⟩
  · exact fun hin => hr ((hmem r).mp hin)
  · rw [Multiset.mem_cons, hmem, hT]

theorem Exact.release (h : Exact acquires releases es S) (ha : acquires e = none)
    (he : releases e = some r) (hr : S r) (hT : ∀ x, T x ↔ x ≠ r ∧ S x) :
    Exact acquires releases (es ++ [e]) T := by
  obtain ⟨m,hm,hn,hmem⟩ := h
  obtain ⟨t,rfl⟩ := Multiset.exists_cons_of_mem ((hmem r).mpr hr)
  obtain ⟨hrt,ht⟩ := Multiset.nodup_cons.mp hn
  refine ⟨t,held_release hm ha he,ht,fun x => ?_⟩
  rw [hT, ← hmem, Multiset.mem_cons]
  constructor
  · intro hx
    exact ⟨fun hxr => hrt (hxr ▸ hx),Or.inr hx⟩
  · rintro ⟨hne,rfl | hx⟩
    · exact absurd rfl hne
    · exact hx

end Exact

/-- What was held and acquired is what was released and is still held. -/
theorem held_balance (hex : ∀ e, acquires e = none ∨ releases e = none) (h k : Multiset R)
    (es : List E) (hk : held acquires releases h es = some k) :
    h+acquired acquires es = k+released releases es := by
  induction es generalizing h with
  | nil =>
    obtain rfl := Option.some.inj hk
    rfl
  | cons e es ih =>
    rw [held] at hk
    rcases ha : acquires e with _ | a <;> rcases hr : releases e with _ | r <;>
      simp only [settle, ha, hr] at hk
    · simpa [acquired, released, ha, hr] using ih h hk
    · split_ifs at hk with hmem
      · have hrest := ih (h.erase r) hk
        obtain ⟨t,rfl⟩ := Multiset.exists_cons_of_mem hmem
        simp only [Multiset.erase_cons_head] at hrest
        simp only [acquired, released, List.filterMap_cons, ha, hr] at hrest ⊢
        rw [← Multiset.cons_coe, Multiset.cons_add, Multiset.add_cons, hrest]
      · cases hk
    · have hrest := ih (a ::ₘ h) hk
      simp only [acquired, released, List.filterMap_cons, ha, hr] at hrest ⊢
      rw [← Multiset.cons_coe, Multiset.add_cons, ← hrest, Multiset.cons_add]
    · rcases hex e with he | he
      · rw [ha] at he
        cases he
      · rw [hr] at he
        cases he

end Ledger
