import Mathlib.Data.List.Infix
import Mathlib.Tactic

/-! Codes whose words tell themselves where they end: a stream of such words is split
into words in one way. -/
namespace PrefixCode

variable {F B : Type*} (wire : F → List B) (V : F → Prop)

/-- No word is the beginning of another. -/
def PrefixFree : Prop := ∀ f g, V f → V g → wire f <+: wire g → f = g

variable {wire V}

/-- Two words at the front of one stream are the same. -/
theorem PrefixFree.front (h : PrefixFree wire V) {f g : F} (hf : V f) (hg : V g)
    {s : List B} (hfs : wire f <+: s) (hgs : wire g <+: s) : f = g := by
  rcases List.prefix_or_prefix_of_prefix hfs hgs with hpre | hpre
  · exact h f g hf hg hpre
  · exact (h g f hg hf hpre).symm

/-- The words that were taken from a stream are as many as it begins with, when the next
one is not there. -/
theorem PrefixFree.longest (h : PrefixFree wire V) (fs gs : List F) (rest : List B)
    (hf : ∀ f ∈ fs, V f) (hg : ∀ g ∈ gs, V g)
    (hpre : gs.flatMap wire <+: fs.flatMap wire ++ rest)
    (hend : ∀ g, gs[fs.length]? = some g → ¬wire g <+: rest) : gs <+: fs := by
  induction fs generalizing gs with
  | nil =>
    cases gs with
    | nil => exact List.prefix_refl _
    | cons g gs =>
      refine absurd ?_ (hend g rfl)
      rw [List.flatMap_cons] at hpre
      exact (List.prefix_append _ _).trans hpre
  | cons f fs ih =>
    cases gs with
    | nil => exact List.nil_prefix
    | cons g gs =>
      rw [List.flatMap_cons, List.flatMap_cons, List.append_assoc] at hpre
      have hfront : g = f :=
        h.front (hg g List.mem_cons_self) (hf f List.mem_cons_self)
          ((List.prefix_append _ _).trans hpre) (List.prefix_append _ _)
      subst hfront
      rw [List.prefix_append_right_inj] at hpre
      have htail := ih gs (fun f hf' => hf f (List.mem_cons_of_mem _ hf'))
        (fun g' hg' => hg g' (List.mem_cons_of_mem _ hg')) hpre (fun g' hg' => hend g' hg')
      exact (List.prefix_cons_inj g).mpr htail

/-- A stream that consists of words is split into them. -/
theorem PrefixFree.split_unique (h : PrefixFree wire V) (fs gs : List F) (rest : List B)
    (hf : ∀ f ∈ fs, V f) (hg : ∀ g ∈ gs, V g) (hne : ∀ f, wire f ≠ [])
    (heq : fs.flatMap wire ++ rest = gs.flatMap wire)
    (hend : ∀ g, gs[fs.length]? = some g → ¬wire g <+: rest) : fs = gs ∧ rest = [] := by
  obtain ⟨t,rfl⟩ := h.longest fs gs rest hf hg (heq ▸ List.prefix_refl _) hend
  rw [List.flatMap_append, List.append_assoc] at heq
  obtain ⟨ht,hrest⟩ := List.append_eq_nil_iff.mp (List.append_right_eq_self.mp heq)
  cases t with
  | nil => exact ⟨List.append_nil _,hrest⟩
  | cons f t =>
    rw [List.flatMap_cons] at ht
    exact absurd (List.append_eq_nil_iff.mp ht).1 (hne f)

end PrefixCode
