import Mathlib.Logic.Relation
import Mathlib.Tactic

/-! Runs of a deterministic event-driven machine, and the rules by which what one
step keeps is kept by a whole run. -/
namespace EventRun

variable {S E : Type*} (step : S → E → S)

def run (s : S) (es : List E) : S := es.foldl step s

/-- Every step of the run is taken from a state and with an event that satisfy C. -/
def Along (C : S → E → Prop) : S → List E → Prop
  | _, [] => True
  | s, e :: es => C s e ∧ Along C (step s e) es

instance alongDecidable (C : S → E → Prop) [∀ s e, Decidable (C s e)] :
    (s : S) → (es : List E) → Decidable (Along step C s es)
  | _, [] => isTrue trivial
  | s, e :: es =>
    have := alongDecidable C (step s e) es
    inferInstanceAs (Decidable (C s e ∧ Along step C (step s e) es))

@[simp] theorem run_nil (s : S) : run step s [] = s := rfl

@[simp] theorem run_cons (s : S) (e : E) (es : List E) :
    run step s (e :: es) = run step (step s e) es := rfl

theorem run_append (s : S) (es fs : List E) :
    run step s (es ++ fs) = run step (run step s es) fs := List.foldl_append

theorem along_of_forall (C : S → E → Prop) (h : ∀ s e, C s e) (s : S) (es : List E) :
    Along step C s es := by
  induction es generalizing s with
  | nil => trivial
  | cons e es ih => exact ⟨h s e, ih (step s e)⟩

/-- An invariant that the steps keep holds after every run. -/
theorem run_invariant (I : S → Prop) (hstep : ∀ s e, I s → I (step s e)) (s : S)
    (hs : I s) (es : List E) : I (run step s es) := by
  induction es generalizing s with
  | nil => exact hs
  | cons e es ih => exact ih (step s e) (hstep s e hs)

/-- The same for steps that meet a condition, in a run that meets it throughout. -/
theorem run_invariant_along (I : S → Prop) (C : S → E → Prop)
    (hstep : ∀ s e, I s → C s e → I (step s e)) (s : S) (hs : I s) (es : List E)
    (hc : Along step C s es) : I (run step s es) := by
  induction es generalizing s with
  | nil => exact hs
  | cons e es ih => exact ih (step s e) (hstep s e hs hc.1) hc.2

/-- What an invariant gives at each step holds along the run. -/
theorem along_of_invariant (I : S → Prop) (C D : S → E → Prop)
    (hstep : ∀ s e, I s → C s e → I (step s e)) (hd : ∀ s e, I s → C s e → D s e)
    (s : S) (hs : I s) (es : List E) (hc : Along step C s es) : Along step D s es := by
  induction es generalizing s with
  | nil => trivial
  | cons e es ih => exact ⟨hd s e hs hc.1, ih (step s e) (hstep s e hs hc.1) hc.2⟩

/-- Two conditions that an invariant makes equivalent at each step are equivalent along
the run, when the invariant is kept by the steps that meet one of them. -/
theorem along_iff_of_invariant (I : S → Prop) (C D : S → E → Prop)
    (hstep : ∀ s e, I s → C s e → I (step s e)) (s : S) (hs : I s) (es : List E)
    (hiff : ∀ s, ∀ e ∈ es, I s → (C s e ↔ D s e)) : Along step C s es ↔ Along step D s es := by
  induction es generalizing s with
  | nil => exact Iff.rfl
  | cons e es ih =>
    have hone := hiff s e List.mem_cons_self hs
    have hrest (t : S) (ht : I t) : Along step C t es ↔ Along step D t es :=
      ih t ht (fun u e' he' hu => hiff u e' (List.mem_cons_of_mem _ he') hu)
    constructor
    · exact fun h => ⟨hone.mp h.1,(hrest _ (hstep s e hs h.1)).mp h.2⟩
    · intro h
      have hc := hone.mpr h.1
      exact ⟨hc,(hrest _ (hstep s e hs hc)).mpr h.2⟩

/-! What the steps put out. -/

section Outputs

variable {B : Type*} (f : S → E → List B)

/-- The outputs of the steps of a run, in order. -/
def outputs : S → List E → List B
  | _, [] => []
  | s, e :: es => f s e ++ outputs (step s e) es

/-- An invariant of the state and of the outputs so far. -/
theorem run_outputs_along (I : S → List B → Prop) (C : S → E → Prop)
    (hstep : ∀ s e bs, I s bs → C s e → I (step s e) (bs ++ f s e)) (s : S) (bs : List B)
    (hs : I s bs) (es : List E) (hc : Along step C s es) :
    I (run step s es) (bs ++ outputs step f s es) := by
  induction es generalizing s bs with
  | nil => rw [outputs, List.append_nil]; exact hs
  | cons e es ih =>
    rw [outputs, ← List.append_assoc]
    exact ih (step s e) (bs ++ f s e) (hstep s e bs hs hc.1) hc.2

end Outputs

/-! Events that do nothing. -/

variable (hidden : S → E → Prop) [∀ s e, Decidable (hidden s e)]

/-- The events of the run without those that are hidden in the state they meet. -/
def visible : S → List E → List E
  | _, [] => []
  | s, e :: es =>
    if hidden s e then visible (step s e) es else e :: visible (step s e) es

/-- A run in which every hidden event is a stuttering step ends like the run without them. -/
theorem run_visible (R : S → S → Prop) (htrans : ∀ s t u, R s t → R t u → R s u)
    (hstep : ∀ s t e, R s t → R (step s e) (step t e)) (s t : S) (h : R s t) (es : List E)
    (hquiet : Along step (fun s e => hidden s e → R (step s e) s) s es) :
    R (run step s es) (run step t (visible step hidden s es)) := by
  induction es generalizing s t with
  | nil => exact h
  | cons e es ih =>
    obtain ⟨hhead,htail⟩ := hquiet
    rw [visible]
    split
    · rename_i hh
      exact ih _ _ (htrans _ _ _ (hhead hh) h) htail
    · exact ih _ _ (hstep s t e h) htail

end EventRun
