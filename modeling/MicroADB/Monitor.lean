import Mathlib.Tactic

/-! Monitors of a trace: partial functions on states, which say for each event whether it is allowed
and what is to be expected behind it. -/
namespace Monitor

variable {S E : Type*} (step : S → E → Option S)

/-- The state behind the events; none when one of them was not allowed. -/
def follow (s : S) (es : List E) : Option S := es.foldlM step s

@[simp] theorem follow_nil (s : S) : follow step s [] = some s := rfl

@[simp] theorem follow_cons (s : S) (e : E) (es : List E) :
    follow step s (e :: es) = (step s e).bind (fun t => follow step t es) := List.foldlM_cons

@[simp] theorem follow_append (s : S) (es fs : List E) :
    follow step s (es ++ fs) = (follow step s es).bind (fun t => follow step t fs) :=
  List.foldlM_append

variable {step} {s t : S} {es fs : List E}

theorem follow_trans {u : S} (h : follow step s es = some t) (h' : follow step t fs = some u) :
    follow step s (es ++ fs) = some u := by
  rw [follow_append, h]
  exact h'

theorem follow_snoc {e : E} {u : S} (h : follow step s es = some t) (he : step t e = some u) :
    follow step s (es ++ [e]) = some u :=
  follow_trans h (by rw [follow_cons, he]; rfl)

/-- Events that a state allows and that leave it as it is. -/
theorem follow_still (h : ∀ e ∈ es, step s e = some s) : follow step s es = some s := by
  induction es with
  | nil => rfl
  | cons e es ih =>
    rw [follow_cons, h e List.mem_cons_self]
    exact ih (fun e he => h e (List.mem_cons_of_mem _ he))

/-- What the allowed events keep, of the state and of the events so far, holds at the end. -/
theorem follow_invariant (I : List E → S → Prop)
    (hstep : ∀ es s e t, I es s → step s e = some t → I (es ++ [e]) t) (l : List E) (hs : I l s)
    (h : follow step s es = some t) : I (l ++ es) t := by
  induction es generalizing s l with
  | nil =>
    obtain rfl := Option.some.inj h
    rwa [List.append_nil]
  | cons e es ih =>
    rw [follow_cons] at h
    obtain ⟨u,hu,hrest⟩ := Option.bind_eq_some_iff.mp h
    rw [List.append_cons]
    exact ih (l ++ [e]) (hstep l s e u hs hu) hrest

/-- In front of each event there was a state that allowed it. -/
theorem follow_at {l r : List E} {e : E} (h : follow step s (l ++ e :: r) = some t) :
    ∃ u v, follow step s l = some u ∧ step u e = some v ∧ follow step v r = some t := by
  rw [follow_append] at h
  obtain ⟨u,hu,hrest⟩ := Option.bind_eq_some_iff.mp h
  rw [follow_cons] at hrest
  obtain ⟨v,hv,hend⟩ := Option.bind_eq_some_iff.mp hrest
  exact ⟨u,v,hu,hv,hend⟩

end Monitor
