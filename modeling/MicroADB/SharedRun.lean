import MicroADB.EventRun
import Mathlib.Logic.Function.Basic

/-! Machines that share an environment: each takes its steps on the environment as the others have
left it, and new machines are started at any time. -/
namespace SharedRun
open EventRun

variable {K S E Ω : Type*} [DecidableEq K]

/-- The machines by their names, and the environment. -/
structure System (K S Ω : Type*) where
  parts : K → Option S
  env : Ω

variable (get : S → Ω) (put : S → Ω → S) (step : S → E → S)

/-- The machine k takes a step, if there is one. -/
def System.act (s : System K S Ω) (k : K) (e : E) : System K S Ω :=
  match s.parts k with
  | none => s
  | some p =>
    ⟨Function.update s.parts k (some (step (put p s.env) e)),get (step (put p s.env) e)⟩

/-- A machine is started under the name k. -/
def System.start (s : System K S Ω) (k : K) (p : S) : System K S Ω :=
  ⟨Function.update s.parts k (some p),get p⟩

/-- The machine k is gone. -/
def System.drop (s : System K S Ω) (k : K) (env : Ω) : System K S Ω :=
  ⟨Function.update s.parts k none,env⟩

/-- Every machine satisfies I. -/
def System.All (I : S → Prop) (s : System K S Ω) : Prop := ∀ k p, s.parts k = some p → I p

variable {get put step} {I : S → Prop} {s : System K S Ω} {k : K}

theorem System.All.update {o : Option S} (h : s.All I) (ho : ∀ p, o = some p → I p) (env : Ω) :
    System.All I ⟨Function.update s.parts k o,env⟩ := by
  intro j p hp
  change Function.update s.parts k o j = some p at hp
  by_cases hjk : j = k
  · subst hjk
    rw [Function.update_self] at hp
    exact ho p hp
  · rw [Function.update_of_ne hjk] at hp
    exact h j p hp

/-- An invariant of the steps that does not depend on the environment is one of the system. -/
theorem System.All.act (h : s.All I) (hput : ∀ p env, I p → I (put p env))
    (hstep : ∀ p e, I p → I (step p e)) (k : K) (e : E) : (s.act get put step k e).All I := by
  unfold System.act
  split
  · exact h
  · rename_i p hp
    refine h.update (fun q hq => ?_) _
    obtain rfl := Option.some.inj hq
    exact hstep _ e (hput p s.env (h k p hp))

theorem System.All.start (h : s.All I) {p : S} (hp : I p) (k : K) : (s.start get k p).All I :=
  h.update (fun _ hq => Option.some.inj hq ▸ hp) _

theorem System.All.drop (h : s.All I) (k : K) (env : Ω) : (s.drop k env).All I :=
  h.update (fun _ hq => by cases hq) _

end SharedRun
