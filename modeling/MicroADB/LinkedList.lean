import Mathlib.Data.List.Nodup
import Mathlib.Tactic

/-! Singly linked lists in memory: a head and the next field of every node. The walks are
the loops that C code makes over such a list, and each is compared with what it does to the
list of the nodes. -/
namespace LinkedList

variable {α : Type*} [DecidableEq α]

structure Links (α : Type*) where
  head : Option α
  next : α → Option α

/-- The nodes from p on are those of l, and NULL ends them. -/
def Chain (next : α → Option α) : Option α → List α → Prop
  | p, [] => p = none
  | p, a :: l => p = some a ∧ Chain next (next a) l

def Links.Holds (s : Links α) (l : List α) : Prop := Chain s.next s.head l

def Links.empty : Links α := ⟨none,fun _ => none⟩

/-- A node becomes the head. -/
def Links.push (s : Links α) (a : α) : Links α := ⟨some a,Function.update s.next a s.head⟩

/-- How the search for a node ends: unlinked, at the end of the list, at a NULL that it
reads from, or not within the number of steps it was given. -/
inductive Removal (α : Type*)
  | done (s : Links α)
  | notFound
  | null
  | endless

/-- while (cur->next) with the test for the node and the step to the next. -/
def Links.unlinkFrom (s : Links α) (a : α) : ℕ → α → Removal α
  | 0, _ => .endless
  | n+1, cur =>
    match s.next cur with
    | none => .notFound
    | some b =>
      if b = a then .done ⟨s.head,Function.update s.next cur (s.next a)⟩
      else s.unlinkFrom a n b

/-- The head is tested first. Its next field is read without a test for NULL. -/
def Links.unlink (s : Links α) (n : ℕ) (a : α) : Removal α :=
  match s.head with
  | none => .null
  | some h => if h = a then .done ⟨s.next a,s.next⟩ else s.unlinkFrom a n h

/-- The first node from p on that meets a test. -/
def findFrom (next : α → Option α) (test : α → Bool) : ℕ → Option α → Option α
  | 0, _ => none
  | _+1, none => none
  | n+1, some a => if test a then some a else findFrom next test n (next a)

def Links.find (s : Links α) (n : ℕ) (test : α → Bool) : Option α := findFrom s.next test n s.head

/-- A node outside the list can be written to. -/
theorem Chain.update {next : α → Option α} {p : Option α} {l : List α} (h : Chain next p l)
    {a : α} (ha : a ∉ l) (v : Option α) : Chain (Function.update next a v) p l := by
  induction l generalizing p with
  | nil => exact h
  | cons b t ih =>
    rw [List.mem_cons, not_or] at ha
    refine ⟨h.1,?_⟩
    rw [Function.update_of_ne (Ne.symm ha.1)]
    exact ih h.2 ha.2

omit [DecidableEq α] in
theorem empty_holds : (Links.empty : Links α).Holds [] := rfl

theorem Links.Holds.push {s : Links α} {l : List α} (h : s.Holds l) {a : α} (ha : a ∉ l) :
    (s.push a).Holds (a :: l) := by
  refine ⟨rfl,?_⟩
  change Chain (Function.update s.next a s.head) (Function.update s.next a s.head a) l
  rw [Function.update_self]
  exact Chain.update h ha _

/-- The search for a node behind cur: only fields of the nodes passed are written. -/
theorem unlink_from_spec (s : Links α) {a cur : α} {l : List α} {n : ℕ}
    (h : Chain s.next (s.next cur) l) (hnodup : (cur :: l).Nodup) (ha : a ∈ l)
    (hn : l.length ≤ n) :
    ∃ next', s.unlinkFrom a n cur = .done ⟨s.head,next'⟩ ∧
      (∀ b, b ∉ cur :: l → next' b = s.next b) ∧ Chain next' (next' cur) (l.erase a) := by
  induction l generalizing cur n with
  | nil => cases ha
  | cons b t ih =>
    obtain ⟨m,rfl⟩ : ∃ m, n = m+1 := ⟨n-1,by simp at hn; omega⟩
    have hcur : s.next cur = some b := h.1
    have hnot : cur ∉ b :: t := (List.nodup_cons.mp hnodup).1
    rw [Links.unlinkFrom, hcur]
    dsimp only
    split
    · rename_i hba
      subst hba
      have hframe (c : α) (hc : c ∉ cur :: b :: t) :
          Function.update s.next cur (s.next b) c = s.next c :=
        Function.update_of_ne (List.ne_of_not_mem_cons hc) _ _
      refine ⟨_,rfl,hframe,?_⟩
      rw [Function.update_self, List.erase_cons_head]
      exact h.2.update (fun hin => hnot (List.mem_cons_of_mem _ hin)) _
    · rename_i hba
      have hat : a ∈ t := (List.mem_cons.mp ha).resolve_left (Ne.symm hba)
      obtain ⟨next',heq,hframe,hchain⟩ :=
        ih h.2 (List.nodup_cons.mp hnodup).2 hat (by simpa using hn)
      refine ⟨next',heq,fun c hc => hframe c (fun hin => hc (List.mem_cons_of_mem _ hin)),?_⟩
      rw [List.erase_cons_tail (by simpa using hba)]
      exact ⟨(hframe cur hnot).trans hcur,hchain⟩

/-- A node of the list is unlinked, wherever it stands. -/
theorem Links.Holds.unlink {s : Links α} {l : List α} (h : s.Holds l) (hnodup : l.Nodup) {a : α}
    (ha : a ∈ l) {n : ℕ} (hn : l.length ≤ n) :
    ∃ s', s.unlink n a = .done s' ∧ s'.Holds (l.erase a) := by
  cases l with
  | nil => cases ha
  | cons b t =>
    have hhead : s.head = some b := h.1
    rw [Links.unlink, hhead]
    dsimp only
    split
    · rename_i hba
      subst hba
      refine ⟨_,rfl,?_⟩
      rw [List.erase_cons_head]
      exact h.2
    · rename_i hba
      have hat : a ∈ t := (List.mem_cons.mp ha).resolve_left (Ne.symm hba)
      have hlen : t.length ≤ n := by
        rw [List.length_cons] at hn
        omega
      obtain ⟨next',heq,-,hchain⟩ := unlink_from_spec s h.2 hnodup hat hlen
      refine ⟨_,heq,?_⟩
      rw [List.erase_cons_tail (by simpa using hba)]
      exact ⟨hhead,hchain⟩

omit [DecidableEq α] in
theorem find_from_spec {next : α → Option α} {p : Option α} {l : List α} (h : Chain next p l)
    (test : α → Bool) {n : ℕ} (hn : l.length < n) : findFrom next test n p = l.find? test := by
  induction l generalizing p n with
  | nil =>
    obtain rfl := h
    obtain ⟨m,rfl⟩ : ∃ m, n = m+1 := ⟨n-1,by simp at hn; omega⟩
    rfl
  | cons a t ih =>
    obtain ⟨m,rfl⟩ : ∃ m, n = m+1 := ⟨n-1,by simp at hn; omega⟩
    rw [h.1, findFrom, List.find?_cons]
    split
    · rename_i htest
      rw [htest]
    · rename_i htest
      rw [ih h.2 (by simpa using hn)]
      simp [htest]

omit [DecidableEq α] in
theorem Links.Holds.find {s : Links α} {l : List α} (h : s.Holds l) (test : α → Bool) {n : ℕ}
    (hn : l.length < n) : s.find n test = l.find? test := find_from_spec h test hn

end LinkedList
