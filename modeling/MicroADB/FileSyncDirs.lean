import MicroADB.FileSyncTransfer

/-! create_path_directories. The loop cuts the string at a slash, makes the directory and puts the
slash back, so that each round finds the string as it was. What is left of it is a walk over the
prefixes of the path. -/
namespace MicroADB
open ByteMemory

/-! The prefixes. -/

/-- The positions of the slashes from i on. -/
def slashes (path : List UInt8) (i : ℕ) : List ℕ :=
  (List.range' i (path.length-i)).filter fun j => path[j]? = some 47

/-- The proper prefixes that end just before a slash, behind the first character, shortest first. -/
def parents (path : List UInt8) : List (List UInt8) := (slashes path 1).map path.take

theorem mem_slashes (path : List UInt8) (i j : ℕ) :
    j ∈ slashes path i ↔ i ≤ j ∧ path[j]? = some 47 := by
  rw [slashes, List.mem_filter, List.mem_range'_1]
  constructor
  · rintro ⟨⟨hi,-⟩,hj⟩
    exact ⟨hi,of_decide_eq_true hj⟩
  · rintro ⟨hi,hj⟩
    have hlt : j < path.length := (List.getElem?_eq_some_iff.mp hj).1
    exact ⟨⟨hi,by omega⟩,decide_eq_true hj⟩

theorem slashes_nil (path : List UInt8) (i : ℕ) (h : ∀ j, i ≤ j → path[j]? ≠ some 47) :
    slashes path i = [] := by
  apply List.eq_nil_iff_forall_not_mem.mpr
  intro j hj
  obtain ⟨hi,hslash⟩ := (mem_slashes path i j).mp hj
  exact h j hi hslash

theorem slashes_next (path : List UInt8) (i j : ℕ) (hij : i ≤ j) (hj : path[j]? = some 47)
    (hno : ∀ l, i ≤ l → l < j → path[l]? ≠ some 47) :
    slashes path i = j :: slashes path (j+1) := by
  have hlt : j < path.length := (List.getElem?_eq_some_iff.mp hj).1
  have hsplit : List.range' i (path.length-i) =
      List.range' i (j-i) ++ j :: List.range' (j+1) (path.length-(j+1)) := by
    have hcons : j :: List.range' (j+1) (path.length-(j+1)) = List.range' j (path.length-j) := by
      rw [← List.range'_succ]
      congr 1
      omega
    have hmid : List.range' j (path.length-j) = List.range' (i+(j-i)) (path.length-j) := by
      congr 1
      omega
    rw [hcons, hmid, List.range'_append_1]
    congr 1
    omega
  have hfront : (List.range' i (j-i)).filter (fun l => path[l]? = some 47) = [] := by
    apply List.filter_eq_nil_iff.mpr
    intro l hl
    obtain ⟨hil,hlj⟩ := List.mem_range'_1.mp hl
    simpa using hno l hil (by omega)
  unfold slashes
  rw [hsplit, List.filter_append, hfront, List.nil_append, List.filter_cons,
    if_pos (decide_eq_true hj)]

/-- What the prefixes are. -/
theorem mem_parents (path front : List UInt8) :
    front ∈ parents path ↔ front ≠ [] ∧ front ++ [47] <+: path := by
  rw [parents, List.mem_map]
  constructor
  · rintro ⟨j,hj,rfl⟩
    obtain ⟨hpos,hslash⟩ := (mem_slashes path 1 j).mp hj
    obtain ⟨hlt,hget⟩ := List.getElem?_eq_some_iff.mp hslash
    have hsucc : path.take j ++ [47] = path.take (j+1) := by
      rw [← hget, List.take_concat_get' path j hlt]
    refine ⟨fun hnil => ?_,?_⟩
    · have hlen := congrArg List.length hnil
      rw [List.length_take, List.length_nil] at hlen
      omega
    · rw [hsucc]
      exact List.take_prefix _ _
  · rintro ⟨hne,rest,rfl⟩
    refine ⟨front.length,(mem_slashes _ _ _).mpr ⟨List.length_pos_of_ne_nil hne,?_⟩,?_⟩
    · rw [List.append_assoc, List.getElem?_append_right le_rfl, Nat.sub_self]
      rfl
    · rw [List.append_assoc]
      exact List.take_left

/-- They come in the order of their lengths. -/
theorem parents_ascend (path : List UInt8) :
    (parents path).Pairwise fun p q => p.length < q.length := by
  have hsorted : (slashes path 1).Pairwise (· < ·) := List.Pairwise.filter _ List.pairwise_lt_range'
  refine List.pairwise_map.mpr (hsorted.imp_of_mem fun {i j} hi hj hlt => ?_)
  obtain ⟨-,hslash⟩ := (mem_slashes path 1 j).mp hj
  have hj' : j < path.length := (List.getElem?_eq_some_iff.mp hslash).1
  rw [List.length_take, List.length_take]
  omega

example : parents (ascii "/a//b/") = [ascii "/a",ascii "/a/",ascii "/a//b"] := by decide

/-! The walk. -/

variable {ω : Type} (cfg : Config) (fs : FileSystem ω)

/-- mkdir on each of the directories in turn, up to the first that cannot be made. -/
def makeDirs : List (List UInt8) → SyncCtx ω → ℤ × SyncCtx ω
  | [], c => (0, c)
  | dir :: dirs, c =>
    let r := sysMkdir fs c dir 0o775
    if r.1 < 0 ∧ fs.errno r.2.os ≠ eEXIST then r else makeDirs dirs r.2

/-- The directory of a call of mkdir. -/
def SyncEvent.dir : SyncEvent → Option (List UInt8)
  | .mkdir path _ _ => some path
  | _ => none

/-- The calls evs of mkdir that a walk over the directories makes, and what it returns. -/
structure Walked (dirs : List (List UInt8)) (evs : List SyncEvent) (ret : ℤ) : Prop where
  calls : evs.filterMap SyncEvent.dir <+: dirs
  mkdir : ∀ e ∈ evs, e.isMkdir
  front : ∀ e ∈ evs.dropLast, e.succeeds
  all : AllSucceed evs → evs.filterMap SyncEvent.dir = dirs
  ret : ret = 0 ↔ AllSucceed evs

theorem make_dirs_walked (dirs : List (List UInt8)) (c : SyncCtx ω) :
    ∃ evs, (makeDirs fs dirs c).2.log = c.log ++ evs ∧ (makeDirs fs dirs c).2.svc = c.svc ∧
      Walked dirs evs (makeDirs fs dirs c).1 := by
  induction dirs generalizing c with
  | nil =>
    refine ⟨[],(List.append_nil _).symm,rfl,⟨List.prefix_rfl,by simp,by simp,fun _ => rfl,?_⟩⟩
    exact ⟨fun _ => all_succeed_nil,fun _ => rfl⟩
  | cons dir dirs ih =>
    set r := sysMkdir fs c dir 0o775 with hr
    set e : SyncEvent := .mkdir dir r.1 (fs.errno r.2.os) with he
    have hlog : r.2.log = c.log ++ [e] := rfl
    have hdir : e.dir = some dir := rfl
    by_cases hbad : r.1 < 0 ∧ fs.errno r.2.os ≠ eEXIST
    · have hdef : makeDirs fs (dir :: dirs) c = r := if_pos hbad
      have hfail : ¬e.succeeds := by
        rintro (h | h)
        · exact absurd hbad.1 (not_lt.mpr h)
        · exact hbad.2 h
      rw [hdef]
      refine ⟨[e],hlog,rfl,⟨?_,?_,by simp,fun hall => ?_,?_⟩⟩
      · rw [List.filterMap_cons_some hdir]
        exact ⟨dirs,rfl⟩
      · exact fun _ hin => List.mem_singleton.mp hin ▸ trivial
      · exact absurd (hall e List.mem_cons_self) hfail
      · constructor
        · intro hzero
          exact absurd hbad.1 (by rw [hzero]; decide)
        · intro hall
          exact absurd (hall e List.mem_cons_self) hfail
    · have hdef : makeDirs fs (dir :: dirs) c = makeDirs fs dirs r.2 := if_neg hbad
      have hgood : e.succeeds := by
        rcases lt_or_ge r.1 0 with h | h
        · exact Or.inr (by_contra fun hne => hbad ⟨h,hne⟩)
        · exact Or.inl h
      obtain ⟨evs,hevs,hsvc,hw⟩ := ih r.2
      rw [hdef]
      refine ⟨e :: evs,?_,hsvc.trans rfl,⟨?_,?_,?_,fun hall => ?_,?_⟩⟩
      · rw [hevs, hlog, List.append_assoc]
        rfl
      · rw [List.filterMap_cons_some hdir]
        exact (List.prefix_cons_inj dir).mpr hw.calls
      · exact List.forall_mem_cons.mpr ⟨trivial,hw.mkdir⟩
      · intro x hx
        cases evs with
        | nil => cases hx
        | cons e' evs =>
          rcases List.mem_cons.mp hx with rfl | hx
          · exact hgood
          · exact hw.front x hx
      · rw [List.filterMap_cons_some hdir, hw.all ((all_succeed_cons _ _).mp hall).2]
      · rw [hw.ret, all_succeed_cons]
        exact (and_iff_right hgood).symm

/-! The loop. -/

/-- Cutting the string at a position of it. -/
theorem name_cut (c : SyncCtx ω) (j : ℕ) (hj : j < (c.name cfg).length) :
    (c.setBuff (store c.svc.buff j [0])).name cfg = (c.name cfg).take j := by
  have hcut := cstring_cut c.svc.buff 0 cfg.pathMax j hj
  rw [Nat.zero_add] at hcut
  exact hcut

/-- The loop finds the slashes behind x, however many rounds it is let make beyond the characters
that are left. -/
theorem create_path_loop_walks (n : ℕ) (c : SyncCtx ω) (x : ℕ) (hx : x < (c.name cfg).length)
    (hlt : (c.name cfg).length < cfg.pathMax) (hn : (c.name cfg).length-x ≤ n) :
    createPathLoop cfg fs n c x =
      makeDirs fs ((slashes (c.name cfg) (x+1)).map (c.name cfg).take) c := by
  induction n generalizing c x with
  | zero => omega
  | succ n ih =>
    have hstr : cstring c.svc.buff (x+1) (cfg.pathMax-(x+1)) = (c.name cfg).drop (x+1) := by
      have hdrop := cstring_drop c.svc.buff 0 cfg.pathMax (x+1) (by exact hx)
      rw [Nat.zero_add] at hdrop
      exact hdrop
    have hfind := strchr_cstring c.svc.buff 47 (x+1) (cfg.pathMax-(x+1)) (by decide)
    rw [hstr] at hfind
    rw [createPathLoop, hfind]
    cases hidx : ((c.name cfg).drop (x+1)).findIdx? (· == 47) with
    | none =>
      have hnone : slashes (c.name cfg) (x+1) = [] := by
        refine slashes_nil _ _ (fun j hj hslash => ?_)
        have hmem : (47 : UInt8) ∈ (c.name cfg).drop (x+1) := by
          refine List.mem_of_getElem? (i := j-(x+1)) ?_
          rw [List.getElem?_drop, Nat.add_sub_cancel' hj]
          exact hslash
        have hno := List.findIdx?_eq_none_iff.mp hidx 47 hmem
        cases hno
      rw [hnone]
      rfl
    | some k =>
      obtain ⟨hk,hslash,hbefore⟩ := List.findIdx?_eq_some_iff_getElem.mp hidx
      set y := x+1+k with hy
      have hy47 : (c.name cfg)[y]? = some 47 := by
        rw [hy, ← List.getElem?_drop, List.getElem?_eq_getElem hk]
        exact congrArg some (eq_of_beq hslash)
      have hylt : y < (c.name cfg).length := (List.getElem?_eq_some_iff.mp hy47).1
      have hnext : slashes (c.name cfg) (x+1) = y :: slashes (c.name cfg) (y+1) := by
        refine slashes_next _ _ _ (by omega) hy47 (fun l hl hly hslash' => ?_)
        have hlk : l-(x+1) < k := by omega
        refine hbefore (l-(x+1)) hlk (beq_iff_eq.mpr ?_)
        rw [List.getElem_drop]
        have hsame : x+1+(l-(x+1)) = l := by omega
        obtain ⟨_,hget⟩ := List.getElem?_eq_some_iff.mp hslash'
        simpa only [hsame] using hget
      have hbyte : c.svc.buff y = 47 := (strchr_bounds c.svc.buff 47 (x+1) _ y (by
        rw [hfind, hidx]
        rfl)).2.2
      have hback : store (store c.svc.buff y [0]) y [47] = c.svc.buff :=
        store_restore _ _ _ _ hbyte
      set r := sysMkdir fs c ((c.name cfg).take y) 0o775 with hr
      -- Behind mkdir the slash is put back, and the context is as if it had never been away.
      have hmk : sysMkdir fs (c.setBuff (store c.svc.buff y [0]))
          ((c.setBuff (store c.svc.buff y [0])).name cfg) 0o775 =
            (r.1,r.2.setBuff (store c.svc.buff y [0])) := by
        rw [name_cut cfg c y hylt]
        rfl
      have hrestored : (r.2.setBuff (store c.svc.buff y [0])).setBuff
          (store (r.2.setBuff (store c.svc.buff y [0])).svc.buff y [47]) = r.2 := by
        have hself : r.2.setBuff c.svc.buff = r.2 := rfl
        rw [← hself]
        simp only [SyncCtx.setBuff]
        rw [hback]
      have hname : r.2.name cfg = c.name cfg := rfl
      have hrest := ih r.2 y (hname ▸ hylt) (hname ▸ hlt) (by rw [hname]; omega)
      rw [hnext, List.map_cons, makeDirs, Option.map_some]
      dsimp only
      rw [hmk]
      dsimp only
      rw [hrestored, hrest, hname]

/-- Every absolute path in buff, and every file system: the walk over its parents, in as many rounds
as the loop takes by itself. -/
theorem create_path_directories_walks (c : SyncCtx ω) (path : List UInt8) (hname : c.name cfg = path)
    (hlt : path.length < cfg.pathMax) (habs : path.head? = some 47) :
    createPathDirectories cfg fs c = makeDirs fs (parents path) c ∧
      ∀ n, path.length ≤ n → createPathLoop cfg fs n c 0 = createPathDirectories cfg fs c := by
  subst hname
  have hpos : 0 < (c.name cfg).length := by
    rcases h : c.name cfg with _ | ⟨b,bs⟩
    · rw [h] at habs
      cases habs
    · exact Nat.succ_pos _
  have hfirst : c.svc.buff 0 = 47 := by
    rw [SyncCtx.name, cstring_head c.svc.buff 0 cfg.pathMax (by exact hpos)] at habs
    exact Option.some.inj habs
  have hdef : createPathDirectories cfg fs c = createPathLoop cfg fs cfg.pathMax c 0 :=
    if_neg (not_not.mpr hfirst)
  have hwalk (n : ℕ) (hn : (c.name cfg).length ≤ n) :
      createPathLoop cfg fs n c 0 = makeDirs fs (parents (c.name cfg)) c :=
    create_path_loop_walks cfg fs n c 0 hpos hlt hn
  rw [hdef, hwalk cfg.pathMax hlt.le]
  exact ⟨rfl,hwalk⟩

/-- Every absolute path that is terminated in buff, and every file system: the loop ends by itself,
mkdir is called for the parents of the path in their order, up to and including the first call that
fails, the result is 0 exactly when none does, and the string is as it was. -/
theorem path_directories_made (c : SyncCtx ω) (path : List UInt8) (hname : c.name cfg = path)
    (hlt : path.length < cfg.pathMax) (habs : path.head? = some 47) :
    (∀ n, path.length ≤ n → createPathLoop cfg fs n c 0 = createPathDirectories cfg fs c) ∧
      createPathDirectories cfg fs c = makeDirs fs (parents path) c ∧
      (createPathDirectories cfg fs c).2.svc = c.svc ∧
      (∃ evs, (createPathDirectories cfg fs c).2.log = c.log ++ evs ∧
        Walked (parents path) evs (createPathDirectories cfg fs c).1) ∧
      (parents path).Pairwise (fun p q => p.length < q.length) ∧
      ∀ front, front ∈ parents path ↔ front ≠ [] ∧ front ++ [47] <+: path := by
  obtain ⟨hwalk,hends⟩ := create_path_directories_walks cfg fs c path hname hlt habs
  obtain ⟨evs,hlog,hsvc,hwalked⟩ := make_dirs_walked fs (parents path) c
  refine ⟨hends,hwalk,?_,⟨evs,?_,?_⟩,parents_ascend path,mem_parents path⟩
  · rw [hwalk]
    exact hsvc
  · rw [hwalk]
    exact hlog
  · rw [hwalk]
    exact hwalked

/-- A path with a slash at its end, in a buffer that holds nothing else. -/
def pathHeld : SyncCtx Unit :=
  ⟨{ (default : AfsService) with buff := store (fun _ => 0) 0 (ascii "//a/b/") },default,(),[]⟩

theorem held_directories_made :
    ∃ evs, (createPathDirectories defaultConfig emptyFs pathHeld).2.log = [] ++ evs ∧
      Walked (parents (ascii "//a/b/")) evs
        (createPathDirectories defaultConfig emptyFs pathHeld).1 :=
  (path_directories_made defaultConfig emptyFs pathHeld (ascii "//a/b/") (by decide +kernel)
    (by decide) (by decide)).2.2.2.1

end MicroADB
