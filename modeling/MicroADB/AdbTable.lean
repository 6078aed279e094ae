import MicroADB.AdbPool
import MicroADB.LinkedList

/-! The table of services under the operations of adb_client.c: the linked list behind it, the
ids and the searches. -/
namespace MicroADB
open ByteMemory EventRun LinkedList

variable {ω : Type} {cfg : Config} {fs : FileSystem ω} {uv : Uv ω} {d d' : Daemon ω}

/-! The operations. -/

inductive TableOp
  /-- adb_service_open -/
  | serviceOpen (up : ApacketUv)
  /-- handle_open_frame behind an adb_service_open that passed its guard and returned NULL. -/
  | oneShot (up : ApacketUv)
  /-- adb_service_close of a registered service. -/
  | serviceClose (a : ℕ) (up : Option ApacketUv)

def tableStep (cfg : Config) (fs : FileSystem ω) (uv : Uv ω) (d : Daemon ω) (op : TableOp) :
    Daemon ω :=
  if d.crashed then d
  else match op with
    | .serviceOpen up => (adbServiceOpen cfg uv d up).2.2
    | .oneShot up =>
      if d.nextServiceId = 0 then d.fault .idOverflow else afterOpen cfg fs uv (none, up, d)
    | .serviceClose a up => if a ∈ d.services then adbServiceClose fs uv d a up else d

def tableRun (cfg : Config) (fs : FileSystem ω) (uv : Uv ω) (token : List UInt8) (os : ω)
    (ops : List TableOp) : Daemon ω :=
  run (tableStep cfg fs uv) (daemonStart token os) ops

/-! What the trace says about the list. -/

def openStep (l : List ℕ) (e : Event) : List ℕ :=
  match e with
  | .opened a _ => a :: l
  | .serviceClose a _ => l.erase a
  | _ => l

/-- The services that were registered and not closed, newest first. -/
def openServices (log : List Event) : List ℕ := log.foldl openStep []

/-- The next fields behind the events: a registration writes the head, adb_service_close
searches the list, for n steps at most. -/
def linksStep (n : ℕ) (s : Option (Links ℕ)) (e : Event) : Option (Links ℕ) :=
  match e with
  | .opened a _ => s.map (Links.push · a)
  | .serviceClose a _ => s.bind fun s => match s.unlink n a with | .done s' => some s' | _ => none
  | _ => s

/-- The linked list; none when a search did not end at the service. -/
def linksAfter (n : ℕ) (log : List Event) : Option (Links ℕ) :=
  log.foldl (linksStep n) (some Links.empty)

def Event.table : Event → Bool
  | .opened .. | .serviceClose .. => true
  | _ => false

theorem table_of_plain (e : Event) (h : e.plain = true) : e.table = false := by
  cases e <;> first | rfl | cases h

theorem foldl_other {S : Type} (f : S → Event → S) (hf : ∀ s e, e.table = false → f s e = s)
    (s : S) (es : List Event) (h : ∀ e ∈ es, e.table = false) : es.foldl f s = s := by
  induction es with
  | nil => rfl
  | cons e es ih =>
    rw [List.foldl_cons, hf s e (h e List.mem_cons_self)]
    exact ih (fun e he => h e (List.mem_cons_of_mem _ he))

theorem open_services_append (l es : List Event) (h : ∀ e ∈ es, e.table = false) :
    openServices (l ++ es) = openServices l := by
  have hother (s : List ℕ) (e : Event) (he : e.table = false) : openStep s e = s := by
    cases e <;> first | rfl | cases he
  rw [openServices, List.foldl_append]
  exact foldl_other openStep hother _ es h

theorem links_append (n : ℕ) (l es : List Event) (h : ∀ e ∈ es, e.table = false) :
    linksAfter n (l ++ es) = linksAfter n l := by
  have hother (s : Option (Links ℕ)) (e : Event) (he : e.table = false) :
      linksStep n s e = s := by
    cases e <;> first | rfl | cases he
  rw [linksAfter, List.foldl_append]
  exact foldl_other (linksStep n) hother _ es h

theorem open_services_length (l : List Event) : (openServices l).length ≤ l.length := by
  induction l using List.reverseRecOn with
  | nil => exact le_rfl
  | append_singleton l e ih =>
    have hstep (s : List ℕ) : (openStep s e).length ≤ s.length+1 := by
      cases e with
      | opened a params => exact le_rfl
      | serviceClose a b => exact List.length_erase_le.trans (Nat.le_succ _)
      | _ => exact Nat.le_succ _
    rw [openServices, List.foldl_append, ← openServices, List.length_append]
    exact (hstep _).trans (Nat.succ_le_succ ih)

/-! The invariant. -/

structure Listed (d : Daemon ω) : Prop where
  nodup : d.services.Nodup
  list : d.services = openServices d.log
  links : ∀ n, d.log.length ≤ n → ∃ s, linksAfter n d.log = some s ∧ s.Holds d.services
  counter : d.nextServiceId < 2^32
  /-- The ids of the list are those that the counter has passed. -/
  ids : ∀ a ∈ d.services, ∃ svc, d.heap a = some svc ∧ svc.id ≠ 0 ∧
    (d.nextServiceId = 0 ∨ svc.id < d.nextServiceId)
  distinct : ∀ a b svc svc', a ∈ d.services → b ∈ d.services → d.heap a = some svc →
    d.heap b = some svc' → svc.id = svc'.id → a = b

theorem Listed.of_log (h : Listed d) (hs : d'.services = d.services) (hh : d'.heap = d.heap)
    (hn : d'.nextServiceId = d.nextServiceId) (es : List Event) (hlog : d'.log = d.log ++ es)
    (hes : ∀ e ∈ es, e.table = false) : Listed d' := by
  refine ⟨hs ▸ h.nodup,?_,fun n hle => ?_,hn ▸ h.counter,?_,?_⟩
  · rw [hs, hlog, open_services_append _ _ hes]
    exact h.list
  · rw [hlog, List.length_append] at hle
    rw [hs, hlog, links_append n _ _ hes]
    exact h.links n (by omega)
  · rw [hs, hh, hn]
    exact h.ids
  · rw [hs, hh]
    exact h.distinct

theorem Listed.quietly (h : Listed d) (hq : Quietly d d') : Listed d' := by
  obtain ⟨es,hlog,hes⟩ := hq.log
  exact h.of_log hq.services hq.heap hq.nextServiceId es hlog
    (fun e he => table_of_plain e (hes e he))

/-- The next id is larger than those in use, unless the counter wraps. -/
theorem Listed.take_id (h : Listed d) (hn : d.nextServiceId ≠ 0) {a : ℕ} (ha : a ∈ d.services) :
    ∃ svc, d.heap a = some svc ∧ svc.id ≠ 0 ∧ svc.id ≠ d.nextServiceId ∧
      (u32 (d.nextServiceId+1) = 0 ∨ svc.id < u32 (d.nextServiceId+1)) := by
  obtain ⟨svc,hsvc,hid,hlt⟩ := h.ids a ha
  have hlt := hlt.resolve_left hn
  have hcounter := h.counter
  refine ⟨svc,hsvc,hid,by omega,?_⟩
  unfold u32
  omega

/-- adb_register_service -/
theorem Listed.register (h : Listed d) (hn : d.nextServiceId ≠ 0)
    (hnot : d.fresh ∉ d.services) (svc : Service) (peerId : ℕ) (params : ServiceParams) :
    Listed (registerService d svc peerId params).2 := by
  have hlog : (registerService d svc peerId params).2.log = d.log ++ [.opened d.fresh params] := rfl
  have hother {a : ℕ} (ha : a ∈ d.services) :
      (registerService d svc peerId params).2.heap a = d.heap a :=
    Function.update_of_ne (ne_of_mem_of_not_mem ha hnot) _ _
  have hself : (registerService d svc peerId params).2.heap d.fresh =
      some { svc with id := d.nextServiceId, peerId := peerId } := Function.update_self _ _ _
  have hcounter := h.counter
  refine ⟨List.nodup_cons.mpr ⟨hnot,h.nodup⟩,?_,fun n hle => ?_,u32_lt _,fun a ha => ?_,
    fun a b svc₁ svc₂ ha hb h₁ h₂ hid => ?_⟩
  · rw [hlog, openServices, List.foldl_append]
    exact congrArg (d.fresh :: ·) h.list
  · rw [hlog, List.length_append] at hle
    obtain ⟨s,hs,hholds⟩ := h.links n (by omega)
    refine ⟨s.push d.fresh,?_,hholds.push hnot⟩
    rw [hlog, linksAfter, List.foldl_append, ← linksAfter, hs]
    rfl
  · rcases List.mem_cons.mp ha with rfl | ha
    · refine ⟨_,hself,hn,?_⟩
      change u32 (d.nextServiceId+1) = 0 ∨ d.nextServiceId < u32 (d.nextServiceId+1)
      unfold u32
      omega
    · obtain ⟨svc₁,hsvc₁,hid,-,hlt⟩ := h.take_id hn ha
      exact ⟨svc₁,(hother ha).trans hsvc₁,hid,hlt⟩
  · rcases List.mem_cons.mp ha with rfl | ha <;> rcases List.mem_cons.mp hb with rfl | hb
    · rfl
    · obtain ⟨svc₃,hsvc₃,-,hne,-⟩ := h.take_id hn hb
      rw [hother hb, hsvc₃] at h₂
      rw [hself] at h₁
      rw [← Option.some.inj h₁, ← Option.some.inj h₂] at hid
      exact absurd hid.symm hne
    · obtain ⟨svc₃,hsvc₃,-,hne,-⟩ := h.take_id hn ha
      rw [hother ha, hsvc₃] at h₁
      rw [hself] at h₂
      rw [← Option.some.inj h₁, ← Option.some.inj h₂] at hid
      exact absurd hid hne
    · rw [hother ha] at h₁
      rw [hother hb] at h₂
      exact h.distinct a b svc₁ svc₂ ha hb h₁ h₂ hid

/-- A service is taken from the list, at its head, in its middle or at its tail. -/
theorem Listed.unlink (h : Listed d) {a : ℕ} (ha : a ∈ d.services) : Listed (unlink d a) := by
  have hlog : (MicroADB.unlink d a).log = d.log ++ [.serviceClose a true] := rfl
  have hmem {b : ℕ} (hb : b ∈ (MicroADB.unlink d a).services) : b ∈ d.services :=
    List.mem_of_mem_erase hb
  refine ⟨h.nodup.erase a,?_,fun n hle => ?_,h.counter,fun b hb => h.ids b (hmem hb),
    fun b c svc svc' hb hc => h.distinct b c svc svc' (hmem hb) (hmem hc)⟩
  · rw [hlog, openServices, List.foldl_append]
    exact congrArg (List.erase · a) h.list
  · rw [hlog, List.length_append] at hle
    obtain ⟨s,hs,hholds⟩ := h.links n (by omega)
    have hlen : d.services.length ≤ n := by
      have hlength := open_services_length d.log
      rw [h.list]
      omega
    obtain ⟨s',hs',hholds'⟩ := hholds.unlink h.nodup ha hlen
    refine ⟨s',?_,hholds'⟩
    rw [hlog, linksAfter, List.foldl_append, ← linksAfter, hs]
    simp [linksStep, hs']

/-- What is written to a service outside the list does not matter. -/
theorem Listed.ended (h : Listed d) {a : ℕ} (ha : a ∉ d.services) (svc : Service) (os : ω)
    (es : List Event) (hes : ∀ e ∈ es, e.table = false) :
    Listed { d with heap := Function.update d.heap a (some svc), os := os, log := d.log ++ es } := by
  have hother {b : ℕ} (hb : b ∈ d.services) :
      Function.update d.heap a (some svc) b = d.heap b :=
    Function.update_of_ne (ne_of_mem_of_not_mem hb ha) _ _
  have hsame : Listed { d with os := os, log := d.log ++ es } := h.of_log rfl rfl rfl es rfl hes
  refine ⟨hsame.nodup,hsame.list,hsame.links,hsame.counter,fun b hb => ?_,
    fun b c svc₁ svc₂ hb hc h₁ h₂ => ?_⟩
  · obtain ⟨svc₁,hsvc₁,hrest⟩ := h.ids b hb
    exact ⟨svc₁,(hother hb).trans hsvc₁,hrest⟩
  · exact h.distinct b c svc₁ svc₂ hb hc ((hother hb).symm.trans h₁) ((hother hc).symm.trans h₂)

theorem Listed.close (h : Listed d) (ht : Table d) (hg : d.gone = false) {a : ℕ}
    (ha : a ∈ d.services) (up : Option ApacketUv) :
    Listed (adbServiceClose fs uv d a up) ∧ (adbServiceClose fs uv d a up).gone = false := by
  obtain ⟨svc,hsvc,hcl⟩ := (ht.registered a).mp ha
  have hq := quietly_send_close uv (MicroADB.unlink d a) svc up
  have hsend : Listed (sendClose uv (MicroADB.unlink d a) svc up) := (h.unlink ha).quietly hq
  have hgone : (sendClose uv (MicroADB.unlink d a) svc up).gone = false := hq.gone.trans hg
  rcases service_close_spec fs uv d a svc up hg ha hsvc hcl with
    ⟨heq,-⟩ | ⟨svc',os,es,-,hes,-,heq⟩
  · rw [heq]
    exact ⟨hsend,hgone⟩
  · have hnot : a ∉ (sendClose uv (MicroADB.unlink d a) svc up).services := by
      rw [hq.services]
      exact fun hin => (h.nodup.mem_erase_iff.mp hin).1 rfl
    have hended := hsend.ended hnot svc' os (.onClose a :: es) (fun e he => by
      rcases List.mem_cons.mp he with rfl | he
      · rfl
      · rcases (hes e he).plain with he | rfl
        · exact table_of_plain e he
        · rfl)
    rw [hq.heap] at hended
    rw [heq]
    exact ⟨hended,hgone⟩

/-- The invariant of the operations. -/
structure Tabled (d : Daemon ω) : Prop where
  table : d.crashed = false → Table d
  gone : d.gone = false
  listed : Listed d

theorem Tabled.quietly (h : Tabled d) (hc : d.crashed = false) (hq : Quietly d d') : Tabled d' :=
  ⟨fun _ => (h.table hc).of_same hq.services hq.heap hq.fresh.ge,hq.gone.trans h.gone,
    h.listed.quietly hq⟩

theorem Tabled.service_open (h : Tabled d) (hc : d.crashed = false) (up : ApacketUv) :
    Tabled (adbServiceOpen cfg uv d up).2.2 := by
  have ht := h.table hc
  rcases service_open_spec cfg uv d up with ⟨-,hq | ⟨target,heq⟩⟩ |
    ⟨hid,d₁,svc,peerId,params,hq,hcons,-,heq⟩
  · exact h.quietly hc hq
  · rw [heq]
    exact ⟨fun _ => ht.of_same rfl rfl le_rfl,h.gone,
      h.listed.of_log rfl rfl rfl [.reboot target] rfl (by simp [Event.table])⟩
  · have ht₁ : Table d₁ := ht.of_same hq.services hq.heap hq.fresh.ge
    have hnot : d₁.fresh ∉ d₁.services := by
      intro hin
      obtain ⟨svc₁,hsvc₁,-⟩ := (ht₁.registered _).mp hin
      exact lt_irrefl _ (ht₁.lt _ svc₁ ((alive_iff _ _ _).mp hsvc₁).1)
    have hlisted := (h.listed.quietly hq).register (hq.nextServiceId ▸ hid) hnot svc peerId params
    rw [heq]
    exact ⟨fun _ => ht₁.register peerId params hcons,hq.gone.trans h.gone,hlisted⟩

/-- A service that is not registered takes an id of its own. -/
theorem Tabled.one_shot (h : Tabled d) (hc : d.crashed = false) (hid : d.nextServiceId ≠ 0)
    (up : ApacketUv) : Tabled (afterOpen cfg fs uv (none, up, d)) := by
  unfold afterOpen Daemon.next
  dsimp only
  rw [if_neg (by simp [hc])]
  split
  · have htaken : Tabled { d with nextServiceId := u32 (d.nextServiceId+1) } := by
      refine ⟨fun _ => (h.table hc).of_same rfl rfl le_rfl,h.gone,h.listed.nodup,h.listed.list,
        h.listed.links,u32_lt _,fun a ha => ?_,h.listed.distinct⟩
      obtain ⟨svc,hsvc,hne,-,hlt⟩ := h.listed.take_id hid ha
      exact ⟨svc,hsvc,hne,hlt⟩
    exact htaken.quietly hc (quietly_send_frame uv _ _)
  · exact h.quietly hc (quietly_send_frame uv _ _)

theorem tabled_step (op : TableOp) (h : Tabled d) : Tabled (tableStep cfg fs uv d op) := by
  unfold tableStep
  split
  · exact h
  · rename_i hc
    have hc : d.crashed = false := by simpa using hc
    cases op with
    | serviceOpen up => exact h.service_open hc up
    | oneShot up =>
      dsimp only
      split
      · exact h.quietly hc (quietly_fault d _ rfl)
      · rename_i hid
        exact h.one_shot hc hid up
    | serviceClose a up =>
      dsimp only
      split
      · rename_i ha
        have ht := h.table hc
        obtain ⟨hlisted,hgone⟩ := h.listed.close ht h.gone ha up
        exact ⟨fun hc' => ht.close a up hc',hgone,hlisted⟩
      · exact h

theorem tabled_start (token : List UInt8) (os : ω) : Tabled (daemonStart token os) where
  table _ := table_start token os
  gone := rfl
  listed :=
    { nodup := List.nodup_nil
      list := rfl
      links := fun _ _ => ⟨Links.empty,rfl,empty_holds⟩
      counter := by simp [daemonStart]
      ids := fun _ h => by cases h
      distinct := fun _ _ _ _ h => by cases h }

/-! Searches and the end of the client. -/

/-- The test of adb_client_find_service. -/
def hasIds (d : Daemon ω) (id peerId a : ℕ) : Bool :=
  match d.heap a with
  | none => false
  | some svc => svc.id = id ∧ (peerId = 0 ∨ svc.peerId = peerId)

theorem has_ids_iff (d : Daemon ω) (id peerId a : ℕ) : hasIds d id peerId a = true ↔
    ∃ svc, d.heap a = some svc ∧ svc.id = id ∧ (peerId = 0 ∨ svc.peerId = peerId) := by
  unfold hasIds
  split
  · rename_i hnone
    simp [hnone]
  · rename_i svc hsvc
    simp [hsvc]

/-- The search finds the one service with the ids. -/
theorem Listed.find (h : Listed d) (id peerId a : ℕ) :
    adbClientFindService d id peerId = some a ↔ a ∈ d.services ∧
      ∃ svc, d.heap a = some svc ∧ svc.id = id ∧ (peerId = 0 ∨ svc.peerId = peerId) := by
  refine ⟨find_service_spec d id peerId a,fun ⟨ha,svc,hsvc,hid,hpeer⟩ => ?_⟩
  have hsome : (adbClientFindService d id peerId).isSome = true :=
    List.find?_isSome.mpr ⟨a,ha,(has_ids_iff d id peerId a).mpr ⟨svc,hsvc,hid,hpeer⟩⟩
  obtain ⟨b,hb⟩ := Option.isSome_iff_exists.mp hsome
  obtain ⟨hreg,svc',hsvc',hid',-⟩ := find_service_spec d id peerId b hb
  rw [hb, h.distinct a b svc svc' ha hreg hsvc hsvc' (hid.trans hid'.symm)]

/-- The services whose on_close was called. -/
def onCloses (log : List Event) : List ℕ :=
  log.filterMap fun e => match e with | .onClose a => some a | _ => none

/-- The loop of adb_destroy_client ends every service of the list, in its order. -/
theorem destroy_loop_spec (fs : FileSystem ω) (uv : Uv ω) (l : List ℕ) (d : Daemon ω)
    (hs : d.services = l) (ht : Table d) (hg : d.gone = false) (hc : d.crashed = false) :
    ∃ es, (destroyLoop fs uv l d).log = d.log ++ es ∧ onCloses es = l ∧
      (destroyLoop fs uv l d).crashed = false := by
  induction l generalizing d with
  | nil => exact ⟨[.clientFreed],rfl,rfl,hc⟩
  | cons a rest ih =>
    have ha : a ∈ d.services := hs ▸ List.mem_cons_self
    obtain ⟨svc,hsvc,hcl⟩ := (ht.registered a).mp ha
    rcases service_close_spec fs uv d a svc none hg ha hsvc hcl with
      ⟨-,hcr⟩ | ⟨svc',os,es,-,hes,-,heq⟩
    · change d.crashed = true at hcr
      rw [hc] at hcr
      cases hcr
    · have hc' : (adbServiceClose fs uv d a none).crashed = false := by
        rw [heq]
        exact hc
      have hg' : (adbServiceClose fs uv d a none).gone = false := by
        rw [heq]
        exact hg
      have hlog : (adbServiceClose fs uv d a none).log =
          d.log ++ ([.serviceClose a true] ++ .onClose a :: es) := by
        rw [heq, ← List.append_assoc]
        rfl
      obtain ⟨fs',hlog',hcloses,hcr⟩ :=
        ih _ (service_close_first ht none hs hc') (ht.close a none hc') hg' hc'
      have hnone : onCloses es = [] := by
        refine List.filterMap_eq_nil_iff.mpr (fun e he => ?_)
        rcases (hes e he).plain with hplain | rfl
        · cases e <;> first | rfl | cases hplain
        · rfl
      have hloop : destroyLoop fs uv (a :: rest) d =
          destroyLoop fs uv rest (adbServiceClose fs uv d a none) := by
        rw [destroyLoop, Daemon.next, if_neg (by simp [hc'])]
      refine ⟨([.serviceClose a true] ++ .onClose a :: es) ++ fs',?_,?_,?_⟩
      · rw [hloop, hlog', hlog, List.append_assoc]
      · have hfirst : onCloses ([.serviceClose a true] ++ .onClose a :: es) = a :: onCloses es := rfl
        rw [onCloses, List.filterMap_append, ← onCloses, ← onCloses, hfirst, hnone, hcloses]
        rfl
      · rw [hloop]
        exact hcr

/-- What the table is meant to be. -/
structure TableHolds (fs : FileSystem ω) (uv : Uv ω) (d : Daemon ω) : Prop where
  /-- The head and the next fields lead through the list, and the search along them is that of
  the list. -/
  links : ∃ s, linksAfter (d.log.length+1) d.log = some s ∧ s.Holds d.services ∧
    ∀ id peerId, s.find (d.log.length+1) (hasIds d id peerId) = adbClientFindService d id peerId
  list : d.services = openServices d.log
  nodup : d.services.Nodup
  ids : ∀ a ∈ d.services, ∃ svc, d.heap a = some svc ∧ svc.id ≠ 0
  distinct : ∀ a b svc svc', a ∈ d.services → b ∈ d.services → d.heap a = some svc →
    d.heap b = some svc' → svc.id = svc'.id → a = b
  find : ∀ id peerId a, adbClientFindService d id peerId = some a ↔ a ∈ d.services ∧
    ∃ svc, d.heap a = some svc ∧ svc.id = id ∧ (peerId = 0 ∨ svc.peerId = peerId)
  destroy : d.crashed = false →
    onCloses ((adbDestroyClient fs uv d).log.drop d.log.length) = d.services ∧
      (adbDestroyClient fs uv d).crashed = false

/-- Every sequence of operations from adb_init_client keeps the table. -/
theorem service_table_holds (cfg : Config) (fs : FileSystem ω) (uv : Uv ω) (token : List UInt8)
    (os : ω) (ops : List TableOp) : TableHolds fs uv (tableRun cfg fs uv token os ops) := by
  have h : Tabled (tableRun cfg fs uv token os ops) :=
    run_invariant (tableStep cfg fs uv) Tabled (fun _ op => tabled_step op) _
      (tabled_start token os) ops
  generalize tableRun cfg fs uv token os ops = d at h
  obtain ⟨s,hs,hholds⟩ := h.listed.links (d.log.length+1) (Nat.le_succ _)
  have hlen : d.services.length < d.log.length+1 := by
    have hlength := open_services_length d.log
    rw [h.listed.list]
    omega
  refine ⟨⟨s,hs,hholds,fun id peerId => hholds.find _ hlen⟩,h.listed.list,h.listed.nodup,
    fun a ha => ?_,h.listed.distinct,h.listed.find,fun hc => ?_⟩
  · obtain ⟨svc,hsvc,hid,-⟩ := h.listed.ids a ha
    exact ⟨svc,hsvc,hid⟩
  · obtain ⟨es,hlog,hcloses,hcr⟩ := destroy_loop_spec fs uv d.services d rfl (h.table hc) h.gone hc
    refine ⟨?_,hcr⟩
    rw [adbDestroyClient, hlog, List.drop_left]
    exact hcloses

end MicroADB
