import MicroADB.AdbKick

/-! How the memory of tcp and shell services is freed: by the close callback of the last of their
handles, unless a connection fails or is closed before it is made. -/
namespace MicroADB
open ByteMemory EventRun

variable {ω : Type} {cfg : Config} {fs : FileSystem ω} {uv : Uv ω} {d d₀ d' : Daemon ω} {i : Input}

/-! What a step frees. -/

def Event.frees : Event → Bool
  | .freed _ | .handleLost => true
  | _ => false

theorem frees_of_harmless (e : Event) (h : e.harmless = true) : e.frees = false := by
  cases e <;> first | rfl | cases h

/-- libuv has nothing left for a service. -/
def Service.Still (svc : Service) : Prop := svc.stream.active = false ∧ svc.stream.Quiet

/-- The service at a was freed behind the state d₀: by the close callback i of the last of its
handles, or it is a sync service, which has none. -/
def FreedBy (d₀ : Daemon ω) (i : Input) (d : Daemon ω) (a : ℕ) : Prop :=
  (∃ svc s, d.heap a = some svc ∧ svc.freed = true ∧ svc.kind = .sync s) ∨
    ∃ svc, d₀.alive a = some svc ∧ LastCallback svc a i

theorem FreedBy.mono {a : ℕ} (h : FreedBy d₀ i d a)
    (hh : ∀ svc, d.heap a = some svc → svc.freed = true → d'.heap a = some svc) :
    FreedBy d₀ i d' a := by
  rcases h with ⟨svc,s,ha,hfreed,hk⟩ | hlast
  · exact Or.inl ⟨svc,s,hh svc ha hfreed,hfreed,hk⟩
  · exact Or.inr hlast

/-- What is written to a service that is there does not concern those that are freed. -/
theorem FreedBy.update {a b : ℕ} {svc : Service} (h : FreedBy d₀ i d b) (ha : d.alive a = some svc)
    (svc' : Service) : FreedBy d₀ i { d with heap := Function.update d.heap a (some svc') } b := by
  refine h.mono (fun svc₀ hb hfreed => ?_)
  have hba : b ≠ a := by
    rintro rfl
    obtain ⟨hheap,hlive⟩ := (alive_iff d b svc).mp ha
    rw [hb] at hheap
    rw [← Option.some.inj hheap, hfreed] at hlive
    cases hlive
  change Function.update d.heap a (some svc') b = _
  rw [Function.update_of_ne hba]
  exact hb

/-- What holds in the middle of the step i that was taken from d₀. -/
structure Freeing (d₀ : Daemon ω) (i : Input) (d : Daemon ω) : Prop where
  lt : ∀ a svc, d.heap a = some svc → a < d.fresh
  /-- No connection has failed. -/
  failed : ∀ a svc, d.alive a = some svc → svc.kind ≠ .tcp .errorClose
  still : ∀ a svc, d.heap a = some svc → svc.freed = true → svc.Still
  log : ∃ es, d.log = d₀.log ++ es ∧ .handleLost ∉ es ∧ ∀ a, .freed a ∈ es → FreedBy d₀ i d a

theorem Freeing.of_log (h : Freeing d₀ i d) (hh : d'.heap = d.heap) (hf : d.fresh ≤ d'.fresh)
    (es : List Event) (hlog : d'.log = d.log ++ es) (hes : ∀ e ∈ es, e.frees = false) :
    Freeing d₀ i d' := by
  obtain ⟨fs,hfs,hlost,hfreed⟩ := h.log
  have hnot (e : Event) (he : e.frees = true) : e ∉ es := by
    intro hin
    rw [hes e hin] at he
    cases he
  refine ⟨fun a svc ha => (h.lt a svc (hh ▸ ha)).trans_le hf,fun a svc ha => ?_,
    fun a svc ha => h.still a svc (hh ▸ ha),fs ++ es,?_,?_,fun a ha => ?_⟩
  · rw [Daemon.alive, hh] at ha
    exact h.failed a svc ha
  · rw [hlog, hfs, List.append_assoc]
  · exact fun hin => (List.mem_append.mp hin).elim hlost (hnot _ rfl)
  · have hin := (List.mem_append.mp ha).resolve_right (hnot _ rfl)
    exact (hfreed a hin).mono (fun svc ha _ => hh ▸ ha)

/-- A service that is there, and not freed, changes. -/
theorem Freeing.set_service (h : Freeing d₀ i d) {a : ℕ} {svc svc' : Service}
    (ha : d.alive a = some svc) (hf : svc'.freed = false) (hk : svc'.kind ≠ .tcp .errorClose) :
    Freeing d₀ i (d.setService a svc') := by
  obtain ⟨es,hes,hlost,hfreed⟩ := h.log
  refine ⟨fun b svc₀ hb => ?_,fun b svc₀ hb => ?_,fun b svc₀ hb hfr => ?_,es,hes,hlost,
    fun b hb => (hfreed b hb).update ha svc'⟩
  · by_cases hba : b = a
    · exact hba ▸ h.lt a svc ((alive_iff d a svc).mp ha).1
    · rw [Daemon.set_service_heap, Function.update_of_ne hba] at hb
      exact h.lt b svc₀ hb
  · by_cases hba : b = a
    · rw [hba, set_service_alive d a svc' hf] at hb
      exact Option.some.inj hb ▸ hk
    · rw [set_service_alive_of_ne d a b svc' hba] at hb
      exact h.failed b svc₀ hb
  · by_cases hba : b = a
    · rw [hba, Daemon.set_service_heap, Function.update_self] at hb
      rw [← Option.some.inj hb, hf] at hfr
      cases hfr
    · rw [Daemon.set_service_heap, Function.update_of_ne hba] at hb
      exact h.still b svc₀ hb hfr

/-- A service is freed of which nothing is left for libuv. -/
theorem Freeing.free (h : Freeing d₀ i d) {a : ℕ} {svc : Service} (ha : d.alive a = some svc)
    (svc' : Service) (hf : svc'.freed = true) (hs : svc'.Still) (es : List Event) (os : ω)
    (hlost : .handleLost ∉ es) (hes : ∀ b, .freed b ∈ es → b = a)
    (hby : FreedBy d₀ i { d with heap := Function.update d.heap a (some svc') } a) :
    Freeing d₀ i { d with
      heap := Function.update d.heap a (some svc')
      os := os
      log := d.log ++ es } := by
  obtain ⟨fs,hfs,hlost',hfreed⟩ := h.log
  refine ⟨fun b svc₀ hb => ?_,fun b svc₀ hb => ?_,fun b svc₀ hb hfr => ?_,fs ++ es,?_,?_,
    fun b hb => ?_⟩
  · change Function.update d.heap a (some svc') b = _ at hb
    by_cases hba : b = a
    · exact hba ▸ h.lt a svc ((alive_iff d a svc).mp ha).1
    · rw [Function.update_of_ne hba] at hb
      exact h.lt b svc₀ hb
  · obtain ⟨hheap,hlive⟩ := (alive_iff _ b svc₀).mp hb
    change Function.update d.heap a (some svc') b = _ at hheap
    by_cases hba : b = a
    · rw [hba, Function.update_self] at hheap
      rw [← Option.some.inj hheap, hf] at hlive
      cases hlive
    · rw [Function.update_of_ne hba] at hheap
      exact h.failed b svc₀ ((alive_iff d b svc₀).mpr ⟨hheap,hlive⟩)
  · change Function.update d.heap a (some svc') b = _ at hb
    by_cases hba : b = a
    · rw [hba, Function.update_self] at hb
      exact Option.some.inj hb ▸ hs
    · rw [Function.update_of_ne hba] at hb
      exact h.still b svc₀ hb hfr
  · change d.log ++ es = _
    rw [hfs, List.append_assoc]
  · exact fun hin => (List.mem_append.mp hin).elim hlost' hlost
  · rcases List.mem_append.mp hb with hb | hb
    · exact (hfreed b hb).update ha svc'
    · rw [hes b hb]
      exact hby

theorem send_frame_frees (uv : Uv ω) (d : Daemon ω) (up : ApacketUv) :
    ∃ es, (sendFrame uv d up).log = d.log ++ es ∧ ∀ e ∈ es, e.frees = false := by
  obtain ⟨ok,es,hlog,hes⟩ := send_frame_log uv d up
  refine ⟨_,hlog,fun e he => ?_⟩
  rcases List.mem_cons.mp he with rfl | he
  · rfl
  · rcases hes e he with rfl | rfl <;> rfl

theorem Freeing.send (h : Freeing d₀ i d) (uv : Uv ω) (up : ApacketUv) :
    Freeing d₀ i (sendFrame uv d up) := by
  obtain ⟨es,hlog,hes⟩ := send_frame_frees uv d up
  have hq := quietly_send_frame uv d up
  exact h.of_log hq.heap hq.fresh.ge es hlog hes

theorem Freeing.close_transport (h : Freeing d₀ i d) (why : CloseReason) :
    Freeing d₀ i (opsClose d why) := by
  obtain ⟨e,hlog,he⟩ := ops_close_log d why
  have hsame : (opsClose d why).heap = d.heap ∧ (opsClose d why).fresh = d.fresh := by
    unfold opsClose
    split <;> exact ⟨rfl,rfl⟩
  refine h.of_log hsame.1 hsame.2.ge [e] hlog (fun e' he' => ?_)
  rw [List.mem_singleton.mp he']
  rcases he with rfl | rfl <;> rfl

theorem Freeing.deed (h : Freeing d₀ i d) (hd : Deed cfg uv d d') : Freeing d₀ i d' := by
  cases hd with
  | calmly _ hc =>
    obtain ⟨es,hlog,hes⟩ := hc.log
    exact h.of_log hc.quietly.heap hc.quietly.fresh.ge es hlog
      (fun e he => frees_of_harmless e (hes e he))
  | send up => exact h.send uv up
  | outOfMemory _ =>
    have hos : Freeing d₀ i ((d.setOs (uv.packetMalloc d.os).1).emit .outOfMemory) :=
      h.of_log rfl le_rfl [.outOfMemory] rfl (by simp [Event.frees])
    exact hos.close_transport _
  | alloc cap init _ =>
    exact h.of_log rfl (Nat.le_succ _) [.alloc d.fresh] rfl (by simp [Event.frees])
  | refuse _ => exact h.of_log rfl le_rfl [.refused] rfl (by simp [Event.frees])
  | service a svc svc' ha hc hk =>
    have hfreed := hc.freed.trans ((alive_iff d a svc).mp ha).2
    refine h.set_service ha hfreed (fun herr => ?_)
    have hsame := hk (by rw [herr]; decide)
    exact h.failed a svc ha (hsame ▸ herr)

/-! The end of a service. -/

/-- A registered service at a has a connected socket, or a handle of another kind. -/
def Connected (d : Daemon ω) (a : ℕ) : Prop :=
  a ∈ d.services → ∀ svc, d.alive a = some svc → ¬svc.kind.Unconnected

/-- The service at a is taken from the list and its handle is closed, or it is a sync service. -/
theorem Freeing.close (h : Freeing d₀ i d) (ht : Table d) (a : ℕ) (up : Option ApacketUv)
    (hq : Connected d a) : Freeing d₀ i (adbServiceClose fs uv d a up) := by
  by_cases hreg : d.gone = true ∨ a ∉ d.services
  · obtain ⟨b,es,heq,-,hes⟩ := service_close_other fs uv d a up hreg
    rw [heq]
    refine h.of_log rfl le_rfl (.serviceClose a b :: es) rfl (fun e he => ?_)
    rcases List.mem_cons.mp he with rfl | he
    · rfl
    · rcases hes e he with rfl | rfl | rfl <;> rfl
  rw [not_or, not_not, Bool.not_eq_true] at hreg
  obtain ⟨svc,ha,hheap,hcl⟩ := ht.find hreg.2
  have hfreed := ((alive_iff d a svc).mp ha).2
  have hunlink : Freeing d₀ i (unlink d a) :=
    h.of_log rfl le_rfl [.serviceClose a true] rfl (by simp [Event.frees])
  have hsend : Freeing d₀ i (sendClose uv (unlink d a) svc up) := by
    cases up with
    | none => exact hunlink
    | some up => exact hunlink.send uv _
  have ha' : (sendClose uv (unlink d a) svc up).alive a = some svc := by
    rw [Daemon.alive, (quietly_send_close uv (unlink d a) svc up).heap]
    exact ha
  rw [service_close_listed fs uv d a svc up hreg.1 hreg.2 ha]
  refine keeps_next hsend (fun _ => ?_)
  by_cases hsync : ∃ s, svc.kind = .sync s
  · obtain ⟨s,hk⟩ := hsync
    obtain ⟨s',os,es,hes,heq⟩ := on_close_sync fs _ a svc ha' hk
    have hallows := (ht.wf a svc hheap).kind
    rw [hk] at hallows
    rw [heq]
    refine hsend.free ha' { svc with kind := .sync s', freed := true } rfl
      ⟨hallows.1,hallows.2.2⟩ (.onClose a :: es) os ?_ (fun b hb => ?_)
      (Or.inl ⟨_,s',Function.update_self _ _ _,rfl,rfl⟩)
    · intro hin
      rcases hes _ ((List.mem_cons.mp hin).resolve_left (by simp)) with ⟨_,he⟩ | he <;> cases he
    · rcases hes _ ((List.mem_cons.mp hb).resolve_left (by simp)) with ⟨_,he⟩ | he
      · cases he
      · exact Event.freed.inj he
  · rw [not_exists] at hsync
    rw [on_close_stream fs _ a svc ha' hcl hsync (hq hreg.2 svc ha)]
    have hset : Freeing d₀ i ((sendClose uv (unlink d a) svc up).setService a
        { svc with stream := svc.stream.close }) :=
      hsend.set_service ha' hfreed (h.failed a svc ha)
    exact hset.of_log rfl le_rfl [.onClose a] rfl (by simp [Event.frees])

/-- The invariant with the table it needs. -/
def Frees (d₀ : Daemon ω) (i : Input) (d : Daemon ω) : Prop :=
  (d.crashed = false → Table d) ∧ Freeing d₀ i d

theorem frees_guards : Guards cfg fs uv Connected (Frees d₀ i) := by
  have htable : Guards cfg fs uv Connected (fun d => d.crashed = false → Table d) :=
    (table_reads Connected).guards
  exact ⟨fun d d' h hd => ⟨htable.deed d d' h.1 hd,h.2.deed hd⟩,
    fun d a up h hc hq => ⟨htable.close d a up h.1 hc hq,h.2.close (h.1 hc) a up hq⟩⟩

theorem Frees.assert (h : Frees d₀ i d) : Frees d₀ i (d.fault .frameCount) :=
  ⟨(fun hc => by cases hc),h.2.of_log rfl le_rfl [.fault .frameCount] rfl (by simp [Event.frees])⟩

theorem Frees.packet (h : Frees d₀ i d) (a : ℕ) (n : ℤ) :
    Frees d₀ i (setFrameCount (freePacket d a) n) :=
  ⟨fun hc => (h.1 hc).of_same rfl rfl le_rfl,
    h.2.of_log rfl le_rfl [.release a] rfl (by simp [Event.frees])⟩

theorem frees_all : GuardsAll cfg fs uv Connected (Frees d₀ i) := by
  apply frees_guards.guards_all
  · intro d a svc h _ ha hk
    exact absurd hk (h.2.failed a svc ha)
  · exact fun d h => h.assert
  · exact fun d a n h => h.packet a n

theorem Freeing.frame (h : Freeing d₀ i d) (ha : FrameAct d d') : Freeing d₀ i d' := by
  cases ha with
  | push a svc up ha _ _ _ =>
    exact h.set_service ha ((alive_iff d a svc).mp ha).2 (h.failed a svc ha)
  | register svc peerId params hc =>
    have hnone : d.heap d.fresh = none := by
      by_contra hne
      obtain ⟨svc₀,hsvc⟩ := Option.ne_none_iff_exists'.mp hne
      exact lt_irrefl _ (h.lt _ _ hsvc)
    have hother {b : ℕ} (hb : b ≠ d.fresh) :
        (registerService d svc peerId params).2.heap b = d.heap b := Function.update_of_ne hb _ _
    have hself : (registerService d svc peerId params).2.heap d.fresh =
        some { svc with id := d.nextServiceId, peerId := peerId } := Function.update_self _ _ _
    obtain ⟨es,hes,hlost,hfreed⟩ := h.log
    refine ⟨fun b svc₀ hb => ?_,fun b svc₀ hb => ?_,fun b svc₀ hb hfr => ?_,
      es ++ [.opened d.fresh params],?_,?_,fun b hb => ?_⟩
    · by_cases hba : b = d.fresh
      · exact hba ▸ Nat.lt_succ_self _
      · exact (h.lt b svc₀ ((hother hba).symm.trans hb)).trans (Nat.lt_succ_self _)
    · obtain ⟨hheap,hlive⟩ := (alive_iff _ b svc₀).mp hb
      by_cases hba : b = d.fresh
      · rw [hba, hself] at hheap
        exact Option.some.inj hheap ▸ hc.kind
      · exact h.failed b svc₀ ((alive_iff d b svc₀).mpr ⟨(hother hba).symm.trans hheap,hlive⟩)
    · by_cases hba : b = d.fresh
      · rw [hba, hself] at hb
        rw [← Option.some.inj hb] at hfr
        exact absurd (hc.freed.symm.trans hfr) (by decide)
      · exact h.still b svc₀ ((hother hba).symm.trans hb) hfr
    · change d.log ++ [.opened d.fresh params] = _
      rw [hes, List.append_assoc]
    · exact fun hin => (List.mem_append.mp hin).elim hlost (by simp)
    · refine (hfreed b ((List.mem_append.mp hb).resolve_right (by simp))).mono
        (fun svc₀ hheap _ => ?_)
      have hba : b ≠ d.fresh := by
        rintro rfl
        rw [hnone] at hheap
        cases hheap
      exact (hother hba).trans hheap
  | serviceId n => exact h.of_log rfl le_rfl [] (List.append_nil _).symm (by simp)
  | reboot target => exact h.of_log rfl le_rfl [.reboot target] rfl (by simp [Event.frees])
  | reached a e _ he =>
    refine h.of_log rfl le_rfl [e] rfl (fun e' he' => ?_)
    rw [List.mem_singleton.mp he']
    rcases he with rfl | rfl <;> rfl

theorem frees_reads : GuardsReads cfg fs uv Connected (Frees d₀ i) where
  toGuardsAll := frees_all
  frame d d' h ha :=
    have htable : KeepsReads cfg fs uv Connected (fun d => d.crashed = false → Table d) :=
      table_reads Connected
    ⟨htable.frame d d' h.1 ha,h.2.frame ha⟩
  connected d h :=
    ⟨fun hc => (h.1 hc).of_same rfl rfl le_rfl,
      h.2.of_log rfl le_rfl [] (List.append_nil _).symm (by simp)⟩
  receives d d' h hr := by
    refine ⟨fun hc => (h.1 (hr.crashed ▸ hc)).of_same hr.services hr.heap hr.fresh.ge,?_⟩
    rcases hr.log with hlog | ⟨bs,hlog⟩ | ⟨b,m,bs,hlog⟩
    · exact h.2.of_log hr.heap hr.fresh.ge [] (by simpa using hlog) (by simp)
    · exact h.2.of_log hr.heap hr.fresh.ge _ hlog (by simp [Event.frees])
    · exact h.2.of_log hr.heap hr.fresh.ge _ hlog (by simp [Event.frees])
  starve d h _ :=
    ⟨fun hc => (h.1 hc).of_same rfl rfl le_rfl,
      h.2.of_log rfl le_rfl [] (List.append_nil _).symm (by simp)⟩

/-! The end of the client. -/

theorem service_close_rest (ht : Table d) {a b : ℕ} {up : Option ApacketUv}
    (hb : b ∈ (adbServiceClose fs uv d a up).services) :
    b ∈ d.services ∧ (adbServiceClose fs uv d a up).alive b = d.alive b := by
  by_cases hreg : d.gone = true ∨ a ∉ d.services
  · obtain ⟨c,es,heq,-,-⟩ := service_close_other fs uv d a up hreg
    rw [heq] at hb ⊢
    exact ⟨hb,rfl⟩
  rw [not_or, not_not, Bool.not_eq_true] at hreg
  obtain ⟨svc,ha,hheap,hcl⟩ := ht.find hreg.2
  have hq := quietly_send_close uv (unlink d a) svc up
  rcases service_close_spec fs uv d a svc up hreg.1 hreg.2 ha hcl with
    ⟨heq,-⟩ | ⟨svc',os,es,-,-,-,heq⟩
  · rw [heq, hq.services] at hb
    refine ⟨List.mem_of_mem_erase hb,?_⟩
    rw [heq, Daemon.alive, hq.heap]
    rfl
  · rw [heq] at hb
    change b ∈ (sendClose uv (unlink d a) svc up).services at hb
    rw [hq.services] at hb
    obtain ⟨hba,hb⟩ := ht.nodup.mem_erase_iff.mp hb
    refine ⟨hb,?_⟩
    rw [heq, Daemon.alive, Daemon.alive]
    change (Function.update d.heap a (some svc') b).filter _ = _
    rw [Function.update_of_ne hba]

theorem connected_of_same (h : ∀ a, Connected d a) (hs : d'.services = d.services)
    (hh : d'.heap = d.heap) (a : ℕ) : Connected d' a := by
  intro hreg svc ha
  rw [Daemon.alive, hh] at ha
  exact h a (hs ▸ hreg) svc ha

theorem connected_deed (h : ∀ a, Connected d a) (hd : Deed cfg uv d d') (a : ℕ) :
    Connected d' a := by
  cases hd with
  | calmly _ hc => exact connected_of_same h hc.quietly.services hc.quietly.heap a
  | send up =>
    have hq := quietly_send_frame uv d up
    exact connected_of_same h hq.services hq.heap a
  | outOfMemory _ =>
    have hq := quietly_ops_close ((d.setOs (uv.packetMalloc d.os).1).emit .outOfMemory)
      .outOfMemory rfl
    exact connected_of_same h hq.services hq.heap a
  | alloc cap init _ => exact h a
  | refuse _ => exact h a
  | service b svc svc' hb hc hk =>
    intro hreg svc₀ ha hu
    by_cases hba : a = b
    · subst hba
      rw [set_service_alive d a svc' (hc.freed.trans ((alive_iff d a svc).mp hb).2)] at ha
      obtain rfl := Option.some.inj ha
      exact h a hreg svc hb (hk hu ▸ hu)
    · rw [set_service_alive_of_ne d b a svc' hba] at ha
      exact h a hreg svc₀ ha hu

/-- No socket is left that is not connected. -/
theorem connected_guards :
    Guards cfg fs uv Connected (fun d => Frees d₀ i d ∧ ∀ a, Connected d a) := by
  have hguards : Guards cfg fs uv Connected (Frees d₀ i) := frees_guards
  refine ⟨fun d d' h hd => ⟨hguards.deed d d' h.1 hd,connected_deed h.2 hd⟩,
    fun d a up h hc hq => ⟨hguards.close d a up h.1 hc hq,fun b hreg svc hb => ?_⟩⟩
  obtain ⟨hreg,hrest⟩ := service_close_rest (h.1.1 hc) hreg
  exact h.2 b hreg svc (hrest ▸ hb)

theorem connected_close : GuardsClose cfg fs uv Connected
    (fun d => Frees d₀ i d ∧ ∀ a, Connected d a) where
  toGuardsAll := by
    apply connected_guards.guards_all
    · intro d a svc h _ ha hk
      exact absurd hk (h.1.2.failed a svc ha)
    · exact fun d h => ⟨h.1.assert,h.2⟩
    · exact fun d a n h => ⟨h.1.packet a n,h.2⟩
  drop d h :=
    ⟨⟨fun hc => (h.1.1 hc).of_same rfl rfl le_rfl,
      h.1.2.of_log rfl le_rfl [] (List.append_nil _).symm (by simp)⟩,h.2⟩
  free_client d h _ _ :=
    ⟨⟨fun hc => (h.1.1 hc).of_same rfl rfl le_rfl,
      h.1.2.of_log rfl le_rfl [.clientFreed] rfl (by simp [Event.frees])⟩,h.2⟩

/-! What a step may not do. -/

/-- A frame that neither ends a service whose connection is under way, nor opens one that fails to
start once a handle of it is initialised. -/
structure FrameConnected (cfg : Config) (uv : Uv ω) (d : Daemon ω) (up : ApacketUv) : Prop where
  close : up.p.msg.command = aClse → ∀ a svc,
    adbClientFindService d up.p.msg.arg1 up.p.msg.arg0 = some a → d.heap a = some svc →
      ¬svc.kind.Unconnected
  write : up.p.msg.command = aWrte → ∀ a svc,
    adbClientFindService d up.p.msg.arg1 up.p.msg.arg0 = some a → d.heap a = some svc →
      ¬svc.kind.Unconnected
  start : up.p.msg.command = aOpen → ¬OpenLoses cfg uv d up

/-- Every connection is made, and before that nothing ends its service. -/
def Connects (cfg : Config) (fs : FileSystem ω) (uv : Uv ω) (d : Daemon ω) : Input → Prop
  | .transportRead r => ∀ up d', receive cfg fs uv d r = (some up, d') → FrameConnected cfg uv d' up
  | .connected a fail => ∀ svc, d.heap a = some svc → svc.stream.connecting = true → fail = false
  | .transportClosed => d.socket.closing = true → d.socket.writes = [] → d.gone = false →
      ∀ a svc, a ∈ d.services → d.heap a = some svc → ¬svc.kind.Unconnected
  | _ => True

theorem on_write_connected {a : ℕ} {svc svc' : Service} {up : ApacketUv}
    (ha : d.alive a = some svc) (hu : ¬svc.kind.Unconnected)
    (ha' : (onWriteFrame cfg fs uv d a up).2.2.alive a = some svc') : ¬svc'.kind.Unconnected := by
  have hfreed := ((alive_iff d a svc).mp ha).2
  have hwrite (up : ApacketUv) (ha' : (serviceWrite uv (d.emit (.onWrite a)) a svc up).2.alive a =
      some svc') : svc'.kind = svc.kind := by
    unfold serviceWrite at ha'
    split at ha'
    · rw [← Option.some.inj (ha.symm.trans ha')]
    · dsimp only at ha'
      split at ha'
      · have hset := ha'.symm.trans (set_service_alive _ a _ hfreed)
        rw [Option.some.inj hset]
      · rw [← Option.some.inj (ha.symm.trans ha')]
  unfold onWriteFrame at ha'
  rw [ha] at ha'
  dsimp only at ha'
  split at ha'
  · have hset := ha'.symm.trans (set_service_alive _ a _ hfreed)
    rw [Option.some.inj hset]
    exact id
  · unfold atcpStreamOnWrite at ha'
    split at ha'
    · rw [← Option.some.inj (ha.symm.trans ha')]
      exact hu
    · rw [hwrite up ha']
      exact hu
  · rw [hwrite up ha']
    exact hu

/-- Only a sync service refuses an OKAY, and stays one. -/
theorem on_ack_connected {a : ℕ} {svc svc' : Service} {s : AfsService} {up : ApacketUv}
    (ha : d.alive a = some svc) (hk : svc.kind = .sync s)
    (ha' : (onAckFrame cfg fs d a up).2.2.alive a = some svc') : ¬svc'.kind.Unconnected := by
  have hfreed := ((alive_iff d a svc).mp ha).2
  unfold onAckFrame at ha'
  rw [ha] at ha'
  dsimp only at ha'
  rw [hk] at ha'
  have hset := ha'.symm.trans (set_service_alive _ a _ hfreed)
  rw [Option.some.inj hset]
  exact id

theorem frame_connected (up : ApacketUv) (ht : Table d) (h : FrameConnected cfg uv d up) :
    FrameAllows cfg fs uv Connected (Frees d₀ i) d up := by
  refine ⟨⟨fun hcmd a hfind _ svc ha => ?_,fun hcmd a hfind _ _ _ svc' ha' => ?_,
    fun _ a d' hfind hd' _ hlt _ svc' ha' => ?_⟩,fun hcmd hloses => absurd hloses (h.start hcmd)⟩
  · exact h.close hcmd a svc hfind ((alive_iff d a svc).mp ha).1
  · obtain ⟨svc,ha,hheap,-⟩ := ht.find (find_service_spec d _ _ a hfind).1
    exact on_write_connected ha (h.write hcmd a svc hfind hheap) ha'
  · subst hd'
    obtain ⟨svc,ha,-,hcl⟩ := ht.find (find_service_spec d _ _ a hfind).1
    obtain ⟨-,svc₁,ha₁,hstream₁,-⟩ := update_peer_id_spec d a up.p.msg.arg0 svc ha
    obtain ⟨-,-,s,hk⟩ := on_ack_refused cfg fs _ a svc₁ up ha₁ (hstream₁ ▸ hcl) hlt
    exact on_ack_connected ha₁ hk ha'

/-- What holds between the steps. -/
structure Resting (cfg : Config) (uv : Uv ω) (d : Daemon ω) : Prop where
  sound : Sound cfg uv [] d
  lt : ∀ a svc, d.heap a = some svc → a < d.fresh
  failed : ∀ a svc, d.alive a = some svc → svc.kind ≠ .tcp .errorClose
  still : ∀ a svc, d.heap a = some svc → svc.freed = true → svc.Still

theorem Resting.frees (h : Resting cfg uv d) (i : Input) : Frees d i d :=
  ⟨fun hc => (h.sound.running hc).1,h.lt,h.failed,h.still,[],(List.append_nil _).symm,by simp,
    by simp⟩

/-- The close callback of the last handle of a service. -/
theorem Resting.last (h : Resting cfg uv d) (hc : d.crashed = false) {a : ℕ} {svc : Service}
    (ha : d.alive a = some svc) (hlast : LastCallback svc a i) :
    Frees d i (freeService d a svc) := by
  obtain ⟨ht,-⟩ := h.sound.running hc
  have hstill : Service.Still { svc with freed := true } :=
    ⟨((ht.wf a svc ((alive_iff d a svc).mp ha).1).stream.closing hlast.1).1,hlast.2.1⟩
  refine ⟨fun _ => ht.free ha hlast.1,?_⟩
  exact (h.frees i).2.free ha { svc with freed := true } rfl hstill [.freed a] d.os (by simp)
    (fun b hb => Event.freed.inj (List.mem_singleton.mp hb)) (Or.inr ⟨svc,ha,hlast⟩)

/-- A step that meets the condition frees no service but by its last callback. -/
theorem frees_step (h : Resting cfg uv d) (i : Input) (hi : Connects cfg fs uv d i) :
    Frees d i (step cfg fs uv d i) := by
  have hfrees := h.frees i
  by_cases hrun : d.crashed = true
  · unfold step
    rwa [if_pos hrun]
  obtain ⟨ht,-⟩ := h.sound.running (by simpa using hrun)
  have hreads : GuardsReads cfg fs uv Connected (Frees d i) := frees_reads
  have haround (p : Prop) : Aftermath (fun _ => True) (Frees d i) (Frees d i) p :=
    ⟨fun _ h' => h',fun _ _ why _ h' _ => ⟨table_ops_close h'.1 why,h'.2.close_transport why⟩⟩
  refine hreads.toGuardsAll.step i hfrees (haround _) trivial ?_ ?_ ?_ (fun _ => ht.wf) ?_ ?_
    (fun a svc ha hlast => h.last (by simpa using hrun) ha hlast)
  · intro _ _ rest _ _
    exact ⟨fun hc => (hfrees.1 hc).of_same rfl rfl le_rfl,
      hfrees.2.of_log rfl le_rfl [] (List.append_nil _).symm (by simp)⟩
  · rintro r rfl hc hact
    refine hreads.transport_read r (fun _ => trivial) hfrees (haround _) (fun _ _ _ _ => haround _)
      (fun up d' hr hc' => ?_)
    have hreceive := hreads.receive r (haround _) (fun _ => trivial) hfrees
    rw [hr] at hreceive
    have hup := hi up d' hr
    have htable : Table (d'.emit (.handed d'.isConnected up.p.msg up.p.payload)) :=
      (hreceive.1 hc').of_same rfl rfl le_rfl
    exact frame_connected _ htable ⟨hup.close,hup.write,hup.start⟩
  · rintro rfl hc hcl hw hg
    have hclose : GuardsClose cfg fs uv Connected
        (fun d' => Frees d .transportClosed d' ∧ ∀ a, Connected d' a) := connected_close
    have hall (a : ℕ) : Connected d a :=
      fun hreg svc ha => hi hcl hw hg a svc hreg ((alive_iff d a svc).mp ha).1
    refine (hclose.uv_close_client ⟨hfrees,hall⟩ hc (fun d' a rest h' hc' hs => ?_)).1
    exact ⟨h'.2 a,fun hc'' => service_close_first (h'.1.1 hc') none hs hc''⟩
  · -- a stream that is read or written to is connected
    have hconnected {a : ℕ} {svc : Service} (hsvc : d.alive a = some svc)
        (hact : svc.stream.active = true ∨ svc.stream.writes ≠ []) : ¬svc.kind.Unconnected := by
      have hallows := (ht.wf a svc ((alive_iff d a svc).mp hsvc).1).kind
      cases hk : svc.kind with
      | tcp state =>
        rw [hk] at hallows
        rcases hact with hact | hwrites
        · rw [hallows.1 (Or.inl hact)]
          exact not_unconnected (by decide)
        · exact not_unconnected (lt_of_lt_of_le (by decide) (hallows.2.1 hwrites))
      | _ => exact id
    cases i with
    | streamRead a r =>
      intro svc ha hact _ d' s h' _ ha' _ _ _ _ svc' hsvc'
      rw [← Option.some.inj (ha'.symm.trans hsvc')]
      change ¬svc.kind.Unconnected
      exact hconnected ha (Or.inl hact)
    | streamWritten a fail =>
      intro svc up rest ha hw _ _ svc' hsvc'
      have hset := hsvc'.symm.trans (set_service_alive d a _ ((alive_iff d a svc).mp ha).2)
      rw [Option.some.inj hset]
      change ¬svc.kind.Unconnected
      exact hconnected ha (Or.inr (by simp [hw]))
    | connected a fail =>
      intro svc state ha hcon hk d' h' _ ha'
      exact absurd rfl (h'.2.failed a _ ha')
    | _ => trivial
  · cases i with
    | connected a fail =>
      intro svc state ha hcon hk
      have hheap := ((alive_iff d a svc).mp ha).1
      have hallows := (ht.wf a svc hheap).kind
      rw [hk] at hallows
      have hstate := hallows.2.2.1 hcon
      exact Or.inr ⟨hi svc hheap hcon,hstate⟩
    | _ => trivial

/-! Runs. -/

/-- The service that a callback is for. -/
def Input.service : Input → Option ℕ
  | .transportRead _ | .transportWritten _ | .transportClosed => none
  | .streamRead a _ | .streamWritten a _ | .connected a _ | .streamClosed a | .processClosed a =>
    some a

/-- The memory of the tcp and shell services is freed by the close callback of the last of their
handles, behind all other callbacks. -/
structure FreedLast (cfg : Config) (fs : FileSystem ω) (uv : Uv ω) (d : Daemon ω) (i : Input) :
    Prop where
  freed : ∀ a, .freed a ∈ since d (step cfg fs uv d i) → FreedBy d i (step cfg fs uv d i) a
  lost : .handleLost ∉ since d (step cfg fs uv d i)
  still : ∀ a svc, (step cfg fs uv d i).heap a = some svc → svc.freed = true → svc.Still
  /-- A service that is freed gets no callback. -/
  untouched : ∀ a svc, i.service = some a → d.heap a = some svc → svc.freed = true →
    step cfg fs uv d i = d

theorem still_step {a : ℕ} {svc : Service} (i : Input) (hi : i.service = some a)
    (ha : d.heap a = some svc) (hf : svc.freed = true) (hs : svc.Still) :
    step cfg fs uv d i = d := by
  obtain ⟨hact,hwrites,hcon⟩ := hs
  unfold step
  split
  · rfl
  · cases i <;> cases hi <;> simp [ha, hact, hwrites, hcon, hf]

theorem Resting.step (h : Resting cfg uv d) (i : Input) (hi : Connects cfg fs uv d i) :
    Resting cfg uv (step cfg fs uv d i) :=
  have hfrees := (frees_step h i hi).2
  ⟨sound_callback i h.sound,hfrees.lt,hfrees.failed,hfrees.still⟩

theorem Resting.freed_last (h : Resting cfg uv d) (i : Input) (hi : Connects cfg fs uv d i) :
    FreedLast cfg fs uv d i := by
  obtain ⟨es,hlog,hlost,hfreed⟩ := (frees_step h i hi).2.log
  refine ⟨?_,?_,(frees_step h i hi).2.still,
    fun a svc hs ha hf => still_step i hs ha hf (h.still a svc ha hf)⟩
  · rw [since_of_log hlog]
    exact hfreed
  · rw [since_of_log hlog]
    exact hlost

theorem resting_start (token : List UInt8) (os : ω) : Resting cfg uv (daemonStart token os) :=
  ⟨sound_start token os,(fun _ _ ha => by cases ha),(fun _ _ ha => by cases ha),
    fun _ _ ha => by cases ha⟩

/-- In a run in which every connection is made before its service is ended, and no service fails
to start once a handle of it is initialised, no tcp or shell service is freed too early. -/
theorem services_freed_last (cfg : Config) (fs : FileSystem ω) (uv : Uv ω) (token : List UInt8)
    (os : ω) (is : List Input)
    (h : Along (step cfg fs uv) (Connects cfg fs uv) (daemonStart token os) is) :
    Along (step cfg fs uv) (FreedLast cfg fs uv) (daemonStart token os) is :=
  along_of_invariant (step cfg fs uv) (Resting cfg uv) (Connects cfg fs uv) (FreedLast cfg fs uv)
    (fun _ i hd hi => hd.step i hi) (fun _ i hd hi => hd.freed_last i hi) _
    (resting_start token os) is h

/-- No registered service has a socket that is not connected. -/
def connectedServices (d : Daemon ω) : Bool :=
  d.services.all fun a => (d.heap a).all fun svc => !decide svc.kind.Unconnected

theorem plain_opens (d : Daemon Unit) (up : ApacketUv) : ¬OpenLoses cfg plainUv d up := by
  rintro ⟨-,-,-,hloses⟩
  unfold Loses at hloses
  split at hloses
  · cases hloses.2
  · rcases hloses with hloses | hloses <;> cases hloses
  · exact hloses

theorem connects_read (fs : FileSystem Unit) (d : Daemon Unit) (r : ReadResult)
    (h : connectedServices (receive cfg fs plainUv d r).2 = true) :
    Connects cfg fs plainUv d (.transportRead r) := by
  intro up d' hr
  rw [hr] at h
  have hconnected (id peerId a : ℕ) (svc : Service)
      (ha : adbClientFindService d' id peerId = some a) (hsvc : d'.heap a = some svc) :
      ¬svc.kind.Unconnected := by
    have hall := List.all_eq_true.mp h a (find_service_spec d' id peerId a ha).1
    simpa [hsvc] using hall
  exact ⟨fun _ a svc ha hsvc => hconnected _ _ a svc ha hsvc,
    fun _ a svc ha hsvc => hconnected _ _ a svc ha hsvc,fun _ => plain_opens d' up⟩

/-- A tcp service is opened, its connection is made, and the host closes it. -/
def tcpClosed : List Input :=
  hostFrame aOpen 5 0 (ascii "tcp:80" ++ [0]) ++ [.connected 1 false] ++ hostFrame aClse 5 1 [] ++
    [.streamClosed 1]

theorem tcp_freed_last :
    Along (step defaultConfig emptyFs plainUv) (FreedLast defaultConfig emptyFs plainUv)
      (daemonStart [] ()) tcpClosed ∧
    Event.freed 1 ∈ (daemonRun defaultConfig emptyFs plainUv [] () tcpClosed).log := by
  refine ⟨services_freed_last defaultConfig emptyFs plainUv [] () tcpClosed ?_,by decide +kernel⟩
  refine ⟨connects_read _ _ _ (by decide +kernel),connects_read _ _ _ (by decide +kernel),
    fun _ _ _ => rfl,connects_read _ _ _ (by decide +kernel),trivial,trivial⟩

/-- The host closes a tcp service whose connection is on its way. -/
def tcpClosedEarly : List Input :=
  hostFrame aOpen 5 0 (ascii "tcp:80" ++ [0]) ++ hostFrame aClse 5 1 []

/-- The service is freed with its handle open, and libuv calls back into its memory. -/
theorem connecting_service_freed :
    ¬Along (step defaultConfig emptyFs plainUv) (FreedLast defaultConfig emptyFs plainUv)
      (daemonStart [] ()) tcpClosedEarly ∧
    Event.fault .useAfterFree ∈ (daemonRun defaultConfig emptyFs plainUv [] ()
      (tcpClosedEarly ++ [.connected 1 true])).log := by
  refine ⟨fun h => ?_,by decide +kernel⟩
  have hearly : ((daemonRun defaultConfig emptyFs plainUv [] () tcpClosedEarly).heap 1).any
      (fun svc => svc.freed && svc.stream.connecting) = true := by decide +kernel
  obtain ⟨svc,ha,hsvc⟩ := (Option.any_eq_true _ _).mp hearly
  rw [Bool.and_eq_true] at hsvc
  have hstill := h.2.2.1.still 1 svc ha hsvc.1
  rw [hstill.2.2] at hsvc
  cases hsvc.2

end MicroADB
