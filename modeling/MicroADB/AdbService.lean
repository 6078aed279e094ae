import MicroADB.AdbStep

/-! The end of a service, and the list of services: what is in the list is in memory, and
its handle is not closing. -/
namespace MicroADB
open ByteMemory EventRun

variable {ω : Type} {cfg : Config} {fs : FileSystem ω} {uv : Uv ω} {d d' : Daemon ω}

/-! What adb_service_close does. -/

/-- What on_close leaves of a service. -/
structure Ended (svc svc' : Service) : Prop where
  ended : svc'.freed = true ∨ svc'.stream.closing = true
  wf : svc.Wf → svc'.Wf
  writes : svc'.stream.writes = svc.stream.writes
  connecting : svc'.stream.connecting = svc.stream.connecting
  starved : svc'.stream.starved = true → svc.stream.starved = true
  id : svc'.id = svc.id
  peerId : svc'.peerId = svc.peerId
  kind : svc'.kind = svc.kind ∨ ∃ s s', svc.kind = .sync s ∧ svc'.kind = .sync s'

/-- The events behind the on_close of a service. -/
def Event.ends (a : ℕ) (e : Event) : Prop := (∃ s, e = .sync a s) ∨ e = .freed a

theorem Event.ends.plain {a : ℕ} {e : Event} (h : e.ends a) : e.plain = true ∨ e = .freed a := by
  rcases h with ⟨s,rfl⟩ | rfl
  · exact Or.inl rfl
  · exact Or.inr rfl

theorem free_service_eq (d : Daemon ω) (a : ℕ) (svc : Service) : freeService d a svc = { d with
    heap := Function.update d.heap a (some { svc with freed := true })
    log := d.log ++ [.freed a] } := rfl

/-- on_close of a sync service frees it. -/
theorem on_close_sync (fs : FileSystem ω) (d : Daemon ω) (a : ℕ) (svc : Service) {s : AfsService}
    (ha : d.alive a = some svc) (hk : svc.kind = .sync s) :
    ∃ s' os es, (∀ e ∈ es, e.ends a) ∧ onClose fs d a = { d with
        heap := Function.update d.heap a (some { svc with kind := .sync s', freed := true })
        os := os
        log := d.log ++ .onClose a :: es } := by
  unfold onClose Daemon.withService
  rw [ha]
  dsimp only
  rw [hk]
  let c := fileSyncOnClose fs (⟨s,default,d.os,[]⟩ : SyncCtx ω)
  refine ⟨c.svc,c.os,c.log.map (.sync a) ++ [.freed a],fun e he => ?_,?_⟩
  · rcases List.mem_append.mp he with he | he
    · obtain ⟨s,_,rfl⟩ := List.mem_map.mp he
      exact Or.inl ⟨s,rfl⟩
    · exact Or.inr (List.mem_singleton.mp he)
  · dsimp only
    rw [free_service_eq]
    simp only [syncDone, Daemon.setOs, Daemon.setService, Daemon.emit, Function.update_idem,
      List.append_assoc, List.cons_append, List.nil_append]
    rfl

/-- on_close of any other service closes its handle, unless its socket is not connected. -/
theorem on_close_stream (fs : FileSystem ω) (d : Daemon ω) (a : ℕ) (svc : Service)
    (ha : d.alive a = some svc) (hcl : svc.stream.closing = false)
    (hsync : ∀ s, svc.kind ≠ .sync s) (hconnected : ¬svc.kind.Unconnected) :
    onClose fs d a = { d with
      heap := Function.update d.heap a (some { svc with stream := svc.stream.close })
      log := d.log ++ [.onClose a] } := by
  have hclose : uvCloseStream (d.emit (.onClose a)) a svc = { d with
      heap := Function.update d.heap a (some { svc with stream := svc.stream.close })
      log := d.log ++ [.onClose a] } := by
    unfold uvCloseStream
    rw [if_neg (by simp [hcl])]
    rfl
  unfold onClose Daemon.withService
  rw [ha]
  dsimp only
  split
  · rename_i s hk
    exact absurd hk (hsync s)
  · rename_i state hk
    rw [hk] at hconnected
    rw [if_pos (not_le.mp hconnected)]
    exact hclose
  · exact hclose

/-- A service whose handle is closed. -/
theorem ended_close (svc : Service) (hconnected : ¬svc.kind.Unconnected) :
    Ended svc { svc with stream := svc.stream.close } := by
  refine ⟨Or.inr rfl,fun hw => ⟨⟨by simp [UvStream.close],by simp [UvStream.close]⟩,?_,
    fun _ => rfl,fun he => ⟨rfl,(hw.exiting he).2⟩⟩,rfl,rfl,by simp [UvStream.close],rfl,rfl,
    Or.inl rfl⟩
  have hk := hw.kind
  cases hkind : svc.kind with
  | sync s =>
    rw [hkind] at hk
    exact ⟨rfl,rfl,hk.2.2⟩
  | tcp state =>
    rw [hkind] at hk hconnected
    exact ⟨by simp [UvStream.close],hk.2.1,hk.2.2.1,fun _ => not_le.mp hconnected⟩
  | shell waitAck =>
    rw [hkind] at hk
    exact ⟨by simp [UvStream.close],hk.2⟩

/-- on_close of a service whose handle is open. -/
theorem on_close_spec (fs : FileSystem ω) (d : Daemon ω) (a : ℕ) (svc : Service)
    (ha : d.alive a = some svc) (hcl : svc.stream.closing = false) :
    ∃ svc' os es, Ended svc svc' ∧ (∀ e ∈ es, e.ends a) ∧
      onClose fs d a = { d with
        heap := Function.update d.heap a (some svc')
        os := os
        log := d.log ++ .onClose a :: es } := by
  by_cases hsync : ∃ s, svc.kind = .sync s
  · obtain ⟨s,hk⟩ := hsync
    obtain ⟨s',os,es,hes,heq⟩ := on_close_sync fs d a svc ha hk
    refine ⟨{ svc with kind := .sync s', freed := true },os,es,⟨Or.inl rfl,fun hw => ?_,rfl,rfl,id,
      rfl,rfl,Or.inr ⟨s,s',hk,rfl⟩⟩,hes,heq⟩
    have hallows := hw.kind
    rw [hk] at hallows
    exact ⟨hw.stream,hallows,fun _ => hallows.1,hw.exiting⟩
  by_cases hu : svc.kind.Unconnected
  · refine ⟨{ svc with freed := true },d.os,[.freed a],⟨Or.inl rfl,fun hw => ?_,rfl,rfl,id,rfl,rfl,
      Or.inl rfl⟩,by simp [Event.ends],?_⟩
    · refine ⟨hw.stream,hw.kind,fun _ => ?_,hw.exiting⟩
      have hallows := hw.kind
      cases hk : svc.kind with
      | tcp state =>
        rw [hk] at hallows hu
        by_contra hact
        rw [hallows.1 (Or.inl (by simpa using hact))] at hu
        exact absurd hu (by decide)
      | _ =>
        rw [hk] at hu
        cases hu
    · unfold onClose Daemon.withService
      rw [ha]
      dsimp only
      cases hk : svc.kind with
      | tcp state =>
        rw [hk] at hu
        dsimp only
        rw [if_neg (not_lt.mpr hu), free_service_eq]
        simp [Daemon.emit, hk]
      | _ =>
        rw [hk] at hu
        cases hu
  · rw [not_exists] at hsync
    exact ⟨_,d.os,[],ended_close svc hu,by simp,on_close_stream fs d a svc ha hcl hsync hu⟩

/-- The close frame that adb_service_close sends, if it was given a packet for it. -/
def sendClose (uv : Uv ω) (d : Daemon ω) (svc : Service) : Option ApacketUv → Daemon ω
  | some up => sendCloseFrame uv d up svc.id svc.peerId
  | none => d

theorem quietly_send_close (uv : Uv ω) (d : Daemon ω) (svc : Service) (up : Option ApacketUv) :
    Quietly d (sendClose uv d svc up) := by
  cases up with
  | none => exact Quietly.refl d
  | some up => exact quietly_send_frame uv d _

/-- The daemon in which a service has been taken from the list. -/
def unlink (d : Daemon ω) (a : ℕ) : Daemon ω :=
  { d.emit (.serviceClose a true) with services := d.services.erase a }

theorem service_close_listed (fs : FileSystem ω) (uv : Uv ω) (d : Daemon ω) (a : ℕ)
    (svc : Service) (up : Option ApacketUv) (hg : d.gone = false) (hreg : a ∈ d.services)
    (ha : d.alive a = some svc) : adbServiceClose fs uv d a up =
      (sendClose uv (unlink d a) svc up).next fun d => onClose fs d a := by
  have hne : d.services ≠ [] := List.ne_nil_of_mem hreg
  have halive : (unlink d a).alive a = some svc := ha
  have hexit : adbServiceClose fs uv d a up = exitFreeService fs uv (unlink d a) a up := by
    unfold adbServiceClose unlink
    rw [decide_eq_true hreg]
    dsimp only [Daemon.emit]
    rw [if_neg (by simp [hg]), if_neg hne, if_pos hreg]
  rw [hexit, exitFreeService, Daemon.withService, halive]
  cases up <;> rfl

/-- adb_service_close of a service of the list: it is taken from the list, the CLSE is
sent, and unless the program crashes there the service is ended. -/
theorem service_close_spec (fs : FileSystem ω) (uv : Uv ω) (d : Daemon ω) (a : ℕ)
    (svc : Service) (up : Option ApacketUv) (hg : d.gone = false) (hreg : a ∈ d.services)
    (ha : d.alive a = some svc) (hcl : svc.stream.closing = false) :
    (adbServiceClose fs uv d a up = sendClose uv (unlink d a) svc up ∧
        (sendClose uv (unlink d a) svc up).crashed = true) ∨
      ∃ svc' os es, Ended svc svc' ∧ (∀ e ∈ es, e.ends a) ∧
        (sendClose uv (unlink d a) svc up).crashed = false ∧
        adbServiceClose fs uv d a up = { sendClose uv (unlink d a) svc up with
          heap := Function.update d.heap a (some svc')
          os := os
          log := (sendClose uv (unlink d a) svc up).log ++ .onClose a :: es } := by
  have hq := quietly_send_close uv (unlink d a) svc up
  have ha' : (sendClose uv (unlink d a) svc up).alive a = some svc := by
    rw [Daemon.alive, hq.heap]
    exact ha
  rw [service_close_listed fs uv d a svc up hg hreg ha, Daemon.next]
  split
  · rename_i hc
    exact Or.inl ⟨rfl,hc⟩
  · rename_i hc
    obtain ⟨svc',os,es,hend,hes,heq⟩ := on_close_spec fs _ a svc ha' hcl
    refine Or.inr ⟨svc',os,es,hend,hes,by simpa using hc,?_⟩
    rw [heq, hq.heap]
    rfl

/-- adb_service_close of anything else: only the trace shows it. -/
theorem service_close_other (fs : FileSystem ω) (uv : Uv ω) (d : Daemon ω) (a : ℕ)
    (up : Option ApacketUv) (h : d.gone = true ∨ a ∉ d.services) :
    ∃ b es, adbServiceClose fs uv d a up = { d with
        log := d.log ++ .serviceClose a b :: es
        crashed := (adbServiceClose fs uv d a up).crashed } ∧
      (d.crashed = true → (adbServiceClose fs uv d a up).crashed = true) ∧
      ∀ e ∈ es, e = .notFound a ∨ e = .fault .useAfterFree ∨ e = .fault .nullNext := by
  unfold adbServiceClose
  dsimp only
  split
  · exact ⟨decide (a ∈ d.services),[.fault .useAfterFree],by simp [Daemon.fault, Daemon.emit],
      fun _ => rfl,by simp⟩
  · rename_i hg
    have ha : a ∉ d.services := h.resolve_left hg
    split
    · exact ⟨decide (a ∈ d.services),[.fault .nullNext],by simp [Daemon.fault, Daemon.emit],
        fun _ => rfl,by simp⟩
    · rw [if_neg (by simpa [Daemon.emit] using ha)]
      exact ⟨decide (a ∈ d.services),[.notFound a],by simp [Daemon.emit],id,by simp⟩

/-! What adb_service_open does. -/

/-- A constructor that may have returned a service. -/
theorem finish_open_spec (r : Option Service × ApacketUv × Daemon ω) (params : ServiceParams)
    (hq : Quietly d r.2.2) (hc : ∀ svc, r.1 = some svc → Constructed svc) :
    ((finishOpen r params).1 = none ∧ Quietly d (finishOpen r params).2.2) ∨
      ∃ d₁ svc peerId, Quietly d d₁ ∧ Constructed svc ∧ (finishOpen r params).1 = some d₁.fresh ∧
        (finishOpen r params).2.2 = (registerService d₁ svc peerId params).2 := by
  unfold finishOpen
  split
  · exact Or.inl ⟨rfl,hq⟩
  · rename_i svc hsvc
    exact Or.inr ⟨r.2.2,svc,r.2.1.p.msg.arg0,hq,hc svc hsvc,rfl,rfl⟩

/-- adb_service_open registers a service, reboots, or leaves the table as it was. -/
theorem service_open_spec (cfg : Config) (uv : Uv ω) (d : Daemon ω) (up : ApacketUv) :
    ((adbServiceOpen cfg uv d up).1 = none ∧
        (Quietly d (adbServiceOpen cfg uv d up).2.2 ∨
          ∃ target, (adbServiceOpen cfg uv d up).2.2 = d.emit (.reboot target))) ∨
      d.nextServiceId ≠ 0 ∧ ∃ d₁ svc peerId params, Quietly d d₁ ∧ Constructed svc ∧
        (adbServiceOpen cfg uv d up).1 = some d₁.fresh ∧
        (adbServiceOpen cfg uv d up).2.2 = (registerService d₁ svc peerId params).2 := by
  unfold adbServiceOpen
  split
  · exact Or.inl ⟨rfl,Or.inl (quietly_fault d _ rfl)⟩
  · rename_i hid
    have hfinish (r : Option Service × ApacketUv × Daemon ω) (params : ServiceParams)
        (hq : Quietly d r.2.2) (hc : ∀ svc, r.1 = some svc → Constructed svc) :
        ((finishOpen r params).1 = none ∧ (Quietly d (finishOpen r params).2.2 ∨
          ∃ target, (finishOpen r params).2.2 = d.emit (.reboot target))) ∨
        d.nextServiceId ≠ 0 ∧ ∃ d₁ svc peerId params', Quietly d d₁ ∧ Constructed svc ∧
          (finishOpen r params).1 = some d₁.fresh ∧
          (finishOpen r params).2.2 = (registerService d₁ svc peerId params').2 := by
      rcases finish_open_spec r params hq hc with ⟨hnone,hq'⟩ | ⟨d₁,svc,peerId,hrest⟩
      · exact Or.inl ⟨hnone,Or.inl hq'⟩
      · exact Or.inr ⟨hid,d₁,svc,peerId,params,hrest⟩
    split
    · refine hfinish _ _ (quietly_os d _) (fun svc hsvc => ?_)
      obtain ⟨raw,-,rfl⟩ := Option.map_eq_some_iff.mp hsvc
      exact constructed_sync _
    · rename_i port _
      have hos := quietly_os d (uv.connect d.os port).1
      apply hfinish
      · unfold tcpForwardService
        split
        · exact Quietly.refl d
        · dsimp only
          split
          · exact hos
          · exact hos.trans (quietly_emit _ _ rfl)
          · exact hos
      · intro svc hsvc
        unfold tcpForwardService at hsvc
        split at hsvc
        · cases hsvc
        · dsimp only at hsvc
          split at hsvc <;> cases hsvc
          exact constructed_tcp
    · rename_i cmd _
      have hos := quietly_os d (uv.shell d.os cmd).1
      apply hfinish
      · unfold shellService
        dsimp only
        split <;> first | exact hos | exact hos.trans (quietly_emit _ _ rfl)
      · intro svc hsvc
        unfold shellService at hsvc
        dsimp only at hsvc
        split at hsvc <;> cases hsvc
        exact constructed_shell
    · exact Or.inl ⟨rfl,Or.inr ⟨_,rfl⟩⟩
    · exact Or.inl ⟨rfl,Or.inl (Quietly.refl d)⟩

/-! The list of services. -/

structure Table (d : Daemon ω) : Prop where
  nodup : d.services.Nodup
  /-- The list holds the services in memory whose handle has not been closed. -/
  registered : ∀ a, a ∈ d.services ↔ ∃ svc, d.alive a = some svc ∧ svc.stream.closing = false
  wf : ∀ a svc, d.heap a = some svc → svc.Wf
  lt : ∀ a svc, d.heap a = some svc → a < d.fresh

theorem Table.of_same (h : Table d) (hs : d'.services = d.services) (hh : d'.heap = d.heap)
    (hf : d.fresh ≤ d'.fresh) : Table d' := by
  have halive (a : ℕ) : d'.alive a = d.alive a := by rw [Daemon.alive, Daemon.alive, hh]
  refine ⟨hs ▸ h.nodup,fun a => ?_,fun a svc ha => h.wf a svc (hh ▸ ha),
    fun a svc ha => (h.lt a svc (hh ▸ ha)).trans_le hf⟩
  rw [hs, halive]
  exact h.registered a

theorem set_service_alive_of_ne (d : Daemon ω) (a b : ℕ) (svc : Service) (h : b ≠ a) :
    (d.setService a svc).alive b = d.alive b := by
  rw [Daemon.alive, Daemon.alive, Daemon.set_service_heap, Function.update_of_ne h]

/-- A service of the list stays what it is as long as its handle is not closed. -/
theorem Table.set_service (h : Table d) {a : ℕ} {svc svc' : Service} (ha : d.alive a = some svc)
    (hcl : svc'.stream.closing = svc.stream.closing) (hf : svc'.freed = svc.freed)
    (hw : svc'.Wf) : Table (d.setService a svc') := by
  obtain ⟨hheap,hfreed⟩ := (alive_iff _ _ _).mp ha
  refine ⟨h.nodup,fun b => ?_,fun b svc₀ hb => ?_,fun b svc₀ hb => ?_⟩
  · by_cases hba : b = a
    · subst hba
      rw [set_service_alive d b svc' (hf.trans hfreed)]
      have hreg := h.registered b
      rw [ha] at hreg
      simpa [hcl] using hreg
    · rw [set_service_alive_of_ne d a b svc' hba]
      exact h.registered b
  · by_cases hba : b = a
    · subst hba
      rw [Daemon.set_service_heap, Function.update_self] at hb
      exact Option.some.inj hb ▸ hw
    · rw [Daemon.set_service_heap, Function.update_of_ne hba] at hb
      exact h.wf b svc₀ hb
  · by_cases hba : b = a
    · exact hba ▸ h.lt a svc hheap
    · rw [Daemon.set_service_heap, Function.update_of_ne hba] at hb
      exact h.lt b svc₀ hb

theorem Table.register (h : Table d) {svc : Service} (peerId : ℕ) (params : ServiceParams)
    (hc : Constructed svc) : Table (registerService d svc peerId params).2 := by
  have hnone : d.heap d.fresh = none := by
    by_contra hne
    obtain ⟨svc₀,hsvc⟩ := Option.ne_none_iff_exists'.mp hne
    exact lt_irrefl _ (h.lt _ _ hsvc)
  have hnot : d.fresh ∉ d.services := by
    intro hmem
    obtain ⟨svc₀,ha,-⟩ := (h.registered _).mp hmem
    rw [((alive_iff _ _ _).mp ha).1] at hnone
    cases hnone
  have hself : (registerService d svc peerId params).2.alive d.fresh =
      some { svc with id := d.nextServiceId, peerId := peerId } :=
    set_service_alive d d.fresh _ hc.freed
  refine ⟨List.nodup_cons.mpr ⟨hnot,h.nodup⟩,fun b => ?_,fun b svc₀ hb => ?_,fun b svc₀ hb => ?_⟩
  · change b ∈ d.fresh :: d.services ↔ _
    rw [List.mem_cons]
    by_cases hba : b = d.fresh
    · subst hba
      rw [hself]
      simp [hc.closing]
    · have hother : (registerService d svc peerId params).2.alive b = d.alive b :=
        set_service_alive_of_ne d d.fresh b _ hba
      rw [hother, ← h.registered b]
      simp [hba]
  · change Function.update d.heap d.fresh _ b = _ at hb
    by_cases hba : b = d.fresh
    · rw [hba, Function.update_self] at hb
      rw [← Option.some.inj hb]
      exact ⟨hc.wf.stream,hc.wf.kind,hc.wf.freed,hc.wf.exiting⟩
    · rw [Function.update_of_ne hba] at hb
      exact h.wf b svc₀ hb
  · change Function.update d.heap d.fresh _ b = _ at hb
    change b < d.fresh+1
    by_cases hba : b = d.fresh
    · omega
    · rw [Function.update_of_ne hba] at hb
      have hlt := h.lt b svc₀ hb
      omega

theorem Table.act (h : Table d) (ha : Act cfg uv d d') : Table d' := by
  cases ha with
  | quietly _ hq => exact h.of_same hq.services hq.heap hq.fresh.ge
  | alloc cap init _ => exact h.of_same rfl rfl (Nat.le_succ _)
  | refuse _ => exact h.of_same rfl rfl le_rfl
  | outOfMemory _ => exact h.of_same rfl rfl le_rfl
  | service a svc svc' ha hc =>
    exact h.set_service ha hc.closing hc.freed (hc.wf (h.wf a svc ((alive_iff _ _ _).mp ha).1))

theorem Table.frame (h : Table d) (ha : FrameAct d d') : Table d' := by
  cases ha with
  | push a svc up ha _ hcl hk =>
    exact h.set_service ha rfl rfl (push_wf up (h.wf a svc ((alive_iff _ _ _).mp ha).1) hcl hk)
  | register svc peerId params hc => exact h.register peerId params hc
  | serviceId n => exact h.of_same rfl rfl le_rfl
  | reboot target => exact h.of_same rfl rfl le_rfl
  | reached a e _ _ => exact h.of_same rfl rfl le_rfl

/-- A service that is taken from the list and ended leaves the table. -/
theorem Table.ended (h : Table d) {a : ℕ} {svc svc' : Service} (ha : d.heap a = some svc)
    (hend : Ended svc svc') (hs : d'.services = d.services.erase a)
    (hh : d'.heap = Function.update d.heap a (some svc')) (hf : d'.fresh = d.fresh) :
    Table d' := by
  refine ⟨hs ▸ h.nodup.erase a,fun b => ?_,fun b svc₀ hb => ?_,fun b svc₀ hb => ?_⟩
  · rw [hs, h.nodup.mem_erase_iff]
    by_cases hba : b = a
    · subst hba
      refine ⟨fun hb => absurd rfl hb.1,fun ⟨svc₀,hb,hcl⟩ => ?_⟩
      obtain ⟨hb,hfreed⟩ := (alive_iff _ _ _).mp hb
      rw [hh, Function.update_self] at hb
      obtain rfl := Option.some.inj hb
      rcases hend.ended with he | he
      · rw [he] at hfreed
        cases hfreed
      · rw [he] at hcl
        cases hcl
    · have hother : d'.alive b = d.alive b := by
        rw [Daemon.alive, Daemon.alive, hh, Function.update_of_ne hba]
      rw [hother, ← h.registered b]
      simp [hba]
  · rw [hh] at hb
    by_cases hba : b = a
    · rw [hba, Function.update_self] at hb
      exact Option.some.inj hb ▸ hend.wf (h.wf a svc ha)
    · rw [Function.update_of_ne hba] at hb
      exact h.wf b svc₀ hb
  · rw [hf]
    by_cases hba : b = a
    · exact hba ▸ h.lt a svc ha
    · rw [hh, Function.update_of_ne hba] at hb
      exact h.lt b svc₀ hb

theorem Table.close (h : Table d) (a : ℕ) (up : Option ApacketUv)
    (hc : (adbServiceClose fs uv d a up).crashed = false) :
    Table (adbServiceClose fs uv d a up) := by
  by_cases hreg : d.gone = true ∨ a ∉ d.services
  · obtain ⟨b,es,heq,-,-⟩ := service_close_other fs uv d a up hreg
    rw [heq]
    exact h.of_same rfl rfl le_rfl
  · simp only [not_or, not_not, Bool.not_eq_true] at hreg
    obtain ⟨svc,ha,hcl⟩ := (h.registered a).mp hreg.2
    have hq := quietly_send_close uv (unlink d a) svc up
    rcases service_close_spec fs uv d a svc up hreg.1 hreg.2 ha hcl with
      ⟨heq,hcr⟩ | ⟨svc',os,es,hend,-,-,heq⟩
    · rw [heq, hcr] at hc
      cases hc
    · rw [heq]
      exact h.ended ((alive_iff _ _ _).mp ha).1 hend hq.services rfl hq.fresh

/-- The memory of a service goes when its handle has been closed. -/
theorem Table.free (h : Table d) {a : ℕ} {svc : Service} (ha : d.alive a = some svc)
    (hcl : svc.stream.closing = true) : Table (freeService d a svc) := by
  have hheap := ((alive_iff _ _ _).mp ha).1
  have hnot : a ∉ d.services := by
    intro hreg
    obtain ⟨svc₀,ha₀,hcl₀⟩ := (h.registered a).mp hreg
    rw [ha] at ha₀
    rw [← Option.some.inj ha₀, hcl] at hcl₀
    cases hcl₀
  have hw := h.wf a svc hheap
  have hend : Ended svc { svc with freed := true } :=
    ⟨Or.inl rfl,fun _ => ⟨hw.stream,hw.kind,fun _ => (hw.stream.closing hcl).1,hw.exiting⟩,rfl,
      rfl,id,rfl,rfl,Or.inl rfl⟩
  exact h.ended hheap hend (List.erase_of_not_mem hnot).symm rfl rfl

/-- The first service of the list leaves the rest of it. -/
theorem service_close_first (h : Table d) {a : ℕ} {rest : List ℕ} (up : Option ApacketUv)
    (hs : d.services = a :: rest) (hc : (adbServiceClose fs uv d a up).crashed = false) :
    (adbServiceClose fs uv d a up).services = rest := by
  have hreg : a ∈ d.services := hs ▸ List.mem_cons_self
  by_cases hg : d.gone = true
  · exfalso
    unfold adbServiceClose at hc
    rw [if_pos (by simpa [Daemon.emit] using hg)] at hc
    cases hc
  · obtain ⟨svc,ha,hcl⟩ := (h.registered a).mp hreg
    have hq := (quietly_send_close uv (unlink d a) svc up).services
    have herase : d.services.erase a = rest := by rw [hs, List.erase_cons_head]
    rcases service_close_spec fs uv d a svc up (by simpa using hg) hreg ha hcl with
      ⟨heq,-⟩ | ⟨svc',os,es,-,-,-,heq⟩
    · rw [heq, hq]
      exact herase
    · rw [heq]
      exact hq.trans herase

/-- Without a condition on the services that are closed. -/
theorem frame_closes_true (d : Daemon ω) (up : ApacketUv) :
    FrameCloses cfg fs uv (fun _ _ => True) d up :=
  ⟨fun _ _ _ => trivial,fun _ _ _ _ _ => trivial,fun _ _ _ _ _ _ _ => trivial⟩

theorem step_closes_true (I : Daemon ω → Prop) (d : Daemon ω) (i : Input) :
    StepCloses cfg (fun _ _ => True) I d i := by
  cases i with
  | streamRead a r => exact fun _ _ _ _ _ _ _ _ _ _ _ _ => trivial
  | streamWritten a fail => exact fun _ _ _ _ _ _ => trivial
  | connected a fail => exact fun _ _ _ _ _ _ _ _ _ => trivial
  | _ => trivial

/-- The loop of adb_destroy_client closes what is at the front of the list. -/
theorem destroy_true (I : Daemon ω → Prop) (hI : ∀ d, I d → d.crashed = false → Table d)
    (d' : Daemon ω) (a : ℕ) (rest : List ℕ) (hd' : I d') (hc : d'.crashed = false)
    (hs : d'.services = a :: rest) :
    True ∧ ((adbServiceClose fs uv d' a none).crashed = false →
      (adbServiceClose fs uv d' a none).services = rest) :=
  ⟨trivial,fun hc' => service_close_first (hI d' hd' hc) none hs hc'⟩

end MicroADB
