import MicroADB.AdbPool

/-! How often a service is closed. The condition is that no request is left on a service
that is closed: the callback of such a request closes it again. -/
namespace MicroADB
open ByteMemory EventRun

variable {ω : Type} {cfg : Config} {fs : FileSystem ω} {uv : Uv ω} {d d' : Daemon ω}

/-- The services that adb_service_close was called for. -/
def closedServices (log : List Event) : List ℕ :=
  log.filterMap fun e => match e with | .serviceClose a _ => some a | _ => none

/-- The events of adb_service_close and its search. -/
def Event.ending : Event → Bool
  | .serviceClose .. | .notFound _ | .fault .nullNext => true
  | _ => false

theorem ending_of_plain (e : Event) (h : e.plain = true) : e.ending = false := by
  cases e with
  | fault f => cases f <;> first | rfl | simp [Event.plain] at h
  | _ => first | rfl | cases h

theorem closed_append (l es : List Event) (h : ∀ e ∈ es, e.ending = false) :
    closedServices (l ++ es) = closedServices l := by
  rw [closedServices, List.filterMap_append]
  refine List.append_right_eq_self.mpr (List.filterMap_eq_nil_iff.mpr (fun e he => ?_))
  have hr := h e he
  cases e <;> first | rfl | cases hr

/-! The invariant. -/

/-- Every service was closed once at most, out of the list, and a service with a request
that has not called back is in the list. -/
structure Endings (d : Daemon ω) : Prop where
  nodup : (closedServices d.log).Nodup
  closed : ∀ a ∈ closedServices d.log, a ∉ d.services ∧ a < d.fresh
  registered : ∀ a b, Event.serviceClose a b ∈ d.log → b = true
  found : ∀ a, Event.notFound a ∉ d.log
  next : Event.fault .nullNext ∉ d.log
  pending : ∀ a svc, d.heap a = some svc → ¬svc.stream.Quiet → a ∈ d.services
  gone : d.gone = true → d.services = [] ∧ d.socket.closing = true

/-- A registered service without requests. -/
def Closable (d : Daemon ω) (a : ℕ) : Prop :=
  a ∈ d.services ∧ ∃ svc, d.alive a = some svc ∧ svc.stream.Quiet

theorem Endings.of_log (h : Endings d) (hs : d'.services = d.services) (hg : d'.gone = d.gone)
    (hcl : d.socket.closing = true → d'.socket.closing = true) (hf : d.fresh ≤ d'.fresh)
    (hp : ∀ a svc, d'.heap a = some svc → ¬svc.stream.Quiet → a ∈ d.services)
    (es : List Event) (hlog : d'.log = d.log ++ es) (hes : ∀ e ∈ es, e.ending = false) :
    Endings d' := by
  have hmem (e : Event) (he : e.ending = true) (hin : e ∈ d'.log) : e ∈ d.log := by
    rw [hlog, List.mem_append] at hin
    refine hin.resolve_right (fun hin => ?_)
    rw [hes e hin] at he
    cases he
  refine ⟨?_,fun a ha => ?_,fun a b hin => h.registered a b (hmem _ rfl hin),
    fun a hin => h.found a (hmem _ rfl hin),fun hin => h.next (hmem _ rfl hin),?_,?_⟩
  · rw [hlog, closed_append _ _ hes]
    exact h.nodup
  · rw [hlog, closed_append _ _ hes] at ha
    obtain ⟨hnot,hlt⟩ := h.closed a ha
    exact ⟨hs ▸ hnot,hlt.trans_le hf⟩
  · rw [hs]
    exact hp
  · rw [hs, hg]
    exact fun hgone => ⟨(h.gone hgone).1,hcl (h.gone hgone).2⟩

theorem Endings.set_service (h : Endings d) {a : ℕ} {svc' : Service}
    (hq : ¬svc'.stream.Quiet → a ∈ d.services) : Endings (d.setService a svc') := by
  refine h.of_log rfl rfl id le_rfl (fun b svc hb hnq => ?_) [] (List.append_nil _).symm (by simp)
  by_cases hba : b = a
  · subst hba
    rw [Daemon.set_service_heap, Function.update_self] at hb
    exact hq (Option.some.inj hb ▸ hnq)
  · rw [Daemon.set_service_heap, Function.update_of_ne hba] at hb
    exact h.pending b svc hb hnq

theorem Endings.act (h : Endings d) (ha : Act cfg uv d d') : Endings d' := by
  cases ha with
  | quietly _ hq =>
    obtain ⟨es,hlog,hes⟩ := hq.log
    exact h.of_log hq.services hq.gone hq.closing hq.fresh.ge (hq.heap ▸ h.pending) es hlog
      (fun e he => ending_of_plain e (hes e he))
  | alloc cap init _ =>
    exact h.of_log rfl rfl id (Nat.le_succ _) h.pending [.alloc d.fresh] rfl (by simp [Event.ending])
  | refuse _ => exact h.of_log rfl rfl id le_rfl h.pending [.refused] rfl (by simp [Event.ending])
  | outOfMemory _ =>
    exact h.of_log rfl rfl id le_rfl h.pending [.outOfMemory] rfl (by simp [Event.ending])
  | service a svc svc' ha hc =>
    exact h.set_service (fun hnq => h.pending a svc ((alive_iff _ _ _).mp ha).1
      (fun hq => hnq (hc.quiet hq)))

theorem Endings.frame (h : Endings d) (hg : d.gone = false) (ha : FrameAct d d') :
    Endings d' := by
  cases ha with
  | push a svc up _ hreg _ _ => exact h.set_service (fun _ => hreg)
  | register svc peerId params hc =>
    have hlog := closed_append d.log [.opened d.fresh params] (by simp [Event.ending])
    refine ⟨?_,fun a ha => ?_,fun a b hin => h.registered a b ?_,fun a hin => h.found a ?_,
      fun hin => h.next ?_,fun a svc₀ hb hnq => ?_,fun hg' => ?_⟩
    · exact hlog ▸ h.nodup
    · obtain ⟨hnot,hlt⟩ := h.closed a (hlog ▸ ha)
      exact ⟨fun hin => (List.mem_cons.mp hin).elim (fun he => by omega) hnot,
        hlt.trans (Nat.lt_succ_self _)⟩
    · exact (List.mem_append.mp hin).resolve_right (by simp)
    · exact (List.mem_append.mp hin).resolve_right (by simp)
    · exact (List.mem_append.mp hin).resolve_right (by simp)
    · change Function.update d.heap d.fresh _ a = _ at hb
      by_cases hba : a = d.fresh
      · exact hba ▸ List.mem_cons_self
      · rw [Function.update_of_ne hba] at hb
        exact List.mem_cons_of_mem _ (h.pending a svc₀ hb hnq)
    · change d.gone = true at hg'
      rw [hg] at hg'
      cases hg'
  | serviceId n =>
    exact h.of_log rfl rfl id le_rfl h.pending [] (List.append_nil _).symm (by simp)
  | reboot target =>
    exact h.of_log rfl rfl id le_rfl h.pending [.reboot target] rfl (by simp [Event.ending])
  | reached a e _ he =>
    refine h.of_log rfl rfl id le_rfl h.pending [e] rfl (fun e' he' => ?_)
    rw [List.mem_singleton.mp he']
    rcases he with rfl | rfl <;> rfl

/-- A registered service without a request leaves the list. -/
theorem Endings.unlink (h : Endings d) (ht : Table d) {a : ℕ} {svc : Service} (hg : d.gone = false)
    (hreg : a ∈ d.services) (ha : d.alive a = some svc) (hquiet : svc.stream.Quiet) :
    Endings (unlink d a) := by
  have hheap := ((alive_iff _ _ _).mp ha).1
  have hnot : a ∉ closedServices d.log := fun hin => (h.closed a hin).1 hreg
  have hsnoc : closedServices (d.log ++ [.serviceClose a true]) = closedServices d.log ++ [a] := by
    simp [closedServices]
  refine ⟨?_,fun b hb => ?_,fun b c hin => ?_,fun b hin => h.found b ?_,fun hin => h.next ?_,
    fun b svc₀ hb hnq => ?_,fun hg' => ?_⟩
  · change (closedServices (d.log ++ [.serviceClose a true])).Nodup
    rw [hsnoc]
    exact List.nodup_append.mpr ⟨h.nodup,List.nodup_singleton a,
      fun b hb c hc => by rintro rfl; exact hnot (List.mem_singleton.mp hc ▸ hb)⟩
  · change b ∈ closedServices (d.log ++ [.serviceClose a true]) at hb
    rw [hsnoc] at hb
    rcases List.mem_append.mp hb with hb | hb
    · obtain ⟨hnotin,hlt⟩ := h.closed b hb
      exact ⟨fun hin => hnotin (List.mem_of_mem_erase hin),hlt⟩
    · rw [List.mem_singleton.mp hb]
      exact ⟨fun hin => (ht.nodup.mem_erase_iff.mp hin).1 rfl,ht.lt a svc hheap⟩
  · rcases List.mem_append.mp hin with hin | hin
    · exact h.registered b c hin
    · exact (Event.serviceClose.inj (List.mem_singleton.mp hin)).2
  · exact (List.mem_append.mp hin).resolve_right (by simp)
  · exact (List.mem_append.mp hin).resolve_right (by simp)
  · -- the requests belong to the other services
    refine (ht.nodup.mem_erase_iff).mpr ⟨?_,h.pending b svc₀ hb hnq⟩
    rintro rfl
    change d.heap b = some svc₀ at hb
    rw [hheap] at hb
    exact hnq (Option.some.inj hb ▸ hquiet)
  · change d.gone = true at hg'
    rw [hg] at hg'
    cases hg'

/-- adb_service_close of a service that is registered and has no request. -/
theorem Endings.close (h : Endings d) (ht : Table d) (a : ℕ) (up : Option ApacketUv)
    (hq : Closable d a) : Endings (adbServiceClose fs uv d a up) := by
  obtain ⟨hreg,svc,ha,hquiet⟩ := hq
  have hgone : d.gone = false := by
    by_contra hne
    rw [(h.gone (by simpa using hne)).1] at hreg
    cases hreg
  obtain ⟨svc₀,ha₀,hcl⟩ := (ht.registered a).mp hreg
  obtain rfl := Option.some.inj (ha.symm.trans ha₀)
  have hunlink := h.unlink ht hgone hreg ha hquiet
  have hquietly := quietly_send_close uv (MicroADB.unlink d a) svc up
  have hsend : Endings (sendClose uv (MicroADB.unlink d a) svc up) := by
    obtain ⟨es,hlog,hes⟩ := hquietly.log
    exact hunlink.of_log hquietly.services hquietly.gone hquietly.closing hquietly.fresh.ge
      (hquietly.heap ▸ hunlink.pending) es hlog (fun e he => ending_of_plain e (hes e he))
  rcases service_close_spec fs uv d a svc up hgone hreg ha hcl with
    ⟨heq,-⟩ | ⟨svc',os,es,hend,hes,-,heq⟩
  · rw [heq]
    exact hsend
  · rw [heq]
    refine hsend.of_log rfl rfl id le_rfl (fun b svc₀ hb hnq => ?_) (.onClose a :: es) rfl
      (fun e he => ?_)
    · rw [hquietly.services]
      change Function.update d.heap a _ b = _ at hb
      by_cases hba : b = a
      · rw [hba, Function.update_self] at hb
        refine absurd ⟨?_,?_⟩ hnq
        · rw [← Option.some.inj hb, hend.writes]
          exact hquiet.1
        · rw [← Option.some.inj hb, hend.connecting]
          exact hquiet.2
      · rw [Function.update_of_ne hba] at hb
        exact (ht.nodup.mem_erase_iff).mpr ⟨hba,h.pending b svc₀ hb hnq⟩
    · rcases List.mem_cons.mp he with rfl | he
      · rfl
      · rcases (hes e he).plain with he | rfl
        · exact ending_of_plain e he
        · rfl

/-! Callbacks. -/

/-- The invariant with the table it needs. -/
structure Closing (d : Daemon ω) : Prop where
  table : d.crashed = false → Table d
  endings : Endings d

/-- A service that could not be connected has no request, and its handle is open. -/
theorem error_close_closable (h : Closing d) (hc : d.crashed = false) {a : ℕ} {svc : Service}
    (ha : d.alive a = some svc) (hk : svc.kind = .tcp .errorClose) : Closable d a := by
  have ht := h.table hc
  have hallows := (ht.wf a svc ((alive_iff _ _ _).mp ha).1).kind
  rw [hk] at hallows
  obtain ⟨-,hwrites,hconnecting,hclosing⟩ := hallows
  have hopen : svc.stream.closing = false := by
    by_contra hcl
    exact absurd (hclosing (by simpa using hcl)) (by decide)
  refine ⟨(ht.registered a).mpr ⟨svc,ha,hopen⟩,svc,ha,?_,?_⟩
  · by_contra hne
    exact absurd (hwrites hne) (by decide)
  · by_contra hcon
    have hstate := hconnecting (by simpa using hcon)
    cases hstate

theorem closing_keeps : Keeps cfg fs uv Closable Closing where
  act _ _ h ha := ⟨fun hc => (h.table (act_crashed ha hc)).act ha,h.endings.act ha⟩
  close _ a up h hc hq :=
    ⟨fun hc' => (h.table hc).close a up hc',h.endings.close (h.table hc) a up hq⟩

theorem Closing.assert (h : Closing d) : Closing (d.fault .frameCount) :=
  ⟨(fun hc => by cases hc),h.endings.of_log rfl rfl id le_rfl h.endings.pending
    [.fault .frameCount] rfl (by simp [Event.ending])⟩

theorem Closing.packet (h : Closing d) (a : ℕ) (n : ℤ) :
    Closing (setFrameCount (freePacket d a) n) :=
  ⟨fun hc => (h.table hc).of_same rfl rfl le_rfl,h.endings.of_log rfl rfl id le_rfl
    h.endings.pending [.release a] rfl (by simp [Event.ending])⟩

theorem closing_all : KeepsAll cfg fs uv Closable Closing := by
  apply closing_keeps.keeps_all
  · exact fun d a svc h hc ha hk => error_close_closable h hc ha hk
  · exact fun d h => h.assert
  · exact fun d a n h => h.packet a n

theorem closing_step : KeepsStep cfg fs uv Closable Closing where
  toKeepsAll := closing_all
  free d a svc h ha hcl hquiet := by
    refine ⟨fun hc => (h.table hc).free ha hcl,?_⟩
    have hset : Endings (d.setService a { svc with freed := true }) :=
      h.endings.set_service (fun hnq => absurd hquiet hnq)
    exact hset.of_log rfl rfl id le_rfl hset.pending [.freed a] rfl (by simp [Event.ending])

theorem on_close_gone (fs : FileSystem ω) (d : Daemon ω) (a : ℕ) :
    (onClose fs d a).gone = d.gone := by
  have hclose (d : Daemon ω) (svc : Service) : (uvCloseStream d a svc).gone = d.gone := by
    unfold uvCloseStream
    split <;> rfl
  have hfree (d : Daemon ω) (svc : Service) : (freeService d a svc).gone = d.gone := rfl
  have hdone (d : Daemon ω) (svc : Service) (c : SyncCtx ω) : (syncDone d a svc c).gone = d.gone :=
    rfl
  unfold onClose Daemon.withService
  split
  · rfl
  · dsimp only
    split
    · rw [hfree, hdone]
      rfl
    · split
      · exact hclose _ _
      · exact hfree _ _
    · exact hclose _ _

theorem service_close_gone (fs : FileSystem ω) (uv : Uv ω) (d : Daemon ω) (a : ℕ)
    (up : Option ApacketUv) : (adbServiceClose fs uv d a up).gone = d.gone := by
  unfold adbServiceClose
  dsimp only
  split
  · rfl
  · split
    · rfl
    · split
      · unfold exitFreeService Daemon.withService
        split
        · rfl
        · rename_i svc _
          have hnext (d₁ : Daemon ω) (h : d₁.gone = d.gone) :
              (d₁.next fun d => onClose fs d a).gone = d.gone := by
            unfold Daemon.next
            split
            · exact h
            · exact (on_close_gone fs d₁ a).trans h
          cases up with
          | none => exact hnext _ rfl
          | some up => exact hnext _ (quietly_send_frame uv _ _).gone
      · rfl

/-- Only the end of the client frees it. -/
theorem gone_all {Q : Daemon ω → ℕ → Prop} (b : Bool) :
    KeepsAll cfg fs uv Q (fun d => d.gone = b) := by
  have hkeeps (Q : Daemon ω → ℕ → Prop) : Keeps cfg fs uv Q (fun d => d.gone = b) := by
    refine ⟨fun d d' h ha => ?_,fun d a up h _ _ => (service_close_gone fs uv d a up).trans h⟩
    cases ha with
    | quietly _ hq => exact hq.gone.trans h
    | _ => exact h
  have hall := (hkeeps fun _ _ => True).keeps_all (fun _ _ _ _ _ _ _ => trivial)
    (fun _ h => h) (fun _ _ _ h => h)
  exact ⟨hkeeps Q,hall.release⟩

/-- Frames are received as long as the client is there. -/
theorem closing_reads :
    KeepsReads cfg fs uv Closable (fun d => Closing d ∧ d.gone = false) where
  toKeepsAll := closing_all.and (gone_all false)
  frame d d' h ha := by
    refine ⟨⟨fun hc => ?_,h.1.endings.frame h.2 ha⟩,?_⟩
    · have hcr : d.crashed = false := by cases ha <;> exact hc
      exact (h.1.table hcr).frame ha
    · cases ha <;> exact h.2
  connected d h :=
    ⟨⟨fun hc => (h.1.table hc).of_same rfl rfl le_rfl,
      h.1.endings.of_log rfl rfl id le_rfl h.1.endings.pending [] (List.append_nil _).symm (by simp)⟩,
      h.2⟩
  receives d d' h hr := by
    refine ⟨⟨fun hc => (h.1.table (hr.crashed ▸ hc)).of_same hr.services hr.heap hr.fresh.ge,?_⟩,
      hr.gone.trans h.2⟩
    have hlog : ∃ es, d'.log = d.log ++ es ∧ ∀ e ∈ es, e.ending = false := by
      rcases hr.log with hlog | ⟨bs,hlog⟩ | ⟨b,m,bs,hlog⟩
      · exact ⟨[],by simpa using hlog,by simp⟩
      · exact ⟨_,hlog,by simp [Event.ending]⟩
      · exact ⟨_,hlog,by simp [Event.ending]⟩
    obtain ⟨es,hlog,hes⟩ := hlog
    exact h.1.endings.of_log hr.services hr.gone (fun hcl => hr.socket ▸ hcl) hr.fresh.ge
      (hr.heap ▸ h.1.endings.pending) es hlog hes
  starve d h _ := by
    refine ⟨⟨fun hc => (h.1.table hc).of_same rfl rfl le_rfl,?_⟩,h.2⟩
    refine h.1.endings.of_log rfl rfl (fun hcl => ?_) le_rfl h.1.endings.pending []
      (List.append_nil _).symm (by simp)
    change d.socket.starve.closing = true
    unfold UvStream.starve
    rwa [if_pos hcl]
  bad_close d why h := by
    unfold opsClose
    split
    · have hkeeps : Keeps cfg fs uv Closable Closing := closing_keeps
      exact ⟨hkeeps.quietly h.1 (quietly_fault d _ rfl),h.2⟩
    · refine ⟨⟨fun hc => (h.1.table hc).of_same rfl rfl le_rfl,?_⟩,h.2⟩
      exact h.1.endings.of_log rfl rfl (fun _ => rfl) le_rfl h.1.endings.pending [.close why] rfl
        (by simp [Event.ending])

/-! The condition. -/

/-- The service does not take the frame. -/
def Refuses (uv : Uv ω) (d : Daemon ω) (svc : Service) : Prop :=
  match svc.kind with
  | .sync _ => False
  | .tcp state => state.index < StreamState.connected.index ∨ (uv.write d.os).2 = false
  | .shell _ => (uv.write d.os).2 = false

/-- The service that a frame closes, by CLSE or because it does not take a WRTE, has no
request that has not called back. -/
structure FrameUnpending (uv : Uv ω) (d : Daemon ω) (up : ApacketUv) : Prop where
  close : up.p.msg.command = aClse → ∀ a svc,
    adbClientFindService d up.p.msg.arg1 up.p.msg.arg0 = some a → d.heap a = some svc →
      svc.stream.Quiet
  write : up.p.msg.command = aWrte → ∀ a svc,
    adbClientFindService d up.p.msg.arg1 up.p.msg.arg0 = some a → d.heap a = some svc →
      Refuses uv d svc → svc.stream.Quiet

/-- A callback that closes a service finds no request on it but the one it is for. -/
def Unpending (cfg : Config) (fs : FileSystem ω) (uv : Uv ω) (d : Daemon ω) : Input → Prop
  | .transportRead r => ∀ up d', receive cfg fs uv d r = (some up, d') → FrameUnpending uv d' up
  | .streamRead a r => ∀ svc, d.heap a = some svc → svc.stream.active = true →
      r.Ends cfg svc.kind → svc.stream.Quiet
  | .streamWritten a fail => ∀ svc up rest, d.heap a = some svc → svc.stream.writes = up :: rest →
      fail = true → rest = []
  | .transportClosed => d.socket.closing = true → d.socket.writes = [] → d.gone = false →
      ∀ a svc, d.heap a = some svc → svc.stream.Quiet
  | _ => True

/-- A frame that a service refuses leaves it as it was. -/
theorem on_write_refused (cfg : Config) (fs : FileSystem ω) (uv : Uv ω) (d : Daemon ω) (a : ℕ)
    (svc : Service) (up : ApacketUv) (ha : d.alive a = some svc)
    (hcl : svc.stream.closing = false) (h : (onWriteFrame cfg fs uv d a up).1 < 0) :
    (onWriteFrame cfg fs uv d a up).2.2.services = d.services ∧
      (∃ svc', (onWriteFrame cfg fs uv d a up).2.2.alive a = some svc' ∧
        svc'.stream = svc.stream) ∧
      ((∃ s, svc.kind = .sync s) ∨ Refuses uv d svc) := by
  have hfreed := ((alive_iff _ _ _).mp ha).2
  have hwrite (h : (serviceWrite uv (d.emit (.onWrite a)) a svc up).1 < 0) :
      (serviceWrite uv (d.emit (.onWrite a)) a svc up).2.services = d.services ∧
      (∃ svc', (serviceWrite uv (d.emit (.onWrite a)) a svc up).2.alive a = some svc' ∧
        svc'.stream = svc.stream) ∧ (uv.write d.os).2 = false := by
    unfold serviceWrite at h ⊢
    rw [if_neg (by simp [hcl])] at h ⊢
    dsimp only at h ⊢
    split
    · rename_i hok
      rw [if_pos hok] at h
      change (1 : ℤ) < 0 at h
      omega
    · rename_i hok
      exact ⟨rfl,⟨svc,ha,rfl⟩,by simpa [Daemon.emit] using hok⟩
  unfold onWriteFrame at h ⊢
  rw [ha] at h ⊢
  dsimp only at h ⊢
  split
  · rename_i s hk
    exact ⟨rfl,⟨_,set_service_alive _ a _ hfreed,rfl⟩,Or.inl ⟨s,hk⟩⟩
  · rename_i state hk
    rw [hk] at h
    dsimp only at h
    unfold atcpStreamOnWrite at h ⊢
    split
    · rename_i hidx
      refine ⟨rfl,⟨svc,ha,rfl⟩,Or.inr ?_⟩
      rw [Refuses, hk]
      exact Or.inl hidx
    · rename_i hidx
      rw [if_neg hidx] at h
      obtain ⟨hs,hsvc,hfail⟩ := hwrite h
      refine ⟨hs,hsvc,Or.inr ?_⟩
      rw [Refuses, hk]
      exact Or.inr hfail
  · rename_i waitAck hk
    rw [hk] at h
    obtain ⟨hs,hsvc,hfail⟩ := hwrite h
    refine ⟨hs,hsvc,Or.inr ?_⟩
    rw [Refuses, hk]
    exact hfail

/-- Only a sync service refuses an OKAY. -/
theorem on_ack_refused (cfg : Config) (fs : FileSystem ω) (d : Daemon ω) (a : ℕ)
    (svc : Service) (up : ApacketUv) (ha : d.alive a = some svc)
    (hcl : svc.stream.closing = false) (h : (onAckFrame cfg fs d a up).1 < 0) :
    (onAckFrame cfg fs d a up).2.2.services = d.services ∧
      (∃ svc', (onAckFrame cfg fs d a up).2.2.alive a = some svc' ∧
        svc'.stream = svc.stream) ∧ ∃ s, svc.kind = .sync s := by
  have hfreed := ((alive_iff _ _ _).mp ha).2
  unfold onAckFrame at h ⊢
  rw [ha] at h ⊢
  dsimp only at h ⊢
  split
  · rename_i s hk
    exact ⟨rfl,⟨_,set_service_alive _ a _ hfreed,rfl⟩,s,hk⟩
  · rename_i state hk
    rw [hk] at h
    dsimp only at h
    unfold atcpStreamOnAck at h
    split at h
    · simp [hcl] at h
    · change (0 : ℤ) < 0 at h
      omega
  · rename_i waitAck hk
    rw [hk] at h
    change (0 : ℤ) < 0 at h
    omega

/-! Runs that meet the condition. -/

/-- A registered service is alive and its handle is open. -/
theorem Table.find (ht : Table d) {a : ℕ} (hreg : a ∈ d.services) :
    ∃ svc, d.alive a = some svc ∧ d.heap a = some svc ∧ svc.stream.closing = false := by
  obtain ⟨svc,ha,hcl⟩ := (ht.registered a).mp hreg
  exact ⟨svc,ha,((alive_iff _ _ _).mp ha).1,hcl⟩

theorem sync_quiet {svc : Service} (hw : svc.Wf) (hk : ∃ s, svc.kind = .sync s) :
    svc.stream.Quiet := by
  obtain ⟨s,hk⟩ := hk
  have hallows := hw.kind
  rw [hk] at hallows
  exact hallows.2.2

/-- A socket that is being connected has not been written to. -/
theorem writes_connected {svc : Service} (hw : svc.Wf) (h : svc.stream.writes ≠ []) :
    svc.stream.connecting = false := by
  have hallows := hw.kind
  cases hk : svc.kind with
  | sync s =>
    rw [hk] at hallows
    exact hallows.2.2.2
  | tcp state =>
    rw [hk] at hallows
    by_contra hcon
    have hidx := hallows.2.1 h
    rw [hallows.2.2.1 (by simpa using hcon)] at hidx
    exact absurd hidx (by decide)
  | shell waitAck =>
    rw [hk] at hallows
    exact hallows.2

theorem update_peer_id_spec (d : Daemon ω) (a peerId : ℕ) (svc : Service)
    (ha : d.alive a = some svc) : (updatePeerId d a peerId).services = d.services ∧
      ∃ svc', (updatePeerId d a peerId).alive a = some svc' ∧ svc'.stream = svc.stream ∧
        svc'.kind = svc.kind := by
  unfold updatePeerId Daemon.withService
  rw [ha]
  dsimp only
  split
  · exact ⟨rfl,_,set_service_alive d a _ ((alive_iff _ _ _).mp ha).2,rfl,rfl⟩
  · exact ⟨rfl,svc,ha,rfl,rfl⟩

theorem frame_closable (d : Daemon ω) (up : ApacketUv) (ht : Table d)
    (h : FrameUnpending uv d up) : FrameCloses cfg fs uv Closable d up where
  close hcmd a hfind := by
    have hreg := (find_service_spec d _ _ a hfind).1
    obtain ⟨svc,ha,hheap,-⟩ := ht.find hreg
    exact ⟨hreg,svc,ha,h.close hcmd a svc hfind hheap⟩
  write hcmd a hfind hc hlt := by
    have hreg := (find_service_spec d _ _ a hfind).1
    obtain ⟨svc,ha,hheap,hcl⟩ := ht.find hreg
    obtain ⟨hs,⟨svc',ha',hstream⟩,hcase⟩ := on_write_refused cfg fs uv d a svc up ha hcl hlt
    refine ⟨hs ▸ hreg,svc',ha',hstream ▸ ?_⟩
    rcases hcase with hsync | hrefuses
    · exact sync_quiet (ht.wf a svc hheap) hsync
    · exact h.write hcmd a svc hfind hheap hrefuses
  okay hcmd a d' hfind hd' hc hlt := by
    subst hd'
    have hreg := (find_service_spec d _ _ a hfind).1
    obtain ⟨svc,ha,hheap,hcl⟩ := ht.find hreg
    obtain ⟨hs,svc₁,ha₁,hstream₁,hkind₁⟩ := update_peer_id_spec d a up.p.msg.arg0 svc ha
    obtain ⟨hs',⟨svc',ha',hstream⟩,hsync⟩ :=
      on_ack_refused cfg fs _ a svc₁ up ha₁ (hstream₁ ▸ hcl) hlt
    have hquiet := sync_quiet (ht.wf a svc hheap) (hkind₁ ▸ hsync)
    refine ⟨?_,svc',ha',?_⟩
    · rw [hs', hs]
      exact hreg
    · rw [hstream, hstream₁]
      exact hquiet

/-- No request is left in memory. -/
def AllQuiet (d : Daemon ω) : Prop := ∀ a svc, d.heap a = some svc → svc.stream.Quiet

theorem AllQuiet.set_service (h : AllQuiet d) {a : ℕ} {svc' : Service}
    (hq : svc'.stream.Quiet) : AllQuiet (d.setService a svc') := by
  intro b svc hb
  by_cases hba : b = a
  · subst hba
    rw [Daemon.set_service_heap, Function.update_self] at hb
    exact Option.some.inj hb ▸ hq
  · rw [Daemon.set_service_heap, Function.update_of_ne hba] at hb
    exact h b svc hb

theorem quiet_keeps :
    Keeps cfg fs uv Closable (fun d => Closing d ∧ AllQuiet d ∧ d.socket.closing = true) where
  act d d' h ha := by
    have hkeeps : Keeps cfg fs uv Closable Closing := closing_keeps
    refine ⟨hkeeps.act _ _ h.1 ha,?_⟩
    cases ha with
    | quietly _ hq => exact ⟨fun b svc hb => h.2.1 b svc (hq.heap ▸ hb),hq.closing h.2.2⟩
    | service a svc svc' ha hc =>
      exact ⟨h.2.1.set_service (hc.quiet (h.2.1 a svc ((alive_iff _ _ _).mp ha).1)),h.2.2⟩
    | _ => exact h.2
  close d a up h hc hq := by
    have hkeeps : Keeps cfg fs uv Closable Closing := closing_keeps
    have hclosing := hkeeps.close d a up h.1 hc hq
    obtain ⟨hreg,svc,ha,hquiet⟩ := hq
    have hgone : d.gone = false := by
      by_contra hne
      rw [(h.1.endings.gone (by simpa using hne)).1] at hreg
      cases hreg
    obtain ⟨svc₀,ha₀,-,hcl⟩ := (h.1.table hc).find hreg
    obtain rfl := Option.some.inj (ha.symm.trans ha₀)
    have hquietly := quietly_send_close uv (unlink d a) svc up
    refine ⟨hclosing,?_⟩
    rcases service_close_spec fs uv d a svc up hgone hreg ha hcl with
      ⟨heq,-⟩ | ⟨svc',os,es,hend,-,-,heq⟩
    · rw [heq]
      exact ⟨fun b svc hb => h.2.1 b svc (hquietly.heap ▸ hb),hquietly.closing h.2.2⟩
    · rw [heq]
      refine ⟨?_,hquietly.closing h.2.2⟩
      have hset : AllQuiet (d.setService a svc') :=
        h.2.1.set_service ⟨hend.writes.trans hquiet.1,hend.connecting.trans hquiet.2⟩
      exact hset

theorem quiet_close : KeepsClose cfg fs uv Closable
    (fun d => Closing d ∧ AllQuiet d ∧ d.socket.closing = true) where
  toKeepsAll := by
    apply quiet_keeps.keeps_all
    · exact fun d a svc h hc ha hk => error_close_closable h.1 hc ha hk
    · exact fun d h => ⟨h.1.assert,h.2⟩
    · exact fun d a n h => ⟨h.1.packet a n,h.2⟩
  drop d h := ⟨⟨fun hc => (h.1.table hc).of_same rfl rfl le_rfl,h.1.endings.of_log rfl rfl id le_rfl
    h.1.endings.pending [] (List.append_nil _).symm (by simp)⟩,h.2⟩
  free_client d h hc hs := by
    refine ⟨⟨fun hc => (h.1.table hc).of_same rfl rfl le_rfl,?_⟩,h.2⟩
    have hlog := closed_append d.log [.clientFreed] (by simp [Event.ending])
    have hmem (e : Event) (he : e.ending = true) (hin : e ∈ d.log ++ [.clientFreed]) : e ∈ d.log := by
      refine (List.mem_append.mp hin).resolve_right (fun hin => ?_)
      rw [List.mem_singleton.mp hin] at he
      cases he
    have hend := h.1.endings
    exact ⟨hlog ▸ hend.nodup,fun a ha => hend.closed a (hlog ▸ ha),
      fun a b hin => hend.registered a b (hmem _ rfl hin),fun a hin => hend.found a (hmem _ rfl hin),
      fun hin => hend.next (hmem _ rfl hin),hend.pending,fun _ => ⟨hs,h.2.2⟩⟩

/-- While the transport is read, the client is there. -/
theorem Closing.reading (h : Closing d) (hw : d.socket.Wf) (hact : d.socket.active = true) :
    d.gone = false := by
  by_contra hne
  have hcl := (h.endings.gone (by simpa using hne)).2
  have hoff := (hw.closing hcl).1
  rw [hact] at hoff
  cases hoff

/-- The services that a callback closes, kicks apart, are registered and have no request. -/
theorem closing_closes (i : Input) (ht : Table d) (h : Closing d) (hc : Unpending cfg fs uv d i) :
    StepCloses cfg Closable Closing d i := by
  cases i with
  | streamRead a r =>
    intro svc ha hact hends d' s h' hcr' ha' hw hcon hcl
    have hheap := ((alive_iff _ _ _).mp ha).1
    have hquiet := hc svc hheap hact hends
    have hopen : svc.stream.closing = false := by
      by_contra hne
      have hoff := ((ht.wf a svc hheap).stream.closing (by simpa using hne)).1
      rw [hact] at hoff
      cases hoff
    exact ⟨((h'.table hcr').registered a).mpr ⟨_,ha',hcl.trans hopen⟩,_,ha',
      hw.trans hquiet.1,hcon.trans hquiet.2⟩
  | streamWritten a fail =>
    intro svc up rest ha hw hfail
    obtain ⟨hheap,hfreed⟩ := (alive_iff _ _ _).mp ha
    have hpending : svc.stream.writes ≠ [] := by simp [hw]
    -- only a registered service has a request
    have hreg := h.endings.pending a svc hheap (fun hquiet => hpending hquiet.1)
    have hconnected : svc.stream.connecting = false :=
      writes_connected (ht.wf a svc hheap) hpending
    exact ⟨hreg,_,set_service_alive d a _ hfreed,hc svc up rest hheap hw hfail,hconnected⟩
  | connected a fail =>
    intro svc state ha hcon hk d' h' hcr' ha'
    exact error_close_closable h' hcr' ha' rfl
  | _ => trivial

theorem closing_callback (i : Input) (hs : Sound cfg uv [] d) (h : Closing d)
    (hc : Unpending cfg fs uv d i) : Closing (step cfg fs uv d i) := by
  by_cases hrun : d.crashed = true
  · unfold step
    rwa [if_pos hrun]
  have ht := h.table (by simpa using hrun)
  have hkeeps : KeepsStep cfg fs uv Closable Closing := closing_step
  refine hkeeps.step i h (fun r hi hcr hact => ?_) (fun hi hcr hcl hw hg => ?_)
    (fun _ => ht.wf) (closing_closes i ht h hc)
  · subst hi
    have hgone := h.reading (hs.running hcr).2.socketWf hact
    have hreads : KeepsReads cfg fs uv Closable (fun d => Closing d ∧ d.gone = false) :=
      closing_reads
    have hreceive := hreads.receive r ⟨h,hgone⟩
    refine (hreads.transport_read r ⟨h,hgone⟩ (fun up d' hr hcr' => ?_)).1
    rw [hr] at hreceive
    have ht : Table (d'.emit (.handed d'.isConnected up.p.msg up.p.payload)) :=
      (hreceive.1.table hcr').of_same rfl rfl le_rfl
    have hun := hc up d' hr
    exact frame_closable _ _ ht ⟨hun.close,hun.write⟩
  · subst hi
    have hclose : KeepsClose cfg fs uv Closable
        (fun d => Closing d ∧ AllQuiet d ∧ d.socket.closing = true) := quiet_close
    refine (hclose.uv_close_client ⟨h,hc hcl hw hg,hcl⟩ hcr
      (fun d' a rest h' hcr' hserv => ⟨?_,fun hcr'' => ?_⟩)).1
    · have hreg : a ∈ d'.services := hserv ▸ List.mem_cons_self
      obtain ⟨svc,ha,hheap,-⟩ := (h'.1.table hcr').find hreg
      exact ⟨hreg,svc,ha,h'.2.1 a svc hheap⟩
    · exact service_close_first (h'.1.table hcr') none hserv hcr''

/-- What adb_service_close is meant to be called for. -/
structure ClosedOnce (log : List Event) : Prop where
  nodup : (closedServices log).Nodup
  registered : ∀ a b, Event.serviceClose a b ∈ log → b = true
  found : ∀ a, Event.notFound a ∉ log
  next : Event.fault .nullNext ∉ log

theorem closing_start (token : List UInt8) (os : ω) : Closing (daemonStart token os) :=
  ⟨fun _ => table_start token os,⟨List.nodup_nil,by simp [daemonStart, closedServices],
    by simp [daemonStart],by simp [daemonStart],by simp [daemonStart],by simp [daemonStart],
    by simp [daemonStart]⟩⟩

/-- In a run that leaves no request on a service it closes, every service is closed once at
most, while it is registered. -/
theorem services_closed_once (cfg : Config) (fs : FileSystem ω) (uv : Uv ω)
    (token : List UInt8) (os : ω) (is : List Input)
    (h : Along (step cfg fs uv) (Unpending cfg fs uv) (daemonStart token os) is) :
    ClosedOnce (daemonRun cfg fs uv token os is).log := by
  have hrun : Sound cfg uv [] (daemonRun cfg fs uv token os is) ∧
      Closing (daemonRun cfg fs uv token os is) :=
    run_invariant_along (step cfg fs uv) (fun d => Sound cfg uv [] d ∧ Closing d)
      (Unpending cfg fs uv)
      (fun _ i hd hc => ⟨sound_callback i hd.1,closing_callback i hd.1 hd.2 hc⟩)
      _ ⟨sound_start token os,closing_start token os⟩ is h
  have hend := hrun.2.endings
  exact ⟨hend.nodup,hend.registered,hend.found,hend.next⟩

/-- A frame of the host without a payload, or with one of bytes bs. -/
def hostFrame (command arg0 arg1 : ℕ) (bs : List UInt8) : List Input :=
  let p : Apacket :=
    ⟨0,⟨command,arg0,arg1,bs.length,0,0⟩,store (fun _ => 0) 0 bs⟩
  .transportRead (.data p.seal.msg.bytes) ::
    if bs = [] then [] else [.transportRead (.data bs)]

/-- No registered service has a request that has not called back. -/
def quietServices (d : Daemon ω) : Bool :=
  d.services.all fun a => (d.heap a).all fun svc => decide svc.stream.Quiet

theorem unpending_read (d : Daemon ω) (r : ReadResult)
    (h : quietServices (receive cfg fs uv d r).2 = true) :
    Unpending cfg fs uv d (.transportRead r) := by
  intro up d' hr
  rw [hr] at h
  have hquiet (id peerId a : ℕ) (svc : Service) (ha : adbClientFindService d' id peerId = some a)
      (hsvc : d'.heap a = some svc) : svc.stream.Quiet := by
    have hall := List.all_eq_true.mp h a (find_service_spec d' id peerId a ha).1
    simpa [hsvc] using hall
  exact ⟨fun _ a svc ha hsvc => hquiet _ _ a svc ha hsvc,
    fun _ a svc ha hsvc _ => hquiet _ _ a svc ha hsvc⟩

/-- A shell is opened and closed. -/
def shellClosed : List Input :=
  hostFrame aOpen 77 0 (ascii "shell:") ++ hostFrame aClse 77 1 []

theorem services_closed_once_shell :
    Along (step defaultConfig emptyFs plainUv) (Unpending defaultConfig emptyFs plainUv)
      (daemonStart [] ()) shellClosed ∧
    ClosedOnce (daemonRun defaultConfig emptyFs plainUv [] () shellClosed).log := by
  have halong : Along (step defaultConfig emptyFs plainUv)
      (Unpending defaultConfig emptyFs plainUv) (daemonStart [] ()) shellClosed :=
    ⟨unpending_read _ _ (by decide +kernel),unpending_read _ _ (by decide +kernel),
      unpending_read _ _ (by decide +kernel),trivial⟩
  exact ⟨halong,services_closed_once defaultConfig emptyFs plainUv [] () shellClosed halong⟩

/-- A shell takes a WRTE, is closed by a CLSE, and libuv reports the write as cancelled. -/
def shellClosedTwice : List Input :=
  hostFrame aOpen 77 0 (ascii "shell:") ++ hostFrame aWrte 77 1 [0] ++
    hostFrame aClse 77 1 [] ++ [.streamWritten 1 true]

theorem pending_write_closes_again :
    ¬ClosedOnce (daemonRun defaultConfig emptyFs plainUv [] () shellClosedTwice).log := by
  intro h
  exact h.next (by decide +kernel)

end MicroADB
