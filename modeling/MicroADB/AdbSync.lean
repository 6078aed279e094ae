import MicroADB.AdbDestroy
import MicroADB.AdbStreamStep
import MicroADB.FileSyncResources
import MicroADB.FileSyncServer
import MicroADB.FileSyncTrace

/-! The sync services of a client. They share the file system with each other and with the rest of
the program, and each of them still has the history of a service: it keeps to what its requests
allow, and gives back what it takes. -/
namespace MicroADB
open ByteMemory EventRun Monitor

variable {ω : Type} {cfg : Config} {fs : FileSystem ω} {uv : Uv ω} {d d' : Daemon ω}

/-! The trace. -/

/-- A call of the sync service at a. -/
def syncCall (a : ℕ) : Event → Option SyncEvent
  | .sync b e => if b = a then some e else none
  | _ => none

def syncCalls (a : ℕ) (log : List Event) : List SyncEvent := log.filterMap (syncCall a)

/-- The events that are no calls of a sync service. -/
def Event.outside : Event → Bool
  | .sync .. => false
  | _ => true

theorem sync_calls_append (a : ℕ) (l es : List Event) :
    syncCalls a (l ++ es) = syncCalls a l ++ syncCalls a es := List.filterMap_append

theorem sync_calls_outside (a : ℕ) {es : List Event} (h : ∀ e ∈ es, e.outside = true) :
    syncCalls a es = [] := by
  refine List.filterMap_eq_nil_iff.mpr (fun e he => ?_)
  have ho := h e he
  cases e <;> first | rfl | cases ho

theorem sync_calls_self (a : ℕ) (l : List SyncEvent) : syncCalls a (l.map (.sync a)) = l := by
  unfold syncCalls
  rw [List.filterMap_map]
  exact (List.filterMap_congr fun e _ => if_pos rfl).trans List.filterMap_some

theorem sync_calls_other {a b : ℕ} (h : b ≠ a) (l : List SyncEvent) :
    syncCalls a (l.map (.sync b)) = [] := by
  refine List.filterMap_eq_nil_iff.mpr (fun e he => ?_)
  obtain ⟨e',_,rfl⟩ := List.mem_map.mp he
  exact if_neg h

theorem Logs.sync_calls (h : Logs (fun e => e.outside = true) d d') (a : ℕ) :
    syncCalls a d'.log = syncCalls a d.log := by
  obtain ⟨es,hlog,hes⟩ := h
  rw [hlog, sync_calls_append, sync_calls_outside a hes, List.append_nil]

/-! The invariant. -/

/-- The sync services have histories, and a handle that is never closed. -/
structure Synced (cfg : Config) (fs : FileSystem ω) (d : Daemon ω) : Prop where
  fresh : ∀ a svc, d.heap a = some svc → a < d.fresh
  history : ∀ a svc s, d.heap a = some svc → svc.kind = .sync s →
    SyncHistory cfg fs s (syncCalls a d.log)
  closing : ∀ a svc s, d.heap a = some svc → svc.kind = .sync s → svc.stream.closing = false
  freed : ∀ a svc s, d.heap a = some svc → svc.kind = .sync s → svc.freed = true →
    s.state = .waitCmd
  silent : ∀ a, (∀ svc, d.heap a = some svc → ¬svc.kind.IsSync) → syncCalls a d.log = []

/-- A change of a service that leaves a sync service what it was. -/
def Alike (svc svc' : Service) : Prop :=
  (svc'.kind = svc.kind ∧ svc'.stream.closing = svc.stream.closing ∧ svc'.freed = svc.freed) ∨
    ¬svc.kind.IsSync ∧ ¬svc'.kind.IsSync

theorem Alike.kind {svc svc' : Service} (h : Alike svc svc') (s : AfsService) :
    svc'.kind = .sync s ↔ svc.kind = .sync s := by
  rcases h with ⟨hk,-⟩ | ⟨hn,hn'⟩
  · rw [hk]
  · exact iff_of_false (fun hk => hn' (by rw [hk]; trivial)) (fun hk => hn (by rw [hk]; trivial))

theorem synced_start (token : List UInt8) (os : ω) : Synced cfg fs (daemonStart token os) where
  fresh _ _ h := by cases h
  history _ _ _ h := by cases h
  closing _ _ _ h := by cases h
  freed _ _ _ h := by cases h
  silent _ _ := rfl

/-- A move beside the services. -/
theorem Synced.beside (h : Synced cfg fs d) (hh : d'.heap = d.heap) (hf : d.fresh ≤ d'.fresh)
    (hlog : Logs (fun e => e.outside = true) d d') : Synced cfg fs d' where
  fresh a svc ha := (h.fresh a svc (hh ▸ ha)).trans_le hf
  history a svc s ha hk := by
    rw [hlog.sync_calls a]
    exact h.history a svc s (hh ▸ ha) hk
  closing a svc s ha hk := h.closing a svc s (hh ▸ ha) hk
  freed a svc s ha hk := h.freed a svc s (hh ▸ ha) hk
  silent a ha := by
    rw [hlog.sync_calls a]
    exact h.silent a (hh ▸ ha)

/-- A move that changes one service. -/
theorem Synced.set_service (h : Synced cfg fs d) {a : ℕ} {svc svc' : Service}
    (ha : d.heap a = some svc) (hs : Alike svc svc') : Synced cfg fs (d.setService a svc') := by
  have hcases (b : ℕ) (svc'' : Service) (hb : (d.setService a svc').heap b = some svc'') :
      b = a ∧ svc'' = svc' ∨ d.heap b = some svc'' := by
    rw [Daemon.set_service_heap] at hb
    by_cases hba : b = a
    · subst hba
      rw [Function.update_self] at hb
      exact Or.inl ⟨rfl,(Option.some.inj hb).symm⟩
    · rw [Function.update_of_ne hba] at hb
      exact Or.inr hb
  have hsame (s : AfsService) (hk : svc'.kind = .sync s) :
      svc'.stream.closing = svc.stream.closing ∧ svc'.freed = svc.freed := by
    rcases hs with ⟨-,hcl,hf⟩ | ⟨-,hn⟩
    · exact ⟨hcl,hf⟩
    · exact absurd (by rw [hk]; trivial) hn
  refine ⟨fun b svc'' hb => ?_,fun b svc'' s hb hk => ?_,fun b svc'' s hb hk => ?_,
    fun b svc'' s hb hk hf => ?_,fun b hb => ?_⟩
  · rcases hcases b svc'' hb with ⟨rfl,-⟩ | hb
    · exact h.fresh b svc ha
    · exact h.fresh b svc'' hb
  · rcases hcases b svc'' hb with ⟨rfl,rfl⟩ | hb
    · exact h.history b svc s ha ((hs.kind s).mp hk)
    · exact h.history b svc'' s hb hk
  · rcases hcases b svc'' hb with ⟨rfl,rfl⟩ | hb
    · exact (hsame s hk).1.trans (h.closing b svc s ha ((hs.kind s).mp hk))
    · exact h.closing b svc'' s hb hk
  · rcases hcases b svc'' hb with ⟨rfl,rfl⟩ | hb
    · exact h.freed b svc s ha ((hs.kind s).mp hk) ((hsame s hk).2 ▸ hf)
    · exact h.freed b svc'' s hb hk hf
  · refine h.silent b (fun svc'' hb'' hsync => ?_)
    by_cases hba : b = a
    · subst hba
      obtain rfl := Option.some.inj (ha.symm.trans hb'')
      cases hk : svc.kind with
      | sync s =>
        refine hb svc' (Function.update_self _ _ _) ?_
        rw [(hs.kind s).mpr hk]
        trivial
      | _ =>
        rw [hk] at hsync
        cases hsync
    · exact hb svc'' ((Function.update_of_ne hba _ _).trans hb'') hsync

/-- The service at a makes the calls of a callback, and is s' behind them. -/
theorem Synced.calls (h : Synced cfg fs d) {a : ℕ} {svc : Service} {s : AfsService}
    (svc' : Service) (s' : AfsService) (l : List SyncEvent) (ha : d.heap a = some svc)
    (hk : svc.kind = .sync s)
    (hk' : svc'.kind = .sync s') (hcl : svc'.stream.closing = svc.stream.closing)
    (hf : svc'.freed = true → s'.state = .waitCmd)
    (hs : ∀ l', SyncHistory cfg fs s l' → SyncHistory cfg fs s' (l' ++ l))
    (hh : d'.heap = Function.update d.heap a (some svc')) (hfresh : d'.fresh = d.fresh)
    (hself : syncCalls a d'.log = syncCalls a d.log ++ l)
    (hother : ∀ b, b ≠ a → syncCalls b d'.log = syncCalls b d.log) : Synced cfg fs d' := by
  have hcases (b : ℕ) (svc'' : Service) (hb : d'.heap b = some svc'') :
      b = a ∧ svc'' = svc' ∨ b ≠ a ∧ d.heap b = some svc'' := by
    rw [hh] at hb
    by_cases hba : b = a
    · subst hba
      rw [Function.update_self] at hb
      exact Or.inl ⟨rfl,(Option.some.inj hb).symm⟩
    · rw [Function.update_of_ne hba] at hb
      exact Or.inr ⟨hba,hb⟩
  refine ⟨fun b svc'' hb => ?_,fun b svc'' s'' hb hk'' => ?_,fun b svc'' s'' hb hk'' => ?_,
    fun b svc'' s'' hb hk'' hfr => ?_,fun b hb => ?_⟩
  · rw [hfresh]
    rcases hcases b svc'' hb with ⟨rfl,-⟩ | ⟨-,hb⟩
    · exact h.fresh b svc ha
    · exact h.fresh b svc'' hb
  · rcases hcases b svc'' hb with ⟨rfl,rfl⟩ | ⟨hba,hb⟩
    · rw [hk'] at hk''
      cases hk''
      rw [hself]
      exact hs _ (h.history b svc s ha hk)
    · rw [hother b hba]
      exact h.history b svc'' s'' hb hk''
  · rcases hcases b svc'' hb with ⟨rfl,rfl⟩ | ⟨-,hb⟩
    · exact hcl.trans (h.closing b svc s ha hk)
    · exact h.closing b svc'' s'' hb hk''
  · rcases hcases b svc'' hb with ⟨rfl,rfl⟩ | ⟨-,hb⟩
    · rw [hk'] at hk''
      cases hk''
      exact hf hfr
    · exact h.freed b svc'' s'' hb hk'' hfr
  · have hba : b ≠ a := by
      rintro rfl
      refine hb svc' (by rw [hh]; exact Function.update_self _ _ _) ?_
      rw [hk']
      trivial
    rw [hother b hba]
    refine h.silent b (fun svc'' hb'' => hb svc'' ?_)
    rw [hh]
    exact (Function.update_of_ne hba _ _).trans hb''

theorem Synced.sync_done (h : Synced cfg fs d) {a : ℕ} {svc : Service} {s : AfsService}
    {c : SyncCtx ω} (ha : d.alive a = some svc) (hk : svc.kind = .sync s)
    (hcall : SyncCall cfg fs s c) : Synced cfg fs (syncDone d a svc c) := by
  obtain ⟨hheap,hf⟩ := (alive_iff _ _ _).mp ha
  refine h.calls { svc with kind := .sync c.svc } c.svc c.log hheap hk rfl rfl (fun hfr => ?_)
    (fun l' hl => hl.call hcall) rfl rfl ?_ (fun b hb => ?_)
  · rw [hf] at hfr
    cases hfr
  · exact (sync_calls_append a _ _).trans (by rw [sync_calls_self])
  · exact (sync_calls_append b _ _).trans (by rw [sync_calls_other hb.symm, List.append_nil])

theorem Synced.registered (h : Synced cfg fs d) {svc : Service} (peerId : ℕ)
    (params : ServiceParams) (hc : Constructed svc) :
    Synced cfg fs (registerService d svc peerId params).2 := by
  have hnew : ∀ svc', d.heap d.fresh ≠ some svc' :=
    fun svc' ha => lt_irrefl _ (h.fresh d.fresh svc' ha)
  have hlog (b : ℕ) : syncCalls b (registerService d svc peerId params).2.log =
      syncCalls b d.log :=
    Logs.sync_calls ⟨[.opened d.fresh params],rfl,by simp [Event.outside]⟩ b
  have hcases (b : ℕ) (svc' : Service)
      (hb : (registerService d svc peerId params).2.heap b = some svc') :
      b = d.fresh ∧ svc' = { svc with id := d.nextServiceId, peerId := peerId } ∨
        d.heap b = some svc' := by
    change Function.update d.heap d.fresh _ b = _ at hb
    by_cases hba : b = d.fresh
    · subst hba
      rw [Function.update_self] at hb
      exact Or.inl ⟨rfl,(Option.some.inj hb).symm⟩
    · rw [Function.update_of_ne hba] at hb
      exact Or.inr hb
  refine ⟨fun b svc' hb => ?_,fun b svc' s hb hk => ?_,fun b svc' s hb hk => ?_,
    fun b svc' s hb hk hf => ?_,fun b hb => ?_⟩
  · change b < d.fresh+1
    rcases hcases b svc' hb with ⟨rfl,-⟩ | hb
    · exact Nat.lt_succ_self _
    · exact (h.fresh b svc' hb).trans (Nat.lt_succ_self _)
  · rw [hlog]
    rcases hcases b svc' hb with ⟨rfl,rfl⟩ | hb
    · obtain ⟨raw,rfl⟩ := hc.afs s hk
      rw [h.silent d.fresh (fun svc' ha => absurd ha (hnew svc'))]
      exact .start raw
    · exact h.history b svc' s hb hk
  · rcases hcases b svc' hb with ⟨-,rfl⟩ | hb
    · exact hc.closing
    · exact h.closing b svc' s hb hk
  · rcases hcases b svc' hb with ⟨-,rfl⟩ | hb
    · exact absurd hf (by simp [hc.freed])
    · exact h.freed b svc' s hb hk hf
  · rw [hlog]
    refine h.silent b (fun svc' hb' => hb svc' ?_)
    have hba : b ≠ d.fresh := by
      rintro rfl
      exact hnew svc' hb'
    change Function.update d.heap d.fresh _ b = _
    rw [Function.update_of_ne hba, hb']

/-! Moves. -/

theorem outside_idle {e : Event} (h : e.idle = true) : e.outside = true := by
  cases e <;> first | rfl | cases h

theorem logs_send (uv : Uv ω) (d : Daemon ω) (up : ApacketUv) :
    Logs (fun e => e.outside = true) d (sendFrame uv d up) := by
  obtain ⟨ok,es,hlog,hes⟩ := send_frame_log uv d up
  refine ⟨_,hlog,fun e he => ?_⟩
  rcases List.mem_cons.mp he with rfl | he
  · rfl
  · rcases hes e he with rfl | rfl <;> rfl

theorem Synced.emit (h : Synced cfg fs d) (e : Event) (he : e.outside = true) :
    Synced cfg fs (d.emit e) := h.beside rfl le_rfl ((Logs.refl _ d).emit he)

theorem Synced.fault (h : Synced cfg fs d) (f : Fault) : Synced cfg fs (d.fault f) :=
  h.beside rfl le_rfl ⟨[.fault f],rfl,by simp [Event.outside]⟩

theorem Synced.send (h : Synced cfg fs d) (uv : Uv ω) (up : ApacketUv) :
    Synced cfg fs (sendFrame uv d up) :=
  have hq := quietly_send_frame uv d up
  h.beside hq.heap hq.fresh.ge (logs_send uv d up)

theorem Synced.ops_close (h : Synced cfg fs d) (why : CloseReason) :
    Synced cfg fs (opsClose d why) := by
  obtain ⟨e,hlog,he⟩ := ops_close_log d why
  refine h.beside ?_ ?_ ⟨[e],hlog,?_⟩
  · unfold opsClose
    split <;> rfl
  · unfold opsClose
    split <;> exact le_rfl
  · rintro e' he'
    obtain rfl := List.mem_singleton.mp he'
    rcases he with rfl | rfl <;> rfl

theorem alike_of_not_sync {svc svc' : Service} (h : ¬svc.kind.IsSync) (hk : svc'.kind = svc.kind) :
    Alike svc svc' := Or.inr ⟨h,hk ▸ h⟩

theorem Synced.free (h : Synced cfg fs d) {a : ℕ} {svc : Service} (ha : d.heap a = some svc)
    (hn : ¬svc.kind.IsSync) : Synced cfg fs (freeService d a svc) := by
  have hset : Synced cfg fs (d.setService a { svc with freed := true }) :=
    h.set_service ha (alike_of_not_sync hn rfl)
  exact hset.emit (.freed a) rfl

/-- on_close of a sync service is the end of its history, and frees it. -/
theorem Synced.ended (h : Synced cfg fs d) {a : ℕ} {svc : Service} {s : AfsService}
    (ha : d.heap a = some svc) (hk : svc.kind = .sync s) (c : SyncCtx ω)
    (hc : c = fileSyncOnClose fs ⟨s,default,d.os,[]⟩) :
    Synced cfg fs (freeService (syncDone (d.emit (.onClose a)) a svc c) a
      { svc with kind := .sync c.svc }) := by
  have hcalls (b : ℕ) :
      syncCalls b (d.log ++ .onClose a :: (c.log.map (.sync a) ++ [.freed a])) =
        syncCalls b d.log ++ syncCalls b (c.log.map (.sync a)) := by
    have hout : syncCalls b [.freed a] = [] := rfl
    rw [sync_calls_append]
    refine congrArg (syncCalls b d.log ++ ·) ?_
    exact (sync_calls_append b _ _).trans (by rw [hout, List.append_nil])
  have hstate : c.svc.state = .waitCmd := by
    rw [hc, fileSyncOnClose, state_reset_svc]
  have hend (l : List SyncEvent) (hl : SyncHistory cfg fs s l) :
      SyncHistory cfg fs c.svc (l ++ c.log) := by
    rw [hc]
    exact hl.close default d.os
  have he : freeService (syncDone (d.emit (.onClose a)) a svc c) a { svc with kind := .sync c.svc } =
      { d with
        heap := Function.update d.heap a (some { svc with kind := .sync c.svc, freed := true })
        os := c.os
        log := d.log ++ .onClose a :: (c.log.map (.sync a) ++ [.freed a]) } := by
    rw [free_service_eq]
    simp only [syncDone, Daemon.setOs, Daemon.setService, Daemon.emit, Function.update_idem,
      List.append_assoc, List.cons_append, List.nil_append]
  rw [he]
  refine h.calls { svc with kind := .sync c.svc, freed := true } c.svc c.log ha hk rfl rfl
    (fun _ => hstate) hend rfl rfl ?_ (fun b hb => ?_)
  · exact (hcalls a).trans (by rw [sync_calls_self])
  · exact (hcalls b).trans (by rw [sync_calls_other hb.symm, List.append_nil])

theorem Synced.on_close (h : Synced cfg fs d) {a : ℕ} {svc : Service}
    (ha : d.alive a = some svc) : Synced cfg fs (onClose fs d a) := by
  obtain ⟨hheap,-⟩ := (alive_iff _ _ _).mp ha
  have hemit := h.emit (.onClose a) rfl
  have hstream (hn : ¬svc.kind.IsSync) :
      Synced cfg fs (uvCloseStream (d.emit (.onClose a)) a svc) := by
    unfold uvCloseStream
    split
    · exact hemit.fault _
    · exact hemit.set_service hheap (alike_of_not_sync hn rfl)
  unfold onClose Daemon.withService
  rw [ha]
  dsimp only
  split
  · rename_i s hk
    exact h.ended hheap hk _ rfl
  · rename_i state hk
    have hn : ¬svc.kind.IsSync := by
      rw [hk]
      exact id
    split
    · exact hstream hn
    · exact hemit.free hheap hn
  · rename_i waitAck hk
    exact hstream (by rw [hk]; exact id)

theorem Synced.service_close (h : Synced cfg fs d) (uv : Uv ω) {a : ℕ} {svc : Service}
    (up : Option ApacketUv) (hreg : a ∈ d.services) (ha : d.alive a = some svc)
    (hg : d.gone = false) : Synced cfg fs (adbServiceClose fs uv d a up) := by
  have hunlink : Synced cfg fs (unlink d a) :=
    h.beside rfl le_rfl ⟨[.serviceClose a true],rfl,by simp [Event.outside]⟩
  have hq := quietly_send_close uv (unlink d a) svc up
  have hsend : Synced cfg fs (sendClose uv (unlink d a) svc up) := by
    cases up with
    | none => exact hunlink
    | some up => exact hunlink.send uv _
  rw [service_close_listed fs uv d a svc up hg hreg ha]
  unfold Daemon.next
  split
  · exact hsend
  · exact Synced.on_close hsend (alive_of_heap hq.heap ha)

theorem Shift.alike {svc svc' : Service} (h : Shift svc svc') : Alike svc svc' := by
  cases h with
  | adopt peerId _ => exact Or.inl ⟨rfl,rfl,rfl⟩
  | exit _ _ => exact Or.inl ⟨rfl,rfl,rfl⟩
  | starve hact =>
    refine Or.inl ⟨rfl,?_,rfl⟩
    unfold UvStream.starve
    split <;> rfl
  | start hk => exact alike_of_not_sync (by rw [hk]; exact id) (socket_start_same svc).2.2
  | kick waitAck hk => exact alike_of_not_sync (by rw [hk]; exact id) (shell_kick_same svc _).2.2
  | stop hk => exact alike_of_not_sync (by rw [hk]; exact id) rfl
  | notify hk => exact Or.inr ⟨by rw [hk]; exact id,id⟩
  | fail hk => exact Or.inr ⟨by rw [hk]; exact id,id⟩

theorem acked_not_sync {svc : Service} (h : ¬svc.kind.IsSync) : ¬svc.acked.kind.IsSync := by
  unfold Service.acked
  split
  · exact h
  · rw [(socket_start_same _).2.2]
    exact id
  · exact h
  · rw [(shell_kick_same _ _).2.2]
    exact id

theorem Move.synced {x y : Option ℕ × Daemon ω} (h : Move cfg fs uv x y)
    (hs : Synced cfg fs x.2) : Synced cfg fs y.2 := by
  cases h with
  | unmoved hu =>
    obtain ⟨es,hlog,hes⟩ := hu.log
    exact hs.beside hu.heap hu.fresh.ge ⟨es,hlog,fun e he => outside_idle (hes e he)⟩
  | crash es hes =>
    refine hs.beside rfl le_rfl ⟨es,rfl,?_⟩
    rcases hes with ⟨f,-,-,rfl⟩ | ⟨a,rfl⟩ <;> simp [Event.outside]
  | badRelease b _ => exact hs.fault _
  | halt _ => exact hs
  | close why => exact hs.ops_close why
  | @alloc d cap init =>
    exact hs.beside rfl (Nat.le_succ _) ⟨[.alloc d.fresh],rfl,by simp [Event.outside]⟩
  | release b n => exact hs.beside rfl le_rfl ⟨[.release b],rfl,by simp [Event.outside]⟩
  | send up _ _ _ => exact hs.send uv up
  | shift ha hsh => exact hs.set_service ((alive_iff _ _ _).mp ha).1 hsh.alike
  | register peerId params hc _ _ _ => exact hs.registered peerId params hc
  | @writes h d a _ => exact hs.emit (.onWrite a) rfl
  | @written h d a svc s _ ha hk c hcall => exact (hs.emit (.onWrite a) rfl).sync_done ha hk hcall
  | @kept d a svc up os ha hk _ =>
    have hn : ¬svc.kind.IsSync := by
      intro hsync
      cases hkind : svc.kind with
      | sync s => rw [hkind] at hk; exact hk
      | _ => rw [hkind] at hsync; exact hsync
    have hemit : Synced cfg fs ((d.setOs os).emit (.kept a up.addr)) :=
      hs.beside rfl le_rfl ⟨[.kept a up.addr],rfl,by simp [Event.outside]⟩
    exact hemit.set_service ((alive_iff _ _ _).mp ha).1 (alike_of_not_sync hn rfl)
  | @acked h d a svc _ ha hn =>
    exact (hs.emit (.onAck a) rfl).set_service ((alive_iff _ _ _).mp ha).1 (Or.inr ⟨hn,acked_not_sync hn⟩)
  | @ackedSync h d a svc s _ ha hk c hcall => exact (hs.emit (.onAck a) rfl).sync_done ha hk hcall
  | okay up _ _ _ _ => exact hs.send uv up
  | @connect d a svc up ha hk _ _ =>
    have hstart := (socket_start_same { svc with kind := .tcp .connected }).2.2
    refine (hs.set_service ((alive_iff _ _ _).mp ha).1 (Or.inr ⟨?_,?_⟩)).send uv up
    · rw [hk]
      exact id
    · rw [hstart]
      exact id
  | closed up _ hreg ha _ hg _ => exact hs.service_close uv up hreg ha hg

theorem StepMove.synced {x y : Option ℕ × Daemon ω} (h : StepMove cfg fs uv x y)
    (hs : Synced cfg fs x.2) : Synced cfg fs y.2 := by
  have hsame {d d' : Daemon ω} (hd : Synced cfg fs d) (hh : d'.heap = d.heap)
      (hf : d'.fresh = d.fresh) (hlog : d'.log = d.log) : Synced cfg fs d' :=
    hd.beside hh hf.ge ⟨[],hlog.trans (List.append_nil _).symm,by simp⟩
  cases h with
  | move hm => exact hm.synced hs
  | pop _ => exact hsame hs rfl rfl rfl
  | @reply d up rest _ _ =>
    have hpop : Synced cfg fs (d.setSocket { d.socket with writes := rest }) :=
      hsame hs rfl rfl rfl
    exact hpop.send uv _
  | popStream ha _ => exact hs.set_service ((alive_iff _ _ _).mp ha).1 (Or.inl ⟨rfl,rfl,rfl⟩)
  | handed _ => exact hsame hs rfl rfl rfl
  | keep ap _ => exact hsame hs rfl rfl rfl
  | @releaseCur d ap _ n =>
    exact hs.beside rfl le_rfl ⟨[.release ap.addr],rfl,by simp [Event.outside]⟩
  | badCur _ _ => exact hs.fault _
  | dropCur => exact hsame hs rfl rfl rfl
  | dropped b => exact hs
  | @free d a svc ha hcl _ =>
    obtain ⟨hheap,-⟩ := (alive_iff _ _ _).mp ha
    have hn : ¬svc.kind.IsSync := by
      intro hsync
      cases hk : svc.kind with
      | sync s =>
        have hopen := hs.closing a svc s hheap hk
        rw [hcl] at hopen
        cases hopen
      | _ => rw [hk] at hsync; exact hsync
    exact hs.free hheap hn
  | gone _ => exact hs.beside rfl le_rfl ⟨[.clientFreed],rfl,by simp [Event.outside]⟩

theorem StepMoves.synced {x y : Option ℕ × Daemon ω} (h : StepMoves cfg fs uv x y)
    (hs : Synced cfg fs x.2) : Synced cfg fs y.2 := by
  induction h with
  | refl => exact hs
  | tail _ hlast ih => exact hlast.synced ih

theorem Fed.synced {a : ℕ} {bs : List UInt8} {x y : Option ℕ × Daemon ω} (h : Fed uv a bs x y)
    (hs : Synced cfg fs x.2) : Synced cfg fs y.2 := by
  cases h with
  | fed up ha hfill _ _ _ _ _ =>
    refine (hs.set_service ((alive_iff _ _ _).mp ha).1 ?_).send uv up
    cases hfill with
    | tcp hk => exact Or.inr ⟨by rw [hk]; exact id,id⟩
    | shell hk => exact Or.inr ⟨by rw [hk]; exact id,id⟩

theorem Returned.synced {a : ℕ} (h : Returned uv a d d') (hs : Synced cfg fs d) :
    Synced cfg fs d' := by
  cases h with
  | @returned svc up rest ha _ _ =>
    have hset : Synced cfg fs
        (d.setService a { svc with stream := { svc.stream with writes := rest } }) :=
      hs.set_service ((alive_iff _ _ _).mp ha).1 (Or.inl ⟨rfl,rfl,rfl⟩)
    exact hset.send uv _

theorem Answering.synced {a : ℕ} {x y : Option ℕ × Daemon ω} (h : Answering uv a x y)
    (hs : Synced cfg fs x.2) : Synced cfg fs y.2 := by
  cases h with
  | replied up _ _ _ _ => exact hs.send uv up

theorem Continued.synced {a : ℕ} {x y : Option ℕ × Daemon ω} (h : Continued cfg fs uv a x y)
    (hs : Synced cfg fs x.2) : Synced cfg fs y.2 := by
  cases h with
  | continued c up _ ha hk _ _ hcall =>
    exact ((hs.emit (.onAck a) rfl).sync_done ha hk hcall).send uv up

/-- A callback of libuv. -/
theorem Synced.step (h : Synced cfg fs d) (i : Input) (ht : d.crashed = false → Table d) :
    Synced cfg fs (MicroADB.step cfg fs uv d i) := by
  cases step_stepped cfg fs uv i ht with
  | moves _ _ hm => exact hm.synced h
  | fed a bs x _ _ hm hf => exact hf.synced (hm.synced h)
  | returned a _ _ hr => exact hr.synced h
  | replied a x _ _ _ hm hf => exact hf.synced (hm.synced h)
  | continued a x _ _ hm hf => exact hf.synced (hm.synced h)

/-! The end of the client. -/

/-- A client that was freed has no services left. -/
structure Emptied (d : Daemon ω) : Prop where
  closing : d.socket.closing = true
  services : d.gone = true → d.services = []

theorem emptied_all : KeepsAll cfg fs uv (fun _ _ => True) Emptied := by
  have hkeeps : Keeps cfg fs uv (fun _ _ => True) Emptied := by
    refine ⟨fun d d' h ha => ?_,fun d a up h _ _ => ?_⟩
    · cases ha with
      | quietly _ hq =>
        exact ⟨hq.closing h.closing,fun hg => hq.services.trans (h.services (hq.gone ▸ hg))⟩
      | _ => exact ⟨h.closing,h.services⟩
    · refine ⟨(aside_service_close (c := False) fs uv d a up).closing h.closing,fun hg => ?_⟩
      have hgone := (service_close_gone fs uv d a up).symm.trans hg
      obtain ⟨b,es,heq,-⟩ := service_close_other fs uv d a up (Or.inl hgone)
      rw [heq]
      exact h.services hgone
  exact hkeeps.keeps_all (fun _ _ _ _ _ _ _ => trivial) (fun _ h => ⟨h.closing,h.services⟩)
    (fun _ _ _ h => ⟨h.closing,h.services⟩)

theorem emptied_step : KeepsStep cfg fs uv (fun _ _ => True) Emptied :=
  ⟨emptied_all,fun _ _ _ h _ _ _ => ⟨h.closing,h.services⟩⟩

theorem emptied_close : KeepsClose cfg fs uv (fun _ _ => True) Emptied :=
  ⟨emptied_all,fun _ h => ⟨h.closing,h.services⟩,fun _ h _ hs => ⟨h.closing,fun _ => hs⟩⟩

theorem gone_emptied_step (fs : FileSystem ω) (i : Input) (hs : Sound cfg uv [] d)
    (h : d.gone = true → Emptied d) (hg : (step cfg fs uv d i).gone = true) :
    Emptied (step cfg fs uv d i) := by
  cases hc : d.crashed with
  | true =>
    rw [show step cfg fs uv d i = d from if_pos hc] at hg ⊢
    exact h hg
  | false =>
    obtain ⟨htable,hread⟩ := hs.running hc
    by_cases hi : i = .transportClosed
    · subst hi
      have hstep : step cfg fs uv d .transportClosed =
          if d.socket.closing = true ∧ d.socket.writes = [] ∧ d.gone = false then
            adbUvCloseClient cfg fs uv d else d := if_neg (by simp [hc])
      rw [hstep] at hg ⊢
      split at hg
      · rename_i hcl
        rw [if_pos hcl]
        have hopen : Emptied d := ⟨hcl.1,fun hgone => by rw [hcl.2.2] at hgone; cases hgone⟩
        have hclose : KeepsClose cfg fs uv (fun _ _ => True)
            (fun d => Sound cfg uv [] d ∧ Emptied d) := sound_close.and emptied_close
        exact (hclose.uv_close_client ⟨hs,hopen⟩ hc
          (destroy_true _ (fun _ hd hc => (hd.1.running hc).1))).2
      · rename_i hcl
        rw [if_neg hcl]
        exact h hg
    · have hgone : d.gone = true := (step_gone i hs hi).symm.trans hg
      refine emptied_step.step i (h hgone) (fun r _ _ hact => ?_) (fun hclosed => absurd hclosed hi)
        (fun _ => htable.wf) (step_closes_true _ d i)
      rw [(hread.socketWf.closing (h hgone).closing).1] at hact
      cases hact

/-! Runs. -/

/-- What holds of the sync services in every run. -/
structure Syncing (cfg : Config) (fs : FileSystem ω) (uv : Uv ω) (d : Daemon ω) : Prop where
  flowing : Flowing cfg uv d
  synced : Synced cfg fs d
  emptied : d.gone = true → Emptied d

theorem syncing_run (cfg : Config) (fs : FileSystem ω) (uv : Uv ω) (token : List UInt8) (os : ω)
    (is : List Input) : Syncing cfg fs uv (daemonRun cfg fs uv token os is) :=
  run_invariant _ (Syncing cfg fs uv)
    (fun _ i h => ⟨h.flowing.step i,h.synced.step i h.flowing.table,
      gone_emptied_step fs i h.flowing.sound h.emptied⟩) _
    ⟨flowing_start cfg uv token os,synced_start token os,fun h => by cases h⟩ is

theorem doing_callbacks (cfg : Config) (fs : FileSystem ω) : SyncCallbacks cfg fs (Doing cfg) :=
  ⟨doing_write cfg fs,doing_ack cfg fs,fun _ h => h.reset⟩

theorem resources_idle {s : AfsService} (h : s.state = .waitCmd) : s.resources = 0 := by
  rw [AfsService.resources, h]

/-- The sync service at a: its calls are calls of the server, which is at the job of the service's
state; those on files are what its requests allow; and what it holds is determined by its state. -/
structure SyncServed (cfg : Config) (d : Daemon ω) (a : ℕ) : Prop where
  serves : ∃ job, follow (serve cfg) .idle (syncCalls a d.log) = some job ∧
    ∀ svc s, d.heap a = some svc → svc.kind = .sync s → job = s.job
  granted : Granted cfg (syncCalls a d.log)
  held : ∀ svc s, d.heap a = some svc → svc.kind = .sync s →
    heldBy (syncCalls a d.log) = some s.resources ∧ (svc.freed = true → s.resources = 0)
  released : d.crashed = false → d.gone = true → heldBy (syncCalls a d.log) = some 0

theorem Synced.serves (h : Synced cfg fs d) (a : ℕ) :
    ∃ job, follow (serve cfg) .idle (syncCalls a d.log) = some job ∧
      ∀ svc s, d.heap a = some svc → svc.kind = .sync s → job = s.job := by
  by_cases hsync : ∃ svc s, d.heap a = some svc ∧ svc.kind = .sync s
  · obtain ⟨svc,s,ha,hk⟩ := hsync
    have hdoing : Doing cfg s (syncCalls a d.log) :=
      (doing_callbacks cfg fs).history (fun _ => doing_idle (Or.inl rfl) rfl)
        (h.history a svc s ha hk)
    refine ⟨s.job,hdoing.job,fun svc' s' ha' hk' => ?_⟩
    obtain rfl := Option.some.inj (ha.symm.trans ha')
    rw [ServiceKind.sync.inj (hk.symm.trans hk')]
  · have hnil := h.silent a (fun svc ha hs => by
      cases hk : svc.kind with
      | sync s => exact hsync ⟨svc,s,ha,hk⟩
      | _ => rw [hk] at hs; exact hs)
    rw [hnil]
    exact ⟨.idle,rfl,fun svc s ha hk => absurd ⟨svc,s,ha,hk⟩ hsync⟩

theorem Synced.held (h : Synced cfg fs d) {a : ℕ} {svc : Service} {s : AfsService}
    (ha : d.heap a = some svc) (hk : svc.kind = .sync s) :
    heldBy (syncCalls a d.log) = some s.resources ∧ (svc.freed = true → s.resources = 0) := by
  have hbalanced : Balanced s (syncCalls a d.log) :=
    (balanced_invariant cfg fs).callbacks.history (fun _ => rfl) (h.history a svc s ha hk)
  exact ⟨hbalanced,fun hf => resources_idle (h.freed a svc s ha hk hf)⟩

theorem Syncing.released (h : Syncing cfg fs uv d) (hc : d.crashed = false) (hg : d.gone = true)
    (a : ℕ) : heldBy (syncCalls a d.log) = some 0 := by
  by_cases hsync : ∃ svc s, d.heap a = some svc ∧ svc.kind = .sync s
  · obtain ⟨svc,s,ha,hk⟩ := hsync
    obtain ⟨hres,hfreed⟩ := h.synced.held ha hk
    have hf : svc.freed = true := by
      by_contra hf
      -- a service that is alive is in the list, which is empty
      have hreg := ((h.flowing.table hc).registered a).mpr
        ⟨svc,(alive_iff _ _ _).mpr ⟨ha,by simpa using hf⟩,h.synced.closing a svc s ha hk⟩
      rw [(h.emptied hg).services hg] at hreg
      cases hreg
    rw [hres, hfreed hf]
  · have hnil := h.synced.silent a (fun svc ha hs => by
      cases hk : svc.kind with
      | sync s => exact hsync ⟨svc,s,ha,hk⟩
      | _ => rw [hk] at hs; exact hs)
    rw [hnil]
    rfl

theorem Syncing.served (h : Syncing cfg fs uv d) (a : ℕ) : SyncServed cfg d a := by
  obtain ⟨job,hfollow,hjob⟩ := h.synced.serves a
  exact ⟨⟨job,hfollow,hjob⟩,follow_granted hfollow,fun _ _ => h.synced.held,
    fun hc hg => h.released hc hg a⟩

/-- Each sync service of a client serves its requests, whatever the others do: its calls are calls
of the server, which is at the job of the service's state, and those on files are what the requests
allow. -/
theorem sync_services_serve (cfg : Config) (fs : FileSystem ω) (uv : Uv ω) (token : List UInt8)
    (os : ω) (is : List Input) (a : ℕ) :
    (∃ job, follow (serve cfg) .idle (syncCalls a (daemonRun cfg fs uv token os is).log) =
        some job ∧
      ∀ svc s, (daemonRun cfg fs uv token os is).heap a = some svc → svc.kind = .sync s →
        job = s.job) ∧
      Granted cfg (syncCalls a (daemonRun cfg fs uv token os is).log) :=
  have hserved := (syncing_run cfg fs uv token os is).served a
  ⟨hserved.serves,hserved.granted⟩

/-- What each sync service of a client holds is determined by its state, and nothing is held any
more when the service has been freed, or the client. -/
theorem sync_services_release (cfg : Config) (fs : FileSystem ω) (uv : Uv ω) (token : List UInt8)
    (os : ω) (is : List Input) :
    (∀ a svc s, (daemonRun cfg fs uv token os is).heap a = some svc → svc.kind = .sync s →
      heldBy (syncCalls a (daemonRun cfg fs uv token os is).log) = some s.resources ∧
        (svc.freed = true → s.resources = 0)) ∧
      ((daemonRun cfg fs uv token os is).crashed = false →
        (daemonRun cfg fs uv token os is).gone = true →
        ∀ a, heldBy (syncCalls a (daemonRun cfg fs uv token os is).log) = some 0) :=
  have hserved := (syncing_run cfg fs uv token os is).served
  ⟨fun a => (hserved a).held,fun hc hg a => (hserved a).released hc hg⟩

end MicroADB
