import MicroADB.AdbService

/-! The packets of a client: frame_count against the packets that are live, and the
readers that wait for one. -/
namespace MicroADB
open ByteMemory EventRun

variable {ω : Type} {cfg : Config} {fs : FileSystem ω} {uv : Uv ω} {d d' : Daemon ω}

/-! What the trace says about packets. -/

def Event.pool : Event → Bool
  | .alloc _ | .refused | .outOfMemory | .release _ | .fault .frameCount => true
  | _ => false

/-- The packets that have been allocated and not released. -/
def liveAfter (log : List Event) : ℤ :=
  (log.map fun e => match e with | .alloc _ => (1:ℤ) | .release _ => -1 | _ => 0).sum

theorem pool_of_plain (e : Event) (h : e.plain = true) : e.pool = false := by
  cases e with
  | fault f => cases f <;> first | rfl | simp [Event.plain] at h
  | _ => first | rfl | simp [Event.plain] at h

theorem liveAfter_snoc (l : List Event) (e : Event) (h : e.pool = false) :
    liveAfter (l ++ [e]) = liveAfter l := by
  rw [liveAfter, List.map_append, List.sum_append]
  cases e <;> first | exact add_zero _ | cases h

theorem refused_snoc (l : List Event) (e : Event) (h : e.pool = false) :
    refusedSinceRelease (l ++ [e]) = refusedSinceRelease l := by
  rw [refusedSinceRelease, List.foldl_append]
  cases e <;> first | rfl | cases h

/-! The counter. -/

/-- The counter and the packets that are live, also at every moment of the trace. -/
structure Pool (cfg : Config) (uv : Uv ω) (d : Daemon ω) : Prop where
  nodup : d.live.Nodup
  lt : ∀ a ∈ d.live, a < d.fresh
  exact : refusedSinceRelease d.log = false →
    d.frameCount = d.live.length ∧ d.live.length ≤ cfg.frameMax
  full : refusedSinceRelease d.log = true →
    d.frameCount = cfg.frameMax+1 ∧ d.live.length = cfg.frameMax
  count : liveAfter d.log = d.live.length
  peak : ∀ l, l <+: d.log → liveAfter l ≤ cfg.frameMax
  asserted : Event.fault .frameCount ∉ d.log
  memory : Event.outOfMemory ∈ d.log → ∃ s, (uv.packetMalloc s).2 = none

theorem Pool.length_le (h : Pool cfg uv d) : d.live.length ≤ cfg.frameMax := by
  cases hr : refusedSinceRelease d.log with
  | false => exact (h.exact hr).2
  | true => exact (h.full hr).2.le

theorem Pool.emit (h : Pool cfg uv d) (e : Event) (he : e.pool = false) :
    Pool cfg uv (d.emit e) := by
  have hne (f : Event) (hf : f.pool = true) (hmem : f ∈ d.log ++ [e]) : f ∈ d.log := by
    rcases List.mem_append.mp hmem with hmem | hmem
    · exact hmem
    · rw [List.mem_singleton.mp hmem, he] at hf
      cases hf
  have hr := refused_snoc d.log e he
  have hl := liveAfter_snoc d.log e he
  refine ⟨h.nodup,h.lt,fun h' => h.exact (hr.symm.trans h'),fun h' => h.full (hr.symm.trans h'),
    hl.trans h.count,fun l hpre => ?_,fun hmem => h.asserted (hne _ rfl hmem),
    fun hmem => h.memory (hne _ rfl hmem)⟩
  rcases List.prefix_concat_iff.mp hpre with rfl | hpre
  · exact hl.le.trans (h.peak _ (List.prefix_refl _))
  · exact h.peak l hpre

/-- What the pool does not look at. -/
theorem Pool.of_same (h : Pool cfg uv d) (hl : d'.live = d.live) (hf : d'.frameCount = d.frameCount)
    (hfresh : d.fresh ≤ d'.fresh) (hlog : d'.log = d.log) : Pool cfg uv d' := by
  refine ⟨hl ▸ h.nodup,fun a ha => (h.lt a (hl ▸ ha)).trans_le hfresh,?_,?_,?_,?_,?_,?_⟩
  · rw [hlog, hl, hf]
    exact h.exact
  · rw [hlog, hl, hf]
    exact h.full
  · rw [hlog, hl]
    exact h.count
  · rw [hlog]
    exact h.peak
  · rw [hlog]
    exact h.asserted
  · rw [hlog]
    exact h.memory

theorem Pool.of_log (h : Pool cfg uv d) (hl : d'.live = d.live) (hf : d'.frameCount = d.frameCount)
    (hfresh : d.fresh ≤ d'.fresh) (es : List Event) (hlog : d'.log = d.log ++ es)
    (hes : ∀ e ∈ es, e.pool = false) : Pool cfg uv d' := by
  have hpool : Pool cfg uv { d with log := d.log ++ es } := by
    clear hlog
    induction es using List.reverseRecOn with
    | nil => simpa using h
    | append_singleton es e ih =>
      have hrest := ih (fun e' he' => hes e' (List.mem_append_left _ he'))
      have hsnoc := hrest.emit e (hes e (List.mem_append_right _ (List.mem_singleton_self e)))
      simpa [Daemon.emit, List.append_assoc] using hsnoc
  exact hpool.of_same hl hf hfresh hlog

theorem Pool.alloc (h : Pool cfg uv d) (cap : ℕ) (init : ℕ × Mem)
    (hlt : d.frameCount < cfg.frameMax) : Pool cfg uv (newPacket d cap init).2 := by
  have hr : refusedSinceRelease d.log = false := by
    by_contra hr
    have hfull := (h.full (by simpa using hr)).1
    omega
  obtain ⟨hfc,hle⟩ := h.exact hr
  have hr' : refusedSinceRelease (d.log ++ [.alloc d.fresh]) = false := by
    rw [refusedSinceRelease, List.foldl_append]
    exact hr
  have hlive : liveAfter (d.log ++ [.alloc d.fresh]) = liveAfter d.log+1 := by
    rw [liveAfter, List.map_append, List.sum_append]
    rfl
  have hcount : liveAfter (d.log ++ [.alloc d.fresh]) = (d.fresh :: d.live).length := by
    rw [hlive, h.count, List.length_cons]
    push_cast
    rfl
  have hlen : (d.fresh :: d.live).length ≤ cfg.frameMax := by
    rw [List.length_cons]
    omega
  refine ⟨List.nodup_cons.mpr ⟨fun hmem => lt_irrefl _ (h.lt _ hmem),h.nodup⟩,fun a ha => ?_,
    fun _ => ⟨?_,hlen⟩,fun h' => ?_,hcount,fun l hpre => ?_,fun hmem => h.asserted ?_,
    fun hmem => h.memory ?_⟩
  · change a < d.fresh+1
    rcases List.mem_cons.mp ha with rfl | ha
    · omega
    · have hlt := h.lt a ha
      omega
  · change d.frameCount+1 = ((d.fresh :: d.live).length : ℤ)
    rw [hfc, List.length_cons]
    push_cast
    rfl
  · change refusedSinceRelease (d.log ++ [.alloc d.fresh]) = true at h'
    rw [hr'] at h'
    cases h'
  · rcases List.prefix_concat_iff.mp hpre with rfl | hpre
    · rw [hcount]
      exact_mod_cast hlen
    · exact h.peak l hpre
  · simpa [newPacket] using hmem
  · simpa [newPacket] using hmem

theorem Pool.refuse (h : Pool cfg uv d) (hle : cfg.frameMax ≤ d.frameCount) :
    Pool cfg uv (refuse cfg d) := by
  have hlen : d.live.length = cfg.frameMax := by
    cases hr : refusedSinceRelease d.log with
    | false =>
      obtain ⟨hfc,hlen⟩ := h.exact hr
      omega
    | true => exact (h.full hr).2
  have hr' : refusedSinceRelease (d.log ++ [.refused]) = true := by
    rw [refusedSinceRelease, List.foldl_append]
    rfl
  have hlive : liveAfter (d.log ++ [.refused]) = liveAfter d.log := by
    rw [liveAfter, List.map_append, List.sum_append]
    exact add_zero _
  refine ⟨h.nodup,h.lt,fun h' => ?_,fun _ => ⟨rfl,hlen⟩,hlive.trans h.count,fun l hpre => ?_,
    fun hmem => h.asserted ?_,fun hmem => h.memory ?_⟩
  · change refusedSinceRelease (d.log ++ [.refused]) = false at h'
    rw [hr'] at h'
    cases h'
  · rcases List.prefix_concat_iff.mp hpre with rfl | hpre
    · rw [hlive]
      exact h.peak _ (List.prefix_refl _)
    · exact h.peak l hpre
  · simpa [MicroADB.refuse] using hmem
  · simpa [MicroADB.refuse] using hmem

/-- A release, with the counter at the number of packets that stay. -/
theorem Pool.free (h : Pool cfg uv d) {a : ℕ} (ha : a ∈ d.live) {n : ℤ}
    (hn : n = (d.live.length : ℤ)-1) : Pool cfg uv (setFrameCount (freePacket d a) n) := by
  have hlen : (d.live.erase a).length+1 = d.live.length := by
    have hpos := List.length_pos_of_mem ha
    rw [List.length_erase_of_mem ha]
    omega
  have hle := h.length_le
  have hr' : refusedSinceRelease (d.log ++ [.release a]) = false := by
    rw [refusedSinceRelease, List.foldl_append]
    rfl
  have hlive : liveAfter (d.log ++ [.release a]) = liveAfter d.log-1 := by
    rw [liveAfter, List.map_append, List.sum_append]
    rfl
  have hcount : liveAfter (d.log ++ [.release a]) = (d.live.erase a).length := by
    rw [hlive, h.count]
    omega
  refine ⟨h.nodup.erase a,fun b hb => h.lt b (List.mem_of_mem_erase hb),fun _ => ⟨?_,?_⟩,
    fun h' => ?_,hcount,fun l hpre => ?_,fun hmem => h.asserted ?_,fun hmem => h.memory ?_⟩
  · change n = ((d.live.erase a).length : ℤ)
    omega
  · change (d.live.erase a).length ≤ cfg.frameMax
    omega
  · change refusedSinceRelease (d.log ++ [.release a]) = true at h'
    rw [hr'] at h'
    cases h'
  · rcases List.prefix_concat_iff.mp hpre with rfl | hpre
    · rw [hcount]
      omega
    · exact h.peak l hpre
  · simpa [setFrameCount, freePacket] using hmem
  · simpa [setFrameCount, freePacket] using hmem

theorem Pool.act (h : Pool cfg uv d) (ha : Act cfg uv d d') : Pool cfg uv d' := by
  cases ha with
  | quietly _ hq =>
    obtain ⟨es,hlog,hes⟩ := hq.log
    exact h.of_log hq.live hq.frameCount hq.fresh.ge es hlog
      (fun e he => pool_of_plain e (hes e he))
  | alloc cap init hlt => exact h.alloc cap init hlt
  | refuse hle => exact h.refuse hle
  | outOfMemory hnone =>
    have hr' : refusedSinceRelease (d.log ++ [.outOfMemory]) = refusedSinceRelease d.log := by
      rw [refusedSinceRelease, List.foldl_append]
      rfl
    have hlive : liveAfter (d.log ++ [.outOfMemory]) = liveAfter d.log := by
      rw [liveAfter, List.map_append, List.sum_append]
      exact add_zero _
    refine ⟨h.nodup,h.lt,fun h' => h.exact (hr'.symm.trans h'),fun h' => h.full (hr'.symm.trans h'),
      hlive.trans h.count,fun l hpre => ?_,fun hmem => h.asserted (by simpa using hmem),
      fun _ => ⟨_,hnone⟩⟩
    rcases List.prefix_concat_iff.mp hpre with rfl | hpre
    · rw [hlive]
      exact h.peak _ (List.prefix_refl _)
    · exact h.peak l hpre
  | service a svc svc' _ _ => exact h.of_same rfl rfl le_rfl rfl

theorem Pool.frame (h : Pool cfg uv d) (ha : FrameAct d d') : Pool cfg uv d' := by
  cases ha with
  | push a svc up _ _ _ _ => exact h.of_same rfl rfl le_rfl rfl
  | register svc peerId params _ =>
    exact h.of_log rfl rfl (Nat.le_succ _) [.opened d.fresh params] rfl (by simp [Event.pool])
  | serviceId n => exact h.of_same rfl rfl le_rfl rfl
  | reboot target => exact h.emit _ rfl
  | reached a e _ he =>
    rcases he with rfl | rfl
    · exact h.emit _ rfl
    · exact h.emit _ rfl

/-! The readers. -/

/-- Who was stopped for the lack of a packet, apart from the services of the list rest,
was refused one since the last release. -/
structure Readers (rest : List ℕ) (d : Daemon ω) : Prop where
  socketWf : d.socket.Wf
  socket : d.socket.starved = true → Short d.log
  service : ∀ a svc, a ∈ d.services → d.heap a = some svc → svc.stream.starved = true →
    Short d.log ∨ a ∈ rest

theorem short_append (l es : List Event) (h : Short l) (hes : ∀ e ∈ es, e.pool = false) :
    Short (l ++ es) := by
  induction es using List.reverseRecOn with
  | nil => simpa using h
  | append_singleton es e ih =>
    have hrest := ih (fun e' he' => hes e' (List.mem_append_left _ he'))
    have he := hes e (List.mem_append_right _ (List.mem_singleton_self e))
    rw [← List.append_assoc]
    rcases hrest with hr | hm
    · exact Or.inl ((refused_snoc _ e he).trans hr)
    · exact Or.inr (List.mem_append_left _ hm)

variable {rest : List ℕ}

theorem Readers.of_log (h : Readers rest d) (hw : d.socket.Wf → d'.socket.Wf)
    (hst : d'.socket.starved = true → d.socket.starved = true)
    (hserv : ∀ a svc, a ∈ d'.services → d'.heap a = some svc → a ∈ d.services ∧
      (svc.stream.starved = true →
        (∃ svc₀, d.heap a = some svc₀ ∧ svc₀.stream.starved = true) ∨ Short d.log))
    (es : List Event) (hlog : d'.log = d.log ++ es) (hes : ∀ e ∈ es, e.pool = false) :
    Readers rest d' := by
  have hshort (hs : Short d.log) : Short d'.log := hlog ▸ short_append _ es hs hes
  refine ⟨hw h.socketWf,fun hs => hshort (h.socket (hst hs)),fun a svc ha hh hs => ?_⟩
  obtain ⟨hreg,hcase⟩ := hserv a svc ha hh
  rcases hcase hs with ⟨svc₀,hh₀,hs₀⟩ | hs₀
  · exact (h.service a svc₀ hreg hh₀ hs₀).imp_left hshort
  · exact Or.inl (hshort hs₀)

/-- One service is changed, without starving for a new reason. -/
theorem Readers.set_service (h : Readers rest d) {a : ℕ} {svc svc' : Service}
    (ha : d.heap a = some svc)
    (hst : svc'.stream.starved = true → svc.stream.starved = true ∨ Short d.log) :
    Readers rest (d.setService a svc') := by
  refine h.of_log id id (fun b svc₀ hreg hh => ?_) [] (List.append_nil _).symm (by simp)
  by_cases hba : b = a
  · subst hba
    rw [Daemon.set_service_heap, Function.update_self] at hh
    obtain rfl := Option.some.inj hh
    exact ⟨hreg,fun hs => (hst hs).imp_left (fun hs₀ => ⟨svc,ha,hs₀⟩)⟩
  · rw [Daemon.set_service_heap, Function.update_of_ne hba] at hh
    exact ⟨hreg,fun hs => Or.inl ⟨svc₀,hh,hs⟩⟩

theorem Readers.act (h : Readers rest d) (ha : Act cfg uv d d') :
    Readers rest d' := by
  have hsame (a : ℕ) (svc : Service) (hreg : a ∈ d.services) (hh : d.heap a = some svc) :
      a ∈ d.services ∧ (svc.stream.starved = true →
        (∃ svc₀, d.heap a = some svc₀ ∧ svc₀.stream.starved = true) ∨ Short d.log) :=
    ⟨hreg,fun hs => Or.inl ⟨svc,hh,hs⟩⟩
  have hnow (d' : Daemon ω) (hs : Short d'.log) (hw : d'.socket.Wf) : Readers rest d' :=
    ⟨hw,fun _ => hs,fun _ _ _ _ _ => Or.inl hs⟩
  cases ha with
  | quietly _ hq =>
    obtain ⟨es,hlog,hes⟩ := hq.log
    refine h.of_log hq.wf hq.starved (fun a svc hreg hh => ?_) es hlog
      (fun e he => pool_of_plain e (hes e he))
    rw [hq.services] at hreg
    rw [hq.heap] at hh
    exact hsame a svc hreg hh
  | alloc cap init _ =>
    have hshort (hs : Short d.log) : Short (d.log ++ [.alloc d.fresh]) := by
      rcases hs with hr | hm
      · left
        rw [refusedSinceRelease, List.foldl_append]
        exact hr
      · exact Or.inr (List.mem_append_left _ hm)
    exact ⟨h.socketWf,fun hs => hshort (h.socket hs),
      fun a svc hreg hh hs => (h.service a svc hreg hh hs).imp_left hshort⟩
  | refuse _ =>
    refine hnow _ (Or.inl ?_) h.socketWf
    change refusedSinceRelease (d.log ++ [.refused]) = true
    rw [refusedSinceRelease, List.foldl_append]
    rfl
  | outOfMemory _ => exact hnow _ (Or.inr (by simp)) h.socketWf
  | service a svc svc' ha hc => exact h.set_service ((alive_iff _ _ _).mp ha).1 hc.starved

theorem Readers.frame (h : Readers rest d) (ha : FrameAct d d') : Readers rest d' := by
  have hsame (a : ℕ) (svc : Service) (hreg : a ∈ d.services) (hh : d.heap a = some svc) :
      a ∈ d.services ∧ (svc.stream.starved = true →
        (∃ svc₀, d.heap a = some svc₀ ∧ svc₀.stream.starved = true) ∨ Short d.log) :=
    ⟨hreg,fun hs => Or.inl ⟨svc,hh,hs⟩⟩
  cases ha with
  | push a svc up ha _ _ _ => exact h.set_service ((alive_iff _ _ _).mp ha).1 Or.inl
  | register svc peerId params hc =>
    refine ⟨h.socketWf,fun hs => short_append _ [.opened d.fresh params] (h.socket hs)
      (by simp [Event.pool]),fun b svc₀ hreg hh hs => ?_⟩
    change Function.update d.heap d.fresh _ b = _ at hh
    by_cases hba : b = d.fresh
    · rw [hba, Function.update_self] at hh
      obtain rfl := Option.some.inj hh
      rw [hc.starved] at hs
      cases hs
    · rw [Function.update_of_ne hba] at hh
      have hreg : b ∈ d.services := (List.mem_cons.mp hreg).resolve_left hba
      exact (h.service b svc₀ hreg hh hs).imp_left
        (fun hs => short_append _ [.opened d.fresh params] hs (by simp [Event.pool]))
  | serviceId n =>
    exact h.of_log id id (fun a svc => hsame a svc) [] (List.append_nil _).symm (by simp)
  | reboot target =>
    exact h.of_log id id (fun a svc => hsame a svc) [.reboot target] rfl (by simp [Event.pool])
  | reached a e _ he =>
    refine h.of_log id id (fun a svc => hsame a svc) [e] rfl (fun e' he' => ?_)
    rw [List.mem_singleton.mp he']
    rcases he with rfl | rfl <;> rfl

/-! The invariant. -/

/-- The pool is in order whatever happens, the readers as long as the program runs. -/
structure Sound (cfg : Config) (uv : Uv ω) (rest : List ℕ) (d : Daemon ω) : Prop where
  pool : Pool cfg uv d
  running : d.crashed = false → Table d ∧ Readers rest d

theorem act_crashed (ha : Act cfg uv d d') (hc : d'.crashed = false) : d.crashed = false := by
  cases ha with
  | quietly _ hq =>
    by_contra hcr
    rw [hq.crashed (by simpa using hcr)] at hc
    cases hc
  | _ => exact hc

theorem table_ops_close (h : d.crashed = false → Table d) (why : CloseReason)
    (hc : (opsClose d why).crashed = false) : Table (opsClose d why) := by
  unfold opsClose at hc ⊢
  split at hc
  · cases hc
  · rename_i hopen
    rw [if_neg hopen]
    exact (h hc).of_same rfl rfl le_rfl

/-- The table is kept by all that happens while a client reads. -/
theorem table_reads (Q : Daemon ω → ℕ → Prop) :
    KeepsReads cfg fs uv Q (fun d => d.crashed = false → Table d) where
  act _ _ h ha hc := (h (act_crashed ha hc)).act ha
  close _ a up h hc _ hc' := (h hc).close a up hc'
  release d a h hc := by
    have hkeeps : Keeps cfg fs uv (fun _ _ => True) (fun d => d.crashed = false → Table d) :=
      ⟨fun _ _ h ha hc => (h (act_crashed ha hc)).act ha,
        fun _ a up h hc _ hc' => (h hc).close a up hc'⟩
    have hall := hkeeps.keeps_all (fun _ _ _ _ _ _ _ => trivial) (fun _ _ hc => by cases hc)
      (fun _ _ _ h hc => (h hc).of_same rfl rfl le_rfl)
    exact hall.release d a h hc
  frame d d' h ha hc := by
    have hcr : d.crashed = false := by cases ha <;> exact hc
    exact (h hcr).frame ha
  connected _ h hc := (h hc).of_same rfl rfl le_rfl
  receives _ _ h hr hc := (h (hr.crashed ▸ hc)).of_same hr.services hr.heap hr.fresh.ge
  starve _ h _ hc := (h hc).of_same rfl rfl le_rfl
  bad_close _ why h := table_ops_close h why

theorem Pool.close (h : Pool cfg uv d) (ht : d.crashed = false → Table d) (a : ℕ)
    (up : Option ApacketUv) (hcr : d.crashed = false) :
    Pool cfg uv (adbServiceClose fs uv d a up) := by
  by_cases hreg : d.gone = true ∨ a ∉ d.services
  · obtain ⟨b,es,heq,-,hes⟩ := service_close_other fs uv d a up hreg
    rw [heq]
    refine h.of_log rfl rfl le_rfl (.serviceClose a b :: es) rfl (fun e he => ?_)
    rcases List.mem_cons.mp he with rfl | he
    · rfl
    · rcases hes e he with rfl | rfl | rfl <;> rfl
  · simp only [not_or, not_not, Bool.not_eq_true] at hreg
    obtain ⟨svc,ha,hcl⟩ := ((ht hcr).registered a).mp hreg.2
    have hunlink : Pool cfg uv (unlink d a) :=
      h.of_log rfl rfl le_rfl [.serviceClose a true] rfl (by simp [Event.pool])
    have hsend : Pool cfg uv (sendClose uv (unlink d a) svc up) :=
      hunlink.act (.quietly _ _ (quietly_send_close uv _ svc up))
    rcases service_close_spec fs uv d a svc up hreg.1 hreg.2 ha hcl with
      ⟨heq,-⟩ | ⟨svc',os,es,-,hes,-,heq⟩
    · rw [heq]
      exact hsend
    · rw [heq]
      refine hsend.of_log rfl rfl le_rfl (.onClose a :: es) rfl (fun e he => ?_)
      rcases List.mem_cons.mp he with rfl | he
      · rfl
      · rcases (hes e he).plain with he | rfl
        · exact pool_of_plain e he
        · rfl

theorem Readers.close (h : Readers rest d) (ht : Table d) (a : ℕ) (up : Option ApacketUv) :
    Readers rest (adbServiceClose fs uv d a up) := by
  by_cases hreg : d.gone = true ∨ a ∉ d.services
  · obtain ⟨b,es,heq,-,hes⟩ := service_close_other fs uv d a up hreg
    rw [heq]
    refine h.of_log id id (fun b svc hb hh => ⟨hb,fun hs => Or.inl ⟨svc,hh,hs⟩⟩)
      (.serviceClose a b :: es) rfl (fun e he => ?_)
    rcases List.mem_cons.mp he with rfl | he
    · rfl
    · rcases hes e he with rfl | rfl | rfl <;> rfl
  · simp only [not_or, not_not, Bool.not_eq_true] at hreg
    obtain ⟨svc,ha,hcl⟩ := (ht.registered a).mp hreg.2
    have hunlink : Readers rest (unlink d a) :=
      h.of_log id id
        (fun b svc hb hh => ⟨List.mem_of_mem_erase hb,fun hs => Or.inl ⟨svc,hh,hs⟩⟩)
        [.serviceClose a true] rfl (by simp [Event.pool])
    have hq := quietly_send_close uv (unlink d a) svc up
    obtain ⟨fs',hlog,hfs⟩ := hq.log
    have hsend : Readers rest (sendClose uv (unlink d a) svc up) := by
      refine hunlink.of_log hq.wf hq.starved (fun b svc hb hh => ?_) fs' hlog
        (fun e he => pool_of_plain e (hfs e he))
      rw [hq.services] at hb
      rw [hq.heap] at hh
      exact ⟨hb,fun hs => Or.inl ⟨svc,hh,hs⟩⟩
    rcases service_close_spec fs uv d a svc up hreg.1 hreg.2 ha hcl with
      ⟨heq,-⟩ | ⟨svc',os,es,-,hes,-,heq⟩
    · rw [heq]
      exact hsend
    · rw [heq]
      refine hsend.of_log id id (fun b svc₀ hb hh => ⟨hb,fun hs => Or.inl ⟨svc₀,?_,hs⟩⟩)
        (.onClose a :: es) rfl (fun e he => ?_)
      · have hba : b ≠ a := by
          rintro rfl
          rw [hq.services] at hb
          exact (ht.nodup.mem_erase_iff.mp hb).1 rfl
        rw [hq.heap]
        change Function.update d.heap a _ b = _ at hh
        rwa [Function.update_of_ne hba] at hh
      · rcases List.mem_cons.mp he with rfl | he
        · rfl
        · rcases (hes e he).plain with he | rfl
          · exact pool_of_plain e he
          · rfl

theorem sound_keeps (rest : List ℕ) :
    Keeps cfg fs uv (fun _ _ => True) (Sound cfg uv rest) where
  act d d' h ha := by
    refine ⟨h.pool.act ha,fun hc => ?_⟩
    obtain ⟨ht,hr⟩ := h.running (act_crashed ha hc)
    exact ⟨ht.act ha,hr.act ha⟩
  close d a up h hcr _ := by
    obtain ⟨ht,hr⟩ := h.running hcr
    exact ⟨h.pool.close (fun _ => ht) a up hcr,fun hc => ⟨ht.close a up hc,hr.close ht a up⟩⟩

/-! A kick restarts every reader that may read. -/

theorem UvStream.Wf.readStart_unstarved {s : UvStream} (h : s.Wf) :
    s.readStart.starved = false := by
  unfold UvStream.readStart
  split
  · rename_i hc
    exact (h.closing hc).2
  · rfl

theorem UvStream.Wf.active_unstarved {s : UvStream} (h : s.Wf) (ha : s.active = true) :
    s.starved = false := by
  by_contra hs
  have hoff := h.starved (by simpa using hs)
  rw [ha] at hoff
  cases hoff

theorem socket_start_unstarved (svc : Service) (h : svc.stream.Wf) :
    (adbHalSocketStart svc).stream.starved = false := by
  unfold adbHalSocketStart
  split
  · rename_i ha
    exact h.active_unstarved ha
  · exact h.readStart_unstarved

theorem shell_kick_unstarved (svc : Service) (h : svc.stream.Wf) :
    (shellKick svc false).stream.starved = false := by
  unfold shellKick
  split
  · contradiction
  · split
    · rename_i ha
      exact h.active_unstarved ha
    · exact h.readStart_unstarved

/-- A socket that is not read in its state does not wait for a packet. -/
theorem tcp_unstarved {svc : Service} (h : svc.Wf) {state : StreamState}
    (hk : svc.kind = .tcp state) (hs : state ≠ .connected) : svc.stream.starved = false := by
  have hallows := h.kind
  rw [hk] at hallows
  by_contra hst
  exact hs (hallows.1 (Or.inr (by simpa using hst)))

theorem try_connect_unstarved (ht : Table d) (a : ℕ) (svc svc' : Service)
    (ha : d.alive a = some svc) (hst : svc.stream.starved = false)
    (hh : (tryConnect cfg uv d a).heap a = some svc') : svc'.stream.starved = false := by
  have hheap := ((alive_iff _ _ _).mp ha).1
  have halloc : (adbHalApacketAllocate cfg uv d).2.heap = d.heap := (allocate_heap cfg uv d false).1
  have hsame (hh : (adbHalApacketAllocate cfg uv d).2.heap a = some svc') :
      svc'.stream.starved = false := by
    rw [halloc, hheap] at hh
    exact Option.some.inj hh ▸ hst
  unfold tryConnect Daemon.next at hh
  dsimp only at hh
  split at hh
  · exact hsame hh
  · split at hh
    · exact hsame hh
    · have ha' : (adbHalApacketAllocate cfg uv d).2.alive a = some svc :=
        (allocate_alive cfg uv d false a).trans ha
      rw [Daemon.withService, ha'] at hh
      unfold adbSendOkayFrame adbSendOkayFrameWithData at hh
      dsimp only at hh
      rw [(quietly_send_frame uv _ _).heap, Daemon.set_service_heap, Function.update_self] at hh
      rw [← Option.some.inj hh]
      exact socket_start_unstarved _ (ht.wf a svc hheap).stream

theorem try_close_unstarved (ht : Table d) (a : ℕ) (svc svc' : Service)
    (ha : d.alive a = some svc) (hst : svc.stream.starved = false)
    (hc : (tryClose cfg fs uv d a).crashed = false) (hreg : a ∈ (tryClose cfg fs uv d a).services)
    (hh : (tryClose cfg fs uv d a).heap a = some svc') : svc'.stream.starved = false := by
  have hheap := ((alive_iff _ _ _).mp ha).1
  have halloc : (adbHalApacketAllocate cfg uv d).2.heap = d.heap := (allocate_heap cfg uv d false).1
  have hserv : (adbHalApacketAllocate cfg uv d).2.services = d.services :=
    (allocate_heap cfg uv d false).2
  have hsame (hh : (adbHalApacketAllocate cfg uv d).2.heap a = some svc') :
      svc'.stream.starved = false := by
    rw [halloc, hheap] at hh
    exact Option.some.inj hh ▸ hst
  unfold tryClose Daemon.next at hh hc hreg
  dsimp only at hh hc hreg
  split at hh
  · exact hsame hh
  · rename_i hcr
    rw [if_neg hcr] at hc hreg
    split at hh
    · exact hsame hh
    · rename_i up hup
      rw [hup] at hc hreg
      dsimp only at hc hreg
      generalize (adbHalApacketAllocate cfg uv d).2 = d₁ at *
      by_cases hr : d₁.gone = true ∨ a ∉ d₁.services
      · obtain ⟨b,es,heq,-,-⟩ := service_close_other fs uv d₁ a (some up) hr
        rw [heq] at hh
        exact hsame hh
      · simp only [not_or, not_not, Bool.not_eq_true] at hr
        have ha₁ : d₁.alive a = some svc := by
          rw [Daemon.alive, halloc]
          exact ha
        obtain ⟨svc₀,ha₀,hcl⟩ := (ht.registered a).mp (hserv ▸ hr.2)
        obtain rfl := Option.some.inj (ha.symm.trans ha₀)
        have hq := (quietly_send_close uv (unlink d₁ a) svc (some up)).services
        have hnot : a ∉ (unlink d₁ a).services := by
          change a ∉ d₁.services.erase a
          rw [hserv]
          exact fun hmem => (ht.nodup.mem_erase_iff.mp hmem).1 rfl
        exfalso
        rcases service_close_spec fs uv d₁ a svc (some up) hr.1 hr.2 ha₁ hcl with
          ⟨heq,hcrash⟩ | ⟨_,_,_,-,-,-,heq⟩
        · rw [heq, hcrash] at hc
          cases hc
        · rw [heq] at hreg
          change a ∈ (sendClose uv (unlink d₁ a) svc (some up)).services at hreg
          rw [hq] at hreg
          exact hnot hreg

/-- After its kick a service that is still in the list does not wait for a packet. -/
theorem on_kick_unstarved (ht : Table d) (a : ℕ) (svc' : Service)
    (hc : (onKick cfg fs uv d a).crashed = false) (hreg : a ∈ (onKick cfg fs uv d a).services)
    (hh : (onKick cfg fs uv d a).heap a = some svc') : svc'.stream.starved = false := by
  unfold onKick Daemon.withService at hc hreg hh
  cases ha : d.alive a with
  | none =>
    rw [ha] at hc
    cases hc
  | some svc =>
    rw [ha] at hc hreg hh
    dsimp only at hc hreg hh
    have hheap := ((alive_iff _ _ _).mp ha).1
    have hw := ht.wf a svc hheap
    have ht' : Table (d.emit (.onKick a)) := ht.of_same rfl rfl le_rfl
    have hself (svc₀ : Service) (hst : svc₀.stream.starved = false)
        (hh : ((d.emit (.onKick a)).setService a svc₀).heap a = some svc') :
        svc'.stream.starved = false := by
      rw [Daemon.set_service_heap, Function.update_self] at hh
      exact Option.some.inj hh ▸ hst
    have hsame (hst : svc.stream.starved = false) (hh : d.heap a = some svc') :
        svc'.stream.starved = false := by
      rw [hheap] at hh
      exact Option.some.inj hh ▸ hst
    cases hk : svc.kind with
    | sync s =>
      rw [hk] at hh
      have hallows := hw.kind
      rw [hk] at hallows
      exact hsame hallows.2.1 hh
    | tcp state =>
      rw [hk] at hc hreg hh
      unfold atcpStreamOnKick at hc hreg hh
      cases state with
      | notConnected => exact hsame (tcp_unstarved hw hk (by simp)) hh
      | waitAck => exact hsame (tcp_unstarved hw hk (by simp)) hh
      | connected => exact hself _ (socket_start_unstarved svc hw.stream) hh
      | notifyClient =>
        exact try_connect_unstarved ht' a svc svc' ha (tcp_unstarved hw hk (by simp)) hh
      | errorClose =>
        exact try_close_unstarved ht' a svc svc' ha (tcp_unstarved hw hk (by simp)) hc hreg hh
    | shell waitAck =>
      rw [hk] at hh
      cases waitAck with
      | false => exact hself _ (shell_kick_unstarved svc hw.stream) hh
      | true =>
        have hallows := hw.kind
        rw [hk] at hallows
        refine hself svc ?_ hh
        by_contra hst
        have hfalse := hallows.1 (Or.inr (by simpa using hst))
        cases hfalse

theorem Readers.kicked (h : Readers (a :: rest) d)
    (hu : ∀ svc, a ∈ d.services → d.heap a = some svc → svc.stream.starved = false) :
    Readers rest d := by
  refine ⟨h.socketWf,h.socket,fun b svc hreg hh hs => ?_⟩
  rcases h.service b svc hreg hh hs with hshort | hmem
  · exact Or.inl hshort
  · rcases List.mem_cons.mp hmem with rfl | hmem
    · rw [hu svc hreg hh] at hs
      cases hs
    · exact Or.inr hmem

theorem Sound.crashed (h : Sound cfg uv rest d) (hc : d.crashed = true) (l : List ℕ) :
    Sound cfg uv l d :=
  ⟨h.pool,fun hc' => by rw [hc] at hc'; cases hc'⟩

theorem kick_loop_sound (l : List ℕ) (h : Sound cfg uv l d) (hc : d.crashed = false) :
    Sound cfg uv [] (kickLoop cfg fs uv l d) := by
  induction l generalizing d with
  | nil => exact h
  | cons a l ih =>
    have hkick : Sound cfg uv (a :: l) (onKick cfg fs uv d a) :=
      (sound_keeps (a :: l)).guards.on_kick a h (fun _ _ _ _ _ _ _ => trivial)
    unfold kickLoop Daemon.next
    split
    · rename_i hcr
      exact hkick.crashed hcr []
    · rename_i hcr
      have hcr : (onKick cfg fs uv d a).crashed = false := by simpa using hcr
      obtain ⟨ht,hr⟩ := hkick.running hcr
      have hrest : Sound cfg uv l (onKick cfg fs uv d a) :=
        ⟨hkick.pool,fun _ => ⟨ht,hr.kicked
          (fun svc hreg hh => on_kick_unstarved (h.running hc).1 a svc hcr hreg hh)⟩⟩
      dsimp only
      unfold Daemon.withService
      split
      · have hkeeps : Keeps cfg fs uv (fun _ _ => True) (Sound cfg uv l) := sound_keeps l
        exact (hkeeps.quietly hrest (quietly_fault _ .useAfterFree rfl)).crashed rfl []
      · exact ih hrest hcr

/-- The transport is restarted first, then the services one by one. -/
theorem tcp_uv_kick_sound (hp : Pool cfg uv d) (ht : Table d) (hw : d.socket.Wf)
    (hc : d.crashed = false) : Sound cfg uv [] (tcpUvKick cfg fs uv d) := by
  have hstart (s : UvStream) (hs : s.Wf) (hst : s.starved = false) :
      Sound cfg uv d.services (d.setSocket s) := by
    refine ⟨hp.of_same rfl rfl le_rfl rfl,fun _ => ⟨ht.of_same rfl rfl le_rfl,hs,fun h => ?_,
      fun a _ ha _ _ => Or.inr ha⟩⟩
    rw [show (d.setSocket s).socket = s from rfl, hst] at h
    cases h
  unfold tcpUvKick
  split
  · rename_i ha
    exact kick_loop_sound _ (hstart d.socket hw (hw.active_unstarved ha)) hc
  · exact kick_loop_sound _ (hstart _ hw.readStart hw.readStart_unstarved) hc

/-- A release brings the readers back that were refused a packet. -/
theorem release_sound (h : Sound cfg uv [] d) (hc : d.crashed = false) (a : ℕ) :
    Sound cfg uv [] (adbHalApacketRelease cfg fs uv d a) := by
  unfold adbHalApacketRelease
  split
  · have hkeeps : Keeps cfg fs uv (fun _ _ => True) (Sound cfg uv []) := sound_keeps []
    exact hkeeps.quietly h (quietly_fault d _ rfl)
  · rename_i hlive
    have hlive := not_not.mp hlive
    have hpos := List.length_pos_of_mem hlive
    have hle := h.pool.length_le
    have hcases : d.frameCount = d.live.length ∧ refusedSinceRelease d.log = false ∨
        d.frameCount = cfg.frameMax+1 ∧ d.live.length = cfg.frameMax := by
      cases hr : refusedSinceRelease d.log with
      | false => exact Or.inl ⟨(h.pool.exact hr).1,rfl⟩
      | true => exact Or.inr (h.pool.full hr)
    obtain ⟨ht,hr⟩ := h.running hc
    split
    · omega
    · split
      · have hfree : Pool cfg uv (setFrameCount (freePacket d a) (cfg.frameMax-1)) :=
          h.pool.free hlive (by omega)
        exact tcp_uv_kick_sound hfree (ht.of_same rfl rfl le_rfl) hr.socketWf hc
      · have hlow : refusedSinceRelease d.log = false := by
          rcases hcases with hlow | hfull
          · exact hlow.2
          · omega
        have hfree : Pool cfg uv (setFrameCount (freePacket d a) (d.frameCount-1)) :=
          h.pool.free hlive (by omega)
        have hshort (hs : Short d.log) : Short (d.log ++ [.release a]) := by
          rcases hs with hs | hs
          · rw [hlow] at hs
            cases hs
          · exact Or.inr (List.mem_append_left _ hs)
        exact ⟨hfree,fun _ => ⟨ht.of_same rfl rfl le_rfl,hr.socketWf,
          fun hs => hshort (hr.socket hs),
          fun b svc hreg hh hs => (hr.service b svc hreg hh hs).imp_left hshort⟩⟩

/-! Runs. -/

theorem sound_all : KeepsAll cfg fs uv (fun _ _ => True) (Sound cfg uv []) where
  toKeeps := sound_keeps []
  release _ a h hc := release_sound h hc a

theorem sound_reads : KeepsReads cfg fs uv (fun _ _ => True) (Sound cfg uv []) where
  toKeepsAll := sound_all
  frame d d' h ha := by
    refine ⟨h.pool.frame ha,fun hc => ?_⟩
    have hcr : d.crashed = false := by cases ha <;> exact hc
    obtain ⟨ht,hr⟩ := h.running hcr
    exact ⟨ht.frame ha,hr.frame ha⟩
  connected _ h := by
    refine ⟨h.pool.of_same rfl rfl le_rfl rfl,fun hc => ?_⟩
    obtain ⟨ht,hread⟩ := h.running hc
    exact ⟨ht.of_same rfl rfl le_rfl,hread.socketWf,hread.socket,hread.service⟩
  receives d d' h hr := by
    have hes : ∃ es, d'.log = d.log ++ es ∧ ∀ e ∈ es, e.pool = false := by
      rcases hr.log with hlog | ⟨bs,hlog⟩ | ⟨b,m,bs,hlog⟩
      · exact ⟨[],by simpa using hlog,by simp⟩
      · exact ⟨_,hlog,by simp [Event.pool]⟩
      · exact ⟨_,hlog,by simp [Event.pool]⟩
    obtain ⟨es,hlog,hp⟩ := hes
    refine ⟨h.pool.of_log hr.live hr.frameCount hr.fresh.ge es hlog hp,fun hc => ?_⟩
    obtain ⟨ht,hread⟩ := h.running (hr.crashed ▸ hc)
    refine ⟨ht.of_same hr.services hr.heap hr.fresh.ge,
      hread.of_log (fun hw => hr.socket ▸ hw) (fun hs => hr.socket ▸ hs) (fun a svc ha hh => ?_)
      es hlog hp⟩
    rw [hr.services] at ha
    rw [hr.heap] at hh
    exact ⟨ha,fun hs => Or.inl ⟨svc,hh,hs⟩⟩
  starve d h hs := by
    refine ⟨h.pool.of_same rfl rfl le_rfl rfl,fun hc => ?_⟩
    obtain ⟨ht,hread⟩ := h.running hc
    refine ⟨ht.of_same rfl rfl le_rfl,?_,fun _ => hs,hread.service⟩
    change d.socket.starve.Wf
    unfold UvStream.starve
    split
    · exact hread.socketWf
    · rename_i hcl
      exact ⟨fun _ => rfl,fun h' => absurd h' hcl⟩
  bad_close d why h := by
    have hkeeps : Keeps cfg fs uv (fun _ _ => True) (Sound cfg uv []) := sound_keeps []
    unfold opsClose
    split
    · exact hkeeps.quietly h (quietly_fault d _ rfl)
    · have hsocket : Sound cfg uv [] (d.setSocket d.socket.close) :=
        hkeeps.quietly h (quietly_socket d _
          (fun _ => ⟨by simp [UvStream.close],by simp [UvStream.close]⟩)
          (by simp [UvStream.close]) (by simp [UvStream.close]))
      refine ⟨hsocket.pool.emit _ rfl,fun hc => ?_⟩
      obtain ⟨ht,hread⟩ := hsocket.running hc
      exact ⟨ht.of_same rfl rfl le_rfl,hread.of_log id id
        (fun a svc ha hh => ⟨ha,fun hs => Or.inl ⟨svc,hh,hs⟩⟩) [.close why] rfl
        (by simp [Event.pool])⟩

theorem sound_step : KeepsStep cfg fs uv (fun _ _ => True) (Sound cfg uv []) where
  toKeepsAll := sound_all
  free d a svc h ha hcl hquiet := by
    refine ⟨h.pool.of_log rfl rfl le_rfl [.freed a] rfl (by simp [Event.pool]),fun hc => ?_⟩
    obtain ⟨ht,hread⟩ := h.running hc
    refine ⟨ht.free ha hcl,hread.of_log id id (fun b svc₀ hb hh => ⟨hb,fun hs => ?_⟩)
      [.freed a] rfl (by simp [Event.pool])⟩
    change Function.update d.heap a _ b = _ at hh
    by_cases hba : b = a
    · subst hba
      rw [Function.update_self] at hh
      obtain rfl := Option.some.inj hh
      exact Or.inl ⟨svc,((alive_iff _ _ _).mp ha).1,hs⟩
    · rw [Function.update_of_ne hba] at hh
      exact Or.inl ⟨svc₀,hh,hs⟩

theorem sound_close : KeepsClose cfg fs uv (fun _ _ => True) (Sound cfg uv []) where
  toKeepsAll := sound_all
  drop d h := by
    have hreads : KeepsReads cfg fs uv (fun _ _ => True) (Sound cfg uv []) := sound_reads
    exact hreads.receives _ _ h ⟨rfl,rfl,rfl,rfl,rfl,rfl,rfl,rfl,rfl,id,Or.inl rfl⟩
  free_client d h _ _ := by
    refine ⟨h.pool.of_log rfl rfl le_rfl [.clientFreed] rfl (by simp [Event.pool]),fun hc => ?_⟩
    obtain ⟨ht,hread⟩ := h.running hc
    exact ⟨ht.of_same rfl rfl le_rfl,hread.of_log id id
      (fun a svc ha hh => ⟨ha,fun hs => Or.inl ⟨svc,hh,hs⟩⟩) [.clientFreed] rfl
      (by simp [Event.pool])⟩

theorem pool_start (token : List UInt8) (os : ω) : Pool cfg uv (daemonStart token os) where
  nodup := List.nodup_nil
  lt a ha := absurd ha List.not_mem_nil
  exact _ := ⟨rfl,Nat.zero_le _⟩
  full h := by cases h
  count := rfl
  peak l hl := by
    rw [List.prefix_nil.mp hl]
    exact Nat.cast_nonneg _
  asserted := List.not_mem_nil
  memory h := absurd h List.not_mem_nil

theorem table_start (token : List UInt8) (os : ω) : Table (daemonStart token os) where
  nodup := List.nodup_nil
  registered a := by simp [daemonStart, Daemon.alive]
  wf a svc h := by cases h
  lt a svc h := by cases h

theorem readers_start (token : List UInt8) (os : ω) : Readers [] (daemonStart token os) where
  socketWf := ⟨(fun h => by cases h),(fun h => by cases h)⟩
  socket h := by cases h
  service a _ ha := absurd ha List.not_mem_nil

theorem sound_start (token : List UInt8) (os : ω) :
    Sound cfg uv [] (daemonStart token os) :=
  ⟨pool_start token os,fun _ => ⟨table_start token os,readers_start token os⟩⟩

/-- Packets are allocated and released between the callbacks and inside them. -/
inductive PoolOp
  | allocate (beforeConnect : Bool)
  | release (a : ℕ)
  | callback (i : Input)

def poolStep (cfg : Config) (fs : FileSystem ω) (uv : Uv ω) (d : Daemon ω) (op : PoolOp) :
    Daemon ω :=
  d.next fun d => match op with
    | .allocate beforeConnect => (adbUvPacketAllocate cfg uv d beforeConnect).2
    | .release a => adbHalApacketRelease cfg fs uv d a
    | .callback i => step cfg fs uv d i

def poolRun (cfg : Config) (fs : FileSystem ω) (uv : Uv ω) (token : List UInt8) (os : ω)
    (ops : List PoolOp) : Daemon ω :=
  run (poolStep cfg fs uv) (daemonStart token os) ops

/-- Every callback keeps the pool, the table and the readers in order. -/
theorem sound_callback (i : Input) (h : Sound cfg uv [] d) : Sound cfg uv []
    (step cfg fs uv d i) := by
  have hkeeps : KeepsStep cfg fs uv (fun _ _ => True) (Sound cfg uv []) := sound_step
  have hreads : KeepsReads cfg fs uv (fun _ _ => True) (Sound cfg uv []) := sound_reads
  have hclose : KeepsClose cfg fs uv (fun _ _ => True) (Sound cfg uv []) := sound_close
  refine hkeeps.step i h (fun r _ _ _ => ?_) (fun _ hc _ _ _ => ?_)
    (fun hc => (h.running hc).1.wf) (step_closes_true _ d i)
  · exact hreads.transport_read r h (fun _ _ _ _ => frame_closes_true _ _)
  · exact hclose.uv_close_client h hc (destroy_true _ (fun _ h hc => (h.running hc).1))

theorem sound_pool_run (token : List UInt8) (os : ω) (ops : List PoolOp) :
    Sound cfg uv [] (poolRun cfg fs uv token os ops) := by
  refine run_invariant (poolStep cfg fs uv) (Sound cfg uv []) (fun d op h => ?_) _
    (sound_start token os) ops
  have hall : KeepsAll cfg fs uv (fun _ _ => True) (Sound cfg uv []) := sound_all
  unfold poolStep
  refine keeps_next h (fun hc => ?_)
  cases op with
  | allocate beforeConnect => exact hall.allocate beforeConnect h
  | release a => exact hall.release d a h hc
  | callback i => exact sound_callback i h

/-- The counter counts the live packets, or says that someone waits for one: as long as a
reader does, the next release of a packet kicks it. -/
theorem frame_count_counts (cfg : Config) (fs : FileSystem ω) (uv : Uv ω) (token : List UInt8)
    (os : ω) (ops : List PoolOp) (hmax : 1 ≤ cfg.frameMax)
    (hmem : ∀ s, (uv.packetMalloc s).2 ≠ none) :
    let d := poolRun cfg fs uv token os ops
    (∀ l, l <+: d.log → liveAfter l ≤ cfg.frameMax) ∧
      liveAfter d.log = d.live.length ∧ d.live.length ≤ cfg.frameMax ∧
      d.frameCount =
        (if refusedSinceRelease d.log then (cfg.frameMax : ℤ)+1 else d.live.length) ∧
      (refusedSinceRelease d.log = true → d.live.length = cfg.frameMax) ∧
      Event.fault .frameCount ∉ d.log ∧
      (d.crashed = false →
        (d.socket.starved = true ∨
          ∃ a svc, d.alive a = some svc ∧ svc.stream.starved = true) →
        d.frameCount = cfg.frameMax+1 ∧ d.live ≠ [] ∧
          ∀ a, a ∈ d.live → adbHalApacketRelease cfg fs uv d a =
            tcpUvKick cfg fs uv (setFrameCount (freePacket d a) (cfg.frameMax-1))) := by
  intro d
  have h : Sound cfg uv [] d := sound_pool_run token os ops
  have hmem' : Event.outOfMemory ∉ d.log := by
    intro hm
    obtain ⟨s,hs⟩ := h.pool.memory hm
    exact hmem s hs
  refine ⟨h.pool.peak,h.pool.count,h.pool.length_le,?_,fun hr => (h.pool.full hr).2,
    h.pool.asserted,fun hc hw => ?_⟩
  · cases hr : refusedSinceRelease d.log with
    | false => exact (h.pool.exact hr).1
    | true => exact (h.pool.full hr).1
  · obtain ⟨ht,hread⟩ := h.running hc
    have hshort : Short d.log := by
      rcases hw with hs | ⟨a,svc,ha,hs⟩
      · exact hread.socket hs
      · have hheap := ((alive_iff _ _ _).mp ha).1
        have hopen : svc.stream.closing = false := by
          by_contra hcl
          have hcl := ((ht.wf a svc hheap).stream.closing (by simpa using hcl)).2
          rw [hs] at hcl
          cases hcl
        have hreg := (ht.registered a).mpr ⟨svc,ha,hopen⟩
        exact (hread.service a svc hreg hheap hs).resolve_right List.not_mem_nil
    obtain ⟨hfc,hlen⟩ := h.pool.full (hshort.resolve_right hmem')
    refine ⟨hfc,List.ne_nil_of_length_pos (by omega),fun a ha => ?_⟩
    unfold adbHalApacketRelease
    rw [if_neg (not_not.mpr ha), if_neg (by omega), if_pos (by omega)]

theorem frame_count_plain : (1 ≤ readmeConfig.frameMax ∧
    ∀ s, (plainUv.packetMalloc s).2 ≠ none) ∧
    liveAfter (poolRun readmeConfig emptyFs plainUv [] ()
      [.allocate false,.callback (.transportRead .error)]).log ≤ 1 := by
  refine ⟨⟨by decide,fun _ => by simp [plainUv]⟩,?_⟩
  exact (frame_count_counts readmeConfig emptyFs plainUv [] ()
    [.allocate false,.callback (.transportRead .error)] (by decide)
    (fun _ => by simp [plainUv])).1 _ (List.prefix_refl _)

end MicroADB
