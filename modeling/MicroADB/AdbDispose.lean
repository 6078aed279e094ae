import MicroADB.AdbReply
import MicroADB.AdbStreamStep
import MicroADB.AdbTold

/-! Where the packet of a frame goes. The handlers pass it on by convention; as a chain of moves it
is in hand until one move disposes of it, and the trace shows that move. -/
namespace MicroADB
open ByteMemory EventRun

variable {ω : Type} {cfg : Config} {fs : FileSystem ω} {uv : Uv ω} {d d' : Daemon ω}

/-! The moves of one packet. -/

/-- An event that says nothing about packets. -/
def Event.packetless : Event → Bool
  | .write .. | .release _ | .kept .. | .fault .badRelease => false
  | _ => true

theorem packet_events_packetless (b : ℕ) {es : List Event} (h : ∀ e ∈ es, e.packetless = true) :
    packetEvents b es = [] := by
  refine List.filter_eq_nil_iff.mpr (fun e he => ?_)
  have hp := h e he
  cases e <;> first | exact Bool.false_ne_true | cases hp

theorem bad_release_packetless {es : List Event} (h : ∀ e ∈ es, e.packetless = true) :
    .fault .badRelease ∉ es := by
  intro hin
  cases h _ hin

/-- What a move does with the packet in hand. -/
inductive Passing : Option ℕ × Daemon ω → Option ℕ × Daemon ω → Prop
  /-- It stays in hand. -/
  | keeps {h : Option ℕ} {d d' : Daemon ω} (es : List Event) (hlog : d'.log = d.log ++ es)
    (hes : ∀ e ∈ es, e.packetless = true) (hlive : d'.live = d.live) (hfresh : d.fresh ≤ d'.fresh) :
    Passing (h,d) (h,d')
  /-- A new one is taken. -/
  | takes {d d' : Daemon ω} (es : List Event) (hlog : d'.log = d.log ++ es)
    (hes : ∀ e ∈ es, e.packetless = true) (hlive : d'.live = d.fresh :: d.live)
    (hfresh : d'.fresh = d.fresh+1) : Passing (none,d) (some d.fresh,d')
  /-- One event disposes of it. -/
  | gives {c : ℕ} {d d' : Daemon ω} (e : Event) (es : List Event) (hlog : d'.log = d.log ++ es)
    (hbad : .fault .badRelease ∉ es) (hes : ∀ b, packetEvents b es = if c = b then [e] else [])
    (hfresh : d.fresh ≤ d'.fresh) : Passing (some c,d) (none,d')
  /-- The program ends. -/
  | ends {h : Option ℕ} {d d' : Daemon ω} (es : List Event) (hlog : d'.log = d.log ++ es)
    (hes : ∀ e ∈ es, e.packetless = true) (hfresh : d.fresh ≤ d'.fresh) (hc : d'.crashed = true) :
    Passing (h,d) (none,d')
  /-- The release of a packet that is not live. -/
  | misses {c : ℕ} {d d' : Daemon ω} (hc : c ∉ d.live) : Passing (some c,d) (none,d')

theorem packetless_idle {e : Event} (h : e.idle = true) : e.packetless = true := by
  cases e <;> first | rfl | cases h

theorem packetless_sync (a : ℕ) {es : List SyncEvent} {e : Event} (he : e.packetless = true) :
    ∀ e' ∈ e :: es.map (.sync a), e'.packetless = true := by
  intro e' hin
  rcases List.mem_cons.mp hin with rfl | hin
  · exact he
  · obtain ⟨_,_,rfl⟩ := List.mem_map.mp hin
    rfl

theorem passes_still {h : Option ℕ} (hlog : d'.log = d.log) (hlive : d'.live = d.live)
    (hfresh : d'.fresh = d.fresh) : Passing (h,d) (h,d') :=
  .keeps [] (hlog.trans (List.append_nil _).symm) (by simp) hlive hfresh.ge

theorem passes_emit {h : Option ℕ} (e : Event) (hlog : d'.log = d.log ++ [e])
    (he : e.packetless = true) (hlive : d'.live = d.live) (hfresh : d.fresh ≤ d'.fresh) :
    Passing (h,d) (h,d') :=
  .keeps [e] hlog (fun _ hin => List.mem_singleton.mp hin ▸ he) hlive hfresh

theorem packet_events_write (b c : ℕ) (m : Amessage) (payload : List UInt8) (ok : Bool) :
    packetEvents b [.write c m payload ok] = if c = b then [.write c m payload ok] else [] := by
  simp [packetEvents, List.filter_cons]

/-- The packet is handed to the transport, behind events that do not concern it. -/
theorem send_gives (uv : Uv ω) (d d' : Daemon ω) (up : ApacketUv) {es : List Event}
    (hlog : d'.log = d.log ++ es) (hes : ∀ e ∈ es, e.packetless = true) :
    ∃ e es', (sendFrame uv d' up).log = d.log ++ es' ∧ .fault .badRelease ∉ es' ∧
      ∀ b, packetEvents b es' = if up.addr = b then [e] else [] := by
  obtain ⟨ok,es',hlog',hes'⟩ := send_frame_log uv d' up
  have hafter : ∀ e ∈ es', e.packetless = true := by
    intro e he
    rcases hes' e he with rfl | rfl <;> rfl
  rw [hlog, List.append_assoc] at hlog'
  refine ⟨.write up.addr up.p.seal.msg up.p.payload ok,_,hlog',fun hin => ?_,fun b => ?_⟩
  · rcases List.mem_append.mp hin with hin | hin
    · exact bad_release_packetless hes hin
    · rcases List.mem_cons.mp hin with hin | hin
      · cases hin
      · exact bad_release_packetless hafter hin
  · rw [packet_events_append, packet_events_packetless b hes, List.nil_append]
    change packetEvents b ([_] ++ es') = _
    rw [packet_events_append, packet_events_packetless b hafter, List.append_nil,
      packet_events_write]

theorem passes_send (uv : Uv ω) {d d' : Daemon ω} (up : ApacketUv) (es : List Event)
    (hlog : d'.log = d.log ++ es) (hes : ∀ e ∈ es, e.packetless = true)
    (hfresh : d.fresh ≤ d'.fresh) : Passing (some up.addr,d) (none,sendFrame uv d' up) := by
  obtain ⟨e,es',hlog',hbad,hpacket⟩ := send_gives uv d d' up hlog hes
  exact .gives e es' hlog' hbad hpacket (hfresh.trans (quietly_send_frame uv d' up).fresh.ge)

/-- The same where nothing was told before. -/
theorem passes_frame (uv : Uv ω) {d d' : Daemon ω} (up : ApacketUv) (hlog : d'.log = d.log)
    (hfresh : d'.fresh = d.fresh) : Passing (some up.addr,d) (none,sendFrame uv d' up) :=
  passes_send uv up [] (hlog.trans (List.append_nil _).symm) (by simp) hfresh.ge

theorem passes_ops_close {h : Option ℕ} (d : Daemon ω) (why : CloseReason) :
    Passing (h,d) (h,opsClose d why) := by
  unfold opsClose
  split
  · exact passes_emit (.fault .closingTwice) rfl rfl rfl le_rfl
  · exact passes_emit (.close why) rfl rfl rfl le_rfl

/-- The CLSE of a service, and its end. -/
theorem passes_service_close (fs : FileSystem ω) (uv : Uv ω) {a : ℕ} {svc : Service}
    (up : Option ApacketUv) {h h' : Option ℕ} (hh : GivenUp up h h') (hreg : a ∈ d.services)
    (ha : d.alive a = some svc) (hcl : svc.stream.closing = false) (hg : d.gone = false) :
    Passing (h,d) (h',adbServiceClose fs uv d a up) := by
  have hends {es : List Event} (hes : ∀ e ∈ es, e.ends a) :
      ∀ e ∈ Event.onClose a :: es, e.packetless = true := by
    intro e he
    rcases List.mem_cons.mp he with rfl | he
    · rfl
    · rcases hes e he with ⟨s,rfl⟩ | rfl <;> rfl
  cases up with
  | none =>
    obtain rfl : h' = h := hh
    rcases service_close_spec fs uv d a svc none hg hreg ha hcl with
      ⟨heq,-⟩ | ⟨svc',os,es,-,hes,-,heq⟩
    · rw [heq]
      exact passes_emit (.serviceClose a true) rfl rfl rfl le_rfl
    · rw [heq]
      refine .keeps (.serviceClose a true :: .onClose a :: es) (List.append_assoc _ _ _) ?_ rfl le_rfl
      intro e he
      rcases List.mem_cons.mp he with rfl | he
      · rfl
      · exact hends hes e he
  | some up =>
    obtain ⟨rfl,rfl⟩ := hh
    set clse := (up.message aClse svc.id svc.peerId 0).setWriteLen 0 with hclse
    have hunlink : ∀ e ∈ [Event.serviceClose a true], e.packetless = true := by
      simp [Event.packetless]
    obtain ⟨e,es',hlog,hbad,hpacket⟩ := send_gives uv d (unlink d a) clse rfl hunlink
    have hfresh := (quietly_send_frame uv (unlink d a) clse).fresh.ge
    rcases service_close_spec fs uv d a svc (some up) hg hreg ha hcl with
      ⟨heq,-⟩ | ⟨svc',os,es,-,hes,-,heq⟩
    · rw [heq]
      exact .gives e es' hlog hbad hpacket hfresh
    · rw [heq]
      refine .gives e (es' ++ .onClose a :: es) ?_ (fun hin => ?_) (fun b => ?_) hfresh
      · exact (congrArg (· ++ _) hlog).trans (List.append_assoc _ _ _)
      · rcases List.mem_append.mp hin with hin | hin
        · exact hbad hin
        · exact bad_release_packetless (hends hes) hin
      · rw [packet_events_append, packet_events_packetless b (hends hes), List.append_nil]
        exact hpacket b

theorem Move.passes {x y : Option ℕ × Daemon ω} (h : Move cfg fs uv x y) : Passing x y := by
  cases h with
  | unmoved hu =>
    obtain ⟨es,hlog,hes⟩ := hu.log
    exact .keeps es hlog (fun e he => packetless_idle (hes e he)) hu.live hu.fresh.ge
  | crash es hes =>
    refine .ends es rfl (fun e he => ?_) le_rfl rfl
    rcases hes with ⟨f,-,hf,rfl⟩ | ⟨a,rfl⟩
    · rw [List.mem_singleton.mp he]
      cases f <;> first | rfl | exact absurd rfl hf
    · rcases List.mem_cons.mp he with rfl | he
      · rfl
      · rw [List.mem_singleton.mp he]
        rfl
  | badRelease b hb => exact .misses hb
  | halt hc => exact .ends [] (List.append_nil _).symm (by simp) le_rfl hc
  | close why => exact passes_ops_close _ why
  | @alloc d cap init => exact .takes [.alloc d.fresh] rfl (by simp [Event.packetless]) rfl rfl
  | release b n =>
    refine .gives (.release b) [.release b] rfl (by simp) (fun c => ?_) le_rfl
    simp [packetEvents, List.filter_cons]
  | send up _ _ _ => exact passes_frame uv up rfl rfl
  | shift _ _ => exact passes_still rfl rfl rfl
  | @register h d svc peerId params _ _ _ _ =>
    exact passes_emit (.opened d.fresh params) rfl rfl rfl (Nat.le_succ _)
  | @writes h d a _ => exact passes_emit (.onWrite a) rfl rfl rfl le_rfl
  | @written h d a svc s _ _ _ c =>
    exact .keeps (.onWrite a :: c.log.map (.sync a)) (List.append_assoc _ _ _)
      (packetless_sync a rfl) rfl le_rfl
  | @kept d a svc up os _ _ _ =>
    refine .gives (.kept a up.addr) [.kept a up.addr] rfl (by simp) (fun c => ?_) le_rfl
    simp [packetEvents, List.filter_cons]
  | @acked h d a svc _ _ _ => exact passes_emit (.onAck a) rfl rfl rfl le_rfl
  | @ackedSync h d a svc s _ _ _ c =>
    exact .keeps (.onAck a :: c.log.map (.sync a)) (List.append_assoc _ _ _)
      (packetless_sync a rfl) rfl le_rfl
  | okay up _ _ _ _ => exact passes_frame uv up rfl rfl
  | connect up _ _ _ _ => exact passes_frame uv up rfl rfl
  | closed up hh hreg ha hcl hg _ => exact passes_service_close fs uv up hh hreg ha hcl hg

theorem Answering.passes {a : ℕ} {x y : Option ℕ × Daemon ω} (h : Answering uv a x y) :
    Passing x y := by
  cases h with
  | replied up _ _ _ _ => exact passes_frame uv up rfl rfl

theorem Continued.passes {a : ℕ} {x y : Option ℕ × Daemon ω} (h : Continued cfg fs uv a x y) :
    Passing x y := by
  cases h with
  | continued c up _ _ _ _ _ =>
    exact passes_send uv up (.onAck a :: c.log.map (.sync a)) (List.append_assoc _ _ _)
      (packetless_sync a rfl) le_rfl

/-! A chain of moves. -/

/-- The packet b is in hand, or one event has disposed of it; only a program that has crashed loses
it without. -/
structure Disposing (b : ℕ) (d : Daemon ω) (x : Option ℕ × Daemon ω) : Prop where
  lt : b < x.2.fresh
  live : ∀ c, x.1 = some c → c ∈ x.2.live
  log : ∃ es, x.2.log = d.log ++ es ∧ .fault .badRelease ∉ es ∧
    (x.1 = some b ∧ packetEvents b es = [] ∨
      x.1 ≠ some b ∧ (x.2.crashed = true ∧ packetEvents b es = [] ∨ ∃ e, packetEvents b es = [e]))

theorem Disposing.next {b : ℕ} {x y : Option ℕ × Daemon ω} (h : Disposing b d x)
    (hp : Passing x y) (hc : x.2.crashed = true → y.2.crashed = true) : Disposing b d y := by
  obtain ⟨es,hlog,hbad,hcase⟩ := h.log
  have hlt := h.lt
  have hlive := h.live
  have happend {es' : List Event} (hbad' : .fault .badRelease ∉ es') :
      .fault .badRelease ∉ es ++ es' := fun hin => (List.mem_append.mp hin).elim hbad hbad'
  cases hp with
  | keeps es' hlog' hes' hlive' hfresh =>
    refine ⟨hlt.trans_le hfresh,fun c hhand => hlive' ▸ hlive c hhand,es ++ es',?_,
      happend (bad_release_packetless hes'),?_⟩
    · rw [hlog', hlog, List.append_assoc]
    · rw [packet_events_append, packet_events_packetless b hes', List.append_nil]
      rcases hcase with hin | ⟨hout,⟨hcr,hnil⟩ | hone⟩
      · exact Or.inl hin
      · exact Or.inr ⟨hout,Or.inl ⟨hc hcr,hnil⟩⟩
      · exact Or.inr ⟨hout,Or.inr hone⟩
  | @takes e e' es' hlog' hes' hlive' hfresh =>
    have hne : some e.fresh ≠ some b := fun heq => absurd (Option.some.inj heq) (ne_of_gt hlt)
    refine ⟨hfresh ▸ hlt.trans (Nat.lt_succ_self _),fun c hhand => ?_,es ++ es',?_,
      happend (bad_release_packetless hes'),?_⟩
    · rw [← Option.some.inj hhand]
      exact hlive' ▸ List.mem_cons_self
    · rw [hlog', hlog, List.append_assoc]
    · rw [packet_events_append, packet_events_packetless b hes', List.append_nil]
      rcases hcase with ⟨hin,-⟩ | ⟨-,⟨hcr,hnil⟩ | hone⟩
      · cases hin
      · exact Or.inr ⟨hne,Or.inl ⟨hc hcr,hnil⟩⟩
      · exact Or.inr ⟨hne,Or.inr hone⟩
  | @gives c e₀ e₁ e es' hlog' hbad' hes' hfresh =>
    refine ⟨hlt.trans_le hfresh,nofun,es ++ es',?_,happend hbad',Or.inr ⟨nofun,?_⟩⟩
    · rw [hlog', hlog, List.append_assoc]
    · rw [packet_events_append, hes' b]
      rcases hcase with ⟨hin,hnil⟩ | ⟨hout,hout'⟩
      · rw [if_pos (Option.some.inj hin), hnil]
        exact Or.inr ⟨e,rfl⟩
      · rw [if_neg (fun heq => hout (congrArg some heq)), List.append_nil]
        exact hout'.imp_left (fun hcr => ⟨hc hcr.1,hcr.2⟩)
  | ends es' hlog' hes' hfresh hcr =>
    refine ⟨hlt.trans_le hfresh,nofun,es ++ es',?_,happend (bad_release_packetless hes'),
      Or.inr ⟨nofun,?_⟩⟩
    · rw [hlog', hlog, List.append_assoc]
    · rw [packet_events_append, packet_events_packetless b hes', List.append_nil]
      rcases hcase with ⟨-,hnil⟩ | ⟨-,⟨-,hnil⟩ | hone⟩
      · exact Or.inl ⟨hcr,hnil⟩
      · exact Or.inl ⟨hcr,hnil⟩
      · exact Or.inr hone
  | misses hnot => exact absurd (hlive _ rfl) hnot

theorem disposing_moves {b : ℕ} {x y : Option ℕ × Daemon ω} (h : Disposing b d x)
    (hm : Moves cfg fs uv x y) : Disposing b d y := by
  induction hm with
  | refl => exact h
  | tail _ hlast ih => exact ih.next hlast.passes hlast.crashed

/-! The packet of a callback. -/

/-- The events that dispose of the packet b. -/
def disposals (b : ℕ) (es : List Event) : ℕ := (packetEvents b es).countP fun e => !e.refusedWrite

/-- The packet b is released, taken by the transport or kept by a service, once, by the time the
code returns, and never again. -/
structure Disposed (b : ℕ) (d d' : Daemon ω) : Prop where
  once : disposals b (since d d') ≤ 1
  intact : .fault .badRelease ∉ since d d'
  done : d'.crashed = false → disposals b (since d d') = 1

/-- The transport refuses no frame in the packet b. -/
def Unrefused (b : ℕ) (d d' : Daemon ω) : Prop :=
  d'.crashed = false → ∀ m payload, .write b m payload false ∉ since d d'

/-- What the callers promise: the packet is live, and the services are what they are in every run.
-/
structure InHand (b : ℕ) (d : Daemon ω) : Prop where
  running : d.crashed = false
  table : Table d
  live : b ∈ d.live
  lt : b < d.fresh

theorem InHand.disposing {b : ℕ} (h : InHand b d) : Disposing b d (some b,d) :=
  ⟨h.lt,fun _ hc => Option.some.inj hc ▸ h.live,[],(List.append_nil _).symm,by simp,Or.inl ⟨rfl,rfl⟩⟩

theorem disposed_iff {b : ℕ} (h : Disposing b d (none,d')) :
    Disposed b d d' ↔ Unrefused b d d' := by
  obtain ⟨es,hlog,hbad,hcase⟩ := h.log
  have hmem (m : Amessage) (payload : List UInt8) :
      .write b m payload false ∈ es ↔ .write b m payload false ∈ packetEvents b es :=
    ⟨fun hin => List.mem_filter.mpr ⟨hin,decide_eq_true rfl⟩,fun hin => (List.mem_filter.mp hin).1⟩
  have hsince : since d d' = es := since_of_log hlog
  have hone : ∀ e, packetEvents b es = [e] →
      (disposals b es = 1 ↔ ∀ m payload, .write b m payload false ∉ es) := by
    intro e he
    have hevent : e ∈ packetEvents b es := he ▸ List.mem_singleton_self e
    rw [disposals, he, List.countP_singleton]
    constructor
    · intro hcount m payload hin
      rw [hmem, he, List.mem_singleton] at hin
      rw [← hin] at hcount
      cases hcount
    · intro hnone
      by_contra hne
      have href : e.refusedWrite = true := by
        by_contra hr
        exact hne (by simp [hr])
      obtain ⟨hin,hpacket⟩ := List.mem_filter.mp hevent
      cases e with
      | write c m payload ok =>
        obtain rfl : c = b := of_decide_eq_true hpacket
        cases ok with
        | true => cases href
        | false => exact hnone m payload hin
      | _ => cases href
  unfold Unrefused
  constructor
  · intro hd hc
    have hdone := hd.done hc
    rw [hsince] at hdone ⊢
    rcases hcase with ⟨hin,-⟩ | ⟨-,⟨hcr,-⟩ | ⟨e,he⟩⟩
    · cases hin
    · exact absurd (hc.symm.trans hcr) Bool.false_ne_true
    · exact (hone e he).mp hdone
  · intro hu
    rw [hsince] at hu
    refine ⟨?_,hsince ▸ hbad,fun hc => ?_⟩
    · rw [hsince]
      rcases hcase with ⟨hin,-⟩ | ⟨-,⟨-,hnil⟩ | ⟨e,he⟩⟩
      · cases hin
      · rw [disposals, hnil]
        exact Nat.zero_le _
      · rw [disposals, he]
        exact List.countP_le_length
    · rw [hsince]
      rcases hcase with ⟨hin,-⟩ | ⟨-,⟨hcr,-⟩ | ⟨e,he⟩⟩
      · cases hin
      · exact absurd (hc.symm.trans hcr) Bool.false_ne_true
      · exact (hone e he).mpr (hu hc)

theorem disposing_process_packet (up : ApacketUv) (h : InHand up.addr d) :
    Disposing up.addr d (none,adbProcessPacket cfg fs uv d up) := by
  cases framed_process_packet up cfg fs uv (fun _ => h.table) h.running with
  | moves _ hm => exact disposing_moves h.disposing hm
  | replied a y _ hm hf =>
    have hcr : y.2.crashed = true → (adbProcessPacket cfg fs uv d up).crashed = true := by
      generalize adbProcessPacket cfg fs uv d up = e at hf
      cases hf with
      | replied up' _ _ _ _ => exact send_frame_crashed uv _ up'
    exact (disposing_moves h.disposing hm).next hf.passes hcr
  | continued a y _ hm hf =>
    have hcr : y.2.crashed = true → (adbProcessPacket cfg fs uv d up).crashed = true := by
      generalize adbProcessPacket cfg fs uv d up = e at hf
      cases hf with
      | continued c up' _ _ _ _ _ => exact fun hc => send_frame_crashed uv _ up' hc
    exact (disposing_moves h.disposing hm).next hf.passes hcr

theorem disposing_after_write (up : ApacketUv) (fail : Bool) (h : InHand up.addr d) :
    Disposing up.addr d (none,adbUvAfterWrite cfg fs uv d up fail) := by
  have hrelease := moves_release cfg fs uv (fun _ => h.table) h.running
    up.addr
  unfold adbUvAfterWrite
  split
  · exact disposing_moves h.disposing (hrelease.next (fun _ => (Move.close .writeFailed).moves))
  · split
    · have hpass : Passing (some up.addr,d) (none,adbSendDataFrame uv d up) :=
        passes_frame uv ((up.message aWrte up.p.msg.arg0 up.p.msg.arg1 up.p.writeLen).setWriteLen 0)
          rfl rfl
      exact h.disposing.next hpass (fun hc => send_frame_crashed uv d _ hc)
    · exact disposing_moves h.disposing hrelease

/-- A frame of the host, and a frame that was written. -/
theorem packet_disposed_iff (cfg : Config) (fs : FileSystem ω) (uv : Uv ω) (d : Daemon ω)
    (up : ApacketUv) (h : InHand up.addr d) :
    (Disposed up.addr d (adbProcessPacket cfg fs uv d up) ↔
        Unrefused up.addr d (adbProcessPacket cfg fs uv d up)) ∧
      ∀ fail, Disposed up.addr d (adbUvAfterWrite cfg fs uv d up fail) ↔
        Unrefused up.addr d (adbUvAfterWrite cfg fs uv d up fail) :=
  ⟨disposed_iff (disposing_process_packet up h),
    fun fail => disposed_iff (disposing_after_write up fail h)⟩

/-- A packet that was just allocated, in any run. -/
theorem in_hand_new (h : Flowing cfg uv d) (hc : d.crashed = false) (cap : ℕ) (init : ℕ × Mem) :
    InHand d.fresh (newPacket d cap init).2 where
  running := hc
  table := (h.table hc).of_same rfl rfl (Nat.le_succ _)
  live := List.mem_cons_self
  lt := Nat.lt_succ_self _

/-- A client that holds a packet with a frame that finds no service. -/
def strayHeld : Daemon Unit :=
  (newPacket (daemonStart [] ()) defaultConfig.payloadSize (0,fun _ => 0)).2

/-- OPEN of a service that does not exist. -/
def strayOpen : ApacketUv :=
  ⟨0,defaultConfig.payloadSize,0,⟨aOpen,5,0,5,0,0⟩,store (fun _ => 0) 0 (ascii "none:")⟩

theorem stray_open_disposed :
    (Disposed 0 strayHeld (adbProcessPacket defaultConfig emptyFs plainUv strayHeld strayOpen) ↔
        Unrefused 0 strayHeld (adbProcessPacket defaultConfig emptyFs plainUv strayHeld strayOpen)) ∧
      ∀ fail, Disposed 0 strayHeld
          (adbUvAfterWrite defaultConfig emptyFs plainUv strayHeld strayOpen fail) ↔
        Unrefused 0 strayHeld
          (adbUvAfterWrite defaultConfig emptyFs plainUv strayHeld strayOpen fail) :=
  packet_disposed_iff defaultConfig emptyFs plainUv strayHeld strayOpen
    (in_hand_new (flowing_start defaultConfig plainUv [] ()) rfl _ _)

/-- libuv takes no frame. -/
def refusingUv : Uv Unit := { plainUv with write := fun s => (s,false) }

/-- The CLSE for a service that does not exist is refused: the packet is lost. -/
theorem refused_packet_lost :
    ¬Disposed 0 strayHeld (adbProcessPacket defaultConfig emptyFs refusingUv strayHeld strayOpen) := by
  intro h
  have hone := h.done (by decide +kernel)
  have hnone : disposals 0 (since strayHeld
      (adbProcessPacket defaultConfig emptyFs refusingUv strayHeld strayOpen)) = 0 := by
    decide +kernel
  omega

end MicroADB
