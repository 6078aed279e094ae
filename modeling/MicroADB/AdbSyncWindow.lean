import MicroADB.AdbReply
import MicroADB.AdbWindow

/-! The window of a sync service. Its replies leave in two steps: the data goes along in the packet
of the OKAY, and is written when the write of the OKAY has called back. A WRTE is owed from the
first step on. -/
namespace MicroADB
open ByteMemory EventRun

variable {ω : Type} {cfg : Config} {fs : FileSystem ω} {uv : Uv ω} {d d' : Daemon ω}

/-- The WRTEs of the stream n that were sent or wait behind their OKAY. -/
def owed (n : ℕ) (d : Daemon ω) : ℕ :=
  (payloads (streamFrames n d.log)).length+(replies d).countP fun up => up.p.msg.arg0 = n

/-! No move but the callback of an OKAY writes a WRTE. -/

theorem sends_wrte_of_none {e : Event} (h : e.sends = none) : e.sends ≠ some aWrte := by
  rw [h]
  exact nofun

theorem sends_idle {e : Event} (h : e.idle = true) : e.sends = none := by
  cases e <;> first | rfl | cases h

theorem replyless_single (e : Event) (hlog : d'.log = d.log ++ [e]) (he : e.sends = none) :
    Replyless d d' :=
  ⟨[e],hlog,fun _ hin => List.mem_singleton.mp hin ▸ sends_wrte_of_none he⟩

theorem replyless_sync_done (d : Daemon ω) (a : ℕ) (svc : Service) (c : SyncCtx ω) :
    Replyless d (syncDone d a svc c) := by
  refine ⟨c.log.map (.sync a),rfl,fun e he => ?_⟩
  obtain ⟨_,_,rfl⟩ := List.mem_map.mp he
  exact nofun

theorem Move.replyless {x y : Option ℕ × Daemon ω} (h : Move cfg fs uv x y) :
    Replyless x.2 y.2 := by
  cases h with
  | unmoved hu =>
    obtain ⟨es,hlog,hes⟩ := hu.log
    exact ⟨es,hlog,fun e he => sends_wrte_of_none (sends_idle (hes e he))⟩
  | crash es hes =>
    rcases hes with ⟨f,-,-,rfl⟩ | ⟨a,rfl⟩
    · exact replyless_single (.fault f) rfl rfl
    · exact ⟨_,rfl,by simp [Event.sends]⟩
  | badRelease b _ => exact replyless_single (.fault .badRelease) rfl rfl
  | halt _ => exact Logs.refl _ _
  | close why => exact replyless_ops_close _ why
  | @alloc d cap init => exact replyless_single (.alloc d.fresh) rfl rfl
  | release b n => exact replyless_single (.release b) rfl rfl
  | send up _ hwrte _ => exact replyless_send_frame uv _ up hwrte
  | shift ha hs => exact Logs.refl _ _
  | @register h d svc peerId params _ _ _ _ => exact replyless_single (.opened d.fresh params) rfl rfl
  | @writes h d a _ => exact replyless_single (.onWrite a) rfl rfl
  | @written h d a svc s _ _ _ c =>
    have hemit : Replyless d (d.emit (.onWrite a)) := replyless_emit d _ rfl
    exact hemit.trans (replyless_sync_done _ a svc c)
  | @kept d a svc up os _ _ _ => exact replyless_single (.kept a up.addr) rfl rfl
  | @acked h d a svc _ _ _ => exact replyless_single (.onAck a) rfl rfl
  | @ackedSync h d a svc s _ _ _ c =>
    have hemit : Replyless d (d.emit (.onAck a)) := replyless_emit d _ rfl
    exact hemit.trans (replyless_sync_done _ a svc c)
  | okay up _ hf _ _ =>
    refine replyless_send_frame uv _ up ?_
    rw [hf.command]
    decide
  | @connect d a svc up _ _ hf _ =>
    have hset : Replyless d
        (d.setService a (adbHalSocketStart { svc with kind := .tcp .connected })) :=
      Logs.refl _ d
    refine hset.trans (replyless_send_frame uv _ up ?_)
    rw [hf.command]
    decide
  | closed up _ _ _ _ _ _ => exact replyless_service_close fs uv _ _ up

theorem payloads_replyless (n : ℕ) (h : Replyless d d') :
    payloads (streamFrames n d'.log) = payloads (streamFrames n d.log) := by
  obtain ⟨es,hlog,hes⟩ := h
  have hnil : payloads (streamFrames n es) = [] := by
    refine List.filterMap_eq_nil_iff.mpr (fun f hf => ?_)
    obtain ⟨e,he,hframe⟩ := List.mem_filterMap.mp hf
    cases e with
    | write b m payload ok =>
      have hne : m.command ≠ aWrte := fun h => hes _ he (congrArg some h)
      rw [stream_frame_write, if_neg hne] at hframe
      split at hframe
      · cases hframe
      · split at hframe
        · rw [← Option.some.inj hframe]
        · cases hframe
    | _ => cases hframe
  rw [hlog, stream_frames_append, payloads_append, hnil, List.append_nil]

theorem owed_replyless (n : ℕ) (h : Replyless d d') (hr : replies d' = replies d) :
    owed n d' = owed n d := by
  unfold owed
  rw [payloads_replyless n h, hr]

theorem owed_of_same (n : ℕ) (hlog : d'.log = d.log) (hr : replies d' = replies d) :
    owed n d' = owed n d := by
  unfold owed
  rw [hlog, hr]

/-- The callback of an OKAY turns a reply that waits into one that was sent. -/
theorem owed_reply (n : ℕ) {up : ApacketUv} {rest : List ApacketUv}
    (hw : d.socket.writes = up :: rest) (hpos : 0 < up.p.writeLen) :
    owed n (adbSendDataFrame uv (d.setSocket { d.socket with writes := rest }) up) = owed n d := by
  set e := d.setSocket { d.socket with writes := rest } with he
  set up' := (up.message aWrte up.p.msg.arg0 up.p.msg.arg1 up.p.writeLen).setWriteLen 0 with hup'
  have hframe (ok : Bool) : streamFrame up'.p.msg.arg0
      (.write up'.addr up'.p.seal.msg up'.p.payload ok) = some (.wrte up.p.msg.arg1 up'.p.payload) := by
    rw [stream_frame_write, if_neg (by exact not_not_intro rfl)]
    rfl
  obtain ⟨es,hlog,hadds⟩ := adds_send uv e hframe 0
  have hreplies : replies (sendFrame uv e up') = replies e := replies_send uv e up' rfl
  have hpop : replies d = up :: replies e := by
    unfold replies
    rw [hw, List.filter_cons, if_pos (decide_eq_true hpos)]
    rfl
  have hsent : owed n (sendFrame uv e up') = owed n d := by
    unfold owed
    rw [hlog, stream_frames_append, hadds.frames, hreplies, hpop, List.countP_cons, payloads_append]
    have harg0 : up'.p.msg.arg0 = up.p.msg.arg0 := rfl
    rw [harg0]
    by_cases hn : n = up.p.msg.arg0
    · subst hn
      simp [payloads, he]
      omega
    · rw [if_neg hn]
      simp [payloads, he, Ne.symm hn]
  exact hsent

theorem StepMove.owed_le {x y : Option ℕ × Daemon ω} (h : StepMove cfg fs uv x y) (n : ℕ) :
    owed n y.2 ≤ owed n x.2 := by
  cases h with
  | move hm => exact le_of_eq (owed_replyless n hm.replyless hm.replies)
  | @pop d up rest hw =>
    unfold owed
    refine Nat.add_le_add_left ?_ _
    rcases replies_pop hw with hp | hp
    · exact hp ▸ le_rfl
    · rw [hp, List.countP_cons]
      exact Nat.le_add_right _ _
  | reply hw hpos => exact (owed_reply n hw hpos).le
  | popStream _ _ => exact le_of_eq (owed_of_same n rfl rfl)
  | handed _ => exact le_of_eq (owed_of_same n rfl rfl)
  | keep ap _ => exact le_of_eq (owed_of_same n rfl rfl)
  | @releaseCur d ap _ m =>
    exact le_of_eq (owed_replyless n (replyless_single (.release ap.addr) rfl rfl) rfl)
  | badCur _ _ => exact le_of_eq (owed_replyless n (replyless_single (.fault .badRelease) rfl rfl) rfl)
  | dropCur => exact le_of_eq (owed_of_same n rfl rfl)
  | dropped b => exact le_of_eq (owed_of_same n rfl rfl)
  | @free d a svc _ _ _ => exact le_of_eq (owed_replyless n (replyless_single (.freed a) rfl rfl) rfl)
  | gone _ => exact le_of_eq (owed_replyless n (replyless_single .clientFreed rfl rfl) rfl)

theorem StepMoves.owed_le {x y : Option ℕ × Daemon ω} (h : StepMoves cfg fs uv x y) (n : ℕ) :
    owed n y.2 ≤ owed n x.2 := by
  induction h with
  | refl => exact le_rfl
  | tail _ hlast ih => exact (hlast.owed_le n).trans ih

/-! A callback. -/

/-- The stream of a service that is not open yet. -/
theorem owed_unopened (hs : Streams d) {a : ℕ} (es : List Event) (ha : a ∉ openings d.log) :
    owed (streamId a (d.log ++ es)) d = 0 := by
  have hlarge : (openings d.log).length < streamId a (d.log ++ es) := by
    rw [streamId, openings_append, List.idxOf_append_of_notMem ha]
    omega
  have hother (b : ℕ) (hb : b ∈ openings d.log) : streamId a (d.log ++ es) ≠ streamId b d.log :=
    fun heq => absurd (stream_id_le hb) (by omega)
  have hframes : streamFrames (streamId a (d.log ++ es)) d.log = [] := by
    by_contra hne
    obtain ⟨b,hb,heq⟩ := hs.frames _ hne
    exact hother b hb heq
  have hreplies : (replies d).countP (fun up => up.p.msg.arg0 = streamId a (d.log ++ es)) = 0 := by
    refine List.countP_eq_zero.mpr (fun up hup => ?_)
    obtain ⟨b,svc,hb,hk,harg0,-⟩ := hs.replies up hup
    obtain ⟨hin,-,hid⟩ := hs.ids b svc hb
    rcases hid with hid | ⟨-,hkind⟩
    · simpa [harg0, hid] using (hother b hin).symm
    · rw [hkind] at hk
      exact hk.elim
  rw [owed, hframes, hreplies]
  rfl

/-- A WRTE of the host is answered with data only when the host has acknowledged all that is owed to
it. -/
def Paced (cfg : Config) (fs : FileSystem ω) (uv : Uv ω) (a : ℕ) (d : Daemon ω)
    (i : Input) : Prop :=
  streamReplies cfg fs uv d i = some a → owed (streamId a d.log) d ≤ acks a d.log

instance (a : ℕ) (d : Daemon ω) (i : Input) : Decidable (Paced cfg fs uv a d i) :=
  inferInstanceAs (Decidable (_ → _))

/-- A frame of one service. -/
theorem ActsAt.owed {a b : ℕ} {svc svc' : Service} {fs' : List StreamFrame} {k : ℕ}
    (h : ActsAt b svc svc' fs' k d d') (hs : Streams d) (ha : a ∈ openings d.log) :
    payloads (streamFrames (streamId a d'.log) d'.log) =
        payloads (streamFrames (streamId a d.log) d.log) ++ (if a = b then payloads fs' else []) ∧
      MicroADB.acks a d'.log = MicroADB.acks a d.log+if a = b then k else 0 := by
  obtain ⟨svc₀,ha₀⟩ := hs.opened a ha
  by_cases hab : a = b
  · subst hab
    obtain ⟨frames,n,hbefore,hafter⟩ := h.self hs
    have hheap : d'.heap a = some svc' := by rw [h.after, Function.update_self]
    have hold := Option.some.inj ((stream_at h.before).symm.trans hbefore)
    have hnew := Option.some.inj ((stream_at hheap).symm.trans hafter)
    injection hold with _ hframes hacks
    injection hnew with _ hframes' hacks'
    rw [if_pos rfl, if_pos rfl, hframes', hframes, hacks', hacks, payloads_append]
    exact ⟨rfl,rfl⟩
  · have hsame := h.other hs hab
    have hheap : d'.heap a = some svc₀ := by rw [h.after, Function.update_of_ne hab]; exact ha₀
    rw [stream_at hheap, stream_at ha₀] at hsame
    injection Option.some.inj hsame with _ hframes hacks
    rw [if_neg hab, if_neg hab, hframes, hacks, List.append_nil]
    exact ⟨rfl,rfl⟩

theorem ActsAt.owed_eq {a b : ℕ} {svc svc' : Service} {fs' : List StreamFrame} {k : ℕ}
    {ups : List ApacketUv} (h : ActsAt b svc svc' fs' k d d') (hs : Streams d)
    (ha : a ∈ openings d.log) (hr : replies d' = replies d ++ ups) :
    MicroADB.owed (streamId a d'.log) d' = MicroADB.owed (streamId a d'.log) d+
      ((if a = b then (payloads fs').length else 0)+
        ups.countP fun up => up.p.msg.arg0 = streamId a d'.log) := by
  obtain ⟨hpay,-⟩ := h.owed hs ha
  obtain ⟨es,hb,-⟩ := h.trace
  have hid : streamId a d'.log = streamId a d.log := by rw [hb.log, stream_id_append es ha]
  unfold MicroADB.owed
  rw [hpay, hr, hid, List.length_append, List.countP_append]
  split
  · omega
  · rw [List.length_nil]
    omega

/-- The service of a stream was there before its last act. -/
theorem ActsAt.opened {a b : ℕ} {svc svc' svc₀ : Service} {fs' : List StreamFrame} {k : ℕ}
    (h : ActsAt b svc svc' fs' k d d') (hs : Streams d) (ha : d'.heap a = some svc₀) :
    a ∈ openings d.log := by
  rw [h.after] at ha
  by_cases hab : a = b
  · exact hab ▸ (hs.ids b svc h.before).1
  · rw [Function.update_of_ne hab] at ha
    exact (hs.ids a svc₀ ha).1

theorem acks_le (a : ℕ) {l l' : List Event} (h : ∃ es, l' = l ++ es) : acks a l ≤ acks a l' := by
  obtain ⟨es,rfl⟩ := h
  rw [acks_append]
  exact Nat.le_add_right _ _

/-- A callback: what it adds to the WRTEs that are owed it takes from the OKAYs, or it answers a
WRTE with data. -/
theorem owed_step (h : Flowing cfg uv d) (i : Input) {a : ℕ} {svc : Service}
    (ha : (step cfg fs uv d i).heap a = some svc) (hk : svc.kind.IsSync) :
    owed (streamId a (step cfg fs uv d i).log) (step cfg fs uv d i)+acks a d.log ≤
        owed (streamId a (step cfg fs uv d i).log) d+acks a (step cfg fs uv d i).log ∨
      streamReplies cfg fs uv d i = some a ∧
        owed (streamId a (step cfg fs uv d i).log) (step cfg fs uv d i) ≤
          owed (streamId a (step cfg fs uv d i).log) d+1 := by
  have hacks := acks_le a (step_grows cfg fs uv i h.table h.streams a).1
  -- The last act of the callback is that of another stream, or it sends no data on this one.
  have hsame {x : Option ℕ × Daemon ω} (hm : StepMoves cfg fs uv (none,d) x)
      (heq : owed (streamId a (step cfg fs uv d i).log) (step cfg fs uv d i) =
        owed (streamId a (step cfg fs uv d i).log) x.2) :
      owed (streamId a (step cfg fs uv d i).log) (step cfg fs uv d i)+acks a d.log ≤
        owed (streamId a (step cfg fs uv d i).log) d+acks a (step cfg fs uv d i).log :=
    Nat.add_le_add (heq.le.trans (hm.owed_le _)) hacks
  cases step_stepped cfg fs uv i h.table with
  | moves _ _ hm => exact Or.inl (hsame hm rfl)
  | fed b bs x _ _ hm hf =>
    obtain ⟨⟨svc₀,svc',hfill,hacts⟩,hr⟩ := hf.acts
    have hs := hm.streams h.streams
    have heq := hacts.owed_eq hs (hacts.opened hs ha) (hr.trans (List.append_nil _).symm)
    have hab : a ≠ b := by
      rintro rfl
      rw [hacts.after, Function.update_self] at ha
      rw [← Option.some.inj ha] at hk
      exact hfill.waiting.2.2 (hacts.tame.isSync.mp hk)
    rw [if_neg hab] at heq
    exact Or.inl (hsame hm heq)
  | returned b _ _ hret =>
    obtain ⟨⟨svc₀,writes,_,hacts⟩,hr⟩ := hret.acts
    have heq := hacts.owed_eq h.streams (hacts.opened h.streams ha)
      (hr.trans (List.append_nil _).symm)
    have hzero : (if a = b then (payloads [.okay svc₀.peerId]).length else 0) = 0 := ite_self _
    rw [hzero] at heq
    exact Or.inl (hsame (StepMoves.refl (none,d) : StepMoves cfg fs uv _ _) heq)
  | replied b x _ _ hrep hm hf =>
    obtain ⟨svc₀,hk₀,hacts,hreplies⟩ := hf.acts
    have hs := hm.streams h.streams
    have hin := hacts.opened hs ha
    have hzero : (if a = b then (payloads [.okay svc₀.peerId]).length else 0) = 0 := ite_self _
    rcases hreplies with hr | ⟨up,harg0,-,hr⟩
    · have heq := hacts.owed_eq hs hin (hr.trans (List.append_nil _).symm)
      rw [hzero] at heq
      exact Or.inl (hsame hm heq)
    · have heq := hacts.owed_eq hs hin hr
      rw [hzero, Nat.zero_add, List.countP_singleton] at heq
      by_cases hab : a = b
      · subst hab
        refine Or.inr ⟨hrep,heq.le.trans (Nat.add_le_add (hm.owed_le _) ?_)⟩
        split <;> omega
      · obtain ⟨-,-,hid⟩ := hs.ids b svc₀ hacts.before
        obtain ⟨es,hb,-⟩ := hacts.trace
        have hne : up.p.msg.arg0 ≠ streamId a (step cfg fs uv d i).log := by
          rw [hb.log, stream_id_append es hin, harg0]
          rcases hid with hid | ⟨-,hkind⟩
          · rw [hid]
            exact fun heq => hab (stream_id_inj hin heq.symm)
          · rw [hkind] at hk₀
            exact hk₀.elim
        rw [if_neg (by simpa using hne)] at heq
        exact Or.inl (hsame hm heq)
  | continued b x _ _ hm hf =>
    obtain ⟨⟨svc₀,afs,afs',payload,_,hacts⟩,hr⟩ := hf.acts
    have hs := hm.streams h.streams
    have hin := hacts.opened hs ha
    have heq := hacts.owed_eq hs hin (hr.trans (List.append_nil _).symm)
    obtain ⟨-,hack⟩ := hacts.owed hs hin
    by_cases hab : a = b
    · rw [if_pos hab] at heq hack
      have hle := hm.owed_le (streamId a (step cfg fs uv d i).log)
      have hmono := acks_le a (hm.log h.streams)
      have hone : (payloads [.wrte svc₀.peerId payload]).length = 1 := rfl
      rw [hone, List.countP_nil] at heq
      dsimp only at heq hack hle hmono
      exact Or.inl (by omega)
    · rw [if_neg hab] at heq
      exact Or.inl (hsame hm heq)

theorem stream_runs_sync {s s' : Stream} (h : Relation.ReflTransGen StreamStep s s') :
    s'.svc.kind.IsSync ↔ s.svc.kind.IsSync := by
  induction h with
  | refl => exact Iff.rfl
  | tail _ hlast ih =>
    cases hlast with
    | step frames n hacts => exact hacts.is_sync.trans ih

/-- A service stays a sync service, and nothing becomes one. -/
theorem step_sync (h : Flowing cfg uv d) (i : Input) {a : ℕ} {svc svc' : Service}
    (ha : d.heap a = some svc) (ha' : (step cfg fs uv d i).heap a = some svc') :
    svc'.kind.IsSync ↔ svc.kind.IsSync := by
  obtain ⟨s,⟨s₀,hstart,hacts⟩,hfin⟩ := step_stream i h.table h.streams a (stream_at ha')
  rw [stream_at ha] at hstart
  rcases hstart with hsame | ⟨hnone,-⟩
  · have hs₀ := stream_runs_sync hacts
    rw [← Option.some.inj hsame] at hs₀
    exact hfin.is_sync.trans hs₀
  · cases hnone

/-! Runs. -/

/-- At most one WRTE of the sync service at a is owed and not acknowledged. -/
structure InSyncWindow (cfg : Config) (uv : Uv ω) (a : ℕ) (d : Daemon ω) : Prop
    extends Flowing cfg uv d where
  window : ∀ svc, d.heap a = some svc → svc.kind.IsSync →
    owed (streamId a d.log) d ≤ acks a d.log+1

theorem InSyncWindow.step {a : ℕ} (h : InSyncWindow cfg uv a d) (i : Input)
    (hp : Paced cfg fs uv a d i) : InSyncWindow cfg uv a (MicroADB.step cfg fs uv d i) := by
  refine ⟨h.toFlowing.step i,fun svc ha hk => ?_⟩
  obtain ⟨es,hlog⟩ := (step_grows cfg fs uv i h.table h.streams a).1
  have hbefore : owed (streamId a (MicroADB.step cfg fs uv d i).log) d ≤ acks a d.log+1 ∧
      (streamReplies cfg fs uv d i = some a →
        owed (streamId a (MicroADB.step cfg fs uv d i).log) d ≤ acks a d.log) := by
    rw [hlog]
    by_cases hin : a ∈ openings d.log
    · obtain ⟨svc₀,ha₀⟩ := h.streams.opened a hin
      rw [stream_id_append es hin]
      exact ⟨h.window svc₀ ha₀ ((step_sync h.toFlowing i ha₀ ha).mp hk),hp⟩
    · rw [owed_unopened h.streams es hin]
      exact ⟨Nat.zero_le _,fun _ => Nat.zero_le _⟩
  have hmono := acks_le a ⟨es,hlog⟩
  rcases owed_step h.toFlowing i ha hk with hle | ⟨hrep,hle⟩
  · have hold := hbefore.1
    omega
  · have hold := hbefore.2 hrep
    omega

theorem sync_window_run (cfg : Config) (fs : FileSystem ω) (uv : Uv ω) (token : List UInt8) (os : ω)
    (is : List Input) (a : ℕ)
    (h : Along (step cfg fs uv) (Paced cfg fs uv a) (daemonStart token os) is) :
    InSyncWindow cfg uv a (daemonRun cfg fs uv token os is) := by
  have hstart : InSyncWindow cfg uv a (daemonStart token os) :=
    ⟨flowing_start cfg uv token os,fun _ h _ => by cases h⟩
  exact run_invariant_along _ (InSyncWindow cfg uv a) (Paced cfg fs uv a)
    (fun _ i h hp => h.step i hp) _ hstart is h

/-- A host that waits for the data of its requests never has two WRTEs to acknowledge. -/
theorem sync_window (cfg : Config) (fs : FileSystem ω) (uv : Uv ω) (token : List UInt8) (os : ω)
    (is : List Input) (a : ℕ) (svc : Service)
    (h : Along (step cfg fs uv) (Paced cfg fs uv a) (daemonStart token os) is)
    (ha : (daemonRun cfg fs uv token os is).heap a = some svc) (hk : svc.kind.IsSync) :
    (payloads (streamFrames (streamId a (daemonRun cfg fs uv token os is).log)
        (daemonRun cfg fs uv token os is).log)).length ≤
      acks a (daemonRun cfg fs uv token os is).log+1 := by
  have hrun := sync_window_run cfg fs uv token os is a h
  exact (Nat.le_add_right _ _).trans (hrun.window svc ha hk)

/-- The host sends the service at a no WRTE while data that is owed to it is not acknowledged. -/
def Patient (cfg : Config) (fs : FileSystem ω) (uv : Uv ω) (a : ℕ) (d : Daemon ω) (i : Input) :
    Prop :=
  ∀ r up d', i = .transportRead r → receive cfg fs uv d r = (some up, d') →
    up.p.msg.command = aWrte → adbClientFindService d' up.p.msg.arg1 up.p.msg.arg0 = some a →
    owed (streamId a d.log) d ≤ acks a d.log

/-- Only a WRTE of the host is answered with data. -/
theorem paced_of_patient {a : ℕ} {i : Input} (h : Patient cfg fs uv a d i) :
    Paced cfg fs uv a d i := by
  intro hrep
  unfold streamReplies at hrep
  split at hrep
  · rename_i r
    split at hrep
    · dsimp only at hrep
      split at hrep
      · cases hrep
      · obtain ⟨up,hup,hframe⟩ := Option.bind_eq_some_iff.mp hrep
        unfold frameReplies at hframe
        split at hframe
        · rename_i hcmd
          refine h r up _ rfl (Prod.ext hup rfl) hcmd ?_
          unfold writeReplies at hframe
          split at hframe
          · cases hframe
          · rename_i b hfind
            dsimp only at hframe
            split at hframe
            · rw [← Option.some.inj hframe]
              exact hfind
            · cases hframe
        · cases hframe
    · cases hrep
  · cases hrep

/-- A host that sends no WRTE on the stream before it has acknowledged the data of the last one. -/
theorem patient_window (cfg : Config) (fs : FileSystem ω) (uv : Uv ω) (token : List UInt8) (os : ω)
    (is : List Input) (a : ℕ)
    (h : Along (step cfg fs uv) (Patient cfg fs uv a) (daemonStart token os) is) :
    InSyncWindow cfg uv a (daemonRun cfg fs uv token os is) := by
  have hpaced : Along (step cfg fs uv) (Paced cfg fs uv a) (daemonStart token os) is :=
    along_of_invariant _ (fun _ => True) (Patient cfg fs uv a) _ (fun _ _ _ _ => trivial)
      (fun _ _ _ hp => paced_of_patient hp) _ trivial is h
  exact sync_window_run cfg fs uv token os is a hpaced

/-- A STAT of the host, until its reply is sent. -/
def statFrames : List Input :=
  hostFrame aWrte 5 1 statRequest ++ [.transportWritten false,.transportWritten false]

/-- Two STATs, the second one behind the OKAY for the reply to the first. -/
def statsInTurn : List Input :=
  hostFrame aOpen 5 0 (ascii "sync:" ++ [0]) ++ statFrames ++ hostFrame aOkay 5 1 [] ++ statFrames

theorem sync_is_sync {d : Daemon ω} {a : ℕ}
    (h : ((d.heap a).any fun svc => svc.kind.afs.isSome) = true) :
    ∃ svc, d.heap a = some svc ∧ svc.kind.IsSync := by
  obtain ⟨svc,ha,hk⟩ := (Option.any_eq_true _ _).mp h
  obtain ⟨s,hs⟩ := Option.isSome_iff_exists.mp hk
  refine ⟨svc,ha,?_⟩
  rw [ServiceKind.afs_eq hs]
  trivial

theorem stats_in_turn_acked :
    (payloads (streamFrames (streamId 1 (daemonRun defaultConfig emptyFs plainUv [] () statsInTurn).log)
        (daemonRun defaultConfig emptyFs plainUv [] () statsInTurn).log)).length ≤
      acks 1 (daemonRun defaultConfig emptyFs plainUv [] () statsInTurn).log+1 := by
  obtain ⟨svc,ha,hk⟩ := sync_is_sync (a := 1)
    (d := daemonRun defaultConfig emptyFs plainUv [] () statsInTurn) (by decide +kernel)
  exact sync_window defaultConfig emptyFs plainUv [] () statsInTurn 1 svc (by decide +kernel) ha hk

/-! A host that keeps the window, and still has two WRTEs to acknowledge. -/

/-- The WRTEs of the host that reached the service at a. -/
def hostWrites (a : ℕ) (log : List Event) : ℕ := log.count (.onWrite a)

/-- The rule of the window, for the host: its OKAYs are for WRTEs that it has got, and each of its
WRTEs but the first waits for the OKAY of the one before it. -/
def HostKeeps (cfg : Config) (fs : FileSystem ω) (uv : Uv ω) (a : ℕ) (d : Daemon ω) (i : Input) :
    Prop :=
  HostAcks cfg fs uv a d i ∧
    hostWrites a (step cfg fs uv d i).log ≤
      okays (streamFrames (streamId a (step cfg fs uv d i).log) d.log)

instance (a : ℕ) (d : Daemon ω) (i : Input) : Decidable (HostKeeps cfg fs uv a d i) :=
  inferInstanceAs (Decidable (_ ∧ _))

/-- The second STAT is sent when the first was answered by OKAY, and its reply is not yet
acknowledged. -/
def statsPipelined : List Input :=
  hostFrame aOpen 5 0 (ascii "sync:" ++ [0]) ++ statFrames ++ statFrames

theorem pipelined_stats_unacked :
    Along (step defaultConfig emptyFs plainUv) (HostKeeps defaultConfig emptyFs plainUv 1)
        (daemonStart [] ()) statsPipelined ∧
      (∃ svc, (daemonRun defaultConfig emptyFs plainUv [] () statsPipelined).heap 1 = some svc ∧
        svc.kind.IsSync) ∧
      ¬(payloads (streamFrames
          (streamId 1 (daemonRun defaultConfig emptyFs plainUv [] () statsPipelined).log)
          (daemonRun defaultConfig emptyFs plainUv [] () statsPipelined).log)).length ≤
        acks 1 (daemonRun defaultConfig emptyFs plainUv [] () statsPipelined).log+1 :=
  ⟨by decide +kernel,sync_is_sync (by decide +kernel),by decide +kernel⟩

end MicroADB
