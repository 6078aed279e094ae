import MicroADB.AdbWindow

/-! The answer to the OPEN of a tcp service. It waits for the connection, and for a packet: until
then the stream is silent, and a connection that fails leaves a CLSE. -/
namespace MicroADB
open ByteMemory EventRun

variable {ω : Type} {cfg : Config} {fs : FileSystem ω} {uv : Uv ω} {d d' : Daemon ω}

/-! The acts of a tcp service. -/

/-- The connection was made and the host was told. -/
def StreamState.Connected (state : StreamState) : Prop :=
  StreamState.connected.index ≤ state.index

instance (state : StreamState) : Decidable state.Connected := inferInstanceAs (Decidable (_ ≤ _))

/-- What an act does with the state of a tcp service, and what it sends: only the act that leaves
notifyClient sends something, the answer to the OPEN. -/
inductive TcpActs (peerId : ℕ) : StreamState → StreamState → List StreamFrame → Prop
  | before {state state' : StreamState} (h : ¬state.Connected) (h' : ¬state'.Connected) :
    TcpActs peerId state state' []
  | answer : TcpActs peerId .notifyClient .connected [.okay peerId]
  | after {state state' : StreamState} (h : state.Connected) (h' : state'.Connected) :
    TcpActs peerId state state' []

theorem TcpActs.still (peerId : ℕ) (state : StreamState) : TcpActs peerId state state [] := by
  by_cases h : state.Connected
  · exact .after h h
  · exact .before h h

theorem Shift.tcp {svc svc' : Service} (h : Shift svc svc') {state' : StreamState}
    (hk' : svc'.kind = .tcp state') :
    ∃ state, svc.kind = .tcp state ∧ TcpActs svc.peerId state state' [] := by
  cases h with
  | start hk =>
    rw [(socket_start_same svc).2.2] at hk'
    exact ⟨state',hk',.still _ _⟩
  | kick waitAck hk =>
    rw [(shell_kick_same svc waitAck).2.2, hk] at hk'
    cases hk'
  | notify hk =>
    cases hk'
    exact ⟨.notConnected,hk,.before (by decide) (by decide)⟩
  | fail hk =>
    cases hk'
    exact ⟨.notConnected,hk,.before (by decide) (by decide)⟩
  | _ => exact ⟨state',hk',.still _ _⟩

theorem acked_tcp {svc : Service} {state' : StreamState} (hk' : svc.acked.kind = .tcp state') :
    ∃ state, svc.kind = .tcp state ∧ TcpActs svc.peerId state state' [] := by
  unfold Service.acked at hk'
  split at hk'
  · rename_i s hk
    rw [hk] at hk'
    cases hk'
  · rename_i hk
    rw [(socket_start_same _).2.2] at hk'
    cases hk'
    exact ⟨.waitAck,hk,.after (by decide) (by decide)⟩
  · exact ⟨state',hk',.still _ _⟩
  · rw [(shell_kick_same _ _).2.2] at hk'
    cases hk'

theorem Acts.tcp {svc svc' : Service} {fs : List StreamFrame} {k : ℕ} (h : Acts svc svc' fs k)
    {state' : StreamState} (hk' : svc'.kind = .tcp state') :
    ∃ state, svc.kind = .tcp state ∧ TcpActs svc.peerId state state' fs := by
  cases h with
  | shift hs => exact hs.tcp hk'
  | sync _ _ _ => cases hk'
  | acked _ => exact acked_tcp hk'
  | okay hk =>
    rw [hk'] at hk
    rcases hk with hk | ⟨_,hk⟩ <;> cases hk
  | connect hk =>
    rw [(socket_start_same _).2.2] at hk'
    cases hk'
    exact ⟨.notifyClient,hk,.answer⟩
  | reply hk _ =>
    rw [hk'] at hk
    exact hk.elim
  | ended hend =>
    rcases hend.kind with he | ⟨s,s',-,hs'⟩
    · exact ⟨state',he.symm.trans hk',.still _ _⟩
    · rw [hs'] at hk'
      cases hk'
  | _ => exact ⟨state',hk',.still _ _⟩

/-! One stream. -/

/-- A tcp service that is not connected has sent nothing; behind the answer to the OPEN, a connected
one has sent n OKAYs. -/
def Stream.Answered (s : Stream) (n : ℕ) : Prop :=
  s.svc.peerId ≠ 0 ∧ ∀ state, s.svc.kind = .tcp state →
    if state.Connected then ∃ rest, s.frames = .okay s.svc.peerId :: rest ∧ okays rest = n
    else s.frames = [] ∧ n = 0

theorem Stream.New.answered {s : Stream} (h : s.New) : s.Answered 0 := by
  refine ⟨h.peerId,fun state hk => ?_⟩
  have hnot : ¬state.Connected := by
    rcases h.kind with hs | hs | hs
    · rw [hk] at hs
      exact hs.elim
    · cases hs.symm.trans hk
      decide
    · cases hs.symm.trans hk
  rw [if_neg hnot]
  exact ⟨h.frames,rfl⟩

theorem StreamStep.answered {s s' : Stream} {n : ℕ} (h : StreamStep s s') (hs : s.Answered n) :
    s'.Answered n := by
  obtain ⟨hpeer,hkind⟩ := hs
  cases h with
  | @step svc svc' fs k frames m hacts =>
    have hids : svc'.peerId = svc.peerId := (hacts.ids hpeer).1
    refine ⟨fun hzero => hpeer (hids.symm.trans hzero),fun state' hk' => ?_⟩
    obtain ⟨state,hk,htcp⟩ := hacts.tcp hk'
    have hold := hkind state hk
    dsimp only at hold ⊢
    rw [hids]
    cases htcp with
    | before h h' =>
      rw [if_neg h] at hold
      rw [if_neg h', List.append_nil]
      exact hold
    | answer =>
      rw [if_neg (by decide)] at hold
      rw [if_pos (by decide), hold.1, hold.2]
      exact ⟨[],rfl,rfl⟩
    | after h h' =>
      rw [if_pos h] at hold
      rw [if_pos h', List.append_nil]
      exact hold

theorem stream_acts_answered {s s' : Stream} {n : ℕ} (h : Relation.ReflTransGen StreamStep s s')
    (hs : s.Answered n) : s'.Answered n := by
  induction h with
  | refl => exact hs
  | tail _ hlast ih => exact hlast.answered ih

/-- The WRTEs of the host that a callback reports as written to the stream at a. -/
def writtenBack (a : ℕ) (d : Daemon ω) (i : Input) : List ℕ :=
  (streamReturns d i).toList.filter (· = a)

theorem written_back_some {a : ℕ} {i : Input} (h : streamReturns d i = some a) :
    writtenBack a d i = [a] := by
  unfold writtenBack
  rw [h]
  simp

theorem written_back_none {a : ℕ} {i : Input} (h : streamReturns d i ≠ some a) :
    writtenBack a d i = [] := by
  refine List.filter_eq_nil_iff.mpr (fun b hb => ?_)
  rw [Option.mem_toList] at hb
  simpa using fun hba : b = a => h (hba ▸ hb)

/-- What a callback ends with answers the WRTEs that were written, and nothing else. -/
theorem Finish.answered {i : Input} {a n : ℕ} {s s' : Stream} (h : Finish cfg fs uv d i a s s')
    (hs : s.Answered n) : s'.Answered (n+(writtenBack a d i).length) := by
  obtain ⟨hpeer,hkind⟩ := hs
  cases h with
  | same _ hr =>
    rw [written_back_none hr]
    exact ⟨hpeer,hkind⟩
  | fed bs svc' _ hr hf =>
    rw [written_back_none hr]
    cases hf with
    | tcp hk =>
      refine ⟨hpeer,fun state hk' => ?_⟩
      have hold := hkind _ hk
      rw [if_pos (by decide)] at hold
      obtain ⟨rest,hframes,hrest⟩ := hold
      cases hk'
      rw [if_pos (by decide)]
      dsimp only
      refine ⟨rest ++ [.wrte s.svc.peerId bs],by rw [hframes]; rfl,?_⟩
      rw [okays, List.countP_append]
      exact hrest
    | shell hk => exact ⟨hpeer,fun state hk' => by cases hk'⟩
  | returned writes _ hr hk =>
    rw [written_back_some hr]
    refine ⟨hpeer,fun state hk' => ?_⟩
    have hcon : state.Connected := by
      rw [hk'] at hk
      exact hk
    have hold := hkind state hk'
    rw [if_pos hcon] at hold ⊢
    obtain ⟨rest,hframes,hrest⟩ := hold
    dsimp only
    refine ⟨rest ++ [.okay s.svc.peerId],by rw [hframes]; rfl,?_⟩
    rw [okays, List.countP_append, ← okays, hrest]
    rfl
  | replied _ _ _ hk =>
    refine ⟨hpeer,fun state hk' => ?_⟩
    rw [hk'] at hk
    exact hk.elim
  | continued afs afs' payload _ _ _ => exact ⟨hpeer,fun state hk' => by cases hk'⟩

/-! Runs. -/

/-- The stream at a, to which the WRTEs bs of the host were written. -/
structure InAnswer (cfg : Config) (uv : Uv ω) (a : ℕ) (d : Daemon ω) (bs : List ℕ) : Prop
    extends Flowing cfg uv d where
  absent : streamAt a d = none → bs = []
  answered : ∀ s, streamAt a d = some s → s.Answered bs.length

theorem stream_returns_present {i : Input} {a : ℕ} (h : streamReturns d i = some a) :
    streamAt a d ≠ none := by
  cases i with
  | streamWritten b fail =>
    obtain ⟨hb,hab⟩ := Option.ite_none_right_eq_some.mp h
    obtain rfl := Option.some.inj hab
    obtain ⟨svc,ha,-⟩ := (Option.any_eq_true _ _).mp hb.2
    rw [stream_at ((alive_iff _ _ _).mp ha).1]
    exact Option.some_ne_none _
  | _ => cases h

theorem InAnswer.step {a : ℕ} {bs : List ℕ} (h : InAnswer cfg uv a d bs) (i : Input) :
    InAnswer cfg uv a (MicroADB.step cfg fs uv d i) (bs ++ writtenBack a d i) := by
  obtain ⟨-,habsent⟩ := step_grows cfg fs uv i h.table h.streams a
  refine ⟨h.toFlowing.step i,fun hnone => ?_,fun s' ha => ?_⟩
  · have hnone := habsent hnone
    rw [h.absent hnone, written_back_none (fun hr => stream_returns_present hr hnone)]
    rfl
  · obtain ⟨s,⟨s₀,hstart,hacts⟩,hfin⟩ := step_stream i h.table h.streams a ha
    have h₀ : s₀.Answered bs.length := by
      rcases hstart with hold | ⟨hnone,hnew⟩
      · exact h.answered s₀ hold
      · rw [h.absent hnone]
        exact hnew.answered
    rw [List.length_append]
    exact hfin.answered (stream_acts_answered hacts h₀)

theorem answered_run (cfg : Config) (fs : FileSystem ω) (uv : Uv ω) (token : List UInt8) (os : ω)
    (is : List Input) (a : ℕ) : InAnswer cfg uv a (daemonRun cfg fs uv token os is)
      (outputs (step cfg fs uv) (writtenBack a) (daemonStart token os) is) :=
  run_outputs_along _ _ (InAnswer cfg uv a) (fun _ _ => True) (fun _ i _ h _ => h.step i) _ []
    { toFlowing := flowing_start cfg uv token os
      absent := fun _ => rfl
      answered := fun _ h => by cases h } is
    (along_of_forall _ _ (fun _ _ => trivial) _ is)

/-! The CLSE of a service. -/

/-- A service of the list is closed. -/
def Event.shuts : Event → Bool
  | .serviceClose _ true => true
  | _ => false

/-- The frame that is written directly behind the call of adb_service_close. -/
def closeFrame (a : ℕ) : Event → Option Event → Option Amessage
  | .serviceClose b true, some (.write _ m _ _) => if b = a then some m else none
  | _, _ => none

/-- The frames with which the service at a was closed. -/
def closeFrames (a : ℕ) : List Event → List Amessage
  | [] => []
  | e :: es => (closeFrame a e es.head?).toList ++ closeFrames a es

/-- The trace is not in the middle of adb_service_close. -/
def Settled (log : List Event) : Prop := ∀ a, log.getLast? ≠ some (.serviceClose a true)

theorem close_frame_other {a : ℕ} {e : Event} (h : e.shuts = false) (e' : Option Event) :
    closeFrame a e e' = none := by
  unfold closeFrame
  split
  · cases h
  · rfl

theorem close_frames_append (a : ℕ) {l : List Event} (h : Settled l) (es : List Event) :
    closeFrames a (l ++ es) = closeFrames a l ++ closeFrames a es := by
  induction l with
  | nil => rfl
  | cons e l ih =>
    cases l with
    | nil =>
      have he : e.shuts = false := by
        by_contra hne
        cases e with
        | serviceClose b listed =>
          cases listed with
          | true => exact h b rfl
          | false => exact hne rfl
        | _ => exact hne rfl
      rw [List.singleton_append, closeFrames, closeFrames, close_frame_other he,
        close_frame_other he]
      rfl
    | cons e' l =>
      have htail : Settled (e' :: l) := h
      have hcons (l' : List Event) : closeFrames a (e :: e' :: l') =
          (closeFrame a e (some e')).toList ++ closeFrames a (e' :: l') := rfl
      rw [hcons, List.append_assoc, ← ih htail]
      exact hcons (l ++ es)

/-- The events of a move that closes no service. -/
theorem close_frames_none (a : ℕ) {es : List Event} (h : ∀ e ∈ es, e.shuts = false) :
    closeFrames a es = [] := by
  induction es with
  | nil => rfl
  | cons e es ih =>
    rw [closeFrames, close_frame_other (h e List.mem_cons_self),
      ih (fun e' he' => h e' (List.mem_cons_of_mem _ he'))]
    rfl

/-- What a move does with the list of the services, and with the frames that close them. -/
inductive Closes (d d' : Daemon ω) : Prop
  | none (es : List Event) (hlog : d'.log = d.log ++ es)
    (hes : ∀ e ∈ es, e.shuts = false)
    (hserv : d'.services = d.services ∧ d.fresh ≤ d'.fresh ∨
      d'.services = d.fresh :: d.services ∧ d'.fresh = d.fresh+1)
  | halted (b : ℕ) (hlog : d'.log = d.log ++ [.serviceClose b true,.fault .useAfterFree])
    (hserv : d'.services = d.services) (hfresh : d'.fresh = d.fresh)
  | closed (b : ℕ) (svc : Service) (e : Event) (es : List Event) (hb : b ∈ d.services)
    (ha : d.heap b = some svc) (hlog : d'.log = d.log ++ .serviceClose b true :: e :: es)
    (he : closeFrame b (.serviceClose b true) (some e) = .none ∨
      ∃ m, closeFrame b (.serviceClose b true) (some e) = some m ∧ m.command = aClse ∧
        m.arg0 = svc.id ∧ m.arg1 = svc.peerId)
    (hes : ∀ e' ∈ e :: es, e'.shuts = false)
    (hserv : d'.services = d.services.erase b) (hfresh : d'.fresh = d.fresh)

/-- The frames that closed services, as far as the list tells. -/
structure Shut (d : Daemon ω) : Prop where
  settled : Settled d.log
  nodup : d.services.Nodup
  registered : ∀ a ∈ d.services, closeFrames a d.log = [] ∧ a < d.fresh
  lt : ∀ a, closeFrames a d.log ≠ [] → a < d.fresh

theorem settled_append {l es : List Event} (hne : es = [] → Settled l)
    (hes : ∀ e ∈ es, e.shuts = false) : Settled (l ++ es) := by
  intro a
  rcases List.eq_nil_or_concat es with rfl | ⟨es',e,rfl⟩
  · rw [List.append_nil]
    exact hne rfl a
  · rw [List.concat_eq_append, ← List.append_assoc, List.getLast?_concat]
    intro hlast
    have he := hes e (by simp)
    rw [Option.some.inj hlast] at he
    cases he

theorem close_frames_close (a b : ℕ) {l : List Event} (h : Settled l) (e : Event)
    {es : List Event} (hes : ∀ e' ∈ e :: es, e'.shuts = false) :
    closeFrames a (l ++ .serviceClose b true :: e :: es) =
      closeFrames a l ++ (closeFrame a (.serviceClose b true) (some e)).toList := by
  rw [close_frames_append a h]
  have hcons : closeFrames a (.serviceClose b true :: e :: es) =
      (closeFrame a (.serviceClose b true) (some e)).toList ++ closeFrames a (e :: es) := rfl
  rw [hcons, close_frames_none a hes, List.append_nil]

theorem close_frame_ne {a b : ℕ} (h : b ≠ a) (e : Option Event) :
    closeFrame a (.serviceClose b true) e = none := by
  unfold closeFrame
  split
  · rename_i heq
    obtain ⟨rfl,-⟩ := Event.serviceClose.inj heq
    exact if_neg h
  · rfl

/-- The frames that close a service are written by one move, which takes it from the list. -/
theorem Closes.frames (h : Closes d d') (hs : Shut d) (a : ℕ) :
    closeFrames a d'.log = closeFrames a d.log ∨
      a ∈ d.services ∧ a ∉ d'.services ∧ ∃ svc m, d.heap a = some svc ∧
        closeFrames a d'.log = [m] ∧ m.command = aClse ∧ m.arg0 = svc.id ∧ m.arg1 = svc.peerId := by
  cases h with
  | none es hlog hes _ =>
    rw [hlog, close_frames_append a hs.settled, close_frames_none a hes, List.append_nil]
    exact Or.inl rfl
  | halted b hlog _ _ =>
    rw [hlog, close_frames_close a b hs.settled _ (by simp [Event.shuts])]
    exact Or.inl (List.append_nil _)
  | closed b svc e es hb ha hlog he hes hserv _ =>
    rw [hlog, close_frames_close a b hs.settled _ hes]
    by_cases hab : b = a
    · subst hab
      rcases he with he | ⟨m,he,hm⟩
      · rw [he]
        exact Or.inl (List.append_nil _)
      · refine Or.inr ⟨hb,?_,svc,m,ha,?_,hm⟩
        · rw [hserv]
          exact hs.nodup.not_mem_erase
        · rw [he, (hs.registered b hb).1]
          rfl
    · rw [close_frame_ne hab]
      exact Or.inl (List.append_nil _)

theorem Closes.shut (h : Closes d d') (hs : Shut d) : Shut d' := by
  have hframes (a : ℕ) := h.frames hs a
  have hfresh : d.fresh ≤ d'.fresh := by
    cases h with
    | none es _ _ hserv =>
      rcases hserv with ⟨-,hle⟩ | ⟨-,heq⟩
      · exact hle
      · exact heq ▸ Nat.le_succ _
    | halted b _ _ heq => exact heq.ge
    | closed b svc e es _ _ _ _ _ _ heq => exact heq.ge
  -- A service of the list was there before, or it is new.
  have hserv : d'.services.Nodup ∧ ∀ a ∈ d'.services,
      a ∈ d.services ∨ a = d.fresh ∧ d'.fresh = d.fresh+1 := by
    cases h with
    | none es _ _ hserv =>
      rcases hserv with ⟨heq,-⟩ | ⟨heq,hf⟩
      · rw [heq]
        exact ⟨hs.nodup,fun a ha => Or.inl ha⟩
      · rw [heq]
        refine ⟨List.nodup_cons.mpr ⟨fun hin => lt_irrefl _ (hs.registered _ hin).2,hs.nodup⟩,?_⟩
        intro a ha
        rcases List.mem_cons.mp ha with rfl | ha
        · exact Or.inr ⟨rfl,hf⟩
        · exact Or.inl ha
    | halted b _ heq _ => rw [heq]; exact ⟨hs.nodup,fun a ha => Or.inl ha⟩
    | closed b svc e es _ _ _ _ _ heq _ =>
      rw [heq]
      exact ⟨hs.nodup.erase b,fun a ha => Or.inl (List.mem_of_mem_erase ha)⟩
  refine ⟨?_,hserv.1,fun a ha => ?_,fun a ha => ?_⟩
  · cases h with
    | none es hlog hes _ => rw [hlog]; exact settled_append (fun _ => hs.settled) hes
    | halted b hlog _ _ =>
      rw [hlog, List.append_cons]
      exact settled_append (fun h => by cases h) (by simp [Event.shuts])
    | closed b svc e es _ _ hlog _ hes _ _ =>
      rw [hlog, List.append_cons]
      exact settled_append (fun h => by cases h) hes
  · rcases hserv.2 a ha with hold | ⟨rfl,hf⟩
    · rcases hframes a with heq | ⟨-,hnot,-⟩
      · rw [heq]
        exact ⟨(hs.registered a hold).1,(hs.registered a hold).2.trans_le hfresh⟩
      · exact absurd ha hnot
    · rcases hframes d.fresh with heq | ⟨hin,-⟩
      · rw [heq, hf]
        exact ⟨by_contra fun hne => lt_irrefl _ (hs.lt _ hne),Nat.lt_succ_self _⟩
      · exact absurd (hs.registered _ hin).2 (lt_irrefl _)
  · rcases hframes a with heq | ⟨hin,-⟩
    · exact (hs.lt a (heq ▸ ha)).trans_le hfresh
    · exact (hs.registered a hin).2.trans_le hfresh

/-! What a callback does with the list. -/

theorem closes_of_log (es : List Event) (hs : d'.services = d.services) (hf : d.fresh ≤ d'.fresh)
    (hlog : d'.log = d.log ++ es) (hes : ∀ e ∈ es, e.shuts = false) : Closes d d' :=
  .none es hlog hes (Or.inl ⟨hs,hf⟩)

theorem closes_single (e : Event) (hs : d'.services = d.services) (hf : d.fresh ≤ d'.fresh)
    (hlog : d'.log = d.log ++ [e]) (he : e.shuts = false) : Closes d d' :=
  closes_of_log [e] hs hf hlog (fun _ hin => List.mem_singleton.mp hin ▸ he)

theorem closes_still (hs : d'.services = d.services) (hf : d'.fresh = d.fresh)
    (hlog : d'.log = d.log) : Closes d d' :=
  closes_of_log [] hs hf.ge (hlog.trans (List.append_nil _).symm) (by simp)

/-- A frame that is sent behind a change of a service or of the transport. -/
theorem closes_send_behind (uv : Uv ω) {d d' : Daemon ω} (up : ApacketUv) (es : List Event)
    (hs : d'.services = d.services) (hf : d'.fresh = d.fresh) (hl : d'.log = d.log ++ es)
    (hes : ∀ e ∈ es, e.shuts = false) : Closes d (sendFrame uv d' up) := by
  obtain ⟨ok,es',hlog,hes'⟩ := send_frame_log uv d' up
  have hq := quietly_send_frame uv d' up
  rw [hl, List.append_assoc] at hlog
  refine closes_of_log _ (hq.services.trans hs) (hq.fresh.trans hf).ge hlog (fun e he => ?_)
  rcases List.mem_append.mp he with he | he
  · exact hes e he
  · rcases List.mem_cons.mp he with rfl | he
    · rfl
    · rcases hes' e he with rfl | rfl <;> rfl

theorem closes_send_frame (uv : Uv ω) {d d' : Daemon ω} (up : ApacketUv)
    (hs : d'.services = d.services) (hf : d'.fresh = d.fresh) (hl : d'.log = d.log) :
    Closes d (sendFrame uv d' up) :=
  closes_send_behind uv up [] hs hf (hl.trans (List.append_nil _).symm) (by simp)

theorem closes_ops_close (d : Daemon ω) (why : CloseReason) : Closes d (opsClose d why) := by
  unfold opsClose
  split
  · exact closes_single (.fault .closingTwice) rfl le_rfl rfl rfl
  · exact closes_single (.close why) rfl le_rfl rfl rfl

theorem shuts_idle {e : Event} (h : e.idle = true) : e.shuts = false := by
  cases e with
  | serviceClose b listed =>
    cases listed with
    | true => cases h
    | false => rfl
  | _ => rfl

theorem shuts_sync (a : ℕ) {es : List SyncEvent} {e : Event} (he : e.shuts = false) :
    ∀ e' ∈ e :: es.map (.sync a), e'.shuts = false := by
  intro e' hin
  rcases List.mem_cons.mp hin with rfl | hin
  · exact he
  · obtain ⟨_,_,rfl⟩ := List.mem_map.mp hin
    rfl

theorem closes_sync (a : ℕ) (svc : Service) (c : SyncCtx ω) {e : Event} (he : e.shuts = false) :
    Closes d (syncDone (d.emit e) a svc c) := by
  have hlog : (syncDone (d.emit e) a svc c).log = d.log ++ e :: c.log.map (.sync a) :=
    List.append_assoc _ _ _
  exact closes_of_log _ rfl le_rfl hlog (shuts_sync a he)

theorem closes_service_close (fs : FileSystem ω) (uv : Uv ω) {a : ℕ} {svc : Service}
    (up : Option ApacketUv) (hreg : a ∈ d.services) (ha : d.alive a = some svc)
    (hcl : svc.stream.closing = false) (hg : d.gone = false) (hc : d.crashed = false) :
    Closes d (adbServiceClose fs uv d a up) := by
  have hheap := ((alive_iff _ _ _).mp ha).1
  have hends {es : List Event} (hes : ∀ e ∈ es, e.ends a) : ∀ e ∈ es, e.shuts = false := by
    intro e he
    rcases hes e he with ⟨s,rfl⟩ | rfl <;> rfl
  cases up with
  | none =>
    rcases service_close_spec fs uv d a svc none hg hreg ha hcl with
      ⟨-,hcr⟩ | ⟨svc',os,es,-,hes,-,heq⟩
    · rw [show (sendClose uv (unlink d a) svc none).crashed = d.crashed from rfl, hc] at hcr
      cases hcr
    · rw [heq]
      refine .closed a svc (.onClose a) es hreg hheap (List.append_assoc _ _ _) (Or.inl rfl) ?_
        rfl rfl
      exact fun e he => (List.mem_cons.mp he).elim (fun h => h ▸ rfl) (hends hes e)
  | some up =>
    set clse := (up.message aClse svc.id svc.peerId 0).setWriteLen 0 with hclse
    obtain ⟨ok,es₀,hlog,hes₀⟩ := send_frame_log uv (unlink d a) clse
    have hq := quietly_send_frame uv (unlink d a) clse
    have hframe : closeFrame a (.serviceClose a true)
        (some (.write clse.addr clse.p.seal.msg clse.p.payload ok)) = some clse.p.seal.msg :=
      if_pos rfl
    have hwrite : ∀ e ∈ Event.write clse.addr clse.p.seal.msg clse.p.payload ok :: es₀,
        e.shuts = false := by
      intro e he
      rcases List.mem_cons.mp he with rfl | he
      · rfl
      · rcases hes₀ e he with rfl | rfl <;> rfl
    have hunlink (es : List Event) : (unlink d a).log ++ es = d.log ++ .serviceClose a true :: es :=
      List.append_assoc _ _ _
    rcases service_close_spec fs uv d a svc (some up) hg hreg ha hcl with
      ⟨heq,-⟩ | ⟨svc',os,es,-,hes,-,heq⟩
    · rw [heq]
      exact .closed a svc _ es₀ hreg hheap (hlog.trans (hunlink _))
        (Or.inr ⟨_,hframe,rfl,rfl,rfl⟩) hwrite hq.services hq.fresh
    · rw [heq]
      refine .closed a svc _ (es₀ ++ .onClose a :: es) hreg hheap ?_
        (Or.inr ⟨_,hframe,rfl,rfl,rfl⟩) (fun e he => ?_) hq.services hq.fresh
      · change (sendFrame uv (unlink d a) clse).log ++ _ = _
        rw [hlog, hunlink, List.append_assoc]
        rfl
      · rw [← List.cons_append] at he
        rcases List.mem_append.mp he with he | he
        · exact hwrite e he
        · exact (List.mem_cons.mp he).elim (fun h => h ▸ rfl) (hends hes e)

theorem Move.closes {x y : Option ℕ × Daemon ω} (h : Move cfg fs uv x y) : Closes x.2 y.2 := by
  cases h with
  | unmoved hu =>
    obtain ⟨es,hlog,hes⟩ := hu.log
    exact closes_of_log _ hu.services hu.fresh.ge hlog (fun e he => shuts_idle (hes e he))
  | crash es hes =>
    rcases hes with ⟨f,-,-,rfl⟩ | ⟨a,rfl⟩
    · exact closes_single (.fault f) rfl le_rfl rfl rfl
    · exact .halted a rfl rfl rfl
  | badRelease b _ => exact closes_single (.fault .badRelease) rfl le_rfl rfl rfl
  | halt _ => exact closes_still rfl rfl rfl
  | close why => exact closes_ops_close _ why
  | @alloc d cap init => exact closes_single (.alloc d.fresh) rfl (Nat.le_succ _) rfl rfl
  | release b n => exact closes_single (.release b) rfl le_rfl rfl rfl
  | send up _ _ _ => exact closes_send_frame uv up rfl rfl rfl
  | shift ha hs => exact closes_still rfl rfl rfl
  | @register h d svc peerId params _ _ _ _ =>
    exact .none [.opened d.fresh params] rfl (fun e he => List.mem_singleton.mp he ▸ rfl)
      (Or.inr ⟨rfl,rfl⟩)
  | @writes h d a _ => exact closes_single (.onWrite a) rfl le_rfl rfl rfl
  | @written h d a svc s _ _ _ c => exact closes_sync a svc c (e := .onWrite a) rfl
  | @kept d a svc up os _ _ _ => exact closes_single (.kept a up.addr) rfl le_rfl rfl rfl
  | @acked h d a svc _ _ _ => exact closes_single (.onAck a) rfl le_rfl rfl rfl
  | @ackedSync h d a svc s _ _ _ c => exact closes_sync a svc c (e := .onAck a) rfl
  | okay up _ _ _ _ => exact closes_send_frame uv up rfl rfl rfl
  | connect up _ _ _ _ => exact closes_send_frame uv up rfl rfl rfl
  | closed up _ hreg ha hcl hg hc => exact closes_service_close fs uv up hreg ha hcl hg hc

theorem StepMove.closes {x y : Option ℕ × Daemon ω} (h : StepMove cfg fs uv x y) :
    Closes x.2 y.2 := by
  cases h with
  | move hm => exact hm.closes
  | pop _ => exact closes_still rfl rfl rfl
  | reply _ _ => exact closes_send_frame uv _ rfl rfl rfl
  | popStream _ _ => exact closes_still rfl rfl rfl
  | handed _ => exact closes_still rfl rfl rfl
  | keep ap _ => exact closes_still rfl rfl rfl
  | @releaseCur d ap _ n => exact closes_single (.release ap.addr) rfl le_rfl rfl rfl
  | badCur _ _ => exact closes_single (.fault .badRelease) rfl le_rfl rfl rfl
  | dropCur => exact closes_still rfl rfl rfl
  | dropped b => exact closes_still rfl rfl rfl
  | @free d a svc _ _ _ => exact closes_single (.freed a) rfl le_rfl rfl rfl
  | gone _ => exact closes_single .clientFreed rfl le_rfl rfl rfl

/-! A connection that failed. -/

/-- The service at a, of the peer p, whose connection failed before anything closed it. -/
structure Failed (a p : ℕ) (d : Daemon ω) : Prop where
  streams : Streams d
  shut : Shut d
  svc : ∃ svc, d.heap a = some svc ∧ svc.kind = .tcp .errorClose ∧ svc.id = 0 ∧ svc.peerId = p
  frames : closeFrames a d.log = [] ∨ ∃ m, closeFrames a d.log = [m] ∧ m.command = aClse ∧
    m.arg0 = 0 ∧ m.arg1 = p

/-- Such a service stays as it is. -/
theorem ActsAt.error_close {a b : ℕ} {svc svc' svc₀ : Service} {fs' : List StreamFrame} {k : ℕ}
    (h : ActsAt b svc svc' fs' k d d') (hs : Streams d) (ha : d.heap a = some svc₀)
    (hk : svc₀.kind = .tcp .errorClose) : ∃ svc₁, d'.heap a = some svc₁ ∧
      svc₁.kind = .tcp .errorClose ∧ svc₁.id = svc₀.id ∧ svc₁.peerId = svc₀.peerId := by
  by_cases hab : a = b
  · subst hab
    obtain rfl := Option.some.inj (h.before.symm.trans ha)
    obtain ⟨hkind,hid,-⟩ := h.tame.errorClose hk
    exact ⟨svc',by rw [h.after, Function.update_self],hkind,hid,
      (h.tame.ids (hs.ids a svc h.before).2.1).1⟩
  · exact ⟨svc₀,by rw [h.after, Function.update_of_ne hab]; exact ha,hk,rfl,rfl⟩

theorem Moved.error_close {a : ℕ} {svc₀ : Service} (h : Moved d d') (hs : Streams d)
    (ha : d.heap a = some svc₀) (hk : svc₀.kind = .tcp .errorClose) :
    ∃ svc₁, d'.heap a = some svc₁ ∧ svc₁.kind = .tcp .errorClose ∧ svc₁.id = svc₀.id ∧
      svc₁.peerId = svc₀.peerId := by
  cases h with
  | still es _ hh _ => exact ⟨svc₀,by rw [hh]; exact ha,hk,rfl,rfl⟩
  | acts b svc svc' fs' k _ hacts => exact hacts.error_close hs ha hk
  | opened svc peerId params _ _ _ _ he =>
    have hne : a ≠ d.fresh := (hs.fresh a (hs.ids a svc₀ ha).1).ne
    refine ⟨svc₀,?_,hk,rfl,rfl⟩
    rw [he]
    exact (Function.update_of_ne hne _ _).trans ha

theorem Failed.next {a p : ℕ} (h : Failed a p d) (hs : Streams d') (hc : Closes d d')
    (hkeep : ∀ svc₀, d.heap a = some svc₀ → svc₀.kind = .tcp .errorClose →
      ∃ svc₁, d'.heap a = some svc₁ ∧ svc₁.kind = .tcp .errorClose ∧ svc₁.id = svc₀.id ∧
        svc₁.peerId = svc₀.peerId) : Failed a p d' := by
  obtain ⟨svc₀,ha,hk,hid,hpeer⟩ := h.svc
  obtain ⟨svc₁,ha₁,hk₁,hid₁,hpeer₁⟩ := hkeep svc₀ ha hk
  refine ⟨hs,hc.shut h.shut,⟨svc₁,ha₁,hk₁,hid₁.trans hid,hpeer₁.trans hpeer⟩,?_⟩
  rcases hc.frames h.shut a with heq | ⟨-,-,svc,m,hsvc,hm,hcommand,harg0,harg1⟩
  · rw [heq]
    exact h.frames
  · obtain rfl := Option.some.inj (ha.symm.trans hsvc)
    exact Or.inr ⟨m,hm,hcommand,harg0.trans hid,harg1.trans hpeer⟩

theorem StepMoves.failed {x y : Option ℕ × Daemon ω} (h : StepMoves cfg fs uv x y) {a p : ℕ}
    (hf : Failed a p x.2) : Failed a p y.2 := by
  induction h with
  | refl => exact hf
  | tail _ hlast ih =>
    have hmoved := hlast.moved ih.streams.replies
    exact ih.next (hlast.streams ih.streams) hlast.closes
      (fun svc₀ ha hk => hmoved.error_close ih.streams ha hk)

theorem StepMoves.shut {x y : Option ℕ × Daemon ω} (h : StepMoves cfg fs uv x y)
    (hs : Shut x.2) : Shut y.2 := by
  induction h with
  | refl => exact hs
  | tail _ hlast ih => exact hlast.closes.shut ih

theorem Fed.closes {a : ℕ} {bs : List UInt8} {x y : Option ℕ × Daemon ω} (h : Fed uv a bs x y) :
    Closes x.2 y.2 := by
  cases h with
  | fed up _ _ _ _ _ _ _ => exact closes_send_frame uv up rfl rfl rfl

theorem Returned.closes {a : ℕ} (h : Returned uv a d d') : Closes d d' := by
  cases h with
  | returned _ _ _ => exact closes_send_frame uv _ rfl rfl rfl

theorem Answering.closes {a : ℕ} {x y : Option ℕ × Daemon ω} (h : Answering uv a x y) :
    Closes x.2 y.2 := by
  cases h with
  | replied up _ _ _ _ => exact closes_send_frame uv up rfl rfl rfl

theorem Continued.closes {a : ℕ} {x y : Option ℕ × Daemon ω} (h : Continued cfg fs uv a x y) :
    Closes x.2 y.2 := by
  cases h with
  | continued c up _ _ _ _ _ =>
    refine closes_send_behind uv up (.onAck a :: c.log.map (.sync a)) rfl rfl ?_
      (shuts_sync a rfl)
    exact List.append_assoc _ _ _

theorem step_shut (i : Input) (ht : d.crashed = false → Table d) (h : Shut d) :
    Shut (step cfg fs uv d i) := by
  cases step_stepped cfg fs uv i ht with
  | moves _ _ hm => exact hm.shut h
  | fed a bs x _ _ hm hf => exact hf.closes.shut (hm.shut h)
  | returned a _ _ hr => exact hr.closes.shut h
  | replied a x _ _ _ hm hf => exact hf.closes.shut (hm.shut h)
  | continued a x _ _ hm hf => exact hf.closes.shut (hm.shut h)

theorem step_failed (i : Input) (ht : d.crashed = false → Table d) {a p : ℕ}
    (h : Failed a p d) : Failed a p (step cfg fs uv d i) := by
  have hs := step_streams cfg fs uv i ht h.streams
  cases step_stepped cfg fs uv i ht with
  | moves _ _ hm => exact hm.failed h
  | fed b bs x _ _ hm hf =>
    obtain ⟨⟨svc,svc',_,hacts⟩,-⟩ := hf.acts
    have hx := hm.failed h
    exact hx.next hs hf.closes (fun _ ha hk => hacts.error_close hx.streams ha hk)
  | returned b _ _ hr =>
    obtain ⟨⟨svc,writes,_,hacts⟩,-⟩ := hr.acts
    exact h.next hs hr.closes (fun _ ha hk => hacts.error_close h.streams ha hk)
  | replied b x _ _ _ hm hf =>
    obtain ⟨svc,_,hacts,-⟩ := hf.acts
    have hx := hm.failed h
    exact hx.next hs hf.closes (fun _ ha hk => hacts.error_close hx.streams ha hk)
  | continued b x _ _ hm hf =>
    obtain ⟨⟨svc,afs,afs',payload,_,hacts⟩,-⟩ := hf.acts
    have hx := hm.failed h
    exact hx.next hs hf.closes (fun _ ha hk => hacts.error_close hx.streams ha hk)

/-- The connection of a tcp service of the list fails. -/
theorem connected_failed {a : ℕ} {svc : Service} (h : Flowing cfg uv d) (hshut : Shut d)
    (hc : d.crashed = false) (hreg : a ∈ d.services) (ha : d.heap a = some svc)
    (hk : svc.kind = .tcp .notConnected) (hcon : svc.stream.connecting = true) :
    Failed a svc.peerId (step cfg fs uv d (.connected a true)) := by
  set svc' : Service := { svc with
    kind := .tcp .errorClose, id := 0, stream := { svc.stream with connecting := false } } with hsvc'
  obtain ⟨svc₀,ha₀,hcl⟩ := ((h.table hc).registered a).mp hreg
  obtain ⟨hheap,hfreed⟩ := (alive_iff _ _ _).mp ha₀
  obtain rfl := Option.some.inj (hheap.symm.trans ha)
  have hfail : StepMove cfg fs uv (none,d) (none,d.setService a svc') := .move (.shift ha₀ (.fail hk))
  have hfailed : Failed a svc₀.peerId (d.setService a svc') := by
    refine ⟨hfail.streams h.streams,hfail.closes.shut hshut,⟨svc',?_,rfl,rfl,rfl⟩,
      Or.inl (hshut.registered a hreg).1⟩
    rw [Daemon.set_service_heap, Function.update_self]
  have hstep : step cfg fs uv d (.connected a true) = tryClose cfg fs uv (d.setService a svc') a := by
    unfold step touchFreed
    rw [if_neg (by simp [hc])]
    dsimp only
    rw [ha]
    dsimp only
    rw [if_pos hcon, if_neg (by simp [hfreed])]
    unfold streamConnected tcpStreamOnConnectCb
    rw [hk]
    exact if_pos (Or.inl rfl)
  have htry : StepMoves cfg fs uv (none,d.setService a svc')
      (none,tryClose cfg fs uv (d.setService a svc') a) :=
    (moves_try_close (hfail.steps.table h.table) (set_service_alive d a svc' hfreed) hcl).steps
  rw [hstep]
  exact htry.failed hfailed

theorem shut_start (token : List UInt8) (os : ω) : Shut (daemonStart token os) where
  settled _ h := by cases h
  nodup := List.nodup_nil
  registered _ h := by cases h
  lt _ h := absurd rfl h

theorem shut_run (cfg : Config) (fs : FileSystem ω) (uv : Uv ω) (token : List UInt8) (os : ω)
    (is : List Input) : Shut (daemonRun cfg fs uv token os is) := by
  have hrun : Flowing cfg uv (daemonRun cfg fs uv token os is) ∧
      Shut (daemonRun cfg fs uv token os is) :=
    run_invariant _ (fun d => Flowing cfg uv d ∧ Shut d)
      (fun d i h => ⟨h.1.step i,step_shut i h.1.table h.2⟩) _
      ⟨flowing_start cfg uv token os,shut_start token os⟩ is
  exact hrun.2

theorem failed_run (fs : FileSystem ω) {a p : ℕ} (h : Flowing cfg uv d) (hf : Failed a p d)
    (is : List Input) :
    Failed a p (run (step cfg fs uv) d is) := by
  have hrun : Flowing cfg uv (run (step cfg fs uv) d is) ∧ Failed a p (run (step cfg fs uv) d is) :=
    run_invariant _ (fun d => Flowing cfg uv d ∧ Failed a p d)
      (fun d i h => ⟨h.1.step i,step_failed i h.1.table h.2⟩) _ ⟨h,hf⟩ is
  exact hrun.2

/-- Nothing was sent for the service at a but, perhaps, the CLSE of its failed connection: nothing
with the id it was opened with, and nothing with the id 0 that the failure gives it. -/
structure Denied (a p : ℕ) (log : List Event) : Prop where
  silent : streamFrames (streamId a log) log = []
  zero : streamFrames 0 log = []
  closed : closeFrames a log = [] ∨ ∃ m, closeFrames a log = [m] ∧ m.command = aClse ∧ m.arg0 = 0 ∧
    m.arg1 = p

/-- A tcp service in any run. Before the connection, or once that has failed, it is silent. Connected,
it has answered the OPEN before anything else, and its other OKAYs are for the WRTEs of the host. If
the connection fails while it is in the list, it never answers. -/
theorem tcp_answers (cfg : Config) (fs : FileSystem ω) (uv : Uv ω) (token : List UInt8) (os : ω)
    (is : List Input) (a : ℕ) (svc : Service) (state : StreamState)
    (ha : (daemonRun cfg fs uv token os is).heap a = some svc) (hk : svc.kind = .tcp state) :
    (¬state.Connected → streamFrames (streamId a (daemonRun cfg fs uv token os is).log)
          (daemonRun cfg fs uv token os is).log = [] ∧
        streamFrames 0 (daemonRun cfg fs uv token os is).log = []) ∧
      (state.Connected → ∃ rest, streamFrames (streamId a (daemonRun cfg fs uv token os is).log)
          (daemonRun cfg fs uv token os is).log = .okay svc.peerId :: rest ∧
        okays rest =
          (outputs (step cfg fs uv) (writtenBack a) (daemonStart token os) is).length) ∧
      ((daemonRun cfg fs uv token os is).crashed = false →
        a ∈ (daemonRun cfg fs uv token os is).services → state = .notConnected →
        svc.stream.connecting = true → ∀ is', Denied a svc.peerId
          (daemonRun cfg fs uv token os (is ++ .connected a true :: is')).log) := by
  obtain ⟨-,hkind⟩ := (answered_run cfg fs uv token os is a).answered _ (stream_at ha)
  have hstate := hkind state hk
  refine ⟨fun hnot => ?_,fun hcon => ?_,fun hc hreg hnot hcon is' => ?_⟩
  · rw [if_neg hnot] at hstate
    exact ⟨hstate.1,(flowing_run cfg fs uv token os is).streams.no_frame_zero⟩
  · rw [if_pos hcon] at hstate
    exact hstate
  · subst hnot
    have hflow := flowing_run cfg fs uv token os is
    have hfailed : Failed a svc.peerId
        (step cfg fs uv (daemonRun cfg fs uv token os is) (.connected a true)) :=
      connected_failed hflow (shut_run cfg fs uv token os is) hc hreg ha hk hcon
    have hrun := failed_run fs (hflow.step (.connected a true)) hfailed is'
    have heq : daemonRun cfg fs uv token os (is ++ .connected a true :: is') =
        run (step cfg fs uv) (step cfg fs uv (daemonRun cfg fs uv token os is)
          (.connected a true)) is' := run_append _ _ is _
    obtain ⟨svc',ha',hk',-,-⟩ := hrun.svc
    rw [← heq] at ha' hrun
    obtain ⟨-,hsilent⟩ :=
      (answered_run cfg fs uv token os (is ++ .connected a true :: is') a).answered _ (stream_at ha')
    have hsilent := hsilent .errorClose hk'
    rw [if_neg (by decide)] at hsilent
    have hzero :=
      (flowing_run cfg fs uv token os (is ++ .connected a true :: is')).streams.no_frame_zero
    exact ⟨hsilent.1,hzero,hrun.frames⟩

/-- A tcp service whose connection is on its way. -/
def tcpOpened : List Input := hostFrame aOpen 5 0 (ascii "tcp:80" ++ [0])

theorem tcp_opened_denied : ∃ svc,
    (daemonRun defaultConfig emptyFs plainUv [] () tcpOpened).heap 1 = some svc ∧
      svc.kind = .tcp .notConnected ∧ Denied 1 svc.peerId
        (daemonRun defaultConfig emptyFs plainUv [] () (tcpOpened ++ [.connected 1 true])).log := by
  obtain ⟨svc,ha,hk⟩ := tcp_kind
    (daemonRun defaultConfig emptyFs plainUv [] () tcpOpened) 1 .notConnected (by decide +kernel)
  have hcon : ((daemonRun defaultConfig emptyFs plainUv [] () tcpOpened).heap 1).any
    (fun svc => svc.stream.connecting) = true := by decide +kernel
  rw [ha] at hcon
  exact ⟨svc,ha,hk,(tcp_answers defaultConfig emptyFs plainUv [] () tcpOpened 1 svc _ ha hk).2.2
    (by decide +kernel) (by decide +kernel) rfl hcon []⟩

end MicroADB
