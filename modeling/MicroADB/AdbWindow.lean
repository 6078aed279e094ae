import MicroADB.AdbTold

/-! The window of the streams that forward bytes: a tcp service or a shell sends a WRTE only when
the last one was acknowledged, and its state says whether it was. -/
namespace MicroADB
open ByteMemory EventRun

variable {ω : Type} {cfg : Config} {fs : FileSystem ω} {uv : Uv ω} {d d' : Daemon ω}

/-! One stream. -/

/-- The service waits for an OKAY. -/
def ServiceKind.waiting : ServiceKind → Bool
  | .sync _ => false
  | .tcp state => state = .waitAck
  | .shell waitAck => waitAck

/-- The WRTEs of a stream. -/
def Stream.sent (s : Stream) : ℕ := (payloads s.frames).length

/-- At most one WRTE is not acknowledged, and then the service waits. -/
def Stream.InStep (s : Stream) : Prop :=
  s.sent = s.acks+if s.svc.kind.waiting then 1 else 0

theorem acked_waiting {svc : Service} (hk : ¬svc.kind.IsSync) : svc.acked.kind.waiting = false := by
  unfold Service.acked
  split
  · rename_i s hs
    rw [hs] at hk
    exact absurd trivial hk
  · rw [(socket_start_same _).2.2]
    rfl
  · rename_i state hne hs
    rw [hs]
    cases state with
    | waitAck => exact absurd rfl hne
    | _ => rfl
  · rw [(shell_kick_same _ _).2.2]
    rfl

theorem Shift.waiting {svc svc' : Service} (h : Shift svc svc') :
    svc'.kind.waiting = svc.kind.waiting := by
  cases h with
  | start hk => rw [(socket_start_same svc).2.2]
  | kick waitAck hk => rw [(shell_kick_same svc waitAck).2.2]
  | notify hk => rw [hk]; rfl
  | fail hk => rw [hk]; rfl
  | _ => rfl

/-- The acts of a service that forwards bytes send no WRTE, and only an OKAY ends a wait. -/
theorem Acts.waiting {svc svc' : Service} {fs : List StreamFrame} {k : ℕ} (h : Acts svc svc' fs k)
    (hk : ¬svc.kind.IsSync) : payloads fs = [] ∧
      (k = 0 ∧ svc'.kind.waiting = svc.kind.waiting ∨ k = 1 ∧ svc'.kind.waiting = false) := by
  cases h with
  | shift hs => exact ⟨rfl,Or.inl ⟨rfl,hs.waiting⟩⟩
  | sync hs _ _ => rw [hs] at hk; exact absurd trivial hk
  | acked _ => exact ⟨rfl,Or.inr ⟨rfl,acked_waiting hk⟩⟩
  | connect hc =>
    refine ⟨rfl,Or.inl ⟨rfl,?_⟩⟩
    rw [(socket_start_same _).2.2, hc]
    rfl
  | reply hs _ => exact absurd hs hk
  | ended hend =>
    refine ⟨rfl,Or.inl ⟨rfl,?_⟩⟩
    rcases hend.kind with he | ⟨s,_,hs,-⟩
    · rw [he]
    · rw [hs] at hk
      exact absurd trivial hk
  | _ => exact ⟨rfl,Or.inl ⟨rfl,rfl⟩⟩

/-- The acts of such a service keep the window as long as the host keeps it. -/
theorem stream_acts_window {s s' : Stream} (h : Relation.ReflTransGen StreamStep s s')
    (hk : ¬s'.svc.kind.IsSync) : ¬s.svc.kind.IsSync ∧ payloads s'.frames = payloads s.frames ∧
      s.acks ≤ s'.acks ∧ (s.InStep → s'.acks ≤ s'.sent → s'.InStep) := by
  induction h with
  | refl => exact ⟨hk,rfl,le_rfl,fun h _ => h⟩
  | tail _ hlast ih =>
    cases hlast with
    | @step svc svc' fs k frames n hacts =>
      have hk₁ : ¬svc.kind.IsSync := fun hs => hk (hacts.is_sync.mpr hs)
      obtain ⟨hk₀,hpay,hle,hwin⟩ := ih hk₁
      obtain ⟨hnone,hwait⟩ := hacts.waiting hk₁
      have hsame : payloads (frames ++ fs) = payloads frames := by
        rw [payloads_append, hnone, List.append_nil]
      refine ⟨hk₀,hsame.trans hpay,hle.trans (Nat.le_add_right _ _),fun h hsent => ?_⟩
      unfold Stream.sent at hsent
      unfold Stream.InStep Stream.sent
      dsimp only at hsent ⊢
      rw [hsame] at hsent ⊢
      have hold : (payloads frames).length = n+if svc.kind.waiting then 1 else 0 :=
        hwin h ((Nat.le_add_right _ _).trans hsent)
      rcases hwait with ⟨rfl,hwait⟩ | ⟨rfl,hwait⟩
      · rw [hwait]
        exact hold
      · rw [hwait, if_neg Bool.false_ne_true]
        split at hold <;> omega

/-! A host that keeps the window. -/

/-- The host sends an OKAY on the stream of the service at a only for a WRTE that it has got. -/
def HostAcks (cfg : Config) (fs : FileSystem ω) (uv : Uv ω) (a : ℕ) (d : Daemon ω) (i : Input) :
    Prop :=
  acks a (step cfg fs uv d i).log ≤
    (payloads (streamFrames (streamId a (step cfg fs uv d i).log) d.log)).length

instance (a : ℕ) (d : Daemon ω) (i : Input) : Decidable (HostAcks cfg fs uv a d i) :=
  inferInstanceAs (Decidable (_ ≤ _))

/-- The OKAYs of a host that keeps the window are for WRTEs that the moves of the callback found. -/
theorem host_acks_le (hs : Streams d) {i : Input} {a : ℕ} {s s' : Stream}
    (hlog : ∃ es, (step cfg fs uv d i).log = d.log ++ es) (hh : HostAcks cfg fs uv a d i)
    (ha : streamAt a (step cfg fs uv d i) = some s') (hrun : StreamRuns a d s)
    (hk : ¬s.svc.kind.IsSync) : s'.acks ≤ s.sent := by
  obtain ⟨s₀,hstart,hacts⟩ := hrun
  obtain ⟨-,hpay,-,-⟩ := stream_acts_window hacts hk
  obtain ⟨es,hlog⟩ := hlog
  obtain ⟨svc',ha',rfl⟩ := Option.map_eq_some_iff.mp ha
  unfold HostAcks at hh
  refine hh.trans ?_
  rw [Stream.sent, hpay, hlog]
  rcases hstart with hold | ⟨hnone,-⟩
  · obtain ⟨svc,hsvc,rfl⟩ := Option.map_eq_some_iff.mp hold
    rw [stream_id_append es (hs.ids a svc hsvc).1]
  · have hnot : a ∉ openings d.log := by
      intro hin
      obtain ⟨svc,hsvc⟩ := hs.opened a hin
      rw [stream_at hsvc] at hnone
      cases hnone
    have hempty : streamFrames (streamId a (d.log ++ es)) d.log = [] := by
      by_contra hne
      obtain ⟨b,hin,hb⟩ := hs.frames _ hne
      have hle := stream_id_le hin
      rw [← hb, streamId, openings_append, List.idxOf_append_of_notMem hnot] at hle
      omega
    rw [hempty]
    exact Nat.zero_le _

/-! Runs. -/

/-- The bytes that a callback reads from the stream of the service at a. -/
def bytesRead (cfg : Config) (uv : Uv ω) (a : ℕ) (d : Daemon ω) (i : Input) : List UInt8 :=
  match streamBytes cfg uv d i with
  | some (b,bs) => if b = a then bs else []
  | none => []

/-- The window of the stream at a, on which the bytes bs were read. -/
structure InWindow (cfg : Config) (uv : Uv ω) (a : ℕ) (d : Daemon ω) (bs : List UInt8) : Prop
    extends Flowing cfg uv d where
  absent : streamAt a d = none → bs = []
  window : ∀ s, streamAt a d = some s → ¬s.svc.kind.IsSync →
    s.InStep ∧ (payloads s.frames).flatten = bs

theorem payloads_wrte (fs : List StreamFrame) (n : ℕ) (bs : List UInt8) :
    payloads (fs ++ [.wrte n bs]) = payloads fs ++ [bs] := payloads_append _ _

theorem payloads_okay (fs : List StreamFrame) (n : ℕ) :
    payloads (fs ++ [.okay n]) = payloads fs := (payloads_append _ _).trans (List.append_nil _)

/-- The OKAYs of a stream. -/
def okays (fs : List StreamFrame) : ℕ :=
  fs.countP fun f => match f with | .okay _ => true | .wrte _ _ => false

theorem Finish.acks_le {i : Input} {a : ℕ} {s s' : Stream} (h : Finish cfg fs uv d i a s s') :
    s.acks ≤ s'.acks := by
  cases h with
  | continued afs afs' payload _ _ _ => exact Nat.le_succ _
  | _ => exact le_rfl

/-- Only a service that forwards bytes ends a callback as one. -/
theorem Finish.is_sync {i : Input} {a : ℕ} {s s' : Stream} (h : Finish cfg fs uv d i a s s') :
    s'.svc.kind.IsSync ↔ s.svc.kind.IsSync := by
  cases h with
  | fed bs svc' _ _ hf =>
    have htame : Tame s.svc svc' [] := hf.tame
    exact htame.isSync
  | continued afs afs' payload _ _ hk => exact iff_of_true trivial (by rw [hk]; trivial)
  | _ => exact Iff.rfl

theorem New.in_step {s : Stream} (h : s.New) (hk : ¬s.svc.kind.IsSync) :
    s.InStep ∧ (payloads s.frames).flatten = [] := by
  have hwait : s.svc.kind.waiting = false := by
    rcases h.kind with hs | hs | hs
    · exact absurd hs hk
    · rw [hs]
      rfl
    · rw [hs]
      rfl
  unfold Stream.InStep Stream.sent
  rw [h.frames, h.acks, hwait]
  exact ⟨rfl,rfl⟩

theorem Filled.waiting {svc svc' : Service} (h : Filled svc svc') :
    svc.kind.waiting = false ∧ svc'.kind.waiting = true ∧ ¬svc.kind.IsSync := by
  cases h with
  | tcp hk => rw [hk]; exact ⟨rfl,rfl,id⟩
  | shell hk => rw [hk]; exact ⟨rfl,rfl,id⟩

theorem stream_bytes_present {i : Input} {a : ℕ} {bs : List UInt8}
    (h : streamBytes cfg uv d i = some (a,bs)) : streamAt a d ≠ none := by
  cases i with
  | streamRead b r =>
    cases r with
    | error => cases h
    | data bs' =>
      obtain ⟨hb,hab⟩ := Option.ite_none_right_eq_some.mp h
      obtain ⟨rfl,-⟩ := Prod.ext_iff.mp (Option.some.inj hab)
      obtain ⟨svc,ha,-⟩ := (Option.any_eq_true _ _).mp hb.2.1
      rw [stream_at ((alive_iff _ _ _).mp ha).1]
      exact Option.some_ne_none _
  | _ => cases h

theorem bytes_read_some {i : Input} {a : ℕ} {bs : List UInt8}
    (h : streamBytes cfg uv d i = some (a,bs)) : bytesRead cfg uv a d i = bs := by
  unfold bytesRead
  rw [h]
  exact if_pos rfl

theorem bytes_read_none {i : Input} {a : ℕ} (h : ∀ bs, streamBytes cfg uv d i ≠ some (a,bs)) :
    bytesRead cfg uv a d i = [] := by
  unfold bytesRead
  split
  · rename_i b bs hb
    refine if_neg (fun hba => ?_)
    subst hba
    exact h bs hb
  · rfl

theorem InWindow.step {a : ℕ} {bs : List UInt8} (h : InWindow cfg uv a d bs) (i : Input)
    (hh : HostAcks cfg fs uv a d i) :
    InWindow cfg uv a (MicroADB.step cfg fs uv d i) (bs ++ bytesRead cfg uv a d i) := by
  obtain ⟨hlog,habsent⟩ := step_grows cfg fs uv i h.table h.streams a
  refine ⟨h.toFlowing.step i,fun hnone => ?_,fun s' ha hk => ?_⟩
  · have hnone := habsent hnone
    rw [h.absent hnone, bytes_read_none (fun _ hb => stream_bytes_present hb hnone)]
    rfl
  · obtain ⟨s,hrun,hfin⟩ := step_stream i h.table h.streams a ha
    have hkind : ¬s.svc.kind.IsSync := fun hs => hk (hfin.is_sync.mpr hs)
    have hacks := host_acks_le h.streams hlog hh ha hrun hkind
    obtain ⟨s₀,hstart,hacts⟩ := hrun
    obtain ⟨hk₀,hpay,-,hwin⟩ := stream_acts_window hacts hkind
    have h₀ : s₀.InStep ∧ (payloads s₀.frames).flatten = bs := by
      rcases hstart with hold | ⟨hnone,hnew⟩
      · exact h.window s₀ hold hk₀
      · rw [h.absent hnone]
        exact New.in_step hnew hk₀
    have hbefore : s.InStep := hwin h₀.1 (hfin.acks_le.trans hacks)
    have hflat : (payloads s.frames).flatten = bs := by rw [hpay, h₀.2]
    cases hfin with
    | same hb _ => rw [bytes_read_none hb, List.append_nil]; exact ⟨hbefore,hflat⟩
    | fed bs' svc' hb _ hf =>
      obtain ⟨hidle,hwait,-⟩ := hf.waiting
      unfold Stream.InStep Stream.sent at hbefore ⊢
      rw [hidle, if_neg Bool.false_ne_true] at hbefore
      dsimp only
      rw [bytes_read_some hb, payloads_wrte, hwait, if_pos rfl, List.length_append, hbefore]
      refine ⟨rfl,?_⟩
      rw [List.flatten_append, hflat, List.flatten_singleton]
    | returned writes hb _ _ =>
      rw [bytes_read_none hb, List.append_nil]
      unfold Stream.InStep Stream.sent at hbefore ⊢
      dsimp only
      rw [payloads_okay]
      exact ⟨hbefore,hflat⟩
    | replied _ _ _ hs => exact absurd hs hkind
    | continued afs afs' payload _ _ hs => rw [hs] at hkind; exact absurd trivial hkind

/-- What the host and the daemon agree on for the stream at a, on which the bytes bs were read: at
most one WRTE is not acknowledged, and the service waits when there is one. No frame is lost as long
as the transport is open. -/
structure Windowed (a : ℕ) (waiting : Bool) (d : Daemon ω) (bs : List UInt8) : Prop where
  unacked : (payloads (streamFrames (streamId a d.log) d.log)).length =
    acks a d.log+if waiting then 1 else 0
  bytes : (payloads (streamFrames (streamId a d.log) d.log)).flatten = bs
  taken : d.socket.closing = false → ∀ e ∈ d.log, e.refusedWrite = false

theorem in_window_start (cfg : Config) (uv : Uv ω) (a : ℕ) (token : List UInt8) (os : ω) :
    InWindow cfg uv a (daemonStart token os) [] where
  toFlowing := flowing_start cfg uv token os
  absent _ := rfl
  window _ h := by cases h

theorem windowed_run (cfg : Config) (fs : FileSystem ω) (uv : Uv ω) (token : List UInt8) (os : ω)
    (is : List Input) {a : ℕ} {svc : Service}
    (ha : (daemonRun cfg fs uv token os is).heap a = some svc) (hk : ¬svc.kind.IsSync)
    (hh : Along (step cfg fs uv) (HostAcks cfg fs uv a) (daemonStart token os) is) :
    Windowed a svc.kind.waiting (daemonRun cfg fs uv token os is)
      (outputs (step cfg fs uv) (bytesRead cfg uv a) (daemonStart token os) is) := by
  have hrun : InWindow cfg uv a (daemonRun cfg fs uv token os is)
      (outputs (step cfg fs uv) (bytesRead cfg uv a) (daemonStart token os) is) :=
    run_outputs_along _ _ (InWindow cfg uv a) (HostAcks cfg fs uv a)
      (fun _ i _ h hh => h.step i hh) _ [] (in_window_start cfg uv a token os) is hh
  obtain ⟨hstep,hbytes⟩ := hrun.window _ (stream_at ha) hk
  refine ⟨hstep,hbytes,fun hcl e he => ?_⟩
  by_contra hre
  rw [(told_run cfg fs uv token os is).2 e he (by simpa using hre)] at hcl
  cases hcl

theorem allows_run (cfg : Config) (fs : FileSystem ω) (uv : Uv ω) (token : List UInt8) (os : ω)
    (is : List Input) (hc : (daemonRun cfg fs uv token os is).crashed = false) {a : ℕ}
    {svc : Service} (ha : (daemonRun cfg fs uv token os is).heap a = some svc) :
    svc.kind.Allows svc.stream :=
  (((flowing_run cfg fs uv token os is).table hc).wf a svc ha).kind

/-- A tcp service, with a host that acknowledges each WRTE once. -/
theorem tcp_window (cfg : Config) (fs : FileSystem ω) (uv : Uv ω) (token : List UInt8) (os : ω)
    (is : List Input) (a : ℕ) (svc : Service) (state : StreamState)
    (ha : (daemonRun cfg fs uv token os is).heap a = some svc) (hk : svc.kind = .tcp state) :
    ((daemonRun cfg fs uv token os is).crashed = false → svc.stream.active = true →
        state = .connected) ∧
      (Along (step cfg fs uv) (HostAcks cfg fs uv a) (daemonStart token os) is →
        Windowed a (state = .waitAck) (daemonRun cfg fs uv token os is)
          (outputs (step cfg fs uv) (bytesRead cfg uv a) (daemonStart token os) is)) := by
  constructor
  · intro hc hactive
    have hallows := allows_run cfg fs uv token os is hc ha
    rw [hk] at hallows
    exact hallows.1 (Or.inl hactive)
  · intro hh
    have hwin := windowed_run cfg fs uv token os is ha (by rw [hk]; exact id) hh
    rw [hk] at hwin
    exact hwin

/-- A tcp service that has sent a byte of its peer. -/
def tcpSent : List Input :=
  hostFrame aOpen 5 0 (ascii "tcp:80" ++ [0]) ++
    [.connected 1 false,.streamRead 1 (.data [7])]

/-- A tcp service of a given state, as a test that can be evaluated. -/
theorem tcp_kind (d : Daemon ω) (a : ℕ) (state : StreamState)
    (h : ((d.heap a).any fun svc => svc.kind.tcpState = some state) = true) :
    ∃ svc, d.heap a = some svc ∧ svc.kind = .tcp state := by
  obtain ⟨svc,ha,hk⟩ := (Option.any_eq_true _ _).mp h
  exact ⟨svc,ha,ServiceKind.tcp_state_eq (of_decide_eq_true hk)⟩

theorem tcp_sent_window : ∃ svc,
    (daemonRun defaultConfig emptyFs plainUv [] () tcpSent).heap 1 = some svc ∧
      svc.kind = .tcp .waitAck ∧
      Windowed 1 true (daemonRun defaultConfig emptyFs plainUv [] () tcpSent) [7] := by
  obtain ⟨svc,ha,hk⟩ := tcp_kind
    (daemonRun defaultConfig emptyFs plainUv [] () tcpSent) 1 .waitAck (by decide +kernel)
  have hread : outputs (step defaultConfig emptyFs plainUv) (bytesRead defaultConfig plainUv 1)
      (daemonStart [] ()) tcpSent = [7] := by decide +kernel
  have hwin := (tcp_window defaultConfig emptyFs plainUv [] () tcpSent 1 svc .waitAck ha hk).2
    (by decide +kernel)
  rw [hread] at hwin
  exact ⟨svc,ha,hk,hwin⟩

/-- A shell. The assertion in alloc_buffer holds whatever the host sends. -/
theorem shell_window (cfg : Config) (fs : FileSystem ω) (uv : Uv ω) (token : List UInt8) (os : ω)
    (is : List Input) :
    .fault .assertion ∉ (daemonRun cfg fs uv token os is).log ∧
      ∀ a svc waitAck, (daemonRun cfg fs uv token os is).heap a = some svc →
        svc.kind = .shell waitAck →
        ((daemonRun cfg fs uv token os is).crashed = false → svc.stream.active = true →
            waitAck = false) ∧
          (Along (step cfg fs uv) (HostAcks cfg fs uv a) (daemonStart token os) is →
            Windowed a waitAck (daemonRun cfg fs uv token os is)
              (outputs (step cfg fs uv) (bytesRead cfg uv a) (daemonStart token os) is)) := by
  refine ⟨(told_run cfg fs uv token os is).1,fun a svc waitAck ha hk => ?_⟩
  refine ⟨fun hc hactive => ?_,fun hh => ?_⟩
  · have hallows := allows_run cfg fs uv token os is hc ha
    rw [hk] at hallows
    exact hallows.1 (Or.inl hactive)
  · have hwin := windowed_run cfg fs uv token os is ha (by rw [hk]; exact id) hh
    rw [hk] at hwin
    exact hwin

/-- A shell that has sent a byte of its output. -/
def shellSent : List Input :=
  hostFrame aOpen 5 0 (ascii "shell:" ++ [0]) ++ [.streamRead 1 (.data [7])]

theorem shell_kind (d : Daemon ω) (a : ℕ) (waitAck : Bool)
    (h : ((d.heap a).any fun svc => svc.kind.shellAck = some waitAck) = true) :
    ∃ svc, d.heap a = some svc ∧ svc.kind = .shell waitAck := by
  obtain ⟨svc,ha,hk⟩ := (Option.any_eq_true _ _).mp h
  exact ⟨svc,ha,ServiceKind.shell_ack_eq (of_decide_eq_true hk)⟩

theorem shell_sent_window : ∃ svc,
    (daemonRun defaultConfig emptyFs plainUv [] () shellSent).heap 1 = some svc ∧
      svc.kind = .shell true ∧
      Windowed 1 true (daemonRun defaultConfig emptyFs plainUv [] () shellSent) [7] := by
  obtain ⟨svc,ha,hk⟩ := shell_kind
    (daemonRun defaultConfig emptyFs plainUv [] () shellSent) 1 true (by decide +kernel)
  have hread : outputs (step defaultConfig emptyFs plainUv) (bytesRead defaultConfig plainUv 1)
      (daemonStart [] ()) shellSent = [7] := by decide +kernel
  have hwin := ((shell_window defaultConfig emptyFs plainUv [] () shellSent).2 1 svc true ha hk).2
    (by decide +kernel)
  rw [hread] at hwin
  exact ⟨svc,ha,hk,hwin⟩

end MicroADB
