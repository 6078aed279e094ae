import MicroADB.AdbKick
import MicroADB.AdbMoveStep

/-! The streams of a client, as the trace shows them: the service at an address, the frames that
carry its id and the OKAYs that it was given. A callback takes each stream through the acts of its
service. -/
namespace MicroADB
open ByteMemory EventRun

variable {ω : Type} {cfg : Config} {fs : FileSystem ω} {uv : Uv ω} {d d' : Daemon ω}

/-! The trace. -/

/-- A frame of a stream to the host, with the id it names as the host's. -/
inductive StreamFrame
  | okay (peerId : ℕ)
  | wrte (peerId : ℕ) (payload : List UInt8)
deriving DecidableEq

/-- The OKAYs and WRTEs with local id n. -/
def streamFrame (n : ℕ) : Event → Option StreamFrame
  | .write _ m payload _ =>
    if m.arg0 ≠ n then none
    else if m.command = aOkay then some (.okay m.arg1)
    else if m.command = aWrte then some (.wrte m.arg1 payload)
    else none
  | _ => none

theorem stream_frame_write (n b : ℕ) (m : Amessage) (payload : List UInt8) (ok : Bool) :
    streamFrame n (.write b m payload ok) =
      if m.arg0 ≠ n then none
      else if m.command = aOkay then some (.okay m.arg1)
      else if m.command = aWrte then some (.wrte m.arg1 payload)
      else none := rfl

def streamFrames (n : ℕ) (log : List Event) : List StreamFrame := log.filterMap (streamFrame n)

/-- The payloads of the WRTEs. -/
def payloads (fs : List StreamFrame) : List (List UInt8) :=
  fs.filterMap fun f => match f with | .wrte _ payload => some payload | .okay _ => none

/-- The OKAYs of the host that reached the service at a. -/
def acks (a : ℕ) (log : List Event) : ℕ := log.count (.onAck a)

/-- The services in the order in which they were opened. -/
def openings (log : List Event) : List ℕ :=
  log.filterMap fun e => match e with | .opened a _ => some a | _ => none

/-- The id that the service at a was opened with. -/
def streamId (a : ℕ) (log : List Event) : ℕ := (openings log).idxOf a+1

theorem stream_frames_append (n : ℕ) (l es : List Event) :
    streamFrames n (l ++ es) = streamFrames n l ++ streamFrames n es := List.filterMap_append

theorem payloads_append (fs fs' : List StreamFrame) :
    payloads (fs ++ fs') = payloads fs ++ payloads fs' := List.filterMap_append

theorem acks_append (a : ℕ) (l es : List Event) : acks a (l ++ es) = acks a l+acks a es :=
  List.count_append

theorem openings_append (l es : List Event) : openings (l ++ es) = openings l ++ openings es :=
  List.filterMap_append

/-- The events that show no stream. -/
def Event.silent : Event → Bool
  | .opened .. | .onAck _ => false
  | .write _ m _ _ => m.command ≠ aOkay ∧ m.command ≠ aWrte
  | _ => true

/-- What a part of the trace adds to the streams: the frames fs of the stream n, and k OKAYs for the
service at a. -/
structure Adds (es : List Event) (n : ℕ) (fs : List StreamFrame) (a k : ℕ) : Prop where
  openings : openings es = []
  frames : ∀ m, streamFrames m es = if m = n then fs else []
  acks : ∀ b, acks b es = if b = a then k else 0

theorem adds_silent {es : List Event} (h : ∀ e ∈ es, e.silent = true) (n a : ℕ) :
    Adds es n [] a 0 := by
  refine ⟨List.filterMap_eq_nil_iff.mpr (fun e he => ?_),fun m => ?_,fun b => ?_⟩
  · have hs := h e he
    cases e <;> first | rfl | cases hs
  · have hnil : streamFrames m es = [] := by
      refine List.filterMap_eq_nil_iff.mpr (fun e he => ?_)
      have hs := h e he
      cases e with
      | write b msg payload ok =>
        obtain ⟨hokay,hwrte⟩ : msg.command ≠ aOkay ∧ msg.command ≠ aWrte := of_decide_eq_true hs
        rw [stream_frame_write, if_neg hokay, if_neg hwrte, ite_self]
      | _ => rfl
    rw [hnil, ite_self]
  · rw [ite_self]
    refine List.count_eq_zero.mpr (fun hin => ?_)
    have hs := h _ hin
    cases hs

theorem Adds.append {es es' : List Event} {n a k k' : ℕ} {fs fs' : List StreamFrame}
    (h : Adds es n fs a k) (h' : Adds es' n fs' a k') : Adds (es ++ es') n (fs ++ fs') a
    (k+k') := by
  refine ⟨by rw [openings_append, h.openings, h'.openings]; rfl,fun m => ?_,fun b => ?_⟩
  · rw [stream_frames_append, h.frames m, h'.frames m]
    split <;> rfl
  · rw [acks_append, h.acks b, h'.acks b]
    split <;> rfl

theorem adds_ack (n a : ℕ) : Adds [.onAck a] n [] a 1 := by
  refine ⟨rfl,fun m => (ite_self _).symm,fun b => ?_⟩
  unfold acks
  rw [List.count_singleton]
  by_cases hb : b = a
  · subst hb
    simp
  · rw [if_neg hb, if_neg (by simpa using fun h => hb h.symm)]

theorem adds_write {m : Amessage} {payload : List UInt8} {f : StreamFrame} (b : ℕ) (ok : Bool)
    (hf : streamFrame m.arg0 (.write b m payload ok) = some f) (a : ℕ) :
    Adds [.write b m payload ok] m.arg0 [f] a 0 := by
  refine ⟨rfl,fun n => ?_,fun b => (ite_self _).symm⟩
  by_cases hn : n = m.arg0
  · subst hn
    rw [if_pos rfl]
    exact List.filterMap_cons_some hf
  · rw [if_neg hn]
    refine List.filterMap_cons_none ?_
    rw [stream_frame_write, if_pos (fun h => hn h.symm)]

/-- A frame that is handed to the transport. -/
theorem adds_send {up : ApacketUv} {f : StreamFrame} (uv : Uv ω) (d : Daemon ω)
    (hf : ∀ ok, streamFrame up.p.msg.arg0 (.write up.addr up.p.seal.msg up.p.payload ok) = some f)
    (a : ℕ) :
    ∃ es, (sendFrame uv d up).log = d.log ++ es ∧ Adds es up.p.msg.arg0 [f] a 0 := by
  obtain ⟨ok,es,hlog,hes⟩ := send_frame_log uv d up
  have hwrite : Adds [.write up.addr up.p.seal.msg up.p.payload ok] up.p.msg.arg0 [f] a 0 :=
    adds_write (m := up.p.seal.msg) up.addr ok (hf ok) a
  have hsilent : ∀ e ∈ es, e.silent = true := by
    intro e he
    rcases hes e he with rfl | rfl <;> rfl
  exact ⟨_,hlog,hwrite.append (adds_silent hsilent _ a)⟩

theorem adds_send_okay {up : ApacketUv} {svc : Service} (uv : Uv ω) (d : Daemon ω)
    (hf : FrameOf aOkay svc up) (a : ℕ) :
    ∃ es, (sendFrame uv d up).log = d.log ++ es ∧ Adds es svc.id [.okay svc.peerId] a 0 := by
  rw [← hf.arg0, ← hf.arg1]
  refine adds_send uv d (fun ok => ?_) a
  have hcommand : up.p.seal.msg.command = aOkay := hf.command
  rw [stream_frame_write, if_neg (fun h => h rfl), if_pos hcommand]
  rfl

theorem adds_send_wrte {up : ApacketUv} {svc : Service} (uv : Uv ω) (d : Daemon ω)
    (hf : FrameOf aWrte svc up) (a : ℕ) :
    ∃ es, (sendFrame uv d up).log = d.log ++ es ∧
      Adds es svc.id [.wrte svc.peerId up.p.payload] a 0 := by
  rw [← hf.arg0, ← hf.arg1]
  refine adds_send uv d (fun ok => ?_) a
  have hcommand : up.p.seal.msg.command = aWrte := hf.command
  have hne : up.p.seal.msg.command ≠ aOkay := by
    rw [hcommand]
    decide
  rw [stream_frame_write, if_neg (fun h => h rfl), if_neg hne, if_pos hcommand]
  rfl

/-! The acts of a service. -/

/-- What a move does with a service: the service behind it, the frames that it sends and the OKAYs
that it takes. -/
inductive Acts (svc : Service) : Service → List StreamFrame → ℕ → Prop
  | still : Acts svc svc [] 0
  | shift {svc' : Service} (h : Shift svc svc') : Acts svc svc' [] 0
  | sync {s : AfsService} (hk : svc.kind = .sync s) (s' : AfsService) (k : ℕ) :
    Acts svc { svc with kind := .sync s' } [] k
  | queue (writes : List ApacketUv) :
    Acts svc { svc with stream := { svc.stream with writes := writes } } [] 0
  | acked (hk : ¬svc.kind.IsSync) : Acts svc svc.acked [] 1
  | okay (hk : svc.kind.IsSync ∨ ∃ waitAck, svc.kind = .shell waitAck) :
    Acts svc svc [.okay svc.peerId] 0
  | connect (hk : svc.kind = .tcp .notifyClient) :
    Acts svc (adbHalSocketStart { svc with kind := .tcp .connected }) [.okay svc.peerId] 0
  | reply (hk : svc.kind.IsSync) (payload : List UInt8) :
    Acts svc svc [.wrte svc.peerId payload] 0
  | ended {svc' : Service} (h : Ended svc svc') : Acts svc svc' [] 0
  | free : Acts svc { svc with freed := true } [] 0

/-- What every act keeps of a service. -/
structure Tame (svc svc' : Service) (fs : List StreamFrame) : Prop where
  ids : svc.peerId ≠ 0 → svc'.peerId = svc.peerId ∧
    (svc'.id = svc.id ∨ svc'.id = 0 ∧ svc'.kind = .tcp .errorClose)
  errorClose : svc.kind = .tcp .errorClose →
    svc'.kind = .tcp .errorClose ∧ svc'.id = svc.id ∧ fs = []
  isSync : svc'.kind.IsSync ↔ svc.kind.IsSync

theorem socket_start_same (svc : Service) :
    (adbHalSocketStart svc).id = svc.id ∧ (adbHalSocketStart svc).peerId = svc.peerId ∧
      (adbHalSocketStart svc).kind = svc.kind := by
  unfold adbHalSocketStart
  split <;> exact ⟨rfl,rfl,rfl⟩

theorem shell_kick_same (svc : Service) (waitAck : Bool) :
    (shellKick svc waitAck).id = svc.id ∧ (shellKick svc waitAck).peerId = svc.peerId ∧
      (shellKick svc waitAck).kind = svc.kind := by
  unfold shellKick
  split
  · exact ⟨rfl,rfl,rfl⟩
  · split <;> exact ⟨rfl,rfl,rfl⟩

theorem acked_ids (svc : Service) : svc.acked.id = svc.id ∧ svc.acked.peerId = svc.peerId := by
  unfold Service.acked
  split
  · exact ⟨rfl,rfl⟩
  · obtain ⟨hid,hpeer,-⟩ := socket_start_same { svc with kind := .tcp .connected }
    exact ⟨hid,hpeer⟩
  · exact ⟨rfl,rfl⟩
  · obtain ⟨hid,hpeer,-⟩ := shell_kick_same { svc with kind := .shell false } false
    exact ⟨hid,hpeer⟩

section Acts

variable {svc svc' : Service} {fs : List StreamFrame} {k : ℕ}

theorem Shift.ids (h : Shift svc svc') (hp : svc.peerId ≠ 0) : svc'.peerId = svc.peerId ∧
    (svc'.id = svc.id ∨ svc'.id = 0 ∧ svc'.kind = .tcp .errorClose) := by
  cases h with
  | adopt peerId hzero => exact absurd hzero hp
  | start _ =>
    obtain ⟨hid,hpeer,-⟩ := socket_start_same svc
    exact ⟨hpeer,Or.inl hid⟩
  | kick waitAck _ =>
    obtain ⟨hid,hpeer,-⟩ := shell_kick_same svc waitAck
    exact ⟨hpeer,Or.inl hid⟩
  | fail _ => exact ⟨rfl,Or.inr ⟨rfl,rfl⟩⟩
  | _ => exact ⟨rfl,Or.inl rfl⟩

/-- The ids of a service stay, but for a tcp service whose connection fails. -/
theorem Acts.ids (h : Acts svc svc' fs k) (hp : svc.peerId ≠ 0) : svc'.peerId = svc.peerId ∧
    (svc'.id = svc.id ∨ svc'.id = 0 ∧ svc'.kind = .tcp .errorClose) := by
  cases h with
  | shift hs => exact hs.ids hp
  | acked _ => exact ⟨(acked_ids svc).2,Or.inl (acked_ids svc).1⟩
  | connect _ =>
    obtain ⟨hid,hpeer,-⟩ := socket_start_same { svc with kind := .tcp .connected }
    exact ⟨hpeer,Or.inl hid⟩
  | ended hend => exact ⟨hend.peerId,Or.inl hend.id⟩
  | _ => exact ⟨rfl,Or.inl rfl⟩

theorem Ended.tcp_kind (h : Ended svc svc') {state : StreamState} (hk : svc.kind = .tcp state) :
    svc'.kind = .tcp state := by
  rcases h.kind with he | ⟨s,s',hs,-⟩
  · exact he.trans hk
  · rw [hk] at hs
    cases hs

/-- A service whose connection failed stays so, and is silent. -/
theorem Acts.error_close (h : Acts svc svc' fs k) (hk : svc.kind = .tcp .errorClose) :
    svc'.kind = .tcp .errorClose ∧ svc'.id = svc.id ∧ fs = [] := by
  cases h with
  | shift hs =>
    cases hs with
    | start hk' => rw [hk] at hk'; cases hk'
    | kick _ hk' => rw [hk] at hk'; cases hk'
    | stop hk' => rw [hk] at hk'; cases hk'
    | notify hk' => rw [hk] at hk'; cases hk'
    | fail hk' => rw [hk] at hk'; cases hk'
    | _ => exact ⟨hk,rfl,rfl⟩
  | sync hk' _ _ => rw [hk] at hk'; cases hk'
  | acked _ =>
    have hself : svc.acked = svc := by
      unfold Service.acked
      rw [hk]
    rw [hself]
    exact ⟨hk,rfl,rfl⟩
  | okay hk' =>
    rw [hk] at hk'
    rcases hk' with hk' | ⟨_,hk'⟩ <;> cases hk'
  | connect hk' => rw [hk] at hk'; cases hk'
  | reply hk' _ => rw [hk] at hk'; cases hk'
  | ended hend => exact ⟨hend.tcp_kind hk,hend.id,rfl⟩
  | _ => exact ⟨hk,rfl,rfl⟩

/-- A sync service stays one, and no service becomes one. -/
theorem Acts.is_sync (h : Acts svc svc' fs k) : svc'.kind.IsSync ↔ svc.kind.IsSync := by
  cases h with
  | shift hs =>
    cases hs with
    | start hk => rw [(socket_start_same svc).2.2]
    | kick waitAck hk => rw [(shell_kick_same svc waitAck).2.2]
    | notify hk => rw [hk]; rfl
    | fail hk => rw [hk]; rfl
    | _ => exact Iff.rfl
  | sync hk _ _ => rw [hk]; rfl
  | acked hk =>
    unfold Service.acked
    split
    · exact Iff.rfl
    · rename_i hk
      rw [(socket_start_same _).2.2, hk]
      rfl
    · exact Iff.rfl
    · rename_i hk
      rw [(shell_kick_same _ _).2.2, hk]
      rfl
  | connect hk => rw [(socket_start_same _).2.2, hk]; rfl
  | ended hend =>
    rcases hend.kind with he | ⟨s,s',hs,hs'⟩
    · rw [he]
    · rw [hs, hs']
      rfl
  | _ => exact Iff.rfl

theorem Acts.tame (h : Acts svc svc' fs k) : Tame svc svc' fs :=
  ⟨h.ids,h.error_close,h.is_sync⟩

end Acts

/-- What a move adds to the trace, and what it keeps of the counters. -/
structure Beside (d d' : Daemon ω) (es : List Event) : Prop where
  log : d'.log = d.log ++ es
  nextServiceId : d'.nextServiceId = d.nextServiceId
  fresh : d.fresh ≤ d'.fresh

/-- One service acts. -/
structure ActsAt (a : ℕ) (svc svc' : Service) (fs : List StreamFrame) (k : ℕ) (d d' : Daemon ω) :
    Prop where
  tame : Tame svc svc' fs
  before : d.heap a = some svc
  after : d'.heap = Function.update d.heap a (some svc')
  trace : ∃ es, Beside d d' es ∧ Adds es svc.id fs a k

/-- The streams behind a move: one service acts, or a new one is opened, or none. -/
inductive Moved (d d' : Daemon ω) : Prop
  | still (es : List Event) (hb : Beside d d' es) (hh : d'.heap = d.heap)
    (hs : ∀ e ∈ es, e.silent = true)
  | acts (a : ℕ) (svc svc' : Service) (fs : List StreamFrame) (k : ℕ) (hacts : Acts svc svc' fs k)
    (h : ActsAt a svc svc' fs k d d')
  | opened (svc : Service) (peerId : ℕ) (params : ServiceParams) (hc : Constructed svc)
    (hid : d.nextServiceId ≠ 0) (hp : peerId ≠ 0)
    (hk : svc.kind.IsSync ∨ svc.kind = .tcp .notConnected ∨ svc.kind = .shell false)
    (he : d' = (registerService d svc peerId params).2)

theorem Moved.acted {a : ℕ} {svc svc' : Service} {fs : List StreamFrame} {k : ℕ} (es : List Event)
    (hb : Beside d d' es) (ha : d.heap a = some svc) (hacts : Acts svc svc' fs k)
    (hh : d'.heap = Function.update d.heap a (some svc')) (hadds : Adds es svc.id fs a k) :
    Moved d d' := .acts a svc svc' fs k hacts ⟨hacts.tame,ha,hh,es,hb,hadds⟩

theorem silent_of_idle {e : Event} (h : e.idle = true) : e.silent = true := by
  cases e <;> first | rfl | cases h

theorem Unmoved.moved (h : Unmoved d d') : Moved d d' := by
  obtain ⟨es,hlog,hes⟩ := h.log
  exact .still es ⟨hlog,h.nextServiceId,h.fresh.ge⟩ h.heap (fun e he => silent_of_idle (hes e he))

theorem Quietly.beside {es : List Event} (h : Quietly d d') (hlog : d'.log = d.log ++ es) :
    Beside d d' es := ⟨hlog,h.nextServiceId,h.fresh.ge⟩

/-- A frame that belongs to no stream. -/
theorem silent_send (uv : Uv ω) (d : Daemon ω) (up : ApacketUv) (hokay : up.p.msg.command ≠ aOkay)
    (hwrte : up.p.msg.command ≠ aWrte) :
    ∃ es, (sendFrame uv d up).log = d.log ++ es ∧ ∀ e ∈ es, e.silent = true := by
  obtain ⟨ok,es,hlog,hes⟩ := send_frame_log uv d up
  refine ⟨_,hlog,fun e he => ?_⟩
  rcases List.mem_cons.mp he with rfl | he
  · exact decide_eq_true ⟨hokay,hwrte⟩
  · rcases hes e he with rfl | rfl <;> rfl

theorem moved_send (uv : Uv ω) (d : Daemon ω) {up : ApacketUv} (hokay : up.p.msg.command ≠ aOkay)
    (hwrte : up.p.msg.command ≠ aWrte) : Moved d (sendFrame uv d up) := by
  obtain ⟨es,hlog,hes⟩ := silent_send uv d up hokay hwrte
  have hq := quietly_send_frame uv d up
  exact .still es (hq.beside hlog) hq.heap hes

/-- One service is replaced. -/
theorem moved_set {a : ℕ} {svc svc' : Service} (ha : d.alive a = some svc)
    (hacts : Acts svc svc' [] 0) : Moved d (d.setService a svc') := by
  have hb : Beside d (d.setService a svc') [] := ⟨(List.append_nil _).symm,rfl,le_rfl⟩
  exact .acted [] hb ((alive_iff _ _ _).mp ha).1 hacts rfl
    (adds_silent (fun _ he => by cases he) svc.id a)

theorem heap_self {a : ℕ} {svc : Service} (ha : d.heap a = some svc) :
    d.heap = Function.update d.heap a (some svc) := by
  rw [← ha, Function.update_eq_self]

/-- A frame of a service that stays as it is. -/
theorem moved_frame {a : ℕ} {svc : Service} {up : ApacketUv} {fs : List StreamFrame}
    (ha : d.heap a = some svc) (hacts : Acts svc svc fs 0)
    (hadds : ∃ es, (sendFrame uv d up).log = d.log ++ es ∧ Adds es svc.id fs a 0) :
    Moved d (sendFrame uv d up) := by
  obtain ⟨es,hlog,hadds⟩ := hadds
  have hq := quietly_send_frame uv d up
  exact .acted es (hq.beside hlog) ha hacts (hq.heap.trans (heap_self ha)) hadds

/-- The callback of a sync service. -/
theorem moved_sync_done {a : ℕ} {svc : Service} {s : AfsService} (es : List Event) {k : ℕ}
    (ha : d.alive a = some svc) (hk : svc.kind = .sync s) (hadds : Adds es svc.id [] a k)
    (c : SyncCtx ω) : Moved d (syncDone { d with log := d.log ++ es } a svc c) := by
  have hsync : Adds (c.log.map (.sync a)) svc.id [] a 0 := by
    refine adds_silent (fun e he => ?_) svc.id a
    obtain ⟨_,_,rfl⟩ := List.mem_map.mp he
    rfl
  have hb : Beside d (syncDone { d with log := d.log ++ es } a svc c)
      (es ++ c.log.map (.sync a)) := ⟨List.append_assoc _ _ _,rfl,le_rfl⟩
  exact .acted _ hb ((alive_iff _ _ _).mp ha).1 (.sync hk c.svc k) rfl
    (hadds.append hsync)

theorem silent_send_close (uv : Uv ω) (d : Daemon ω) (svc : Service) (up : Option ApacketUv) :
    ∃ es, (sendClose uv d svc up).log = d.log ++ es ∧ ∀ e ∈ es, e.silent = true := by
  cases up with
  | none => exact ⟨[],(List.append_nil _).symm,fun _ he => by cases he⟩
  | some up =>
    exact silent_send uv d ((up.message aClse svc.id svc.peerId 0).setWriteLen 0)
      (show aClse ≠ aOkay by decide) (show aClse ≠ aWrte by decide)

theorem moved_service_close (fs : FileSystem ω) (uv : Uv ω) {a : ℕ} {svc : Service}
    (up : Option ApacketUv) (hreg : a ∈ d.services) (ha : d.alive a = some svc)
    (hcl : svc.stream.closing = false) (hg : d.gone = false) :
    Moved d (adbServiceClose fs uv d a up) := by
  obtain ⟨es,hlog,hes⟩ := silent_send_close uv (unlink d a) svc up
  have hq := quietly_send_close uv (unlink d a) svc up
  have hclose : (sendClose uv (unlink d a) svc up).log = d.log ++ .serviceClose a true :: es := by
    rw [hlog]
    exact List.append_assoc _ _ _
  have hsilent : ∀ e ∈ Event.serviceClose a true :: es, e.silent = true := by
    intro e he
    rcases List.mem_cons.mp he with rfl | he
    · rfl
    · exact hes e he
  rcases service_close_spec fs uv d a svc up hg hreg ha hcl with
    ⟨heq,-⟩ | ⟨svc',os,es',hend,hes',-,heq⟩
  · rw [heq]
    exact .still _ ⟨hclose,hq.nextServiceId,hq.fresh.ge⟩ hq.heap hsilent
  · rw [heq]
    refine .acted (.serviceClose a true :: es ++ .onClose a :: es')
      ⟨?_,hq.nextServiceId,hq.fresh.ge⟩ ((alive_iff _ _ _).mp ha).1 (.ended hend) ?_
      (adds_silent (fun e he => ?_) svc.id a)
    · dsimp only
      rw [hclose, List.append_assoc]
    · rfl
    · rcases List.mem_append.mp he with he | he
      · exact hsilent e he
      · rcases List.mem_cons.mp he with rfl | he
        · rfl
        · rcases hes' e he with ⟨s,rfl⟩ | rfl <;> rfl

theorem moved_ops_close (d : Daemon ω) (why : CloseReason) : Moved d (opsClose d why) := by
  unfold opsClose
  split
  · exact .still [.fault .closingTwice] ⟨rfl,rfl,le_rfl⟩ rfl
      (fun _ he => List.mem_singleton.mp he ▸ rfl)
  · exact .still [.close why] ⟨rfl,rfl,le_rfl⟩ rfl (fun _ he => List.mem_singleton.mp he ▸ rfl)

theorem Move.moved {x y : Option ℕ × Daemon ω} (h : Move cfg fs uv x y) : Moved x.2 y.2 := by
  have hsingle (e : Event) (he : e.silent = true) : ∀ e' ∈ [e], e'.silent = true :=
    fun _ hin => List.mem_singleton.mp hin ▸ he
  cases h with
  | unmoved hu => exact hu.moved
  | crash es hes =>
    refine .still es ⟨rfl,rfl,le_rfl⟩ rfl (fun e he => ?_)
    rcases hes with ⟨f,-,-,rfl⟩ | ⟨a,rfl⟩
    · rw [List.mem_singleton.mp he]
      rfl
    · rcases List.mem_cons.mp he with rfl | he
      · rfl
      · rw [List.mem_singleton.mp he]
        rfl
  | badRelease b _ => exact .still _ ⟨rfl,rfl,le_rfl⟩ rfl (hsingle (.fault .badRelease) rfl)
  | halt _ =>
    exact .still [] ⟨(List.append_nil _).symm,rfl,le_rfl⟩ rfl (fun _ he => by cases he)
  | close why => exact moved_ops_close _ why
  | @alloc d cap init => exact .still [.alloc d.fresh] ⟨rfl,rfl,Nat.le_succ _⟩ rfl (hsingle _ rfl)
  | release b n => exact .still [.release b] ⟨rfl,rfl,le_rfl⟩ rfl (hsingle _ rfl)
  | send up hokay hwrte _ => exact moved_send uv _ hokay hwrte
  | shift ha hs => exact moved_set ha (.shift hs)
  | register peerId params hc hid hp hk => exact .opened _ peerId params hc hid hp hk rfl
  | @writes h d a _ => exact .still [.onWrite a] ⟨rfl,rfl,le_rfl⟩ rfl (hsingle _ rfl)
  | @written h d a svc s _ ha hk c =>
    exact moved_sync_done [.onWrite a] ha hk
      (adds_silent (hsingle _ rfl) svc.id a) c
  | @kept d a svc up os ha hk hcl =>
    exact .acted [.kept a up.addr]
      ⟨rfl,rfl,le_rfl⟩ ((alive_iff _ _ _).mp ha).1 (.queue (svc.stream.writes ++ [up])) rfl
      (adds_silent (hsingle _ rfl) svc.id a)
  | @acked h d a svc _ ha hk =>
    exact .acted [.onAck a] ⟨rfl,rfl,le_rfl⟩ ((alive_iff _ _ _).mp ha).1
      (.acked hk) rfl (adds_ack svc.id a)
  | @ackedSync h d a svc s _ ha hk c =>
    exact moved_sync_done [.onAck a] ha hk (adds_ack svc.id a) c
  | @okay d a svc up ha hf hw hk =>
    exact moved_frame ((alive_iff _ _ _).mp ha).1 (.okay hk) (adds_send_okay uv d hf a)
  | @connect d a svc up ha hk hf hw =>
    obtain ⟨es,hlog,hadds⟩ := adds_send_okay uv
      (d.setService a (adbHalSocketStart { svc with kind := .tcp .connected })) hf a
    have hq := quietly_send_frame uv
      (d.setService a (adbHalSocketStart { svc with kind := .tcp .connected })) up
    exact .acted es ⟨hlog,hq.nextServiceId,hq.fresh.ge⟩
      ((alive_iff _ _ _).mp ha).1 (.connect hk) hq.heap hadds
  | closed up _ hreg ha hcl hg _ => exact moved_service_close fs uv up hreg ha hcl hg

/-! The ids of the streams. -/

/-- The packets in the transport whose OKAY is written before the WRTE with their data. -/
def replies (d : Daemon ω) : List ApacketUv := d.socket.writes.filter fun up => 0 < up.p.writeLen

/-- A reply belongs to a sync service. -/
def ReplyOf (d : Daemon ω) (up : ApacketUv) : Prop :=
  ∃ a svc, d.heap a = some svc ∧ svc.kind.IsSync ∧ up.p.msg.arg0 = svc.id ∧
    up.p.msg.arg1 = svc.peerId

theorem StepMove.moved {x y : Option ℕ × Daemon ω} (h : StepMove cfg fs uv x y)
    (hr : ∀ up ∈ replies x.2, ReplyOf x.2 up) : Moved x.2 y.2 := by
  have hstill {d d' : Daemon ω} (hlog : d'.log = d.log) (hn : d'.nextServiceId = d.nextServiceId)
      (hf : d'.fresh = d.fresh) (hh : d'.heap = d.heap) : Moved d d' :=
    .still [] ⟨hlog.trans (List.append_nil _).symm,hn,hf.ge⟩ hh (fun _ he => by cases he)
  have hsingle (e : Event) (he : e.silent = true) : ∀ e' ∈ [e], e'.silent = true :=
    fun _ hin => List.mem_singleton.mp hin ▸ he
  cases h with
  | move hm => exact hm.moved
  | pop _ => exact hstill rfl rfl rfl rfl
  | @reply d up rest hw hpos =>
    obtain ⟨a,svc,ha,hk,harg0,harg1⟩ := hr up
      (List.mem_filter.mpr ⟨hw ▸ List.mem_cons_self,decide_eq_true hpos⟩)
    have hframe : FrameOf aWrte svc
        ((up.message aWrte up.p.msg.arg0 up.p.msg.arg1 up.p.writeLen).setWriteLen 0) :=
      ⟨rfl,harg0,harg1⟩
    obtain ⟨es,hlog,hadds⟩ :=
      adds_send_wrte uv (d.setSocket { d.socket with writes := rest }) hframe a
    have hq := quietly_send_frame uv (d.setSocket { d.socket with writes := rest })
      ((up.message aWrte up.p.msg.arg0 up.p.msg.arg1 up.p.writeLen).setWriteLen 0)
    exact .acted es ⟨hlog,hq.nextServiceId,hq.fresh.ge⟩ ha (.reply hk _)
      (hq.heap.trans (heap_self ha)) hadds
  | popStream ha _ => exact moved_set ha (.queue _)
  | handed _ => exact hstill rfl rfl rfl rfl
  | keep ap _ => exact hstill rfl rfl rfl rfl
  | @releaseCur d ap _ n => exact .still [.release ap.addr] ⟨rfl,rfl,le_rfl⟩ rfl (hsingle _ rfl)
  | badCur _ _ => exact .still [.fault .badRelease] ⟨rfl,rfl,le_rfl⟩ rfl (hsingle _ rfl)
  | dropCur => exact hstill rfl rfl rfl rfl
  | dropped b => exact hstill rfl rfl rfl rfl
  | @free d a svc ha _ _ =>
    exact .acted [.freed a] ⟨rfl,rfl,le_rfl⟩
      ((alive_iff _ _ _).mp ha).1 .free rfl (adds_silent (hsingle _ rfl) svc.id a)
  | gone _ => exact .still [.clientFreed] ⟨rfl,rfl,le_rfl⟩ rfl (hsingle _ rfl)

/-- The ids that the services were opened with are those of their streams. -/
structure Streams (d : Daemon ω) : Prop where
  bound : (openings d.log).length < 2^32
  next : d.nextServiceId = u32 ((openings d.log).length+1)
  fresh : ∀ a ∈ openings d.log, a < d.fresh
  opened : ∀ a ∈ openings d.log, ∃ svc, d.heap a = some svc
  ids : ∀ a svc, d.heap a = some svc → a ∈ openings d.log ∧ svc.peerId ≠ 0 ∧
    (svc.id = streamId a d.log ∨ svc.id = 0 ∧ svc.kind = .tcp .errorClose)
  frames : ∀ n, streamFrames n d.log ≠ [] → ∃ a ∈ openings d.log, n = streamId a d.log
  acks : ∀ a, acks a d.log ≠ 0 → a ∈ openings d.log
  replies : ∀ up ∈ replies d, ReplyOf d up

theorem streams_start (token : List UInt8) (os : ω) : Streams (daemonStart token os) where
  bound := Nat.two_pow_pos 32
  next := rfl
  fresh _ h := by cases h
  opened _ h := by cases h
  ids _ _ h := by cases h
  frames _ h := absurd rfl h
  acks _ h := absurd rfl h
  replies _ h := by cases h

/-- The id 0, which a failed service is given, is that of no stream. -/
theorem Streams.no_frame_zero {d : Daemon ω} (h : Streams d) : streamFrames 0 d.log = [] := by
  by_contra hne
  obtain ⟨a,-,hid⟩ := h.frames 0 hne
  exact absurd hid.symm (Nat.succ_ne_zero _)

/-! What a move keeps. -/

theorem stream_id_append {a : ℕ} {l : List Event} (es : List Event) (ha : a ∈ openings l) :
    streamId a (l ++ es) = streamId a l := by
  rw [streamId, openings_append, List.idxOf_append_of_mem ha]
  rfl

theorem stream_id_new {a : ℕ} {l : List Event} (es : List Event) (ha : a ∉ openings l)
    (hes : openings es = [a]) : streamId a (l ++ es) = (openings l).length+1 := by
  rw [streamId, openings_append, hes, List.idxOf_append_of_notMem ha]
  simp

theorem stream_id_inj {a b : ℕ} {l : List Event} (ha : a ∈ openings l)
    (h : streamId a l = streamId b l) : a = b := (List.idxOf_inj ha).mp (Nat.succ.inj h)

theorem stream_id_le {a : ℕ} {l : List Event} (ha : a ∈ openings l) :
    streamId a l ≤ (openings l).length := List.idxOf_lt_length_of_mem ha

theorem ReplyOf.acts (h : Streams d) {up : ApacketUv} (hr : ReplyOf d up) {a : ℕ}
    {svc svc' : Service} {fs : List StreamFrame} {k : ℕ} (hacts : ActsAt a svc svc' fs k d d') :
    ReplyOf d' up := by
  obtain ⟨b,svc₀,hb,hk,harg0,harg1⟩ := hr
  by_cases hba : b = a
  · subst hba
    obtain rfl := Option.some.inj (hacts.before.symm.trans hb)
    obtain ⟨hpeer,hid⟩ := hacts.tame.ids (h.ids b svc hb).2.1
    have hsync := hacts.tame.isSync.mpr hk
    rcases hid with hid | ⟨-,hkind⟩
    · exact ⟨b,svc',by rw [hacts.after, Function.update_self],hsync,harg0.trans hid.symm,
        harg1.trans hpeer.symm⟩
    · rw [hkind] at hsync
      exact hsync.elim
  · exact ⟨b,svc₀,by rw [hacts.after, Function.update_of_ne hba]; exact hb,hk,harg0,harg1⟩

/-- The acts of one service. -/
theorem Streams.acts (h : Streams d) {a : ℕ} {svc svc' : Service} {fs : List StreamFrame} {k : ℕ}
    (hacts : ActsAt a svc svc' fs k d d')
    (hr : ∀ up ∈ MicroADB.replies d', up ∈ MicroADB.replies d ∨ ReplyOf d up) : Streams d' := by
  obtain ⟨ht,ha,hh,es,hb,hadds⟩ := hacts
  obtain ⟨hin,hpeer,hid⟩ := h.ids a svc ha
  have hopen : openings d'.log = openings d.log := by
    rw [hb.log, openings_append, hadds.openings, List.append_nil]
  have hstream {b : ℕ} (hbin : b ∈ openings d.log) : streamId b d'.log = streamId b d.log := by
    rw [hb.log, stream_id_append es hbin]
  refine
    { bound := hopen ▸ h.bound
      next := by rw [hb.nextServiceId, hopen, h.next]
      fresh := fun b hbin => (h.fresh b (hopen ▸ hbin)).trans_le hb.fresh
      opened := fun b hbin => ?_
      ids := fun b svc₀ hb₀ => ?_
      frames := fun n hn => ?_
      acks := fun b hbk => ?_
      replies := fun up hup => ReplyOf.acts h ((hr up hup).elim (h.replies up) id)
        ⟨ht,ha,hh,es,hb,hadds⟩ }
  · rw [hopen] at hbin
    by_cases hba : b = a
    · exact ⟨svc',by rw [hh, hba, Function.update_self]⟩
    · obtain ⟨svc₀,hb₀⟩ := h.opened b hbin
      exact ⟨svc₀,by rw [hh, Function.update_of_ne hba]; exact hb₀⟩
  · rw [hh] at hb₀
    rw [hopen]
    by_cases hba : b = a
    · subst hba
      rw [Function.update_self] at hb₀
      obtain rfl := Option.some.inj hb₀
      obtain ⟨hpeer',hid'⟩ := ht.ids hpeer
      refine ⟨hin,hpeer'.symm ▸ hpeer,?_⟩
      rw [hstream hin]
      rcases hid' with hid' | hid'
      · rcases hid with hid | ⟨hzero,hk⟩
        · exact Or.inl (hid'.trans hid)
        · exact Or.inr ⟨hid'.trans hzero,(ht.errorClose hk).1⟩
      · exact Or.inr hid'
    · rw [Function.update_of_ne hba] at hb₀
      obtain ⟨hbin,hids⟩ := h.ids b svc₀ hb₀
      exact ⟨hbin,by rw [hstream hbin]; exact hids⟩
  · rw [hopen]
    rw [hb.log, stream_frames_append, hadds.frames n] at hn
    by_cases hold : streamFrames n d.log = []
    · rw [hold, List.nil_append] at hn
      split at hn
      · rename_i hnid
        refine ⟨a,hin,?_⟩
        rw [hstream hin, hnid]
        rcases hid with hid | ⟨-,hk⟩
        · exact hid
        · exact absurd (ht.errorClose hk).2.2 hn
      · exact absurd rfl hn
    · obtain ⟨b,hbin,hbn⟩ := h.frames n hold
      exact ⟨b,hbin,by rw [hstream hbin]; exact hbn⟩
  · rw [hopen]
    by_cases hold : MicroADB.acks b d.log = 0
    · rw [hb.log, acks_append, hold, hadds.acks b] at hbk
      split at hbk
      · rename_i hba
        exact hba ▸ hin
      · exact absurd rfl hbk
    · exact h.acks b hold

/-- A move that shows no stream. -/
theorem Streams.still (h : Streams d) {es : List Event} (hb : Beside d d' es)
    (hh : d'.heap = d.heap) (hs : ∀ e ∈ es, e.silent = true)
    (hr : ∀ up ∈ MicroADB.replies d', up ∈ MicroADB.replies d ∨ ReplyOf d up) : Streams d' := by
  have hadds := adds_silent hs 0 0
  have hopen : openings d'.log = openings d.log := by
    rw [hb.log, openings_append, hadds.openings, List.append_nil]
  have hstream {b : ℕ} (hbin : b ∈ openings d.log) : streamId b d'.log = streamId b d.log := by
    rw [hb.log, stream_id_append es hbin]
  refine
    { bound := hopen ▸ h.bound
      next := by rw [hb.nextServiceId, hopen, h.next]
      fresh := fun b hbin => (h.fresh b (hopen ▸ hbin)).trans_le hb.fresh
      opened := by rw [hopen, hh]; exact h.opened
      ids := fun b svc hb₀ => ?_
      frames := fun n hn => ?_
      acks := fun b hbk => ?_
      replies := fun up hup => ?_ }
  · obtain ⟨hbin,hids⟩ := h.ids b svc (hh ▸ hb₀)
    rw [hopen, hstream hbin]
    exact ⟨hbin,hids⟩
  · rw [hb.log, stream_frames_append, hadds.frames n, ite_self, List.append_nil] at hn
    obtain ⟨b,hbin,hbn⟩ := h.frames n hn
    rw [hopen]
    exact ⟨b,hbin,by rw [hstream hbin]; exact hbn⟩
  · rw [hb.log, acks_append, hadds.acks b, ite_self, Nat.add_zero] at hbk
    rw [hopen]
    exact h.acks b hbk
  · obtain ⟨b,svc,hb₀,hreply⟩ := (hr up hup).elim (h.replies up) id
    exact ⟨b,svc,hh ▸ hb₀,hreply⟩

/-- As long as no id is zero, no number of streams has wrapped. -/
theorem Streams.next_id (h : Streams d) (hid : d.nextServiceId ≠ 0) :
    d.nextServiceId = (openings d.log).length+1 ∧ (openings d.log).length+1 < 2^32 := by
  have hlt : (openings d.log).length+1 < 2^32 := by
    have hle : (openings d.log).length+1 ≤ 2^32 := h.bound
    refine lt_of_le_of_ne hle (fun heq => hid ?_)
    rw [h.next, heq]
    rfl
  refine ⟨?_,hlt⟩
  rw [h.next]
  exact Nat.mod_eq_of_lt hlt

/-- A new stream. -/
theorem Streams.registered (h : Streams d) (svc : Service) {peerId : ℕ} (params : ServiceParams)
    (hid : d.nextServiceId ≠ 0) (hp : peerId ≠ 0) :
    Streams (registerService d svc peerId params).2 ∧
      d.fresh ∉ openings d.log ∧
      streamId d.fresh (registerService d svc peerId params).2.log =
        (openings d.log).length+1 := by
  set d' := (registerService d svc peerId params).2 with hd'
  have hlog : d'.log = d.log ++ [.opened d.fresh params] := rfl
  have hheap : d'.heap = Function.update d.heap d.fresh
    (some { svc with id := d.nextServiceId, peerId := peerId }) := rfl
  have hnew : d.fresh ∉ openings d.log := fun hin => lt_irrefl _ (h.fresh _ hin)
  have hopen : openings d'.log = openings d.log ++ [d.fresh] := by
    rw [hlog, openings_append]
    rfl
  obtain ⟨hnext,hlt⟩ := h.next_id hid
  have hstream {b : ℕ} (hbin : b ∈ openings d.log) : streamId b d'.log = streamId b d.log :=
    stream_id_append _ hbin
  have hself : d.nextServiceId = streamId d.fresh d'.log := by
    rw [hnext, hlog]
    exact (stream_id_new [.opened d.fresh params] hnew rfl).symm
  have hold (b : ℕ) (hb : b ∈ openings d.log) : b ≠ d.fresh := ne_of_mem_of_not_mem hb hnew
  have hframes (n : ℕ) : streamFrames n d'.log = streamFrames n d.log := by
    rw [hlog, stream_frames_append]
    exact List.append_nil _
  have hacks (b : ℕ) : MicroADB.acks b d'.log = MicroADB.acks b d.log := by
    rw [hlog, acks_append]
    rfl
  refine ⟨?_,hnew,hself.symm.trans hnext⟩
  refine
    { bound := by rw [hopen, List.length_append]; exact hlt
      next := ?_
      fresh := fun b hbin => ?_
      opened := fun b hbin => ?_
      ids := fun b svc₀ hb₀ => ?_
      frames := fun n hn => ?_
      acks := fun b hbk => ?_
      replies := fun up hup => ?_ }
  · rw [hopen, List.length_append]
    change u32 (d.nextServiceId+1) = _
    rw [hnext]
    rfl
  · rw [hopen] at hbin
    change b < d.fresh+1
    rcases List.mem_append.mp hbin with hbin | hbin
    · exact (h.fresh b hbin).trans (Nat.lt_succ_self _)
    · rw [List.mem_singleton.mp hbin]
      exact Nat.lt_succ_self _
  · rw [hopen] at hbin
    rw [hheap]
    rcases List.mem_append.mp hbin with hbin | hbin
    · rw [Function.update_of_ne (hold b hbin)]
      exact h.opened b hbin
    · rw [List.mem_singleton.mp hbin, Function.update_self]
      exact ⟨_,rfl⟩
  · rw [hheap] at hb₀
    rw [hopen]
    by_cases hba : b = d.fresh
    · subst hba
      rw [Function.update_self] at hb₀
      obtain rfl := Option.some.inj hb₀
      exact ⟨List.mem_append_right _ (List.mem_singleton_self _),hp,Or.inl hself⟩
    · rw [Function.update_of_ne hba] at hb₀
      obtain ⟨hbin,hids⟩ := h.ids b svc₀ hb₀
      rw [hstream hbin]
      exact ⟨List.mem_append_left _ hbin,hids⟩
  · rw [hframes] at hn
    obtain ⟨b,hbin,hbn⟩ := h.frames n hn
    rw [hopen]
    exact ⟨b,List.mem_append_left _ hbin,by rw [hstream hbin]; exact hbn⟩
  · rw [hacks] at hbk
    rw [hopen]
    exact List.mem_append_left _ (h.acks b hbk)
  · obtain ⟨b,svc₀,hb₀,hreply⟩ := h.replies up hup
    refine ⟨b,svc₀,?_,hreply⟩
    rw [hheap, Function.update_of_ne (hold b (h.ids b svc₀ hb₀).1)]
    exact hb₀

theorem Streams.moved (h : Streams d) (hm : Moved d d')
    (hr : ∀ up ∈ MicroADB.replies d', up ∈ MicroADB.replies d ∨ ReplyOf d up) : Streams d' := by
  cases hm with
  | still es hb hh hs => exact h.still hb hh hs hr
  | acts a svc svc' fs k _ hacts => exact h.acts hacts hr
  | opened svc peerId params hc hid hp hk he => rw [he]; exact (h.registered svc params hid hp).1

/-! The replies in the transport. -/

theorem replies_of_socket (h : d'.socket.writes = d.socket.writes) : replies d' = replies d :=
  congrArg (List.filter _) h

theorem ops_close_writes (d : Daemon ω) (why : CloseReason) :
    (opsClose d why).socket.writes = d.socket.writes := by
  unfold opsClose
  split <;> rfl

theorem send_frame_writes (uv : Uv ω) (d : Daemon ω) (up : ApacketUv) :
    (sendFrame uv d up).socket.writes = d.socket.writes ∨
      (sendFrame uv d up).socket.writes = d.socket.writes ++ [up.sealed] := by
  cases hcl : d.socket.closing with
  | true =>
    rw [send_frame_closing up hcl]
    exact Or.inl rfl
  | false =>
    cases hw : (uv.write d.os).2 with
    | true =>
      rw [send_frame_taken up ⟨hcl,hw⟩]
      exact Or.inr rfl
    | false =>
      rw [send_frame_refused up hcl hw, ops_close_writes]
      exact Or.inl rfl

/-- A frame without data behind it. -/
theorem replies_send (uv : Uv ω) (d : Daemon ω) (up : ApacketUv) (hw : up.p.writeLen = 0) :
    replies (sendFrame uv d up) = replies d := by
  rcases send_frame_writes uv d up with hs | hs
  · exact replies_of_socket hs
  · have hnil : [up.sealed].filter (fun up => decide (0 < up.p.writeLen)) = [] := by
      have hlen : up.sealed.p.writeLen = 0 := hw
      rw [List.filter_singleton, hlen]
      rfl
    unfold replies
    rw [hs, List.filter_append, hnil, List.append_nil]

theorem replies_service_close (fs : FileSystem ω) (uv : Uv ω) {a : ℕ} {svc : Service}
    (up : Option ApacketUv) (hreg : a ∈ d.services) (ha : d.alive a = some svc)
    (hcl : svc.stream.closing = false) (hg : d.gone = false) :
    replies (adbServiceClose fs uv d a up) = replies d := by
  have hsend : replies (sendClose uv (unlink d a) svc up) = replies d := by
    cases up with
    | none => rfl
    | some up =>
      exact replies_send uv (unlink d a)
        ((up.message aClse svc.id svc.peerId 0).setWriteLen 0) rfl
  rcases service_close_spec fs uv d a svc up hg hreg ha hcl with
    ⟨heq,-⟩ | ⟨svc',os,es',-,-,-,heq⟩ <;> rw [heq] <;> exact hsend

theorem Move.replies {x y : Option ℕ × Daemon ω} (h : Move cfg fs uv x y) :
    MicroADB.replies y.2 = MicroADB.replies x.2 := by
  cases h with
  | unmoved hu => exact replies_of_socket hu.writes
  | close why => exact replies_of_socket (ops_close_writes _ why)
  | send up _ _ hw => exact replies_send uv _ up hw
  | okay up _ _ hw _ => exact replies_send uv _ up hw
  | @connect d a svc up _ _ _ hw =>
    exact replies_send uv
      (d.setService a (adbHalSocketStart { svc with kind := .tcp .connected })) up hw
  | closed up _ hreg ha hcl hg _ => exact replies_service_close fs uv up hreg ha hcl hg
  | _ => rfl

/-- A packet whose write has called back. -/
theorem replies_pop {up : ApacketUv} {rest : List ApacketUv} (hw : d.socket.writes = up :: rest) :
    replies d = replies (d.setSocket { d.socket with writes := rest }) ∨
      replies d = up :: replies (d.setSocket { d.socket with writes := rest }) := by
  unfold replies
  rw [hw, List.filter_cons]
  split
  · exact Or.inr rfl
  · exact Or.inl rfl

theorem StepMove.replies {x y : Option ℕ × Daemon ω} (h : StepMove cfg fs uv x y) :
    MicroADB.replies x.2 = MicroADB.replies y.2 ∨
      ∃ up, MicroADB.replies x.2 = up :: MicroADB.replies y.2 := by
  cases h with
  | move hm => exact Or.inl hm.replies.symm
  | @pop d up rest hw =>
    rcases replies_pop hw with hp | hp
    · exact Or.inl hp
    · exact Or.inr ⟨up,hp⟩
  | @reply d up rest hw _ =>
    have hsend := replies_send uv (d.setSocket { d.socket with writes := rest })
      ((up.message aWrte up.p.msg.arg0 up.p.msg.arg1 up.p.writeLen).setWriteLen 0) rfl
    rcases replies_pop hw with hp | hp
    · exact Or.inl (hp.trans hsend.symm)
    · exact Or.inr ⟨up,hp.trans (congrArg _ hsend.symm)⟩
  | _ => exact Or.inl rfl

theorem StepMove.streams {x y : Option ℕ × Daemon ω} (h : StepMove cfg fs uv x y)
    (hs : Streams x.2) : Streams y.2 := by
  refine hs.moved (h.moved hs.replies) (fun up hup => Or.inl ?_)
  rcases h.replies with hr | ⟨up',hr⟩ <;> rw [hr]
  · exact hup
  · exact List.mem_cons_of_mem _ hup

/-! One stream. -/

/-- A stream: its service, the frames that were sent on it, the OKAYs that it took. -/
structure Stream where
  svc : Service
  frames : List StreamFrame
  acks : ℕ

def streamAt (a : ℕ) (d : Daemon ω) : Option Stream :=
  (d.heap a).map fun svc => ⟨svc,streamFrames (streamId a d.log) d.log,acks a d.log⟩

/-- A stream on which nothing was sent yet. -/
structure Stream.New (s : Stream) : Prop where
  kind : s.svc.kind.IsSync ∨ s.svc.kind = .tcp .notConnected ∨ s.svc.kind = .shell false
  peerId : s.svc.peerId ≠ 0
  frames : s.frames = []
  acks : s.acks = 0

theorem stream_at {a : ℕ} {svc : Service} (ha : d.heap a = some svc) :
    streamAt a d = some ⟨svc,streamFrames (streamId a d.log) d.log,acks a d.log⟩ := by
  rw [streamAt, ha]
  rfl

/-- The stream of the service that acts. -/
theorem ActsAt.self {a : ℕ} {svc svc' : Service} {fs : List StreamFrame} {k : ℕ}
    (h : ActsAt a svc svc' fs k d d') (hs : Streams d) :
    ∃ frames n, streamAt a d = some ⟨svc,frames,n⟩ ∧
      streamAt a d' = some ⟨svc',frames ++ fs,n+k⟩ := by
  obtain ⟨ht,ha,hh,es,hb,hadds⟩ := h
  obtain ⟨hin,-,hid⟩ := hs.ids a svc ha
  have hfs : (if streamId a d.log = svc.id then fs else []) = fs := by
    rcases hid with hid | ⟨-,hk⟩
    · rw [if_pos hid.symm]
    · rw [(ht.errorClose hk).2.2, ite_self]
  refine ⟨_,_,stream_at ha,?_⟩
  rw [stream_at (d := d') (show d'.heap a = some svc' by rw [hh, Function.update_self]), hb.log,
    stream_id_append es hin, stream_frames_append, hadds.frames, hfs, acks_append, hadds.acks,
    if_pos rfl]

/-- The other streams stay as they are. -/
theorem ActsAt.other {a b : ℕ} {svc svc' : Service} {fs : List StreamFrame} {k : ℕ}
    (h : ActsAt a svc svc' fs k d d') (hs : Streams d) (hba : b ≠ a) :
    streamAt b d' = streamAt b d := by
  obtain ⟨ht,ha,hh,es,hb,hadds⟩ := h
  have hheap : d'.heap b = d.heap b := by rw [hh, Function.update_of_ne hba]
  cases hsome : d.heap b with
  | none => rw [streamAt, hheap, hsome, streamAt, hsome]; rfl
  | some svc₀ =>
    obtain ⟨hin,-,-⟩ := hs.ids b svc₀ hsome
    obtain ⟨-,-,hid⟩ := hs.ids a svc ha
    have hfs : (if streamId b d.log = svc.id then fs else []) = [] := by
      rcases hid with hid | ⟨-,hk⟩
      · rw [if_neg (fun h => hba (stream_id_inj hin (h.trans hid)))]
      · rw [(ht.errorClose hk).2.2, ite_self]
    rw [stream_at (d := d') (hheap.trans hsome), stream_at hsome, hb.log, stream_id_append es hin,
      stream_frames_append, hadds.frames, hfs, List.append_nil, acks_append, hadds.acks,
      if_neg hba, Nat.add_zero]

/-- An act of the service of a stream. -/
inductive StreamStep : Stream → Stream → Prop
  | step {svc svc' : Service} {fs : List StreamFrame} {k : ℕ} (frames : List StreamFrame) (n : ℕ)
    (h : Acts svc svc' fs k) : StreamStep ⟨svc,frames,n⟩ ⟨svc',frames ++ fs,n+k⟩

/-- A move of the program is at most one act of each stream. -/
theorem Moved.stream (hs : Streams d) (h : Moved d d') (a : ℕ) {s' : Stream}
    (ha : streamAt a d' = some s') :
    (∃ s, streamAt a d = some s ∧ (s' = s ∨ StreamStep s s')) ∨
      streamAt a d = none ∧ s'.New := by
  cases h with
  | still es hb hh hsil =>
    obtain ⟨svc',ha',rfl⟩ := Option.map_eq_some_iff.mp ha
    have hadds := adds_silent hsil 0 0
    have hin := (hs.ids a svc' (hh ▸ ha')).1
    refine Or.inl ⟨_,stream_at (hh ▸ ha'),Or.inl ?_⟩
    rw [hb.log, stream_id_append es hin, stream_frames_append, hadds.frames, ite_self,
      List.append_nil, acks_append, hadds.acks, ite_self, Nat.add_zero]
  | acts b svc svc₁ fs k hacts h =>
    by_cases hba : a = b
    · subst hba
      obtain ⟨frames,n,hbefore,hafter⟩ := h.self hs
      obtain rfl := Option.some.inj (ha.symm.trans hafter)
      exact Or.inl ⟨_,hbefore,Or.inr (.step frames n hacts)⟩
    · exact Or.inl ⟨s',(h.other hs hba).symm.trans ha,Or.inl rfl⟩
  | opened svc peerId params hc hid hp hk he =>
    obtain ⟨svc',ha',rfl⟩ := Option.map_eq_some_iff.mp ha
    obtain ⟨-,hnew,hself⟩ := hs.registered svc params hid hp
    have hlog : d'.log = d.log ++ [.opened d.fresh params] := he ▸ rfl
    have hheap : d'.heap = Function.update d.heap d.fresh
      (some { svc with id := d.nextServiceId, peerId := peerId }) := he ▸ rfl
    have hframes (n : ℕ) : streamFrames n d'.log = streamFrames n d.log := by
      rw [hlog, stream_frames_append]
      exact List.append_nil _
    have hacks (b : ℕ) : MicroADB.acks b d'.log = MicroADB.acks b d.log := by
      rw [hlog, acks_append]
      rfl
    rw [← he] at hself
    rw [hheap] at ha'
    by_cases hba : a = d.fresh
    · subst hba
      rw [Function.update_self] at ha'
      have hnone : d.heap d.fresh = none := by
        by_contra hsome
        obtain ⟨svc₀,h₀⟩ := Option.ne_none_iff_exists'.mp hsome
        exact hnew (hs.ids _ svc₀ h₀).1
      have hempty : streamFrames ((openings d.log).length+1) d.log = [] := by
        by_contra hne
        obtain ⟨b,hin,hb⟩ := hs.frames _ hne
        have hle := stream_id_le hin
        omega
      refine Or.inr ⟨by rw [streamAt, hnone]; rfl,?_⟩
      rw [hself, hframes, hempty, hacks, ← Option.some.inj ha']
      exact ⟨hk,hp,rfl,by_contra fun hne => hnew (hs.acks _ hne)⟩
    · rw [Function.update_of_ne hba] at ha'
      refine Or.inl ⟨_,stream_at ha',Or.inl ?_⟩
      rw [hframes, hacks, hlog, stream_id_append _ (hs.ids a svc' ha').1]

/-- No stream disappears. -/
theorem Moved.absent (h : Moved d d') {a : ℕ}
    (ha : streamAt a d' = none) : streamAt a d = none := by
  have ha' : d'.heap a = none := Option.map_eq_none_iff.mp ha
  have hnone : d.heap a = none := by
    cases h with
    | still es hb hh hs => rw [← hh]; exact ha'
    | acts b svc svc' fs k _ hacts =>
      rw [hacts.after] at ha'
      by_cases hba : a = b
      · rw [hba, Function.update_self] at ha'
        cases ha'
      · rwa [Function.update_of_ne hba] at ha'
    | opened svc peerId params hc hid hp hk he =>
      rw [he] at ha'
      change Function.update d.heap d.fresh _ a = none at ha'
      by_cases hba : a = d.fresh
      · rw [hba, Function.update_self] at ha'
        cases ha'
      · rwa [Function.update_of_ne hba] at ha'
  rw [streamAt, hnone]
  rfl

/-- The stream at a behind a chain: acts of the one before it, or of a new one. -/
def StreamRuns (a : ℕ) (d : Daemon ω) (s' : Stream) : Prop :=
  ∃ s, (streamAt a d = some s ∨ streamAt a d = none ∧ s.New) ∧
    Relation.ReflTransGen StreamStep s s'

theorem StepMoves.streams {x y : Option ℕ × Daemon ω} (h : StepMoves cfg fs uv x y)
    (hs : Streams x.2) : Streams y.2 := by
  induction h with
  | refl => exact hs
  | tail _ hm ih => exact hm.streams ih

theorem StepMoves.absent {x y : Option ℕ × Daemon ω} (h : StepMoves cfg fs uv x y)
    (hs : Streams x.2) {a : ℕ} (ha : streamAt a y.2 = none) : streamAt a x.2 = none := by
  induction h with
  | refl => exact ha
  | tail hm hlast ih =>
    exact ih ((hlast.moved (StepMoves.streams hm hs).replies).absent ha)

theorem StepMoves.stream {x y : Option ℕ × Daemon ω} (h : StepMoves cfg fs uv x y)
    (hs : Streams x.2) (a : ℕ) {s' : Stream} (ha : streamAt a y.2 = some s') :
    StreamRuns a x.2 s' := by
  induction h generalizing s' with
  | refl => exact ⟨s',Or.inl ha,.refl⟩
  | tail hm hlast ih =>
    have hs₁ := StepMoves.streams hm hs
    rcases (hlast.moved hs₁.replies).stream hs₁ a ha with ⟨s,hs₀,hstep⟩ | ⟨hnone,hnew⟩
    · obtain ⟨s₀,hstart,hrun⟩ := ih hs₀
      refine ⟨s₀,hstart,?_⟩
      rcases hstep with rfl | hstep
      · exact hrun
      · exact hrun.tail hstep
    · exact ⟨s',Or.inr ⟨StepMoves.absent hm hs hnone,hnew⟩,.refl⟩

end MicroADB
