import MicroADB.AdbServiceClose
import MicroADB.AdbStream

/-! The end of a client on its transports: the handles that are embedded in it, the order in which
their closes complete, and what is still under way when it is freed. -/
namespace MicroADB
open ByteMemory EventRun

variable {ω : Type} {cfg : Config} {fs : FileSystem ω} {uv : Uv ω} {d d' : Daemon ω}

/-! The transports. -/

/-- The exits of tcp_on_connection behind the creation of the client. -/
inductive ConnectionExit
  | tcpInit
  | accept
  | readStart
deriving DecidableEq

/-- A transport; of tcp, the exit that tcp_on_connection takes. -/
inductive Transport
  | tcp (exit : Option ConnectionExit)
  | qemu
  | usb
deriving DecidableEq

/-- The socket or pipe that a client reads from, and the pipe that usb writes to. Any other
transport writes to the former. -/
inductive ClientHandle
  | stream
  | writePipe
deriving DecidableEq

def Transport.handles : Transport → List ClientHandle
  | .usb => [.writePipe,.stream]
  | _ => [.stream]

/-- A client, and the handles in it that were initialised and are not closed yet. The socket of the
daemon is both pipes of usb: usb_uv_close closes them in one turn. -/
structure Client (ω : Type) where
  d : Daemon ω
  handles : List ClientHandle

/-- What libuv does with a client. -/
inductive ClientInput
  | callback (i : Input)
  /-- The close of the write_pipe completes. It has no callback. -/
  | writePipeClosed
  /-- uv_read_start fails in usb_uv_kick or qemu_uv_kick. -/
  | readStartFailed

variable (cfg fs uv)

/-- A client behind its setup. A socket that was not accepted leaves its client freed. -/
def clientStart (t : Transport) (token : List UInt8) (os : ω) : Client ω :=
  let d := daemonStart token os
  let unread := d.setSocket .idle
  match t with
  | .tcp (some .tcpInit) => ⟨adbUvCloseClient cfg fs uv unread,[]⟩
  | .tcp (some .accept) => ⟨adbUvCloseClient cfg fs uv unread,[.stream]⟩
  | .tcp (some .readStart) => ⟨unread.setSocket unread.socket.close,[.stream]⟩
  | t => ⟨d,t.handles⟩

/-- The close of the handle that is read can complete: its writes have called back. -/
def StreamCloses (t : Transport) (d : Daemon ω) : Prop :=
  d.socket.closing = true ∧ d.gone = false ∧ (t ≠ .usb → d.socket.writes = [])

instance (t : Transport) (d : Daemon ω) : Decidable (StreamCloses t d) :=
  inferInstanceAs (Decidable (_ ∧ _ ∧ (_ → _)))

/-- Its callback is tcp_uv_on_close, qemu_uv_on_close or usb_uv_on_close. The kick of the last two
asserts that reading starts, which a closing handle refuses. -/
def clientStep (t : Transport) (c : Client ω) (i : ClientInput) : Client ω :=
  if c.d.crashed then c
  else match i with
    | .callback .transportClosed =>
      if StreamCloses t c.d then ⟨adbUvCloseClient cfg fs uv c.d,c.handles.erase .stream⟩ else c
    | .callback (.transportWritten fail) =>
      if c.d.gone = true ∧ c.d.socket.writes ≠ [] then { c with d := c.d.fault .useAfterFree }
      else { c with d := step cfg fs uv c.d (.transportWritten fail) }
    | .callback i => { c with d := step cfg fs uv c.d i }
    | .writePipeClosed =>
      if .writePipe ∈ c.handles ∧ c.d.socket.closing = true ∧ c.d.socket.writes = [] then
        ⟨if c.d.gone then c.d.fault .useAfterFree else c.d,c.handles.erase .writePipe⟩
      else c
    | .readStartFailed =>
      if (t = .qemu ∨ t = .usb) ∧ c.d.socket.closing = true then
        { c with d := c.d.fault .assertion }
      else c

def clientRun (t : Transport) (token : List UInt8) (os : ω) (is : List ClientInput) : Client ω :=
  run (clientStep cfg fs uv t) (clientStart cfg fs uv t token os) is

variable {cfg fs uv}

/-! What is left of a client. -/

/-- No callback is left that reads the client. -/
structure Over (d : Daemon ω) : Prop where
  reads : d.socket.active = false
  writes : d.socket.writes = []
  services : ∀ a svc, d.heap a = some svc → svc.stream.active = false ∧ svc.stream.Quiet

/-- libuv is done with the client. -/
structure Finished (c : Client ω) : Prop where
  handles : c.handles = []
  callbacks : Over c.d

/-- The close that frees the client is the last of its handles, and no service waits for a
request. -/
def LastClose (t : Transport) (c : Client ω) (i : ClientInput) : Prop :=
  match i with
  | .callback .transportClosed =>
    StreamCloses t c.d → c.handles = [.stream] ∧ AllQuiet c.d
  | _ => True

/-! A transport that is closing and has nothing to write stays so. -/

structure Mute (d : Daemon ω) : Prop where
  closing : d.socket.closing = true
  writes : d.socket.writes = []

theorem Mute.of_socket (h : Mute d) (hs : d'.socket = d.socket) : Mute d' :=
  ⟨hs ▸ h.closing,hs ▸ h.writes⟩

theorem Mute.ops_close (h : Mute d) (why : CloseReason) : Mute (opsClose d why) := by
  rw [ops_close_closing why h.closing]
  exact h.of_socket rfl

/-- A frame is refused by the closing stream. -/
theorem Mute.send (h : Mute d) (up : ApacketUv) : Mute (sendFrame uv d up) := by
  rw [send_frame_closing up h.closing]
  exact h.of_socket rfl

theorem Mute.service_close (h : Mute d) (fs : FileSystem ω) {a : ℕ} {svc : Service}
    (up : Option ApacketUv) (hreg : a ∈ d.services) (ha : d.alive a = some svc)
    (hcl : svc.stream.closing = false) (hg : d.gone = false) :
    Mute (adbServiceClose fs uv d a up) := by
  have hunlink : Mute (unlink d a) := h.of_socket rfl
  have hsend : Mute (sendClose uv (unlink d a) svc up) := by
    cases up with
    | none => exact hunlink
    | some up => exact hunlink.send _
  rcases service_close_spec fs uv d a svc up hg hreg ha hcl with
    ⟨heq,-⟩ | ⟨svc',os,es,-,-,-,heq⟩
  · rw [heq]
    exact hsend
  · rw [heq]
    exact hsend.of_socket rfl

theorem Move.mute {x y : Option ℕ × Daemon ω} (h : Move cfg fs uv x y) (hs : Mute x.2) :
    Mute y.2 := by
  cases h with
  | unmoved hu => exact ⟨hu.closing.trans hs.closing,hu.writes.trans hs.writes⟩
  | close why => exact hs.ops_close why
  | send up _ _ _ => exact hs.send up
  | okay up _ _ _ _ => exact hs.send up
  | @connect d a svc up _ _ _ _ =>
    have hset : Mute (d.setService a (adbHalSocketStart { svc with kind := .tcp .connected })) :=
      hs.of_socket rfl
    exact hset.send up
  | closed up _ hreg ha hcl hg _ => exact hs.service_close fs up hreg ha hcl hg
  | _ => exact hs.of_socket rfl

theorem StepMove.mute {x y : Option ℕ × Daemon ω} (h : StepMove cfg fs uv x y)
    (hs : Mute x.2) : Mute y.2 := by
  cases h with
  | move hm => exact hm.mute hs
  | pop hw =>
    rw [hs.writes] at hw
    cases hw
  | reply hw _ =>
    rw [hs.writes] at hw
    cases hw
  | _ => exact hs.of_socket rfl

theorem StepMoves.mute {x y : Option ℕ × Daemon ω} (h : StepMoves cfg fs uv x y)
    (hs : Mute x.2) : Mute y.2 := by
  induction h with
  | refl => exact hs
  | tail _ hlast ih => exact hlast.mute ih

/-- The frames that the services send. -/
theorem Fed.mute {a : ℕ} {bs : List UInt8} {x y : Option ℕ × Daemon ω} (h : Fed uv a bs x y)
    (hs : Mute x.2) : Mute y.2 := by
  cases h with
  | @fed d svc svc' up _ _ _ _ _ _ _ =>
    have hset : Mute (d.setService a svc') := hs.of_socket rfl
    exact hset.send up

theorem Returned.mute {a : ℕ} (h : Returned uv a d d') (hs : Mute d) : Mute d' := by
  cases h with
  | @returned svc up rest _ _ _ =>
    have hset : Mute
        (d.setService a { svc with stream := { svc.stream with writes := rest } }) :=
      hs.of_socket rfl
    exact hset.send _

theorem Answering.mute {a : ℕ} {x y : Option ℕ × Daemon ω} (h : Answering uv a x y)
    (hs : Mute x.2) : Mute y.2 := by
  cases h with
  | replied up _ _ _ _ => exact hs.send up

theorem Continued.mute {a : ℕ} {x y : Option ℕ × Daemon ω} (h : Continued cfg fs uv a x y)
    (hs : Mute x.2) : Mute y.2 := by
  cases h with
  | @continued d svc s c up _ _ _ _ _ =>
    have hdone : Mute (syncDone (d.emit (.onAck a)) a svc c) := hs.of_socket rfl
    exact hdone.send up

theorem Mute.step (h : Mute d) (ht : d.crashed = false → Table d) (i : Input) :
    Mute (step cfg fs uv d i) := by
  cases step_stepped cfg fs uv i ht with
  | moves _ _ hm => exact hm.mute h
  | fed a bs x _ _ hm hf => exact hf.mute (hm.mute h)
  | returned a _ _ hr => exact hr.mute h
  | replied a x _ _ _ hm hf => exact hf.mute (hm.mute h)
  | continued a x _ _ hm hf => exact hf.mute (hm.mute h)

/-! Only the close of the client frees it. -/

theorem gone_reads (b : Bool) :
    KeepsReads cfg fs uv (fun _ _ => True) (fun d => d.gone = b) where
  toKeepsAll := gone_all b
  frame d d' h ha := by cases ha <;> exact h
  connected d h := h
  receives d d' h hr := hr.gone.trans h
  starve d h _ := h
  bad_close d why h := by
    unfold opsClose
    split <;> exact h

theorem step_gone (i : Input) (hs : Sound cfg uv [] d) (hi : i ≠ .transportClosed) :
    (step cfg fs uv d i).gone = d.gone := by
  have hreads : KeepsReads cfg fs uv (fun _ _ => True) (fun d' => d'.gone = d.gone) :=
    gone_reads d.gone
  have hstep : KeepsStep cfg fs uv (fun _ _ => True) (fun d' => d'.gone = d.gone) :=
    ⟨hreads.toKeepsAll,fun d' a svc h _ _ _ => h⟩
  apply hstep.step i rfl
  · intro r _ _ _
    exact hreads.transport_read r rfl (fun _ _ _ _ => frame_closes_true _ _)
  · intro hclosed
    exact absurd hclosed hi
  · intro hc
    exact (hs.running hc).1.wf
  · exact step_closes_true _ d i

/-! The end of the client. -/

/-- A service whose handle is closing, or that has been freed, is not read. -/
def Stopped (d : Daemon ω) : Prop :=
  ∀ a svc, d.heap a = some svc → svc.Wf ∧ (svc.freed = true ∨ svc.stream.closing = true)

theorem Stopped.inactive (h : Stopped d) {a : ℕ} {svc : Service} (ha : d.heap a = some svc) :
    svc.stream.active = false := by
  obtain ⟨hw,hfreed | hcl⟩ := h a svc ha
  · exact hw.freed hfreed
  · exact (hw.stream.closing hcl).1

/-- The services of an empty list are ended. -/
theorem Table.stopped (h : Table d) (hs : d.services = []) : Stopped d := by
  intro a svc ha
  refine ⟨h.wf a svc ha,?_⟩
  by_contra hnot
  rw [not_or, Bool.not_eq_true, Bool.not_eq_true] at hnot
  have hreg := (h.registered a).mpr ⟨svc,(alive_iff d a svc).mpr ⟨ha,hnot.1⟩,hnot.2⟩
  rw [hs] at hreg
  cases hreg

theorem Stopped.set_service (h : Stopped d) {a : ℕ} {svc svc' : Service}
    (ha : d.alive a = some svc) (hc : Change d a svc svc') : Stopped (d.setService a svc') := by
  intro b svc₀ hb
  by_cases hba : b = a
  · subst hba
    rw [Daemon.set_service_heap, Function.update_self] at hb
    obtain rfl := Option.some.inj hb
    obtain ⟨hw,hend⟩ := h b svc ((alive_iff d b svc).mp ha).1
    rw [hc.freed, hc.closing]
    exact ⟨hc.wf hw,hend⟩
  · rw [Daemon.set_service_heap, Function.update_of_ne hba] at hb
    exact h b svc₀ hb

/-- What the close of the client keeps: no request comes up, and behind the client nothing is
read. -/
structure Ends (d : Daemon ω) : Prop where
  table : d.crashed = false → Table d
  quiet : AllQuiet d
  socket : d.socket.Wf ∧ d.socket.closing = true
  stopped : d.gone = true → Stopped d

theorem ends_keeps : Keeps cfg fs uv (fun _ _ => True) Ends where
  act d d' h ha := by
    have htable (hc : d'.crashed = false) : Table d' := (h.table (act_crashed ha hc)).act ha
    cases ha with
    | quietly _ hq =>
      refine ⟨htable,fun b svc hb => h.quiet b svc (hq.heap ▸ hb),
        ⟨hq.wf h.socket.1,hq.closing h.socket.2⟩,fun hg b svc hb => ?_⟩
      exact h.stopped (hq.gone ▸ hg) b svc (hq.heap ▸ hb)
    | service a svc svc' ha hc =>
      have hquiet := hc.quiet (h.quiet a svc ((alive_iff _ _ _).mp ha).1)
      exact ⟨htable,h.quiet.set_service hquiet,h.socket,fun hg => (h.stopped hg).set_service ha hc⟩
    | _ => exact ⟨htable,h.quiet,h.socket,h.stopped⟩
  close d a up h hc _ := by
    have htable (hc' : (adbServiceClose fs uv d a up).crashed = false) :
        Table (adbServiceClose fs uv d a up) := (h.table hc).close a up hc'
    by_cases hreg : d.gone = true ∨ a ∉ d.services
    · obtain ⟨b,es,heq,-,-⟩ := service_close_other fs uv d a up hreg
      rw [heq] at htable ⊢
      exact ⟨htable,h.quiet,h.socket,h.stopped⟩
    · rw [not_or, not_not, Bool.not_eq_true] at hreg
      obtain ⟨svc,ha,hheap,hcl⟩ := (h.table hc).find hreg.2
      have hgone := (service_close_gone fs uv d a up).trans hreg.1
      have hq := quietly_send_close uv (unlink d a) svc up
      have hsocket := And.intro (hq.wf h.socket.1) (hq.closing h.socket.2)
      have hthere (hg : (adbServiceClose fs uv d a up).gone = true) :
          Stopped (adbServiceClose fs uv d a up) := by
        rw [hgone] at hg
        cases hg
      rcases service_close_spec fs uv d a svc up hreg.1 hreg.2 ha hcl with
        ⟨heq,-⟩ | ⟨svc',os,es,hend,-,-,heq⟩
      · rw [heq] at htable hthere ⊢
        exact ⟨htable,fun b svc hb => h.quiet b svc (hq.heap ▸ hb),hsocket,hthere⟩
      · rw [heq] at htable hthere ⊢
        have hquiet := h.quiet a svc hheap
        have hset : AllQuiet (d.setService a svc') :=
          h.quiet.set_service ⟨hend.writes.trans hquiet.1,hend.connecting.trans hquiet.2⟩
        exact ⟨htable,hset,hsocket,hthere⟩

theorem ends_close : KeepsClose cfg fs uv (fun _ _ => True) Ends where
  toKeepsAll := by
    apply ends_keeps.keeps_all (fun _ _ _ _ _ _ _ => trivial)
    · exact fun d h => ⟨(fun hc => by cases hc),h.quiet,h.socket,h.stopped⟩
    · exact fun d a n h =>
        ⟨fun hc => (h.table hc).of_same rfl rfl le_rfl,h.quiet,h.socket,h.stopped⟩
  drop d h := ⟨fun hc => (h.table hc).of_same rfl rfl le_rfl,h.quiet,h.socket,h.stopped⟩
  free_client d h hc hs :=
    ⟨fun hc => (h.table hc).of_same rfl rfl le_rfl,h.quiet,h.socket,fun _ => (h.table hc).stopped hs⟩

/-- The close of a client whose services wait for nothing leaves no callback. -/
theorem close_client_over (hs : Sound cfg uv [] d) (hc : d.crashed = false) (hmute : Mute d)
    (hquiet : AllQuiet d) (hg : (adbUvCloseClient cfg fs uv d).gone = true)
    (hopen : d.gone = false) : Over (adbUvCloseClient cfg fs uv d) := by
  obtain ⟨htable,hread⟩ := hs.running hc
  have hclose : KeepsClose cfg fs uv (fun _ _ => True) Ends := ends_close
  have hends : Ends d := ⟨fun _ => htable,hquiet,⟨hread.socketWf,hmute.closing⟩,fun hgone => by
    rw [hopen] at hgone
    cases hgone⟩
  have hend : Ends (adbUvCloseClient cfg fs uv d) := by
    apply hclose.uv_close_client hends hc
    intro d' a rest hd' hc' hl
    exact ⟨trivial,fun hc'' => service_close_first (hd'.table hc') none hl hc''⟩
  have hwrites : Mute (adbUvCloseClient cfg fs uv d) :=
    (moves_close_client (fun _ => htable) hc).mute hmute
  refine ⟨(hend.socket.1.closing hend.socket.2).1,hwrites.writes,fun a svc ha => ?_⟩
  exact ⟨(hend.stopped hg).inactive ha,hend.quiet a svc ha⟩

/-- Behind the last callback only what has been closed is freed. -/
theorem Over.step (h : Over d) (hg : d.gone = true) (i : Input) :
    Over (step cfg fs uv d i) := by
  have hservice (a : ℕ) (svc svc' : Service) (ha : d.heap a = some svc)
      (hs : svc'.stream = svc.stream) : Over (d.setService a svc') := by
    refine ⟨h.reads,h.writes,fun b svc₀ hb => ?_⟩
    by_cases hba : b = a
    · rw [hba, Daemon.set_service_heap, Function.update_self] at hb
      rw [← Option.some.inj hb, hs]
      exact h.services a svc ha
    · rw [Daemon.set_service_heap, Function.update_of_ne hba] at hb
      exact h.services b svc₀ hb
  have hfree (a : ℕ) (svc : Service) (ha : d.heap a = some svc) : Over (freeService d a svc) := by
    have hset := hservice a svc { svc with freed := true } ha rfl
    exact ⟨hset.reads,hset.writes,hset.services⟩
  by_cases hrun : d.crashed = true
  · rw [show MicroADB.step cfg fs uv d i = d from if_pos hrun]
    exact h
  have hcall := step_callback cfg fs uv d i (by simpa using hrun)
  generalize MicroADB.step cfg fs uv d i = d' at hcall
  cases hcall with
  | none => exact h
  | transportRead r hact =>
    rw [h.reads] at hact
    cases hact
  | transportWritten fail up rest hw =>
    rw [h.writes] at hw
    cases hw
  | transportClosed _ _ hgone =>
    rw [hg] at hgone
    cases hgone
  | touched _ a svc ha hs =>
    obtain ⟨hact,hw,hcon⟩ := h.services a svc ha
    simp [hact, hw, hcon] at hs
  | streamRead a r svc ha hact =>
    rw [(h.services a svc ((alive_iff d a svc).mp ha).1).1] at hact
    cases hact
  | streamWritten a fail svc ha hw =>
    exact absurd (h.services a svc ((alive_iff d a svc).mp ha).1).2.1 hw
  | connected a fail svc ha hcon =>
    rw [(h.services a svc ((alive_iff d a svc).mp ha).1).2.2] at hcon
    cases hcon
  | streamClosed a svc ha =>
    have hheap := ((alive_iff d a svc).mp ha).1
    unfold streamClosed
    split
    · exact hfree a svc hheap
    · exact hservice a svc _ hheap rfl
    · exact h
  | processClosed a svc ha => exact hfree a svc ((alive_iff d a svc).mp ha).1

theorem Over.of_same (h : Over d) (hs : d'.socket = d.socket) (hh : d'.heap = d.heap) :
    Over d' :=
  ⟨hs ▸ h.reads,hs ▸ h.writes,hh ▸ h.services⟩

/-! Runs of a client. -/

/-- A client that was freed is finished; until then the write_pipe of usb is closed only when
nothing is left to be written to it. -/
structure Orderly (t : Transport) (cfg : Config) (uv : Uv ω) (c : Client ω) : Prop where
  sound : Sound cfg uv [] c.d
  pipe : t = .usb → .writePipe ∉ c.handles → Mute c.d
  gone : c.d.gone = true → Finished c

variable {t : Transport} {c : Client ω}

theorem Orderly.fault (h : Orderly t cfg uv c) (fs : FileSystem ω) (f : Fault)
    (hf : (Event.fault f).plain = true) : Orderly t cfg uv { c with d := c.d.fault f } := by
  have hkeeps : Keeps cfg fs uv (fun _ _ => True) (Sound cfg uv []) := sound_keeps []
  refine ⟨hkeeps.quietly h.sound (quietly_fault c.d f hf),fun ht hp => ?_,fun hg => ?_⟩
  · exact (h.pipe ht hp).of_socket rfl
  · have hfinished := h.gone hg
    exact ⟨hfinished.handles,hfinished.callbacks.of_same rfl rfl⟩

/-- A callback that does not end the client. -/
theorem Orderly.callback (h : Orderly t cfg uv c) {i : Input} (hi : i ≠ .transportClosed) :
    Orderly t cfg uv { c with d := step cfg fs uv c.d i } := by
  refine ⟨sound_callback i h.sound,fun ht hp => ?_,fun hg => ?_⟩
  · exact (h.pipe ht hp).step (fun hc => (h.sound.running hc).1) i
  · have hgone : c.d.gone = true := (step_gone i h.sound hi).symm.trans hg
    have hfinished := h.gone hgone
    exact ⟨hfinished.handles,hfinished.callbacks.step hgone i⟩

theorem Orderly.stream_closed (h : Orderly t cfg uv c) (hc : c.d.crashed = false)
    (hcl : StreamCloses t c.d) (hlast : c.handles = [.stream] ∧ AllQuiet c.d) :
    Orderly t cfg uv ⟨adbUvCloseClient cfg fs uv c.d,c.handles.erase .stream⟩ := by
  have hmute : Mute c.d := by
    by_cases ht : t = .usb
    · apply h.pipe ht
      rw [hlast.1]
      decide
    · exact ⟨hcl.1,hcl.2.2 ht⟩
  have htable := fun hc => (h.sound.running hc).1
  have hclose : KeepsClose cfg fs uv (fun _ _ => True) (Sound cfg uv []) := sound_close
  refine ⟨?_,fun _ _ => ?_,fun hg => ?_⟩
  · exact hclose.uv_close_client h.sound hc (destroy_true _ (fun _ h hc => (h.running hc).1))
  · exact (moves_close_client htable hc).mute hmute
  · refine ⟨?_,close_client_over h.sound hc hmute hlast.2 hg hcl.2.1⟩
    rw [hlast.1]
    rfl

theorem Orderly.step (h : Orderly t cfg uv c) (i : ClientInput) (hlast : LastClose t c i) :
    Orderly t cfg uv (clientStep cfg fs uv t c i) := by
  unfold clientStep
  split
  · exact h
  rename_i hc
  have hc : c.d.crashed = false := by simpa using hc
  cases i with
  | writePipeClosed =>
    dsimp only
    split
    · rename_i hpipe
      -- a client that was freed has no handle left
      have hgone : c.d.gone = false := by
        by_contra hgone
        rw [(h.gone (by simpa using hgone)).handles] at hpipe
        cases hpipe.1
      rw [hgone, if_neg (by decide)]
      refine ⟨h.sound,fun _ _ => ⟨hpipe.2.1,hpipe.2.2⟩,fun hg => ?_⟩
      rw [hgone] at hg
      cases hg
    · exact h
  | readStartFailed =>
    dsimp only
    split
    · exact h.fault fs .assertion rfl
    · exact h
  | callback i =>
    cases i with
    | transportClosed =>
      dsimp only
      split
      · rename_i hcl
        exact h.stream_closed hc hcl (hlast hcl)
      · exact h
    | transportWritten fail =>
      dsimp only
      split
      · exact h.fault fs .useAfterFree rfl
      · exact h.callback (by simp)
    | _ => exact h.callback (by simp)

/-- A client whose setup came to an end with its socket accepted, or without a handle. -/
theorem orderly_start (cfg : Config) (fs : FileSystem ω) (uv : Uv ω) (t : Transport)
    (token : List UInt8) (os : ω) (haccept : t ≠ .tcp (some .accept)) :
    Orderly t cfg uv (clientStart cfg fs uv t token os) := by
  have hkeeps : Keeps cfg fs uv (fun _ _ => True) (Sound cfg uv []) := sound_keeps []
  have hclose : KeepsClose cfg fs uv (fun _ _ => True) (Sound cfg uv []) := sound_close
  have hstart : Sound cfg uv [] (daemonStart token os) := sound_start token os
  have hunread : Sound cfg uv [] ((daemonStart token os).setSocket .idle) :=
    hkeeps.quietly hstart (quietly_socket _ _ (fun _ => ⟨(fun h => by cases h),(fun h => by cases h)⟩)
      (fun h => by cases h) (fun h => by cases h))
  unfold clientStart
  split
  · refine ⟨?_,(fun ht => by cases ht),fun _ => ⟨rfl,rfl,rfl,fun a svc ha => by cases ha⟩⟩
    exact hclose.uv_close_client hunread rfl (destroy_true _ (fun _ h hc => (h.running hc).1))
  · exact absurd rfl haccept
  · refine ⟨?_,(fun ht => by cases ht),fun hg => by cases hg⟩
    exact hkeeps.quietly hunread (quietly_socket _ _ (fun _ => ⟨fun _ => rfl,fun _ => ⟨rfl,rfl⟩⟩)
      (fun h => by cases h) (fun _ => rfl))
  · refine ⟨hstart,fun ht hp => ?_,fun hg => by cases hg⟩
    subst ht
    exact absurd List.mem_cons_self hp

theorem orderly_run (cfg : Config) (fs : FileSystem ω) (uv : Uv ω) (t : Transport)
    (token : List UInt8) (os : ω) (is : List ClientInput) (haccept : t ≠ .tcp (some .accept))
    (h : Along (clientStep cfg fs uv t) (LastClose t) (clientStart cfg fs uv t token os) is) :
    Orderly t cfg uv (clientRun cfg fs uv t token os is) :=
  run_invariant_along (clientStep cfg fs uv t) (Orderly t cfg uv) (LastClose t)
    (fun _ i hc hlast => hc.step i hlast) _ (orderly_start cfg fs uv t token os haccept) is h

/-- In a run in which the close that frees a client is the last of its handles, with no request of
a service under way, libuv is done with every client that is freed. A socket that could not be
accepted is the exception. -/
theorem client_freed_last (cfg : Config) (fs : FileSystem ω) (uv : Uv ω) (t : Transport)
    (token : List UInt8) (os : ω) (is : List ClientInput) (haccept : t ≠ .tcp (some .accept))
    (h : Along (clientStep cfg fs uv t) (LastClose t) (clientStart cfg fs uv t token os) is)
    (hg : (clientRun cfg fs uv t token os is).d.gone = true) :
    Finished (clientRun cfg fs uv t token os is) :=
  (orderly_run cfg fs uv t token os is haccept h).gone hg

/-- No service has a request that has not called back. -/
def quietHeap (d : Daemon ω) : Bool :=
  (List.range d.fresh).all fun a => (d.heap a).all fun svc => decide svc.stream.Quiet

theorem all_quiet_of_heap (ht : Table d) (h : quietHeap d = true) : AllQuiet d := by
  intro a svc ha
  have hin := List.all_eq_true.mp h a (List.mem_range.mpr (ht.lt a svc ha))
  rw [ha] at hin
  exact of_decide_eq_true hin

/-- The connection of a client is lost, and its shell is idle. -/
def shellIdle : List Input :=
  hostFrame aOpen 77 0 (ascii "shell:") ++ [.transportWritten false,.transportRead .error]

/-- The handles of the client and of the shell are closed. -/
def shellEnds : List Input := [.transportClosed,.streamClosed 1,.processClosed 1]

theorem shell_client_freed_last :
    Finished (clientRun defaultConfig emptyFs plainUv (.tcp none) [] ()
        ((shellIdle ++ shellEnds).map .callback)) ∧
      Event.freed 1 ∈ (clientRun defaultConfig emptyFs plainUv (.tcp none) [] ()
        ((shellIdle ++ shellEnds).map .callback)).d.log := by
  have hsound := (orderly_run defaultConfig emptyFs plainUv (.tcp none) [] ()
    (shellIdle.map .callback) (by decide) ⟨trivial,trivial,trivial,trivial,trivial⟩).sound
  have htable := (hsound.running (by decide +kernel)).1
  have hquiet := all_quiet_of_heap htable (by decide +kernel)
  refine ⟨?_,by decide +kernel⟩
  apply client_freed_last defaultConfig emptyFs plainUv (.tcp none) [] ()
    ((shellIdle ++ shellEnds).map .callback)
  · decide
  · exact ⟨trivial,trivial,trivial,trivial,fun _ => ⟨rfl,hquiet⟩,trivial,trivial,trivial⟩
  · decide +kernel

/-- The pipes of usb are closed in the order of the closing list of libuv, the last one first. -/
def usbReadFirst : List ClientInput :=
  [.callback (.transportRead .error),.callback .transportClosed,.writePipeClosed]

/-- The connection of a client is lost while a shell writes a packet of the host. -/
def shellWriting : List Input :=
  hostFrame aOpen 77 0 (ascii "shell:") ++ [.transportWritten false] ++
    hostFrame aWrte 77 1 [0] ++ [.transportRead .error,.transportClosed,.streamWritten 1 true]

/-- Both clients are freed before libuv is done with them, and are read again. -/
theorem freed_client_read :
    ¬((clientRun defaultConfig emptyFs plainUv .usb [] () (usbReadFirst.take 2)).d.gone = true →
      Finished (clientRun defaultConfig emptyFs plainUv .usb [] () (usbReadFirst.take 2))) ∧
    Event.fault .useAfterFree ∈
      (clientRun defaultConfig emptyFs plainUv .usb [] () usbReadFirst).d.log ∧
    Event.clientFreed ∈
      (clientRun defaultConfig emptyFs plainUv (.tcp none) [] ()
        (shellWriting.map .callback)).d.log ∧
    Event.fault .useAfterFree ∈
      (clientRun defaultConfig emptyFs plainUv (.tcp none) [] ()
        (shellWriting.map .callback)).d.log := by
  refine ⟨fun h => ?_,by decide +kernel,by decide +kernel,by decide +kernel⟩
  have hopen : (clientRun defaultConfig emptyFs plainUv .usb [] ()
      (usbReadFirst.take 2)).handles = [.writePipe] := by decide +kernel
  have hclosed := (h (by decide +kernel)).handles
  rw [hopen] at hclosed
  cases hclosed

end MicroADB
