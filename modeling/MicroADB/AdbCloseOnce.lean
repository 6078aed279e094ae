import MicroADB.AdbKick

/-! How often the transport of a client is closed: once for every failure, of which nothing is
remembered. -/
namespace MicroADB
open ByteMemory EventRun

variable {ω : Type} {cfg : Config} {fs : FileSystem ω} {uv : Uv ω} {d d₀ d' : Daemon ω} {n : ℕ}

/-! Calls and failures. -/

def Event.closes : Event → Bool
  | .close _ => true
  | _ => false

/-- libuv does not take a frame, or there is no memory for a packet. -/
def Event.fails : Event → Bool
  | .write _ _ _ false | .outOfMemory => true
  | _ => false

/-- The calls of client->ops->close, and those of uv_close for a handle that is closing. -/
def closeCalls (es : List Event) : ℕ := es.countP Event.closes + es.count (.fault .closingTwice)

def failures (es : List Event) : ℕ := es.countP Event.fails

/-- The events that are neither. -/
def Event.light (e : Event) : Prop := e.closes = false ∧ e ≠ .fault .closingTwice ∧ e.fails = false

theorem close_calls_append (es es' : List Event) :
    closeCalls (es ++ es') = closeCalls es + closeCalls es' := by
  unfold closeCalls
  rw [List.countP_append, List.count_append]
  omega

theorem failures_append (es es' : List Event) : failures (es ++ es') = failures es + failures es' :=
  List.countP_append

theorem light_calls {es : List Event} (h : ∀ e ∈ es, e.light) :
    closeCalls es = 0 ∧ failures es = 0 := by
  have hcloses : es.countP Event.closes = 0 :=
    List.countP_eq_zero.mpr (fun e he => by simp [(h e he).1])
  have htwice : es.count (.fault .closingTwice) = 0 :=
    List.count_eq_zero.mpr (fun hin => (h _ hin).2.1 rfl)
  exact ⟨by rw [closeCalls, hcloses, htwice],
    List.countP_eq_zero.mpr (fun e he => by simp [(h e he).2.2])⟩

theorem light_of_harmless (e : Event) (h : e.harmless = true) : e.light := by
  cases e with
  | write a m bs ok => cases ok <;> first | exact ⟨rfl,by simp,rfl⟩ | cases h
  | fault f => exact ⟨rfl,by simp [Event.harmless] at h ⊢; exact h.2.2,rfl⟩
  | _ => first | exact ⟨rfl,by simp,rfl⟩ | cases h

/-! The balance. -/

/-- The socket is closing since a close in the trace. -/
structure Marked (d : Daemon ω) : Prop where
  closing : d.socket.closing = true ↔ ∃ why, .close why ∈ d.log
  twice : .fault .closingTwice ∈ d.log → d.socket.closing = true

/-- Since d₀, close was called for each failure, and n times for another reason. -/
structure Tallied (d₀ : Daemon ω) (n : ℕ) (d : Daemon ω) : Prop where
  marked : Marked d
  log : ∃ es, d.log = d₀.log ++ es ∧ closeCalls es = failures es + n

theorem Marked.of_log (h : Marked d) (hcl : d'.socket.closing = d.socket.closing)
    (es : List Event) (hlog : d'.log = d.log ++ es)
    (hes : ∀ e ∈ es, e.closes = false ∧ e ≠ .fault .closingTwice) : Marked d' := by
  constructor
  · rw [hcl, h.closing, hlog]
    refine exists_congr (fun why => ?_)
    rw [List.mem_append]
    refine (or_iff_left (fun hin => ?_)).symm
    have hcloses := (hes _ hin).1
    cases hcloses
  · intro hin
    rw [hlog, List.mem_append] at hin
    rw [hcl]
    exact h.twice (hin.resolve_right (fun hin => (hes _ hin).2 rfl))

theorem Marked.close (h : Marked d) (why : CloseReason) : Marked (opsClose d why) := by
  unfold opsClose
  split
  · rename_i hcl
    constructor
    · refine ⟨fun _ => ?_,fun _ => hcl⟩
      obtain ⟨why',hin⟩ := h.closing.mp hcl
      exact ⟨why',List.mem_append_left _ hin⟩
    · exact fun _ => hcl
  · exact ⟨⟨fun _ => ⟨why,List.mem_append_right _ (List.mem_singleton_self _)⟩,fun _ => rfl⟩,
      fun _ => rfl⟩

theorem Tallied.of_log (h : Tallied d₀ n d) (hcl : d'.socket.closing = d.socket.closing)
    (es : List Event) (hlog : d'.log = d.log ++ es) (hes : ∀ e ∈ es, e.light) :
    Tallied d₀ n d' := by
  obtain ⟨fs,hfs,hcount⟩ := h.log
  obtain ⟨hcalls,hfail⟩ := light_calls hes
  refine ⟨h.marked.of_log hcl es hlog (fun e he => ⟨(hes e he).1,(hes e he).2.1⟩),fs ++ es,?_,?_⟩
  · rw [hlog, hfs, List.append_assoc]
  · rw [close_calls_append, failures_append]
    omega

theorem close_calls_one (e : Event) (why : CloseReason)
    (he : e = .close why ∨ e = .fault .closingTwice) : closeCalls [e] = 1 ∧ failures [e] = 0 := by
  rcases he with rfl | rfl <;> exact ⟨rfl,rfl⟩

/-- A close for another reason. -/
theorem Tallied.close (h : Tallied d₀ n d) (why : CloseReason) :
    Tallied d₀ (n+1) (opsClose d why) := by
  obtain ⟨es,hes,hcount⟩ := h.log
  obtain ⟨e,hlog,he⟩ := ops_close_log d why
  refine ⟨h.marked.close why,es ++ [e],?_,?_⟩
  · rw [hlog, hes, List.append_assoc]
  · have hone := close_calls_one e why he
    rw [close_calls_append, failures_append, hone.1, hone.2]
    omega

/-- A failure and the close for it. -/
theorem Tallied.failed (h : Tallied d₀ n d) (e : Event) (he : e.fails = true)
    (hcl : d'.socket.closing = d.socket.closing) (hlog : d'.log = d.log ++ [e])
    (why : CloseReason) : Tallied d₀ n (opsClose d' why) := by
  obtain ⟨es,hes,hcount⟩ := h.log
  have hnot : e.closes = false ∧ e ≠ .fault .closingTwice := by
    constructor
    · cases e <;> first | rfl | cases he
    · rintro rfl
      cases he
  have hmarked : Marked d' := by
    apply h.marked.of_log hcl [e] hlog
    intro e' he'
    rw [List.mem_singleton.mp he']
    exact hnot
  obtain ⟨e',hlog',he'⟩ := ops_close_log d' why
  refine ⟨hmarked.close why,es ++ [e] ++ [e'],?_,?_⟩
  · rw [hlog', hlog, hes, List.append_assoc, List.append_assoc, List.append_assoc]
  · have hone : failures [e] = 1 := by simp [failures, he]
    have hnone : closeCalls [e] = 0 := by
      simp [closeCalls, hnot.1, hnot.2]
    have hclose := close_calls_one e' why he'
    rw [close_calls_append, close_calls_append, failures_append, failures_append, hclose.1,
      hclose.2, hone, hnone]
    omega

theorem Tallied.send (h : Tallied d₀ n d) (uv : Uv ω) (up : ApacketUv) :
    Tallied d₀ n (sendFrame uv d up) := by
  cases hcl : d.socket.closing with
  | true =>
    have hclose : sendFrame uv d up =
        opsClose (d.emit (.write up.addr up.p.seal.msg up.p.payload false)) .writeFailed :=
      (send_frame_closing up hcl).trans (if_pos hcl).symm
    rw [hclose]
    exact h.failed (.write up.addr up.p.seal.msg up.p.payload false) rfl (by rfl) (by rfl) _
  | false =>
    cases hw : (uv.write d.os).2 with
    | true =>
      rw [send_frame_taken up ⟨hcl,hw⟩]
      refine h.of_log rfl [.write up.addr up.p.seal.msg up.p.payload true] rfl (fun e he => ?_)
      rw [List.mem_singleton.mp he]
      exact ⟨rfl,by simp,rfl⟩
    | false =>
      rw [send_frame_refused up hcl hw]
      exact h.failed (.write up.addr up.p.seal.msg up.p.payload false) rfl (by rfl) (by rfl) _

theorem Tallied.deed (h : Tallied d₀ n d) (hd : Deed cfg uv d d') : Tallied d₀ n d' := by
  have hone (d' : Daemon ω) (e : Event) (hlog : d'.log = d.log ++ [e])
      (hcl : d'.socket.closing = d.socket.closing) (he : e.light) : Tallied d₀ n d' := by
    apply h.of_log hcl [e] hlog
    intro e' he'
    rw [List.mem_singleton.mp he']
    exact he
  cases hd with
  | calmly _ hc =>
    obtain ⟨es,hlog,hes⟩ := hc.log
    exact h.of_log hc.closing es hlog (fun e he => light_of_harmless e (hes e he))
  | send up => exact h.send uv up
  | outOfMemory _ => exact h.failed .outOfMemory rfl (by rfl) (by rfl) _
  | alloc cap init _ => exact hone _ (.alloc d.fresh) rfl rfl ⟨rfl,by simp,rfl⟩
  | refuse _ => exact hone _ .refused rfl rfl ⟨rfl,by simp,rfl⟩
  | service a svc svc' ha hc _ =>
    exact h.of_log rfl [] (List.append_nil _).symm (by simp)

/-- adb_service_close sends a CLSE at most; the handle that it closes is not closing. -/
theorem Tallied.service_close (h : Tallied d₀ n d) (ht : Table d) (a : ℕ)
    (up : Option ApacketUv) : Tallied d₀ n (adbServiceClose fs uv d a up) := by
  by_cases hreg : d.gone = true ∨ a ∉ d.services
  · obtain ⟨b,es,heq,-,hes⟩ := service_close_other fs uv d a up hreg
    rw [heq]
    refine h.of_log rfl (.serviceClose a b :: es) rfl (fun e he => ?_)
    rcases List.mem_cons.mp he with rfl | he
    · exact ⟨rfl,by simp,rfl⟩
    · rcases hes e he with rfl | rfl | rfl <;> exact ⟨rfl,by simp,rfl⟩
  rw [not_or, not_not, Bool.not_eq_true] at hreg
  obtain ⟨svc,ha,hheap,hcl⟩ := ht.find hreg.2
  have hunlink : Tallied d₀ n (unlink d a) := by
    refine h.of_log rfl [.serviceClose a true] rfl (fun e he => ?_)
    rw [List.mem_singleton.mp he]
    exact ⟨rfl,by simp,rfl⟩
  have hsend : Tallied d₀ n (sendClose uv (unlink d a) svc up) := by
    cases up with
    | none => exact hunlink
    | some up => exact hunlink.send uv _
  rcases service_close_spec fs uv d a svc up hreg.1 hreg.2 ha hcl with
    ⟨heq,-⟩ | ⟨svc',os,es,-,hes,-,heq⟩
  · rw [heq]
    exact hsend
  · rw [heq]
    refine hsend.of_log rfl (.onClose a :: es) rfl (fun e he => ?_)
    rcases List.mem_cons.mp he with rfl | he
    · exact ⟨rfl,by simp,rfl⟩
    · rcases hes e he with ⟨s,rfl⟩ | rfl <;> exact ⟨rfl,by simp,rfl⟩

/-- The balance with the table it needs. -/
def Tallies (d₀ : Daemon ω) (n : ℕ) (d : Daemon ω) : Prop :=
  (d.crashed = false → Table d) ∧ Tallied d₀ n d

/-- A callback of the daemon changes nothing that counts. -/
theorem Tallies.of_log (h : Tallies d₀ n d) (ht : d'.crashed = false → Table d')
    (hcl : d'.socket.closing = d.socket.closing) (e : Event) (hlog : d'.log = d.log ++ [e])
    (he : e.light) : Tallies d₀ n d' := by
  refine ⟨ht,h.2.of_log hcl [e] hlog (fun e' he' => ?_)⟩
  rw [List.mem_singleton.mp he']
  exact he

theorem Tallies.of_same (h : Tallies d₀ n d) (ht : d'.crashed = false → Table d')
    (hcl : d'.socket.closing = d.socket.closing) (hlog : d'.log = d.log) : Tallies d₀ n d' :=
  ⟨ht,h.2.of_log hcl [] (by rw [hlog, List.append_nil]) (by simp)⟩

theorem tallies_guards (Q : Daemon ω → ℕ → Prop) :
    Guards cfg fs uv Q (Tallies d₀ n) := by
  have htable : Guards cfg fs uv Q (fun d => d.crashed = false → Table d) := (table_reads Q).guards
  exact ⟨fun d d' h hd => ⟨htable.deed d d' h.1 hd,h.2.deed hd⟩,
    fun d a up h hc hq => ⟨htable.close d a up h.1 hc hq,h.2.service_close (h.1 hc) a up⟩⟩

theorem tallies_all : GuardsAll cfg fs uv (fun _ _ => True) (Tallies d₀ n) := by
  apply (tallies_guards _).guards_all (fun _ _ _ _ _ _ _ => trivial)
  · intro d h
    exact h.of_log (fun hc => by cases hc) rfl (.fault .frameCount) rfl ⟨rfl,by simp,rfl⟩
  · intro d a m h
    have htable (hc : d.crashed = false) : Table (setFrameCount (freePacket d a) m) :=
      (h.1 hc).of_same rfl rfl le_rfl
    exact h.of_log htable rfl (.release a) rfl ⟨rfl,by simp,rfl⟩

theorem tallies_reads : GuardsReads cfg fs uv (fun _ _ => True) (Tallies d₀ n) where
  toGuardsAll := tallies_all
  frame d d' h ha := by
    have hreads : KeepsReads cfg fs uv (fun _ _ => True) (fun d => d.crashed = false → Table d) :=
      table_reads _
    have htable := hreads.frame d d' h.1 ha
    cases ha with
    | push a svc up _ _ _ _ => exact h.of_same htable rfl rfl
    | register svc peerId params _ =>
      exact h.of_log htable rfl (.opened d.fresh params) rfl ⟨rfl,by simp,rfl⟩
    | serviceId m => exact h.of_same htable rfl rfl
    | reboot target => exact h.of_log htable rfl (.reboot target) rfl ⟨rfl,by simp,rfl⟩
    | reached a e _ he =>
      refine h.of_log htable rfl e rfl ?_
      rcases he with rfl | rfl <;> exact ⟨rfl,by simp,rfl⟩
  connected d h := h.of_same (fun hc => (h.1 hc).of_same rfl rfl le_rfl) rfl rfl
  receives d d' h hr := by
    have htable (hc : d'.crashed = false) : Table d' :=
      (h.1 (hr.crashed ▸ hc)).of_same hr.services hr.heap hr.fresh.ge
    have hcl := congrArg UvStream.closing hr.socket
    rcases hr.log with hlog | ⟨bs,hlog⟩ | ⟨b,m,bs,hlog⟩
    · exact h.of_same htable hcl hlog
    · exact h.of_log htable hcl _ hlog ⟨rfl,by simp,rfl⟩
    · exact h.of_log htable hcl _ hlog ⟨rfl,by simp,rfl⟩
  starve d h _ := by
    refine h.of_same (fun hc => (h.1 hc).of_same rfl rfl le_rfl) ?_ rfl
    change d.socket.starve.closing = d.socket.closing
    unfold UvStream.starve
    split <;> rfl

theorem tallies_close : GuardsClose cfg fs uv (fun _ _ => True) (Tallies d₀ n) where
  toGuardsAll := tallies_all
  drop d h := h.of_same (fun hc => (h.1 hc).of_same rfl rfl le_rfl) rfl rfl
  free_client d h _ _ :=
    h.of_log (fun hc => (h.1 hc).of_same rfl rfl le_rfl) rfl .clientFreed rfl ⟨rfl,by simp,rfl⟩

/-! What else fails in a step. -/

/-- A step closes the transport for another reason: the read or the write that it is for failed, or
its frame is wrong. -/
def Fails (cfg : Config) (fs : FileSystem ω) (uv : Uv ω) (d : Daemon ω) (i : Input) : Prop :=
  d.crashed = false ∧ match i with
    | .transportRead r => d.socket.active = true ∧ (ReadFails cfg uv d r ∨
        ∃ up d', receive cfg fs uv d r = (some up, d') ∧ FrameFails cfg uv d' up)
    | .transportWritten fail => WriteFails d (.transportWritten fail)
    | _ => False

/-- The failures of a step: those of libuv and of the allocation on its way, and its own. Behind the
close of the transport there is none, and before it there is one at most. -/
structure FailsOnce (cfg : Config) (fs : FileSystem ω) (uv : Uv ω) (d : Daemon ω) (i : Input) :
    Prop where
  once : failures (since d (step cfg fs uv d i)) ≤ 1
  alone : Fails cfg fs uv d i → failures (since d (step cfg fs uv d i)) = 0
  never : d.socket.closing = true →
    ¬Fails cfg fs uv d i ∧ failures (since d (step cfg fs uv d i)) = 0

/-- A step calls close once for each of its failures. -/
theorem tallied_step (i : Input) (hs : Sound cfg uv [] d) (hm : Marked d) :
    Tallied d 0 (step cfg fs uv d i) ∨
      Fails cfg fs uv d i ∧ Tallied d 1 (step cfg fs uv d i) := by
  have hstart : Tallies d 0 d :=
    ⟨fun hc => (hs.running hc).1,hm,[],(List.append_nil _).symm,rfl⟩
  by_cases hrun : d.crashed = true
  · left
    unfold step
    rw [if_pos hrun]
    exact hstart.2
  have hrun : d.crashed = false := by simpa using hrun
  have hreads : GuardsReads cfg fs uv (fun _ _ => True) (Tallies d 0) := tallies_reads
  let J (d' : Daemon ω) : Prop := Tallied d 0 d' ∨ Fails cfg fs uv d i ∧ Tallied d 1 d'
  have haround {p : Prop} (hp : p → Fails cfg fs uv d i) :
      Aftermath (fun _ => True) (Tallies d 0) J p :=
    ⟨fun _ h => Or.inl h.2,fun hfails _ why _ h _ => Or.inr ⟨hp hfails,h.2.close why⟩⟩
  refine hreads.toGuardsAll.step i hstart (haround fun hw => ?_) trivial
    (fun _ _ _ _ _ => hstart.of_same (fun hc => (hstart.1 hc).of_same rfl rfl le_rfl) rfl rfl) ?_ ?_
    (fun hc => (hs.running hc).1.wf) (step_closes_true _ d i) ?_ (fun a svc ha hlast => ?_)
  · cases i with
    | transportWritten fail => exact ⟨hrun,hw⟩
    | _ => exact hw.elim
  · rintro r rfl hc hact
    have hread : Aftermath (fun _ => True) (Tallies d 0) J (ReadFails cfg uv d r) :=
      haround fun hfails => ⟨hrun,hact,Or.inl hfails⟩
    refine hreads.transport_read r (fun _ => trivial) hstart hread (fun up d' hr _ => ?_)
      (fun up d' hr hc' => ⟨frame_closes_true _ _,fun _ _ os => ?_⟩)
    · exact haround fun hfails => ⟨hrun,hact,Or.inr ⟨up,d',hr,hfails⟩⟩
    · have hreceive := hreads.receive r hread (fun _ => trivial) hstart
      rw [hr] at hreceive
      have hd' : Tallies d 0 d' := hreceive
      have hhanded : Tallies d 0 (d'.emit (.handed d'.isConnected up.p.msg up.p.payload)) :=
        hd'.of_log (fun hc => (hd'.1 hc).of_same rfl rfl le_rfl) rfl _ rfl ⟨rfl,by simp,rfl⟩
      exact hhanded.of_log (fun hc => (hhanded.1 hc).of_same rfl rfl le_rfl) rfl .handleLost rfl
        ⟨rfl,by simp,rfl⟩
  · rintro rfl hc hcl hw hg
    have hclose : GuardsClose cfg fs uv (fun _ _ => True) (Tallies d 0) := tallies_close
    exact hclose.uv_close_client hstart hc (destroy_true _ (fun _ h hc => h.1 hc))
  · cases i with
    | connected a fail =>
      intro svc state ha hcon hk
      have hact : Act cfg uv d (d.setService a (connectFailed svc)) :=
        .service d a svc _ ha (change_connected d a svc hk hcon 0 .errorClose)
      exact Or.inl (hstart.of_same (fun hc => (hstart.1 hc).act hact) rfl rfl)
    | _ => trivial
  · exact hstart.of_log (fun hc => (hstart.1 hc).free ha hlast.1) rfl (.freed a) rfl
      ⟨rfl,by simp,rfl⟩

/-! Runs. -/

/-- What client->ops->close is meant to be called for: uv_close once, and never on a handle that is
closing. -/
structure TransportClosedOnce (log : List Event) : Prop where
  once : log.countP Event.closes ≤ 1
  twice : .fault .closingTwice ∉ log

/-- What holds between the steps. -/
structure Calling (cfg : Config) (uv : Uv ω) (d : Daemon ω) : Prop where
  sound : Sound cfg uv [] d
  marked : Marked d
  once : closeCalls d.log ≤ 1

theorem Marked.silent (h : Marked d) (hcl : d.socket.closing = false) : closeCalls d.log = 0 := by
  have hcloses : d.log.countP Event.closes = 0 := by
    refine List.countP_eq_zero.mpr (fun e he hcloses => ?_)
    cases e with
    | close why =>
      rw [h.closing.mpr ⟨why,he⟩] at hcl
      cases hcl
    | _ => cases hcloses
  have htwice : d.log.count (.fault .closingTwice) = 0 := by
    refine List.count_eq_zero.mpr (fun hin => ?_)
    rw [h.twice hin] at hcl
    cases hcl
  rw [closeCalls, hcloses, htwice]

theorem Calling.step (h : Calling cfg uv d) (i : Input) (hi : FailsOnce cfg fs uv d i) :
    Calling cfg uv (step cfg fs uv d i) := by
  have htallied : ∃ n, Tallied d n (MicroADB.step cfg fs uv d i) ∧
      (n = 0 ∨ Fails cfg fs uv d i ∧ n = 1) := by
    rcases tallied_step i h.sound h.marked with ht | ⟨hfails,ht⟩
    · exact ⟨0,ht,Or.inl rfl⟩
    · exact ⟨1,ht,Or.inr ⟨hfails,rfl⟩⟩
  obtain ⟨n,ht,hn⟩ := htallied
  obtain ⟨es,hlog,hcount⟩ := ht.log
  have honce := hi.once
  have halone := hi.alone
  have hnever := hi.never
  rw [since_of_log hlog] at honce halone hnever
  refine ⟨sound_callback i h.sound,ht.marked,?_⟩
  rw [hlog, close_calls_append, hcount]
  cases hcl : d.socket.closing with
  | true =>
    -- it is closed already, and nothing fails any more
    obtain ⟨hfails,hnone⟩ := hnever hcl
    have hzero := hn.resolve_right (fun hn => hfails hn.1)
    have hbefore := h.once
    omega
  | false =>
    have hbefore := h.marked.silent hcl
    rcases hn with hzero | ⟨hfails,hone⟩
    · omega
    · have hnone := halone hfails
      omega

theorem calling_start (token : List UInt8) (os : ω) : Calling cfg uv (daemonStart token os) := by
  refine ⟨sound_start token os,⟨?_,?_⟩,by simp [daemonStart, closeCalls]⟩
  · simp [daemonStart, UvStream.idle, UvStream.readStart]
  · simp [daemonStart]

theorem Calling.closed_once (h : Calling cfg uv d) : TransportClosedOnce d.log := by
  have honce := h.once
  unfold closeCalls at honce
  refine ⟨by omega,fun hin => ?_⟩
  obtain ⟨why,hclose⟩ := h.marked.closing.mp (h.marked.twice hin)
  have hcloses : 0 < d.log.countP Event.closes := List.countP_pos_iff.mpr ⟨_,hclose,rfl⟩
  have htwice : 0 < d.log.count (.fault .closingTwice) := List.count_pos_iff.mpr hin
  omega

/-- The condition is not too strong: a step in which two frames or packets fail, or one behind the
close of the transport, closes it again. -/
theorem failing_closes_again (i : Input) (hs : Sound cfg uv [] d) (hm : Marked d)
    (h : 1 < failures (since d (step cfg fs uv d i)) ∨
      d.socket.closing = true ∧ 0 < failures (since d (step cfg fs uv d i))) :
    ¬TransportClosedOnce (step cfg fs uv d i).log := by
  intro hclosed
  have hcalls : closeCalls (step cfg fs uv d i).log ≤ 1 := by
    rw [closeCalls, List.count_eq_zero.mpr hclosed.twice]
    exact hclosed.once
  have htallied : ∃ n, Tallied d n (step cfg fs uv d i) := by
    rcases tallied_step i hs hm with ht | ⟨-,ht⟩
    · exact ⟨0,ht⟩
    · exact ⟨1,ht⟩
  obtain ⟨n,ht⟩ := htallied
  obtain ⟨es,hlog,hcount⟩ := ht.log
  rw [since_of_log hlog] at h
  rw [hlog, close_calls_append] at hcalls
  rcases h with htwo | ⟨hcl,hone⟩
  · omega
  · obtain ⟨why,hin⟩ := hm.closing.mp hcl
    have hbefore : 0 < d.log.countP Event.closes := List.countP_pos_iff.mpr ⟨_,hin,rfl⟩
    unfold closeCalls at hcalls hcount
    omega

/-- In a run in which one thing fails at most, the transport is closed once at most, and no handle
is closed while it is closing. -/
theorem transport_closed_once (cfg : Config) (fs : FileSystem ω) (uv : Uv ω) (token : List UInt8)
    (os : ω) (is : List Input)
    (h : Along (step cfg fs uv) (FailsOnce cfg fs uv) (daemonStart token os) is) :
    TransportClosedOnce (daemonRun cfg fs uv token os is).log := by
  have hrun : Calling cfg uv (daemonRun cfg fs uv token os is) :=
    run_invariant_along (step cfg fs uv) (Calling cfg uv) (FailsOnce cfg fs uv)
      (fun _ i hd hi => hd.step i hi) _ (calling_start token os) is h
  exact hrun.closed_once

/-- The peer goes away. -/
def peerGone : List Input := [.transportRead .error,.transportClosed]

theorem peer_gone_closed_once :
    TransportClosedOnce (daemonRun defaultConfig emptyFs plainUv [] () peerGone).log ∧
    Event.close .readError ∈ (daemonRun defaultConfig emptyFs plainUv [] () peerGone).log := by
  refine ⟨transport_closed_once defaultConfig emptyFs plainUv [] () peerGone ⟨?_,?_,trivial⟩,
    by decide +kernel⟩
  · exact ⟨by decide +kernel,fun _ => by decide +kernel,fun hcl => by cases hcl⟩
  · exact ⟨by decide +kernel,fun hfails => hfails.2.elim,fun _ => ⟨fun hfails => hfails.2.elim,
      by decide +kernel⟩⟩

/-- The peer goes away while the CNXN of the daemon is being written: libuv reports the write as
cancelled. -/
def peerGoneEarly : List Input :=
  hostFrame aCnxn aVersion 4096 [] ++ [.transportRead .error,.transportWritten true]

theorem pending_write_closes_transport_again :
    ¬TransportClosedOnce (daemonRun defaultConfig emptyFs plainUv [] () peerGoneEarly).log := by
  intro h
  exact h.twice (by decide +kernel)

end MicroADB
