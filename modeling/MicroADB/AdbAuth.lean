import MicroADB.AdbAside

/-! A client that has not been accepted: what it can reach of the services. -/
namespace MicroADB
open ByteMemory EventRun

variable {ω : Type} {cfg : Config} {fs : FileSystem ω} {uv : Uv ω} {d d' : Daemon ω}

/-- A service is opened, or gets a frame or its end. -/
def Event.served : Event → Bool
  | .opened .. | .reboot _ | .onWrite _ | .onAck _ | .onClose _ => true
  | _ => false

theorem served_of_plain (e : Event) (h : e.plain = true) : e.served = false := by
  cases e <;> first | rfl | cases h

/-- The OPEN frame starts a service of the build, whose start-up succeeds, or a reboot. -/
def Starts (cfg : Config) (uv : Uv ω) (d : Daemon ω) (up : ApacketUv) : Prop :=
  up.p.msg.command = aOpen ∧ up.p.msg.arg0 ≠ 0 ∧ up.p.msg.arg1 = 0 ∧ d.nextServiceId ≠ 0 ∧
    match serviceName cfg (terminateName up) with
    | .sync => (uv.afsMalloc d.os).2 ≠ none
    | .tcp port => port ≠ 0 ∧ (uv.connect d.os port).2 = none
    | .shell cmd => (uv.shell d.os cmd).2 = none
    | .reboot _ => True
    | .unknown => False

/-! A callback that finds no service. -/

/-- Nothing happens to the services. -/
structure Silent (d d' : Daemon ω) : Prop where
  services : d'.services = d.services
  heap : d'.heap = d.heap
  log : ∃ es, d'.log = d.log ++ es ∧ ∀ e ∈ es, e.served = false

theorem Silent.refl (d : Daemon ω) : Silent d d := ⟨rfl,rfl,[],(List.append_nil _).symm,by simp⟩

theorem Silent.trans {d d' d'' : Daemon ω} (h : Silent d d') (h' : Silent d' d'') :
    Silent d d'' := by
  obtain ⟨es,hes,hp⟩ := h.log
  obtain ⟨fs,hfs,hq⟩ := h'.log
  refine ⟨h'.services.trans h.services,h'.heap.trans h.heap,es ++ fs,
    by rw [hfs, hes, List.append_assoc],fun e he => ?_⟩
  rcases List.mem_append.mp he with he | he
  · exact hp e he
  · exact hq e he

theorem Quietly.silent (h : Quietly d d') : Silent d d' := by
  obtain ⟨es,hlog,hes⟩ := h.log
  exact ⟨h.services,h.heap,es,hlog,fun e he => served_of_plain e (hes e he)⟩

theorem silent_emit (d : Daemon ω) (e : Event) (h : e.served = false) : Silent d (d.emit e) :=
  ⟨rfl,rfl,[e],rfl,fun _ he => List.mem_singleton.mp he ▸ h⟩

theorem silent_next (f : Daemon ω → Daemon ω) (h : Silent d d') (hf : Silent d' (f d')) :
    Silent d (d'.next f) := by
  unfold Daemon.next
  split
  · exact h
  · exact h.trans hf

theorem silent_allocate (cfg : Config) (uv : Uv ω) (d : Daemon ω) (b : Bool) :
    Silent d (adbUvPacketAllocate cfg uv d b).2 := by
  unfold adbUvPacketAllocate
  split
  · exact ⟨rfl,rfl,[.refused],rfl,by simp [Event.served]⟩
  · dsimp only
    split
    · have hmem : Silent d ((d.setOs (uv.packetMalloc d.os).1).emit .outOfMemory) :=
        (quietly_os d _).silent.trans (silent_emit _ _ rfl)
      exact hmem.trans (quietly_ops_close _ _ rfl).silent
    · exact ⟨rfl,rfl,[.alloc d.fresh],rfl,by simp [Event.served]⟩

/-- A kick finds no service to call. -/
theorem silent_kick (cfg : Config) (fs : FileSystem ω) (uv : Uv ω) (d : Daemon ω)
    (hs : d.services = []) : Silent d (tcpUvKick cfg fs uv d) := by
  have hnil (d₁ : Daemon ω) (h : d₁.services = []) : adbClientKickServices cfg fs uv d₁ = d₁ := by
    unfold adbClientKickServices
    rw [h]
    rfl
  unfold tcpUvKick
  split
  · rw [hnil d hs]
    exact Silent.refl d
  · rw [hnil (d.setSocket d.socket.readStart) hs]
    exact ⟨rfl,rfl,[],(List.append_nil _).symm,by simp⟩

theorem silent_release (cfg : Config) (fs : FileSystem ω) (uv : Uv ω) (d : Daemon ω) (a : ℕ)
    (hs : d.services = []) : Silent d (adbHalApacketRelease cfg fs uv d a) := by
  have hfree (n : ℤ) : Silent d (setFrameCount (freePacket d a) n) :=
    ⟨rfl,rfl,[.release a],rfl,by simp [Event.served]⟩
  unfold adbHalApacketRelease
  split
  · exact (quietly_fault d _ rfl).silent
  · split
    · exact ⟨rfl,rfl,[.fault .frameCount],rfl,by simp [Event.served]⟩
    · split
      · exact (hfree _).trans (silent_kick cfg fs uv _ hs)
      · exact hfree _

/-! Frames. -/

section Frames

variable (up : ApacketUv)

theorem silent_send_frame (uv : Uv ω) (d : Daemon ω) : Silent d (sendFrame uv d up) :=
  (quietly_send_frame uv d up).silent

theorem silent_auth_request (hs : d.services = []) :
    Silent d (sendAuthRequest cfg fs uv d up) := by
  have hos := (quietly_os d (uv.random d.os).1).silent
  unfold sendAuthRequest
  dsimp only
  split
  · have hrelease := hos.trans (silent_release cfg fs uv (d.setOs (uv.random d.os).1) up.addr hs)
    exact silent_next _ hrelease (quietly_ops_close _ _ rfl).silent
  · have htoken (token : List UInt8) : Silent d { d.setOs (uv.random d.os).1 with token := token } :=
      hos.trans ⟨rfl,rfl,[],(List.append_nil _).symm,by simp⟩
    exact (htoken _).trans (silent_send_frame _ uv _)

theorem silent_accept (d : Daemon ω) : Silent d (acceptConnection cfg uv d up) := by
  refine silent_next _ (silent_send_frame _ uv d) ?_
  exact ⟨rfl,rfl,[],(List.append_nil _).symm,by simp⟩

theorem silent_auth_frame (hs : d.services = []) : Silent d (handleAuthFrame cfg fs uv d up) := by
  unfold handleAuthFrame
  split
  · exact silent_release cfg fs uv d _ hs
  · split
    · exact silent_auth_request up hs
    · split
      · exact silent_accept up d
      · exact silent_release cfg fs uv d _ hs

theorem silent_invalid (hs : d.services = []) : Silent d (invalidFrame cfg fs uv d up) :=
  silent_next _ (silent_release cfg fs uv d _ hs) (quietly_ops_close _ _ rfl).silent

theorem find_nil (hs : d.services = []) (id peerId : ℕ) :
    adbClientFindService d id peerId = none := by
  rw [adbClientFindService, hs]
  rfl

/-- An OPEN that starts nothing leaves the services as they were. -/
theorem silent_service_open (h : ¬Starts cfg uv d up) (hcmd : up.p.msg.command = aOpen)
    (h0 : up.p.msg.arg0 ≠ 0) (h1 : up.p.msg.arg1 = 0) :
    (adbServiceOpen cfg uv d (terminateName up)).1 = none ∧
      Silent d (adbServiceOpen cfg uv d (terminateName up)).2.2 := by
  unfold adbServiceOpen
  split
  · exact ⟨rfl,(quietly_fault d _ rfl).silent⟩
  · rename_i hid
    have hname : ¬(match serviceName cfg (terminateName up) with
      | .sync => (uv.afsMalloc d.os).2 ≠ none
      | .tcp port => port ≠ 0 ∧ (uv.connect d.os port).2 = none
      | .shell cmd => (uv.shell d.os cmd).2 = none
      | .reboot _ => True
      | .unknown => False) := fun hn => h ⟨hcmd,h0,h1,hid,hn⟩
    split
    · rename_i hsync
      rw [hsync] at hname
      have hnone := not_not.mp hname
      have hmap : (newSyncService uv d).1 = none := by
        simp only [newSyncService, hnone, Option.map_none]
      unfold finishOpen
      dsimp only
      rw [hmap]
      exact ⟨rfl,(quietly_os d _).silent⟩
    · rename_i port htcp
      rw [htcp] at hname
      unfold tcpForwardService
      split
      · exact ⟨rfl,Silent.refl d⟩
      · rename_i hport
        have hfail : (uv.connect d.os port).2 ≠ none := fun hn => hname ⟨hport,hn⟩
        dsimp only
        split
        · rename_i hn
          exact absurd hn hfail
        · exact ⟨rfl,(quietly_os d _).silent.trans (quietly_emit _ _ rfl).silent⟩
        · exact ⟨rfl,(quietly_os d _).silent⟩
    · rename_i cmd hshell
      rw [hshell] at hname
      unfold shellService
      dsimp only
      split
      · rename_i hn
        exact absurd hn hname
      · exact ⟨rfl,(quietly_os d _).silent.trans (quietly_emit _ _ rfl).silent⟩
      · exact ⟨rfl,(quietly_os d _).silent.trans (quietly_emit _ _ rfl).silent⟩
      · exact ⟨rfl,(quietly_os d _).silent⟩
    · rename_i target hreboot
      rw [hreboot] at hname
      exact absurd trivial hname
    · exact ⟨rfl,Silent.refl d⟩

theorem silent_open_frame (hs : d.services = []) (hcmd : up.p.msg.command = aOpen)
    (h : ¬Starts cfg uv d up) : Silent d (handleOpenFrame cfg fs uv d up) := by
  unfold handleOpenFrame
  split
  · exact silent_release cfg fs uv d _ hs
  · rename_i hids
    simp only [not_or, not_not] at hids
    obtain ⟨hnone,hopen⟩ := silent_service_open up h hcmd hids.1 hids.2
    unfold afterOpen
    refine silent_next _ hopen ?_
    rw [hnone]
    generalize (adbServiceOpen cfg uv d (terminateName up)).2.2 = d₁
    dsimp only
    split
    · have hid : Silent d₁ { d₁ with nextServiceId := u32 (d₁.nextServiceId+1) } :=
        ⟨rfl,rfl,[],(List.append_nil _).symm,by simp⟩
      exact hid.trans (silent_send_frame _ uv _)
    · exact silent_send_frame _ uv _

theorem silent_dispatch (hs : d.services = []) (h : ¬Starts cfg uv d up) :
    Silent d (dispatchFrame cfg fs uv d up) := by
  unfold dispatchFrame
  split
  · rename_i hcmd
    exact silent_open_frame up hs hcmd h
  · split
    · unfold handleCloseFrame
      rw [find_nil hs]
      exact silent_next _ (Silent.refl d) (silent_release cfg fs uv d _ hs)
    · split
      · unfold handleWriteFrame
        rw [find_nil hs]
        exact silent_send_frame _ uv d
      · split
        · unfold handleOkayFrame
          rw [find_nil hs]
          exact silent_send_frame _ uv d
        · exact silent_invalid up hs

theorem silent_process (hs : d.services = [])
    (h : ¬Starts cfg uv (d.emit (.handed d.isConnected up.p.msg up.p.payload)) (up.setWriteLen 0)) :
    Silent d (adbProcessPacket cfg fs uv d up) := by
  have hemit := silent_emit d (.handed d.isConnected up.p.msg up.p.payload) rfl
  unfold adbProcessPacket
  dsimp only
  split
  · split
    · exact hemit.trans (silent_auth_request _ hs)
    · exact hemit.trans (silent_accept _ _)
  · split
    · split
      · exact hemit.trans (silent_invalid _ hs)
      · exact hemit.trans (silent_auth_frame _ hs)
    · exact hemit.trans (silent_dispatch _ hs h)

end Frames

/-! Callbacks. -/

theorem silent_ops_close (d : Daemon ω) (why : CloseReason) : Silent d (opsClose d why) := by
  unfold opsClose
  split
  · exact (quietly_fault d _ rfl).silent
  · exact ⟨rfl,rfl,[.close why],rfl,by simp [Event.served]⟩

theorem silent_allocate_frame (cfg : Config) (uv : Uv ω) (d : Daemon ω) :
    Silent d (adbUvAllocateFrame cfg uv d).2 := by
  unfold adbUvAllocateFrame
  split
  · split <;> exact Silent.refl d
  · have halloc := silent_allocate cfg uv d (!d.isConnected)
    dsimp only
    split
    · exact halloc
    · exact halloc.trans ⟨rfl,rfl,[],(List.append_nil _).symm,by simp⟩

theorem silent_receive_bytes (d : Daemon ω) (ap : RawPacket) (bs : List UInt8) :
    Silent d (receiveBytes cfg d ap bs).2 := by
  have hreceived (raw : Mem) : Silent d ({ d with curPacket := some { ap with raw := raw } }.emit
      (.received bs)) := ⟨rfl,rfl,[.received bs],rfl,by simp [Event.served]⟩
  have hlen (d : Daemon ω) (n : ℕ) : Silent d { d with curLen := n } :=
    ⟨rfl,rfl,[],(List.append_nil _).symm,by simp⟩
  unfold receiveBytes
  dsimp only
  split
  · exact (hreceived _).trans (silent_ops_close _ _)
  · split
    · exact (hreceived _).trans (hlen _ _)
    · split
      · exact ((hreceived _).trans (hlen _ _)).trans (silent_ops_close _ _)
      · exact ⟨rfl,rfl,[.received bs],rfl,by simp [Event.served]⟩

theorem silent_receive (cfg : Config) (fs : FileSystem ω) (uv : Uv ω) (d : Daemon ω)
    (r : ReadResult) (hs : d.services = []) : Silent d (receive cfg fs uv d r).2 := by
  have hframe := silent_allocate_frame cfg uv d
  have hs' : (adbUvAllocateFrame cfg uv d).2.services = [] := hframe.services.trans hs
  unfold receive
  dsimp only
  split
  · exact hframe
  · split
    · exact hframe.trans ⟨rfl,rfl,[],(List.append_nil _).symm,by simp⟩
    · refine hframe.trans ?_
      unfold adbUvOnDataAvailable
      split
      · split
        · unfold releaseUnused
          split
          · dsimp only
            refine silent_next _ (silent_release cfg fs uv _ _ hs') ?_
            exact ⟨rfl,rfl,[],(List.append_nil _).symm,by simp⟩
          · exact Silent.refl _
        · exact silent_receive_bytes _ _ _
      · exact (quietly_fault _ _ rfl).silent
      · exact silent_ops_close _ _

/-- Before the connection there is no service in memory. -/
def Locked (d : Daemon ω) : Prop := d.isConnected = false → d.services = [] ∧ ∀ a, d.heap a = none

/-- No frame that is processed before the connection starts a service. -/
def NothingStarted (cfg : Config) (fs : FileSystem ω) (uv : Uv ω) (d : Daemon ω) (i : Input) :
    Prop :=
  d.isConnected = false → d.crashed = false → d.socket.active = true →
    ∀ r up d', i = .transportRead r → receive cfg fs uv d r = (some up, d') →
      d'.crashed = false → ¬Starts cfg uv d' up

/-- A callback before the connection opens no service and reaches none. -/
def Unserved (cfg : Config) (fs : FileSystem ω) (uv : Uv ω) (d : Daemon ω) (i : Input) : Prop :=
  d.isConnected = false → ∀ e ∈ (step cfg fs uv d i).log.drop d.log.length, e.served = false

theorem silent_transport_read (r : ReadResult) (hs : d.services = [])
    (h : ∀ up d', receive cfg fs uv d r = (some up, d') → d'.crashed = false →
      ¬Starts cfg uv d' up) :
    Silent d (transportRead cfg fs uv d r) := by
  have hreceive := silent_receive cfg fs uv d r hs
  unfold transportRead
  dsimp only
  split
  · exact hreceive
  · rename_i up hup
    unfold Daemon.next
    split
    · exact hreceive
    · rename_i hcr
      have hnot := h up (receive cfg fs uv d r).2 (Prod.ext hup rfl) (by simpa using hcr)
      exact hreceive.trans (silent_process up (hreceive.services.trans hs) hnot)

theorem silent_close_client (d : Daemon ω) (hs : d.services = []) :
    Silent d (adbUvCloseClient cfg fs uv d) := by
  have hdestroy (d : Daemon ω) (hs : d.services = []) : Silent d (adbDestroyClient fs uv d) := by
    unfold adbDestroyClient
    rw [hs]
    exact ⟨rfl,rfl,[.clientFreed],rfl,by simp [Event.served]⟩
  unfold adbUvCloseClient
  split
  · rename_i ap _
    have hrelease := silent_release cfg fs uv d ap.addr hs
    refine silent_next _ hrelease ?_
    have hdrop : Silent (adbHalApacketRelease cfg fs uv d ap.addr)
        { adbHalApacketRelease cfg fs uv d ap.addr with curPacket := none } :=
      ⟨rfl,rfl,[],(List.append_nil _).symm,by simp⟩
    exact hdrop.trans (hdestroy _ (hrelease.services.trans hs))
  · exact hdestroy d hs

theorem silent_step (d : Daemon ω) (i : Input) (hs : d.services = []) (hh : ∀ a, d.heap a = none)
    (hc : d.isConnected = false) (h : NothingStarted cfg fs uv d i) :
    Silent d (step cfg fs uv d i) := by
  by_cases hrun : d.crashed = true
  · rw [show step cfg fs uv d i = d from if_pos hrun]
    exact Silent.refl d
  have hcr : d.crashed = false := by simpa using hrun
  have hnone (a : ℕ) (svc : Service) : ¬d.alive a = some svc := by
    intro ha
    have hheap := ((alive_iff d a svc).mp ha).1
    rw [hh a] at hheap
    cases hheap
  have hcall := step_callback cfg fs uv d i hcr
  generalize step cfg fs uv d i = d' at hcall
  cases hcall with
  | none => exact Silent.refl d
  | transportRead r hact => exact silent_transport_read r hs (fun up d' hr hcr' =>
      h hc hcr hact r up d' rfl hr hcr')
  | transportWritten fail up rest _ =>
    have hpop : Silent d (d.setSocket { d.socket with writes := rest }) :=
      ⟨rfl,rfl,[],(List.append_nil _).symm,by simp⟩
    have hs' : (d.setSocket { d.socket with writes := rest }).services = [] := hs
    refine hpop.trans ?_
    unfold adbUvAfterWrite
    split
    · exact silent_next _ (silent_release cfg fs uv _ _ hs') (silent_ops_close _ _)
    · split
      · exact silent_send_frame _ uv _
      · exact silent_release cfg fs uv _ _ hs'
  | transportClosed => exact silent_close_client d hs
  | touched _ a svc ha =>
    rw [hh a] at ha
    cases ha
  | streamRead a r svc ha => exact absurd ha (hnone a svc)
  | streamWritten a fail svc ha => exact absurd ha (hnone a svc)
  | connected a fail svc ha => exact absurd ha (hnone a svc)
  | streamClosed a svc ha => exact absurd ha (hnone a svc)
  | processClosed a svc ha => exact absurd ha (hnone a svc)

/-! Frames that start a service. -/

theorem starts_served (d : Daemon ω) (up : ApacketUv) (h : Starts cfg uv d up) :
    ∃ es e, (adbServiceOpen cfg uv d (terminateName up)).2.2.log = d.log ++ es ++ [e] ∧
      e.served = true := by
  obtain ⟨-,-,-,hid,hname⟩ := h
  have hfinish (r : Option Service × ApacketUv × Daemon ω) (params : ServiceParams)
      (hr : r.1 ≠ none) (hlog : r.2.2.log = d.log) :
      ∃ es e, (finishOpen r params).2.2.log = d.log ++ es ++ [e] ∧ e.served = true := by
    obtain ⟨svc,hsvc⟩ := Option.ne_none_iff_exists'.mp hr
    unfold finishOpen
    rw [hsvc]
    refine ⟨[],.opened r.2.2.fresh params,?_,rfl⟩
    change r.2.2.log ++ _ = _
    rw [hlog, List.append_nil]
  unfold adbServiceOpen
  rw [if_neg hid]
  split
  · rename_i hsync
    rw [hsync] at hname
    exact hfinish _ _ (by simpa [newSyncService] using hname) rfl
  · rename_i port htcp
    rw [htcp] at hname
    refine hfinish _ _ ?_ ?_ <;> unfold tcpForwardService <;> rw [if_neg hname.1] <;>
      dsimp only <;> rw [hname.2]
    · simp
    · rfl
  · rename_i cmd hshell
    rw [hshell] at hname
    refine hfinish _ _ ?_ ?_ <;> unfold shellService <;> dsimp only <;> rw [hname]
    · simp
    · rfl
  · exact ⟨[],_,by rw [List.append_nil]; rfl,rfl⟩
  · rename_i hunknown
    rw [hunknown] at hname
    exact absurd hname not_false

/-- Whatever adb_process_packet does behind adb_service_open, the trace of it stays. -/
theorem starts_process (d : Daemon ω) (up : ApacketUv) (h : Starts cfg uv d up) :
    ∃ es e, (adbProcessPacket cfg fs uv d up).log = d.log ++ es ∧ e ∈ es ∧ e.served = true := by
  let d₁ := d.emit (.handed d.isConnected up.p.msg up.p.payload)
  have h₁ : Starts cfg uv d₁ (up.setWriteLen 0) := h
  have hprocess : adbProcessPacket cfg fs uv d up = afterOpen cfg fs uv
      (adbServiceOpen cfg uv d₁ (terminateName (up.setWriteLen 0))) := by
    obtain ⟨hcmd,h0,h1,-⟩ := h₁
    unfold adbProcessPacket
    dsimp only
    rw [if_neg (by rw [hcmd]; decide), if_neg (by rw [hcmd]; exact fun hc => absurd hc.2 (by decide))]
    unfold dispatchFrame handleOpenFrame
    rw [if_pos hcmd, if_neg (by simp [h0, h1])]
  obtain ⟨es,e,hlog,he⟩ := starts_served d₁ (up.setWriteLen 0) h₁
  have hframes : KeepsFrames cfg fs uv (fun _ _ => True)
      (Aside True (adbServiceOpen cfg uv d₁ (terminateName (up.setWriteLen 0))).2.2) :=
    aside_frames _
  obtain ⟨fs',hfs,-⟩ := (hframes.after_open _ (Aside.refl True _)).log
  refine ⟨[.handed d.isConnected up.p.msg up.p.payload] ++ (es ++ [e] ++ fs'),e,?_,by simp,he⟩
  rw [hprocess, hfs, hlog]
  simp [d₁]

/-! The connection is kept. -/

theorem connected_keeps :
    KeepsReads cfg fs uv (fun _ _ => True) (fun d => d.isConnected = true) where
  act d d' h ha := by
    have haside : Aside False d d' := ha.aside
    exact (haside.isConnected.resolve_left not_false).trans h
  close d a up h _ _ := by
    have haside : Aside False d (adbServiceClose fs uv d a up) := aside_service_close fs uv d a up
    exact (haside.isConnected.resolve_left not_false).trans h
  release d a h hc := by
    have hall : KeepsAll cfg fs uv (fun _ _ => True) (Aside False d) := aside_all False d
    have haside := hall.release d a (Aside.refl False d) hc
    exact (haside.isConnected.resolve_left not_false).trans h
  frame d d' h ha := by
    have haside : Aside False d d' := ha.aside
    exact (haside.isConnected.resolve_left not_false).trans h
  connected _ _ := rfl
  receives _ _ h hr := hr.isConnected h
  starve _ h _ := h
  bad_close d why h := by
    unfold opsClose
    split <;> exact h

theorem connected_step (d : Daemon ω) (i : Input) (hs : Sound cfg uv [] d)
    (h : d.isConnected = true) : (step cfg fs uv d i).isConnected = true := by
  by_cases hread : ∃ r, i = .transportRead r
  · obtain ⟨r,rfl⟩ := hread
    have hkeeps : KeepsReads cfg fs uv (fun _ _ => True) (fun d => d.isConnected = true) :=
      connected_keeps
    unfold step
    split
    · exact h
    · dsimp only
      split
      · exact hkeeps.transport_read r h (fun _ _ _ _ => frame_closes_true _ _)
      · exact h
  · have haside : Aside False d (step cfg fs uv d i) :=
      aside_callback _ i hs (fun r hi => hread ⟨r,hi⟩)
    exact (haside.isConnected.resolve_left not_false).trans h

/-! Runs. -/

theorem locked_step (d : Daemon ω) (i : Input) (hs : Sound cfg uv [] d) (hl : Locked d)
    (h : NothingStarted cfg fs uv d i) : Locked (step cfg fs uv d i) := by
  intro hc
  have hc₀ : d.isConnected = false := by
    by_contra hne
    rw [connected_step d i hs (by simpa using hne)] at hc
    cases hc
  obtain ⟨hserv,hheap⟩ := hl hc₀
  have hsilent := silent_step d i hserv hheap hc₀ h
  exact ⟨hsilent.services.trans hserv,fun a => hsilent.heap ▸ hheap a⟩

theorem unserved_iff (d : Daemon ω) (i : Input) (hl : Locked d) :
    Unserved cfg fs uv d i ↔ NothingStarted cfg fs uv d i := by
  constructor
  · rintro h hc hcr hact r up d' rfl hr hcr' hstart
    obtain ⟨es,hes,-⟩ := (silent_receive cfg fs uv d r (hl hc).1).log
    rw [hr] at hes
    have hstep : step cfg fs uv d (.transportRead r) = adbProcessPacket cfg fs uv d' up := by
      unfold step
      rw [if_neg (by simp [hcr])]
      dsimp only
      rw [if_pos hact]
      unfold transportRead Daemon.next
      rw [hr]
      dsimp only
      rw [if_neg (by simp [hcr'])]
    obtain ⟨fs',e,hlog,he,hserved⟩ : ∃ es e, (adbProcessPacket cfg fs uv d' up).log =
      d'.log ++ es ∧ e ∈ es ∧ e.served = true := starts_process d' up hstart
    have hnone := h hc e (by
      rw [hstep, hlog, hes, List.append_assoc, List.drop_left]
      exact List.mem_append_right _ he)
    rw [hserved] at hnone
    cases hnone
  · intro h hc e he
    obtain ⟨hserv,hheap⟩ := hl hc
    obtain ⟨es,hes,hp⟩ := (silent_step d i hserv hheap hc h).log
    rw [hes, List.drop_left] at he
    exact hp e he

/-- Every callback of a run leaves the services alone before the connection iff no frame that
is processed before it starts a service. -/
theorem unserved_run_iff (cfg : Config) (fs : FileSystem ω) (uv : Uv ω) (token : List UInt8)
    (os : ω) (is : List Input) :
    Along (step cfg fs uv) (Unserved cfg fs uv) (daemonStart token os) is ↔
      Along (step cfg fs uv) (NothingStarted cfg fs uv) (daemonStart token os) is := by
  refine (along_iff_of_invariant (step cfg fs uv) (fun d => Sound cfg uv [] d ∧ Locked d)
    (NothingStarted cfg fs uv) (Unserved cfg fs uv) (fun d i h hc => ?_) _ ?_ is
    (fun d i _ h => ?_)).symm
  · exact ⟨sound_callback i h.1,locked_step d i h.1 h.2 hc⟩
  · exact ⟨sound_start token os,fun _ => ⟨rfl,fun _ => rfl⟩⟩
  · exact (unserved_iff d i h.2).symm

/-- OPEN(1, 0, "sync:") as the first frame of a client of the README build. -/
def openSync : Apacket :=
  { writeLen := 0
    msg := ⟨aOpen,1,0,6,0,0⟩
    data := store (fun _ => 0) 0 (ascii "sync:") }

theorem open_before_auth : readmeConfig.authentication = true ∧
    ¬Along (step readmeConfig emptyFs plainUv) (Unserved readmeConfig emptyFs plainUv)
      (daemonStart [] ()) [.transportRead (.data openSync.seal.msg.bytes),
        .transportRead (.data openSync.seal.payload)] := by
  refine ⟨rfl,fun h => ?_⟩
  have hserved := h.2.1 (by decide +kernel) (.opened 1 .sync) (by decide +kernel)
  cases hserved

end MicroADB
