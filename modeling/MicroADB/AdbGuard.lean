import MicroADB.AdbAct

/-! An invariant of the deeds, of the end of a service and of the release of a packet is an
invariant of every callback, function by function. What a function does for another reason (a
start-up that loses a handle, a connection that fails, a close of the transport) is asked of its
caller. -/
namespace MicroADB
open ByteMemory EventRun

variable {ω : Type} {cfg : Config} {fs : FileSystem ω} {uv : Uv ω} {Q : Daemon ω → ℕ → Prop}
  {I J : Daemon ω → Prop} {W : CloseReason → Prop} {p q : Prop} {d d' : Daemon ω}

/-- I is an invariant of the deeds, and of adb_service_close where Q holds. -/
structure Guards (cfg : Config) (fs : FileSystem ω) (uv : Uv ω) (Q : Daemon ω → ℕ → Prop)
    (I : Daemon ω → Prop) : Prop where
  deed : ∀ d d', I d → Deed cfg uv d d' → I d'
  close : ∀ d a up, I d → d.crashed = false → Q d a → I (adbServiceClose fs uv d a up)

theorem keeps_next {f : Daemon ω → Daemon ω} (hd : I d) (hf : d.crashed = false → I (f d)) :
    I (d.next f) := by
  unfold Daemon.next
  split
  · exact hd
  · rename_i hc
    exact hf (by simpa using hc)

/-- J holds where I holds, and where p holds behind the close of the transport that follows. -/
structure Aftermath (W : CloseReason → Prop) (I J : Daemon ω → Prop) (p : Prop) : Prop where
  keep : ∀ d, I d → J d
  close : p → ∀ d why, W why → I d → d.crashed = false → J (opsClose d why)

theorem Aftermath.mono (h : Aftermath W I J p) (hp : q → p) : Aftermath W I J q :=
  ⟨h.keep,fun hq => h.close (hp hq)⟩

/-- The close of the transport at the end of a function. -/
theorem Aftermath.next (h : Aftermath W I J p) (hp : p) {why : CloseReason} (hw : W why)
    (hd : I d) : J (d.next fun d => opsClose d why) := by
  unfold Daemon.next
  split
  · exact h.keep d hd
  · rename_i hc
    exact h.close hp d why hw hd (by simpa using hc)

namespace Guards

theorem calmly (h : Guards cfg fs uv Q I) (hd : I d) (hc : Calmly d d') : I d' :=
  h.deed _ _ hd (.calmly _ _ hc)

theorem send (h : Guards cfg fs uv Q I) (up : ApacketUv) (hd : I d) : I (sendFrame uv d up) :=
  h.deed _ _ hd (.send d up)

theorem with_service (h : Guards cfg fs uv Q I) {a : ℕ} {f : Service → Daemon ω} (hd : I d)
    (hf : ∀ svc, d.alive a = some svc → I (f svc)) : I (d.withService a f) := by
  unfold Daemon.withService
  split
  · exact h.calmly hd (calmly_fault d _ rfl rfl)
  · rename_i svc ha
    exact hf svc ha

theorem allocate (h : Guards cfg fs uv Q I) (b : Bool) (hd : I d) :
    I (adbUvPacketAllocate cfg uv d b).2 := by
  unfold adbUvPacketAllocate
  split
  · rename_i hle
    exact h.deed _ _ hd (.refuse d hle)
  · rename_i hlt
    dsimp only
    split
    · rename_i hnone
      exact h.deed _ _ hd (.outOfMemory d hnone)
    · rename_i init _
      have hos := h.calmly hd (calmly_os d (uv.packetMalloc d.os).1)
      exact h.deed _ _ hos (.alloc _ (if b then cfg.cnxnPayloadSize else cfg.payloadSize) init
        (by simpa [Daemon.setOs] using hlt))

theorem set_service (h : Guards cfg fs uv Q I) {a : ℕ} {svc svc' : Service} (hd : I d)
    (ha : d.alive a = some svc) (hc : Change d a svc svc')
    (hk : svc'.kind.Unconnected → svc'.kind = svc.kind) : I (d.setService a svc') :=
  h.deed _ _ hd (.service d a svc svc' ha hc hk)

/-! Kicks. A service that could not be connected is closed by its kick. -/

theorem try_close (h : Guards cfg fs uv Q I) {a : ℕ} (hd : I d)
    (hq : ∀ d', I d' → d'.crashed = false → d'.alive a = d.alive a → Q d' a) :
    I (tryClose cfg fs uv d a) := by
  have halloc : I (adbHalApacketAllocate cfg uv d).2 := h.allocate false hd
  unfold tryClose
  refine keeps_next halloc (fun hc => ?_)
  split
  · exact halloc
  · exact h.close _ _ _ halloc hc (hq _ halloc hc (allocate_alive cfg uv d false a))

/-- A service becomes connected, and its socket is read. -/
theorem socket_started (h : Guards cfg fs uv Q I) {a : ℕ} {svc : Service} {state : StreamState}
    (hd : I d) (ha : d.alive a = some svc) (hk : svc.kind = .tcp state)
    (hs : StreamState.notConnected.index < state.index) :
    I (d.setService a (adbHalSocketStart { svc with kind := .tcp .connected })) := by
  have hfreed := ((alive_iff _ _ _).mp ha).2
  refine h.set_service hd ha (change_socket_start d a svc state hk hs hfreed) (fun hu => ?_)
  rw [socket_start_kind] at hu
  exact absurd hu (not_unconnected (by decide))

theorem try_connect (h : Guards cfg fs uv Q I) {a : ℕ} (hd : I d)
    (hk : ∀ svc, d.alive a = some svc → svc.kind = .tcp .notifyClient) :
    I (tryConnect cfg uv d a) := by
  have halloc : I (adbHalApacketAllocate cfg uv d).2 := h.allocate false hd
  unfold tryConnect
  refine keeps_next halloc (fun _ => ?_)
  split
  · exact halloc
  · refine h.with_service halloc (fun svc ha => ?_)
    have hkind := hk svc (by rw [← allocate_alive cfg uv d false a]; exact ha)
    exact h.send _ (h.socket_started halloc ha hkind (by decide))

theorem on_kick (h : Guards cfg fs uv Q I) (a : ℕ) (hd : I d)
    (hq : ∀ d' a svc, I d' → d'.crashed = false → d'.alive a = some svc →
      svc.kind = .tcp .errorClose → Q d' a) : I (onKick cfg fs uv d a) := by
  refine h.with_service hd (fun svc ha => ?_)
  have hfreed := ((alive_iff _ _ _).mp ha).2
  have hemit : I (d.emit (.onKick a)) := h.calmly hd (calmly_emit d _ rfl rfl)
  split
  · exact hd
  · rename_i state hk
    unfold atcpStreamOnKick
    split
    · exact hemit
    · exact hemit
    · have hstart := h.socket_started hemit ha hk (by decide)
      rw [← hk] at hstart
      exact hstart
    · refine h.try_connect hemit (fun svc' ha' => ?_)
      obtain rfl : svc = svc' := Option.some.inj (ha.symm.trans ha')
      exact hk
    · exact h.try_close hemit (fun d' hd' hc' ha' => hq d' a svc hd' hc' (ha'.trans ha) hk)
  · rename_i waitAck hk
    refine h.set_service hemit ha ?_ (fun _ => shell_kick_kind svc waitAck)
    cases waitAck with
    | true => exact Change.refl _ a svc
    | false =>
      have hc := change_shell_kick (d.emit (.onKick a)) a svc _ hk hfreed
      rw [← hk] at hc
      exact hc

theorem kick_loop (h : Guards cfg fs uv Q I)
    (hq : ∀ d' a svc, I d' → d'.crashed = false → d'.alive a = some svc →
      svc.kind = .tcp .errorClose → Q d' a) (l : List ℕ) (hd : I d) :
    I (kickLoop cfg fs uv l d) := by
  induction l generalizing d with
  | nil => exact hd
  | cons a rest ih =>
    have hkick := h.on_kick a hd hq
    exact keeps_next hkick (fun _ => h.with_service hkick (fun _ _ => ih hkick))

theorem tcp_uv_kick (h : Guards cfg fs uv Q I)
    (hq : ∀ d' a svc, I d' → d'.crashed = false → d'.alive a = some svc →
      svc.kind = .tcp .errorClose → Q d' a) (hd : I d) : I (tcpUvKick cfg fs uv d) := by
  unfold tcpUvKick
  split
  · exact h.kick_loop hq _ hd
  · have hquietly : Quietly d (d.setSocket d.socket.readStart) :=
      quietly_socket d _ UvStream.Wf.readStart (UvStream.readStart_starved _) (by simp)
    exact h.kick_loop hq _ (h.calmly hd (calmly_of_quietly hquietly (by simp) (by simp) rfl))

/-- The release of a packet, from what its three exits keep. -/
theorem release (h : Guards cfg fs uv Q I)
    (hq : ∀ d' a svc, I d' → d'.crashed = false → d'.alive a = some svc →
      svc.kind = .tcp .errorClose → Q d' a) (a : ℕ) (hd : I d)
    (hassert : a ∈ d.live → d.frameCount ≤ 0 → I (d.fault .frameCount))
    (hkick : a ∈ d.live → cfg.frameMax < d.frameCount →
      I (setFrameCount (freePacket d a) (cfg.frameMax-1)))
    (hfree : a ∈ d.live → 0 < d.frameCount → d.frameCount ≤ cfg.frameMax →
      I (setFrameCount (freePacket d a) (d.frameCount-1))) :
    I (adbHalApacketRelease cfg fs uv d a) := by
  unfold adbHalApacketRelease
  split
  · exact h.calmly hd (calmly_fault d _ rfl rfl)
  · rename_i hlive
    have hlive := not_not.mp hlive
    split
    · rename_i hle
      exact hassert hlive hle
    · rename_i hpos
      split
      · rename_i hmax
        exact h.tcp_uv_kick hq (hkick hlive hmax)
      · rename_i hmax
        exact hfree hlive (not_le.mp hpos) (not_lt.mp hmax)

end Guards

/-- I is an invariant of the release of a packet as well. -/
structure GuardsAll (cfg : Config) (fs : FileSystem ω) (uv : Uv ω) (Q : Daemon ω → ℕ → Prop)
    (I : Daemon ω → Prop) : Prop extends Guards cfg fs uv Q I where
  release : ∀ d a, I d → d.crashed = false → I (adbHalApacketRelease cfg fs uv d a)

/-- An invariant for which it does not matter how many packets there are. -/
theorem Guards.guards_all (h : Guards cfg fs uv Q I)
    (hq : ∀ d' a svc, I d' → d'.crashed = false → d'.alive a = some svc →
      svc.kind = .tcp .errorClose → Q d' a)
    (hassert : ∀ d, I d → I (d.fault .frameCount))
    (hfree : ∀ d a n, I d → I (setFrameCount (freePacket d a) n)) : GuardsAll cfg fs uv Q I where
  toGuards := h
  release d a hd _ := by
    apply h.release hq a hd
    · exact fun _ _ => hassert d hd
    · exact fun _ _ => hfree d a _ hd
    · exact fun _ _ _ => hfree d a _ hd

/-- The callback of a write of the transport, which closes it when the write failed. -/
theorem GuardsAll.after_write (h : GuardsAll cfg fs uv Q I) (up : ApacketUv) (fail : Bool)
    (hJ : Aftermath W I J (fail = true)) (hw : W .writeFailed) (hd : I d) (hc : d.crashed = false) :
    J (adbUvAfterWrite cfg fs uv d up fail) := by
  unfold adbUvAfterWrite
  split
  · rename_i hfail
    exact hJ.next hfail hw (h.release d up.addr hd hc)
  · apply hJ.keep
    split
    · exact h.send _ hd
    · exact h.release d up.addr hd hc

/-- I is an invariant of adb_process_packet. -/
structure GuardsFrames (cfg : Config) (fs : FileSystem ω) (uv : Uv ω) (Q : Daemon ω → ℕ → Prop)
    (I : Daemon ω → Prop) : Prop extends GuardsAll cfg fs uv Q I where
  frame : ∀ d d', I d → FrameAct d d' → I d'
  connected : ∀ d, I d → I { d with isConnected := true }

namespace GuardsFrames

/-- A service of the list takes a packet. -/
theorem service_write (h : GuardsFrames cfg fs uv Q I) {a : ℕ} {svc : Service} (up : ApacketUv)
    (hd : I d) (hreg : a ∈ d.services) (ha : d.alive a = some svc)
    (hk : svc.kind.Allows svc.stream → svc.kind.Allows (svc.stream.push up)) :
    I (serviceWrite uv d a svc up).2 := by
  unfold serviceWrite
  split
  · exact hd
  · rename_i hcl
    have hos := h.calmly hd (calmly_os d (uv.write d.os).1)
    dsimp only
    split
    · have hemit := h.calmly hos (calmly_emit _ (.kept a up.addr) rfl rfl)
      exact h.frame _ _ hemit (.push _ a svc up ha hreg (by simpa using hcl) hk)
    · exact hos

theorem sync_done (h : GuardsFrames cfg fs uv Q I) {a : ℕ} {svc : Service} {s : AfsService}
    (c : SyncCtx ω) (hd : I d) (ha : d.alive a = some svc) (hk : svc.kind = .sync s) :
    I (syncDone d a svc c) := by
  have hos := h.calmly hd (calmly_os d c.os)
  have hset : I ((d.setOs c.os).setService a { svc with kind := .sync c.svc }) :=
    h.set_service hos ha (change_kind _ a svc _ (fun hw => by rw [hk] at hw; exact hw))
      (fun hu => by cases hu)
  have hsync (e : Event) (he : e ∈ c.log.map (.sync a)) : ∃ s, e = .sync a s := by
    obtain ⟨s,_,rfl⟩ := List.mem_map.mp he
    exact ⟨s,rfl⟩
  apply h.calmly hset (calmly_emits _ (c.log.map (.sync a)) _ _)
  · intro e he
    obtain ⟨s,rfl⟩ := hsync e he
    rfl
  · intro e he
    obtain ⟨s,rfl⟩ := hsync e he
    rfl

theorem on_write_frame (h : GuardsFrames cfg fs uv Q I) {a : ℕ} (up : ApacketUv) (hd : I d)
    (hreg : a ∈ d.services) : I (onWriteFrame cfg fs uv d a up).2.2 := by
  unfold onWriteFrame
  split
  · exact h.calmly hd (calmly_fault d _ rfl rfl)
  · rename_i svc ha
    have hemit : I (d.emit (.onWrite a)) := h.frame _ _ hd (.reached d a _ hreg (Or.inl rfl))
    dsimp only
    split
    · rename_i s hk
      exact h.sync_done _ hemit ha hk
    · rename_i state hk
      dsimp only
      unfold atcpStreamOnWrite
      split
      · exact hemit
      · rename_i hidx
        refine h.service_write up hemit hreg ha (fun hw => ?_)
        rw [hk] at hw ⊢
        exact ⟨hw.1,fun _ => not_lt.mp hidx,hw.2.2⟩
    · rename_i waitAck hk
      refine h.service_write up hemit hreg ha (fun hw => ?_)
      rw [hk] at hw ⊢
      exact hw

theorem on_ack_frame (h : GuardsFrames cfg fs uv Q I) {a : ℕ} (up : ApacketUv) (hd : I d)
    (hreg : a ∈ d.services) : I (onAckFrame cfg fs d a up).2.2 := by
  unfold onAckFrame
  split
  · exact h.calmly hd (calmly_fault d _ rfl rfl)
  · rename_i svc ha
    have hfreed := ((alive_iff _ _ _).mp ha).2
    have hemit : I (d.emit (.onAck a)) := h.frame _ _ hd (.reached d a _ hreg (Or.inr rfl))
    dsimp only
    split
    · rename_i s hk
      exact h.sync_done _ hemit ha hk
    · rename_i state hk
      dsimp only
      unfold atcpStreamOnAck
      split
      · rename_i hstate
        exact h.socket_started hemit ha hk (by rw [hstate]; decide)
      · exact hemit
    · rename_i waitAck hk
      refine h.set_service hemit ha (change_shell_kick _ a svc waitAck hk hfreed) (fun hu => ?_)
      rw [shell_kick_kind] at hu
      cases hu

/-! Opening a service. -/

theorem finish_open (h : GuardsFrames cfg fs uv Q I) (r : Option Service × ApacketUv × Daemon ω)
    (params : ServiceParams) (hd : I r.2.2) (hc : ∀ svc, r.1 = some svc → Constructed svc) :
    I (finishOpen r params).2.2 := by
  unfold finishOpen
  split
  · exact hd
  · rename_i svc hsvc
    exact h.frame _ _ hd (.register _ _ _ _ (hc svc hsvc))

end GuardsFrames

/-- The start-up of the service that a name opens fails once a handle was initialised in it. -/
def Loses (cfg : Config) (uv : Uv ω) (os : ω) (up : ApacketUv) : Prop :=
  match serviceName cfg up with
  | .tcp port => port ≠ 0 ∧ (uv.connect os port).2 = some .connect
  | .shell cmd => (uv.shell os cmd).2 = some .pipeOpen ∨ (uv.shell os cmd).2 = some .spawn
  | _ => False

/-- handle_open_frame reaches a start-up that fails like this. -/
def OpenLoses (cfg : Config) (uv : Uv ω) (d : Daemon ω) (up : ApacketUv) : Prop :=
  up.p.msg.arg0 ≠ 0 ∧ up.p.msg.arg1 = 0 ∧ d.nextServiceId ≠ 0 ∧
    Loses cfg uv d.os (terminateName up)

namespace GuardsFrames

theorem service_open (h : GuardsFrames cfg fs uv Q I) (up : ApacketUv) (hd : I d)
    (hlost : d.nextServiceId ≠ 0 → Loses cfg uv d.os up →
      ∀ os, I ((d.setOs os).emit .handleLost)) :
    I (adbServiceOpen cfg uv d up).2.2 := by
  unfold adbServiceOpen
  split
  · exact h.calmly hd (calmly_fault d _ rfl rfl)
  · rename_i hid
    split
    · refine h.finish_open _ _ (h.calmly hd (calmly_os d _)) (fun svc hsvc => ?_)
      obtain ⟨raw,-,rfl⟩ := Option.map_eq_some_iff.mp hsvc
      exact constructed_sync _
    · rename_i port hname
      have hos := h.calmly hd (calmly_os d (uv.connect d.os port).1)
      apply h.finish_open
      · unfold tcpForwardService
        split
        · exact hd
        · rename_i hport
          dsimp only
          split
          · exact hos
          · rename_i hexit
            have hloses : Loses cfg uv d.os up := by
              unfold Loses
              rw [hname]
              exact ⟨hport,hexit⟩
            exact hlost hid hloses _
          · exact hos
      · intro svc hsvc
        unfold tcpForwardService at hsvc
        split at hsvc
        · cases hsvc
        · dsimp only at hsvc
          split at hsvc <;> cases hsvc
          exact constructed_tcp
    · rename_i cmd hname
      have hos := h.calmly hd (calmly_os d (uv.shell d.os cmd).1)
      have hloses (hexit : (uv.shell d.os cmd).2 = some .pipeOpen ∨
          (uv.shell d.os cmd).2 = some .spawn) : Loses cfg uv d.os up := by
        unfold Loses
        rw [hname]
        exact hexit
      apply h.finish_open
      · unfold shellService
        dsimp only
        split
        · exact hos
        · rename_i hexit
          exact hlost hid (hloses (Or.inl hexit)) _
        · rename_i hexit
          exact hlost hid (hloses (Or.inr hexit)) _
        · exact hos
      · intro svc hsvc
        unfold shellService at hsvc
        dsimp only at hsvc
        split at hsvc <;> cases hsvc
        exact constructed_shell
    · exact h.frame _ _ hd (.reboot d _)
    · exact hd

end GuardsFrames

/-! Frames of the host. -/

/-- A service that was found is in the list, with the ids that were asked for. -/
theorem find_service_spec (d : Daemon ω) (id peerId a : ℕ)
    (h : adbClientFindService d id peerId = some a) :
    a ∈ d.services ∧ ∃ svc, d.heap a = some svc ∧ svc.id = id ∧
      (peerId = 0 ∨ svc.peerId = peerId) := by
  have hmem := List.mem_of_find?_eq_some h
  have hp := List.find?_some h
  split at hp
  · cases hp
  · rename_i svc hsvc
    exact ⟨hmem,svc,hsvc,by simpa using hp⟩

namespace GuardsFrames

theorem after_open (h : GuardsFrames cfg fs uv Q I) (r : Option ℕ × ApacketUv × Daemon ω)
    (hd : I r.2.2) : I (afterOpen cfg fs uv r) := by
  unfold afterOpen
  refine keeps_next hd (fun hc => ?_)
  dsimp only
  split
  · split
    · exact h.send _ (h.frame _ _ hd (.serviceId _ _))
    · exact h.send _ hd
  · split
    · exact h.release _ _ hd hc
    · exact h.with_service hd (fun svc _ => h.send _ hd)

theorem handle_open_frame (h : GuardsFrames cfg fs uv Q I) (up : ApacketUv) (hd : I d)
    (hc : d.crashed = false)
    (hlost : OpenLoses cfg uv d up → ∀ os, I ((d.setOs os).emit .handleLost)) :
    I (handleOpenFrame cfg fs uv d up) := by
  unfold handleOpenFrame
  split
  · exact h.release d up.addr hd hc
  · rename_i hids
    rw [not_or, not_not] at hids
    refine h.after_open _ (h.service_open (terminateName up) hd (fun hid hloses => ?_))
    exact hlost ⟨hids.1,hids.2,hid,hloses⟩

theorem handle_close_frame (h : GuardsFrames cfg fs uv Q I) (up : ApacketUv) (hd : I d)
    (hc : d.crashed = false)
    (hq : ∀ a, adbClientFindService d up.p.msg.arg1 up.p.msg.arg0 = some a → Q d a) :
    I (handleCloseFrame cfg fs uv d up) := by
  unfold handleCloseFrame
  dsimp only
  split
  · rename_i a ha
    have hclose := h.close d a none hd hc (hq a ha)
    exact keeps_next hclose (fun hc' => h.release _ _ hclose hc')
  · exact keeps_next hd (fun hc' => h.release _ _ hd hc')

theorem handle_write_frame (h : GuardsFrames cfg fs uv Q I) (up : ApacketUv) (hd : I d)
    (hq : ∀ a, adbClientFindService d up.p.msg.arg1 up.p.msg.arg0 = some a →
      (onWriteFrame cfg fs uv d a up).2.2.crashed = false →
      (onWriteFrame cfg fs uv d a up).1 < 0 → Q (onWriteFrame cfg fs uv d a up).2.2 a) :
    I (handleWriteFrame cfg fs uv d up) := by
  unfold handleWriteFrame
  split
  · exact h.send _ hd
  · rename_i a ha
    have hwrite := h.on_write_frame up hd (find_service_spec d _ _ a ha).1
    refine keeps_next hwrite (fun hc => ?_)
    split
    · rename_i hlt
      exact h.close _ a _ hwrite hc (hq a ha hc hlt)
    · split
      · exact h.with_service hwrite (fun svc _ => h.send _ hwrite)
      · exact hwrite

theorem update_peer_id (h : GuardsFrames cfg fs uv Q I) (a peerId : ℕ) (hd : I d) :
    I (updatePeerId d a peerId) := by
  refine h.with_service hd (fun svc ha => ?_)
  split
  · rename_i hzero
    have hc : Change d a svc { svc with peerId := peerId } :=
      ⟨rfl,rfl,fun hw => ⟨hw.stream,hw.kind,hw.freed,hw.exiting⟩,Or.inl,id,
        fun hne => absurd hzero hne⟩
    exact h.set_service hd ha hc (fun _ => rfl)
  · exact hd

theorem handle_okay_frame (h : GuardsFrames cfg fs uv Q I) (up : ApacketUv) (hd : I d)
    (hq : ∀ a d', adbClientFindService d up.p.msg.arg1 0 = some a →
      d' = updatePeerId d a up.p.msg.arg0 → (onAckFrame cfg fs d' a up).2.2.crashed = false →
      (onAckFrame cfg fs d' a up).1 < 0 → Q (onAckFrame cfg fs d' a up).2.2 a) :
    I (handleOkayFrame cfg fs uv d up) := by
  unfold handleOkayFrame
  split
  · exact h.send _ hd
  · rename_i a ha
    have hpeer := h.update_peer_id a up.p.msg.arg0 hd
    refine keeps_next hpeer (fun _ => ?_)
    have hreg : a ∈ (updatePeerId d a up.p.msg.arg0).services := by
      unfold updatePeerId Daemon.withService
      split
      · exact (find_service_spec d _ _ a ha).1
      · dsimp only
        split <;> exact (find_service_spec d _ _ a ha).1
    have hack := h.on_ack_frame up hpeer hreg
    refine keeps_next hack (fun hc => ?_)
    split
    · rename_i hlt
      exact h.close _ a _ hack hc (hq a _ ha rfl hc hlt)
    · split
      · exact hack
      · split
        · exact h.with_service hack (fun svc _ => h.send _ hack)
        · exact h.release _ _ hack hc

theorem send_auth_request (h : GuardsFrames cfg fs uv Q I) (up : ApacketUv)
    (hJ : Aftermath W I J ((uv.random d.os).2 = none)) (hw : W .randomFailed) (hd : I d)
    (hc : d.crashed = false) : J (sendAuthRequest cfg fs uv d up) := by
  unfold sendAuthRequest
  have hos := h.calmly hd (calmly_os d (uv.random d.os).1)
  dsimp only
  split
  · rename_i hnone
    exact hJ.next hnone hw (h.release _ up.addr hos hc)
  · rename_i m _
    have htoken : Quietly (d.setOs (uv.random d.os).1)
        { d.setOs (uv.random d.os).1 with token := slice m 0 cfg.tokenSize } :=
      { Quietly.refl _ with }
    exact hJ.keep _ (h.send _ (h.calmly hos (calmly_of_quietly htoken rfl rfl rfl)))

theorem invalid_frame (h : GuardsFrames cfg fs uv Q I) (up : ApacketUv) (hJ : Aftermath W I J True)
    (hw : W .badCommand) (hd : I d) (hc : d.crashed = false) : J (invalidFrame cfg fs uv d up) :=
  hJ.next trivial hw (h.release d up.addr hd hc)

end GuardsFrames

/-- What receiving a frame may change besides. -/
structure Receives (d d' : Daemon ω) : Prop where
  services : d'.services = d.services
  heap : d'.heap = d.heap
  nextServiceId : d'.nextServiceId = d.nextServiceId
  frameCount : d'.frameCount = d.frameCount
  live : d'.live = d.live
  fresh : d'.fresh = d.fresh
  gone : d'.gone = d.gone
  crashed : d'.crashed = d.crashed
  socket : d'.socket = d.socket
  isConnected : d.isConnected = true → d'.isConnected = true
  log : d'.log = d.log ∨ (∃ bs, d'.log = d.log ++ [.received bs]) ∨
    ∃ b m bs, d'.log = d.log ++ [.handed b m bs]

/-- The closes of a frame that is handed to adb_process_packet happen where Q holds. -/
structure FrameCloses (cfg : Config) (fs : FileSystem ω) (uv : Uv ω)
    (Q : Daemon ω → ℕ → Prop) (d : Daemon ω) (up : ApacketUv) : Prop where
  close : up.p.msg.command = aClse →
    ∀ a, adbClientFindService d up.p.msg.arg1 up.p.msg.arg0 = some a → Q d a
  write : up.p.msg.command = aWrte →
    ∀ a, adbClientFindService d up.p.msg.arg1 up.p.msg.arg0 = some a →
      (onWriteFrame cfg fs uv d a up).2.2.crashed = false →
      (onWriteFrame cfg fs uv d a up).1 < 0 → Q (onWriteFrame cfg fs uv d a up).2.2 a
  okay : up.p.msg.command = aOkay →
    ∀ a d', adbClientFindService d up.p.msg.arg1 0 = some a →
      d' = updatePeerId d a up.p.msg.arg0 → (onAckFrame cfg fs d' a up).2.2.crashed = false →
      (onAckFrame cfg fs d' a up).1 < 0 → Q (onAckFrame cfg fs d' a up).2.2 a

/-- The switch over the command ends at its default. -/
def Unknown (up : ApacketUv) : Prop :=
  up.p.msg.command ≠ aOpen ∧ up.p.msg.command ≠ aClse ∧ up.p.msg.command ≠ aWrte ∧
    up.p.msg.command ≠ aOkay

/-- adb_process_packet closes the transport. -/
def FrameFails (cfg : Config) (uv : Uv ω) (d : Daemon ω) (up : ApacketUv) : Prop :=
  if up.p.msg.command = aCnxn then
    cfg.authentication = true ∧ d.isConnected = false ∧ (uv.random d.os).2 = none
  else if cfg.authentication = true ∧ up.p.msg.command = aAuth then
    d.isConnected = true ∨ up.p.msg.arg0 = adbAuthSignature ∧ (uv.random d.os).2 = none
  else Unknown up

/-- A frame whose closes happen where Q holds, and that loses no handle where I does not hold. -/
structure FrameAllows (cfg : Config) (fs : FileSystem ω) (uv : Uv ω) (Q : Daemon ω → ℕ → Prop)
    (I : Daemon ω → Prop) (d : Daemon ω) (up : ApacketUv) : Prop where
  closes : FrameCloses cfg fs uv Q d up
  lost : up.p.msg.command = aOpen → OpenLoses cfg uv d up → ∀ os, I ((d.setOs os).emit .handleLost)

namespace GuardsFrames

theorem dispatch_frame (h : GuardsFrames cfg fs uv Q I) (up : ApacketUv)
    (hJ : Aftermath W I J (Unknown up)) (hw : W .badCommand) (hd : I d) (hc : d.crashed = false)
    (hq : FrameAllows cfg fs uv Q I d up) : J (dispatchFrame cfg fs uv d up) := by
  unfold dispatchFrame
  split
  · rename_i hcmd
    exact hJ.keep _ (h.handle_open_frame up hd hc (hq.lost hcmd))
  · rename_i hopen
    split
    · rename_i hcmd
      exact hJ.keep _ (h.handle_close_frame up hd hc (hq.closes.close hcmd))
    · rename_i hclse
      split
      · rename_i hcmd
        exact hJ.keep _ (h.handle_write_frame up hd (hq.closes.write hcmd))
      · rename_i hwrte
        split
        · rename_i hcmd
          exact hJ.keep _ (h.handle_okay_frame up hd (hq.closes.okay hcmd))
        · rename_i hokay
          exact h.invalid_frame up (hJ.mono fun _ => ⟨hopen,hclse,hwrte,hokay⟩) hw hd hc

theorem accept_connection (h : GuardsFrames cfg fs uv Q I) (up : ApacketUv) (hd : I d) :
    I (acceptConnection cfg uv d up) := by
  have hsend := h.send
    ((up.setData (adbFillConnectData cfg.product up.p.data cfg.cnxnPayloadSize).2).message aCnxn
      aVersion cfg.payloadSize
      (u32OfInt (adbFillConnectData cfg.product up.p.data cfg.cnxnPayloadSize).1)) hd
  exact keeps_next hsend (fun _ => h.connected _ hsend)

theorem handle_auth_frame (h : GuardsFrames cfg fs uv Q I) (up : ApacketUv)
    (hJ : Aftermath W I J (up.p.msg.arg0 = adbAuthSignature ∧ (uv.random d.os).2 = none))
    (hw : W .randomFailed) (hd : I d) (hc : d.crashed = false) :
    J (handleAuthFrame cfg fs uv d up) := by
  unfold handleAuthFrame
  split
  · exact hJ.keep _ (h.release _ _ hd hc)
  · split
    · rename_i hsign
      exact h.send_auth_request up (hJ.mono fun hnone => ⟨hsign,hnone⟩) hw hd hc
    · apply hJ.keep
      split
      · exact h.accept_connection up hd
      · exact h.release _ _ hd hc

theorem process_packet (h : GuardsFrames cfg fs uv Q I) (up : ApacketUv)
    (hJ : Aftermath W I J (FrameFails cfg uv d up)) (hrandom : W .randomFailed)
    (hcommand : W .badCommand)
    (hd : I (d.emit (.handed d.isConnected up.p.msg up.p.payload))) (hc : d.crashed = false)
    (hq : FrameAllows cfg fs uv Q I (d.emit (.handed d.isConnected up.p.msg up.p.payload))
      (up.setWriteLen 0)) :
    J (adbProcessPacket cfg fs uv d up) := by
  unfold adbProcessPacket
  dsimp only
  split
  · rename_i hcnxn
    change up.p.msg.command = aCnxn at hcnxn
    split
    · rename_i hauth
      have hfails (hnone : (uv.random d.os).2 = none) : FrameFails cfg uv d up := by
        unfold FrameFails
        rw [if_pos hcnxn]
        exact ⟨hauth.1,hauth.2,hnone⟩
      exact h.send_auth_request _ (hJ.mono hfails) hrandom hd hc
    · exact hJ.keep _ (h.accept_connection _ hd)
  · rename_i hcnxn
    change ¬up.p.msg.command = aCnxn at hcnxn
    split
    · rename_i hauth
      change cfg.authentication = true ∧ up.p.msg.command = aAuth at hauth
      have hfails (hp : d.isConnected = true ∨
          up.p.msg.arg0 = adbAuthSignature ∧ (uv.random d.os).2 = none) :
          FrameFails cfg uv d up := by
        unfold FrameFails
        rw [if_neg hcnxn, if_pos hauth]
        exact hp
      split
      · rename_i hconnected
        exact h.invalid_frame _ (hJ.mono fun _ => hfails (Or.inl hconnected)) hcommand hd hc
      · exact h.handle_auth_frame _ (hJ.mono fun hsign => hfails (Or.inr hsign)) hrandom hd hc
    · rename_i hauth
      change ¬(cfg.authentication = true ∧ up.p.msg.command = aAuth) at hauth
      have hfails (hp : Unknown (up.setWriteLen 0)) : FrameFails cfg uv d up := by
        unfold FrameFails
        rw [if_neg hcnxn, if_neg hauth]
        exact hp
      exact h.dispatch_frame _ (hJ.mono hfails) hcommand hd hc hq

end GuardsFrames

/-! Reads of the transport. -/

/-- The header or the data of a frame is wrong, and has just been received. -/
def BytesFail (cfg : Config) (d : Daemon ω) (ap : RawPacket) (bs : List UInt8) : Prop :=
  let ap := { ap with raw := store ap.raw d.curLen bs }
  (d.curLen < sizeofAmessage ∧ sizeofAmessage ≤ d.curLen+bs.length ∧
      checkFrameHeader cfg d.isConnected ap.packet.p ≠ 0) ∨
    (sizeofAmessage+(amessage ap.raw).dataLength ≤ d.curLen+bs.length ∧
      adbCheckFrameData ap.packet.p ≠ 0)

/-- adb_uv_on_data_available closes the transport. -/
def DataFails (cfg : Config) (d : Daemon ω) (r : ReadResult) (len : ℕ) : Prop :=
  match d.curPacket, r with
  | some ap, .data bs => bs.take len ≠ [] ∧ BytesFail cfg d ap (bs.take len)
  | none, .data _ => False
  | _, .error => True

/-- The same for a read of the transport. -/
def ReadFails (cfg : Config) (uv : Uv ω) (d : Daemon ω) (r : ReadResult) : Prop :=
  let n := adbUvAllocateFrame cfg uv d
  n.2.crashed = false ∧ n.1 ≠ 0 ∧ DataFails cfg n.2 r n.1

/-- I holds behind a frame that was received, J where there is none. -/
def Received (I J : Daemon ω → Prop) (n : Option ApacketUv × Daemon ω) : Prop :=
  match n.1 with
  | none => J n.2
  | some _ => I n.2

/-- I is an invariant of the reads of the transport. -/
structure GuardsReads (cfg : Config) (fs : FileSystem ω) (uv : Uv ω) (Q : Daemon ω → ℕ → Prop)
    (I : Daemon ω → Prop) : Prop extends GuardsFrames cfg fs uv Q I where
  receives : ∀ d d', I d → Receives d d' → I d'
  starve : ∀ d, I d → Short d.log → I (d.setSocket d.socket.starve)

namespace GuardsReads

theorem allocate_frame (h : GuardsReads cfg fs uv Q I) (hd : I d) :
    I (adbUvAllocateFrame cfg uv d).2 := by
  unfold adbUvAllocateFrame
  split
  · split <;> exact hd
  · have halloc := h.allocate (!d.isConnected) hd
    dsimp only
    split
    · exact halloc
    · exact h.receives _ _ halloc ⟨rfl,rfl,rfl,rfl,rfl,rfl,rfl,rfl,rfl,id,Or.inl rfl⟩

theorem receive_bytes (h : GuardsReads cfg fs uv Q I) (ap : RawPacket) (bs : List UInt8)
    (hJ : Aftermath W I J (BytesFail cfg d ap bs)) (hheader : W .badHeader) (hdata : W .badData)
    (hd : I d) (hc : d.crashed = false) : Received I J (receiveBytes cfg d ap bs) := by
  unfold receiveBytes
  have hreceived : I ({ d with curPacket := some { ap with raw := store ap.raw d.curLen bs } }.emit
      (.received bs)) :=
    h.receives _ _ hd ⟨rfl,rfl,rfl,rfl,rfl,rfl,rfl,rfl,rfl,id,Or.inr (Or.inl ⟨_,rfl⟩)⟩
  have hlen : I { { d with curPacket := some { ap with raw := store ap.raw d.curLen bs } }.emit
      (.received bs) with curLen := d.curLen+bs.length } :=
    h.receives _ _ hreceived ⟨rfl,rfl,rfl,rfl,rfl,rfl,rfl,rfl,rfl,id,Or.inl rfl⟩
  dsimp only
  split
  · rename_i hbad
    exact hJ.close (Or.inl hbad) _ _ hheader hreceived hc
  · split
    · exact hJ.keep _ hlen
    · rename_i hcomplete
      split
      · rename_i hbad
        exact hJ.close (Or.inr ⟨not_lt.mp hcomplete,hbad⟩) _ _ hdata hlen hc
      · exact h.receives _ _ hlen ⟨rfl,rfl,rfl,rfl,rfl,rfl,rfl,rfl,rfl,id,Or.inl rfl⟩

theorem on_data_available (h : GuardsReads cfg fs uv Q I) (r : ReadResult) (len : ℕ)
    (hJ : Aftermath W I J (DataFails cfg d r len)) (hW : ∀ why, W why) (hd : I d)
    (hc : d.crashed = false) : Received I J (adbUvOnDataAvailable cfg fs uv d r len) := by
  unfold DataFails at hJ
  unfold adbUvOnDataAvailable
  split
  · rename_i ap bs hcur
    rw [hcur] at hJ
    dsimp only at hJ
    split
    · apply hJ.keep
      unfold releaseUnused
      split
      · have hrelease := h.release d ap.addr hd hc
        dsimp only
        refine keeps_next hrelease (fun _ => ?_)
        exact h.receives _ _ hrelease ⟨rfl,rfl,rfl,rfl,rfl,rfl,rfl,rfl,rfl,id,Or.inl rfl⟩
      · exact hd
    · rename_i hne
      exact h.receive_bytes _ _ (hJ.mono fun hbad => ⟨hne,hbad⟩) (hW _) (hW _) hd hc
  · exact hJ.keep _ (h.calmly hd (calmly_fault d _ rfl rfl))
  · exact hJ.close (by split <;> trivial) _ _ (hW _) hd hc

/-- A transport that gets no room for a frame has no packet and was refused one. -/
theorem allocate_frame_short (h : (adbUvAllocateFrame cfg uv d).1 = 0)
    (hn : d.curPacket.isNone = true) : Short (adbUvAllocateFrame cfg uv d).2.log := by
  unfold adbUvAllocateFrame at h ⊢
  rw [Option.isNone_iff_eq_none] at hn
  rw [hn] at h ⊢
  dsimp only at h ⊢
  split at h
  · rename_i hnone
    exact allocate_short cfg uv d _ hnone
  · cases h

theorem receive (h : GuardsReads cfg fs uv Q I) (r : ReadResult)
    (hJ : Aftermath W I J (ReadFails cfg uv d r)) (hW : ∀ why, W why) (hd : I d) :
    Received I J (receive cfg fs uv d r) := by
  have hframe := h.allocate_frame hd
  unfold MicroADB.receive
  dsimp only
  split
  · exact hJ.keep _ hframe
  · rename_i hc
    have hc : (adbUvAllocateFrame cfg uv d).2.crashed = false := by simpa using hc
    split
    · rename_i hzero
      apply hJ.keep
      split
      · rename_i hnone
        exact h.starve _ hframe (allocate_frame_short hzero hnone)
      · have hstop : Quietly (adbUvAllocateFrame cfg uv d).2
            ((adbUvAllocateFrame cfg uv d).2.setSocket
              (adbUvAllocateFrame cfg uv d).2.socket.readStop) :=
          quietly_socket _ _ (fun hw => ⟨fun _ => rfl,fun hc => ⟨rfl,(hw.closing hc).2⟩⟩) id id
        exact h.calmly hframe (calmly_of_quietly hstop rfl rfl rfl)
    · rename_i hroom
      exact h.on_data_available r _ (hJ.mono fun hfails => ⟨hc,hroom,hfails⟩) hW hframe hc

theorem transport_read (h : GuardsReads cfg fs uv Q I) (r : ReadResult) (hW : ∀ why, W why)
    (hd : I d) (hJ : Aftermath W I J (ReadFails cfg uv d r))
    (hframe : ∀ up d', MicroADB.receive cfg fs uv d r = (some up, d') → d'.crashed = false →
      Aftermath W I J (FrameFails cfg uv d' up))
    (hq : ∀ up d', MicroADB.receive cfg fs uv d r = (some up, d') → d'.crashed = false →
      FrameAllows cfg fs uv Q I (d'.emit (.handed d'.isConnected up.p.msg up.p.payload))
        (up.setWriteLen 0)) :
    J (transportRead cfg fs uv d r) := by
  have hreceive := h.receive r hJ hW hd
  unfold Received at hreceive
  unfold transportRead
  dsimp only
  split
  · rename_i hnone
    rw [hnone] at hreceive
    exact hreceive
  · rename_i up hup
    rw [hup] at hreceive
    have heq : MicroADB.receive cfg fs uv d r = (some up,(MicroADB.receive cfg fs uv d r).2) :=
      Prod.ext hup rfl
    unfold Daemon.next
    split
    · exact hJ.keep _ hreceive
    · rename_i hc
      have hc : (MicroADB.receive cfg fs uv d r).2.crashed = false := by simpa using hc
      refine h.process_packet up (hframe up _ heq hc) (hW _) (hW _)
        (h.receives _ _ hreceive ?_) hc (hq up _ heq hc)
      exact ⟨rfl,rfl,rfl,rfl,rfl,rfl,rfl,rfl,rfl,id,Or.inr (Or.inr ⟨_,_,_,rfl⟩)⟩

end GuardsReads

/-! The streams of the services. -/

/-- A read that ends the service it is for. -/
def ReadResult.Ends (cfg : Config) (r : ReadResult) : ServiceKind → Prop
  | .sync _ => False
  | .tcp state => r = .error ∨ state ≠ .connected
  | .shell _ => r = .error ∨ ∃ bs, r = .data bs ∧ bs.take cfg.payloadSize = []

/-- A tcp service whose connection failed. -/
def connectFailed (svc : Service) : Service :=
  { svc with
    kind := .tcp .errorClose, id := 0, stream := { svc.stream with connecting := false } }

namespace GuardsAll

theorem shell_read (h : GuardsAll cfg fs uv Q I) {a : ℕ} {svc : Service} {waitAck : Bool}
    (r : ReadResult) (hd : I d) (ha : d.alive a = some svc) (hk : svc.kind = .shell waitAck)
    (hs : svc.stream.active = true) (hst : svc.stream.starved = false)
    (hq : r.Ends cfg svc.kind → ∀ d', I d' → d'.crashed = false → d'.alive a = some svc → Q d' a) :
    I (shellRead cfg fs uv d a svc waitAck r) := by
  unfold shellRead
  split
  · exact h.calmly hd (calmly_fault d _ rfl rfl)
  · have halloc : I (adbHalApacketAllocate cfg uv d).2 := h.allocate false hd
    have ha' : (adbHalApacketAllocate cfg uv d).2.alive a = some svc :=
      (allocate_alive cfg uv d false a).trans ha
    refine keeps_next halloc (fun hc => ?_)
    split
    · rename_i hnone
      have hnone : (adbUvPacketAllocate cfg uv d false).1 = none := by
        simpa [adbHalApacketAllocate] using hnone
      have hstarve := change_starve _ a svc hs (allocate_short cfg uv d _ hnone)
      exact h.set_service halloc ha' hstarve (fun _ => rfl)
    · unfold pipeOnDataAvailable
      split
      · exact h.close _ a _ halloc hc (hq (by rw [hk]; exact Or.inl rfl) _ halloc hc ha')
      · rename_i bs
        dsimp only
        split
        · rename_i hnil
          have hends : (ReadResult.data bs).Ends cfg svc.kind := by
            rw [hk]
            exact Or.inr ⟨bs,rfl,hnil⟩
          exact h.close _ a _ halloc hc (hq hends _ halloc hc ha')
        · have hstop : Change (adbHalApacketAllocate cfg uv d).2 a svc
              { svc with kind := .shell true, stream := svc.stream.readStop } :=
            change_read_stop _ a svc _ (fun hw => by
              rw [hk] at hw
              exact ⟨by simp [UvStream.readStop, hst],hw.2⟩)
          exact h.send _ (h.set_service halloc ha' hstop (fun hu => by cases hu))

theorem tcp_on_data (h : GuardsAll cfg fs uv Q I) {a : ℕ} {svc : Service} {state : StreamState}
    (up : ApacketUv) (hd : I d) (hc : d.crashed = false) (ha : d.alive a = some svc)
    (hk : svc.kind = .tcp state) (hst : svc.stream.starved = false)
    (hq : state ≠ .connected ∨ up.p.msg.dataLength = 0 → Q d a) :
    I (tcpStreamOnDataCb fs uv d a svc state up) := by
  unfold tcpStreamOnDataCb
  split
  · rename_i hstate
    exact h.close _ a _ hd hc (hq (Or.inl hstate))
  · rename_i hstate
    rw [not_not.mp hstate] at hk
    split
    · rename_i hzero
      exact h.close _ a _ hd hc (hq (Or.inr hzero))
    · refine h.send _ (h.set_service hd ha (change_read_stop _ a svc _ (fun hw => ?_))
        (fun hu => absurd hu (not_unconnected (by decide))))
      rw [hk] at hw
      refine ⟨by simp [UvStream.readStop, hst],fun hwr => ?_,fun hcon => ?_,fun _ => by decide⟩
      · exact (hw.2.1 hwr).trans (by decide)
      · have hcon := hw.2.2.1 hcon
        cases hcon

theorem tcp_read (h : GuardsAll cfg fs uv Q I) {a : ℕ} {svc : Service} {state : StreamState}
    (r : ReadResult) (hd : I d) (ha : d.alive a = some svc) (hk : svc.kind = .tcp state)
    (hs : svc.stream.active = true) (hst : svc.stream.starved = false)
    (hq : r.Ends cfg svc.kind → ∀ d' s, I d' → d'.crashed = false →
      d'.alive a = some { svc with stream := s } → s.writes = svc.stream.writes →
      s.connecting = svc.stream.connecting → s.closing = svc.stream.closing → Q d' a) :
    I (tcpRead cfg fs uv d a svc state r) := by
  have halloc : I (adbHalApacketAllocate cfg uv d).2 := h.allocate false hd
  have ha' : (adbHalApacketAllocate cfg uv d).2.alive a = some svc :=
    (allocate_alive cfg uv d false a).trans ha
  have hfreed := ((alive_iff _ _ _).mp ha).2
  unfold tcpRead
  refine keeps_next halloc (fun hc => ?_)
  split
  · rename_i hnone
    have hnone : (adbUvPacketAllocate cfg uv d false).1 = none := by
      simpa [adbHalApacketAllocate] using hnone
    have hstarve := change_starve _ a svc hs (allocate_short cfg uv d _ hnone)
    exact h.set_service halloc ha' hstarve (fun _ => rfl)
  · unfold tcpStreamOnDataAvailable
    dsimp only
    split
    · exact h.tcp_on_data _ halloc hc ha' hk hst
        (fun _ => hq (by rw [hk]; exact Or.inl rfl) _ _ halloc hc ha' rfl rfl rfl)
    · rename_i bs
      split
      · exact h.release _ _ halloc hc
      · rename_i hne
        have hends : state ≠ .connected ∨ (bs.take cfg.payloadSize).length = 0 →
            (ReadResult.data bs).Ends cfg svc.kind := by
          rintro (hstate | hzero)
          · rw [hk]
            exact Or.inr hstate
          · exact absurd (List.length_eq_zero_iff.mp hzero) hne
        have hstop := h.set_service halloc ha'
          (change_read_stop _ a svc svc.kind (fun hw => by
            rw [hk] at hw ⊢
            exact ⟨by simp [UvStream.readStop, hst],hw.2⟩)) (fun _ => rfl)
        have ha'' : ((adbHalApacketAllocate cfg uv d).2.setService a
            { svc with stream := svc.stream.readStop }).alive a =
            some { svc with stream := svc.stream.readStop } := set_service_alive _ a _ hfreed
        exact h.tcp_on_data _ hstop hc ha'' hk hst
          (fun hend => hq (hends hend) _ _ hstop hc ha'' rfl rfl rfl)

theorem service_after_write (h : GuardsAll cfg fs uv Q I) {a : ℕ} (up : ApacketUv)
    (fail : Bool) (hd : I d) (hc : d.crashed = false) (hq : fail = true → Q d a) :
    I (serviceAfterWrite fs uv d a up fail) := by
  unfold serviceAfterWrite
  split
  · rename_i hfail
    exact h.close _ a _ hd hc (hq hfail)
  · exact h.with_service hd (fun svc _ => h.send _ hd)

end GuardsAll

/-- The oldest request of a stream has called back. -/
theorem change_pop (d : Daemon ω) (a : ℕ) (svc : Service) (up : ApacketUv)
    (rest : List ApacketUv) (hw : svc.stream.writes = up :: rest) :
    Change d a svc { svc with stream := { svc.stream with writes := rest } } := by
  refine ⟨rfl,rfl,fun h => ⟨⟨h.stream.starved,h.stream.closing⟩,?_,h.freed,fun he => ?_⟩,Or.inl,
    fun hq => ?_,fun _ => rfl⟩
  · have hkind := h.kind
    cases hk : svc.kind with
    | sync s =>
      rw [hk] at hkind
      rw [hkind.2.2.1] at hw
      cases hw
    | tcp state =>
      rw [hk] at hkind
      exact ⟨hkind.1,fun _ => hkind.2.1 (by rw [hw]; exact List.cons_ne_nil _ _),hkind.2.2⟩
    | shell waitAck =>
      rw [hk] at hkind
      exact hkind
  · rw [(h.exiting he).2.1] at hw
    cases hw
  · rw [hq.1] at hw
    cases hw

/-- The connection of a tcp service was made, or it failed. -/
theorem change_connected (d : Daemon ω) (a : ℕ) (svc : Service) {state : StreamState}
    (hk : svc.kind = .tcp state) (hcon : svc.stream.connecting = true) (id : ℕ)
    (state' : StreamState) :
    Change d a svc
      { svc with
        id := id, kind := .tcp state', stream := { svc.stream with connecting := false } } := by
  refine ⟨rfl,rfl,fun hw => ⟨⟨hw.stream.starved,hw.stream.closing⟩,?_,hw.freed,
    fun he => ⟨(hw.exiting he).1,(hw.exiting he).2.1,rfl⟩⟩,Or.inl,
    fun hquiet => ⟨hquiet.1,rfl⟩,fun _ => rfl⟩
  have hwk := hw.kind
  rw [hk] at hwk
  have hstate := hwk.2.2.1 hcon
  subst hstate
  refine ⟨fun hr => ?_,fun hwr => ?_,by simp,fun hcl => ?_⟩
  · have hr := hwk.1 hr
    cases hr
  · exact absurd (hwk.2.1 hwr) (by decide)
  · exact absurd (hwk.2.2.2 hcl) (by decide)

namespace GuardsAll

theorem stream_written (h : GuardsAll cfg fs uv Q I) {a : ℕ} {svc : Service} (fail : Bool)
    (hd : I d) (hc : d.crashed = false) (ha : d.alive a = some svc)
    (hq : ∀ up rest, svc.stream.writes = up :: rest → fail = true →
      Q (d.setService a { svc with stream := { svc.stream with writes := rest } }) a) :
    I (streamWritten fs uv d a svc fail) := by
  unfold streamWritten
  split
  · exact hd
  · rename_i up rest hw
    have hpop := h.set_service hd ha (change_pop d a svc up rest hw) (fun _ => rfl)
    exact h.service_after_write up _ hpop hc (hq up rest hw)

theorem stream_connected (h : GuardsAll cfg fs uv Q I) {a : ℕ} {svc : Service} (fail : Bool)
    (hd : I d) (ha : d.alive a = some svc) (hcon : svc.stream.connecting = true)
    (hfail : ∀ state, svc.kind = .tcp state → I (d.setService a (connectFailed svc)) ∨
      fail = false ∧ state = .notConnected)
    (hq : ∀ d' state, I d' → d'.crashed = false → svc.kind = .tcp state →
      d'.alive a = some (connectFailed svc) → Q d' a) :
    I (streamConnected cfg fs uv d a svc fail) := by
  have hfreed := ((alive_iff _ _ _).mp ha).2
  unfold streamConnected
  split
  · rename_i state hk
    dsimp only
    unfold tcpStreamOnConnectCb
    split
    · rename_i hfails
      have hset : I (d.setService a (connectFailed svc)) := by
        rcases hfail state hk with hset | ⟨hok,hstate⟩
        · exact hset
        · rcases hfails with hf | hne
          · rw [hok] at hf
            cases hf
          · exact absurd hstate hne
      refine h.try_close hset (fun d' hd' hc' ha' => hq d' state hd' hc' hk (ha'.trans ?_))
      exact set_service_alive d a (connectFailed svc) hfreed
    · have hset := h.set_service hd ha (change_connected d a svc hk hcon svc.id .notifyClient)
        (fun hu => absurd hu (not_unconnected (by decide)))
      refine h.try_connect hset (fun svc' ha' => ?_)
      obtain rfl := Option.some.inj (ha'.symm.trans (set_service_alive d a _ hfreed))
      rfl
  · exact hd

theorem stream_closed (h : GuardsAll cfg fs uv Q I) {a : ℕ} {svc : Service} (hd : I d)
    (ha : d.alive a = some svc) (hcl : svc.stream.closing = true) (hquiet : svc.stream.Quiet)
    (hfree : (∃ state, svc.kind = .tcp state) → I (freeService d a svc)) :
    I (streamClosed d a svc) := by
  unfold streamClosed
  split
  · rename_i state hk
    exact hfree ⟨state,hk⟩
  · have hexit : Change d a svc { svc with exiting := true } :=
      ⟨rfl,rfl,fun hw => ⟨hw.stream,hw.kind,hw.freed,fun _ => ⟨hcl,hquiet⟩⟩,Or.inl,id,fun _ => rfl⟩
    exact h.set_service hd ha hexit (fun _ => rfl)
  · exact hd

end GuardsAll

/-! The end of the client. -/

/-- I is an invariant of the end of the client. -/
structure GuardsClose (cfg : Config) (fs : FileSystem ω) (uv : Uv ω) (Q : Daemon ω → ℕ → Prop)
    (I : Daemon ω → Prop) : Prop extends GuardsAll cfg fs uv Q I where
  drop : ∀ d, I d → I { d with curPacket := none }
  free_client : ∀ d, I d → d.crashed = false → d.services = [] →
    I ({ d with gone := true }.emit .clientFreed)

namespace GuardsClose

/-- Two invariants at once. -/
theorem and (h : GuardsClose cfg fs uv Q I) (h' : GuardsClose cfg fs uv Q J) :
    GuardsClose cfg fs uv Q (fun d => I d ∧ J d) where
  deed d d' hd ha := ⟨h.deed d d' hd.1 ha,h'.deed d d' hd.2 ha⟩
  close d a up hd hc hq := ⟨h.close d a up hd.1 hc hq,h'.close d a up hd.2 hc hq⟩
  release d a hd hc := ⟨h.release d a hd.1 hc,h'.release d a hd.2 hc⟩
  drop d hd := ⟨h.drop d hd.1,h'.drop d hd.2⟩
  free_client d hd hc hs := ⟨h.free_client d hd.1 hc hs,h'.free_client d hd.2 hc hs⟩

theorem destroy_loop (h : GuardsClose cfg fs uv Q I) (l : List ℕ) (hd : I d)
    (hc : d.crashed = false) (hl : d.services = l)
    (hq : ∀ d' a rest, I d' → d'.crashed = false → d'.services = a :: rest → Q d' a ∧
      ((adbServiceClose fs uv d' a none).crashed = false →
        (adbServiceClose fs uv d' a none).services = rest)) :
    I (destroyLoop fs uv l d) := by
  induction l generalizing d with
  | nil => exact h.free_client d hd hc hl
  | cons a rest ih =>
    obtain ⟨hqa,hrest⟩ := hq d a rest hd hc hl
    have hclose := h.close d a none hd hc hqa
    exact keeps_next hclose (fun hc' => ih hclose hc' (hrest hc'))

theorem uv_close_client (h : GuardsClose cfg fs uv Q I) (hd : I d) (hc : d.crashed = false)
    (hq : ∀ d' a rest, I d' → d'.crashed = false → d'.services = a :: rest → Q d' a ∧
      ((adbServiceClose fs uv d' a none).crashed = false →
        (adbServiceClose fs uv d' a none).services = rest)) :
    I (adbUvCloseClient cfg fs uv d) := by
  unfold adbUvCloseClient adbDestroyClient
  split
  · rename_i ap _
    have hrelease := h.release d ap.addr hd hc
    refine keeps_next hrelease (fun hc' => ?_)
    exact h.destroy_loop _ (h.drop _ hrelease) hc' rfl hq
  · exact h.destroy_loop _ hd hc rfl hq

end GuardsClose

/-! Callbacks. -/

/-- What a callback of libuv is: nothing where its request or handle is not there, the code that
is called for it, or an access to a service that was freed. -/
inductive Callback (cfg : Config) (fs : FileSystem ω) (uv : Uv ω) (d : Daemon ω) :
    Input → Daemon ω → Prop
  | none (i : Input) : Callback cfg fs uv d i d
  | transportRead (r : ReadResult) (hact : d.socket.active = true) :
    Callback cfg fs uv d (.transportRead r) (transportRead cfg fs uv d r)
  | transportWritten (fail : Bool) (up : ApacketUv) (rest : List ApacketUv)
      (hw : d.socket.writes = up :: rest) :
    Callback cfg fs uv d (.transportWritten fail)
      (adbUvAfterWrite cfg fs uv (d.setSocket { d.socket with writes := rest }) up fail)
  | transportClosed (hcl : d.socket.closing = true) (hw : d.socket.writes = [])
      (hg : d.gone = false) :
    Callback cfg fs uv d .transportClosed (adbUvCloseClient cfg fs uv d)
  | touched (i : Input) (a : ℕ) (svc : Service) (ha : d.heap a = some svc)
      (hs : svc.stream.active = true ∨ svc.stream.writes ≠ [] ∨ svc.stream.connecting = true)
      (hf : svc.freed = true) :
    Callback cfg fs uv d i (d.fault .useAfterFree)
  | streamRead (a : ℕ) (r : ReadResult) (svc : Service) (ha : d.alive a = some svc)
      (hact : svc.stream.active = true) :
    Callback cfg fs uv d (.streamRead a r) (streamRead cfg fs uv d a svc r)
  | streamWritten (a : ℕ) (fail : Bool) (svc : Service) (ha : d.alive a = some svc)
      (hw : svc.stream.writes ≠ []) :
    Callback cfg fs uv d (.streamWritten a fail) (streamWritten fs uv d a svc fail)
  | connected (a : ℕ) (fail : Bool) (svc : Service) (ha : d.alive a = some svc)
      (hcon : svc.stream.connecting = true) :
    Callback cfg fs uv d (.connected a fail) (streamConnected cfg fs uv d a svc fail)
  | streamClosed (a : ℕ) (svc : Service) (ha : d.alive a = some svc)
      (hcl : svc.stream.closing = true) (hquiet : svc.stream.Quiet) :
    Callback cfg fs uv d (.streamClosed a) (streamClosed d a svc)
  | processClosed (a : ℕ) (svc : Service) (ha : d.alive a = some svc)
      (hex : svc.exiting = true) :
    Callback cfg fs uv d (.processClosed a) (freeService d a svc)

theorem callback_touch {i : Input} {a : ℕ} {svc : Service} {f : Daemon ω → Daemon ω}
    (ha : d.heap a = some svc)
    (hs : svc.stream.active = true ∨ svc.stream.writes ≠ [] ∨ svc.stream.connecting = true)
    (hf : d.alive a = some svc → Callback cfg fs uv d i (f d)) :
    Callback cfg fs uv d i (touchFreed d svc f) := by
  unfold touchFreed
  split
  · rename_i hfreed
    exact .touched i a svc ha hs hfreed
  · rename_i hfreed
    exact hf ((alive_iff d a svc).mpr ⟨ha,by simpa using hfreed⟩)

theorem step_callback (cfg : Config) (fs : FileSystem ω) (uv : Uv ω) (d : Daemon ω) (i : Input)
    (hc : d.crashed = false) : Callback cfg fs uv d i (step cfg fs uv d i) := by
  have halive (a : ℕ) (svc : Service) (ha : d.heap a = some svc) (hf : svc.freed = false) :
      d.alive a = some svc := (alive_iff d a svc).mpr ⟨ha,hf⟩
  unfold step
  rw [if_neg (by simp [hc])]
  cases i with
  | transportRead r =>
    dsimp only
    split
    · exact .transportRead r ‹_›
    · exact .none _
  | transportWritten fail =>
    dsimp only
    split
    · exact .none _
    · exact .transportWritten fail _ _ ‹_›
  | transportClosed =>
    dsimp only
    split
    · rename_i hcl
      exact .transportClosed hcl.1 hcl.2.1 hcl.2.2
    · exact .none _
  | streamRead a r =>
    dsimp only
    split
    · rename_i svc ha
      split
      · rename_i hact
        exact callback_touch ha (Or.inl hact) (fun ha' => .streamRead a r svc ha' hact)
      · exact .none _
    · exact .none _
  | streamWritten a fail =>
    dsimp only
    split
    · rename_i svc ha
      split
      · exact .none _
      · rename_i hw
        exact callback_touch ha (Or.inr (Or.inl hw)) (fun ha' => .streamWritten a fail svc ha' hw)
    · exact .none _
  | connected a fail =>
    dsimp only
    split
    · rename_i svc ha
      split
      · rename_i hcon
        exact callback_touch ha (Or.inr (Or.inr hcon)) (fun ha' => .connected a fail svc ha' hcon)
      · exact .none _
    · exact .none _
  | streamClosed a =>
    dsimp only
    split
    · rename_i svc ha
      split
      · rename_i hcl
        exact .streamClosed a svc (halive a svc ha hcl.2.2.2) hcl.1 hcl.2.1
      · exact .none _
    · exact .none _
  | processClosed a =>
    dsimp only
    split
    · rename_i svc ha
      split
      · rename_i hex
        exact .processClosed a svc (halive a svc ha hex.2) hex.1
      · exact .none _
    · exact .none _

/-- The calls of adb_service_close in a callback, kicks apart, happen where Q holds. -/
def StepCloses (cfg : Config) (Q : Daemon ω → ℕ → Prop)
    (I : Daemon ω → Prop) (d : Daemon ω) : Input → Prop
  | .transportRead _ | .transportWritten _ | .transportClosed => True
  | .streamRead a r => ∀ svc, d.alive a = some svc → svc.stream.active = true →
      r.Ends cfg svc.kind → ∀ d' s, I d' → d'.crashed = false →
        d'.alive a = some { svc with stream := s } → s.writes = svc.stream.writes →
        s.connecting = svc.stream.connecting → s.closing = svc.stream.closing → Q d' a
  | .streamWritten a fail => ∀ svc up rest, d.alive a = some svc →
      svc.stream.writes = up :: rest → fail = true →
      Q (d.setService a { svc with stream := { svc.stream with writes := rest } }) a
  | .connected a _ => ∀ svc state, d.alive a = some svc → svc.stream.connecting = true →
      svc.kind = .tcp state →
      ∀ d', I d' → d'.crashed = false → d'.alive a = some { svc with
        kind := .tcp .errorClose, id := 0, stream := { svc.stream with connecting := false } } →
      Q d' a
  | .streamClosed _ | .processClosed _ => True

/-- adb_uv_after_write closes the transport. -/
def WriteFails (d : Daemon ω) : Input → Prop
  | .transportWritten fail => d.socket.writes ≠ [] ∧ fail = true
  | _ => False

/-- A connection fails in a callback only where I holds behind it. -/
def ConnectAllows (I : Daemon ω → Prop) (d : Daemon ω) : Input → Prop
  | .connected a fail => ∀ svc state, d.alive a = some svc → svc.stream.connecting = true →
      svc.kind = .tcp state → I (d.setService a (connectFailed svc)) ∨
        fail = false ∧ state = .notConnected
  | _ => True

/-- The service at a is freed by the close callback of the last of its handles. -/
def LastCallback (svc : Service) (a : ℕ) (i : Input) : Prop :=
  svc.stream.closing = true ∧ svc.stream.Quiet ∧
    (i = .streamClosed a ∧ (∃ state, svc.kind = .tcp state) ∨
      i = .processClosed a ∧ svc.exiting = true)

/-- A callback keeps I, and ends where J holds if it closes the transport. -/
theorem GuardsAll.step (h : GuardsAll cfg fs uv Q I) (i : Input) (hd : I d)
    (hJ : Aftermath W I J (WriteFails d i)) (hw : W .writeFailed)
    (hpop : ∀ fail up rest, i = .transportWritten fail → d.socket.writes = up :: rest →
      I (d.setSocket { d.socket with writes := rest }))
    (hread : ∀ r, i = .transportRead r → d.crashed = false → d.socket.active = true →
      J (transportRead cfg fs uv d r))
    (hclosed : i = .transportClosed → d.crashed = false → d.socket.closing = true →
      d.socket.writes = [] → d.gone = false → I (adbUvCloseClient cfg fs uv d))
    (hwf : d.crashed = false → ∀ a svc, d.heap a = some svc → svc.Wf)
    (hq : StepCloses cfg Q I d i) (hfail : ConnectAllows I d i)
    (hfree : ∀ a svc, d.alive a = some svc → LastCallback svc a i → I (freeService d a svc)) :
    J (step cfg fs uv d i) := by
  by_cases hrun : d.crashed = true
  · rw [show MicroADB.step cfg fs uv d i = d from if_pos hrun]
    exact hJ.keep _ hd
  have hc : d.crashed = false := by simpa using hrun
  have hcall := step_callback cfg fs uv d i hc
  generalize MicroADB.step cfg fs uv d i = d' at hcall
  cases hcall with
  | none => exact hJ.keep _ hd
  | transportRead r hact => exact hread r rfl hc hact
  | transportWritten fail up rest hwrites =>
    have hfails (hf : fail = true) :
        WriteFails d (.transportWritten fail) := ⟨by simp [hwrites],hf⟩
    exact h.after_write _ _ (hJ.mono hfails) hw (hpop fail up rest rfl hwrites) hc
  | transportClosed hcl hwrites hg => exact hJ.keep _ (hclosed rfl hc hcl hwrites hg)
  | touched => exact hJ.keep _ (h.calmly hd (calmly_fault d _ rfl rfl))
  | streamRead a r svc ha hact =>
    apply hJ.keep
    -- libuv does not read a stream that waits for memory
    have hst : svc.stream.starved = false := by
      by_contra hst
      have hheap := ((alive_iff d a svc).mp ha).1
      have hoff := (hwf hc a svc hheap).stream.starved (by simpa using hst)
      rw [hact] at hoff
      cases hoff
    unfold streamRead
    split
    · exact hd
    · rename_i state hk
      exact h.tcp_read r hd ha hk hact hst (hq svc ha hact)
    · rename_i waitAck hk
      exact h.shell_read r hd ha hk hact hst
        (fun hend d' hd' hc' ha' => hq svc ha hact hend d' svc.stream hd' hc' ha' rfl rfl rfl)
  | streamWritten a fail svc ha hwrites =>
    exact hJ.keep _ (h.stream_written fail hd hc ha (fun up rest => hq svc up rest ha))
  | connected a fail svc ha hcon =>
    apply hJ.keep
    exact h.stream_connected fail hd ha hcon (fun state hk => hfail svc state ha hcon hk)
      (fun d' state hd' hc' hk => hq svc state ha hcon hk d' hd' hc')
  | streamClosed a svc ha hcl hquiet =>
    apply hJ.keep
    exact h.stream_closed hd ha hcl hquiet
      (fun hk => hfree a svc ha ⟨hcl,hquiet,Or.inl ⟨rfl,hk⟩⟩)
  | processClosed a svc ha hex =>
    obtain ⟨hcl,hquiet⟩ := (hwf hc a svc ((alive_iff d a svc).mp ha).1).exiting hex
    exact hJ.keep _ (hfree a svc ha ⟨hcl,hquiet,Or.inr ⟨rfl,hex⟩⟩)

end MicroADB
