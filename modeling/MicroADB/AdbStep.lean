import MicroADB.AdbGuard

/-! Invariants for which it does not matter whether something fails: an invariant of the acts, of
the end of a service and of the release of a packet is an invariant of every callback. -/
namespace MicroADB
open ByteMemory EventRun

variable {ω : Type} {cfg : Config} {fs : FileSystem ω} {uv : Uv ω} {Q : Daemon ω → ℕ → Prop}
  {I J : Daemon ω → Prop} {d d' : Daemon ω}

/-- I is an invariant of the acts, and of adb_service_close where Q holds. -/
structure Keeps (cfg : Config) (fs : FileSystem ω) (uv : Uv ω) (Q : Daemon ω → ℕ → Prop)
    (I : Daemon ω → Prop) : Prop where
  act : ∀ d d', I d → Act cfg uv d d' → I d'
  close : ∀ d a up, I d → d.crashed = false → Q d a → I (adbServiceClose fs uv d a up)

/-- I is an invariant of the release of a packet as well. -/
structure KeepsAll (cfg : Config) (fs : FileSystem ω) (uv : Uv ω) (Q : Daemon ω → ℕ → Prop)
    (I : Daemon ω → Prop) : Prop extends Keeps cfg fs uv Q I where
  release : ∀ d a, I d → d.crashed = false → I (adbHalApacketRelease cfg fs uv d a)

/-- I is an invariant of adb_process_packet. -/
structure KeepsFrames (cfg : Config) (fs : FileSystem ω) (uv : Uv ω) (Q : Daemon ω → ℕ → Prop)
    (I : Daemon ω → Prop) : Prop extends KeepsAll cfg fs uv Q I where
  frame : ∀ d d', I d → FrameAct d d' → I d'
  connected : ∀ d, I d → I { d with isConnected := true }

/-- I is an invariant of the callbacks of the services and of a write of the transport. -/
structure KeepsStep (cfg : Config) (fs : FileSystem ω) (uv : Uv ω) (Q : Daemon ω → ℕ → Prop)
    (I : Daemon ω → Prop) : Prop extends KeepsAll cfg fs uv Q I where
  free : ∀ d a svc, I d → d.alive a = some svc → svc.stream.closing = true →
    svc.stream.Quiet → I (freeService d a svc)

/-- I is an invariant of the end of the client. -/
structure KeepsClose (cfg : Config) (fs : FileSystem ω) (uv : Uv ω) (Q : Daemon ω → ℕ → Prop)
    (I : Daemon ω → Prop) : Prop extends KeepsAll cfg fs uv Q I where
  drop : ∀ d, I d → I { d with curPacket := none }
  free_client : ∀ d, I d → d.crashed = false → d.services = [] →
    I ({ d with gone := true }.emit .clientFreed)

/-- I is an invariant of the reads of the transport. -/
structure KeepsReads (cfg : Config) (fs : FileSystem ω) (uv : Uv ω) (Q : Daemon ω → ℕ → Prop)
    (I : Daemon ω → Prop) : Prop extends KeepsFrames cfg fs uv Q I where
  receives : ∀ d d', I d → Receives d d' → I d'
  starve : ∀ d, I d → Short d.log → I (d.setSocket d.socket.starve)
  bad_close : ∀ d why, I d → I (opsClose d why)

namespace Keeps

theorem quietly (h : Keeps cfg fs uv Q I) (hd : I d) (hq : Quietly d d') : I d' :=
  h.act _ _ hd (.quietly _ _ hq)

theorem set_service (h : Keeps cfg fs uv Q I) {a : ℕ} {svc svc' : Service} (hd : I d)
    (ha : d.alive a = some svc) (hc : Change d a svc svc') : I (d.setService a svc') :=
  h.act _ _ hd (.service d a svc svc' ha hc)

/-- A deed consists of acts. -/
theorem guards (h : Keeps cfg fs uv Q I) : Guards cfg fs uv Q I where
  deed d d' hd hdeed := by
    cases hdeed with
    | calmly _ hc => exact h.quietly hd hc.quietly
    | send up => exact h.quietly hd (quietly_send_frame uv d up)
    | outOfMemory hnone =>
      have hmem := h.act _ _ hd (.outOfMemory d hnone)
      exact h.quietly (h.quietly hmem (quietly_os _ _)) (quietly_ops_close _ _ rfl)
    | alloc cap init hlt => exact h.act _ _ hd (.alloc d cap init hlt)
    | refuse hle => exact h.act _ _ hd (.refuse d hle)
    | service a svc svc' ha hc _ => exact h.set_service hd ha hc
  close := h.close

/-- The transport is closed quietly, whatever the reason but the data of the host. -/
theorem aftermath (h : Keeps cfg fs uv Q I) (p : Prop) :
    Aftermath (fun why => (Event.close why).plain = true) I I p :=
  ⟨fun _ hd => hd,fun _ _ _ hw hd _ => h.quietly hd (quietly_ops_close _ _ hw)⟩

theorem with_service (h : Keeps cfg fs uv Q I) {a : ℕ} {f : Service → Daemon ω} (hd : I d)
    (hf : ∀ svc, d.alive a = some svc → I (f svc)) : I (d.withService a f) :=
  h.guards.with_service hd hf

theorem allocate (h : Keeps cfg fs uv Q I) (b : Bool) (hd : I d) :
    I (adbUvPacketAllocate cfg uv d b).2 :=
  h.guards.allocate b hd

theorem tcp_uv_kick (h : Keeps cfg fs uv Q I)
    (hq : ∀ d' a svc, I d' → d'.crashed = false → d'.alive a = some svc →
      svc.kind = .tcp .errorClose → Q d' a) (hd : I d) : I (tcpUvKick cfg fs uv d) :=
  h.guards.tcp_uv_kick hq hd

end Keeps

theorem Keeps.keeps_all (h : Keeps cfg fs uv Q I)
    (hq : ∀ d' a svc, I d' → d'.crashed = false → d'.alive a = some svc →
      svc.kind = .tcp .errorClose → Q d' a)
    (hassert : ∀ d, I d → I (d.fault .frameCount))
    (hfree : ∀ d a n, I d → I (setFrameCount (freePacket d a) n)) : KeepsAll cfg fs uv Q I :=
  ⟨h,(h.guards.guards_all hq hassert hfree).release⟩

theorem KeepsAll.guards_all (h : KeepsAll cfg fs uv Q I) : GuardsAll cfg fs uv Q I :=
  ⟨h.guards,h.release⟩

/-! Frames of the host. -/

namespace KeepsFrames

theorem guards_frames (h : KeepsFrames cfg fs uv Q I) : GuardsFrames cfg fs uv Q I :=
  ⟨h.guards_all,h.frame,h.connected⟩

/-- A start-up that loses a handle is quiet. -/
theorem lost (h : KeepsFrames cfg fs uv Q I) (hd : I d) (os : ω) :
    I ((d.setOs os).emit .handleLost) :=
  h.quietly (h.quietly hd (quietly_os d os)) (quietly_emit _ _ rfl)

theorem after_open (h : KeepsFrames cfg fs uv Q I) (r : Option ℕ × ApacketUv × Daemon ω)
    (hd : I r.2.2) : I (afterOpen cfg fs uv r) :=
  h.guards_frames.after_open r hd

theorem process_packet (h : KeepsFrames cfg fs uv Q I) (up : ApacketUv)
    (hd : I (d.emit (.handed d.isConnected up.p.msg up.p.payload))) (hc : d.crashed = false)
    (hq : FrameCloses cfg fs uv Q (d.emit (.handed d.isConnected up.p.msg up.p.payload))
      (up.setWriteLen 0)) :
    I (adbProcessPacket cfg fs uv d up) :=
  h.guards_frames.process_packet up (h.aftermath _) rfl rfl hd hc ⟨hq,fun _ _ => h.lost hd⟩

end KeepsFrames

/-! Two invariants at once. -/

theorem KeepsAll.and (h : KeepsAll cfg fs uv Q I) (h' : KeepsAll cfg fs uv Q J) :
    KeepsAll cfg fs uv Q (fun d => I d ∧ J d) where
  act d d' hd ha := ⟨h.act d d' hd.1 ha,h'.act d d' hd.2 ha⟩
  close d a up hd hc hq := ⟨h.close d a up hd.1 hc hq,h'.close d a up hd.2 hc hq⟩
  release d a hd hc := ⟨h.release d a hd.1 hc,h'.release d a hd.2 hc⟩

theorem KeepsClose.and (h : KeepsClose cfg fs uv Q I) (h' : KeepsClose cfg fs uv Q J) :
    KeepsClose cfg fs uv Q (fun d => I d ∧ J d) where
  toKeepsAll := h.toKeepsAll.and h'.toKeepsAll
  drop d hd := ⟨h.drop d hd.1,h'.drop d hd.2⟩
  free_client d hd hc hs := ⟨h.free_client d hd.1 hc hs,h'.free_client d hd.2 hc hs⟩

/-! Reads of the transport. -/

namespace KeepsReads

theorem guards_reads (h : KeepsReads cfg fs uv Q I) : GuardsReads cfg fs uv Q I :=
  ⟨h.guards_frames,h.receives,h.starve⟩

theorem aftermath (h : KeepsReads cfg fs uv Q I) (p : Prop) : Aftermath (fun _ => True) I I p :=
  ⟨fun _ hd => hd,fun _ d why _ hd _ => h.bad_close d why hd⟩

theorem received {n : Option ApacketUv × Daemon ω} (h : Received I I n) : I n.2 := by
  unfold Received at h
  split at h <;> exact h

theorem receive (h : KeepsReads cfg fs uv Q I) (r : ReadResult) (hd : I d) :
    I (receive cfg fs uv d r).2 :=
  received (h.guards_reads.receive r (h.aftermath _) (fun _ => trivial) hd)

theorem transport_read (h : KeepsReads cfg fs uv Q I) (r : ReadResult) (hd : I d)
    (hq : ∀ up d', MicroADB.receive cfg fs uv d r = (some up, d') → d'.crashed = false →
      FrameCloses cfg fs uv Q (d'.emit (.handed d'.isConnected up.p.msg up.p.payload))
        (up.setWriteLen 0)) :
    I (transportRead cfg fs uv d r) := by
  refine h.guards_reads.transport_read r (fun _ => trivial) hd (h.aftermath _)
    (fun _ _ _ _ => h.aftermath _) (fun up d' hr hc => ⟨hq up d' hr hc,fun _ _ => h.lost ?_⟩)
  have hd' : I d' := by
    have hreceive := h.receive r hd
    rw [hr] at hreceive
    exact hreceive
  exact h.receives _ _ hd' ⟨rfl,rfl,rfl,rfl,rfl,rfl,rfl,rfl,rfl,id,Or.inr (Or.inr ⟨_,_,_,rfl⟩)⟩

end KeepsReads

/-! Callbacks, and the end of the client. -/

theorem KeepsClose.guards_close (h : KeepsClose cfg fs uv Q I) : GuardsClose cfg fs uv Q I :=
  ⟨h.guards_all,h.drop,h.free_client⟩

theorem KeepsClose.uv_close_client (h : KeepsClose cfg fs uv Q I) (hd : I d)
    (hc : d.crashed = false)
    (hq : ∀ d' a rest, I d' → d'.crashed = false → d'.services = a :: rest → Q d' a ∧
      ((adbServiceClose fs uv d' a none).crashed = false →
        (adbServiceClose fs uv d' a none).services = rest)) :
    I (adbUvCloseClient cfg fs uv d) :=
  h.guards_close.uv_close_client hd hc hq

/-- Every callback keeps I. -/
theorem KeepsStep.step (h : KeepsStep cfg fs uv Q I) (i : Input) (hd : I d)
    (hread : ∀ r, i = .transportRead r → d.crashed = false → d.socket.active = true →
      I (transportRead cfg fs uv d r))
    (hclosed : i = .transportClosed → d.crashed = false → d.socket.closing = true →
      d.socket.writes = [] → d.gone = false → I (adbUvCloseClient cfg fs uv d))
    (hwf : d.crashed = false → ∀ a svc, d.heap a = some svc → svc.Wf)
    (hq : StepCloses cfg Q I d i) : I (step cfg fs uv d i) := by
  refine h.guards_all.step i hd (h.aftermath _) rfl
    (fun _ _ rest _ _ => h.quietly hd (quietly_pop d rest)) hread hclosed hwf hq ?_
    (fun a svc ha hlast => h.free d a svc hd ha hlast.1 hlast.2.1)
  -- a connection that fails is one more change of the service
  cases i with
  | connected a fail =>
    intro svc state ha hcon hk
    exact Or.inl (h.set_service hd ha (change_connected d a svc hk hcon 0 .errorClose))
  | _ => trivial

end MicroADB
