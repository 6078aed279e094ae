import MicroADB.AdbCapacity
import MicroADB.AdbKick
import MicroADB.AdbMoveFrames

/-! Which service a frame reaches. One search serves three handlers: its wildcard, the peer id 0,
comes from the wire for WRTE and CLSE, and an OKAY is always searched with it. -/
namespace MicroADB
open ByteMemory EventRun

variable {ω : Type} {cfg : Config} {fs : FileSystem ω} {uv : Uv ω} {d d' : Daemon ω}
  {up : ApacketUv} {a : ℕ} {svc : Service}

/-- A service is acknowledged, written to or closed. -/
def Event.reach : Event → Option ℕ
  | .onAck a | .onWrite a | .serviceClose a true => some a
  | _ => none

/-- The service that a frame reaches: the first event behind its hand-over. -/
def reached (cfg : Config) (fs : FileSystem ω) (uv : Uv ω) (d : Daemon ω) (up : ApacketUv) :
    Option ℕ :=
  ((since d (adbProcessPacket cfg fs uv d up))[1]?).bind Event.reach

/-- A list of services in memory with different ids. -/
structure Addressed (d : Daemon ω) : Prop where
  alive : ∀ a ∈ d.services, ∃ svc, d.alive a = some svc
  ids : ∀ a ∈ d.services, ∀ svc, d.alive a = some svc → svc.id ≠ 0
  distinct : ∀ a b svc svc', a ∈ d.services → b ∈ d.services → d.alive a = some svc →
    d.alive b = some svc' → svc.id = svc'.id → a = b

/-- A frame moves the stream it names and no other. -/
structure Routed (cfg : Config) (fs : FileSystem ω) (uv : Uv ω) (d : Daemon ω) (up : ApacketUv) :
    Prop where
  ids : ∀ a, reached cfg fs uv d up = some a → a ∈ d.services ∧ ∃ svc, d.alive a = some svc ∧
    svc.id = up.p.msg.arg1 ∧ (svc.peerId = up.p.msg.arg0 ∨
      (up.p.msg.command = aOkay ∧ svc.peerId = 0) ∨ (up.p.msg.command = aClse ∧ up.p.msg.arg0 = 0))
  /-- An OKAY gives its arg0 to a service without a peer id. -/
  adopted : ∀ a svc, reached cfg fs uv d up = some a → d.alive a = some svc →
    up.p.msg.command = aOkay → svc.peerId = 0 → up.p.msg.arg0 ≠ 0 →
    ∃ svc', (adbProcessPacket cfg fs uv d up).heap a = some svc' ∧ svc'.peerId = up.p.msg.arg0
  answered : reached cfg fs uv d up = none → up.p.msg.command ≠ aClse →
    (∃ m ok es, since d (adbProcessPacket cfg fs uv d up) =
        .handed d.isConnected up.p.msg up.p.payload :: .write up.addr m [] ok :: es ∧
      m.command = aClse ∧ m.arg0 = up.p.msg.arg1 ∧ m.arg1 = up.p.msg.arg0) ∧
    (adbProcessPacket cfg fs uv d up).services = d.services ∧
    (adbProcessPacket cfg fs uv d up).heap = d.heap

/-! What stands behind the first event. -/

theorem reached_of_log {e e' : Event} {es : List Event}
    (h : (adbProcessPacket cfg fs uv d up).log = d.log ++ e :: e' :: es) :
    reached cfg fs uv d up = e'.reach := by
  unfold reached
  rw [since_of_log h]
  rfl

theorem aside_log {c : Prop} {e : Event} (h : Aside c (d.emit e) d') :
    ∃ es, d'.log = d.log ++ e :: es := by
  obtain ⟨es,hlog,-⟩ := h.log
  exact ⟨es,by rw [hlog, Daemon.emit_log, List.append_assoc]; rfl⟩

theorem aside_release (c : Prop) (d : Daemon ω) (hc : d.crashed = false) (b : ℕ) :
    Aside c d (adbHalApacketRelease cfg fs uv d b) := by
  have hall : KeepsAll cfg fs uv (fun _ _ => True) (Aside c d) := aside_all c d
  exact hall.release d b (Aside.refl c d) hc

theorem aside_sync_done (d : Daemon ω) (a : ℕ) (svc : Service) (c : SyncCtx ω) :
    Aside True d (syncDone d a svc c) :=
  { Aside.refl True d with
    log := ⟨c.log.map (.sync a),rfl,fun e he => by
      obtain ⟨_,_,rfl⟩ := List.mem_map.mp he
      rfl⟩ }

theorem aside_service_write (d : Daemon ω) (a : ℕ) (svc : Service) (up : ApacketUv) :
    Aside True d (serviceWrite uv d a svc up).2 := by
  unfold serviceWrite
  split
  · exact Aside.refl True d
  · dsimp only
    split
    · have hos : Aside True d (d.setOs (uv.write d.os).1) := (quietly_os d _).aside
      exact (hos.trans (aside_emit _ (.kept a up.addr) rfl)).trans (aside_set_service _ a _)
    · exact (quietly_os d _).aside

theorem aside_on_write (ha : d.alive a = some svc) :
    Aside True (d.emit (.onWrite a)) (onWriteFrame cfg fs uv d a up).2.2 := by
  unfold onWriteFrame
  rw [ha]
  dsimp only
  split
  · exact aside_sync_done _ a svc _
  · unfold atcpStreamOnWrite
    split
    · exact Aside.refl True _
    · exact aside_service_write _ a svc up
  · exact aside_service_write _ a svc up

theorem aside_on_ack (ha : d.alive a = some svc) :
    Aside True (d.emit (.onAck a)) (onAckFrame cfg fs d a up).2.2 := by
  unfold onAckFrame
  rw [ha]
  dsimp only
  split
  · exact aside_sync_done _ a svc _
  · unfold atcpStreamOnAck
    split
    · exact aside_set_service _ a _
    · exact Aside.refl True _
  · exact aside_set_service _ a _

/-! The three handlers, for a frame whose service was found. -/

theorem write_frame_found (cfg : Config) (fs : FileSystem ω) (uv : Uv ω) (up : ApacketUv)
    (hfind : adbClientFindService d up.p.msg.arg1 up.p.msg.arg0 = some a)
    (ha : d.alive a = some svc) :
    ∃ es, (handleWriteFrame cfg fs uv d up).log = d.log ++ .onWrite a :: es := by
  refine aside_log (c := True) ?_
  unfold handleWriteFrame
  rw [hfind]
  dsimp only
  refine aside_next _ (aside_on_write ha) ?_
  split
  · exact aside_service_close fs uv _ a _
  · split
    · exact aside_with_service _ a _ (fun _ => (quietly_send_frame uv _ _).aside)
    · exact Aside.refl True _

theorem close_frame_found (cfg : Config) (fs : FileSystem ω) (uv : Uv ω) (up : ApacketUv)
    (hfind : adbClientFindService d up.p.msg.arg1 up.p.msg.arg0 = some a) :
    ∃ es, (handleCloseFrame cfg fs uv d up).log = d.log ++ .serviceClose a true :: es := by
  refine aside_log (c := True) ?_
  have hclose : Aside True (d.emit (.serviceClose a true)) (adbServiceClose fs uv d a none) := by
    have hcalled : Aside True (d.emit (.serviceClose a (decide (a ∈ d.services))))
        (adbServiceClose fs uv d a none) := aside_close_called fs uv d a none
    rw [decide_eq_true (find_service_spec d _ _ a hfind).1] at hcalled
    exact hcalled
  unfold handleCloseFrame
  rw [hfind]
  dsimp only
  unfold Daemon.next
  split
  · exact hclose
  · rename_i hcr
    exact hclose.trans (aside_release True _ (by simpa using hcr) _)

/-- A service behind the update of its peer id. -/
def Service.peered (svc : Service) (peerId : ℕ) : Service :=
  if svc.peerId = 0 then { svc with peerId := peerId } else svc

theorem update_peer_found (peerId : ℕ) (ha : d.alive a = some svc) :
    (updatePeerId d a peerId).alive a = some (svc.peered peerId) ∧
      (updatePeerId d a peerId).log = d.log ∧
      (updatePeerId d a peerId).crashed = d.crashed := by
  unfold updatePeerId Daemon.withService Service.peered
  rw [ha]
  dsimp only
  split
  · exact ⟨set_service_alive d a _ ((alive_iff _ _ _).mp ha).2,rfl,rfl⟩
  · exact ⟨ha,rfl,rfl⟩

/-- What the rest of the program keeps is kept behind on_ack_frame. -/
theorem okay_frame_keeps {I : Daemon ω → Prop} (hall : KeepsAll cfg fs uv (fun _ _ => True) I)
    (hc : d.crashed = false) (hfind : adbClientFindService d up.p.msg.arg1 0 = some a)
    (ha : d.alive a = some svc)
    (hack : I (onAckFrame cfg fs (updatePeerId d a up.p.msg.arg0) a up).2.2) :
    I (handleOkayFrame cfg fs uv d up) := by
  obtain ⟨-,-,hcr⟩ := update_peer_found up.p.msg.arg0 ha
  unfold handleOkayFrame
  rw [hfind]
  dsimp only
  rw [Daemon.next, if_neg (by simp [hcr, hc])]
  refine keeps_next hack (fun hc' => ?_)
  split
  · exact hall.close _ a _ hack hc' trivial
  · split
    · exact hack
    · split
      · exact hall.with_service hack (fun _ _ => hall.quietly hack (quietly_send_frame uv _ _))
      · exact hall.release _ _ hack hc'

theorem okay_frame_found (cfg : Config) (fs : FileSystem ω) (uv : Uv ω) (up : ApacketUv)
    (hc : d.crashed = false)
    (hfind : adbClientFindService d up.p.msg.arg1 0 = some a) (ha : d.alive a = some svc) :
    ∃ es, (handleOkayFrame cfg fs uv d up).log = d.log ++ .onAck a :: es := by
  obtain ⟨halive,hlog,-⟩ := update_peer_found up.p.msg.arg0 ha
  have hall : KeepsAll cfg fs uv (fun _ _ => True)
      (Aside True ((updatePeerId d a up.p.msg.arg0).emit (.onAck a))) := aside_all True _
  have hkept := okay_frame_keeps hall hc hfind ha (aside_on_ack halive)
  rw [← hlog]
  exact aside_log hkept

/-! Peer ids. -/

/-- The service at a has a peer id that no OKAY changes. -/
def PeerIs (a peerId : ℕ) (d : Daemon ω) : Prop :=
  peerId ≠ 0 ∧ ∃ svc, d.heap a = some svc ∧ svc.peerId = peerId

section Peers

variable {peerId b : ℕ}

theorem PeerIs.of_heap (h : PeerIs a peerId d) (hh : d'.heap = d.heap) : PeerIs a peerId d' := by
  rw [PeerIs, hh]
  exact h

theorem PeerIs.set_service (h : PeerIs a peerId d) {svc' : Service} (hb : d.alive b = some svc)
    (hp : svc.peerId ≠ 0 → svc'.peerId = svc.peerId) : PeerIs a peerId (d.setService b svc') := by
  obtain ⟨hne,svc₀,ha,hpeer⟩ := h
  by_cases hba : a = b
  · subst hba
    obtain rfl := Option.some.inj (ha.symm.trans ((alive_iff _ _ _).mp hb).1)
    exact ⟨hne,svc',Function.update_self _ _ _,(hp (hpeer ▸ hne)).trans hpeer⟩
  · exact ⟨hne,svc₀,(Function.update_of_ne hba _ _).trans ha,hpeer⟩

theorem PeerIs.with_service (h : PeerIs a peerId d) {f : Service → Daemon ω}
    (hf : ∀ svc, d.alive b = some svc → PeerIs a peerId (f svc)) :
    PeerIs a peerId (d.withService b f) := by
  unfold Daemon.withService
  split
  · exact h
  · exact hf _ ‹_›

theorem PeerIs.sync_done (h : PeerIs a peerId d) (hb : d.alive b = some svc) (c : SyncCtx ω) :
    PeerIs a peerId (syncDone d b svc c) := by
  have hset : PeerIs a peerId (d.setService b { svc with kind := .sync c.svc }) :=
    h.set_service hb (fun _ => rfl)
  exact hset

theorem PeerIs.on_close (h : PeerIs a peerId d) : PeerIs a peerId (onClose fs d b) := by
  refine h.with_service (fun svc hb => ?_)
  have hemit : PeerIs a peerId (d.emit (.onClose b)) := h
  have hclose : PeerIs a peerId (uvCloseStream (d.emit (.onClose b)) b svc) := by
    unfold uvCloseStream
    split
    · exact hemit
    · exact hemit.set_service hb (fun _ => rfl)
  dsimp only
  split
  · rename_i s _
    generalize fileSyncOnClose fs (⟨s,default,(d.emit (.onClose b)).os,[]⟩ : SyncCtx ω) = c
    have hdone : PeerIs a peerId (syncDone (d.emit (.onClose b)) b svc c) := hemit.sync_done hb c
    have halive : (syncDone (d.emit (.onClose b)) b svc c).alive b =
        some { svc with kind := .sync c.svc } :=
      alive_of_heap (d := d.setService b { svc with kind := .sync c.svc }) rfl
        (set_service_alive _ b _ ((alive_iff _ _ _).mp hb).2)
    have hfreed : PeerIs a peerId ((syncDone (d.emit (.onClose b)) b svc c).setService b
        { svc with kind := .sync c.svc, freed := true }) := hdone.set_service halive (fun _ => rfl)
    exact hfreed
  · split
    · exact hclose
    · have hfreed : PeerIs a peerId ((d.emit (.onClose b)).setService b { svc with freed := true }) :=
        hemit.set_service hb (fun _ => rfl)
      exact hfreed
  · exact hclose

theorem PeerIs.close (h : PeerIs a peerId d) (up : Option ApacketUv) :
    PeerIs a peerId (adbServiceClose fs uv d b up) := by
  unfold adbServiceClose
  dsimp only
  split
  · exact h
  · split
    · exact h
    · split
      · have hunlink : PeerIs a peerId { d.emit (.serviceClose b (decide (b ∈ d.services))) with
            services := d.services.erase b } := h
        refine hunlink.with_service (fun svc _ => ?_)
        cases up with
        | none => exact keeps_next hunlink (fun _ => hunlink.on_close)
        | some up =>
          have hsend := hunlink.of_heap (quietly_send_frame uv _
            ((up.message aClse svc.id svc.peerId 0).setWriteLen 0)).heap
          exact keeps_next hsend (fun _ => hsend.on_close)
      · exact h

theorem peer_keeps (a peerId : ℕ) : Keeps cfg fs uv (fun _ _ => True) (PeerIs a peerId) where
  act d d' h ha := by
    cases ha with
    | quietly _ hq => exact h.of_heap hq.heap
    | alloc cap init _ => exact h
    | refuse _ => exact h
    | outOfMemory _ => exact h
    | service b svc svc' hb hc => exact h.set_service hb hc.peerId
  close d b up h _ _ := h.close up

theorem peer_all (a peerId : ℕ) : KeepsAll cfg fs uv (fun _ _ => True) (PeerIs a peerId) :=
  (peer_keeps a peerId).keeps_all (fun _ _ _ _ _ _ _ => trivial) (fun _ h => h) (fun _ _ _ h => h)

theorem PeerIs.on_ack (h : PeerIs a peerId d) : PeerIs a peerId (onAckFrame cfg fs d b up).2.2 := by
  unfold onAckFrame
  split
  · exact h
  · rename_i svc hb
    have hemit : PeerIs a peerId (d.emit (.onAck b)) := h
    dsimp only
    split
    · exact hemit.sync_done hb _
    · rename_i state _
      unfold atcpStreamOnAck adbHalSocketStart
      split
      · refine hemit.set_service hb (fun _ => ?_)
        split <;> rfl
      · exact hemit
    · unfold shellAck shellKick
      refine hemit.set_service hb (fun _ => ?_)
      split
      · rfl
      · split <;> rfl

end Peers

/-! The frames. -/

theorem Addressed.found (h : Addressed d) {id peerId : ℕ}
    (hfind : adbClientFindService d id peerId = some a) :
    a ∈ d.services ∧ ∃ svc, d.alive a = some svc ∧ svc.id = id ∧
      (peerId = 0 ∨ svc.peerId = peerId) := by
  obtain ⟨hreg,svc,hheap,hids⟩ := find_service_spec d id peerId a hfind
  obtain ⟨svc',ha⟩ := h.alive a hreg
  obtain rfl := Option.some.inj (hheap.symm.trans ((alive_iff _ _ _).mp ha).1)
  exact ⟨hreg,svc,ha,hids⟩

theorem Addressed.find (h : Addressed d) {id peerId : ℕ} (hreg : a ∈ d.services)
    (ha : d.alive a = some svc) (hid : svc.id = id) (hpeer : peerId = 0 ∨ svc.peerId = peerId) :
    adbClientFindService d id peerId = some a := by
  have hsome : (adbClientFindService d id peerId).isSome = true := by
    refine List.find?_isSome.mpr ⟨a,hreg,?_⟩
    rw [((alive_iff _ _ _).mp ha).1]
    exact decide_eq_true ⟨hid,hpeer⟩
  obtain ⟨b,hb⟩ := Option.isSome_iff_exists.mp hsome
  obtain ⟨hregb,svc',hb',hid',-⟩ := h.found hb
  rw [hb, h.distinct a b svc svc' hreg hregb ha hb' (hid.trans hid'.symm)]

/-- A frame whose stream is not there is answered by a CLSE. -/
theorem close_answers (uv : Uv ω) (d : Daemon ω) (up : ApacketUv) (local_ remote : ℕ) :
    ∃ m ok es, (sendCloseFrame uv d up local_ remote).log = d.log ++ .write up.addr m [] ok :: es ∧
      m.command = aClse ∧ m.arg0 = local_ ∧ m.arg1 = remote := by
  obtain ⟨ok,es,hlog,-⟩ := send_frame_log uv d ((up.message aClse local_ remote 0).setWriteLen 0)
  exact ⟨_,ok,es,hlog,rfl,rfl,rfl⟩

/-- The release of a frame that has reached no service. -/
theorem release_log (cfg : Config) (fs : FileSystem ω) (uv : Uv ω) (d : Daemon ω) (b : ℕ) :
    ∃ e es, (adbHalApacketRelease cfg fs uv d b).log = d.log ++ e :: es ∧ e.reach = none := by
  rcases release_cases cfg fs uv d b with ⟨-,hr⟩ | hr | ⟨n,hr⟩ | ⟨n,hr⟩
  · rw [hr]
    exact ⟨.fault .badRelease,[],rfl,rfl⟩
  · rw [hr]
    exact ⟨.fault .frameCount,[],rfl,rfl⟩
  · rw [hr]
    have hkeeps : Keeps cfg fs uv (fun _ _ => True)
        (Aside True (setFrameCount (freePacket d b) n)) := aside_keeps True _
    have hkick := hkeeps.tcp_uv_kick (fun _ _ _ _ _ _ _ => trivial) (Aside.refl True _)
    obtain ⟨es,hlog,-⟩ := hkick.log
    exact ⟨.release b,es,hlog.trans (List.append_assoc _ _ _),rfl⟩
  · rw [hr]
    exact ⟨.release b,[],rfl,rfl⟩

/-- The peer id with which a frame is searched. -/
def searched (m : Amessage) : ℕ := if m.command = aOkay then 0 else m.arg0

/-- A frame on an open stream. -/
def OnStream (m : Amessage) : Prop := m.command = aOkay ∨ m.command = aWrte ∨ m.command = aClse

/-- The handler of a frame on a stream. -/
theorem process_on_stream (cfg : Config) (fs : FileSystem ω) (uv : Uv ω) (d : Daemon ω)
    (hm : OnStream up.p.msg) :
    adbProcessPacket cfg fs uv d up =
      (if up.p.msg.command = aClse then handleCloseFrame cfg fs uv
      else if up.p.msg.command = aWrte then handleWriteFrame cfg fs uv
      else handleOkayFrame cfg fs uv)
        (d.emit (.handed d.isConnected up.p.msg up.p.payload)) (up.setWriteLen 0) := by
  have hcnxn : up.p.msg.command ≠ aCnxn := by rcases hm with h | h | h <;> rw [h] <;> decide
  have hauth : up.p.msg.command ≠ aAuth := by rcases hm with h | h | h <;> rw [h] <;> decide
  have hopen : up.p.msg.command ≠ aOpen := by rcases hm with h | h | h <;> rw [h] <;> decide
  have hmsg : (up.setWriteLen 0).p.msg = up.p.msg := rfl
  unfold adbProcessPacket dispatchFrame
  dsimp only
  rw [hmsg, if_neg hcnxn, if_neg (fun h => hauth h.2), if_neg hopen]
  split
  · rfl
  · rename_i hclse
    split
    · rfl
    · rename_i hwrte
      rw [if_pos (hm.resolve_right (not_or.mpr ⟨hwrte,hclse⟩))]

/-- The trace of a frame on a stream, by what the search finds. -/
theorem on_stream_log (cfg : Config) (fs : FileSystem ω) (uv : Uv ω) (h : Addressed d)
    (hc : d.crashed = false) (hm : OnStream up.p.msg) :
    ∃ e es, (adbProcessPacket cfg fs uv d up).log =
        d.log ++ .handed d.isConnected up.p.msg up.p.payload :: e :: es ∧
      e.reach = adbClientFindService d up.p.msg.arg1 (searched up.p.msg) := by
  set e₀ := d.emit (.handed d.isConnected up.p.msg up.p.payload) with he₀
  set u := up.setWriteLen 0 with hu
  have hfind (id peerId : ℕ) :
      adbClientFindService e₀ id peerId = adbClientFindService d id peerId := rfl
  have hlog : ∃ e es, (adbProcessPacket cfg fs uv d up).log = e₀.log ++ e :: es ∧
      e.reach = adbClientFindService d up.p.msg.arg1 (searched up.p.msg) := by
    rw [process_on_stream cfg fs uv d hm]
    rcases hm with hm | hm | hm
    · rw [searched, if_pos hm, hm, if_neg (by decide), if_neg (by decide)]
      cases hsome : adbClientFindService d up.p.msg.arg1 0 with
      | some a =>
        obtain ⟨-,svc,ha,-⟩ := h.found hsome
        obtain ⟨es,hlog⟩ := okay_frame_found (d := e₀) cfg fs uv u hc hsome ha
        exact ⟨_,es,hlog,rfl⟩
      | none =>
        obtain ⟨m,ok,es,hlog,-⟩ := close_answers uv e₀ u u.p.msg.arg1 u.p.msg.arg0
        refine ⟨.write u.addr m [] ok,es,?_,rfl⟩
        rw [← hlog]
        unfold handleOkayFrame
        rw [hfind, show adbClientFindService d u.p.msg.arg1 0 = none from hsome]
    · have hne : up.p.msg.command ≠ aOkay := by rw [hm]; decide
      rw [searched, if_neg hne, hm, if_neg (by decide), if_pos rfl]
      cases hsome : adbClientFindService d up.p.msg.arg1 up.p.msg.arg0 with
      | some a =>
        obtain ⟨-,svc,ha,-⟩ := h.found hsome
        obtain ⟨es,hlog⟩ := write_frame_found (d := e₀) cfg fs uv u hsome ha
        exact ⟨_,es,hlog,rfl⟩
      | none =>
        obtain ⟨m,ok,es,hlog,-⟩ := close_answers uv e₀ u u.p.msg.arg1 u.p.msg.arg0
        refine ⟨.write u.addr m [] ok,es,?_,rfl⟩
        rw [← hlog]
        unfold handleWriteFrame
        rw [hfind, show adbClientFindService d u.p.msg.arg1 u.p.msg.arg0 = none from hsome]
    · have hne : up.p.msg.command ≠ aOkay := by rw [hm]; decide
      rw [searched, if_neg hne, hm, if_pos rfl]
      cases hsome : adbClientFindService d up.p.msg.arg1 up.p.msg.arg0 with
      | some a =>
        obtain ⟨es,hlog⟩ := close_frame_found (d := e₀) cfg fs uv u hsome
        exact ⟨_,es,hlog,rfl⟩
      | none =>
        obtain ⟨e,es,hlog,hreach⟩ := release_log cfg fs uv e₀ u.addr
        refine ⟨e,es,?_,hreach⟩
        rw [← hlog]
        unfold handleCloseFrame
        rw [hfind, show adbClientFindService d u.p.msg.arg1 u.p.msg.arg0 = none from hsome]
        dsimp only
        rw [Daemon.next, if_neg (show ¬e₀.crashed = true by simp [he₀, hc])]
  obtain ⟨e,es,hlog,hreach⟩ := hlog
  exact ⟨e,es,hlog.trans (List.append_assoc _ _ _),hreach⟩

/-- A frame that reaches a replier is passed to its on_write_frame or on_ack_frame. -/
theorem replier_called (cfg : Config) (fs : FileSystem ω) (uv : Uv ω) (h : Addressed d)
    (hc : d.crashed = false) (hr : ReachesReplier d up) :
    ∃ a svc s es, d.alive a = some svc ∧ svc.kind = .sync s ∧
      (adbProcessPacket cfg fs uv d up).log =
        d.log ++ .handed d.isConnected up.p.msg up.p.payload ::
          (if up.p.msg.command = aWrte then .onWrite a else .onAck a) :: es := by
  set e₀ := d.emit (.handed d.isConnected up.p.msg up.p.payload) with he₀
  set u := up.setWriteLen 0 with hu
  rcases hr with ⟨hcmd,a,svc,s,hfind,hheap,hk⟩ | ⟨hcmd,a,svc,s,hfind,hheap,hk⟩
  · obtain ⟨-,svc',ha,-⟩ := h.found hfind
    obtain rfl := Option.some.inj (hheap.symm.trans ((alive_iff _ _ _).mp ha).1)
    obtain ⟨es,hlog⟩ := write_frame_found (d := e₀) cfg fs uv u hfind ha
    refine ⟨a,svc,s,es,ha,hk,?_⟩
    rw [process_on_stream cfg fs uv d (Or.inr (Or.inl hcmd)), hcmd, if_neg (by decide), if_pos rfl,
      if_pos rfl]
    exact hlog.trans (List.append_assoc _ _ _)
  · obtain ⟨-,svc',ha,-⟩ := h.found hfind
    obtain rfl := Option.some.inj (hheap.symm.trans ((alive_iff _ _ _).mp ha).1)
    obtain ⟨es,hlog⟩ := okay_frame_found (d := e₀) cfg fs uv u hc hfind ha
    refine ⟨a,svc,s,es,ha,hk,?_⟩
    rw [process_on_stream cfg fs uv d (Or.inl hcmd), hcmd, if_neg (by decide), if_neg (by decide),
      if_neg (by decide)]
    exact hlog.trans (List.append_assoc _ _ _)

theorem reached_eq (cfg : Config) (fs : FileSystem ω) (uv : Uv ω) (h : Addressed d)
    (hc : d.crashed = false) (hm : OnStream up.p.msg) :
    reached cfg fs uv d up = adbClientFindService d up.p.msg.arg1 (searched up.p.msg) := by
  obtain ⟨e,es,hlog,hreach⟩ := on_stream_log cfg fs uv h hc hm
  rw [reached_of_log hlog, hreach]

/-- A frame on a stream that is not there. -/
theorem on_stream_unknown (h : Addressed d) (hc : d.crashed = false) (hm : OnStream up.p.msg)
    (hnone : reached cfg fs uv d up = none) (hclse : up.p.msg.command ≠ aClse) :
    adbProcessPacket cfg fs uv d up =
      sendCloseFrame uv (d.emit (.handed d.isConnected up.p.msg up.p.payload)) (up.setWriteLen 0)
        up.p.msg.arg1 up.p.msg.arg0 := by
  rw [reached_eq cfg fs uv h hc hm] at hnone
  rw [process_on_stream cfg fs uv d hm, if_neg hclse]
  split
  · rename_i hwrte
    rw [searched, if_neg (by rw [hwrte]; decide)] at hnone
    unfold handleWriteFrame
    rw [show adbClientFindService (d.emit (.handed d.isConnected up.p.msg up.p.payload))
      (up.setWriteLen 0).p.msg.arg1 (up.setWriteLen 0).p.msg.arg0 = none from hnone]
    rfl
  · rename_i hwrte
    have hokay : up.p.msg.command = aOkay := hm.resolve_right (not_or.mpr ⟨hwrte,hclse⟩)
    rw [searched, if_pos hokay] at hnone
    unfold handleOkayFrame
    rw [show adbClientFindService (d.emit (.handed d.isConnected up.p.msg up.p.payload))
      (up.setWriteLen 0).p.msg.arg1 0 = none from hnone]
    rfl

/-- An OKAY leaves a service that had no peer id with its own. -/
theorem okay_adopts (h : Addressed d) (hc : d.crashed = false) (hokay : up.p.msg.command = aOkay)
    (hreach : reached cfg fs uv d up = some a) (ha : d.alive a = some svc)
    (hzero : svc.peerId = 0) (hne : up.p.msg.arg0 ≠ 0) :
    ∃ svc', (adbProcessPacket cfg fs uv d up).heap a = some svc' ∧
      svc'.peerId = up.p.msg.arg0 := by
  have hm : OnStream up.p.msg := Or.inl hokay
  set e₀ := d.emit (.handed d.isConnected up.p.msg up.p.payload) with he₀
  rw [reached_eq cfg fs uv h hc hm, searched, if_pos hokay] at hreach
  obtain ⟨halive,-,-⟩ := update_peer_found (d := e₀) up.p.msg.arg0 ha
  have hpeer : PeerIs a up.p.msg.arg0 (updatePeerId e₀ a up.p.msg.arg0) := by
    refine ⟨hne,_,((alive_iff _ _ _).mp halive).1,?_⟩
    rw [Service.peered, if_pos hzero]
  have hkept : PeerIs a up.p.msg.arg0 (handleOkayFrame cfg fs uv e₀ (up.setWriteLen 0)) :=
    okay_frame_keeps (peer_all a _) hc hreach ha hpeer.on_ack
  rw [process_on_stream cfg fs uv d hm, if_neg (by rw [hokay]; decide),
    if_neg (by rw [hokay]; decide)]
  exact hkept.2

/-- For every list of services with different ids and every OKAY, WRTE or CLSE: the frame moves the
stream that both of its ids name, or none, exactly when it is no WRTE with the wildcard and no OKAY
from another stream for the service that has its arg1 as id. The search for an OKAY leaves arg0
out. -/
theorem routed_iff (cfg : Config) (fs : FileSystem ω) (uv : Uv ω) (d : Daemon ω) (up : ApacketUv)
    (hc : d.crashed = false) (h : Addressed d) (hm : OnStream up.p.msg) :
    Routed cfg fs uv d up ↔ ∀ a ∈ d.services, ∀ svc, d.alive a = some svc →
      svc.id = up.p.msg.arg1 → svc.peerId ≠ up.p.msg.arg0 →
      ¬(up.p.msg.command = aWrte ∧ up.p.msg.arg0 = 0) ∧
        (up.p.msg.command = aOkay → svc.peerId = 0) := by
  have hreached := reached_eq cfg fs uv h hc hm
  constructor
  · intro hr a hreg svc ha hid hpeer
    -- The wildcard finds the service, whose peer id is another.
    have hwild (hzero : searched up.p.msg = 0) :
        (up.p.msg.command = aOkay ∧ svc.peerId = 0) ∨
          (up.p.msg.command = aClse ∧ up.p.msg.arg0 = 0) := by
      have hfind := h.find hreg ha hid (Or.inl hzero)
      obtain ⟨-,svc',ha',-,hids⟩ := hr.ids a (hreached.trans hfind)
      obtain rfl := Option.some.inj (ha.symm.trans ha')
      exact hids.resolve_left hpeer
    constructor
    · rintro ⟨hwrte,hzero⟩
      have hne : up.p.msg.command ≠ aOkay := by rw [hwrte]; decide
      have hclse : up.p.msg.command ≠ aClse := by rw [hwrte]; decide
      rcases hwild (by rw [searched, if_neg hne, hzero]) with hk | hk
      · exact hne hk.1
      · exact hclse hk.1
    · intro hokay
      rcases hwild (by rw [searched, if_pos hokay]) with hk | hk
      · exact hk.2
      · rw [hokay] at hk
        exact absurd hk.1 (by decide)
  · intro hcond
    refine ⟨fun a hreach => ?_,fun a svc hreach ha hokay hzero hne =>
      okay_adopts h hc hokay hreach ha hzero hne,fun hnone hclse => ?_⟩
    · obtain ⟨hreg,svc,ha,hid,hpeer⟩ := h.found (hreached.symm.trans hreach)
      refine ⟨hreg,svc,ha,hid,?_⟩
      by_cases heq : svc.peerId = up.p.msg.arg0
      · exact Or.inl heq
      obtain ⟨hwrte,hokay⟩ := hcond a hreg svc ha hid heq
      rcases hm with hm | hm | hm
      · exact Or.inr (Or.inl ⟨hm,hokay hm⟩)
      · rw [searched, if_neg (by rw [hm]; decide)] at hpeer
        exact absurd ⟨hm,hpeer.resolve_right heq⟩ hwrte
      · rw [searched, if_neg (by rw [hm]; decide)] at hpeer
        exact Or.inr (Or.inr ⟨hm,hpeer.resolve_right heq⟩)
    · rw [on_stream_unknown h hc hm hnone hclse]
      obtain ⟨m,ok,es,hlog,hframe⟩ := close_answers uv
        (d.emit (.handed d.isConnected up.p.msg up.p.payload)) (up.setWriteLen 0) up.p.msg.arg1
        up.p.msg.arg0
      have hq := quietly_send_frame uv (d.emit (.handed d.isConnected up.p.msg up.p.payload))
        (((up.setWriteLen 0).message aClse up.p.msg.arg1 up.p.msg.arg0 0).setWriteLen 0)
      exact ⟨⟨m,ok,es,since_of_log (hlog.trans (List.append_assoc _ _ _)),hframe⟩,
        hq.services,hq.heap⟩

/-- An OKAY of the host from another stream. -/
def okayFrom (arg0 : ℕ) : ApacketUv :=
  ⟨7,defaultConfig.payloadSize,0,⟨aOkay,arg0,1,0,0,0⟩,fun _ => 0⟩

/-- A client with an open shell of id 1, whose peer is 5. -/
def shellOpened : Daemon Unit :=
  daemonRun defaultConfig emptyFs plainUv [] () (hostFrame aOpen 5 0 (ascii "shell:"))

theorem foreign_okay_reaches : ¬Routed defaultConfig emptyFs plainUv shellOpened (okayFrom 9) := by
  intro h
  obtain ⟨-,svc,ha,-,hids⟩ := h.ids 1 (by decide +kernel)
  have hpeer : (shellOpened.alive 1).any (fun svc => svc.peerId = 5) = true := by decide +kernel
  rw [ha, Option.any_some, decide_eq_true_eq] at hpeer
  rw [hpeer] at hids
  rcases hids with hids | ⟨-,hids⟩ | ⟨hids,-⟩
  · exact absurd hids (by decide)
  · exact absurd hids (by decide)
  · exact absurd hids (by decide)

theorem shell_addressed : Addressed shellOpened := by
  have hlist : shellOpened.services = [1] := by decide +kernel
  have hid : (shellOpened.alive 1).any (fun svc => svc.id = 1) = true := by decide +kernel
  obtain ⟨svc,ha,hid⟩ := (Option.any_eq_true _ _).mp hid
  have hone (a : ℕ) (hreg : a ∈ shellOpened.services) : a = 1 := by
    rw [hlist] at hreg
    exact List.mem_singleton.mp hreg
  refine ⟨fun a hreg => ⟨svc,hone a hreg ▸ ha⟩,fun a hreg svc' ha' => ?_,
    fun a b _ _ hreg hreg' _ _ _ => (hone a hreg).trans (hone b hreg').symm⟩
  rw [hone a hreg] at ha'
  obtain rfl := Option.some.inj (ha.symm.trans ha')
  rw [of_decide_eq_true hid]
  decide

theorem own_okay_routed : Routed defaultConfig emptyFs plainUv shellOpened (okayFrom 5) ↔
    ∀ a ∈ shellOpened.services, ∀ svc, shellOpened.alive a = some svc →
      svc.id = (okayFrom 5).p.msg.arg1 → svc.peerId ≠ (okayFrom 5).p.msg.arg0 →
      ¬((okayFrom 5).p.msg.command = aWrte ∧ (okayFrom 5).p.msg.arg0 = 0) ∧
        ((okayFrom 5).p.msg.command = aOkay → svc.peerId = 0) :=
  routed_iff defaultConfig emptyFs plainUv shellOpened (okayFrom 5) (by decide +kernel)
    shell_addressed (Or.inl rfl)

end MicroADB
