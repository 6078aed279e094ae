import MicroADB.AdbMove

/-! adb_process_packet and the release of a packet are chains of moves, at the end of which no
packet is in hand. -/
namespace MicroADB
open ByteMemory EventRun

variable {ω : Type} {cfg : Config} {fs : FileSystem ω} {uv : Uv ω} {d d' : Daemon ω}
  {x : Option ℕ × Daemon ω} {h : Option ℕ}

/-! Chains. -/

theorem Move.moves {x y : Option ℕ × Daemon ω} (hm : Move cfg fs uv x y) : Moves cfg fs uv x y :=
  Relation.ReflTransGen.single hm

theorem Moves.refl (x : Option ℕ × Daemon ω) : Moves cfg fs uv x x := Relation.ReflTransGen.refl

theorem Moves.trans {x y z : Option ℕ × Daemon ω} (hm : Moves cfg fs uv x y)
    (hm' : Moves cfg fs uv y z) : Moves cfg fs uv x z := Relation.ReflTransGen.trans hm hm'

theorem Moves.next {f : Daemon ω → Daemon ω} (hm : Moves cfg fs uv x (h,d))
    (hf : d.crashed = false → Moves cfg fs uv (h,d) (none,f d)) :
    Moves cfg fs uv x (none,d.next f) := by
  unfold Daemon.next
  split
  · rename_i hc
    exact hm.trans (Move.halt hc).moves
  · rename_i hc
    exact hm.trans (hf (by simpa using hc))

theorem moves_fault (d : Daemon ω) (f : Fault) (hf : f ≠ .assertion ∧ f ≠ .badRelease) :
    Moves cfg fs uv (h,d) (none,d.fault f) :=
  (Move.crash [.fault f] (Or.inl ⟨f,hf.1,hf.2,rfl⟩)).moves

theorem moves_with_service {a : ℕ} {f : Service → Daemon ω}
    (hf : ∀ svc, d.alive a = some svc → Moves cfg fs uv (h,d) (none,f svc)) :
    Moves cfg fs uv (h,d) (none,d.withService a f) := by
  unfold Daemon.withService
  split
  · exact moves_fault d _ (by decide)
  · rename_i svc ha
    exact hf svc ha

theorem unmoved_os (d : Daemon ω) (os : ω) : Unmoved d (d.setOs os) := { Unmoved.refl d with }

theorem unmoved_emit (d : Daemon ω) (e : Event) (he : e.idle = true) : Unmoved d (d.emit e) :=
  { Unmoved.refl d with log := ⟨[e],rfl,fun _ hm => List.mem_singleton.mp hm ▸ he⟩ }

theorem unmoved_socket (d : Daemon ω) (s : UvStream) (hw : s.writes = d.socket.writes)
    (hc : s.closing = d.socket.closing) : Unmoved d (d.setSocket s) :=
  { Unmoved.refl d with writes := hw, closing := hc }

theorem moves_os (d : Daemon ω) (os : ω) : Moves cfg fs uv (h,d) (h,d.setOs os) :=
  (Move.unmoved (unmoved_os d os)).moves

theorem moves_emit (d : Daemon ω) (e : Event) (he : e.idle = true) :
    Moves cfg fs uv (h,d) (h,d.emit e) := (Move.unmoved (unmoved_emit d e he)).moves

theorem moves_socket (d : Daemon ω) (s : UvStream) (hw : s.writes = d.socket.writes)
    (hc : s.closing = d.socket.closing) : Moves cfg fs uv (h,d) (h,d.setSocket s) :=
  (Move.unmoved (unmoved_socket d s hw hc)).moves

/-! Allocation and the end of a service. -/

theorem moves_allocate (cfg : Config) (fs : FileSystem ω) (uv : Uv ω) (d : Daemon ω) (b : Bool) :
    Moves cfg fs uv (none,d) ((adbUvPacketAllocate cfg uv d b).1.map RawPacket.addr,
      (adbUvPacketAllocate cfg uv d b).2) := by
  unfold adbUvPacketAllocate
  split
  · have hrefuse : Unmoved d (refuse cfg d) :=
      { Unmoved.refl d with log := ⟨[.refused],rfl,fun _ hm => List.mem_singleton.mp hm ▸ rfl⟩ }
    exact (Move.unmoved hrefuse).moves
  · dsimp only
    have hos : Moves cfg fs uv (none,d) (none,d.setOs (uv.packetMalloc d.os).1) := moves_os d _
    split
    · exact (hos.trans (moves_emit _ .outOfMemory rfl)).trans (Move.close _).moves
    · rename_i init _
      exact hos.trans
        (Move.alloc (if b then cfg.cnxnPayloadSize else cfg.payloadSize) init).moves

theorem moves_hal_allocate (cfg : Config) (fs : FileSystem ω) (uv : Uv ω) (d : Daemon ω) :
    Moves cfg fs uv (none,d) ((adbHalApacketAllocate cfg uv d).1.map ApacketUv.addr,
      (adbHalApacketAllocate cfg uv d).2) := by
  have halloc := moves_allocate cfg fs uv d false
  unfold adbHalApacketAllocate
  dsimp only
  rw [Option.map_map]
  exact halloc

theorem moves_service_close (cfg : Config) (fs : FileSystem ω) (uv : Uv ω) (ht : Table d)
    (hc : d.crashed = false) {a : ℕ}
    (hreg : a ∈ d.services) (up : Option ApacketUv) {h' : Option ℕ} (hh : GivenUp up h h') :
    Moves cfg fs uv (h,d) (h',adbServiceClose fs uv d a up) ∨
      Moves cfg fs uv (h,d) (none,adbServiceClose fs uv d a up) ∧
        (adbServiceClose fs uv d a up).crashed = true := by
  obtain ⟨svc,ha,hcl⟩ := (ht.registered a).mp hreg
  by_cases hg : d.gone = true
  · have hgone : adbServiceClose fs uv d a up =
        { d with log := d.log ++ [.serviceClose a true,.fault .useAfterFree], crashed := true } := by
      unfold adbServiceClose
      rw [decide_eq_true hreg]
      dsimp only
      rw [if_pos (by simpa [Daemon.emit] using hg)]
      simp [Daemon.fault, Daemon.emit]
    rw [hgone]
    exact Or.inr ⟨(Move.crash _ (Or.inr ⟨a,rfl⟩)).moves,rfl⟩
  · exact Or.inl (Move.closed up hh hreg ha hcl (by simpa using hg) hc).moves

/-- A service is closed with the packet in hand. -/
theorem moves_close_with (ht : Table d) (hc : d.crashed = false) {a : ℕ}
    (hreg : a ∈ d.services) (up : ApacketUv) :
    Moves cfg fs uv (some up.addr,d) (none,adbServiceClose fs uv d a (some up)) := by
  rcases moves_service_close _ _ _ ht hc hreg (some up) ⟨rfl,rfl⟩ with hm | ⟨hm,-⟩ <;> exact hm

/-! Kicks. -/

theorem moves_try_close (ht : d.crashed = false → Table d) {a : ℕ} {svc : Service}
    (ha : d.alive a = some svc) (hcl : svc.stream.closing = false) :
    Moves cfg fs uv (none,d) (none,tryClose cfg fs uv d a) := by
  have halloc := moves_hal_allocate cfg fs uv d
  have ha' : (adbHalApacketAllocate cfg uv d).2.alive a = some svc :=
    (allocate_alive cfg uv d false a).trans ha
  unfold tryClose
  dsimp only
  refine halloc.next (fun hc => ?_)
  have htable := halloc.table ht hc
  have hreg := (htable.registered a).mpr ⟨svc,ha',hcl⟩
  split
  · rename_i hnone
    rw [hnone]
    exact Moves.refl _
  · rename_i up hsome
    rw [hsome]
    exact moves_close_with htable hc hreg up

theorem moves_try_connect {a : ℕ}
    (hk : ∀ svc, d.alive a = some svc → svc.kind = .tcp .notifyClient) :
    Moves cfg fs uv (none,d) (none,tryConnect cfg uv d a) := by
  have halloc := moves_hal_allocate cfg fs uv d
  unfold tryConnect
  dsimp only
  refine halloc.next (fun _ => ?_)
  split
  · rename_i hnone
    rw [hnone]
    exact Moves.refl _
  · rename_i up hsome
    rw [hsome]
    refine moves_with_service (fun svc ha => ?_)
    have hkind := hk svc ((allocate_alive cfg uv d false a).symm.trans ha)
    have hframe : FrameOf aOkay svc ((up.setWriteLen 0).message aOkay svc.id svc.peerId 0) :=
      ⟨rfl,rfl,rfl⟩
    have hids : (adbHalSocketStart { svc with kind := .tcp .connected }).id = svc.id ∧
        (adbHalSocketStart { svc with kind := .tcp .connected }).peerId = svc.peerId := by
      unfold adbHalSocketStart
      split <;> exact ⟨rfl,rfl⟩
    have hmove : Move cfg fs uv _ _ := Move.connect _ ha hkind hframe rfl
    unfold adbSendOkayFrame adbSendOkayFrameWithData
    rw [hids.1, hids.2]
    exact hmove.moves

theorem moves_on_kick (cfg : Config) (fs : FileSystem ω) (uv : Uv ω)
    (ht : d.crashed = false → Table d) (hc : d.crashed = false) (a : ℕ) :
    Moves cfg fs uv (none,d) (none,onKick cfg fs uv d a) := by
  refine moves_with_service (fun svc ha => ?_)
  have hemit : Moves cfg fs uv (none,d) (none,d.emit (.onKick a)) := moves_emit d _ rfl
  split
  · exact Moves.refl _
  · rename_i state hk
    unfold atcpStreamOnKick
    split
    · exact hemit
    · exact hemit
    · exact hemit.trans (Move.shift (d := d.emit (.onKick a)) ha (.start hk)).moves
    · refine hemit.trans (moves_try_connect (fun svc' ha' => ?_))
      obtain rfl : svc = svc' := Option.some.inj (ha.symm.trans ha')
      exact hk
    · have hopen : svc.stream.closing = false := by
        by_contra hcl
        have hallows := ((ht hc).wf a svc ((alive_iff _ _ _).mp ha).1).kind
        rw [hk] at hallows
        exact absurd (hallows.2.2.2 (by simpa using hcl)) (by decide)
      exact hemit.trans (moves_try_close (d := d.emit (.onKick a))
        (fun hc => (ht hc).of_same rfl rfl le_rfl) ha hopen)
  · rename_i waitAck hk
    exact hemit.trans (Move.shift (d := d.emit (.onKick a)) ha (.kick waitAck hk)).moves

theorem moves_kick_loop (l : List ℕ) (ht : d.crashed = false → Table d)
    (hc : d.crashed = false) : Moves cfg fs uv (none,d) (none,kickLoop cfg fs uv l d) := by
  induction l generalizing d with
  | nil => exact Moves.refl _
  | cons a rest ih =>
    have hkick := moves_on_kick cfg fs uv ht hc a
    exact hkick.next (fun hc' =>
      moves_with_service (fun _ _ => ih (fun hc'' => hkick.table ht hc'') hc'))

theorem moves_tcp_uv_kick (ht : d.crashed = false → Table d) (hc : d.crashed = false) :
    Moves cfg fs uv (none,d) (none,tcpUvKick cfg fs uv d) := by
  unfold tcpUvKick
  split
  · exact moves_kick_loop _ ht hc
  · have hread : Moves cfg fs uv (none,d) (none,d.setSocket d.socket.readStart) :=
      moves_socket d _ (by simp) (by simp)
    exact hread.trans (moves_kick_loop _ (fun hc' => hread.table ht hc') hc)

/-- The exits of the release of a packet. -/
theorem release_cases (cfg : Config) (fs : FileSystem ω) (uv : Uv ω) (d : Daemon ω) (b : ℕ) :
    (b ∉ d.live ∧ adbHalApacketRelease cfg fs uv d b = d.fault .badRelease) ∨
      adbHalApacketRelease cfg fs uv d b = d.fault .frameCount ∨
      (∃ n, adbHalApacketRelease cfg fs uv d b =
        tcpUvKick cfg fs uv (setFrameCount (freePacket d b) n)) ∨
      ∃ n, adbHalApacketRelease cfg fs uv d b = setFrameCount (freePacket d b) n := by
  unfold adbHalApacketRelease
  split
  · rename_i hb
    exact Or.inl ⟨hb,rfl⟩
  · split
    · exact Or.inr (Or.inl rfl)
    · split
      · exact Or.inr (Or.inr (Or.inl ⟨_,rfl⟩))
      · exact Or.inr (Or.inr (Or.inr ⟨_,rfl⟩))

theorem moves_release (cfg : Config) (fs : FileSystem ω) (uv : Uv ω)
    (ht : d.crashed = false → Table d) (hc : d.crashed = false) (b : ℕ) :
    Moves cfg fs uv (some b,d) (none,adbHalApacketRelease cfg fs uv d b) := by
  have hfree (n : ℤ) : Moves cfg fs uv (some b,d) (none,setFrameCount (freePacket d b) n) :=
    (Move.release b n).moves
  rcases release_cases cfg fs uv d b with ⟨hb,hr⟩ | hr | ⟨n,hr⟩ | ⟨n,hr⟩ <;> rw [hr]
  · exact (Move.badRelease b hb).moves
  · exact moves_fault d .frameCount (by decide)
  · exact (hfree n).trans (moves_tcp_uv_kick (fun hc' => (hfree n).table ht hc') hc)
  · exact hfree n

/-! Frames of the host. -/

section Frames

variable (up : ApacketUv)

/-- A frame that is no OKAY and no WRTE. -/
theorem moves_send_close (local_ remote : ℕ) :
    Moves cfg fs uv (some up.addr,d) (none,sendCloseFrame uv d up local_ remote) :=
  (Move.send ((up.message aClse local_ remote 0).setWriteLen 0)
    (show aClse ≠ aOkay by decide) (show aClse ≠ aWrte by decide) rfl).moves

theorem moves_send_auth (ht : d.crashed = false → Table d) (hc : d.crashed = false)
    (hw : up.p.writeLen = 0) :
    Moves cfg fs uv (some up.addr,d) (none,sendAuthRequest cfg fs uv d up) := by
  have hos : Moves cfg fs uv (some up.addr,d) (some up.addr,d.setOs (uv.random d.os).1) :=
    moves_os d _
  unfold sendAuthRequest
  dsimp only
  split
  · have hrelease := hos.trans (moves_release _ _ _ (fun hc' => hos.table ht hc') hc up.addr)
    exact hrelease.next (fun _ => (Move.close _).moves)
  · rename_i m _
    have htoken : Unmoved (d.setOs (uv.random d.os).1)
        { d.setOs (uv.random d.os).1 with token := slice m 0 cfg.tokenSize } :=
      { Unmoved.refl _ with }
    exact (hos.trans (Move.unmoved htoken).moves).trans (Move.send
      ((up.setData (store up.p.data 0 (slice m 0 cfg.tokenSize))).message aAuth adbAuthToken 0
        cfg.tokenSize)
      (show aAuth ≠ aOkay by decide) (show aAuth ≠ aWrte by decide) hw).moves

theorem moves_accept (hw : up.p.writeLen = 0) :
    Moves cfg fs uv (some up.addr,d) (none,acceptConnection cfg uv d up) := by
  have hsend : Moves cfg fs uv (some up.addr,d) (none,sendCnxnFrame cfg uv d up) :=
    (Move.send ((up.setData
        (adbFillConnectData cfg.product up.p.data cfg.cnxnPayloadSize).2).message aCnxn aVersion
        cfg.payloadSize
        (u32OfInt (adbFillConnectData cfg.product up.p.data cfg.cnxnPayloadSize).1))
      (show aCnxn ≠ aOkay by decide) (show aCnxn ≠ aWrte by decide) hw).moves
  have hconnected (e : Daemon ω) : Unmoved e { e with isConnected := true } :=
    { Unmoved.refl e with }
  unfold acceptConnection
  exact hsend.next (fun _ => (Move.unmoved (hconnected _)).moves)

theorem moves_auth_frame (ht : d.crashed = false → Table d) (hc : d.crashed = false)
    (hw : up.p.writeLen = 0) :
    Moves cfg fs uv (some up.addr,d) (none,handleAuthFrame cfg fs uv d up) := by
  unfold handleAuthFrame
  split
  · exact moves_release _ _ _ ht hc _
  · split
    · exact moves_send_auth up ht hc hw
    · split
      · exact moves_accept up hw
      · exact moves_release _ _ _ ht hc _

theorem moves_invalid (ht : d.crashed = false → Table d) (hc : d.crashed = false) :
    Moves cfg fs uv (some up.addr,d) (none,invalidFrame cfg fs uv d up) := by
  unfold invalidFrame
  exact (moves_release _ _ _ ht hc _).next (fun _ => (Move.close _).moves)

theorem moves_close_frame (ht : d.crashed = false → Table d) (hc : d.crashed = false) :
    Moves cfg fs uv (some up.addr,d) (none,handleCloseFrame cfg fs uv d up) := by
  unfold handleCloseFrame
  dsimp only
  split
  · rename_i a ha
    have hreg := (find_service_spec d _ _ a ha).1
    rcases moves_service_close cfg fs uv (h := some up.addr) (ht hc) hc hreg
      none rfl with hm | ⟨hm,hcr⟩
    · exact hm.next (fun hc' => moves_release _ _ _ (fun hc'' => hm.table ht hc'') hc' _)
    · exact hm.next (fun hc' => by rw [hc'] at hcr; cases hcr)
  · exact (Moves.refl _).next (fun _ => moves_release _ _ _ ht hc _)

theorem moves_service_write (cfg : Config) (fs : FileSystem ω) (uv : Uv ω) {a : ℕ} {svc : Service}
    (ha : d.alive a = some svc)
    (hk : svc.kind.Takes) :
    (serviceWrite uv d a svc up).1 = -1 ∧ (serviceWrite uv d a svc up).2.services = d.services ∧
        Moves cfg fs uv (some up.addr,d) (some up.addr,(serviceWrite uv d a svc up).2) ∨
      (serviceWrite uv d a svc up).1 = 1 ∧
        Moves cfg fs uv (some up.addr,d) (none,(serviceWrite uv d a svc up).2) := by
  unfold serviceWrite
  split
  · exact Or.inl ⟨rfl,rfl,Moves.refl _⟩
  · rename_i hcl
    dsimp only
    split
    · exact Or.inr ⟨rfl,(Move.kept up _ ha hk (by simpa using hcl)).moves⟩
    · exact Or.inl ⟨rfl,rfl,moves_os d _⟩

/-- on_write_frame of a service that was found: it fails and leaves the packet, it is done with
it, and then it is a sync service, or it keeps it. -/
theorem moves_on_write (cfg : Config) (fs : FileSystem ω) (uv : Uv ω) {a : ℕ}
    (hreg : a ∈ d.services) :
    Moves cfg fs uv (some up.addr,d) (none,(onWriteFrame cfg fs uv d a up).2.2) ∧
        ((onWriteFrame cfg fs uv d a up).2.2.crashed = true ∨
          (onWriteFrame cfg fs uv d a up).1 = 1) ∨
      ∃ up', (onWriteFrame cfg fs uv d a up).2.1 = up' ∧ up'.addr = up.addr ∧
        Moves cfg fs uv (some up.addr,d) (some up.addr,(onWriteFrame cfg fs uv d a up).2.2) ∧
        (onWriteFrame cfg fs uv d a up).2.2.services = d.services ∧
        ((onWriteFrame cfg fs uv d a up).1 < 0 ∨ (onWriteFrame cfg fs uv d a up).1 = 0 ∧
          ∃ svc, (onWriteFrame cfg fs uv d a up).2.2.alive a = some svc ∧ svc.kind.IsSync) := by
  unfold onWriteFrame
  split
  · exact Or.inl ⟨moves_fault d _ (by decide),Or.inl rfl⟩
  · rename_i svc ha
    have hemit : Moves cfg fs uv (some up.addr,d) (some up.addr,d.emit (.onWrite a)) :=
      (Move.writes hreg).moves
    dsimp only
    split
    · rename_i s hk
      set r := fileSyncOnWrite cfg fs (⟨s,up.p,d.os,[]⟩ : SyncCtx ω) with hr
      have hle : r.1 ≤ 0 := by
        rw [hr]
        unfold fileSyncOnWrite
        dsimp only
        split
        · exact le_rfl
        · rename_i hneg
          exact (not_le.mp hneg).le
      refine Or.inr ⟨_,rfl,rfl,(Move.written hreg ha hk _ (.write _ _)).moves,rfl,?_⟩
      rcases hle.lt_or_eq with hlt | heq
      · exact Or.inl hlt
      · refine Or.inr ⟨heq,{ svc with kind := .sync r.2.svc },?_,trivial⟩
        exact (alive_iff _ _ _).mpr ⟨Function.update_self _ _ _,((alive_iff _ _ _).mp ha).2⟩
    · rename_i state hk
      dsimp only
      unfold atcpStreamOnWrite
      split
      · exact Or.inr ⟨_,rfl,rfl,hemit,rfl,Or.inl (show (-1 : ℤ) < 0 by decide)⟩
      · rename_i hidx
        have htakes : svc.kind.Takes := by
          rw [hk]
          exact not_lt.mp hidx
        rcases moves_service_write up cfg fs uv (d := d.emit (.onWrite a))
          ha htakes with ⟨hret,hserv,hm⟩ | ⟨hret,hm⟩
        · exact Or.inr ⟨_,rfl,rfl,hemit.trans hm,hserv,Or.inl (by rw [hret]; decide)⟩
        · exact Or.inl ⟨hemit.trans hm,Or.inr hret⟩
    · rename_i waitAck hk
      have htakes : svc.kind.Takes := by
        rw [hk]
        trivial
      unfold shellWrite
      rcases moves_service_write up cfg fs uv (d := d.emit (.onWrite a))
        ha htakes with ⟨hret,hserv,hm⟩ | ⟨hret,hm⟩
      · exact Or.inr ⟨_,rfl,rfl,hemit.trans hm,hserv,Or.inl (by rw [hret]; decide)⟩
      · exact Or.inl ⟨hemit.trans hm,Or.inr hret⟩

/-- The service that answers a WRTE with data. -/
def writeReplies (cfg : Config) (fs : FileSystem ω) (uv : Uv ω) (d : Daemon ω) (up : ApacketUv) :
    Option ℕ :=
  match adbClientFindService d up.p.msg.arg1 up.p.msg.arg0 with
  | none => none
  | some a =>
    let r := onWriteFrame cfg fs uv d a up
    if r.2.2.crashed = false ∧ r.1 = 0 ∧ 0 < r.2.1.p.writeLen then some a else none

/-- What the handling of a frame comes to: a chain of moves, at the end of which a sync service may
answer with data. -/
inductive Framed (cfg : Config) (fs : FileSystem ω) (uv : Uv ω) (reply : Option ℕ)
    (x : Option ℕ × Daemon ω) (d' : Daemon ω) : Prop
  | moves (hr : reply = none) (hm : Moves cfg fs uv x (none,d'))
  | replied (a : ℕ) (y : Option ℕ × Daemon ω) (hr : reply = some a) (hm : Moves cfg fs uv x y)
    (hf : Answering uv a y (none,d'))
  | continued (a : ℕ) (y : Option ℕ × Daemon ω) (hr : reply = none) (hm : Moves cfg fs uv x y)
    (hf : Continued cfg fs uv a y (none,d'))

theorem Framed.prepend {reply : Option ℕ} {x y : Option ℕ × Daemon ω} (hm : Moves cfg fs uv x y)
    (hf : Framed cfg fs uv reply y d') : Framed cfg fs uv reply x d' := by
  cases hf with
  | moves hr hm' => exact .moves hr (hm.trans hm')
  | replied a z hr hm' hf => exact .replied a z hr (hm.trans hm') hf
  | continued a z hr hm' hf => exact .continued a z hr (hm.trans hm') hf

theorem framed_write (ht : d.crashed = false → Table d) :
    Framed cfg fs uv (writeReplies cfg fs uv d up) (some up.addr,d)
      (handleWriteFrame cfg fs uv d up) := by
  unfold handleWriteFrame writeReplies
  cases hfind : adbClientFindService d up.p.msg.arg1 up.p.msg.arg0 with
  | none => exact .moves rfl (moves_send_close up _ _)
  | some a =>
    have hreg := (find_service_spec d _ _ a hfind).1
    dsimp only
    rcases moves_on_write up cfg fs uv hreg with
      ⟨hm,hret⟩ | ⟨up',hup,haddr,hm,hserv,hret⟩
    · have hnone : ¬((onWriteFrame cfg fs uv d a up).2.2.crashed = false ∧
          (onWriteFrame cfg fs uv d a up).1 = 0 ∧
          0 < (onWriteFrame cfg fs uv d a up).2.1.p.writeLen) := by
        rintro ⟨hc',hzero,-⟩
        rcases hret with hcr | hret
        · rw [hc'] at hcr
          cases hcr
        · rw [hret] at hzero
          exact absurd hzero (by decide)
      rw [if_neg hnone]
      refine .moves rfl (hm.next (fun hc' => ?_))
      rcases hret with hcr | hret
      · rw [hc'] at hcr
        cases hcr
      · rw [hret, if_neg (by decide), if_neg (by decide)]
        exact Moves.refl _
    · rw [hup]
      generalize onWriteFrame cfg fs uv d a up = res at *
      obtain ⟨ret,up₁,e⟩ := res
      dsimp only at *
      cases hc' : e.crashed with
      | true =>
        rw [if_neg (fun h => by cases h.1), Daemon.next, if_pos hc']
        exact .moves rfl (hm.trans (Move.halt hc').moves)
      | false =>
        have htable := hm.table ht hc'
        have hrun : ¬e.crashed = true := by simp [hc']
        rw [← haddr] at hm ⊢
        rcases hret with hlt | ⟨heq,svc,ha,hsync⟩
        · have hnone : ¬(false = false ∧ ret = 0 ∧ 0 < up'.p.writeLen) := fun h => by omega
          rw [if_neg hnone, Daemon.next, if_neg hrun, if_pos hlt]
          exact .moves rfl (hm.trans (moves_close_with htable hc' (hserv ▸ hreg) up'))
        · have hnlt : ¬ret < 0 := by omega
          rw [Daemon.next, if_neg hrun, if_neg hnlt, if_pos heq, Daemon.withService, ha]
          dsimp only
          by_cases hpos : 0 < up'.p.writeLen
          · rw [if_pos ⟨rfl,heq,hpos⟩]
            exact .replied a _ rfl hm (.replied (up'.message aOkay svc.id svc.peerId 0) ha hsync
              ⟨rfl,rfl,rfl⟩ hpos)
          · rw [if_neg (fun h => hpos h.2.2)]
            exact .moves rfl (hm.trans (Move.okay (up'.message aOkay svc.id svc.peerId 0) ha
              ⟨rfl,rfl,rfl⟩ (Nat.eq_zero_of_not_pos hpos) (Or.inl hsync)).moves)

theorem set_service_self {a : ℕ} {svc : Service} (ha : d.alive a = some svc) :
    d.setService a svc = d := by
  have hheap : Function.update d.heap a (some svc) = d.heap := by
    rw [← ((alive_iff _ _ _).mp ha).1]
    exact Function.update_eq_self a d.heap
  rw [Daemon.setService, hheap]

/-- on_ack_frame of a service that was found: it fails, or it leaves a reply in the packet, and
then it is a sync service, or nothing. -/
theorem moves_on_ack (cfg : Config) (fs : FileSystem ω) (uv : Uv ω) {a : ℕ} (hreg : a ∈ d.services)
    (hw : up.p.writeLen = 0) :
    Moves cfg fs uv (some up.addr,d) (none,(onAckFrame cfg fs d a up).2.2) ∧
        (onAckFrame cfg fs d a up).2.2.crashed = true ∨
      ∃ up', (onAckFrame cfg fs d a up).2.1 = up' ∧ up'.addr = up.addr ∧
        Moves cfg fs uv (some up.addr,d) (some up.addr,(onAckFrame cfg fs d a up).2.2) ∧
        (onAckFrame cfg fs d a up).2.2.services = d.services ∧
        (onAckFrame cfg fs d a up).1 ≤ 0 ∧
          (0 < up'.p.writeLen → ∃ svc s c, d.alive a = some svc ∧ svc.kind = .sync s ∧
            SyncCall cfg fs s c ∧
            (onAckFrame cfg fs d a up).2.2 = syncDone (d.emit (.onAck a)) a svc c) := by
  unfold onAckFrame
  split
  · exact Or.inl ⟨moves_fault d _ (by decide),rfl⟩
  · rename_i svc ha
    dsimp only
    split
    · rename_i s hk
      set r := fileSyncOnAck cfg fs (⟨s,up.p,d.os,[]⟩ : SyncCtx ω) with hr
      have hle : r.1 ≤ 0 := by
        rw [hr]
        unfold fileSyncOnAck
        dsimp only
        split
        · exact le_rfl
        · rename_i hpos
          exact not_lt.mp hpos
      exact Or.inr ⟨_,rfl,rfl,(Move.ackedSync hreg ha hk _ (.ack _ _)).moves,rfl,hle,
        fun _ => ⟨svc,s,r.2,ha,hk,.ack _ _,rfl⟩⟩
    · rename_i state hk
      have hnot : ¬svc.kind.IsSync := by rw [hk]; exact id
      have hmove : Move cfg fs uv (some up.addr,d) _ := Move.acked hreg ha hnot
      have hret : (atcpStreamOnAck (d.emit (.onAck a)) a svc state).1 ≤ 0 := by
        unfold atcpStreamOnAck
        split
        · dsimp only
          split <;> decide
        · exact le_rfl
      have hdone : (atcpStreamOnAck (d.emit (.onAck a)) a svc state).2 =
          (d.emit (.onAck a)).setService a svc.acked := by
        unfold atcpStreamOnAck Service.acked
        rw [hk]
        split
        · rename_i hstate
          subst hstate
          rfl
        · rename_i hstate
          have hself : (d.emit (.onAck a)).setService a svc = d.emit (.onAck a) :=
            set_service_self ha
          cases state with
          | waitAck => exact absurd rfl hstate
          | _ => exact hself.symm
      dsimp only
      rw [hdone]
      exact Or.inr ⟨_,rfl,rfl,hmove.moves,rfl,hret,fun hpos => absurd hw (Nat.ne_of_gt hpos)⟩
    · rename_i waitAck hk
      have hnot : ¬svc.kind.IsSync := by rw [hk]; exact id
      have hmove : Move cfg fs uv (some up.addr,d) _ := Move.acked hreg ha hnot
      have hacked : svc.acked = shellKick { svc with kind := .shell false } false := by
        unfold Service.acked
        rw [hk]
      rw [hacked] at hmove
      exact Or.inr ⟨_,rfl,rfl,hmove.moves,rfl,le_rfl,fun hpos => absurd hw (Nat.ne_of_gt hpos)⟩

theorem moves_update_peer (cfg : Config) (fs : FileSystem ω) (uv : Uv ω) {a : ℕ} (peerId : ℕ)
    (hreg : a ∈ d.services) :
    a ∈ (updatePeerId d a peerId).services ∧
      ((updatePeerId d a peerId).crashed = true ∧
          Moves cfg fs uv (h,d) (none,updatePeerId d a peerId) ∨
        Moves cfg fs uv (h,d) (h,updatePeerId d a peerId)) := by
  unfold updatePeerId Daemon.withService
  split
  · exact ⟨hreg,Or.inl ⟨rfl,moves_fault d _ (by decide)⟩⟩
  · rename_i svc ha
    dsimp only
    split
    · rename_i hzero
      exact ⟨hreg,Or.inr (Move.shift ha (.adopt peerId hzero)).moves⟩
    · exact ⟨hreg,Or.inr (Moves.refl _)⟩

theorem framed_okay (ht : d.crashed = false → Table d) (hw : up.p.writeLen = 0) :
    Framed cfg fs uv none (some up.addr,d) (handleOkayFrame cfg fs uv d up) := by
  unfold handleOkayFrame
  split
  · exact .moves rfl (moves_send_close up _ _)
  · rename_i a hfind
    obtain ⟨hreg,hpeer⟩ := moves_update_peer cfg fs uv
      (h := some up.addr) up.p.msg.arg0 (find_service_spec d _ _ a hfind).1
    rcases hpeer with ⟨hcr,hpeer⟩ | hpeer
    · exact .moves rfl (hpeer.next (fun hc' => by rw [hc'] at hcr; cases hcr))
    have ht₁ := hpeer.table ht
    refine Framed.prepend hpeer ?_
    generalize updatePeerId d a up.p.msg.arg0 = e at *
    cases hc₁ : e.crashed with
    | true =>
      rw [Daemon.next, if_pos hc₁]
      exact .moves rfl (Move.halt hc₁).moves
    | false =>
      rw [Daemon.next, if_neg (by simp [hc₁])]
      dsimp only
      rcases moves_on_ack up cfg fs uv hreg hw with
        ⟨hm,hcr⟩ | ⟨up',hup,haddr,hm,hserv,hret,hsync⟩
      · exact .moves rfl (hm.next (fun hc' => by rw [hc'] at hcr; cases hcr))
      rw [hup]
      by_cases hsend : (onAckFrame cfg fs e a up).2.2.crashed = false ∧
          ¬(onAckFrame cfg fs e a up).1 < 0 ∧ 0 < up'.p.writeLen
      · obtain ⟨hc',hnlt,hpos⟩ := hsend
        obtain ⟨svc,s,c,ha,hk,hcall,hdone⟩ := hsync hpos
        have halive : (syncDone (e.emit (.onAck a)) a svc c).alive a =
            some { svc with kind := .sync c.svc } :=
          (alive_iff _ _ _).mpr ⟨Function.update_self _ _ _,((alive_iff _ _ _).mp ha).2⟩
        rw [Daemon.next, if_neg (by simp [hc']), if_neg hnlt, if_neg (by omega), if_pos hpos, hdone,
          Daemon.withService, halive]
        refine .continued a _ rfl (Moves.refl _) ?_
        rw [← haddr]
        exact .continued c
          (((up'.message up'.p.msg.command svc.id svc.peerId up'.p.msg.dataLength).message aWrte
            svc.id svc.peerId up'.p.writeLen).setWriteLen 0) hreg ha hk ⟨rfl,rfl,rfl⟩ rfl hcall
      · refine .moves rfl (hm.next (fun hc' => ?_))
        have htable := hm.table ht₁ hc'
        rw [← haddr]
        split
        · exact moves_close_with htable hc' (hserv ▸ hreg) up'
        · rename_i hnlt
          rw [if_neg (by omega), if_neg (fun hpos => hsend ⟨hc',hnlt,hpos⟩)]
          exact moves_release _ _ _ (fun _ => htable) hc' up'.addr

/-! OPEN. -/

/-- What adb_service_open comes to. -/
def OpenMoves (cfg : Config) (fs : FileSystem ω) (uv : Uv ω) (x : Option ℕ × Daemon ω)
    (up : ApacketUv) (r : Option ℕ × ApacketUv × Daemon ω) : Prop :=
  r.2.1.addr = up.addr ∧
    (r.2.2.crashed = true ∧ Moves cfg fs uv x (none,r.2.2) ∨
      Moves cfg fs uv x (x.1,r.2.2) ∧
        (r.1 = none ∧ r.2.1.p.writeLen = 0 ∨
          ∃ a svc, r.1 = some a ∧ r.2.2.alive a = some svc ∧
            (r.2.1.p.writeLen = apacketServiceInitAsync ∨
              r.2.1.p.writeLen = 0 ∧ (svc.kind.IsSync ∨ ∃ waitAck, svc.kind = .shell waitAck))))

theorem moves_finish_open (r : Option Service × ApacketUv × Daemon ω) (params : ServiceParams)
    (haddr : r.2.1.addr = up.addr) (hm : Moves cfg fs uv (h,d) (h,r.2.2))
    (hid : r.2.2.nextServiceId ≠ 0) (hpeer : r.2.1.p.msg.arg0 ≠ 0)
    (hnone : r.1 = none → r.2.1.p.writeLen = 0)
    (hsome : ∀ svc, r.1 = some svc → Constructed svc ∧
      (svc.kind.IsSync ∧ r.2.1.p.writeLen = 0 ∨ svc.kind = .shell false ∧ r.2.1.p.writeLen = 0 ∨
        svc.kind = .tcp .notConnected ∧ r.2.1.p.writeLen = apacketServiceInitAsync)) :
    OpenMoves cfg fs uv (h,d) up (finishOpen r params) := by
  unfold finishOpen
  split
  · rename_i hr
    exact ⟨haddr,Or.inr ⟨hm,Or.inl ⟨rfl,hnone hr⟩⟩⟩
  · rename_i svc hr
    obtain ⟨hcon,hkind⟩ := hsome svc hr
    have hk : svc.kind.IsSync ∨ svc.kind = .tcp .notConnected ∨ svc.kind = .shell false := by
      rcases hkind with hk | hk | hk
      · exact Or.inl hk.1
      · exact Or.inr (Or.inr hk.1)
      · exact Or.inr (Or.inl hk.1)
    have hreg : Move cfg fs uv (h,r.2.2) _ :=
      Move.register r.2.1.p.msg.arg0 params hcon hid hpeer hk
    refine ⟨haddr,Or.inr ⟨hm.trans hreg.moves,Or.inr ⟨r.2.2.fresh,
      { svc with id := r.2.2.nextServiceId, peerId := r.2.1.p.msg.arg0 },rfl,?_,?_⟩⟩⟩
    · exact set_service_alive r.2.2 r.2.2.fresh _ hcon.freed
    · rcases hkind with hk | hk | hk
      · exact Or.inr ⟨hk.2,Or.inl hk.1⟩
      · exact Or.inr ⟨hk.2,Or.inr ⟨false,hk.1⟩⟩
      · exact Or.inl hk.2

theorem moves_shell_service (cfg : Config) (fs : FileSystem ω) (uv : Uv ω) (d : Daemon ω)
    (cmd : List UInt8) :
    Moves cfg fs uv (h,d) (h,(shellService uv d cmd).2) ∧
      (shellService uv d cmd).2.nextServiceId = d.nextServiceId ∧
      ∀ svc, (shellService uv d cmd).1 = some svc →
        svc = shellKick (newService (.shell false) .idle) false := by
  have hos : Moves cfg fs uv (h,d) (h,d.setOs (uv.shell d.os cmd).1) := moves_os d _
  unfold shellService
  dsimp only
  split
  · exact ⟨hos,rfl,fun svc hsvc => (Option.some.inj hsvc).symm⟩
  · exact ⟨hos.trans (moves_emit _ .handleLost rfl),rfl,fun svc hsvc => by cases hsvc⟩
  · exact ⟨hos.trans (moves_emit _ .handleLost rfl),rfl,fun svc hsvc => by cases hsvc⟩
  · exact ⟨hos,rfl,fun svc hsvc => by cases hsvc⟩

theorem moves_service_open (hw : up.p.writeLen = 0) (hpeer : up.p.msg.arg0 ≠ 0) :
    OpenMoves cfg fs uv (h,d) up (adbServiceOpen cfg uv d up) := by
  unfold adbServiceOpen
  split
  · exact ⟨rfl,Or.inl ⟨rfl,moves_fault d _ (by decide)⟩⟩
  · rename_i hid
    split
    · refine moves_finish_open up _ _ rfl (moves_os d _) hid hpeer (fun _ => hw) (fun svc hsvc => ?_)
      obtain ⟨raw,-,rfl⟩ := Option.map_eq_some_iff.mp hsvc
      exact ⟨constructed_sync _,Or.inl ⟨trivial,hw⟩⟩
    · rename_i port _
      have hos : Moves cfg fs uv (h,d) (h,d.setOs (uv.connect d.os port).1) := moves_os d _
      unfold tcpForwardService
      split
      · refine moves_finish_open up _ _ rfl (Moves.refl _) hid hpeer (fun _ => hw) (fun svc hsvc => ?_)
        cases hsvc
      · dsimp only
        split
        · refine moves_finish_open up _ _ rfl hos hid hpeer (fun hn => by cases hn) (fun svc hsvc => ?_)
          obtain rfl := Option.some.inj hsvc
          exact ⟨constructed_tcp,Or.inr (Or.inr ⟨rfl,rfl⟩)⟩
        · have hlost := hos.trans (moves_emit _ .handleLost rfl)
          refine moves_finish_open up _ _ rfl hlost hid hpeer (fun _ => hw) (fun svc hsvc => ?_)
          cases hsvc
        · refine moves_finish_open up _ _ rfl hos hid hpeer (fun _ => hw) (fun svc hsvc => ?_)
          cases hsvc
    · rename_i cmd _
      obtain ⟨hm,hnext,hsome⟩ := moves_shell_service cfg fs uv (h := h) d cmd
      refine moves_finish_open up _ _ rfl hm (hnext ▸ hid) hpeer (fun _ => hw) (fun svc hsvc => ?_)
      obtain rfl := hsome svc hsvc
      exact ⟨constructed_shell,Or.inr (Or.inl ⟨rfl,hw⟩)⟩
    · exact ⟨rfl,Or.inr ⟨moves_emit d _ rfl,Or.inl ⟨rfl,hw⟩⟩⟩
    · exact ⟨rfl,Or.inr ⟨Moves.refl _,Or.inl ⟨rfl,hw⟩⟩⟩

theorem moves_after_open (ht : d.crashed = false → Table d)
    (r : Option ℕ × ApacketUv × Daemon ω) (hr : OpenMoves cfg fs uv (some up.addr,d) up r) :
    Moves cfg fs uv (some up.addr,d) (none,afterOpen cfg fs uv r) := by
  obtain ⟨haddr,hopen⟩ := hr
  unfold afterOpen
  rcases hopen with ⟨hcr,hm⟩ | ⟨hm,hopen⟩
  · exact hm.next (fun hc' => by rw [hc'] at hcr; cases hcr)
  refine hm.next (fun hc' => ?_)
  have htable := hm.table ht
  dsimp only
  rw [← haddr]
  rcases hopen with ⟨hnone,hzero⟩ | ⟨a,svc,hsome,ha,hlen⟩
  · rw [hnone]
    dsimp only
    rw [if_neg (by omega)]
    exact moves_send_close r.2.1 _ _
  · rw [hsome]
    dsimp only
    split
    · exact moves_release _ _ _ htable hc' _
    · rename_i hasync
      have hlen := hlen.resolve_left hasync
      refine moves_with_service (fun svc' ha' => ?_)
      obtain rfl := Option.some.inj (ha.symm.trans ha')
      exact (Move.okay (r.2.1.message aOkay svc.id svc.peerId 0) ha ⟨rfl,rfl,rfl⟩ hlen.1
        hlen.2).moves

theorem moves_open_frame (ht : d.crashed = false → Table d) (hc : d.crashed = false)
    (hw : up.p.writeLen = 0) :
    Moves cfg fs uv (some up.addr,d) (none,handleOpenFrame cfg fs uv d up) := by
  unfold handleOpenFrame
  split
  · exact moves_release _ _ _ ht hc _
  · rename_i hids
    have hopen : OpenMoves cfg fs uv (some up.addr,d) (terminateName up)
        (adbServiceOpen cfg uv d (terminateName up)) :=
      moves_service_open (terminateName up) hw (not_or.mp hids).1
    exact moves_after_open (terminateName up) ht _ hopen

/-- The service that answers a frame of the host with data. -/
def frameReplies (cfg : Config) (fs : FileSystem ω) (uv : Uv ω) (d : Daemon ω) (up : ApacketUv) :
    Option ℕ :=
  if up.p.msg.command = aWrte then
    writeReplies cfg fs uv (d.emit (.handed d.isConnected up.p.msg up.p.payload)) (up.setWriteLen 0)
  else none

/-- adb_process_packet. -/
theorem framed_process_packet (cfg : Config) (fs : FileSystem ω) (uv : Uv ω)
    (ht : d.crashed = false → Table d) (hc : d.crashed = false) :
    Framed cfg fs uv (frameReplies cfg fs uv d up) (some up.addr,d)
      (adbProcessPacket cfg fs uv d up) := by
  have hhanded : Moves cfg fs uv (some up.addr,d)
      (some (up.setWriteLen 0).addr,d.emit (.handed d.isConnected up.p.msg up.p.payload)) :=
    moves_emit d _ rfl
  have ht' := hhanded.table ht
  refine Framed.prepend hhanded ?_
  have hmsg : (up.setWriteLen 0).p.msg = up.p.msg := rfl
  unfold adbProcessPacket dispatchFrame frameReplies
  dsimp only
  rw [hmsg]
  by_cases hwrte : up.p.msg.command = aWrte
  · have hauth : ¬(cfg.authentication = true ∧ aWrte = aAuth) := fun h => absurd h.2 (by decide)
    rw [if_pos hwrte, hwrte, if_neg (by decide), if_neg hauth, if_neg (by decide),
      if_neg (by decide), if_pos rfl]
    exact framed_write _ ht'
  rw [if_neg hwrte]
  split
  · split
    · exact .moves rfl (moves_send_auth _ ht' hc rfl)
    · exact .moves rfl (moves_accept _ rfl)
  · split
    · split
      · exact .moves rfl (moves_invalid _ ht' hc)
      · exact .moves rfl (moves_auth_frame _ ht' hc rfl)
    · split
      · exact .moves rfl (moves_open_frame _ ht' hc rfl)
      · split
        · exact .moves rfl (moves_close_frame _ ht' hc)
        · split
          · exact framed_okay _ ht' rfl
          · exact .moves rfl (moves_invalid _ ht' hc)

end Frames

end MicroADB
