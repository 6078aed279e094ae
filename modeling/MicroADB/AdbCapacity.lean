import MicroADB.AdbReceive
import MicroADB.AdbServiceClose

/-! The data area of the packet of a frame, and what the handler of the frame may fill. -/
namespace MicroADB
open ByteMemory EventRun

variable {ω : Type} {cfg : Config} {fs : FileSystem ω} {uv : Uv ω} {d d' : Daemon ω}

/-- adb_process_packet answers the frame with send_cnxn_frame. -/
def AcceptsConnection (cfg : Config) (isConnected : Bool) (up : ApacketUv) : Prop :=
  up.p.msg.command = aCnxn ∧ (cfg.authentication = false ∨ isConnected = true) ∨
    up.p.msg.command = aAuth ∧ cfg.authentication = true ∧ isConnected = false ∧
      up.p.msg.arg0 = adbAuthRsaPublicKey ∧ cfg.authPubkey = true

/-- The service with these ids writes replies into the packets it gets. -/
def FindsReplier (d : Daemon ω) (id peerId : ℕ) : Prop :=
  ∃ a svc s, adbClientFindService d id peerId = some a ∧ d.heap a = some svc ∧ svc.kind = .sync s

/-- adb_process_packet passes the frame to on_write_frame or on_ack_frame of such a service. -/
def ReachesReplier (d : Daemon ω) (up : ApacketUv) : Prop :=
  up.p.msg.command = aWrte ∧ FindsReplier d up.p.msg.arg1 up.p.msg.arg0 ∨
    up.p.msg.command = aOkay ∧ FindsReplier d up.p.msg.arg1 0

/-- The data area is as large as the bound that the handler of the frame fills it up to. -/
structure PacketFits (cfg : Config) (d : Daemon ω) (up : ApacketUv) : Prop where
  banner : AcceptsConnection cfg d.isConnected up → cfg.cnxnPayloadSize ≤ up.cap
  reply : ReachesReplier d up → cfg.payloadSize ≤ up.cap

/-- The packet that is being received has the size of the frames of its connection state. -/
def Sized (cfg : Config) (d : Daemon ω) : Prop :=
  d.socket.closing = false → ∀ ap, d.curPacket = some ap → ap.cap = frameLimit cfg d.isConnected

theorem process_packet_accepts (d : Daemon ω) (up : ApacketUv)
    (h : AcceptsConnection cfg d.isConnected up) :
    adbProcessPacket cfg fs uv d up =
      acceptConnection cfg uv (d.emit (.handed d.isConnected up.p.msg up.p.payload))
        (up.setWriteLen 0) := by
  have hcmd : (up.setWriteLen 0).p.msg = up.p.msg := rfl
  have hconn (e : Event) : (d.emit e).isConnected = d.isConnected := rfl
  unfold adbProcessPacket
  dsimp only
  rw [hcmd, hconn]
  rcases h with ⟨hc,hauth⟩ | ⟨hc,hauth,hconn',harg,hkey⟩
  · rw [if_pos hc, if_neg (fun h => ?_)]
    rcases hauth with hauth | hauth
    · rw [hauth] at h
      cases h.1
    · rw [hauth] at h
      cases h.2
  · rw [hc, if_neg (by decide), if_pos ⟨hauth,rfl⟩, hconn', if_neg Bool.false_ne_true]
    unfold handleAuthFrame
    rw [hcmd, harg, if_neg (by decide), if_neg (by decide), if_pos ⟨rfl,hkey⟩]

/-! The size of the packet that is received. -/

/-- What one function leaves of the reception keeps its size. -/
theorem Sized.aside {c : Prop} (h : Sized cfg d) (ha : Aside c d d')
    (hconn : d'.isConnected = d.isConnected) : Sized cfg d' := by
  intro hopen ap hap
  rw [hconn]
  refine h ?_ ap ((ha.curPacket hopen).symm.trans hap)
  by_contra hne
  rw [ha.closing (by simpa using hne)] at hopen
  cases hopen

theorem Sized.socket (h : Sized cfg d) (s : UvStream) (hs : s.closing = d.socket.closing) :
    Sized cfg (d.setSocket s) := fun hopen ap hap => h (hs ▸ hopen) ap hap

theorem sized_none (h : d.curPacket = none) : Sized cfg d := by
  intro _ ap hap
  rw [h] at hap
  cases hap

theorem allocate_cap (b : Bool) (ap : RawPacket)
    (h : (adbUvPacketAllocate cfg uv d b).1 = some ap) :
    ap.cap = (if b then cfg.cnxnPayloadSize else cfg.payloadSize) ∧
      (adbUvPacketAllocate cfg uv d b).2.socket = d.socket := by
  unfold adbUvPacketAllocate at h ⊢
  split at h
  · cases h
  · rename_i hlt
    rw [if_neg hlt]
    dsimp only at h ⊢
    split at h
    · cases h
    · obtain rfl := Option.some.inj h
      exact ⟨rfl,rfl⟩

theorem allocate_frame_sized (fs : FileSystem ω) (uv : Uv ω) (h : Sized cfg d) :
    Sized cfg (adbUvAllocateFrame cfg uv d).2 ∧
      (adbUvAllocateFrame cfg uv d).2.isConnected = d.isConnected ∧
      ((adbUvAllocateFrame cfg uv d).1 ≠ 0 →
        (adbUvAllocateFrame cfg uv d).2.socket = d.socket) := by
  have hkeeps : Keeps cfg fs uv (fun _ _ => True) (Aside False d) := aside_keeps False d
  have halloc : Aside False d (adbUvPacketAllocate cfg uv d (!d.isConnected)).2 :=
    hkeeps.allocate _ (Aside.refl False d)
  have hconn := halloc.isConnected.resolve_left id
  unfold adbUvAllocateFrame
  split
  · split <;> exact ⟨h,rfl,fun _ => rfl⟩
  · dsimp only
    split
    · exact ⟨h.aside halloc hconn,hconn,fun hne => absurd rfl hne⟩
    · rename_i ap hap
      obtain ⟨hcap,hsocket⟩ := allocate_cap _ ap hap
      refine ⟨fun _ ap' hap' => ?_,hconn,fun _ => hsocket⟩
      obtain rfl := Option.some.inj hap'
      rw [hcap]
      change _ = frameLimit cfg (adbUvPacketAllocate cfg uv d (!d.isConnected)).2.isConnected
      rw [hconn]
      cases d.isConnected <;> rfl

theorem release_unused_sized (fs : FileSystem ω) (uv : Uv ω) (ap : RawPacket) (h : Sized cfg d)
    (hc : d.crashed = false) :
    Sized cfg (releaseUnused cfg fs uv d ap) ∧
      (releaseUnused cfg fs uv d ap).isConnected = d.isConnected := by
  have hkeeps : KeepsAll cfg fs uv (fun _ _ => True) (Aside False d) := aside_all False d
  have hrelease := hkeeps.release d ap.addr (Aside.refl False d) hc
  have hconn := hrelease.isConnected.resolve_left id
  unfold releaseUnused
  split
  · unfold Daemon.next
    split
    · exact ⟨h.aside hrelease hconn,hconn⟩
    · exact ⟨sized_none rfl,hconn⟩
  · exact ⟨h,rfl⟩

/-- What receiving leaves: the packet it received has the size of its connection state. -/
structure ReceivedSized (cfg : Config) (b : Bool) (r : Option ApacketUv × Daemon ω) : Prop where
  sized : Sized cfg r.2
  isConnected : r.2.isConnected = b
  packet : ∀ up, r.1 = some up → up.cap = frameLimit cfg b ∧ r.2.curPacket = none

theorem receive_bytes_sized (ap : RawPacket) (bs : List UInt8) (hap : d.curPacket = some ap)
    (hopen : d.socket.closing = false) (h : Sized cfg d) :
    ReceivedSized cfg d.isConnected (receiveBytes cfg d ap bs) := by
  have hcap := h hopen ap hap
  have hclosed (e : Daemon ω) (why : CloseReason) (he : Sized cfg e)
      (hconn : e.isConnected = d.isConnected) :
      ReceivedSized cfg d.isConnected (none, opsClose e why) := by
    have hclose : (opsClose e why).isConnected = e.isConnected ∧
        (opsClose e why).curPacket = e.curPacket ∧
        (e.socket.closing = true → (opsClose e why).socket.closing = true) := by
      unfold opsClose
      split
      · exact ⟨rfl,rfl,id⟩
      · exact ⟨rfl,rfl,fun _ => rfl⟩
    refine ⟨fun hop ap' hap' => ?_,hclose.1.trans hconn,(fun up hup => by cases hup)⟩
    rw [hclose.1]
    refine he ?_ ap' (hclose.2.1 ▸ hap')
    by_contra hne
    rw [hclose.2.2 (by simpa using hne)] at hop
    cases hop
  have hstored (n : ℕ) : Sized cfg { ({ d with curPacket := some { ap with
      raw := store ap.raw d.curLen bs } }.emit (.received bs)) with curLen := n } := by
    intro _ ap' hap'
    obtain rfl := Option.some.inj hap'
    exact hcap
  unfold receiveBytes
  dsimp only
  split
  · exact hclosed _ _ (hstored d.curLen) rfl
  · split
    · exact ⟨hstored _,rfl,(fun up hup => by cases hup)⟩
    · split
      · exact hclosed _ _ (hstored _) rfl
      · refine ⟨sized_none rfl,rfl,fun up hup => ⟨?_,rfl⟩⟩
        obtain rfl := Option.some.inj hup
        exact hcap

theorem receive_sized (r : ReadResult) (hopen : d.socket.closing = false) (h : Sized cfg d) :
    ReceivedSized cfg d.isConnected (receive cfg fs uv d r) := by
  have hframe : Sized cfg (adbUvAllocateFrame cfg uv d).2 ∧ _ := allocate_frame_sized fs uv h
  obtain ⟨hframe,hconn,hsocket⟩ := hframe
  have hnone (e : Daemon ω) (he : Sized cfg e) (hec : e.isConnected = d.isConnected) :
      ReceivedSized cfg d.isConnected ((none : Option ApacketUv), e) :=
    ⟨he,hec,(fun up hup => by cases hup)⟩
  unfold receive
  dsimp only
  split
  · exact hnone _ hframe hconn
  · rename_i hc
    split
    · have hstarve (s : UvStream) : s.starve.closing = s.closing := by
        unfold UvStream.starve
        split <;> rfl
      refine hnone _ (hframe.socket _ ?_) hconn
      split
      · exact hstarve _
      · rfl
    · rename_i hne
      have hopen' : (adbUvAllocateFrame cfg uv d).2.socket.closing = false := by
        rw [hsocket hne]
        exact hopen
      rw [← hconn]
      unfold adbUvOnDataAvailable
      split
      · rename_i ap bs hap
        split
        · have hrelease := release_unused_sized fs uv ap hframe (by simpa using hc)
          exact ⟨hrelease.1,hrelease.2,(fun up hup => by cases hup)⟩
        · exact receive_bytes_sized ap _ hap hopen' hframe
      · exact ⟨hframe.aside (c := False) (quietly_fault _ _ rfl).aside rfl,rfl,
          (fun up hup => by cases hup)⟩
      · have hclose := quietly_ops_close (adbUvAllocateFrame cfg uv d).2 .readError rfl
        exact ⟨hframe.aside (c := False) hclose.aside hclose.isConnected,hclose.isConnected,
          (fun up hup => by cases hup)⟩

/-! Runs. -/

theorem reading_open (hs : Sound cfg uv [] d) (hc : d.crashed = false)
    (hact : d.socket.active = true) : d.socket.closing = false := by
  by_contra hne
  have hoff := ((hs.running hc).2.socketWf.closing (by simpa using hne)).1
  rw [hact] at hoff
  cases hoff

theorem transport_read_sized (r : ReadResult) (hopen : d.socket.closing = false)
    (h : Sized cfg d) : Sized cfg (transportRead cfg fs uv d r) := by
  have hreceive : ReceivedSized cfg _ (receive cfg fs uv d r) := receive_sized r hopen h
  unfold transportRead
  dsimp only
  split
  · exact hreceive.sized
  · rename_i up hup
    obtain ⟨-,hnone⟩ := hreceive.packet up hup
    have hsized := hreceive.sized
    generalize (receive cfg fs uv d r).2 = e at hsized hnone
    refine keeps_next hsized (fun hc => ?_)
    have hframes : KeepsFrames cfg fs uv (fun _ _ => True)
        (Aside True (e.emit (.handed e.isConnected up.p.msg up.p.payload))) := aside_frames _
    have haside := hframes.process_packet up (Aside.refl True _) hc (frame_closes_true _ _)
    -- no packet is being received while one is processed
    exact fun hop => sized_none ((haside.curPacket hop).trans hnone) hop

theorem sized_callback (i : Input) (hs : Sound cfg uv [] d) (h : Sized cfg d) :
    Sized cfg (step cfg fs uv d i) := by
  by_cases hread : ∃ r, i = .transportRead r
  · obtain ⟨r,rfl⟩ := hread
    unfold step
    split
    · exact h
    · rename_i hc
      dsimp only
      split
      · rename_i hact
        exact transport_read_sized r (reading_open hs (by simpa using hc) hact) h
      · exact h
  · have haside := aside_callback fs i hs (fun r hi => hread ⟨r,hi⟩)
    exact h.aside haside (haside.isConnected.resolve_left id)

theorem sized_run (cfg : Config) (fs : FileSystem ω) (uv : Uv ω) (token : List UInt8) (os : ω)
    (is : List Input) : Sound cfg uv [] (daemonRun cfg fs uv token os is) ∧
      Sized cfg (daemonRun cfg fs uv token os is) :=
  run_invariant (step cfg fs uv) (fun d => Sound cfg uv [] d ∧ Sized cfg d)
    (fun _ i hd => ⟨sound_callback i hd.1,sized_callback i hd.1 hd.2⟩) _
    ⟨sound_start token os,sized_none rfl⟩ is

/-- The frame is filled as the connection state that it was received in expects, or the sizes
allow the other as well. -/
structure FillsAsReceived (cfg : Config) (d : Daemon ω) (up : ApacketUv) : Prop where
  banner : AcceptsConnection cfg d.isConnected up → d.isConnected = true →
    cfg.cnxnPayloadSize ≤ cfg.payloadSize
  reply : ReachesReplier d up → d.isConnected = false → cfg.payloadSize ≤ cfg.cnxnPayloadSize

/-- In every run, the packet of a frame that is handed to adb_process_packet is large enough for
its handler exactly when the banner is not written in answer to a frame of the connection, and
no service replies before it, or the other size is enough too. -/
theorem packet_fits_iff (cfg : Config) (fs : FileSystem ω) (uv : Uv ω) (token : List UInt8)
    (os : ω) (is : List Input) (r : ReadResult) (up : ApacketUv) (d : Daemon ω)
    (hrun : (daemonRun cfg fs uv token os is).crashed = false)
    (hread : (daemonRun cfg fs uv token os is).socket.active = true)
    (h : receive cfg fs uv (daemonRun cfg fs uv token os is) r = (some up, d)) :
    PacketFits cfg d up ↔ FillsAsReceived cfg d up := by
  have hinv := sized_run cfg fs uv token os is
  have hreceive : ReceivedSized cfg _ (receive cfg fs uv (daemonRun cfg fs uv token os is) r) :=
    receive_sized r (reading_open hinv.1 hrun hread) hinv.2
  rw [h] at hreceive
  obtain ⟨hcap,-⟩ := hreceive.packet up rfl
  rw [← hreceive.isConnected] at hcap
  unfold frameLimit at hcap
  constructor
  · intro hfits
    refine ⟨fun hacc hconn => ?_,fun hreach hconn => ?_⟩
    · have hle := hfits.banner hacc
      rwa [hcap, if_pos hconn] at hle
    · have hle := hfits.reply hreach
      rwa [hcap, if_neg (by simp [hconn])] at hle
  · intro hfills
    refine ⟨fun hacc => ?_,fun hreach => ?_⟩
    · rw [hcap]
      split
      · rename_i hconn
        exact hfills.banner hacc hconn
      · exact le_rfl
    · rw [hcap]
      split
      · exact le_rfl
      · rename_i hconn
        exact hfills.reply hreach (by simpa using hconn)

/-- The header of a CNXN without payload. -/
def cnxnHeader : ReadResult :=
  .data (⟨0,⟨aCnxn,0,0,0,0,0⟩,fun _ => 0⟩ : Apacket).seal.msg.bytes

/-- With equal sizes the banner has its room. -/
theorem banner_fits_default :
    ∃ up d, receive defaultConfig emptyFs plainUv
        (daemonRun defaultConfig emptyFs plainUv [] () []) cnxnHeader = (some up, d) ∧
      PacketFits defaultConfig d up := by
  have hread : (receive defaultConfig emptyFs plainUv
      (daemonRun defaultConfig emptyFs plainUv [] () []) cnxnHeader).1.isSome = true := by
    decide +kernel
  obtain ⟨up,hup⟩ := Option.isSome_iff_exists.mp hread
  refine ⟨up,_,Prod.ext hup rfl,?_⟩
  rw [packet_fits_iff defaultConfig emptyFs plainUv [] () [] cnxnHeader up _ rfl rfl
    (Prod.ext hup rfl)]
  exact ⟨fun _ _ => le_rfl,fun _ _ => le_rfl⟩

/-- A client that was accepted with its public key. -/
def keyAccepted : List Input :=
  hostFrame aAuth adbAuthRsaPublicKey 0 [] ++ [.transportWritten false]

/-- It sends a CNXN: the banner may have 1024 bytes, and the packet has room for 64. -/
theorem banner_overflows :
    ∃ up d, receive readmeConfig emptyFs plainUv
        (daemonRun readmeConfig emptyFs plainUv [] () keyAccepted) cnxnHeader = (some up, d) ∧
      ¬PacketFits readmeConfig d up := by
  have hread : (receive readmeConfig emptyFs plainUv
      (daemonRun readmeConfig emptyFs plainUv [] () keyAccepted) cnxnHeader).1.map
        (fun up => (up.cap, up.p.msg.command)) = some (64, aCnxn) := by decide +kernel
  have hconn : (receive readmeConfig emptyFs plainUv
      (daemonRun readmeConfig emptyFs plainUv [] () keyAccepted) cnxnHeader).2.isConnected = true := by
    decide +kernel
  obtain ⟨up,hup,hpair⟩ := Option.map_eq_some_iff.mp hread
  obtain ⟨hcap,hcmd⟩ := Prod.mk.inj hpair
  refine ⟨up,_,Prod.ext hup rfl,fun hfits => ?_⟩
  have hle := hfits.banner (Or.inl ⟨hcmd,Or.inr hconn⟩)
  rw [hcap] at hle
  exact absurd hle (by decide)

/-! What a read may fill. -/

/-- The buffer that libuv is offered: len bytes of the packet ap from curLen on. -/
structure Offer (cfg : Config) (d : Daemon ω) (ap : RawPacket) (len : ℕ) : Prop where
  nonempty : 0 < len
  /-- It begins behind what the packet holds, which is all that was read since the last frame. -/
  unread : receivedBytes d.log =
    (handedFrames d.log).flatMap (fun f => wire f.2) ++ slice ap.raw 0 d.curLen
  inside : d.curLen+len ≤ sizeofAmessage+ap.cap

/-- The bytes that are missing have their place, whatever length the header names. -/
theorem Collected.missing {rest : List UInt8} (h : Collected cfg d rest) :
    0 < missing rest ∧
      rest.length+missing rest ≤ sizeofAmessage+frameLimit cfg d.isConnected := by
  unfold MicroADB.missing
  split
  · omega
  · rename_i hge
    have hge := not_lt.mp hge
    have hshort := h.short hge
    have hlimit : (MicroADB.header rest).dataLength ≤ frameLimit cfg d.isConnected := by
      by_contra hlt
      exact h.header ⟨hge,Or.inr (not_le.mp hlt)⟩
    omega

/-- Without room there is no packet. -/
theorem allocate_frame_none {rest : List UInt8} (h : Collected cfg d rest)
    (hz : (adbUvAllocateFrame cfg uv d).1 = 0) :
    (adbUvAllocateFrame cfg uv d).2.curPacket = none := by
  unfold adbUvAllocateFrame at hz ⊢
  split at hz
  · rename_i ap hap
    obtain ⟨hlen,hslice⟩ := h.some ap hap
    split at hz
    · rename_i hlt
      exact absurd hz (Nat.sub_ne_zero_of_lt hlt)
    · rename_i hge
      have hge : sizeofAmessage ≤ rest.length := hlen ▸ not_lt.mp hge
      have hshort := h.short hge
      have hz : sizeofAmessage+(amessage ap.raw).dataLength-d.curLen = 0 := hz
      rw [amessage_of_slice ap.raw rest hslice hge, hlen] at hz
      omega
  · rename_i hnone
    dsimp only at hz ⊢
    split at hz
    · unfold adbUvPacketAllocate
      split
      · exact hnone
      · dsimp only
        split
        · exact (quietly_ops_close _ _ rfl).curPacket.trans hnone
        · exact hnone
    · exact absurd hz (Nat.succ_ne_zero 23)

theorem allocate_frame_running (hne : (adbUvAllocateFrame cfg uv d).1 ≠ 0)
    (hc : d.crashed = false) : (adbUvAllocateFrame cfg uv d).2.crashed = false := by
  unfold adbUvAllocateFrame at hne ⊢
  split
  · split <;> exact hc
  · rename_i hcur
    dsimp only
    split
    · rename_i hnone
      rw [hcur] at hne
      dsimp only at hne
      rw [hnone] at hne
      exact absurd rfl hne
    · rename_i ap hap
      exact (allocate_some cfg uv d _ ap hap).1.trans hc

/-- In every run until the client is closed, the buffer offered for a read while there is a packet
is not empty, begins at the first byte of the frame that has not been received, and ends in
the memory of the packet. -/
theorem offered_inside (cfg : Config) (fs : FileSystem ω) (uv : Uv ω) (token : List UInt8)
    (os : ω) (is : List Input) (ap : RawPacket)
    (hrun : (daemonRun cfg fs uv token os is).crashed = false)
    (hopen : (daemonRun cfg fs uv token os is).socket.closing = false)
    (hap : (adbUvAllocateFrame cfg uv (daemonRun cfg fs uv token os is)).2.curPacket = some ap) :
    Offer cfg (adbUvAllocateFrame cfg uv (daemonRun cfg fs uv token os is)).2 ap
      (adbUvAllocateFrame cfg uv (daemonRun cfg fs uv token os is)).1 := by
  obtain ⟨rest,hreceiving⟩ := receiving_run cfg fs uv token os is
  obtain ⟨-,hsized⟩ := sized_run cfg fs uv token os is
  generalize daemonRun cfg fs uv token os is = d at *
  obtain ⟨hframe,hroom⟩ := hreceiving.allocate_frame fs uv hrun hopen
  obtain ⟨hsized',hconn,-⟩ := allocate_frame_sized fs uv hsized
  have hcol := hreceiving.collected hrun hopen
  obtain ⟨hpos,hfits⟩ := hcol.missing
  have hne : (adbUvAllocateFrame cfg uv d).1 ≠ 0 := fun hz => by
    rw [allocate_frame_none hcol hz] at hap
    cases hap
  obtain ⟨hopen',hlen,-⟩ := hroom hne
  have hcap := hsized' hopen' ap hap
  obtain ⟨hcur,hslice⟩ := (hframe.collected (allocate_frame_running hne hrun) hopen').some ap hap
  refine ⟨Nat.pos_of_ne_zero hne,?_,?_⟩
  · rw [hframe.split, hcur, hslice]
  · rw [hlen, hcur, hcap, hconn]
    exact hfits

/-- Ten bytes have been read: the rest of the header is offered. -/
theorem rest_of_header_offered :
    ∃ ap, Offer defaultConfig (adbUvAllocateFrame defaultConfig plainUv
      (daemonRun defaultConfig emptyFs plainUv [] ()
        [.transportRead (.data ((le32 aOpen ++ le32 1 ++ le32 0).take 10))])).2 ap
      (adbUvAllocateFrame defaultConfig plainUv (daemonRun defaultConfig emptyFs plainUv [] ()
        [.transportRead (.data ((le32 aOpen ++ le32 1 ++ le32 0).take 10))])).1 := by
  have hsome : (adbUvAllocateFrame defaultConfig plainUv
      (daemonRun defaultConfig emptyFs plainUv [] ()
        [.transportRead (.data ((le32 aOpen ++ le32 1 ++ le32 0).take 10))])).2.curPacket.isSome =
      true := by decide +kernel
  obtain ⟨ap,hap⟩ := Option.isSome_iff_exists.mp hsome
  exact ⟨ap,offered_inside defaultConfig emptyFs plainUv [] () _ ap (by decide +kernel)
    (by decide +kernel) hap⟩

end MicroADB
