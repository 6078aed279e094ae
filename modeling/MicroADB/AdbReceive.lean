import MicroADB.AdbAside
import MicroADB.AdbWire

/-! The reception of frames: what has been read and not handed on is the beginning of a
frame, whatever the reads were. -/
namespace MicroADB
open ByteMemory EventRun PrefixCode

variable {ω : Type} {cfg : Config} {fs : FileSystem ω} {uv : Uv ω} {d d' : Daemon ω}

/-! What the trace says about the stream. -/

/-- The bytes that were read from the transport. -/
def receivedBytes (log : List Event) : List UInt8 :=
  log.flatMap fun e => match e with | .received bs => bs | _ => []

/-- The frames handed to adb_process_packet, each with is_connected at that time. -/
def handedFrames (log : List Event) : List (Bool × Frame) :=
  log.filterMap fun e => match e with | .handed b msg data => some (b, (msg, data)) | _ => none

theorem received_append (l es : List Event) (h : ∀ e ∈ es, e.reception = false) :
    receivedBytes (l ++ es) = receivedBytes l := by
  rw [receivedBytes, List.flatMap_append]
  refine List.append_right_eq_self.mpr (List.flatMap_eq_nil_iff.mpr ?_)
  intro e he
  have hr := h e he
  cases e <;> first | rfl | cases hr

theorem handed_append (l es : List Event) (h : ∀ e ∈ es, e.reception = false) :
    handedFrames (l ++ es) = handedFrames l := by
  rw [handedFrames, List.filterMap_append]
  refine List.append_right_eq_self.mpr (List.filterMap_eq_nil_iff.mpr ?_)
  intro e he
  have hr := h e he
  cases e <;> first | rfl | cases hr

/-! The invariant. -/

/-- The packet under reception holds the bytes of rest, which can still become a frame. -/
structure Collected (cfg : Config) (d : Daemon ω) (rest : List UInt8) : Prop where
  none : d.curPacket = none → rest = []
  some : ∀ ap, d.curPacket = some ap → d.curLen = rest.length ∧ slice ap.raw 0 rest.length = rest
  short : sizeofAmessage ≤ rest.length → rest.length < sizeofAmessage+(header rest).dataLength
  header : ¬BadHeader (frameLimit cfg d.isConnected) rest

/-- What was read is the frames handed on, each well-formed, and a rest without one. -/
structure Receiving (cfg : Config) (d : Daemon ω) (rest : List UInt8) : Prop where
  wf : d.socket.Wf
  split : receivedBytes d.log = (handedFrames d.log).flatMap (fun f => wire f.2) ++ rest
  handed : ∀ f ∈ handedFrames d.log, WellFormed (frameLimit cfg f.1) f.2
  noFrame : ∀ f, WellFormed (frameLimit cfg d.isConnected) f → ¬wire f <+: rest
  badHeader : Event.close .badHeader ∈ d.log ↔ BadHeader (frameLimit cfg d.isConnected) rest
  badData : Event.close .badData ∈ d.log ↔ BadData (frameLimit cfg d.isConnected) rest
  collected : d.crashed = false → d.socket.closing = false → Collected cfg d rest

theorem bad_header_nil (limit : ℕ) : ¬BadHeader limit [] := fun h => absurd h.1 (by decide)

theorem bad_data_nil (limit : ℕ) : ¬BadData limit [] := fun h => absurd h.1 (by decide)

theorem no_frame_nil (limit : ℕ) (f : Frame) (_ : WellFormed limit f) : ¬wire f <+: [] :=
  fun h => wire_ne_nil f (List.prefix_nil.mp h)

/-- Without a frame under reception the limit does not matter. -/
theorem Receiving.aside {c : Prop} {rest : List UInt8} (h : Receiving cfg d rest)
    (ha : Aside c d d') (hc : c → rest = []) : Receiving cfg d' rest := by
  obtain ⟨es,hlog,hes⟩ := ha.log
  have hmem (e : Event) (he : e.reception = true) : e ∈ d'.log ↔ e ∈ d.log := by
    rw [hlog, List.mem_append]
    refine or_iff_left (fun hin => ?_)
    rw [hes e hin] at he
    cases he
  have hconn : rest = [] ∨ d'.isConnected = d.isConnected := ha.isConnected.imp_left hc
  refine ⟨ha.wf h.wf,?_,?_,fun f hf => ?_,?_,?_,fun hcr hcl => ?_⟩
  · rw [hlog, received_append _ _ hes, handed_append _ _ hes]
    exact h.split
  · rw [hlog, handed_append _ _ hes]
    exact h.handed
  · rcases hconn with rfl | heq
    · exact no_frame_nil _ f hf
    · exact h.noFrame f (heq ▸ hf)
  · rw [hmem _ rfl, h.badHeader]
    rcases hconn with rfl | heq
    · simp only [bad_header_nil]
    · rw [heq]
  · rw [hmem _ rfl, h.badData]
    rcases hconn with rfl | heq
    · simp only [bad_data_nil]
    · rw [heq]
  · have hcr₀ : d.crashed = false := by
      by_contra hne
      rw [ha.crashed (by simpa using hne)] at hcr
      cases hcr
    have hcl₀ : d.socket.closing = false := by
      by_contra hne
      rw [ha.closing (by simpa using hne)] at hcl
      cases hcl
    have hcol := h.collected hcr₀ hcl₀
    refine ⟨fun hn => hcol.none (ha.curPacket hcl ▸ hn),fun ap hap => ?_,hcol.short,?_⟩
    · rw [ha.curLen]
      exact hcol.some ap (ha.curPacket hcl ▸ hap)
    · rcases hconn with rfl | heq
      · exact bad_header_nil _
      · rw [heq]
        exact hcol.header

/-! Bytes. -/

/-- How many bytes are missing until the header, or then the payload, is there. -/
def missing (rest : List UInt8) : ℕ :=
  if rest.length < sizeofAmessage then sizeofAmessage-rest.length
  else sizeofAmessage+(header rest).dataLength-rest.length

theorem check_frame_header_iff (cfg : Config) (b : Bool) (p : Apacket) :
    checkFrameHeader cfg b p = 0 ↔
      p.msg.magic = magicOf p.msg.command ∧ p.msg.dataLength ≤ frameLimit cfg b := by
  cases b with
  | false => exact check_header_eq_zero_iff _ p
  | true => exact check_header_eq_zero_iff _ p

/-- The header of a frame does not change when its payload arrives. -/
theorem header_append (as bs : List UInt8) (h : sizeofAmessage ≤ as.length) :
    header (as ++ bs) = header as := by
  refine amessage_congr _ _ (fun i hi => ?_)
  rw [bytesMem, bytesMem, List.getD_append _ _ _ _ (by omega)]

/-- The payload of a packet that holds a whole frame. -/
theorem payload_of_slice (ap : RawPacket) (bs : List UInt8) (h : slice ap.raw 0 bs.length = bs)
    (hl : bs.length = sizeofAmessage+(header bs).dataLength) :
    ap.packet.p.msg = header bs ∧ ap.packet.p.payload = payload bs := by
  have hm : amessage ap.raw = header bs := amessage_of_slice _ bs h (by omega)
  have hdrop : slice ap.raw sizeofAmessage (header bs).dataLength = bs.drop sizeofAmessage := by
    conv_rhs => rw [← h, hl, slice_add, List.drop_left' (length_slice _ _ _), Nat.zero_add]
  refine ⟨hm,?_⟩
  change slice (fun i => ap.raw (sizeofAmessage+i)) 0 (amessage ap.raw).dataLength = _
  rw [hm, payload, ← hdrop, List.take_of_length_le (by simp)]
  simp [slice]

section Bytes

variable {ap : RawPacket} {rest bs : List UInt8}

/-- The packet and the trace behind a read. -/
def readBytes (d : Daemon ω) (ap : RawPacket) (bs : List UInt8) : Daemon ω :=
  { d with curPacket := some { ap with raw := store ap.raw d.curLen bs } }.emit (.received bs)

theorem received_snoc (l : List Event) (bs : List UInt8) :
    receivedBytes (l ++ [.received bs]) = receivedBytes l ++ bs := by
  simp [receivedBytes]

theorem handed_snoc (l : List Event) (bs : List UInt8) :
    handedFrames (l ++ [.received bs]) = handedFrames l := by
  simp [handedFrames]

/-- What the trace says behind a read, before the packet is looked at: the bytes continue the
rest, and the client was not closed for what it was. -/
structure Arrived (cfg : Config) (d : Daemon ω) (rest : List UInt8) : Prop where
  wf : d.socket.Wf
  opened : d.socket.closing = false
  split : receivedBytes d.log = (handedFrames d.log).flatMap (fun f => wire f.2) ++ rest
  handed : ∀ f ∈ handedFrames d.log, WellFormed (frameLimit cfg f.1) f.2
  noHeader : Event.close .badHeader ∉ d.log
  noData : Event.close .badData ∉ d.log

theorem Receiving.read (bs : List UInt8) (h : Receiving cfg d rest) (hcr : d.crashed = false)
    (hcl : d.socket.closing = false) :
    Arrived cfg (readBytes d ap bs) (rest ++ bs) := by
  have hcol := h.collected hcr hcl
  -- a payload that is still short was not refused
  have hdata : ¬BadData (frameLimit cfg d.isConnected) rest := fun hbad =>
    absurd (hcol.short hbad.1) (not_lt.mpr hbad.2.2.2.1)
  have hlog : (readBytes d ap bs).log = d.log ++ [.received bs] := rfl
  refine ⟨h.wf,hcl,?_,?_,?_,?_⟩
  · rw [hlog, received_snoc, handed_snoc, h.split, List.append_assoc]
  · rw [hlog, handed_snoc]
    exact h.handed
  · rw [hlog]
    simpa using fun hmem => hcol.header (h.badHeader.mp hmem)
  · rw [hlog]
    simpa using fun hmem => hdata (h.badData.mp hmem)

/-- The bytes that were read continue the packet. -/
theorem Collected.append (h : Collected cfg d rest) (hap : d.curPacket = .some ap)
    (bs : List UInt8) :
    d.curLen = rest.length ∧ slice (store ap.raw d.curLen bs) 0 (rest ++ bs).length = rest ++ bs := by
  obtain ⟨hlen,hslice⟩ := h.some ap hap
  refine ⟨hlen,?_⟩
  have happ := slice_store_append ap.raw 0 rest.length bs
  rw [Nat.zero_add, hslice] at happ
  rw [hlen, List.length_append]
  exact happ

/-- A stream that is a frame but for the last bytes of it, or a wrong one, has none. -/
theorem no_frame_of_short {limit : ℕ} (h : rest.length < sizeofAmessage+(header rest).dataLength)
    (f : Frame) (hf : WellFormed limit f) : ¬wire f <+: rest := fun hpre =>
  absurd ((front_iff limit rest).mp ⟨f,hf,hpre⟩).1 (not_le.mpr h)

/-- The client is closed because of what the rest shows. -/
theorem Arrived.close (h : Arrived cfg d rest) (why : CloseReason)
    (hframe : ∀ f, WellFormed (frameLimit cfg d.isConnected) f → ¬wire f <+: rest)
    (hheader : why = .badHeader ↔ BadHeader (frameLimit cfg d.isConnected) rest)
    (hdata : why = .badData ↔ BadData (frameLimit cfg d.isConnected) rest) :
    Receiving cfg (opsClose d why) rest := by
  rw [ops_close_open d why h.opened]
  have hlog : ((d.setSocket d.socket.close).emit (.close why)).log = d.log ++ [.close why] := rfl
  have hr : receivedBytes (d.log ++ [.close why]) = receivedBytes d.log := by simp [receivedBytes]
  have hf : handedFrames (d.log ++ [.close why]) = handedFrames d.log := by simp [handedFrames]
  refine ⟨⟨fun hs => absurd hs (by simp [Daemon.setSocket, Daemon.emit, UvStream.close]),
    fun _ => ⟨rfl,rfl⟩⟩,?_,?_,hframe,?_,?_,fun _ hc => absurd hc ?_⟩
  · rw [hlog, hr, hf]
    exact h.split
  · rw [hlog, hf]
    exact h.handed
  · rw [hlog, List.mem_append]
    refine Iff.trans ?_ hheader
    simp [h.noHeader, eq_comm]
  · rw [hlog, List.mem_append]
    refine Iff.trans ?_ hdata
    simp [h.noData, eq_comm]
  · simp [Daemon.setSocket, Daemon.emit, UvStream.close]

/-- A whole frame is handed on. -/
theorem Arrived.hand (d : Daemon ω) (f : Frame) (h : Arrived cfg d (wire f))
    (hf : WellFormed (frameLimit cfg d.isConnected) f) (hcur : d.curPacket = none) :
    Receiving cfg (d.emit (.handed d.isConnected f.1 f.2)) [] := by
  have hlog : (d.emit (.handed d.isConnected f.1 f.2)).log =
      d.log ++ [.handed d.isConnected f.1 f.2] := rfl
  have hr : receivedBytes (d.log ++ [.handed d.isConnected f.1 f.2]) = receivedBytes d.log := by
    simp [receivedBytes]
  have hh : handedFrames (d.log ++ [.handed d.isConnected f.1 f.2]) =
      handedFrames d.log ++ [(d.isConnected,f)] := by
    simp [handedFrames]
  refine ⟨h.wf,?_,?_,no_frame_nil _,?_,?_,fun _ _ => ?_⟩
  · rw [hlog, hr, hh, List.flatMap_append, h.split]
    simp
  · rw [hlog, hh]
    intro g hg
    rcases List.mem_append.mp hg with hg | hg
    · exact h.handed g hg
    · rw [List.mem_singleton.mp hg]
      exact hf
  · refine iff_of_false (fun hmem => h.noHeader ?_) (bad_header_nil _)
    simpa [Daemon.emit] using hmem
  · refine iff_of_false (fun hmem => h.noData ?_) (bad_data_nil _)
    simpa [Daemon.emit] using hmem
  · refine ⟨fun _ => rfl,fun ap hap => ?_,fun hl => absurd hl (by decide),bad_header_nil _⟩
    change d.curPacket = some ap at hap
    rw [hcur] at hap
    cases hap

/-- The header is incomplete, or the payload is. -/
theorem Arrived.wait (h : Arrived cfg d rest) (hcur : d.curPacket = some ap)
    (hlen : d.curLen = rest.length) (hslice : slice ap.raw 0 rest.length = rest)
    (hheader : ¬BadHeader (frameLimit cfg d.isConnected) rest)
    (hshort : rest.length < sizeofAmessage+(header rest).dataLength) : Receiving cfg d rest where
  wf := h.wf
  split := h.split
  handed := h.handed
  noFrame f hf := no_frame_of_short hshort f hf
  badHeader := iff_of_false h.noHeader hheader
  badData := iff_of_false h.noData fun hbad => absurd hbad.2.2.2.1 (not_le.mpr hshort)
  collected _ _ := by
    refine ⟨fun hn => ?_,fun ap' hap' => ?_,fun _ => hshort,hheader⟩
    · rw [hcur] at hn
      cases hn
    · rw [hcur] at hap'
      obtain rfl := Option.some.inj hap'
      exact ⟨hlen,hslice⟩

theorem receive_bytes_eq (cfg : Config) (d : Daemon ω) (ap : RawPacket) (bs : List UInt8) :
    receiveBytes cfg d ap bs =
      let p : RawPacket := { ap with raw := store ap.raw d.curLen bs }
      let d' := { readBytes d ap bs with curLen := d.curLen+bs.length }
      if d.curLen < sizeofAmessage ∧ sizeofAmessage ≤ d.curLen+bs.length ∧
          checkFrameHeader cfg d.isConnected p.packet.p ≠ 0 then
        (none, opsClose (readBytes d ap bs) .badHeader)
      else if d.curLen+bs.length < sizeofAmessage+(amessage p.raw).dataLength then (none, d')
      else if adbCheckFrameData p.packet.p ≠ 0 then (none, opsClose d' .badData)
      else (some p.packet, { d' with curPacket := none }) := rfl

/-- A read that stays inside what is missing ends inside the header, or inside the payload. -/
theorem missing_inside (hcol : Collected cfg d rest) (hlen : bs.length ≤ missing rest) :
    rest.length < sizeofAmessage ∧ rest.length+bs.length ≤ sizeofAmessage ∨
      sizeofAmessage ≤ rest.length ∧
        rest.length+bs.length ≤ sizeofAmessage+(header (rest ++ bs)).dataLength := by
  unfold missing at hlen
  split at hlen
  · exact Or.inl ⟨by omega,by omega⟩
  · rename_i hl
    have hl := not_lt.mp hl
    have hshort := hcol.short hl
    rw [header_append rest bs hl]
    exact Or.inr ⟨hl,by omega⟩

/-- The header is checked by the read that brings its last byte, and only by that one. -/
theorem header_checked {raw : Mem} (hcol : Collected cfg d rest)
    (hslice : slice raw 0 (rest ++ bs).length = rest ++ bs) :
    (rest.length < sizeofAmessage ∧ sizeofAmessage ≤ rest.length+bs.length ∧
      checkFrameHeader cfg d.isConnected (RawPacket.packet { ap with raw := raw }).p ≠ 0) ↔
    BadHeader (frameLimit cfg d.isConnected) (rest ++ bs) := by
  have happ : (rest ++ bs).length = rest.length+bs.length := List.length_append
  have hcheck (hl : sizeofAmessage ≤ rest.length+bs.length) :
      checkFrameHeader cfg d.isConnected (RawPacket.packet { ap with raw := raw }).p ≠ 0 ↔
        ((header (rest ++ bs)).magic ≠ magicOf (header (rest ++ bs)).command ∨
          frameLimit cfg d.isConnected < (header (rest ++ bs)).dataLength) := by
    rw [← amessage_of_slice raw _ hslice (by omega), ← not_le, ← Classical.not_and_iff_not_or_not]
    exact not_congr (check_frame_header_iff cfg d.isConnected _)
  constructor
  · rintro ⟨-,hge,hne⟩
    exact ⟨happ ▸ hge,(hcheck hge).mp hne⟩
  · rintro ⟨hl,hbad⟩
    rw [happ] at hl
    refine ⟨?_,hl,(hcheck hl).mpr hbad⟩
    by_contra hge
    have hge := not_lt.mp hge
    rw [header_append rest bs hge] at hbad
    exact hcol.header ⟨hge,hbad⟩

theorem good_header {limit : ℕ} {bs : List UInt8} (h : ¬BadHeader limit bs)
    (hl : sizeofAmessage ≤ bs.length) :
    (header bs).magic = magicOf (header bs).command ∧ (header bs).dataLength ≤ limit := by
  by_contra hwrong
  rw [Classical.not_and_iff_not_or_not, not_le] at hwrong
  exact h ⟨hl,hwrong⟩

/-- A read continues the rest, completes a frame that is handed on, or closes the client. -/
theorem Receiving.receive_bytes (h : Receiving cfg d rest) (hcr : d.crashed = false)
    (hcl : d.socket.closing = false) (hap : d.curPacket = some ap) (hne : bs ≠ [])
    (hlen : bs.length ≤ missing rest) :
    ((receiveBytes cfg d ap bs).1 = none → Receiving cfg (receiveBytes cfg d ap bs).2 (rest ++ bs)) ∧
      ∀ up, (receiveBytes cfg d ap bs).1 = some up →
        (receiveBytes cfg d ap bs).2.crashed = false ∧
        Receiving cfg ((receiveBytes cfg d ap bs).2.emit
          (.handed (receiveBytes cfg d ap bs).2.isConnected up.p.msg up.p.payload)) [] := by
  have hcol := h.collected hcr hcl
  have hread : Arrived cfg (readBytes d ap bs) (rest ++ bs) := h.read bs hcr hcl
  obtain ⟨hcur,hslice⟩ := hcol.append hap bs
  have hpos : 0 < bs.length := List.length_pos_of_ne_nil hne
  have happ : (rest ++ bs).length = rest.length+bs.length := List.length_append
  have hmiss := missing_inside hcol hlen
  generalize hraw : store ap.raw d.curLen bs = raw at hslice
  -- the daemon behind the bytes, whose curLen the trace does not show
  have hgot : Arrived cfg { readBytes d ap bs with curLen := rest.length+bs.length }
      (rest ++ bs) := ⟨hread.wf,hread.opened,hread.split,hread.handed,hread.noHeader,hread.noData⟩
  rw [receive_bytes_eq, hraw, hcur]
  dsimp only
  split
  · rename_i hcheck
    have hbad := (header_checked hcol hslice).mp hcheck
    have hwrong : ¬((header (rest ++ bs)).magic = magicOf (header (rest ++ bs)).command ∧
        (header (rest ++ bs)).dataLength ≤ frameLimit cfg d.isConnected) := by
      rw [Classical.not_and_iff_not_or_not, not_le]
      exact hbad.2
    refine ⟨fun _ => hread.close _ (fun f hf hpre => ?_) (iff_of_true rfl hbad)
      (iff_of_false (by simp) fun hd => ?_),fun up hup => by cases hup⟩
    · have hfront := (front_iff _ _).mp ⟨f,hf,hpre⟩
      exact hwrong ⟨hfront.2.1,hfront.2.2.1⟩
    · exact hwrong ⟨hd.2.1,hd.2.2.1⟩
  · rename_i hcheck
    have hheader : ¬BadHeader (frameLimit cfg d.isConnected) (rest ++ bs) := fun hbad =>
      hcheck ((header_checked hcol hslice).mpr hbad)
    split
    · rename_i hshort
      have hrest : (rest ++ bs).length < sizeofAmessage+(header (rest ++ bs)).dataLength := by
        by_cases hl : sizeofAmessage ≤ (rest ++ bs).length
        · rw [← amessage_of_slice raw _ hslice hl, happ]
          exact hshort
        · omega
      refine ⟨fun _ => hgot.wait rfl happ.symm ?_ hheader hrest,fun up hup => by cases hup⟩
      change slice (store ap.raw d.curLen bs) 0 _ = _
      rw [hraw]
      exact hslice
    · rename_i hfull
      have hl : sizeofAmessage ≤ (rest ++ bs).length := by omega
      rw [amessage_of_slice raw _ hslice hl] at hfull
      have hwhole : (rest ++ bs).length = sizeofAmessage+(header (rest ++ bs)).dataLength := by
        rw [happ]
        rcases hmiss with hmiss | hmiss <;> omega
      obtain ⟨hmsg,hpay⟩ := payload_of_slice { ap with raw := raw } (rest ++ bs) hslice hwhole
      have hdata := check_frame_data_eq_zero_iff (RawPacket.packet { ap with raw := raw }).p
      rw [hmsg, hpay] at hdata
      obtain ⟨hmagic,hlim⟩ := good_header hheader hl
      split
      · rename_i hcheck
        have hsum := (not_congr hdata).mp hcheck
        refine ⟨fun _ => hgot.close _ (fun f hf hpre => ?_) (iff_of_false (by simp) hheader)
          (iff_of_true rfl ⟨hl,hmagic,hlim,hwhole.ge,hsum⟩),fun up hup => by cases hup⟩
        exact hsum ((front_iff _ _).mp ⟨f,hf,hpre⟩).2.2.2
      · rename_i hcheck
        have hsum := hdata.mp (not_not.mp hcheck)
        refine ⟨(fun hn => by cases hn),fun up hup => ⟨hcr,?_⟩⟩
        obtain rfl := Option.some.inj hup
        -- the bytes are the frame, and nothing more
        obtain ⟨hshaped,hwire⟩ := front_shaped (rest ++ bs) hwhole.ge
        rw [← hwhole, List.take_length] at hwire
        rw [← hwire] at hgot
        rw [hmsg, hpay]
        exact Arrived.hand { { readBytes d ap bs with curLen := rest.length+bs.length } with
          curPacket := none } (header (rest ++ bs),payload (rest ++ bs))
          ⟨hgot.wf,hgot.opened,hgot.split,hgot.handed,hgot.noHeader,hgot.noData⟩
          ⟨hshaped,hmagic,hlim,hsum⟩ rfl

end Bytes

/-! Reads. -/

/-- Without a byte received the packet can go. -/
theorem Receiving.set_packet (h : Receiving cfg d []) (cur : Option RawPacket) :
    Receiving cfg { d with curPacket := cur, curLen := 0 } [] where
  wf := h.wf
  split := h.split
  handed := h.handed
  noFrame := h.noFrame
  badHeader := h.badHeader
  badData := h.badData
  collected hcr hcl := by
    have hcol := h.collected hcr hcl
    exact ⟨fun _ => rfl,fun _ _ => ⟨rfl,rfl⟩,hcol.short,hcol.header⟩

/-- libuv is offered the room that is missing. -/
theorem Receiving.allocate_frame (fs : FileSystem ω) (uv : Uv ω) {rest : List UInt8}
    (h : Receiving cfg d rest) (hcr : d.crashed = false) (hcl : d.socket.closing = false) :
    Receiving cfg (adbUvAllocateFrame cfg uv d).2 rest ∧
      ((adbUvAllocateFrame cfg uv d).1 ≠ 0 →
        (adbUvAllocateFrame cfg uv d).2.socket.closing = false ∧
        (adbUvAllocateFrame cfg uv d).1 = missing rest ∧
        ∃ ap, (adbUvAllocateFrame cfg uv d).2.curPacket = some ap) := by
  have hcol := h.collected hcr hcl
  unfold adbUvAllocateFrame
  split
  · rename_i ap hap
    obtain ⟨hlen,hslice⟩ := hcol.some ap hap
    split
    · rename_i hlt
      refine ⟨h,fun _ => ⟨hcl,?_,ap,hap⟩⟩
      rw [missing, if_pos (hlen ▸ hlt), hlen]
    · rename_i hge
      have hge : sizeofAmessage ≤ rest.length := hlen ▸ not_lt.mp hge
      refine ⟨h,fun _ => ⟨hcl,?_,ap,hap⟩⟩
      rw [missing, if_neg (not_lt.mpr hge), hlen, amessage_of_slice ap.raw rest hslice hge]
  · rename_i hnone
    obtain rfl := hcol.none hnone
    have hall : KeepsAll cfg fs uv (fun _ _ => True) (Aside False d) := aside_all False d
    have haside := hall.allocate (!d.isConnected) (Aside.refl False d)
    have halloc : Receiving cfg (adbUvPacketAllocate cfg uv d !d.isConnected).2 [] :=
      h.aside haside False.elim
    dsimp only
    split
    · exact ⟨halloc,fun hne => absurd rfl hne⟩
    · rename_i ap hap
      obtain ⟨-,hsocket⟩ := allocate_some cfg uv d _ ap hap
      refine ⟨halloc.set_packet (some ap),fun _ => ⟨?_,rfl,ap,rfl⟩⟩
      change (adbUvPacketAllocate cfg uv d !d.isConnected).2.socket.closing = false
      rw [hsocket]
      exact hcl

theorem Receiving.on_data_available {rest : List UInt8} (h : Receiving cfg d rest)
    (hcr : d.crashed = false) (hcl : d.socket.closing = false) {ap : RawPacket}
    (hap : d.curPacket = some ap) (r : ReadResult) :
    ((adbUvOnDataAvailable cfg fs uv d r (missing rest)).1 = none →
        ∃ rest', Receiving cfg (adbUvOnDataAvailable cfg fs uv d r (missing rest)).2 rest') ∧
      ∀ up, (adbUvOnDataAvailable cfg fs uv d r (missing rest)).1 = some up →
        (adbUvOnDataAvailable cfg fs uv d r (missing rest)).2.crashed = false ∧
        Receiving cfg ((adbUvOnDataAvailable cfg fs uv d r (missing rest)).2.emit
          (.handed (adbUvOnDataAvailable cfg fs uv d r (missing rest)).2.isConnected
            up.p.msg up.p.payload)) [] := by
  unfold adbUvOnDataAvailable
  rw [hap]
  cases r with
  | error =>
    dsimp only
    exact ⟨fun _ => ⟨rest,h.aside (quietly_ops_close d _ rfl).aside False.elim⟩,
      fun up hup => by cases hup⟩
  | data bs =>
    dsimp only
    split
    · refine ⟨fun _ => ?_,fun up hup => by cases hup⟩
      unfold releaseUnused
      split
      · rename_i hzero
        obtain rfl : rest = [] := by
          rw [← List.length_eq_zero_iff, ← ((h.collected hcr hcl).some ap hap).1, hzero]
        have hall : KeepsAll cfg fs uv (fun _ _ => True) (Aside False d) := aside_all False d
        have haside := hall.release d ap.addr (Aside.refl False d) hcr
        have hrelease := h.aside haside False.elim
        have hlen : (adbHalApacketRelease cfg fs uv d ap.addr).curLen = 0 :=
          haside.curLen.trans hzero
        have hset := hrelease.set_packet none
        rw [← hlen] at hset
        refine ⟨[],?_⟩
        dsimp only
        unfold Daemon.next
        split
        · exact hrelease
        · exact hset
      · exact ⟨rest,h⟩
    · rename_i hne
      obtain ⟨hnone,hsome⟩ := h.receive_bytes hcr hcl hap hne (by
        rw [List.length_take]
        exact Nat.min_le_left _ _)
      exact ⟨fun hn => ⟨_,hnone hn⟩,hsome⟩

theorem Receiving.transport_read {rest : List UInt8} (h : Receiving cfg d rest)
    (hcr : d.crashed = false) (hact : d.socket.active = true) (r : ReadResult) :
    ∃ rest', Receiving cfg (transportRead cfg fs uv d r) rest' := by
  have hcl : d.socket.closing = false := by
    by_contra hne
    have hoff := (h.wf.closing (by simpa using hne)).1
    rw [hact] at hoff
    cases hoff
  obtain ⟨hframe,hroom⟩ := h.allocate_frame fs uv hcr hcl
  have hprocess (n : Option ApacketUv × Daemon ω) (hn : receive cfg fs uv d r = n)
      (hnone : n.1 = none → ∃ rest', Receiving cfg n.2 rest')
      (hsome : ∀ up, n.1 = some up → n.2.crashed = false ∧
        Receiving cfg (n.2.emit (.handed n.2.isConnected up.p.msg up.p.payload)) []) :
      ∃ rest', Receiving cfg (transportRead cfg fs uv d r) rest' := by
    unfold transportRead
    rw [hn]
    dsimp only
    split
    · rename_i hn
      exact hnone hn
    · rename_i up hup
      obtain ⟨hcr',hhanded⟩ := hsome up hup
      unfold Daemon.next
      rw [if_neg (by simp [hcr'])]
      have hframes : KeepsFrames cfg fs uv (fun _ _ => True)
          (Aside True (n.2.emit (.handed n.2.isConnected up.p.msg up.p.payload))) :=
        aside_frames _
      have haside := hframes.process_packet up (Aside.refl True _) hcr' (frame_closes_true _ _)
      exact ⟨[],hhanded.aside haside (fun _ => rfl)⟩
  refine hprocess _ rfl ?_ ?_ <;> unfold receive <;> dsimp only <;> split
  · exact fun _ => ⟨rest,hframe⟩
  · split
    · refine fun _ => ⟨rest,?_⟩
      have hstop (s : UvStream) (hw : s.Wf)
          (hs : s.closing = (adbUvAllocateFrame cfg uv d).2.socket.closing) :
          Receiving cfg ((adbUvAllocateFrame cfg uv d).2.setSocket s) rest := by
        have haside : Aside False (adbUvAllocateFrame cfg uv d).2
            ((adbUvAllocateFrame cfg uv d).2.setSocket s) :=
          { Aside.refl False (adbUvAllocateFrame cfg uv d).2 with
            curPacket := fun _ => rfl
            wf := fun _ => hw
            closing := fun hc => hs.trans hc }
        exact hframe.aside haside False.elim
      split
      · refine hstop _ ?_ ?_ <;> unfold UvStream.starve <;> split
        · exact hframe.wf
        · rename_i hc
          exact ⟨fun _ => rfl,fun h' => absurd h' hc⟩
        · rfl
        · rfl
      · exact hstop _ ⟨fun _ => rfl,fun hc => ⟨rfl,(hframe.wf.closing hc).2⟩⟩ rfl
    · rename_i hcr' hne
      obtain ⟨hopen,hlen,ap,hap⟩ := hroom hne
      rw [hlen]
      exact (hframe.on_data_available (by simpa using hcr') hopen hap r).1
  · exact fun up hup => by cases hup
  · split
    · exact fun up hup => by cases hup
    · rename_i hcr' hne
      obtain ⟨hopen,hlen,ap,hap⟩ := hroom hne
      rw [hlen]
      exact (hframe.on_data_available (by simpa using hcr') hopen hap r).2

/-! Runs. -/

theorem receiving_start (token : List UInt8) (os : ω) : Receiving cfg (daemonStart token os)
    [] where
  wf := (readers_start token os).socketWf
  split := rfl
  handed _ hf := absurd hf List.not_mem_nil
  noFrame := no_frame_nil _
  badHeader := iff_of_false List.not_mem_nil (bad_header_nil _)
  badData := iff_of_false List.not_mem_nil (bad_data_nil _)
  collected _ _ := ⟨fun _ => rfl,(fun ap hap => by cases hap),fun hl => absurd hl (by decide),
    bad_header_nil _⟩

theorem Receiving.callback {rest : List UInt8} (h : Receiving cfg d rest) (hs : Sound cfg uv [] d)
    (i : Input) : ∃ rest', Receiving cfg (step cfg fs uv d i) rest' := by
  by_cases hread : ∃ r, i = .transportRead r
  · obtain ⟨r,rfl⟩ := hread
    unfold step
    split
    · exact ⟨rest,h⟩
    · rename_i hcr
      dsimp only
      split
      · rename_i hact
        exact h.transport_read (by simpa using hcr) hact r
      · exact ⟨rest,h⟩
  · exact ⟨rest,h.aside (aside_callback _ i hs (fun r hi => hread ⟨r,hi⟩)) False.elim⟩

theorem receiving_run (cfg : Config) (fs : FileSystem ω) (uv : Uv ω) (token : List UInt8) (os : ω)
    (is : List Input) : ∃ rest, Receiving cfg (daemonRun cfg fs uv token os is) rest := by
  have hrun := run_invariant (step cfg fs uv)
    (fun d => Sound cfg uv [] d ∧ ∃ rest, Receiving cfg d rest)
    (fun d i h => ⟨sound_callback i h.1,h.2.elim fun _ hr => hr.callback h.1 i⟩) _
    ⟨sound_start token os,[],receiving_start token os⟩ is
  exact hrun.2

/-- The limit on the length of the frame with number k: that of the connection at the time
it was received, or as it is now. -/
def limitInForce (cfg : Config) (d : Daemon ω) (k : ℕ) : ℕ :=
  frameLimit cfg (((handedFrames d.log).map Prod.fst).getD k d.isConnected)

/-- What send_frame makes of a packet. -/
def sentFrame (p : Apacket) : Frame := (p.seal.msg, p.payload)

/-- The frames handed to adb_process_packet are the longest prefix of well-formed frames of
the bytes read, the client is closed for the frame behind them iff its header or its
checksum is there and wrong, and what send_frame sends is received as it was. -/
theorem frames_received (cfg : Config) (fs : FileSystem ω) (uv : Uv ω) (token : List UInt8)
    (os : ω) (is : List Input) :
    let d := daemonRun cfg fs uv token os is
    let frames := (handedFrames d.log).map Prod.snd
    ∃ rest, receivedBytes d.log = frames.flatMap wire ++ rest ∧
      (∀ k f, frames[k]? = some f → WellFormed (limitInForce cfg d k) f) ∧
      (∀ gs : List Frame, (∀ k g, gs[k]? = some g → WellFormed (limitInForce cfg d k) g) →
        gs.flatMap wire <+: receivedBytes d.log → gs <+: frames) ∧
      (Event.close .badHeader ∈ d.log ↔ BadHeader (limitInForce cfg d frames.length) rest) ∧
      (Event.close .badData ∈ d.log ↔ BadData (limitInForce cfg d frames.length) rest) ∧
      ∀ ps : List Apacket,
        (∀ k p, ps[k]? = some p → p.msg.dataLength ≤ limitInForce cfg d k ∧
          p.msg.command < 2^32 ∧ p.msg.arg0 < 2^32 ∧ p.msg.arg1 < 2^32 ∧
            p.msg.dataLength < 2^32) →
        receivedBytes d.log = (ps.map sentFrame).flatMap wire →
        frames = ps.map sentFrame ∧ Event.close .badHeader ∉ d.log ∧
          Event.close .badData ∉ d.log := by
  intro d frames
  obtain ⟨rest,h⟩ := receiving_run cfg fs uv token os is
  change Receiving cfg d rest at h
  have hlen : frames.length = (handedFrames d.log).length := List.length_map _
  have hnow : limitInForce cfg d frames.length = frameLimit cfg d.isConnected := by
    rw [limitInForce, hlen, List.getD_eq_default _ _ (by simp)]
  have hsplit : receivedBytes d.log = frames.flatMap wire ++ rest := by
    rw [h.split, List.flatMap_map]
  have hwell (k : ℕ) (f : Frame) (hf : frames[k]? = some f) :
      WellFormed (limitInForce cfg d k) f := by
    obtain ⟨g,hg,rfl⟩ := List.getElem?_map ▸ hf |> Option.map_eq_some_iff.mp
    have hb : ((handedFrames d.log).map Prod.fst).getD k d.isConnected = g.1 := by
      rw [List.getD_eq_getElem?_getD, List.getElem?_map, hg]
      rfl
    rw [limitInForce, hb]
    exact h.handed g (List.mem_of_getElem? hg)
  have hshaped (gs : List Frame)
      (hgs : ∀ k g, gs[k]? = some g → WellFormed (limitInForce cfg d k) g) :
      ∀ g ∈ gs, Shaped g := by
    intro g hg
    obtain ⟨k,hk⟩ := List.mem_iff_getElem?.mp hg
    exact (hgs k g hk).shaped
  have hend (gs : List Frame)
      (hgs : ∀ k g, gs[k]? = some g → WellFormed (limitInForce cfg d k) g) (g : Frame)
      (hg : gs[frames.length]? = some g) : ¬wire g <+: rest :=
    h.noFrame g (hnow ▸ hgs _ g hg)
  refine ⟨rest,hsplit,hwell,fun gs hgs hpre => ?_,hnow ▸ h.badHeader,hnow ▸ h.badData,
    fun ps hps heq => ?_⟩
  · exact wire_prefix_free.longest frames gs rest (hshaped frames hwell) (hshaped gs hgs)
      (hsplit ▸ hpre) (hend gs hgs)
  · have hgs (k : ℕ) (g : Frame) (hg : (ps.map sentFrame)[k]? = some g) :
        WellFormed (limitInForce cfg d k) g := by
      rw [List.getElem?_map] at hg
      obtain ⟨p,hp,rfl⟩ := Option.map_eq_some_iff.mp hg
      exact seal_well_formed _ p (hps k p hp).1 (hps k p hp).2
    obtain ⟨hframes,rfl⟩ := wire_prefix_free.split_unique frames (ps.map sentFrame) rest
      (hshaped frames hwell) (hshaped _ hgs) wire_ne_nil (hsplit ▸ heq) (hend _ hgs)
    exact ⟨hframes,fun hmem => bad_header_nil _ (h.badHeader.mp hmem),
      fun hmem => bad_data_nil _ (h.badData.mp hmem)⟩

end MicroADB
