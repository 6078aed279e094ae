import MicroADB.AdbServiceClose

/-! The kick of the services: who asks for a packet in it, who gets one, and whether the loop
over the list reaches its end. -/
namespace MicroADB
open ByteMemory EventRun

variable {ω : Type} {cfg : Config} {fs : FileSystem ω} {uv : Uv ω} {d d' : Daemon ω}

/-- What happened between two states of the daemon. -/
def since (d d' : Daemon ω) : List Event := d'.log.drop d.log.length

theorem since_of_log {es : List Event} (h : d'.log = d.log ++ es) : since d d' = es := by
  rw [since, h, List.drop_left]

/-- The services whose on_kick was called. -/
def onKicks (es : List Event) : List ℕ :=
  es.filterMap fun e => match e with | .onKick a => some a | _ => none

@[simp] theorem on_kicks_append (es es' : List Event) :
    onKicks (es ++ es') = onKicks es ++ onKicks es' := List.filterMap_append

/-- Every service but a sync service has an on_kick. -/
def ServiceKind.hasKick : ServiceKind → Bool
  | .sync _ => false
  | _ => true

/-- The state in which on_kick asks for a packet. -/
def ServiceKind.asking : ServiceKind → Option StreamState
  | .tcp .notifyClient => some .notifyClient
  | .tcp .errorClose => some .errorClose
  | _ => none

def hasKick (d : Daemon ω) (a : ℕ) : Bool := (d.heap a).any fun svc => svc.kind.hasKick

def asking (d : Daemon ω) (a : ℕ) : Option StreamState := (d.heap a).bind fun svc => svc.kind.asking

/-- What decides whether a packet can be had and sent. -/
structure Stock (ω : Type) where
  frameCount : ℤ
  closing : Bool
  os : ω

def Daemon.stock (d : Daemon ω) : Stock ω := ⟨d.frameCount,d.socket.closing,d.os⟩

/-- The kick of a service that asks for a packet: it is refused one, or there is no memory and
the transport is closed, or it gets one, and a service in F_NOTIFY_CLIENT answers the OPEN with
it. The loop goes on in none of the other cases. -/
def ask (cfg : Config) (uv : Uv ω) (s : Stock ω) (state : StreamState) : Option (Stock ω) :=
  if cfg.frameMax ≤ s.frameCount then some { s with frameCount := cfg.frameMax+1 }
  else if s.closing then none
  else
    let r := uv.packetMalloc s.os
    match r.2 with
    | none => some { s with closing := true, os := r.1 }
    | some _ =>
      if state = .errorClose then none
      else some ⟨s.frameCount+1,!(uv.write r.1).2,(uv.write r.1).1⟩

theorem ask_full (s : Stock ω) (state : StreamState) (h : cfg.frameMax ≤ s.frameCount) :
    ask cfg uv s state = some { s with frameCount := cfg.frameMax+1 } := if_pos h

theorem ask_without (s : Stock ω) (state : StreamState) (h : s.frameCount < cfg.frameMax)
    (hm : (uv.packetMalloc s.os).2 = none) : ask cfg uv s state =
      if s.closing then none else some { s with closing := true, os := (uv.packetMalloc s.os).1 } := by
  unfold ask
  rw [if_neg (not_le.mpr h)]
  dsimp only
  rw [hm]

theorem ask_with (s : Stock ω) (state : StreamState) (h : s.frameCount < cfg.frameMax)
    {init : ℕ × Mem} (hm : (uv.packetMalloc s.os).2 = some init) : ask cfg uv s state =
      if s.closing then none else if state = .errorClose then none
      else some ⟨s.frameCount+1,!(uv.write (uv.packetMalloc s.os).1).2,
        (uv.write (uv.packetMalloc s.os).1).1⟩ := by
  unfold ask
  rw [if_neg (not_le.mpr h)]
  dsimp only
  rw [hm]

/-- The kick of the service at a, the first of those in l. -/
structure Kicked (d d' : Daemon ω) (a : ℕ) (s : Stock ω) : Prop where
  crashed : d'.crashed = false
  stock : d'.stock = s
  services : d'.services = d.services
  heap : ∀ b, b ≠ a → d'.heap b = d.heap b
  alive : ∃ svc, d'.alive a = some svc
  log : ∃ es, d'.log = d.log ++ es ∧ onKicks es = if hasKick d a then [a] else []

/-- The loop does not get beyond the service at a. -/
def Stuck (d' : Daemon ω) (a : ℕ) : Prop := d'.crashed = true ∨ d'.alive a = none

/-- What the kick of a service comes to. -/
def KickOutcome (d d' : Daemon ω) (a : ℕ) : Option (Stock ω) → Prop
  | some s => Kicked d d' a s
  | none => Stuck d' a

/-! Sending and closing. -/

theorem ops_close_closing (why : CloseReason) (h : d.socket.closing = true) :
    opsClose d why = d.fault .closingTwice := if_pos h

theorem ops_close_log (d : Daemon ω) (why : CloseReason) :
    ∃ e, (opsClose d why).log = d.log ++ [e] ∧ (e = .close why ∨ e = .fault .closingTwice) := by
  unfold opsClose
  split
  · exact ⟨_,rfl,Or.inr rfl⟩
  · exact ⟨_,rfl,Or.inl rfl⟩

/-- The packet as it is handed to libuv. -/
def ApacketUv.sealed (up : ApacketUv) : ApacketUv := { up with p := up.p.seal }

/-- libuv takes the next frame. -/
def Writable (uv : Uv ω) (d : Daemon ω) : Prop :=
  d.socket.closing = false ∧ (uv.write d.os).2 = true

theorem send_frame_taken (up : ApacketUv) (h : Writable uv d) :
    sendFrame uv d up = ((d.setOs (uv.write d.os).1).emit
      (.write up.addr up.p.seal.msg up.p.payload true)).setSocket (d.socket.push up.sealed) := by
  obtain ⟨hcl,hw⟩ := h
  unfold sendFrame tcpUvWrite
  simp [hcl, hw]
  rfl

theorem send_frame_refused (up : ApacketUv) (hcl : d.socket.closing = false)
    (hw : (uv.write d.os).2 = false) :
    sendFrame uv d up = opsClose ((d.setOs (uv.write d.os).1).emit
      (.write up.addr up.p.seal.msg up.p.payload false)) .writeFailed := by
  unfold sendFrame tcpUvWrite
  simp [hcl, hw]

theorem send_frame_closing (up : ApacketUv) (hcl : d.socket.closing = true) :
    sendFrame uv d up =
      (d.emit (.write up.addr up.p.seal.msg up.p.payload false)).fault .closingTwice := by
  have hos : d.setOs d.os = d := rfl
  unfold sendFrame tcpUvWrite
  simp only [hcl, if_true, hos]
  exact ops_close_closing _ hcl

/-- A frame that is sent on an open transport. -/
theorem send_frame_open (uv : Uv ω) (d : Daemon ω) (up : ApacketUv) (h : d.socket.closing = false) :
    (sendFrame uv d up).os = (uv.write d.os).1 ∧
      (sendFrame uv d up).socket.closing = !(uv.write d.os).2 ∧
      (sendFrame uv d up).crashed = d.crashed ∧
      ∃ es, (sendFrame uv d up).log = d.log ++ es ∧ onKicks es = [] := by
  cases hw : (uv.write d.os).2 with
  | true =>
    rw [send_frame_taken up ⟨h,hw⟩]
    exact ⟨rfl,h,rfl,[.write up.addr up.p.seal.msg up.p.payload true],rfl,rfl⟩
  | false =>
    have hopen := ops_close_open ((d.setOs (uv.write d.os).1).emit
      (.write up.addr up.p.seal.msg up.p.payload false)) .writeFailed h
    rw [send_frame_refused up h hw, hopen]
    exact ⟨rfl,rfl,rfl,[.write up.addr up.p.seal.msg up.p.payload false,.close .writeFailed],
      List.append_assoc d.log [_] [_],rfl⟩

/-- The trace of a frame that is handed to the transport. -/
theorem send_frame_log (uv : Uv ω) (d : Daemon ω) (up : ApacketUv) :
    ∃ ok es, (sendFrame uv d up).log =
        d.log ++ .write up.addr up.p.seal.msg up.p.payload ok :: es ∧
      ∀ e ∈ es, e = .close .writeFailed ∨ e = .fault .closingTwice := by
  cases hcl : d.socket.closing with
  | true =>
    rw [send_frame_closing up hcl]
    exact ⟨false,[.fault .closingTwice],by simp [Daemon.fault],by simp⟩
  | false =>
    cases hw : (uv.write d.os).2 with
    | true =>
      rw [send_frame_taken up ⟨hcl,hw⟩]
      exact ⟨true,[],by simp,by simp⟩
    | false =>
      rw [send_frame_refused up hcl hw, ops_close_open _ _ (by simpa using hcl)]
      exact ⟨false,[.close .writeFailed],by simp,by simp⟩

/-- What was added to the trace is of the kind P. -/
def Logs (P : Event → Prop) (d d' : Daemon ω) : Prop :=
  ∃ es, d'.log = d.log ++ es ∧ ∀ e ∈ es, P e

section Logs

variable {P : Event → Prop}

theorem Logs.refl (P : Event → Prop) (d : Daemon ω) : Logs P d d :=
  ⟨[],(List.append_nil _).symm,by simp⟩

theorem Logs.trans {d d' d'' : Daemon ω} (h : Logs P d d') (h' : Logs P d' d'') :
    Logs P d d'' := by
  obtain ⟨es,hes,hp⟩ := h
  obtain ⟨fs,hfs,hq⟩ := h'
  refine ⟨es ++ fs,by rw [hfs, hes, List.append_assoc],fun e he => ?_⟩
  rcases List.mem_append.mp he with he | he
  · exact hp e he
  · exact hq e he

theorem Logs.emit {e : Event} (h : Logs P d d') (he : P e) : Logs P d (d'.emit e) :=
  h.trans ⟨[e],rfl,fun _ hm => List.mem_singleton.mp hm ▸ he⟩

theorem Logs.next {f : Daemon ω → Daemon ω} (h : Logs P d d') (hf : Logs P d' (f d')) :
    Logs P d (d'.next f) := by
  unfold Daemon.next
  split
  · exact h
  · exact h.trans hf

theorem Logs.mem_since (h : Logs P d d') : ∀ e ∈ since d d', P e := by
  obtain ⟨es,hes,hp⟩ := h
  rw [since_of_log hes]
  exact hp

end Logs

/-! A kick. -/

section Kick

variable {a : ℕ} {svc : Service}

theorem alive_of_heap (h : d'.heap = d.heap) (ha : d.alive a = some svc) :
    d'.alive a = some svc := by
  rw [Daemon.alive, h]
  exact ha

theorem asking_of_alive (ha : d.alive a = some svc) : asking d a = svc.kind.asking := by
  rw [asking, ((alive_iff _ _ _).mp ha).1]
  rfl

theorem kind_of_asking {state : StreamState} (hs : svc.kind.asking = some state) :
    svc.kind = .tcp state ∧ (state = .notifyClient ∨ state = .errorClose) := by
  cases hk : svc.kind with
  | tcp st => cases st <;> rw [hk] at hs <;> cases hs <;> simp
  | sync s => rw [hk] at hs; cases hs
  | shell w => rw [hk] at hs; cases hs

theorem has_kick_of_alive (ha : d.alive a = some svc) : hasKick d a = svc.kind.hasKick := by
  rw [hasKick, ((alive_iff _ _ _).mp ha).1]
  rfl

/-- A kick that touches its service at most. -/
theorem kicked_self {svc' : Service} (hc : d.crashed = false) (ha : d.alive a = some svc)
    (hf : svc'.freed = false) (hk : svc.kind.hasKick = true) :
    Kicked d ((d.emit (.onKick a)).setService a svc') a d.stock where
  crashed := hc
  stock := rfl
  services := rfl
  heap b hb := Function.update_of_ne hb _ _
  alive := ⟨svc',set_service_alive _ a svc' hf⟩
  log := ⟨[.onKick a],rfl,by rw [has_kick_of_alive ha, hk]; rfl⟩

theorem kicked_emit (hc : d.crashed = false) (ha : d.alive a = some svc)
    (hk : svc.kind.hasKick = true) : Kicked d (d.emit (.onKick a)) a d.stock where
  crashed := hc
  stock := rfl
  services := rfl
  heap _ _ := rfl
  alive := ⟨svc,alive_of_heap rfl ha⟩
  log := ⟨[.onKick a],rfl,by rw [has_kick_of_alive ha, hk]; rfl⟩

/-- No packet is left. -/
theorem kicked_refused (hc : d.crashed = false) (ha : d.alive a = some svc)
    (hk : svc.kind.hasKick = true) :
    Kicked d (refuse cfg (d.emit (.onKick a))) a { d.stock with frameCount := cfg.frameMax+1 } where
  crashed := hc
  stock := rfl
  services := rfl
  heap _ _ := rfl
  alive := ⟨svc,alive_of_heap rfl ha⟩
  log := ⟨[.onKick a,.refused],by simp [refuse, Daemon.emit],by
    rw [has_kick_of_alive ha, hk]; rfl⟩

/-- There is no memory for a packet. -/
theorem kicked_no_memory (os : ω) (hc : d.crashed = false) (hcl : d.socket.closing = false)
    (ha : d.alive a = some svc) (hk : svc.kind.hasKick = true) :
    Kicked d (opsClose (((d.emit (.onKick a)).setOs os).emit .outOfMemory) .outOfMemory) a
      { d.stock with closing := true, os := os } := by
  have hopen := ops_close_open (((d.emit (.onKick a)).setOs os).emit .outOfMemory)
    .outOfMemory hcl
  have hhas : hasKick d a = true := (has_kick_of_alive ha).trans hk
  rw [hopen]
  refine ⟨by simpa using hc,by simp [Daemon.stock, UvStream.close],by simp,by simp,
    ⟨svc,alive_of_heap (by simp) ha⟩,[.onKick a,.outOfMemory,.close .outOfMemory],by simp,?_⟩
  rw [hhas]
  rfl

/-- The three outcomes of an allocation in a kick. -/
theorem allocate_cases (cfg : Config) (uv : Uv ω) (d : Daemon ω) :
    (cfg.frameMax ≤ d.frameCount ∧ adbHalApacketAllocate cfg uv d = (none, refuse cfg d)) ∨
      (d.frameCount < cfg.frameMax ∧ (uv.packetMalloc d.os).2 = none ∧
        adbHalApacketAllocate cfg uv d =
          (none, opsClose ((d.setOs (uv.packetMalloc d.os).1).emit .outOfMemory) .outOfMemory)) ∨
      ∃ init, d.frameCount < cfg.frameMax ∧ (uv.packetMalloc d.os).2 = some init ∧
        adbHalApacketAllocate cfg uv d =
          (some (newPacket (d.setOs (uv.packetMalloc d.os).1) cfg.payloadSize init).1.packet,
            (newPacket (d.setOs (uv.packetMalloc d.os).1) cfg.payloadSize init).2) := by
  unfold adbHalApacketAllocate adbUvPacketAllocate
  by_cases hle : cfg.frameMax ≤ d.frameCount
  · exact Or.inl ⟨hle,by rw [if_pos hle]; rfl⟩
  · right
    rw [if_neg hle]
    dsimp only
    cases hm : (uv.packetMalloc d.os).2 with
    | none => exact Or.inl ⟨not_le.mp hle,rfl,rfl⟩
    | some init => exact Or.inr ⟨init,not_le.mp hle,rfl,rfl⟩

/-- on_close frees a service that is not connected, with its handle. -/
theorem on_close_unconnected (fs : FileSystem ω) (ha : d.alive a = some svc) {state : StreamState}
    (hk : svc.kind = .tcp state) (hs : state.index ≤ StreamState.notConnected.index) :
    onClose fs d a = freeService (d.emit (.onClose a)) a svc := by
  unfold onClose Daemon.withService
  rw [ha]
  dsimp only
  rw [hk]
  exact if_neg (not_lt.mpr hs)

theorem free_service_alive (d : Daemon ω) (a : ℕ) (svc : Service) :
    (freeService d a svc).alive a = none := by
  refine Option.filter_eq_none_iff.mpr (fun svc' hsvc' => ?_)
  have hself : (freeService d a svc).heap a = some { svc with freed := true } :=
    Function.update_self _ _ _
  obtain rfl := Option.some.inj (hself.symm.trans hsvc')
  simp

/-- A service that gets a packet to be closed with is freed. -/
theorem error_close_stuck (up : ApacketUv) (hreg : a ∈ d.services) (ha : d.alive a = some svc)
    (hk : svc.kind = .tcp .errorClose) : Stuck (adbServiceClose fs uv d a (some up)) a := by
  by_cases hg : d.gone = true
  · left
    unfold adbServiceClose
    dsimp only
    rw [if_pos (by simpa [Daemon.emit] using hg)]
    rfl
  · have hq := quietly_send_close uv (unlink d a) svc (some up)
    have halive : (sendClose uv (unlink d a) svc (some up)).alive a = some svc :=
      alive_of_heap hq.heap ha
    rw [service_close_listed fs uv d a svc _ (by simpa using hg) hreg ha]
    unfold Daemon.next
    split
    · rename_i hcr
      exact Or.inl hcr
    · right
      have hclose := on_close_unconnected fs halive hk (by decide)
      dsimp only
      rw [hclose]
      exact free_service_alive _ a svc

/-- The rest of try_connect, with a packet: the OPEN is answered. -/
def answerOpen (uv : Uv ω) (d : Daemon ω) (a : ℕ) (svc : Service) (up : ApacketUv) : Daemon ω :=
  let svc := adbHalSocketStart { svc with kind := .tcp .connected }
  adbSendOkayFrame uv (d.setService a svc) up svc.id svc.peerId

theorem socket_start_freed (svc : Service) : (adbHalSocketStart svc).freed = svc.freed := by
  unfold adbHalSocketStart
  split <;> rfl

theorem send_frame_closing_crashed (up : ApacketUv) (hcl : d.socket.closing = true) :
    (sendFrame uv d up).crashed = true := by
  rw [send_frame_closing up hcl]
  rfl

theorem kicked_answer {init : ℕ × Mem} {os : ω} {cap : ℕ} (up : ApacketUv)
    (hc : d.crashed = false) (ha : d.alive a = some svc) (hk : svc.kind.hasKick = true)
    (hcl : d.socket.closing = false) {n : Daemon ω}
    (hn : n = (newPacket ((d.emit (.onKick a)).setOs os) cap init).2) :
    Kicked d (answerOpen uv n a svc up) a
      ⟨d.stock.frameCount+1,!(uv.write os).2,(uv.write os).1⟩ := by
  subst hn
  set n := (newPacket ((d.emit (.onKick a)).setOs os) cap init).2 with hn
  set svc' := adbHalSocketStart { svc with kind := .tcp .connected } with hsvc'
  have hfreed : svc'.freed = false :=
    (socket_start_freed _).trans ((alive_iff _ _ _).mp ha).2
  have hq := quietly_send_frame uv (n.setService a svc')
    ((up.setWriteLen 0).message aOkay svc'.id svc'.peerId 0)
  obtain ⟨hos,hclosing,hcrashed,es,hlog,hes⟩ := send_frame_open uv
    (n.setService a svc') ((up.setWriteLen 0).message aOkay svc'.id svc'.peerId 0) hcl
  have hdef : answerOpen uv n a svc up = sendFrame uv (n.setService a svc')
    ((up.setWriteLen 0).message aOkay svc'.id svc'.peerId 0) := rfl
  rw [hdef]
  refine ⟨hcrashed.trans hc,?_,hq.services,fun b hb => ?_,⟨svc',?_⟩,?_⟩
  · rw [Daemon.stock, hos, hclosing, hq.frameCount]
    rfl
  · rw [hq.heap]
    exact Function.update_of_ne hb _ _
  · rw [Daemon.alive, hq.heap]
    exact set_service_alive n a svc' hfreed
  · refine ⟨.onKick a :: .alloc d.fresh :: es,?_,?_⟩
    · rw [hlog]
      simp [hn, newPacket, Daemon.emit, Daemon.setOs, Daemon.setService]
    · rw [has_kick_of_alive ha, hk]
      change a :: onKicks es = [a]
      rw [hes]

/-- The kick of a service that asks for a packet, when there is none: nothing else happens. -/
theorem on_kick_without {state : StreamState} {e : Daemon ω} (ha : d.alive a = some svc)
    (hs : svc.kind.asking = some state)
    (hr : adbHalApacketAllocate cfg uv (d.emit (.onKick a)) = (none, e)) :
    onKick cfg fs uv d a = e := by
  obtain ⟨hk,hstate⟩ := kind_of_asking hs
  unfold onKick Daemon.withService
  rw [ha]
  dsimp only
  rw [hk]
  rcases hstate with rfl | rfl
  · unfold atcpStreamOnKick tryConnect Daemon.next
    simp [hr]
  · unfold atcpStreamOnKick tryClose Daemon.next
    simp [hr]

/-- It gets one: the OPEN is answered, or the service is closed. -/
theorem on_kick_with {state : StreamState} {up : ApacketUv} {n : Daemon ω}
    (ha : d.alive a = some svc) (hs : svc.kind.asking = some state)
    (hr : adbHalApacketAllocate cfg uv (d.emit (.onKick a)) = (some up, n))
    (hc : n.crashed = false) (hn : n.alive a = some svc) :
    onKick cfg fs uv d a =
      if state = .errorClose then adbServiceClose fs uv n a (some up)
      else answerOpen uv n a svc up := by
  obtain ⟨hk,hstate⟩ := kind_of_asking hs
  unfold onKick Daemon.withService
  rw [ha]
  dsimp only
  rw [hk]
  rcases hstate with rfl | rfl
  · unfold atcpStreamOnKick tryConnect Daemon.next Daemon.withService
    simp [hr, hc, hn, answerOpen]
  · unfold atcpStreamOnKick tryClose Daemon.next
    simp [hr, hc]

/-- The kick of a service that asks for a packet. -/
theorem on_kick_asking (hc : d.crashed = false) (hreg : a ∈ d.services) (ha : d.alive a = some svc)
    {state : StreamState} (hs : svc.kind.asking = some state) :
    KickOutcome d (onKick cfg fs uv d a) a (ask cfg uv d.stock state) := by
  have hhas : svc.kind.hasKick = true := by
    rw [(kind_of_asking hs).1]
    rfl
  rcases allocate_cases cfg uv (d.emit (.onKick a)) with ⟨hle,heq⟩ | ⟨hlt,hm,heq⟩ | ⟨init,hlt,hm,heq⟩
  · -- all packets are in use
    rw [ask_full d.stock state hle, on_kick_without ha hs heq]
    exact kicked_refused hc ha hhas
  · -- there is no memory for one, and the transport is closed for that
    rw [ask_without d.stock state hlt hm, on_kick_without ha hs heq]
    cases hcl : d.socket.closing with
    | true =>
      have hcl' : (((d.emit (.onKick a)).setOs (uv.packetMalloc d.os).1).emit
        .outOfMemory).socket.closing = true := hcl
      rw [if_pos (show d.stock.closing = true from hcl)]
      exact Or.inl (congrArg Daemon.crashed (ops_close_closing .outOfMemory hcl'))
    | false =>
      rw [if_neg (by simp [Daemon.stock, hcl])]
      exact kicked_no_memory _ hc hcl ha hhas
  · set n := (newPacket ((d.emit (.onKick a)).setOs (uv.packetMalloc d.os).1) cfg.payloadSize
      init).2 with hn
    have halive : n.alive a = some svc := alive_of_heap rfl ha
    rw [ask_with d.stock state hlt hm, on_kick_with ha hs heq hc halive]
    rcases (kind_of_asking hs).2 with rfl | rfl
    · rw [if_neg (show ¬StreamState.notifyClient = .errorClose by simp)]
      cases hcl : d.socket.closing with
      | true =>
        rw [if_pos (show d.stock.closing = true from hcl)]
        exact Or.inl (send_frame_closing_crashed _ hcl)
      | false =>
        rw [if_neg (by simp [Daemon.stock, hcl])]
        exact kicked_answer _ hc ha hhas hcl hn
    · -- a service that gets a packet to be closed with is freed, whatever the transport does
      rw [if_pos rfl, if_pos rfl, ite_self]
      exact error_close_stuck _ hreg halive (kind_of_asking hs).1

/-- The kick of a service that does not: it may start to read. -/
theorem on_kick_other (hc : d.crashed = false) (ha : d.alive a = some svc)
    (hs : svc.kind.asking = none) : Kicked d (onKick cfg fs uv d a) a d.stock := by
  have hfreed := ((alive_iff _ _ _).mp ha).2
  unfold onKick Daemon.withService
  rw [ha]
  dsimp only
  cases hk : svc.kind with
  | sync s =>
    have hhas : hasKick d a = false := by rw [has_kick_of_alive ha, hk]; rfl
    exact ⟨hc,rfl,rfl,fun _ _ => rfl,⟨svc,ha⟩,[],(List.append_nil _).symm,by rw [hhas]; rfl⟩
  | tcp state =>
    have hhas : svc.kind.hasKick = true := by rw [hk]; rfl
    cases state with
    | notConnected => exact kicked_emit hc ha hhas
    | waitAck => exact kicked_emit hc ha hhas
    | connected => exact kicked_self hc ha ((socket_start_freed svc).trans hfreed) hhas
    | notifyClient => rw [hk] at hs; cases hs
    | errorClose => rw [hk] at hs; cases hs
  | shell waitAck =>
    refine kicked_self hc ha ?_ (by rw [hk]; rfl)
    unfold shellKick
    split
    · exact hfreed
    · split <;> exact hfreed

end Kick

/-! The loop. -/

/-- What the kicks of the services in l come to. -/
def askAll (cfg : Config) (uv : Uv ω) (d : Daemon ω) (l : List ℕ) : Option (Stock ω) :=
  (l.filterMap (asking d)).foldlM (ask cfg uv) d.stock

theorem ask_all_cons (cfg : Config) (uv : Uv ω) (d : Daemon ω) (a : ℕ) (l : List ℕ) :
    askAll cfg uv d (a :: l) =
      ((asking d a).elim (some d.stock) (ask cfg uv d.stock)).bind
        ((l.filterMap (asking d)).foldlM (ask cfg uv)) := by
  unfold askAll
  cases hs : asking d a with
  | none => rw [List.filterMap_cons_none hs]; rfl
  | some state => rw [List.filterMap_cons_some hs]; rfl

theorem on_kick_outcome {a : ℕ} {svc : Service} (hc : d.crashed = false) (hreg : a ∈ d.services)
    (ha : d.alive a = some svc) : KickOutcome d (onKick cfg fs uv d a) a
      ((asking d a).elim (some d.stock) (ask cfg uv d.stock)) := by
  rw [asking_of_alive ha]
  cases hs : svc.kind.asking with
  | none => exact on_kick_other hc ha hs
  | some state => exact on_kick_asking hc hreg ha hs

/-- The loop over the rest of the list: it comes to an end iff every kick lets it go on, and
has then called on_kick once for each service. -/
theorem kick_loop_spec (cfg : Config) (fs : FileSystem ω) (uv : Uv ω) (l : List ℕ) (d : Daemon ω)
    (hc : d.crashed = false) (hn : l.Nodup)
    (hreg : ∀ a ∈ l, a ∈ d.services ∧ ∃ svc, d.alive a = some svc) :
    if (askAll cfg uv d l).isSome then
      (kickLoop cfg fs uv l d).crashed = false ∧
        ∃ es, (kickLoop cfg fs uv l d).log = d.log ++ es ∧ onKicks es = l.filter (hasKick d)
    else (kickLoop cfg fs uv l d).crashed = true := by
  induction l generalizing d with
  | nil => exact ⟨hc,[],(List.append_nil _).symm,rfl⟩
  | cons a rest ih =>
    obtain ⟨⟨ha,svc,hsvc⟩,hrest⟩ := List.forall_mem_cons.mp hreg
    obtain ⟨hnot,hnodup⟩ := List.nodup_cons.mp hn
    have hkick : KickOutcome d (onKick cfg fs uv d a) a _ := on_kick_outcome hc ha hsvc
    rw [ask_all_cons, kickLoop]
    generalize (asking d a).elim (some d.stock) (ask cfg uv d.stock) = o at hkick
    generalize onKick cfg fs uv d a = e at hkick
    cases o with
    | none =>
      rw [if_neg (by simp)]
      unfold Daemon.next
      split
      · assumption
      · rename_i hcr
        unfold Daemon.withService
        dsimp only
        rw [hkick.resolve_left hcr]
        rfl
    | some s =>
      obtain ⟨svc',hsvc'⟩ := hkick.alive
      have hloop : (e.next fun d => d.withService a fun _ => kickLoop cfg fs uv rest d) =
          kickLoop cfg fs uv rest e := by
        unfold Daemon.next Daemon.withService
        rw [if_neg (by simp [hkick.crashed])]
        dsimp only
        rw [hsvc']
      have hother (b : ℕ) (hb : b ∈ rest) : e.heap b = d.heap b :=
        hkick.heap b (ne_of_mem_of_not_mem hb hnot)
      have hasks : rest.filterMap (asking e) = rest.filterMap (asking d) :=
        List.filterMap_congr (fun b hb => by rw [asking, asking, hother b hb])
      have hkicks : rest.filter (hasKick e) = rest.filter (hasKick d) :=
        List.filter_congr (fun b hb => by rw [hasKick, hasKick, hother b hb])
      have hih := ih e hkick.crashed hnodup (fun b hb => by
        obtain ⟨hin,svc₁,hsvc₁⟩ := hrest b hb
        refine ⟨by rw [hkick.services]; exact hin,svc₁,?_⟩
        rw [Daemon.alive, hother b hb]
        exact hsvc₁)
      rw [askAll, hasks, hkick.stock] at hih
      rw [hloop, Option.bind_some]
      split
      · rename_i hsome
        rw [if_pos hsome] at hih
        obtain ⟨hcr,es',hlog',hes'⟩ := hih
        obtain ⟨es,hlog,hes⟩ := hkick.log
        refine ⟨hcr,es ++ es',by rw [hlog', hlog, List.append_assoc],?_⟩
        rw [on_kicks_append, hes, hes', hkicks, List.filter_cons]
        cases hasKick d a <;> rfl
      · rename_i hnone
        rw [if_neg hnone] at hih
        exact hih

/-- adb_client_kick_services calls on_kick once for each service of the list, in its order, and
comes to an end: the program does not when the loop reads the next field of a service that has
been freed. -/
structure KickedOnce (cfg : Config) (fs : FileSystem ω) (uv : Uv ω) (d : Daemon ω) : Prop where
  ends : (adbClientKickServices cfg fs uv d).crashed = false
  kicks : onKicks (since d (adbClientKickServices cfg fs uv d)) = d.services.filter (hasKick d)

/-- For every list of services in memory and every number of free packets, each service is kicked
once and only links of services in memory are read exactly when none of the services in
F_ERROR_CLOSE gets a packet, and none that could have one asks while the transport is closing. -/
theorem kicked_once_iff (cfg : Config) (fs : FileSystem ω) (uv : Uv ω) (d : Daemon ω)
    (hc : d.crashed = false) (hn : d.services.Nodup)
    (ha : ∀ a ∈ d.services, ∃ svc, d.alive a = some svc) :
    KickedOnce cfg fs uv d ↔ (askAll cfg uv d d.services).isSome = true := by
  have hspec := kick_loop_spec cfg fs uv d.services d hc hn
    (fun a hin => ⟨hin,ha a hin⟩)
  constructor
  · intro h
    by_contra hnone
    rw [if_neg hnone] at hspec
    have hends := h.ends
    rw [adbClientKickServices, hspec] at hends
    cases hends
  · intro hsome
    rw [if_pos hsome] at hspec
    obtain ⟨hcr,es,hlog,hes⟩ := hspec
    exact ⟨hcr,by rw [adbClientKickServices, since_of_log hlog, hes]⟩

/-- A build with one packet. -/
def oneFrame : Config := { defaultConfig with frameMax := 1 }

/-- A tcp service whose connection failed while the packet was in use, when the packet has been
released and the services are kicked. -/
def kickedFailure : Daemon Unit :=
  setFrameCount (freePacket (daemonRun oneFrame emptyFs plainUv [] ()
    (hostFrame aOpen 5 0 (ascii "tcp:80") ++
      [.transportRead (.data [0]),.connected 1 true])) 2) 0

/-- Its kick closes and frees it. -/
theorem kick_reads_freed : ¬KickedOnce oneFrame emptyFs plainUv kickedFailure := by
  intro h
  have hcr : (adbClientKickServices oneFrame emptyFs plainUv kickedFailure).crashed = true := by
    decide +kernel
  rw [h.ends] at hcr
  cases hcr

/-- The same service, with its connection made. -/
def kickedSuccess : Daemon Unit :=
  setFrameCount (freePacket (daemonRun oneFrame emptyFs plainUv [] ()
    (hostFrame aOpen 5 0 (ascii "tcp:80") ++
      [.transportRead (.data [0]),.connected 1 false])) 2) 0

theorem kick_answers : KickedOnce oneFrame emptyFs plainUv kickedSuccess := by
  have hlist : kickedSuccess.services = [1] := by decide +kernel
  refine (kicked_once_iff oneFrame emptyFs plainUv kickedSuccess (by decide +kernel) ?_
    (fun a ha => ?_)).mpr (by decide +kernel)
  · rw [hlist]
    decide
  · rw [hlist] at ha
    obtain rfl := List.mem_singleton.mp ha
    exact Option.isSome_iff_exists.mp (by decide +kernel)

end MicroADB
