import MicroADB.AdbStep

/-! What an OPEN frame opens is decided by its payload, a bare "shell" apart: the command of
that shell lies behind the payload. -/
namespace MicroADB
open ByteMemory

variable {ω : Type} {cfg : Config} {fs : FileSystem ω} {uv : Uv ω} {up up' : ApacketUv}

/-- The service that handle_open_frame opens, with its parameters. -/
def opening (cfg : Config) (up : ApacketUv) : Option ServiceName :=
  if up.p.msg.arg0 = 0 ∨ up.p.msg.arg1 ≠ 0 then none
  else some (serviceName cfg (terminateName up))

/-- The same buffer with the same ids and payload, and any bytes behind the payload. -/
structure SamePayload (up up' : ApacketUv) : Prop where
  addr : up'.addr = up.addr
  cap : up'.cap = up.cap
  writeLen : up'.p.writeLen = up.p.writeLen
  arg0 : up'.p.msg.arg0 = up.p.msg.arg0
  arg1 : up'.p.msg.arg1 = up.p.msg.arg1
  dataLength : up'.p.msg.dataLength = up.p.msg.dataLength
  payload : up'.p.payload = up.p.payload

/-- "shell" and one byte, which becomes the terminator. -/
structure BareShell (cfg : Config) (up : ApacketUv) : Prop where
  accepted : up.p.msg.arg0 ≠ 0 ∧ up.p.msg.arg1 = 0
  service : cfg.shellService = true
  length : up.p.msg.dataLength = 6
  name : up.p.payload.take 5 = ascii "shell"
  room : 6 < up.cap

/-! The name. -/

/-- The index of the terminator. -/
def nameEnd (up : ApacketUv) : ℕ := if 0 < up.p.msg.dataLength then up.p.msg.dataLength-1 else 0

theorem terminate_end (up : ApacketUv) : (terminateName up).p.data (nameEnd up) = 0 :=
  store_apply_of_mem up.p.data (nameEnd up) 0 [0] (by simp)

theorem terminate_same (h : SamePayload up up') (i : ℕ) (hi : i ≤ nameEnd up) :
    (terminateName up').p.data i = (terminateName up).p.data i := by
  have hend : nameEnd up' = nameEnd up := by
    rw [nameEnd, nameEnd, h.dataLength]
  rcases hi.eq_or_lt with rfl | hlt
  · rw [terminate_end, ← hend, terminate_end]
  · have hlen : i < up.p.msg.dataLength := by
      unfold nameEnd at hlt
      split at hlt <;> omega
    have hbyte : up'.p.data i = up.p.data i := by
      have hpayload := h.payload
      unfold Apacket.payload at hpayload
      rw [h.dataLength] at hpayload
      have hget := congrArg (fun l => l[i]?) hpayload
      simpa [slice, hlen] using hget
    have hother (q : ApacketUv) (hq : nameEnd q = nameEnd up) :
        (terminateName q).p.data i = q.p.data i :=
      store_apply_of_lt q.p.data (nameEnd q) i [0] (hq ▸ hlt)
    rw [hother up rfl, hother up' hend, hbyte]

/-- A name that starts with a text ends behind it. -/
theorem name_starts_end {s : List UInt8} (hs : (0 : UInt8) ∉ s)
    (h : (terminateName up).NameStarts s) : s.length ≤ nameEnd up := by
  by_contra hlt
  have hmem : (terminateName up).p.data (nameEnd up) ∈
      slice (terminateName up).p.data 0 s.length :=
    List.mem_map.mpr ⟨nameEnd up,by simp; omega,by rw [Nat.zero_add]⟩
  rw [h, terminate_end] at hmem
  exact hs hmem

theorem name_starts_same (h : SamePayload up up') {s : List UInt8} (hs : (0 : UInt8) ∉ s) :
    (terminateName up').NameStarts s ↔ (terminateName up).NameStarts s := by
  have hend : nameEnd up' = nameEnd up := by
    rw [nameEnd, nameEnd, h.dataLength]
  have hslice (hle : s.length ≤ nameEnd up) : slice (terminateName up').p.data 0 s.length =
      slice (terminateName up).p.data 0 s.length :=
    slice_congr _ _ _ _ (fun i _ hi => terminate_same h i (by omega))
  constructor
  · intro hstarts
    have hle := name_starts_end hs hstarts
    exact (hslice (hend ▸ hle)).symm.trans hstarts
  · intro hstarts
    exact (hslice (name_starts_end hs hstarts)).trans hstarts

theorem name_from_same (h : SamePayload up up') (n : ℕ) (hn : n ≤ nameEnd up) :
    (terminateName up').nameFrom n = (terminateName up).nameFrom n := by
  have hcap : (terminateName up').cap = (terminateName up).cap := h.cap
  rw [ApacketUv.nameFrom, ApacketUv.nameFrom, hcap]
  exact cstring_congr _ _ _ _ (nameEnd up) (terminate_end up) hn
    (fun i _ hi => terminate_same h i hi)

/-- Only the command of a bare shell is read from behind the terminator. -/
theorem service_name_same (h : SamePayload up up')
    (hshell : cfg.shellService = true → (terminateName up).NameStarts (ascii "shell") →
      6 ≤ nameEnd up ∨ up.cap ≤ 6) :
    serviceName cfg (terminateName up') = serviceName cfg (terminateName up) := by
  have hsync := name_starts_same h (s := ascii "sync:") (by decide)
  have htcp := name_starts_same h (s := ascii "tcp:") (by decide)
  have hsh := name_starts_same h (s := ascii "shell") (by decide)
  have hreboot := name_starts_same h (s := ascii "reboot:") (by decide)
  unfold serviceName
  simp only [hsync, htcp, hsh, hreboot]
  split
  · rfl
  · split
    · rename_i hname
      rw [name_from_same h 4 (name_starts_end (s := ascii "tcp:") (by decide) hname.2)]
    · split
      · rename_i hname
        have hcmd : (terminateName up').nameFrom 6 = (terminateName up).nameFrom 6 := by
          rcases hshell hname.1 hname.2 with hle | hcap
          · exact name_from_same h 6 hle
          · have hzero (q : ApacketUv) (hq : q.cap = up.cap) : (terminateName q).nameFrom 6 = [] := by
              have hbound : (terminateName q).cap-6 = 0 := by
                change q.cap-6 = 0
                omega
              rw [ApacketUv.nameFrom, hbound]
              rfl
            rw [hzero up rfl, hzero up' h.cap]
        rw [hcmd]
      · split
        · rename_i hname
          rw [name_from_same h 7 (name_starts_end (s := ascii "reboot:") (by decide) hname)]
        · rfl

/-! What is done with it. -/

/-- Two daemons that differ in the buffers of their packets only, as far as services and the
environment can tell. -/
structure SameEffect (d d' : Daemon ω) : Prop where
  log : d'.log = d.log
  services : d'.services = d.services
  heap : d'.heap = d.heap
  nextServiceId : d'.nextServiceId = d.nextServiceId
  os : d'.os = d.os
  crashed : d'.crashed = d.crashed

theorem send_frame_same (d : Daemon ω) (up up' : ApacketUv) (haddr : up'.addr = up.addr)
    (hmsg : up'.p.seal.msg = up.p.seal.msg) (hpayload : up'.p.seal.payload = up.p.seal.payload) :
    SameEffect (sendFrame uv d up) (sendFrame uv d up') := by
  unfold sendFrame tcpUvWrite
  simp only [haddr, hmsg, hpayload]
  cases (if d.socket.closing = true then (d.os, false) else uv.write d.os).2
  · exact ⟨rfl,rfl,rfl,rfl,rfl,rfl⟩
  · exact ⟨rfl,rfl,rfl,rfl,rfl,rfl⟩

/-- A frame without payload. -/
theorem send_message_same (d : Daemon ω) (up up' : ApacketUv) (haddr : up'.addr = up.addr)
    (command arg0 arg1 : ℕ) :
    SameEffect (sendFrame uv d (up.message command arg0 arg1 0))
      (sendFrame uv d (up'.message command arg0 arg1 0)) :=
  send_frame_same d _ _ haddr rfl rfl

/-- Two packets that differ in what no function behind adb_service_open's tests reads. -/
structure Twin (up up' : ApacketUv) : Prop where
  addr : up'.addr = up.addr
  writeLen : up'.p.writeLen = up.p.writeLen
  arg0 : up'.p.msg.arg0 = up.p.msg.arg0

structure SameOpen (r r' : Option ℕ × ApacketUv × Daemon ω) : Prop where
  service : r'.1 = r.1
  packet : Twin r.2.1 r'.2.1
  daemon : r'.2.2 = r.2.2

theorem finish_open_same (svc : Option Service) (d : Daemon ω) (params : ServiceParams)
    (h : Twin up up') :
    SameOpen (finishOpen (svc, up, d) params) (finishOpen (svc, up', d) params) := by
  cases svc with
  | none => exact ⟨rfl,h,rfl⟩
  | some svc =>
    simp only [finishOpen, h.arg0]
    exact ⟨rfl,h,rfl⟩

theorem service_open_same (d : Daemon ω) (h : Twin up up')
    (hname : serviceName cfg up' = serviceName cfg up) :
    SameOpen (adbServiceOpen cfg uv d up) (adbServiceOpen cfg uv d up') := by
  unfold adbServiceOpen
  rw [hname]
  split
  · exact ⟨rfl,h,rfl⟩
  · split
    · exact finish_open_same _ _ _ h
    · rename_i port _
      unfold tcpForwardService
      split
      · exact ⟨rfl,h,rfl⟩
      · dsimp only
        split
        · exact finish_open_same _ _ _ ⟨h.addr,rfl,h.arg0⟩
        · exact ⟨rfl,h,rfl⟩
        · exact ⟨rfl,h,rfl⟩
    · exact finish_open_same _ _ _ h
    · exact ⟨rfl,h,rfl⟩
    · exact ⟨rfl,h,rfl⟩

theorem SameEffect.refl (d : Daemon ω) : SameEffect d d := ⟨rfl,rfl,rfl,rfl,rfl,rfl⟩

theorem after_open_same (r r' : Option ℕ × ApacketUv × Daemon ω) (h : SameOpen r r') :
    SameEffect (afterOpen cfg fs uv r) (afterOpen cfg fs uv r') := by
  obtain ⟨a,q,d⟩ := r
  obtain ⟨a',q',d'⟩ := r'
  obtain ⟨ha,hq,hd⟩ := h
  dsimp only at ha hq hd
  subst ha hd
  unfold afterOpen Daemon.next
  dsimp only
  split
  · exact SameEffect.refl _
  · cases a' with
    | none =>
      dsimp only
      rw [hq.writeLen, hq.arg0]
      split
      · exact send_message_same _ q q' hq.addr _ _ _
      · exact send_message_same _ (q.setWriteLen 0) (q'.setWriteLen 0) hq.addr _ _ _
    | some a =>
      dsimp only
      rw [hq.writeLen, hq.addr]
      split
      · exact SameEffect.refl _
      · unfold Daemon.withService
        split
        · exact SameEffect.refl _
        · exact send_message_same _ q q' hq.addr _ _ _

/-- The effect of the frame depends on what it opens. -/
theorem open_frame_same (d : Daemon ω) (h : SamePayload up up')
    (hopening : opening cfg up' = opening cfg up) :
    SameEffect (handleOpenFrame cfg fs uv d up) (handleOpenFrame cfg fs uv d up') := by
  unfold handleOpenFrame
  rw [h.arg0, h.arg1, h.addr]
  unfold opening at hopening
  rw [h.arg0, h.arg1] at hopening
  split
  · exact SameEffect.refl _
  · rename_i hok
    rw [if_neg hok] at hopening
    exact after_open_same _ _ (service_open_same d ⟨h.addr,h.writeLen,h.arg0⟩
      (by simpa [hok] using hopening))

/-- The first bytes of the payload, when the terminator is behind them. -/
theorem name_starts_payload (s : List UInt8) (h : (terminateName up).NameStarts s)
    (hs : (0 : UInt8) ∉ s) : up.p.payload.take s.length = s := by
  have hle := name_starts_end hs h
  have hlen : nameEnd up ≤ up.p.msg.dataLength := by
    unfold nameEnd
    split <;> omega
  have hslice : slice (terminateName up).p.data 0 s.length = slice up.p.data 0 s.length :=
    slice_congr _ _ _ _ (fun i _ hi =>
      store_apply_of_lt up.p.data (nameEnd up) i [0] (by omega))
  rw [Apacket.payload, take_slice, min_eq_left (hle.trans hlen), ← hslice]
  exact h

/-- The command of a bare shell starts with the byte behind its payload. -/
theorem bare_shell_name (h : BareShell cfg up) :
    serviceName cfg (terminateName up) = .shell ((terminateName up).nameFrom 6) := by
  have hend : nameEnd up = 5 := by
    rw [nameEnd, h.length]
    rfl
  have hshell : (terminateName up).NameStarts (ascii "shell") := by
    have hslice : slice (terminateName up).p.data 0 5 = slice up.p.data 0 5 :=
      slice_congr _ _ _ _ (fun i _ hi =>
        store_apply_of_lt up.p.data (nameEnd up) i [0] (by omega))
    have hname := h.name
    rw [Apacket.payload, h.length, take_slice] at hname
    exact hslice.trans hname
  have hnot (s : List UInt8) (hlen : 0 < s.length) (hhead : s.head? ≠ some 115) :
      ¬(terminateName up).NameStarts s := by
    intro hs
    have hbyte (t : List UInt8) (ht : (terminateName up).NameStarts t) (h0 : 0 < t.length) :
        t.head? = some ((terminateName up).p.data 0) := by
      unfold ApacketUv.NameStarts at ht
      cases t with
      | nil => simp at h0
      | cons b t =>
        rw [List.length_cons, slice_succ] at ht
        rw [(List.cons.inj ht).1]
        rfl
    have h115 := (hbyte _ hshell (by decide)).symm.trans (by rfl : (ascii "shell").head? = some 115)
    rw [hbyte s hs hlen, h115] at hhead
    exact hhead rfl
  have hsync : ¬(terminateName up).NameStarts (ascii "sync:") := by
    intro hs
    have hlt := name_starts_end (s := ascii "sync:") (by decide) hs
    have htake (t : List UInt8) (ht : (terminateName up).NameStarts t) (h5 : t.length = 5) :
        slice (terminateName up).p.data 0 5 = t := by
      rw [← h5]
      exact ht
    exact absurd ((htake _ hs rfl).symm.trans (htake _ hshell rfl)) (by decide)
  unfold serviceName
  rw [if_neg (fun h => hsync h.2), if_neg (fun h => hnot _ (by decide) (by decide) h.2),
    if_pos ⟨h.service,hshell⟩]

/-- Packets with the same payload open the same, whatever lies behind it, unless it is a bare
"shell"; and what they open decides all that is done to the services. -/
theorem opening_from_payload (cfg : Config) (up : ApacketUv) :
    ((∀ up', SamePayload up up' → opening cfg up' = opening cfg up) ↔ ¬BareShell cfg up) ∧
      (¬BareShell cfg up → ∀ {ω : Type} (fs : FileSystem ω) (uv : Uv ω) (d : Daemon ω)
        (up' : ApacketUv), SamePayload up up' →
        SameEffect (handleOpenFrame cfg fs uv d up) (handleOpenFrame cfg fs uv d up')) := by
  have hsame (hbare : ¬BareShell cfg up) (up' : ApacketUv) (h : SamePayload up up') :
      opening cfg up' = opening cfg up := by
    unfold opening
    rw [h.arg0, h.arg1]
    split
    · rfl
    · rename_i hok
      rw [service_name_same h (fun hservice hstarts => ?_)]
      by_contra hnot
      rw [not_or, not_le, not_le] at hnot
      have hle := name_starts_end (s := ascii "shell") (by decide) hstarts
      have h5 : (ascii "shell").length = 5 := by decide
      refine hbare ⟨by simpa [not_or] using hok,hservice,?_,
        name_starts_payload _ hstarts (by decide),hnot.2⟩
      have hend : nameEnd up = 5 := by omega
      unfold nameEnd at hend
      split at hend <;> omega
  refine ⟨⟨fun h hbare => ?_,hsame⟩,fun hbare ω fs uv d up' h => ?_⟩
  · -- another byte behind the payload gives another command
    set b : UInt8 := if up.p.data 6 = 0 then 1 else 0 with hb
    set up' : ApacketUv := up.setData (store up.p.data 6 [b]) with hup'
    have hpayload : up'.p.payload = up.p.payload := by
      change slice (store up.p.data 6 [b]) 0 up.p.msg.dataLength = slice up.p.data 0 up.p.msg.dataLength
      rw [slice_store_disjoint _ _ _ _ _ (Or.inl (by rw [hbare.length]))]
    have hopen := h up' ⟨rfl,rfl,rfl,rfl,rfl,rfl,hpayload⟩
    have hbare' : BareShell cfg up' := ⟨hbare.accepted,hbare.service,hbare.length,
      by rw [hpayload]; exact hbare.name,hbare.room⟩
    have hok : ¬(up.p.msg.arg0 = 0 ∨ up.p.msg.arg1 ≠ 0) := by
      simpa [not_or] using hbare.accepted
    have hopening (q : ApacketUv) (hq : BareShell cfg q) :
        opening cfg q = some (.shell ((terminateName q).nameFrom 6)) := by
      unfold opening
      rw [if_neg (by simpa [not_or] using hq.accepted), bare_shell_name hq]
    rw [hopening up hbare, hopening up' hbare'] at hopen
    have hcmd := ServiceName.shell.inj (Option.some.inj hopen)
    have hend (q : ApacketUv) (hq : q.p.msg.dataLength = 6) : nameEnd q = 5 := by
      rw [nameEnd, hq]
      rfl
    have hempty (q : ApacketUv) (hq : BareShell cfg q) :
        (terminateName q).nameFrom 6 = [] ↔ q.p.data 6 = 0 := by
      have hbyte : (terminateName q).p.data 6 = q.p.data 6 :=
        store_apply_of_ge q.p.data (nameEnd q) 6 [0] (by rw [hend q hq.length]; rfl)
      obtain ⟨k,hk⟩ : ∃ k, (terminateName q).cap-6 = k+1 := ⟨q.cap-6-1,by
        have hroom := hq.room
        change q.cap-6 = _
        omega⟩
      rw [ApacketUv.nameFrom, hk, cstring, hbyte]
      split <;> simp_all
    have hb' : up'.p.data 6 = b := store_apply_of_mem up.p.data 6 0 [b] (by simp)
    have hiff : b = 0 ↔ up.p.data 6 = 0 := by
      rw [← hb', ← hempty up' hbare', hcmd, hempty up hbare]
    rw [hb] at hiff
    split at hiff <;> simp_all
  · exact open_frame_same d h (hsame hbare up' h)

/-- OPEN(1, 0, "shell:") without a terminator, in a buffer with other bytes behind it. -/
def openShell (rest : List UInt8) : ApacketUv :=
  { addr := 0
    cap := 64
    p := ⟨0,⟨aOpen,1,0,6,0,0⟩,store (fun _ => 0) 0 (ascii "shell:" ++ rest)⟩ }

theorem shell_reads_behind : SamePayload (openShell []) (openShell (ascii "id")) ∧
    opening defaultConfig (openShell []) = some (.shell []) ∧
    opening defaultConfig (openShell (ascii "id")) = some (.shell (ascii "id")) := by
  refine ⟨⟨rfl,rfl,rfl,rfl,rfl,rfl,by decide⟩,?_,?_⟩ <;> decide +kernel

end MicroADB
