import MicroADB.Adb
import MicroADB.EventRun
import MicroADB.Ledger
import MicroADB.Monitor

/-! The qemu server: it asks the goldfish pipe for connections, one at a time, and asks again when
the handle behind the last answer has been closed. -/
namespace MicroADB
open EventRun Ledger Monitor

/-- What the server asks of a system with states ω. Descriptors are negative when there is none; of
the calls of libuv a negative return is a failure. -/
structure Goldfish (ω : Type) where
  openPipe : ω → ω × ℤ
  write : ω → ℤ → List UInt8 → ω × ℤ
  /-- At most 2 bytes; none when it fails. -/
  read : ω → ℤ → ω × Option (List UInt8)
  close : ω → ℤ → ω
  pollInit : ω → ℤ → ω × ℤ
  pollStart : ω → ω × ℤ
  clientMalloc : ω → ω × Option (List UInt8)
  pipeInit : ω → ω × ℤ
  pipeOpen : ω → ℤ → ω × ℤ
  readStart : ω → ω × ℤ

/-- What the server does; k counts the pipes that were opened. -/
inductive QemuEvent
  | openFailed (ret : ℤ)
  | opened (k : ℕ) (fd : ℤ)
  | wrote (k : ℕ) (bytes : List UInt8) (ret : ℤ)
  | pollInit (k : ℕ) (ret : ℤ)
  | pollStart (k : ℕ) (ret : ℤ)
  | pollClose (k : ℕ)
  /-- The close of the handle has completed. -/
  | pollClosed
  | read (k : ℕ) (bytes : Option (List UInt8))
  | noMemory (k : ℕ)
  | created (k : ℕ)
  /-- The pipe belongs to the handle of its client, which is read. -/
  | client (k : ℕ)
  | close (k : ℕ)
  | assertion (k : ℕ)
deriving DecidableEq, Repr

/-- The handle qemu_server of the context, with the pipe that it polls. -/
inductive QemuPoll
  | idle
  | polling (k : ℕ) (fd : ℤ)
  | closing
deriving DecidableEq, Repr

structure QemuServer (ω : Type) where
  os : ω
  next : ℕ
  poll : QemuPoll
  down : Bool
  log : List QemuEvent

inductive QemuInput
  | readable (status : ℤ) (disconnect : Bool)
  | closed

/-- The cookie of the handshake, without the NUL behind it. -/
def qemuCookie (port : List UInt8) : List UInt8 :=
  ascii "pipe:qemud:adb:" ++ port ++ [0] ++ ascii "accept"

variable {ω : Type}

def QemuServer.call (s : QemuServer ω) (os : ω) (e : QemuEvent) : QemuServer ω :=
  { s with os := os, log := s.log ++ [e] }

variable (gf : Goldfish ω) (port : List UInt8)

/-- close -/
def QemuServer.closePipe (s : QemuServer ω) (k : ℕ) (fd : ℤ) : QemuServer ω :=
  s.call (gf.close s.os fd) (.close k)

/-- assert -/
def QemuServer.abort (s : QemuServer ω) (k : ℕ) (os : ω) : QemuServer ω :=
  { s.call os (.assertion k) with down := true }

/-- A client on the pipe, behind the handshake. -/
def qemuClient (s : QemuServer ω) (k : ℕ) (fd : ℤ) : QemuServer ω :=
  let r := gf.clientMalloc s.os
  match r.2 with
  | none => (s.call r.1 (.noMemory k)).closePipe gf k fd
  | some _ =>
    let s := s.call r.1 (.created k)
    let r := gf.pipeInit s.os
    if r.2 ≠ 0 then s.abort k r.1
    else
      let r := gf.pipeOpen r.1 fd
      if r.2 ≠ 0 then s.abort k r.1
      else
        let r := gf.readStart r.1
        if r.2 ≠ 0 then s.abort k r.1 else s.call r.1 (.client k)

def qemuUvOnReadable (s : QemuServer ω) (k : ℕ) (fd status : ℤ) (disconnect : Bool) :
    QemuServer ω :=
  let s := { s.call s.os (.pollClose k) with poll := .closing }
  if status < 0 ∨ disconnect = true then s.closePipe gf k fd
  else
    let r := gf.read s.os fd
    let s := s.call r.1 (.read k r.2)
    if r.2 ≠ some (ascii "ok") then s.closePipe gf k fd
    else
      let r := gf.write s.os fd (ascii "start")
      let s := s.call r.1 (.wrote k (ascii "start") r.2)
      if r.2 ≠ 5 then s.closePipe gf k fd else qemuClient gf s k fd

def adbUvQemuSetup (s : QemuServer ω) : ℤ × QemuServer ω :=
  let cookie := qemuCookie port
  let r := gf.openPipe s.os
  if r.2 < 0 then (r.2, s.call r.1 (.openFailed r.2))
  else
    let fd := r.2
    let k := s.next
    let s := { s.call r.1 (.opened k fd) with next := k+1 }
    let r := gf.write s.os fd cookie
    let s := s.call r.1 (.wrote k cookie r.2)
    if r.2 ≠ cookie.length then (r.2, s.closePipe gf k fd)
    else
      let r := gf.pollInit s.os fd
      let s := s.call r.1 (.pollInit k r.2)
      if r.2 < 0 then (r.2, s.closePipe gf k fd)
      else
        let r := gf.pollStart s.os
        let s := { s.call r.1 (.pollStart k r.2) with poll := .polling k fd }
        (0, if r.2 < 0 then qemuUvOnReadable gf s k fd r.2 false else s)

def qemuStep (s : QemuServer ω) (i : QemuInput) : QemuServer ω :=
  if s.down then s
  else match s.poll, i with
    | .polling k fd, .readable status disconnect => qemuUvOnReadable gf s k fd status disconnect
    | .closing, .closed =>
      -- qemu_uv_on_setup, which does not look at the return
      (adbUvQemuSetup gf port { s.call s.os .pollClosed with poll := .idle }).2
    | _, _ => s

/-- The server behind its first set-up. -/
def qemuStart (os : ω) : QemuServer ω := (adbUvQemuSetup gf port ⟨os,0,.idle,false,[]⟩).2

def qemuRun (os : ω) (is : List QemuInput) : QemuServer ω :=
  run (qemuStep gf port) (qemuStart gf port os) is

/-! The protocol. -/

/-- Where the pipe that was opened last is. It is settled when it was closed or has a client. -/
inductive QemuStage
  | settled
  | opened
  | asked
  | inited
  | refused
  | listening
  | stopped
  | answered
  | greeted
  | ready
  | failed
  | aborted
deriving DecidableEq, Repr

/-- How many pipes were opened, whether the handle is in the loop, and the stage. -/
structure QemuJob where
  next : ℕ
  handle : Bool
  stage : QemuStage
deriving DecidableEq, Repr

def QemuJob.to (j : QemuJob) (t : QemuStage) : Option QemuJob := some { j with stage := t }

/-- The calls of a server in their order: there is one pipe at a time, and a client only on a pipe
that has answered and was greeted. -/
def qemuNext (port : List UInt8) (j : QemuJob) (e : QemuEvent) : Option QemuJob :=
  match j.stage, e with
  | .settled, .openFailed _ => if j.handle then none else some j
  | .settled, .opened k _ => if k = j.next ∧ j.handle = false then some ⟨k+1,false,.opened⟩ else none
  | .settled, .pollClosed => if j.handle then some { j with handle := false } else none
  | .opened, .wrote k bytes ret =>
    if k+1 = j.next ∧ bytes = qemuCookie port then
      j.to (if ret = (qemuCookie port).length then .asked else .failed)
    else none
  | .asked, .pollInit k ret =>
    if k+1 = j.next then
      some { j with handle := decide (0 ≤ ret), stage := if 0 ≤ ret then .inited else .failed }
    else none
  | .inited, .pollStart k ret =>
    if k+1 = j.next then j.to (if ret < 0 then .refused else .listening) else none
  | .refused, .pollClose k => if k+1 = j.next then j.to .failed else none
  | .listening, .pollClose k => if k+1 = j.next then j.to .stopped else none
  | .stopped, .close k => if k+1 = j.next then j.to .settled else none
  | .stopped, .read k bytes =>
    if k+1 = j.next then j.to (if bytes = some (ascii "ok") then .answered else .failed) else none
  | .answered, .wrote k bytes ret =>
    if k+1 = j.next ∧ bytes = ascii "start" then j.to (if ret = 5 then .greeted else .failed)
    else none
  | .greeted, .noMemory k => if k+1 = j.next then j.to .failed else none
  | .greeted, .created k => if k+1 = j.next then j.to .ready else none
  | .ready, .client k => if k+1 = j.next then j.to .settled else none
  | .ready, .assertion k => if k+1 = j.next then j.to .aborted else none
  | .failed, .close k => if k+1 = j.next then j.to .settled else none
  | _, _ => none

/-- The job that a server between two callbacks is at. -/
def QemuServer.job (s : QemuServer ω) : QemuJob :=
  if s.down then ⟨s.next,true,.aborted⟩
  else match s.poll with
    | .idle => ⟨s.next,false,.settled⟩
    | .polling _ _ => ⟨s.next,true,.listening⟩
    | .closing => ⟨s.next,true,.settled⟩

/-- A trace of the protocol. -/
def QemuReaches (port : List UInt8) (log : List QemuEvent) (j : QemuJob) : Prop :=
  follow (qemuNext port) ⟨0,false,.settled⟩ log = some j

/-- The server is at its job, behind a trace of the protocol. -/
structure QemuFollows (port : List UInt8) (s : QemuServer ω) : Prop where
  reaches : QemuReaches port s.log s.job
  polled : ∀ k fd, s.poll = .polling k fd → k+1 = s.next
  down : s.down = true → s.poll = .closing

variable {gf port} {s : QemuServer ω} {k : ℕ} {fd : ℤ} {j j' : QemuJob} {l : List QemuEvent}

theorem QemuReaches.next (h : QemuReaches port l j) (e : QemuEvent)
    (he : qemuNext port j e = some j') : QemuReaches port (l ++ [e]) j' :=
  follow_snoc h he

/-- With the handle closing the server polls nothing. -/
theorem QemuReaches.closing (h : QemuReaches port s.log ⟨s.next,true,.settled⟩)
    (hs : s.down = false ∧ s.poll = .closing) : QemuFollows port s := by
  refine ⟨?_,(fun k fd hp => by cases hs.2.symm.trans hp),fun h => by cases hs.1.symm.trans h⟩
  simpa only [QemuServer.job, hs, Bool.false_eq_true, if_false] using h

theorem QemuReaches.close_pipe {t : QemuStage} (h : QemuReaches port s.log ⟨s.next,true,t⟩)
    (hs : s.down = false ∧ s.poll = .closing) (hk : k+1 = s.next) (ht : t = .stopped ∨ t = .failed) :
    QemuFollows port (s.closePipe gf k fd) := by
  refine QemuReaches.closing ?_ hs
  rcases ht with rfl | rfl <;> exact h.next (.close k) (if_pos hk)

theorem QemuReaches.abort (h : QemuReaches port s.log ⟨s.next,true,.ready⟩)
    (hs : s.poll = .closing) (hk : k+1 = s.next) (os : ω) : QemuFollows port (s.abort k os) :=
  ⟨h.next (.assertion k) (if_pos hk),(fun k fd hp => by cases hs.symm.trans hp),fun _ => hs⟩

theorem QemuReaches.client (h : QemuReaches port s.log ⟨s.next,true,.greeted⟩)
    (hs : s.down = false ∧ s.poll = .closing) (hk : k+1 = s.next) :
    QemuFollows port (qemuClient gf s k fd) := by
  unfold qemuClient
  dsimp only
  split
  · exact QemuReaches.close_pipe (h.next (.noMemory k) (if_pos hk)) hs hk (Or.inr rfl)
  · have hready := h.next (.created k) (if_pos hk)
    split
    · exact QemuReaches.abort (s := s.call _ (.created k)) hready hs.2 hk _
    · split
      · exact QemuReaches.abort (s := s.call _ (.created k)) hready hs.2 hk _
      · split
        · exact QemuReaches.abort (s := s.call _ (.created k)) hready hs.2 hk _
        · exact QemuReaches.closing (hready.next (.client k) (if_pos hk)) hs

theorem QemuReaches.on_readable {t : QemuStage} (h : QemuReaches port s.log ⟨s.next,true,t⟩)
    (hs : s.down = false) (hk : k+1 = s.next) (status : ℤ) (disconnect : Bool)
    (ht : t = .listening ∨ (t = .refused ∧ status < 0)) :
    QemuFollows port (qemuUvOnReadable gf s k fd status disconnect) := by
  unfold qemuUvOnReadable
  dsimp only
  rcases ht with rfl | ⟨rfl,hneg⟩
  · have hstop := h.next (.pollClose k) (if_pos hk)
    split
    · exact QemuReaches.close_pipe hstop ⟨hs,rfl⟩ hk (Or.inl rfl)
    · set bytes := (gf.read (s.call s.os (.pollClose k)).os fd).2
      have hread := hstop.next (.read k bytes) (if_pos hk)
      split
      · rename_i hbad
        rw [if_neg hbad] at hread
        exact QemuReaches.close_pipe hread ⟨hs,rfl⟩ hk (Or.inr rfl)
      · rename_i hok
        rw [if_pos (not_not.mp hok)] at hread
        have hwrote (ret : ℤ) (t : QemuStage)
            (ht : (if ret = 5 then QemuStage.greeted else .failed) = t) :
            QemuReaches port (s.log ++ [.pollClose k] ++ [.read k bytes] ++
              [.wrote k (ascii "start") ret]) ⟨s.next,true,t⟩ :=
          ht ▸ hread.next (.wrote k (ascii "start") ret) (if_pos ⟨hk,rfl⟩)
        split
        · rename_i hshort
          exact QemuReaches.close_pipe (hwrote _ _ (if_neg hshort)) ⟨hs,rfl⟩ hk (Or.inr rfl)
        · rename_i hfull
          exact QemuReaches.client (hwrote _ _ (if_pos (not_not.mp hfull))) ⟨hs,rfl⟩ hk
  · have hfail := h.next (.pollClose k) (if_pos hk)
    rw [if_pos (Or.inl hneg)]
    exact QemuReaches.close_pipe hfail ⟨hs,rfl⟩ hk (Or.inr rfl)

theorem QemuReaches.poll_init {n : ℕ} (h : QemuReaches port l ⟨n,false,.asked⟩) (hk : k+1 = n)
    {ret : ℤ} (hret : 0 ≤ ret) : QemuReaches port (l ++ [.pollInit k ret]) ⟨n,true,.inited⟩ :=
  h.next _ (by simp [qemuNext, hk, hret])

theorem QemuReaches.poll_init_fails {n : ℕ} (h : QemuReaches port l ⟨n,false,.asked⟩)
    (hk : k+1 = n) {ret : ℤ} (hret : ret < 0) :
    QemuReaches port (l ++ [.pollInit k ret]) ⟨n,false,.failed⟩ :=
  h.next _ (by simp [qemuNext, hk, hret])

theorem QemuReaches.poll_start {n : ℕ} (h : QemuReaches port l ⟨n,true,.inited⟩) (hk : k+1 = n)
    {ret : ℤ} {t : QemuStage} (ht : (if ret < 0 then QemuStage.refused else .listening) = t) :
    QemuReaches port (l ++ [.pollStart k ret]) ⟨n,true,t⟩ :=
  ht ▸ h.next _ (by simp [qemuNext, hk, QemuJob.to])

theorem QemuReaches.idle (h : QemuReaches port s.log ⟨s.next,false,.settled⟩)
    (hs : s.down = false ∧ s.poll = .idle) : QemuFollows port s := by
  refine ⟨?_,(fun k fd hp => by cases hs.2.symm.trans hp),fun h => by cases hs.1.symm.trans h⟩
  simpa only [QemuServer.job, hs, Bool.false_eq_true, if_false] using h

theorem QemuReaches.qemu_setup (gf : Goldfish ω)
    (h : QemuReaches port s.log ⟨s.next,false,.settled⟩)
    (hs : s.down = false ∧ s.poll = .idle) : QemuFollows port (adbUvQemuSetup gf port s).2 := by
  unfold adbUvQemuSetup
  dsimp only
  split
  · exact QemuReaches.idle (h.next (.openFailed _) rfl) hs
  · have hopen (fd : ℤ) := h.next (.opened s.next fd) (if_pos ⟨rfl,rfl⟩)
    have hwrote (fd ret : ℤ) (t : QemuStage)
        (ht : (if ret = (qemuCookie port).length then QemuStage.asked else .failed) = t) :
        QemuReaches port (s.log ++ [.opened s.next fd] ++ [.wrote s.next (qemuCookie port) ret])
          ⟨s.next+1,false,t⟩ :=
      ht ▸ (hopen fd).next (.wrote s.next (qemuCookie port) ret) (if_pos ⟨rfl,rfl⟩)
    split
    · rename_i hshort
      exact QemuReaches.idle ((hwrote _ _ _ (if_neg hshort)).next (.close s.next) (if_pos rfl)) hs
    · rename_i hfull
      have hasked := hwrote (gf.openPipe s.os).2 _ _ (if_pos (not_not.mp hfull))
      split
      · rename_i hneg
        have hfailed := (hasked.poll_init_fails rfl hneg).next (.close s.next) (if_pos rfl)
        exact QemuReaches.idle hfailed hs
      · rename_i hnonneg
        have hinited := hasked.poll_init rfl (not_lt.mp hnonneg)
        split
        · rename_i hneg
          dsimp only
          apply QemuReaches.on_readable (t := .refused)
          · exact hinited.poll_start rfl (if_pos hneg)
          · exact hs.1
          · rfl
          · exact Or.inr ⟨rfl,hneg⟩
        · rename_i hpos
          refine ⟨?_,(fun k fd hp => by cases hp; rfl),fun h => by cases hs.1.symm.trans h⟩
          simpa only [QemuServer.job, QemuServer.call, hs, Bool.false_eq_true, if_false] using
            hinited.poll_start rfl (if_neg hpos)

theorem QemuFollows.step (h : QemuFollows port s) (gf : Goldfish ω) (i : QemuInput) :
    QemuFollows port (qemuStep gf port s i) := by
  obtain ⟨hreach,hpolled,hclosing⟩ := h
  unfold qemuStep
  split
  · exact ⟨hreach,hpolled,hclosing⟩
  · rename_i hdown
    have hd : s.down = false := by simpa using hdown
    rw [QemuServer.job, if_neg hdown] at hreach
    split
    · rename_i k fd status disconnect hp
      rw [hp] at hreach
      exact hreach.on_readable hd (hpolled k fd hp) status disconnect (Or.inl rfl)
    · rename_i hp
      rw [hp] at hreach
      exact QemuReaches.qemu_setup gf (hreach.next .pollClosed rfl) ⟨hd,rfl⟩
    · refine ⟨?_,hpolled,hclosing⟩
      rwa [QemuServer.job, if_neg hdown]

theorem qemu_follows (gf : Goldfish ω) (port : List UInt8) (os : ω) (is : List QemuInput) :
    QemuFollows port (qemuRun gf port os is) :=
  run_invariant _ (QemuFollows port) (fun _ i h => h.step gf i) _
    (QemuReaches.qemu_setup (s := ⟨os,0,.idle,false,[]⟩) gf rfl ⟨rfl,rfl⟩) is

/-! What the server holds. -/

inductive QemuRes
  /-- The handle in the loop. There is only one, in the context. -/
  | poll
  | pipe (k : ℕ)
deriving DecidableEq

namespace QemuEvent

def acquires : QemuEvent → Option QemuRes
  | .opened k _ => some (.pipe k)
  | .pollInit _ ret => if 0 ≤ ret then some .poll else none
  | _ => none

def releases : QemuEvent → Option QemuRes
  | .close k => some (.pipe k)
  | .pollClosed => some .poll
  | _ => none

end QemuEvent

/-- The pipe of the job, and those that have a client. -/
def QemuJob.Holds (j : QemuJob) (l : List QemuEvent) : QemuRes → Prop
  | .poll => j.handle = true
  | .pipe k => (k+1 = j.next ∧ j.stage ≠ .settled) ∨ .created k ∈ l

structure QemuLedger (l : List QemuEvent) (j : QemuJob) : Prop where
  exact : Exact QemuEvent.acquires QemuEvent.releases l (j.Holds l)
  created : ∀ k, .created k ∈ l → k+1 < j.next ∨
    (k+1 = j.next ∧ (j.stage = .settled ∨ j.stage = .ready ∨ j.stage = .aborted))
  ready : ∀ k, k+1 = j.next → j.stage = .ready ∨ j.stage = .aborted → .created k ∈ l
  asked : j.stage = .opened ∨ j.stage = .asked → j.handle = false

theorem QemuLedger.pass (h : QemuLedger l j) {e : QemuEvent}
    (he : Neutral QemuEvent.acquires QemuEvent.releases e) (hhandle : j'.handle = j.handle)
    (hpipe : ∀ k, (k+1 = j'.next ∧ j'.stage ≠ .settled) ∨ .created k ∈ l ++ [e] ↔
      (k+1 = j.next ∧ j.stage ≠ .settled) ∨ .created k ∈ l)
    (hcr : ∀ k, .created k ∈ l ++ [e] → k+1 < j'.next ∨
      (k+1 = j'.next ∧ (j'.stage = .settled ∨ j'.stage = .ready ∨ j'.stage = .aborted)))
    (hready : ∀ k, k+1 = j'.next → j'.stage = .ready ∨ j'.stage = .aborted →
      .created k ∈ l ++ [e])
    (hasked : j'.stage = .opened ∨ j'.stage = .asked → j'.handle = false) :
    QemuLedger (l ++ [e]) j' := by
  refine ⟨h.exact.pass he (fun x => ?_),hcr,hready,hasked⟩
  cases x with
  | poll => simp [QemuJob.Holds, hhandle]
  | pipe k => exact hpipe k

/-- The pipe of the job is closed when it has no client. -/
theorem QemuLedger.close (h : QemuLedger l j) (hk : k+1 = j.next)
    (hst : j.stage = .stopped ∨ j.stage = .failed) :
    QemuLedger (l ++ [.close k]) { j with stage := .settled } := by
  have hcr := h.created
  have hheld : j.Holds l (.pipe k) := Or.inl ⟨hk,by grind⟩
  refine ⟨h.exact.release rfl rfl hheld (fun x => ?_),fun i hi => ?_,by simp,by simp⟩
  · cases x with
    | poll => simp [QemuJob.Holds]
    | pipe i =>
      have hi := hcr i
      simp only [QemuJob.Holds, List.mem_append, List.mem_singleton, ne_eq]
      grind
  · have hi := hcr i (by simpa using hi)
    grind

theorem QemuLedger.opened (h : QemuLedger l j) (hj : j.handle = false ∧ j.stage = .settled) :
    QemuLedger (l ++ [.opened j.next fd]) ⟨j.next+1,false,.opened⟩ := by
  have hcr := h.created
  have hnew : ¬j.Holds l (.pipe j.next) := by
    simp only [QemuJob.Holds]
    grind
  refine ⟨h.exact.acquire rfl hnew (fun x => ?_),fun i hi => ?_,by simp,fun _ => rfl⟩
  · cases x with
    | poll => simp [QemuJob.Holds, hj]
    | pipe i =>
      simp only [QemuJob.Holds, List.mem_append, List.mem_singleton]
      grind
  · have hi := hcr i (by simpa using hi)
    grind

theorem QemuLedger.poll_init (h : QemuLedger l j) (hst : j.stage = .asked) {ret : ℤ}
    (hret : 0 ≤ ret) : QemuLedger (l ++ [.pollInit k ret]) ⟨j.next,true,.inited⟩ := by
  have hcr := h.created
  have hnew : ¬j.Holds l .poll := by simp [QemuJob.Holds, h.asked (Or.inr hst)]
  refine ⟨h.exact.acquire (r := .poll) (by simp [QemuEvent.acquires, hret]) hnew (fun x => ?_),fun i hi => ?_,by simp,
    by simp⟩
  · cases x with
    | poll => simp [QemuJob.Holds]
    | pipe i => simp [QemuJob.Holds, hst]
  · have hi := hcr i (by simpa using hi)
    grind

theorem QemuLedger.poll_closed (h : QemuLedger l j) (hj : j.handle = true ∧ j.stage = .settled) :
    QemuLedger (l ++ [.pollClosed]) { j with handle := false } := by
  have hheld : j.Holds l .poll := hj.1
  refine ⟨h.exact.release rfl rfl hheld (fun x => ?_),fun i hi => h.created i (by simpa using hi),
    by simp [hj],fun _ => rfl⟩
  cases x with
  | poll => simp [QemuJob.Holds]
  | pipe i => simp [QemuJob.Holds]

theorem QemuLedger.next (h : QemuLedger l j) {e : QemuEvent} (he : qemuNext port j e = some j') :
    QemuLedger (l ++ [e]) j' := by
  have hcr := h.created
  have hready := h.ready
  have hasked := h.asked
  unfold qemuNext at he
  split at he <;> rename_i hst
  case h_2 k fd =>
    split at he
    · rename_i hk
      obtain rfl := Option.some.inj he
      exact hk.1 ▸ h.opened ⟨hk.2,hst⟩
    · cases he
  case h_3 =>
    split at he
    · rename_i hb
      obtain rfl := Option.some.inj he
      exact h.poll_closed ⟨hb,hst⟩
    · cases he
  case h_5 k ret =>
    split at he
    · obtain rfl := Option.some.inj he
      by_cases hret : 0 ≤ ret
      · simpa [hret] using h.poll_init hst hret
      · refine h.pass ⟨if_neg hret,rfl⟩ ?_ ?_ ?_ ?_ ?_
        all_goals grind
    · cases he
  case h_9 k =>
    split at he
    · rename_i hk
      obtain rfl := Option.some.inj he
      exact h.close hk (Or.inl hst)
    · cases he
  case h_16 k =>
    split at he
    · rename_i hk
      obtain rfl := Option.some.inj he
      exact h.close hk (Or.inr hst)
    · cases he
  -- the others change neither the handle nor what is held of the pipe
  all_goals first
    | contradiction
    | split at he
      all_goals first
        | contradiction
        | obtain rfl := Option.some.inj he
          exact h.pass ⟨rfl,rfl⟩ rfl (by grind) (by grind) (by grind) (by grind)

/-! The clients. -/

namespace QemuEvent

/-- The pipe that an event is about. -/
def pipe? : QemuEvent → Option ℕ
  | .openFailed _ => none
  | .pollClosed => none
  | .opened k _ => some k
  | .wrote k _ _ => some k
  | .pollInit k _ => some k
  | .pollStart k _ => some k
  | .pollClose k => some k
  | .read k _ => some k
  | .noMemory k => some k
  | .created k => some k
  | .client k => some k
  | .close k => some k
  | .assertion k => some k

end QemuEvent

def qemuHistory (k : ℕ) (l : List QemuEvent) : List QemuEvent := l.filter (fun e => e.pipe? = some k)

/-- A handshake up to the client. -/
def qemuHandshake (port : List UInt8) (k : ℕ) (fd r r' : ℤ) : List QemuEvent :=
  [.opened k fd,.wrote k (qemuCookie port) (qemuCookie port).length,.pollInit k r,.pollStart k r',
    .pollClose k,.read k (some (ascii "ok")),.wrote k (ascii "start") 5,.created k]

/-- How far a handshake is that has not failed. -/
def QemuStage.index : QemuStage → Option ℕ
  | .opened => some 1
  | .asked => some 2
  | .inited => some 3
  | .listening => some 4
  | .stopped => some 5
  | .answered => some 6
  | .greeted => some 7
  | _ => none

structure QemuGreets (port : List UInt8) (l : List QemuEvent) (j : QemuJob) : Prop where
  later : ∀ k, j.next ≤ k → qemuHistory k l = []
  now : ∀ k n, k+1 = j.next → j.stage.index = some n → ∃ fd r r', 0 ≤ r ∧ 0 ≤ r' ∧
    qemuHistory k l = (qemuHandshake port k fd r r').take n
  greeted : ∀ k, .created k ∈ l → ∃ fd r r', 0 ≤ r ∧ 0 ≤ r' ∧
    qemuHandshake port k fd r r' <+: qemuHistory k l

theorem history_snoc (k : ℕ) (l : List QemuEvent) (e : QemuEvent) :
    qemuHistory k (l ++ [e]) = qemuHistory k l ++ if e.pipe? = some k then [e] else [] := by
  unfold qemuHistory
  rw [List.filter_append, List.filter_singleton]
  split <;> simp_all

theorem qemu_next_pipe {e : QemuEvent} (he : qemuNext port j e = some j') :
    j.next ≤ j'.next ∧ ∀ i, e.pipe? = some i → i < j'.next := by
  unfold qemuNext at he
  split at he
  all_goals first
    | contradiction
    | split at he
      all_goals first
        | contradiction
        | obtain rfl := Option.some.inj he
          exact ⟨by grind,fun i hi => by simp only [QemuEvent.pipe?] at hi; grind⟩

/-- A call that goes on with the handshake. -/
theorem QemuGreets.extend (h : QemuGreets port l j) {e : QemuEvent} {m : ℕ} (hk : k+1 = j.next)
    (hm : j.stage.index = some m) (he : e.pipe? = some k)
    (hadd : ∀ fd r r', 0 ≤ r → 0 ≤ r' → ∃ t t', 0 ≤ t ∧ 0 ≤ t' ∧
      (qemuHandshake port k fd r r').take m ++ [e] = (qemuHandshake port k fd t t').take (m+1)) :
    ∃ fd r r', 0 ≤ r ∧ 0 ≤ r' ∧
      qemuHistory k (l ++ [e]) = (qemuHandshake port k fd r r').take (m+1) := by
  obtain ⟨fd,r,r',hr,hr',hh⟩ := h.now k m hk hm
  obtain ⟨t,t',ht,ht',heq⟩ := hadd fd r r' hr hr'
  exact ⟨fd,t,t',ht,ht',by rw [history_snoc, hh, if_pos he, heq]⟩

theorem index_if {c : Prop} [Decidable c] {t u : QemuStage} {n : ℕ} (hu : u.index = none)
    (h : (if c then t else u).index = some n) : c ∧ t.index = some n := by
  split at h
  · exact ⟨‹c›,h⟩
  · rw [hu] at h
    cases h

theorem QemuGreets.now_next (h : QemuGreets port l j) {e : QemuEvent} {n : ℕ}
    (he : qemuNext port j e = some j') (hk : k+1 = j'.next) (hn : j'.stage.index = some n) :
    ∃ fd r r', 0 ≤ r ∧ 0 ≤ r' ∧
      qemuHistory k (l ++ [e]) = (qemuHandshake port k fd r r').take n := by
  have hsame (i : ℕ) (hi : i+1 = j.next) (hk : k+1 = j.next) : i = k := by omega
  unfold qemuNext at he
  split at he <;> rename_i hst
  case h_2 i fd =>
    split at he
    · rename_i hi
      obtain rfl := Option.some.inj he
      obtain rfl : k = i := by simpa using hk
      obtain rfl := Option.some.inj hn
      refine ⟨fd,0,0,le_rfl,le_rfl,?_⟩
      rw [history_snoc, h.later k hi.1.ge]
      simp [QemuEvent.pipe?, qemuHandshake]
    · contradiction
  case h_4 i bytes ret =>
    split at he
    · rename_i hi
      obtain rfl := Option.some.inj he
      obtain rfl := hsame i hi.1 hk
      obtain ⟨hret,hn⟩ := index_if rfl hn
      obtain rfl := Option.some.inj hn
      exact h.extend hk (by rw [hst]; rfl) rfl (fun fd r r' hr hr' => ⟨r,r',hr,hr',by
        rw [hi.2, hret]; rfl⟩)
    · contradiction
  case h_5 i ret =>
    split at he
    · rename_i hi
      obtain rfl := Option.some.inj he
      obtain rfl := hsame i hi hk
      obtain ⟨hret,hn⟩ := index_if rfl hn
      obtain rfl := Option.some.inj hn
      exact h.extend hk (by rw [hst]; rfl) rfl (fun fd r r' hr hr' => ⟨ret,r',hret,hr',rfl⟩)
    · contradiction
  case h_6 i ret =>
    split at he
    · rename_i hi
      obtain rfl := Option.some.inj he
      obtain rfl := hsame i hi hk
      dsimp only at hn
      rw [← ite_not] at hn
      obtain ⟨hret,hn⟩ := index_if rfl hn
      obtain rfl := Option.some.inj hn
      exact h.extend hk (by rw [hst]; rfl) rfl
        (fun fd r r' hr hr' => ⟨r,ret,hr,not_lt.mp hret,rfl⟩)
    · contradiction
  case h_8 i =>
    split at he
    · rename_i hi
      obtain rfl := Option.some.inj he
      obtain rfl := hsame i hi hk
      obtain rfl := Option.some.inj hn
      exact h.extend hk (by rw [hst]; rfl) rfl (fun fd r r' hr hr' => ⟨r,r',hr,hr',rfl⟩)
    · contradiction
  case h_10 i bytes =>
    split at he
    · rename_i hi
      obtain rfl := Option.some.inj he
      obtain rfl := hsame i hi hk
      obtain ⟨hok,hn⟩ := index_if rfl hn
      obtain rfl := Option.some.inj hn
      exact h.extend hk (by rw [hst]; rfl) rfl (fun fd r r' hr hr' => ⟨r,r',hr,hr',by
        rw [hok]; rfl⟩)
    · contradiction
  case h_11 i bytes ret =>
    split at he
    · rename_i hi
      obtain rfl := Option.some.inj he
      obtain rfl := hsame i hi.1 hk
      obtain ⟨hret,hn⟩ := index_if rfl hn
      obtain rfl := Option.some.inj hn
      exact h.extend hk (by rw [hst]; rfl) rfl (fun fd r r' hr hr' => ⟨r,r',hr,hr',by
        rw [hi.2, hret]; rfl⟩)
    · contradiction
  -- behind the others the handshake is over, or has not begun
  all_goals first
    | contradiction
    | split at he
      all_goals first
        | contradiction
        | obtain rfl := Option.some.inj he
          simp only [hst] at hn
          contradiction

theorem QemuGreets.next (h : QemuGreets port l j) {e : QemuEvent}
    (he : qemuNext port j e = some j') : QemuGreets port (l ++ [e]) j' := by
  obtain ⟨hmono,hpipe⟩ := qemu_next_pipe he
  refine ⟨fun k hk => ?_,fun k n hk hn => h.now_next he hk hn,fun k hk => ?_⟩
  · have hother : e.pipe? ≠ some k := fun heq => by have := hpipe k heq; omega
    rw [history_snoc, h.later k (by omega), if_neg hother, List.append_nil]
  · rw [history_snoc]
    rcases List.mem_append.mp hk with hold | hnew
    · obtain ⟨fd,r,r',hr,hr',hpre⟩ := h.greeted k hold
      exact ⟨fd,r,r',hr,hr',hpre.trans (List.prefix_append _ _)⟩
    · obtain rfl := List.mem_singleton.mp hnew
      have hst : j.stage = .greeted ∧ k+1 = j.next := by
        unfold qemuNext at he
        grind
      obtain ⟨fd,r,r',hr,hr',hh⟩ := h.now k 7 hst.2 (by rw [hst.1]; rfl)
      refine ⟨fd,r,r',hr,hr',?_⟩
      rw [hh, QemuEvent.pipe?, if_pos rfl]
      exact List.prefix_rfl

/-! Runs. -/

/-- While the server lives: the handle unless the last set-up failed, the pipe that it polls, and
the pipes of the clients. -/
def QemuServer.Holds (s : QemuServer ω) : QemuRes → Prop
  | .poll => s.poll ≠ .idle
  | .pipe k => (∃ fd, s.poll = .polling k fd) ∨ .created k ∈ s.log

/-- Whatever fails, every pipe is closed once unless it has a client, and the handle is never
initialised while it is still in the loop. -/
theorem qemu_holds (gf : Goldfish ω) (port : List UInt8) (os : ω) (is : List QemuInput) :
    let s := qemuRun gf port os is
    Exact QemuEvent.acquires QemuEvent.releases s.log s.Holds := by
  intro s
  obtain ⟨hreach,hpolled,hdown⟩ := qemu_follows gf port os is
  have hstart : QemuLedger [] ⟨0,false,.settled⟩ :=
    ⟨exact_nil (fun x => by cases x <;> simp [QemuJob.Holds]),by simp,by simp,fun _ => rfl⟩
  have hledger : QemuLedger s.log s.job :=
    follow_invariant QemuLedger (fun _ _ _ _ h he => h.next he) [] hstart hreach
  refine hledger.exact.congr (fun x => ?_)
  have hready := hledger.ready
  cases hd : s.down with
  | true =>
    have hp : s.poll = .closing := hdown hd
    cases x with
    | poll => simp [QemuServer.Holds, QemuJob.Holds, QemuServer.job, hd, hp]
    | pipe k =>
      simp only [QemuServer.job, hd, if_true] at hready
      simp only [QemuServer.Holds, QemuJob.Holds, QemuServer.job, hd, hp, if_true]
      grind
  | false =>
    cases hp : s.poll with
    | idle => cases x <;> simp [QemuServer.Holds, QemuJob.Holds, QemuServer.job, hd, hp]
    | closing => cases x <;> simp [QemuServer.Holds, QemuJob.Holds, QemuServer.job, hd, hp]
    | polling k fd =>
      have hk : k+1 = s.next := hpolled k fd hp
      cases x with
      | poll => simp [QemuServer.Holds, QemuJob.Holds, QemuServer.job, hd, hp]
      | pipe i =>
        simp only [QemuServer.Holds, QemuJob.Holds, QemuServer.job, hd, hp]
        grind

/-- A pipe has a client only behind the whole handshake on it. -/
theorem qemu_clients_greeted (gf : Goldfish ω) (port : List UInt8) (os : ω) (is : List QemuInput)
    (k : ℕ) : .created k ∈ (qemuRun gf port os is).log → ∃ fd r r', 0 ≤ r ∧ 0 ≤ r' ∧
      qemuHandshake port k fd r r' <+: qemuHistory k (qemuRun gf port os is).log := by
  have hstart : QemuGreets port [] ⟨0,false,.settled⟩ :=
    ⟨fun _ _ => rfl,fun _ _ hk => absurd hk (Nat.succ_ne_zero _),by simp⟩
  exact (follow_invariant (QemuGreets port) (fun _ _ _ _ h he => h.next he) [] hstart
    (qemu_follows gf port os is).reaches).greeted k

/-- A pipe on which everything succeeds. -/
def plainGoldfish : Goldfish Unit where
  openPipe _ := ((),3)
  write _ _ bytes := ((),bytes.length)
  read _ _ := ((),some (ascii "ok"))
  close _ _ := ()
  pollInit _ _ := ((),0)
  pollStart _ := ((),0)
  clientMalloc _ := ((),some [])
  pipeInit _ := ((),0)
  pipeOpen _ _ := ((),0)
  readStart _ := ((),0)

theorem qemu_first_client : ∃ fd r r', 0 ≤ r ∧ 0 ≤ r' ∧
    qemuHandshake (ascii "5555") 0 fd r r' <+:
      qemuHistory 0 (qemuRun plainGoldfish (ascii "5555") () [.readable 0 false]).log :=
  qemu_clients_greeted plainGoldfish (ascii "5555") () [.readable 0 false] 0 (by decide)

end MicroADB
