import MicroADB.EventRun
import MicroADB.FileSyncStep

/-! Runs of one file sync service: the frames the client passes to it in any order, and
its end, on a failure or when it is closed. -/
namespace MicroADB
open ByteMemory EventRun

/-- A frame for the service. adb_check_frame_header has checked its length, or, before the
connection, adb_check_auth_frame_header. -/
structure SyncFrame (cfg : Config) where
  msg : Amessage
  data : Mem
  length_le : msg.dataLength ≤ max cfg.payloadSize cfg.cnxnPayloadSize

/-- adb_process_packet clears write_len. -/
def SyncFrame.packet {cfg : Config} (f : SyncFrame cfg) : Apacket :=
  { writeLen := 0, msg := f.msg, data := f.data }

/-- A frame with these bytes as its payload. -/
def SyncFrame.ofBytes (cfg : Config) (bs : List UInt8)
    (h : bs.length ≤ max cfg.payloadSize cfg.cnxnPayloadSize) : SyncFrame cfg where
  msg := { (default : Amessage) with command := aWrte, dataLength := bs.length }
  data := store (fun _ => 0) 0 bs
  length_le := h

/-- A request as the host sends it. -/
def syncRequest (id : ℕ) (name : List UInt8) : List UInt8 := le32 id ++ le32 name.length ++ name

inductive SyncInput (cfg : Config)
  | write (f : SyncFrame cfg)
  | ack (f : SyncFrame cfg)
  | close

structure SyncRun (ω : Type) where
  svc : AfsService
  os : ω
  log : List SyncEvent
  closed : Bool

variable {ω : Type} (cfg : Config) (fs : FileSystem ω)

def SyncRun.ctx (s : SyncRun ω) (p : Apacket) : SyncCtx ω := ⟨s.svc,p,s.os,s.log⟩

def SyncCtx.run (c : SyncCtx ω) (closed : Bool) : SyncRun ω := ⟨c.svc,c.os,c.log,closed⟩

/-- What on_write_frame or on_ack_frame leaves of the service, with the calls that it makes. -/
inductive SyncCall (s : AfsService) : SyncCtx ω → Prop
  | write (p : Apacket) (os : ω) : SyncCall s (fileSyncOnWrite cfg fs ⟨s,p,os,[]⟩).2
  | ack (p : Apacket) (os : ω) : SyncCall s (fileSyncOnAck cfg fs ⟨s,p,os,[]⟩).2

/-- handle_write_frame and handle_okay_frame close a service whose handler failed. -/
def afterCallback (r : ℤ × SyncCtx ω) : SyncRun ω :=
  if r.1 < 0 then (fileSyncOnClose fs r.2).run true else r.2.run false

def syncStep (s : SyncRun ω) (i : SyncInput cfg) : SyncRun ω :=
  if s.closed then s
  else match i with
    | .write f => afterCallback fs (fileSyncOnWrite cfg fs (s.ctx f.packet))
    | .ack f => afterCallback fs (fileSyncOnAck cfg fs (s.ctx f.packet))
    | .close => (fileSyncOnClose fs (s.ctx default)).run true

def syncStart (raw : AfsService) (os : ω) : SyncRun ω := ⟨fileSyncService raw,os,[],false⟩

def syncRun (raw : AfsService) (os : ω) (is : List (SyncInput cfg)) : SyncRun ω :=
  run (syncStep cfg fs) (syncStart raw os) is

/-- The trace that a step finds stays. -/
theorem sync_step_prefix (l : List SyncEvent) (s : SyncRun ω) (i : SyncInput cfg)
    (h : l <+: s.log) : l <+: (syncStep cfg fs s i).log := by
  have hafter (r : ℤ × SyncCtx ω) (hr : l <+: r.2.log) : l <+: (afterCallback fs r).log := by
    unfold afterCallback
    split
    · exact state_reset_prefix fs _ hr
    · exact hr
  have hack (c : SyncCtx ω) (hc : l <+: c.log) : l <+: (stateAck cfg fs c).2.log := by
    unfold stateAck
    split
    · exact state_process_recv_prefix cfg fs c hc
    · exact state_process_list_prefix cfg fs c hc
    all_goals exact hc
  unfold syncStep
  split
  · exact h
  · cases i with
    | write f =>
      refine hafter _ (sync_loop_invariant cfg fs (fun r => l <+: r.2.log) ?_ _ _ h)
      exact fun _ c _ _ hc => sync_iter_prefix cfg fs c ( state_process_prefix cfg fs c hc)
    | ack f =>
      have h' := hack (s.ctx f.packet).rewind h
      apply hafter
      unfold fileSyncOnAck
      dsimp only
      split
      · exact h'
      · exact state_reset_prefix fs _ h'
    | close => exact state_reset_prefix fs _ h

/-- A property of the service and of the trace that no handler and no reset breaks. -/
structure SyncInvariant (I : AfsService → List SyncEvent → Prop) : Prop where
  packetPtr : ∀ s l n, I s l → I { s with packetPtr := n } l
  process : ∀ c : SyncCtx ω, I c.svc c.log →
    I (stateProcess cfg fs c).2.svc (stateProcess cfg fs c).2.log
  ack : ∀ c : SyncCtx ω, I c.svc c.log → I (stateAck cfg fs c).2.svc (stateAck cfg fs c).2.log
  reset : ∀ c : SyncCtx ω, I c.svc c.log → I (stateReset fs c).svc (stateReset fs c).log

variable {cfg fs} {I : AfsService → List SyncEvent → Prop}

theorem SyncInvariant.iter (h : SyncInvariant cfg fs I) (c : SyncCtx ω) (hc : I c.svc c.log) :
    I (syncIter cfg fs c).2.svc (syncIter cfg fs c).2.log := by
  unfold syncIter
  dsimp only
  split
  · exact h.reset _ (h.process c hc)
  · exact h.process c hc

theorem SyncInvariant.on_write (h : SyncInvariant cfg fs I) (c : SyncCtx ω)
    (hc : I c.svc c.log) :
    I (fileSyncOnWrite cfg fs c).2.svc (fileSyncOnWrite cfg fs c).2.log :=
  sync_loop_invariant cfg fs (fun r => I r.2.svc r.2.log) (fun _ c _ _ hc => h.iter c hc) _ _
    (h.packetPtr _ _ _ hc)

theorem SyncInvariant.on_ack (h : SyncInvariant cfg fs I) (c : SyncCtx ω) (hc : I c.svc c.log) :
    I (fileSyncOnAck cfg fs c).2.svc (fileSyncOnAck cfg fs c).2.log := by
  have hack := h.ack c.rewind (h.packetPtr _ _ _ hc)
  unfold fileSyncOnAck
  dsimp only
  split
  · exact hack
  · exact h.reset _ hack

theorem SyncInvariant.step (h : SyncInvariant cfg fs I) (s : SyncRun ω) (i : SyncInput cfg)
    (hs : I s.svc s.log) : I (syncStep cfg fs s i).svc (syncStep cfg fs s i).log := by
  have hafter (r : ℤ × SyncCtx ω) (hr : I r.2.svc r.2.log) :
      I (afterCallback fs r).svc (afterCallback fs r).log := by
    unfold afterCallback
    split
    · exact h.reset _ hr
    · exact hr
  unfold syncStep
  split
  · exact hs
  · cases i with
    | write f => exact hafter _ (h.on_write _ hs)
    | ack f => exact hafter _ (h.on_ack _ hs)
    | close => exact h.reset _ hs

/-- It holds in every state of a run. -/
theorem SyncInvariant.run (h : SyncInvariant cfg fs I) (raw : AfsService) (os : ω)
    (h0 : I (fileSyncService raw) []) (is : List (SyncInput cfg)) :
    I (syncRun cfg fs raw os is).svc (syncRun cfg fs raw os is).log :=
  run_invariant (syncStep cfg fs) (fun s => I s.svc s.log) (fun s i hs => h.step s i hs)
    (syncStart raw os) h0 is

/-- A service that has been closed is in the state in which it started. -/
theorem closed_idle (raw : AfsService) (os : ω) (is : List (SyncInput cfg)) :
    (syncRun cfg fs raw os is).closed = true →
      (syncRun cfg fs raw os is).svc.state = .waitCmd ∧ (syncRun cfg fs raw os is).svc.size = 0 := by
  have hafter (r : ℤ × SyncCtx ω) (hr : (afterCallback fs r).closed = true) :
      (afterCallback fs r).svc.state = .waitCmd ∧ (afterCallback fs r).svc.size = 0 := by
    unfold afterCallback at hr ⊢
    split at hr
    · rename_i h
      rw [if_pos h]
      change (stateReset fs r.2).svc.state = _ ∧ (stateReset fs r.2).svc.size = _
      rw [state_reset_svc]
      exact ⟨rfl,rfl⟩
    · cases hr
  refine run_invariant (syncStep cfg fs)
    (fun s => s.closed = true → s.svc.state = .waitCmd ∧ s.svc.size = 0)
    (fun s i hs => ?_) (syncStart raw os) (by simp [syncStart]) is
  unfold syncStep
  split
  · exact hs
  · cases i with
    | write f => exact hafter _
    | ack f => exact hafter _
    | close =>
      intro _
      change (stateReset fs (s.ctx default)).svc.state = _ ∧
        (stateReset fs (s.ctx default)).svc.size = _
      rw [state_reset_svc]
      exact ⟨rfl,rfl⟩

end MicroADB
