import MicroADB.FileSyncRun

/-! The OKAY frames that acknowledge replies. While a LIST or RECV is in progress they ask
for its next record; in the other states the service has nothing to do. -/
namespace MicroADB
open ByteMemory EventRun

variable {ω : Type} (cfg : Config) (fs : FileSystem ω)

/-- The same service, file system and trace; packet_ptr is set anew by every callback. -/
structure SyncRun.Same (s t : SyncRun ω) : Prop where
  svc : s.svc = { t.svc with packetPtr := s.svc.packetPtr }
  os : s.os = t.os
  log : s.log = t.log
  closed : s.closed = t.closed

theorem same_refl (s : SyncRun ω) : s.Same s := ⟨rfl,rfl,rfl,rfl⟩

theorem same_trans (s t u : SyncRun ω) (h : s.Same t) (h' : t.Same u) : s.Same u := by
  refine ⟨?_,h.os.trans h'.os,h.log.trans h'.log,h.closed.trans h'.closed⟩
  rw [h.svc, h'.svc]

/-- A callback starts on the same context. -/
theorem same_rewind (s t : SyncRun ω) (h : s.Same t) (p : Apacket) :
    (s.ctx p).rewind = (t.ctx p).rewind := by
  obtain ⟨hsvc,hos,hlog,-⟩ := h
  unfold SyncRun.ctx SyncCtx.rewind
  simp only
  rw [hsvc, hos, hlog]

theorem state_reset_packetPtr (c : SyncCtx ω) (n : ℕ) :
    (stateReset fs { c with svc := { c.svc with packetPtr := n } }).os = (stateReset fs c).os ∧
    (stateReset fs { c with svc := { c.svc with packetPtr := n } }).log =
      (stateReset fs c).log := by
  unfold stateReset
  cases c.svc.state <;> exact ⟨rfl,rfl⟩

theorem same_step (s t : SyncRun ω) (i : SyncInput cfg) (h : s.Same t) :
    (syncStep cfg fs s i).Same (syncStep cfg fs t i) := by
  unfold syncStep
  rw [h.closed]
  split
  · exact h
  · cases i with
    | write f =>
      have hctx : fileSyncOnWrite cfg fs (s.ctx f.packet) =
          fileSyncOnWrite cfg fs (t.ctx f.packet) := by
        unfold fileSyncOnWrite
        rw [same_rewind s t h]
        rfl
      dsimp only
      rw [hctx]
      exact same_refl _
    | ack f =>
      have hctx : fileSyncOnAck cfg fs (s.ctx f.packet) = fileSyncOnAck cfg fs (t.ctx f.packet) := by
        unfold fileSyncOnAck
        rw [same_rewind s t h]
      dsimp only
      rw [hctx]
      exact same_refl _
    | close =>
      have hctx : s.ctx default =
          { t.ctx default with svc := { t.svc with packetPtr := s.svc.packetPtr } } := by
        obtain ⟨hsvc,hos,hlog,-⟩ := h
        unfold SyncRun.ctx
        rw [← hsvc, hos, hlog]
      change ((stateReset fs (s.ctx default)).run true).Same
        ((stateReset fs (t.ctx default)).run true)
      obtain ⟨hos,hlog⟩ := state_reset_packetPtr fs (t.ctx default) s.svc.packetPtr
      rw [hctx]
      refine ⟨?_,hos,hlog,rfl⟩
      simp only [SyncCtx.run, state_reset_svc, SyncRun.ctx]

/-- An OKAY for a service that is open and has no LIST or RECV in progress. -/
def StrayOkay (s : SyncRun ω) : SyncInput cfg → Prop
  | .ack _ => s.closed = false ∧ s.svc.state ≠ .processRecv ∧ s.svc.state ≠ .processList
  | _ => False

instance (s : SyncRun ω) (i : SyncInput cfg) : Decidable (StrayOkay cfg s i) := by
  cases i <;> unfold StrayOkay <;> infer_instance

/-- It leaves the service as it is, and open. -/
def OkayHarmless (s : SyncRun ω) (i : SyncInput cfg) : Prop :=
  StrayOkay cfg s i → (syncStep cfg fs s i).Same s

/-- It finds the service between two requests. -/
def OkayIdle (s : SyncRun ω) (i : SyncInput cfg) : Prop :=
  StrayOkay cfg s i → s.svc.state = .waitCmd ∧ s.svc.size = 0

/-- file_sync_on_ack resets the service in the states where it has nothing to do, and
fails in the others. -/
theorem okay_harmless_iff_idle (s : SyncRun ω) (i : SyncInput cfg) :
    OkayHarmless cfg fs s i ↔ OkayIdle cfg s i := by
  refine forall_congr' fun h => ?_
  cases i with
  | write f => exact h.elim
  | close => exact h.elim
  | ack f =>
    obtain ⟨hopen,hrecv,hlist⟩ := h
    have hstep : syncStep cfg fs s (.ack f) =
        afterCallback fs (fileSyncOnAck cfg fs (s.ctx f.packet)) := by
      unfold syncStep
      rw [hopen]
      rfl
    rw [hstep]
    -- the reset of the quiet exit, and the close of the failing one
    have hquiet (hack : stateAck cfg fs (s.ctx f.packet).rewind = (0, (s.ctx f.packet).rewind)) :
        afterCallback fs (fileSyncOnAck cfg fs (s.ctx f.packet)) =
          (stateReset fs (s.ctx f.packet).rewind).run false := by
      unfold fileSyncOnAck
      rw [hack]
      rfl
    have hfail (hack : stateAck cfg fs (s.ctx f.packet).rewind = (-1, (s.ctx f.packet).rewind)) :
        (afterCallback fs (fileSyncOnAck cfg fs (s.ctx f.packet))).closed = true := by
      unfold fileSyncOnAck
      rw [hack]
      rfl
    have hmoved (hne : s.svc.state ≠ .waitCmd) :
        ¬((stateReset fs (s.ctx f.packet).rewind).run false).Same s := by
      intro h
      have hstate := congrArg AfsService.state h.svc
      have hreset : ((stateReset fs (s.ctx f.packet).rewind).run false).svc.state = .waitCmd :=
        congrArg AfsService.state (state_reset_svc fs _)
      exact hne (hstate.symm.trans hreset)
    cases hs : s.svc.state with
    | processRecv => exact absurd hs hrecv
    | processList => exact absurd hs hlist
    | waitCmd =>
      rw [hquiet (by simp only [stateAck, SyncCtx.rewind, SyncRun.ctx, hs])]
      have hreset : stateReset fs (s.ctx f.packet).rewind =
          (((s.ctx f.packet).rewind).setState .waitCmd).setSize 0 := by
        simp only [stateReset, SyncCtx.rewind, SyncRun.ctx, hs]
      rw [hreset]
      constructor
      · intro h
        have hsize := congrArg AfsService.size h.svc
        exact ⟨rfl,hsize.symm⟩
      · rintro ⟨-,hz⟩
        refine ⟨?_,rfl,rfl,hopen.symm⟩
        change { s.svc with packetPtr := 0, state := .waitCmd, size := 0 } =
          { s.svc with packetPtr := 0 }
        rw [← hs, ← hz]
    | processSendFileHdr =>
      rw [hquiet (by simp only [stateAck, SyncCtx.rewind, SyncRun.ctx, hs])]
      exact ⟨fun h => absurd h (hmoved (by simp [hs])),fun h => by cases h.1⟩
    | processSendSymHdr =>
      rw [hquiet (by simp only [stateAck, SyncCtx.rewind, SyncRun.ctx, hs])]
      exact ⟨fun h => absurd h (hmoved (by simp [hs])),fun h => by cases h.1⟩
    | waitCmdData =>
      have hclosed := hfail (by simp only [stateAck, SyncCtx.rewind, SyncRun.ctx, hs])
      exact ⟨fun h => absurd h.closed (by simp [hclosed, hopen]),fun h => by cases h.1⟩
    | processSendFileData =>
      have hclosed := hfail (by simp only [stateAck, SyncCtx.rewind, SyncRun.ctx, hs])
      exact ⟨fun h => absurd h.closed (by simp [hclosed, hopen]),fun h => by cases h.1⟩
    | processSendSymData =>
      have hclosed := hfail (by simp only [stateAck, SyncCtx.rewind, SyncRun.ctx, hs])
      exact ⟨fun h => absurd h.closed (by simp [hclosed, hopen]),fun h => by cases h.1⟩

/-- The stray OKAYs of a run change nothing, and the run without them does the same and
executes the same requests, exactly when each of them arrives between two requests. -/
theorem stray_okays_harmless_iff (raw : AfsService) (os : ω) (is : List (SyncInput cfg)) :
    (Along (syncStep cfg fs) (OkayHarmless cfg fs) (syncStart raw os) is ∧
        (syncRun cfg fs raw os is).Same (syncRun cfg fs raw os
          (visible (syncStep cfg fs) (StrayOkay cfg) (syncStart raw os) is))) ↔
      Along (syncStep cfg fs) (OkayIdle cfg) (syncStart raw os) is := by
  have hiff : Along (syncStep cfg fs) (OkayHarmless cfg fs) (syncStart raw os) is ↔
      Along (syncStep cfg fs) (OkayIdle cfg) (syncStart raw os) is :=
    along_iff_of_invariant (syncStep cfg fs) (fun _ => True) _ _ (fun _ _ _ _ => trivial)
      (syncStart raw os) trivial is (fun s i _ _ => okay_harmless_iff_idle cfg fs s i)
  refine ⟨fun h => hiff.mp h.1,fun h => ⟨hiff.mpr h,?_⟩⟩
  exact run_visible (syncStep cfg fs) (StrayOkay cfg) SyncRun.Same same_trans
    (fun s t i hst => same_step cfg fs s t i hst) _ _ (same_refl _) is (hiff.mpr h)

/-- A STAT request, and three bytes of the next one before the OKAY for its reply. -/
theorem okay_drops_partial_header :
    ¬Along (syncStep readmeConfig emptyFs) (OkayHarmless readmeConfig emptyFs)
      (syncStart default ())
      [.write (.ofBytes readmeConfig (syncRequest idStat (ascii "/aaaaaaa") ++
          (syncRequest idStat (ascii "/aaaaaaa")).take 3) (by decide)),
        .ack (.ofBytes readmeConfig [] (by decide))] := by
  intro h
  have hsize := congrArg AfsService.size (h.2.1 (by decide +kernel)).svc
  revert hsize
  decide +kernel

end MicroADB
