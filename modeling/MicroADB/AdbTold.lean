import MicroADB.AdbStreamStep

/-! What the trace of a callback never shows: an assertion that fails, or a frame that libuv refuses
on a transport that stays open. -/
namespace MicroADB
open ByteMemory EventRun

variable {ω : Type} {cfg : Config} {fs : FileSystem ω} {uv : Uv ω} {d d' d'' : Daemon ω}

/-- The transport refuses a frame. -/
def Event.refusedWrite : Event → Bool
  | .write _ _ _ ok => !ok
  | _ => false

/-- The assertion in alloc_buffer holds, and the transport does not survive a refusal. -/
structure Told (d d' : Daemon ω) : Prop where
  closing : d.socket.closing = true → d'.socket.closing = true
  log : ∃ es, d'.log = d.log ++ es ∧ .fault .assertion ∉ es ∧
    ∀ e ∈ es, e.refusedWrite = true → d'.socket.closing = true

theorem Told.trans (h : Told d d') (h' : Told d' d'') : Told d d'' := by
  obtain ⟨es,hes,hass,href⟩ := h.log
  obtain ⟨es',hes',hass',href'⟩ := h'.log
  refine ⟨fun hcl => h'.closing (h.closing hcl),es ++ es',?_,?_,fun e he hre => ?_⟩
  · rw [hes', hes, List.append_assoc]
  · exact fun hin => (List.mem_append.mp hin).elim hass hass'
  · rcases List.mem_append.mp he with he | he
    · exact h'.closing (href e he hre)
    · exact href' e he hre

/-- The events that are neither. -/
def Event.calm (e : Event) : Prop := e ≠ .fault .assertion ∧ e.refusedWrite = false

theorem told_of_log (es : List Event) (hcl : d'.socket.closing = d.socket.closing)
    (hlog : d'.log = d.log ++ es) (hes : ∀ e ∈ es, e.calm) : Told d d' := by
  refine ⟨fun h => hcl.trans h,es,hlog,fun hin => (hes _ hin).1 rfl,fun e he hre => ?_⟩
  rw [(hes e he).2] at hre
  cases hre

theorem told_still (hcl : d'.socket.closing = d.socket.closing) (hlog : d'.log = d.log) :
    Told d d' := told_of_log [] hcl (hlog.trans (List.append_nil _).symm) (by simp)

theorem told_emit (d : Daemon ω) {e : Event} (he : e.calm) : Told d (d.emit e) :=
  told_of_log _ rfl rfl (fun _ hin => List.mem_singleton.mp hin ▸ he)

theorem told_fault (d : Daemon ω) {f : Fault} (hf : f ≠ .assertion) : Told d (d.fault f) :=
  told_of_log [.fault f] rfl rfl (by simpa [Event.calm, Event.refusedWrite] using hf)

theorem told_ops_close (d : Daemon ω) (why : CloseReason) : Told d (opsClose d why) := by
  unfold opsClose
  split
  · exact told_fault d (by decide)
  · refine ⟨fun _ => rfl,[.close why],rfl,by simp,fun e he hre => rfl⟩

theorem send_frame_told (uv : Uv ω) (d : Daemon ω) (up : ApacketUv) : Told d
    (sendFrame uv d up) := by
  cases hcl : d.socket.closing with
  | true =>
    rw [send_frame_closing up hcl]
    refine ⟨fun _ => hcl,[_,.fault .closingTwice],List.append_assoc _ [_] [_],by simp,?_⟩
    exact fun _ _ _ => hcl
  | false =>
    have hclosing := (send_frame_open uv d up hcl).2.1
    cases hw : (uv.write d.os).2 with
    | true =>
      rw [send_frame_taken up ⟨hcl,hw⟩]
      exact told_of_log [_] rfl rfl (by simp [Event.calm, Event.refusedWrite])
    | false =>
      refine ⟨(fun h => by rw [hcl] at h; cases h),?_⟩
      obtain ⟨ok,es,hlog,hes⟩ := send_frame_log uv d up
      refine ⟨_,hlog,?_,fun _ _ _ => by rw [hclosing, hw]; rfl⟩
      intro hin
      rcases List.mem_cons.mp hin with h | h
      · cases h
      · rcases hes _ h with h | h <;> cases h

theorem told_service_close (fs : FileSystem ω) (uv : Uv ω) {a : ℕ} {svc : Service}
    (up : Option ApacketUv) (hreg : a ∈ d.services) (ha : d.alive a = some svc)
    (hcl : svc.stream.closing = false) (hg : d.gone = false) :
    Told d (adbServiceClose fs uv d a up) := by
  have hunlink : Told d (unlink d a) :=
    told_of_log [.serviceClose a true] rfl rfl (by simp [Event.calm, Event.refusedWrite])
  have hsend : Told d (sendClose uv (unlink d a) svc up) := by
    cases up with
    | none => exact hunlink
    | some up => exact hunlink.trans (send_frame_told uv _ _)
  rcases service_close_spec fs uv d a svc up hg hreg ha hcl with
    ⟨heq,-⟩ | ⟨svc',os,es,-,hes,-,heq⟩
  · rw [heq]
    exact hsend
  · rw [heq]
    refine hsend.trans (told_of_log (.onClose a :: es) rfl rfl (fun e he => ?_))
    rcases List.mem_cons.mp he with rfl | he
    · exact ⟨(fun h => by cases h),rfl⟩
    · rcases hes e he with ⟨s,rfl⟩ | rfl <;> exact ⟨(fun h => by cases h),rfl⟩

theorem told_sync_done (d : Daemon ω) (a : ℕ) (svc : Service) (c : SyncCtx ω) :
    Told d (syncDone d a svc c) := by
  refine told_of_log (c.log.map (.sync a)) rfl rfl (fun e he => ?_)
  obtain ⟨_,_,rfl⟩ := List.mem_map.mp he
  exact ⟨(fun h => by cases h),rfl⟩

theorem calm_of_idle {e : Event} (h : e.idle = true) : e.calm := by
  constructor
  · rintro rfl
    cases h
  · cases e <;> first | rfl | cases h

theorem Move.told {x y : Option ℕ × Daemon ω} (h : Move cfg fs uv x y) : Told x.2 y.2 := by
  cases h with
  | unmoved hu =>
    obtain ⟨es,hlog,hes⟩ := hu.log
    exact told_of_log _ hu.closing hlog (fun e he => calm_of_idle (hes e he))
  | crash es hes =>
    rcases hes with ⟨f,hf,-,rfl⟩ | ⟨a,rfl⟩
    · exact told_fault _ hf
    · exact told_of_log _ rfl rfl (by simp [Event.calm, Event.refusedWrite])
  | badRelease b _ => exact told_fault _ (by decide)
  | halt _ => exact told_still rfl rfl
  | close why => exact told_ops_close _ why
  | @alloc d cap init =>
    exact told_of_log [.alloc d.fresh] rfl rfl (by simp [Event.calm, Event.refusedWrite])
  | release b n =>
    exact told_of_log [.release b] rfl rfl (by simp [Event.calm, Event.refusedWrite])
  | send up _ _ _ => exact send_frame_told uv _ up
  | shift ha hs => exact told_still rfl rfl
  | @register h d svc peerId params _ _ _ _ =>
    exact told_of_log [.opened d.fresh params] rfl rfl
      (by simp [Event.calm, Event.refusedWrite])
  | @writes h d a _ => exact told_emit d ⟨(fun h => by cases h),rfl⟩
  | @written h d a svc s _ _ _ c =>
    have hemit : Told d (d.emit (.onWrite a)) := told_emit d ⟨(fun h => by cases h),rfl⟩
    exact hemit.trans (told_sync_done _ a svc c)
  | @kept d a svc up os _ _ _ =>
    exact told_of_log [.kept a up.addr] rfl rfl (by simp [Event.calm, Event.refusedWrite])
  | @acked h d a svc _ _ _ =>
    exact told_of_log [.onAck a] rfl rfl (by simp [Event.calm, Event.refusedWrite])
  | @ackedSync h d a svc s _ _ _ c =>
    have hemit : Told d (d.emit (.onAck a)) := told_emit d ⟨(fun h => by cases h),rfl⟩
    exact hemit.trans (told_sync_done _ a svc c)
  | okay up _ _ _ _ => exact send_frame_told uv _ up
  | @connect d a svc up _ _ _ _ =>
    have hset : Told d (d.setService a (adbHalSocketStart { svc with kind := .tcp .connected })) :=
      told_still rfl rfl
    exact hset.trans (send_frame_told uv _ up)
  | closed up _ hreg ha hcl hg _ => exact told_service_close fs uv up hreg ha hcl hg

theorem StepMove.told {x y : Option ℕ × Daemon ω} (h : StepMove cfg fs uv x y) :
    Told x.2 y.2 := by
  cases h with
  | move hm => exact hm.told
  | pop _ => exact told_still rfl rfl
  | @reply d up rest _ _ =>
    have hpop : Told d (d.setSocket { d.socket with writes := rest }) := told_still rfl rfl
    exact hpop.trans (send_frame_told uv _ _)
  | popStream _ _ => exact told_still rfl rfl
  | handed _ => exact told_still rfl rfl
  | keep ap _ => exact told_still rfl rfl
  | @releaseCur d ap _ n =>
    exact told_of_log [.release ap.addr] rfl rfl (by simp [Event.calm, Event.refusedWrite])
  | badCur _ _ => exact told_fault _ (by decide)
  | dropCur => exact told_still rfl rfl
  | dropped b => exact told_still rfl rfl
  | @free d a svc _ _ _ =>
    exact told_of_log [.freed a] rfl rfl (by simp [Event.calm, Event.refusedWrite])
  | @gone d _ =>
    exact told_of_log [.clientFreed] rfl rfl (by simp [Event.calm, Event.refusedWrite])

theorem StepMoves.told {x y : Option ℕ × Daemon ω} (h : StepMoves cfg fs uv x y) :
    Told x.2 y.2 := by
  induction h with
  | refl => exact told_still rfl rfl
  | tail _ hlast ih => exact ih.trans hlast.told

theorem Fed.told {a : ℕ} {bs : List UInt8} {x y : Option ℕ × Daemon ω} (h : Fed uv a bs x y) :
    Told x.2 y.2 := by
  cases h with
  | @fed d svc svc' up _ _ _ _ _ _ _ =>
    have hset : Told d (d.setService a svc') := told_still rfl rfl
    exact hset.trans (send_frame_told uv _ up)

theorem Returned.told {a : ℕ} (h : Returned uv a d d') : Told d d' := by
  cases h with
  | @returned svc up rest _ _ _ =>
    have hset : Told d (d.setService a { svc with stream := { svc.stream with writes := rest } }) :=
      told_still rfl rfl
    exact hset.trans (send_frame_told uv _ _)

theorem Answering.told {a : ℕ} {x y : Option ℕ × Daemon ω} (h : Answering uv a x y) :
    Told x.2 y.2 := by
  cases h with
  | replied up _ _ _ _ => exact send_frame_told uv _ up

theorem Continued.told {a : ℕ} {x y : Option ℕ × Daemon ω} (h : Continued cfg fs uv a x y) :
    Told x.2 y.2 := by
  cases h with
  | @continued d svc s c up _ _ _ _ _ =>
    have hemit : Told d (d.emit (.onAck a)) := told_emit d ⟨(fun h => by cases h),rfl⟩
    exact (hemit.trans (told_sync_done _ a svc c)).trans (send_frame_told uv _ up)

theorem step_told (i : Input) (ht : d.crashed = false → Table d) :
    Told d (step cfg fs uv d i) := by
  cases step_stepped cfg fs uv i ht with
  | moves _ _ hm => exact hm.told
  | fed a bs x _ _ hm hf => exact hm.told.trans hf.told
  | returned a _ _ hr => exact hr.told
  | replied a x _ _ _ hm hf => exact hm.told.trans hf.told
  | continued a x _ _ hm hf => exact hm.told.trans hf.told

/-- A run from which the host gets every frame: as long as the transport is open, libuv took them
all. -/
theorem told_run (cfg : Config) (fs : FileSystem ω) (uv : Uv ω) (token : List UInt8) (os : ω)
    (is : List Input) :
    .fault .assertion ∉ (daemonRun cfg fs uv token os is).log ∧
      ∀ e ∈ (daemonRun cfg fs uv token os is).log, e.refusedWrite = true →
        (daemonRun cfg fs uv token os is).socket.closing = true := by
  have hrun : Flowing cfg uv (daemonRun cfg fs uv token os is) ∧
      Told (daemonStart token os) (daemonRun cfg fs uv token os is) :=
    run_invariant _ (fun d => Flowing cfg uv d ∧ Told (daemonStart token os) d)
      (fun d i h => ⟨h.1.step i,h.2.trans (step_told i h.1.table)⟩) _
      ⟨flowing_start cfg uv token os,told_still rfl rfl⟩ is
  obtain ⟨es,hlog,hass,href⟩ := hrun.2.log
  rw [hlog]
  exact ⟨hass,href⟩

end MicroADB
