import MicroADB.AdbPool

/-! What a callback leaves of the reception of a frame, and of the connection. -/
namespace MicroADB
open ByteMemory EventRun

variable {ω : Type} {cfg : Config} {fs : FileSystem ω} {uv : Uv ω} {d d' : Daemon ω}

/-- The events of the reception of frames. -/
def Event.reception : Event → Bool
  | .received _ | .handed .. | .close .badHeader | .close .badData => true
  | _ => false

theorem reception_of_plain (e : Event) (h : e.plain = true) : e.reception = false := by
  cases e with
  | close why => cases why <;> first | rfl | simp [Event.plain] at h
  | _ => first | rfl | simp [Event.plain] at h

/-- The reception stays as it was, and so does the connection, unless c holds. -/
structure Aside (c : Prop) (d d' : Daemon ω) : Prop where
  curPacket : d'.socket.closing = false → d'.curPacket = d.curPacket
  curLen : d'.curLen = d.curLen
  isConnected : c ∨ d'.isConnected = d.isConnected
  crashed : d.crashed = true → d'.crashed = true
  wf : d.socket.Wf → d'.socket.Wf
  closing : d.socket.closing = true → d'.socket.closing = true
  log : ∃ es, d'.log = d.log ++ es ∧ ∀ e ∈ es, e.reception = false

variable {c : Prop}

theorem Aside.refl (c : Prop) (d : Daemon ω) : Aside c d d :=
  ⟨fun _ => rfl,rfl,Or.inr rfl,id,id,id,[],(List.append_nil _).symm,by simp⟩

theorem Aside.trans {d d' d'' : Daemon ω} (h : Aside c d d') (h' : Aside c d' d'') :
    Aside c d d'' where
  curPacket := by
    intro hcl
    have hopen : d'.socket.closing = false := by
      by_contra hcl'
      rw [h'.closing (by simpa using hcl')] at hcl
      cases hcl
    exact (h'.curPacket hcl).trans (h.curPacket hopen)
  curLen := h'.curLen.trans h.curLen
  isConnected := by
    rcases h'.isConnected with hc | hc'
    · exact Or.inl hc
    · rcases h.isConnected with hc | hc
      · exact Or.inl hc
      · exact Or.inr (hc'.trans hc)
  crashed := fun hc => h'.crashed (h.crashed hc)
  wf := fun hw => h'.wf (h.wf hw)
  closing := fun hc => h'.closing (h.closing hc)
  log := by
    obtain ⟨es,hes,hp⟩ := h.log
    obtain ⟨fs,hfs,hq⟩ := h'.log
    refine ⟨es ++ fs,by rw [hfs, hes, List.append_assoc],fun e he => ?_⟩
    rcases List.mem_append.mp he with he | he
    · exact hp e he
    · exact hq e he

theorem Quietly.aside (h : Quietly d d') : Aside c d d' := by
  obtain ⟨es,hlog,hes⟩ := h.log
  exact ⟨fun _ => h.curPacket,h.curLen,Or.inr h.isConnected,h.crashed,h.wf,h.closing,es,hlog,
    fun e he => reception_of_plain e (hes e he)⟩

/-- Services, packets and events may change beside the reception. -/
theorem aside_emit (d : Daemon ω) (e : Event) (h : e.reception = false) : Aside c d (d.emit e) :=
  { Aside.refl c d with log := ⟨[e],rfl,fun _ he => List.mem_singleton.mp he ▸ h⟩ }

theorem aside_set_service (d : Daemon ω) (a : ℕ) (svc : Service) :
    Aside c d (d.setService a svc) :=
  { Aside.refl c d with }

theorem aside_with_service (d : Daemon ω) (a : ℕ) (f : Service → Daemon ω)
    (hf : ∀ svc, Aside c d (f svc)) : Aside c d (d.withService a f) := by
  unfold Daemon.withService
  split
  · exact (quietly_fault d _ rfl).aside
  · exact hf _

theorem aside_next (f : Daemon ω → Daemon ω) (h : Aside c d d') (hf : Aside c d' (f d')) :
    Aside c d (d'.next f) := by
  unfold Daemon.next
  split
  · exact h
  · exact h.trans hf

theorem Act.aside (h : Act cfg uv d d') : Aside c d d' := by
  cases h with
  | quietly _ hq => exact hq.aside
  | alloc cap init _ =>
    exact { Aside.refl c d with
      log := ⟨[.alloc d.fresh],rfl,fun _ he => List.mem_singleton.mp he ▸ rfl⟩ }
  | refuse _ =>
    exact { Aside.refl c d with log := ⟨[.refused],rfl,fun _ he => List.mem_singleton.mp he ▸ rfl⟩ }
  | outOfMemory _ => exact aside_emit d _ rfl
  | service a svc svc' _ _ => exact aside_set_service d a svc'

theorem FrameAct.aside (h : FrameAct d d') : Aside c d d' := by
  cases h with
  | push a svc up _ _ _ _ => exact aside_set_service d a _
  | register svc peerId params _ =>
    exact { Aside.refl c d with
      log := ⟨[.opened d.fresh params],rfl,fun _ he => List.mem_singleton.mp he ▸ rfl⟩ }
  | serviceId n => exact { Aside.refl c d with }
  | reboot target => exact aside_emit d _ rfl
  | reached a e _ he =>
    refine aside_emit d e ?_
    rcases he with rfl | rfl <;> rfl

theorem aside_free_service (d : Daemon ω) (a : ℕ) (svc : Service) :
    Aside c d (freeService d a svc) :=
  (aside_set_service d a _).trans (aside_emit _ _ rfl)

theorem aside_uv_close_stream (d : Daemon ω) (a : ℕ) (svc : Service) :
    Aside c d (uvCloseStream d a svc) := by
  unfold uvCloseStream
  split
  · exact (quietly_fault d _ rfl).aside
  · exact aside_set_service d a _

theorem aside_on_close (fs : FileSystem ω) (d : Daemon ω) (a : ℕ) : Aside c d (onClose fs d a) := by
  refine aside_with_service d a _ (fun svc => ?_)
  have hemit : Aside c d (d.emit (.onClose a)) := aside_emit d _ rfl
  dsimp only
  split
  · have hdone (x : SyncCtx ω) :
        Aside c (d.emit (.onClose a)) (syncDone (d.emit (.onClose a)) a svc x) :=
      { Aside.refl c (d.emit (.onClose a)) with
        log := ⟨x.log.map (.sync a),rfl,fun e he => by
          obtain ⟨_,_,rfl⟩ := List.mem_map.mp he
          rfl⟩ }
    exact (hemit.trans (hdone _)).trans (aside_free_service _ a _)
  · split
    · exact hemit.trans (aside_uv_close_stream _ a svc)
    · exact hemit.trans (aside_free_service _ a svc)
  · exact hemit.trans (aside_uv_close_stream _ a svc)

/-- adb_service_close behind its entry in the trace. -/
theorem aside_close_called (fs : FileSystem ω) (uv : Uv ω) (d : Daemon ω) (a : ℕ)
    (up : Option ApacketUv) :
    Aside c (d.emit (.serviceClose a (decide (a ∈ d.services)))) (adbServiceClose fs uv d a up) := by
  unfold adbServiceClose
  generalize hemit : d.emit (.serviceClose a (decide (a ∈ d.services))) = e
  dsimp only
  split
  · exact (quietly_fault _ _ rfl).aside
  · split
    · exact { Aside.refl c _ with
        crashed := fun _ => rfl
        log := ⟨[.fault .nullNext],rfl,fun _ he => List.mem_singleton.mp he ▸ rfl⟩ }
    · split
      · have hunlink : Aside c e { e with services := e.services.erase a } :=
          { Aside.refl c _ with }
        refine hunlink.trans (aside_with_service _ a _ (fun svc => ?_))
        cases up with
        | none => exact aside_next _ (Aside.refl c _) (aside_on_close fs _ a)
        | some up =>
          exact aside_next _ (quietly_send_frame uv _ _).aside (aside_on_close fs _ a)
      · exact aside_emit _ _ rfl

theorem aside_service_close (fs : FileSystem ω) (uv : Uv ω) (d : Daemon ω) (a : ℕ)
    (up : Option ApacketUv) : Aside c d (adbServiceClose fs uv d a up) :=
  (aside_emit d (.serviceClose a (decide (a ∈ d.services))) rfl).trans
    (aside_close_called fs uv d a up)

theorem aside_keeps (c : Prop) (d₀ : Daemon ω) :
    Keeps cfg fs uv (fun _ _ => True) (Aside c d₀) where
  act _ _ h ha := h.trans ha.aside
  close d a up h _ _ := h.trans (aside_service_close fs uv d a up)

theorem aside_all (c : Prop) (d₀ : Daemon ω) :
    KeepsAll cfg fs uv (fun _ _ => True) (Aside c d₀) := by
  apply (aside_keeps c d₀).keeps_all (fun _ _ _ _ _ _ _ => trivial)
  · intro d h
    exact h.trans { Aside.refl c d with
      crashed := fun _ => rfl
      log := ⟨[.fault .frameCount],rfl,fun _ he => List.mem_singleton.mp he ▸ rfl⟩ }
  · intro d a n h
    exact h.trans { Aside.refl c d with
      log := ⟨[.release a],rfl,fun _ he => List.mem_singleton.mp he ▸ rfl⟩ }

/-- A frame of the host touches the connection only. -/
theorem aside_frames (d₀ : Daemon ω) :
    KeepsFrames cfg fs uv (fun _ _ => True) (Aside True d₀) where
  toKeepsAll := aside_all True d₀
  frame _ _ h ha := h.trans ha.aside
  connected d h := h.trans { Aside.refl True d with isConnected := Or.inl trivial }

/-- The other callbacks touch neither. -/
theorem aside_step (d₀ : Daemon ω) :
    KeepsStep cfg fs uv (fun _ _ => True) (Aside False d₀) where
  toKeepsAll := aside_all False d₀
  free d a svc h _ _ _ := h.trans (aside_free_service d a svc)

theorem aside_close (d₀ : Daemon ω) (hcl : d₀.socket.closing = true) :
    KeepsClose cfg fs uv (fun _ _ => True) (Aside False d₀) where
  toKeepsAll := aside_all False d₀
  drop d h := by
    have hclosing := h.closing hcl
    exact h.trans { Aside.refl False d with
      curPacket := fun hc => by
        change d.socket.closing = false at hc
        rw [hclosing] at hc
        cases hc }
  free_client d h _ _ := h.trans { Aside.refl False d with
    log := ⟨[.clientFreed],rfl,fun _ he => List.mem_singleton.mp he ▸ rfl⟩ }

/-- A callback that is not a read of the transport leaves the reception and the connection
alone. -/
theorem aside_callback (fs : FileSystem ω) (i : Input) (hs : Sound cfg uv [] d)
    (hread : ∀ r, i ≠ .transportRead r) :
    Aside False d (step cfg fs uv d i) := by
  have hkeeps : KeepsStep cfg fs uv (fun _ _ => True) (Aside False d) := aside_step d
  refine hkeeps.step i (Aside.refl False d) (fun r hi => absurd hi (hread r))
    (fun _ hc hcl _ _ => ?_) (fun hc => (hs.running hc).1.wf) (step_closes_true _ d i)
  have hboth : KeepsClose cfg fs uv (fun _ _ => True)
      (fun d' => Sound cfg uv [] d' ∧ Aside False d d') := sound_close.and (aside_close d hcl)
  exact (hboth.uv_close_client ⟨hs,Aside.refl False d⟩ hc
    (destroy_true _ (fun _ h hc => (h.1.running hc).1))).2

end MicroADB
