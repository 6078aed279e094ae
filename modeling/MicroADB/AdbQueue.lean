import MicroADB.AdbPool

/-! The queue of the transport. Each callback of a write takes the packet that has waited longest,
and whatever else is done puts packets behind those that are there. -/
namespace MicroADB
open ByteMemory EventRun

variable {ω : Type} {cfg : Config} {fs : FileSystem ω} {uv : Uv ω} {d d' : Daemon ω}
  {w : List ApacketUv}

/-- The packets of w are the next that will have been written. -/
def Queued (w : List ApacketUv) (d : Daemon ω) : Prop := w <+: d.socket.writes

theorem Queued.of_socket (h : Queued w d) (hs : d'.socket = d.socket) : Queued w d' := by
  unfold Queued
  rw [hs]
  exact h

theorem Queued.ops_close (h : Queued w d) (why : CloseReason) : Queued w (opsClose d why) := by
  unfold opsClose
  split <;> exact h

theorem Queued.send (h : Queued w d) (uv : Uv ω) (up : ApacketUv) :
    Queued w (sendFrame uv d up) := by
  have hwrite (up' : ApacketUv) : Queued w (tcpUvWrite uv d up').2 := by
    unfold tcpUvWrite
    generalize (if d.socket.closing = true then (d.os, false) else uv.write d.os) = r
    dsimp only
    split
    · exact h.trans (List.prefix_append _ _)
    · exact h
  unfold sendFrame
  dsimp only
  split
  · exact (hwrite _).ops_close _
  · exact hwrite _

/-- on_close is about the service only. -/
theorem on_close_socket (fs : FileSystem ω) (d : Daemon ω) (a : ℕ) :
    (onClose fs d a).socket = d.socket := by
  have hclose (e : Daemon ω) (svc : Service) : (uvCloseStream e a svc).socket = e.socket := by
    unfold uvCloseStream
    split <;> rfl
  have hfree (e : Daemon ω) (svc : Service) : (freeService e a svc).socket = e.socket := rfl
  have hdone (e : Daemon ω) (svc : Service) (c : SyncCtx ω) :
      (syncDone e a svc c).socket = e.socket := rfl
  unfold onClose Daemon.withService
  split
  · rfl
  · dsimp only
    split
    · exact (hfree _ _).trans (hdone _ _ _)
    · split
      · exact hclose _ _
      · exact hfree _ _
    · exact hclose _ _

theorem Queued.service_close (h : Queued w d) (fs : FileSystem ω) (uv : Uv ω) (a : ℕ)
    (up : Option ApacketUv) : Queued w (adbServiceClose fs uv d a up) := by
  have hclose (e : Daemon ω) (he : Queued w e) :
      Queued w (e.next fun e => onClose fs e a) :=
    keeps_next he (fun _ => he.of_socket (on_close_socket fs e a))
  have hexit (e : Daemon ω) (he : Queued w e) : Queued w (exitFreeService fs uv e a up) := by
    unfold exitFreeService Daemon.withService
    split
    · exact he
    · cases up with
      | none => exact hclose e he
      | some up => exact hclose _ (he.send uv _)
  unfold adbServiceClose
  dsimp only
  split
  · exact h
  · split
    · exact h
    · split
      · exact hexit _ h
      · exact h

theorem Queued.deed (h : Queued w d) (hd : Deed cfg uv d d') : Queued w d' := by
  cases hd with
  | calmly _ hc => exact h.trans hc.writes
  | send up => exact h.send uv up
  | outOfMemory _ =>
    have hos : Queued w ((d.setOs (uv.packetMalloc d.os).1).emit .outOfMemory) := h
    exact hos.ops_close _
  | _ => exact h

theorem queued_all (w : List ApacketUv) :
    GuardsAll cfg fs uv (fun _ _ => True) (Queued w) := by
  have hguards : Guards cfg fs uv (fun _ _ => True) (Queued w) :=
    ⟨fun _ _ h hd => h.deed hd,fun _ a up h _ _ => h.service_close fs uv a up⟩
  exact hguards.guards_all (fun _ _ _ _ _ _ _ => trivial) (fun _ h => h) (fun _ _ _ h => h)

theorem queued_reads (w : List ApacketUv) :
    GuardsReads cfg fs uv (fun _ _ => True) (Queued w) where
  toGuardsAll := queued_all w
  frame d d' h ha := by cases ha <;> exact h
  connected _ h := h
  receives d d' h hr := h.of_socket hr.socket
  starve d h _ := by
    change w <+: d.socket.starve.writes
    unfold UvStream.starve
    split <;> exact h

theorem queued_close (w : List ApacketUv) :
    GuardsClose cfg fs uv (fun _ _ => True) (Queued w) where
  toGuardsAll := queued_all w
  drop _ h := h
  free_client _ h _ _ := h

theorem queued_around (w : List ApacketUv) (p : Prop) :
    Aftermath (fun _ => True) (Queued (ω := ω) w) (Queued w) p :=
  ⟨fun _ h => h,fun _ _ why _ h _ => h.ops_close why⟩

/-! A callback. -/

theorem step_written {e : Daemon ω} {last : ApacketUv} {rest : List ApacketUv} {fail : Bool}
    (hc : e.crashed = false) (hw : e.socket.writes = last :: rest) :
    step cfg fs uv e (.transportWritten fail) =
      adbUvAfterWrite cfg fs uv (e.setSocket { e.socket with writes := rest }) last fail := by
  unfold step
  rw [if_neg (by simp [hc])]
  dsimp only
  rw [hw]

/-- The packets that a callback takes from the queue. -/
def Input.pops : Input → ℕ
  | .transportWritten _ => 1
  | _ => 0

/-- What is left of w when a callback has come. -/
theorem queued_step (i : Input) (hs : Sound cfg uv [] d) (hc : d.crashed = false)
    (h : Queued w d) : Queued (w.drop i.pops) (step cfg fs uv d i) := by
  by_cases hi : ∃ fail, i = .transportWritten fail
  · -- the packet that has been written is the first of w
    obtain ⟨fail,rfl⟩ := hi
    cases w with
    | nil => exact List.nil_prefix
    | cons up w =>
      obtain ⟨l,hl⟩ := h
      have hpop : Queued w (d.setSocket { d.socket with writes := w ++ l }) :=
        List.prefix_append w l
      rw [step_written hc (hl.symm.trans (List.cons_append ..))]
      exact (queued_all w).after_write up fail (queued_around w _) trivial hpop hc
  · -- no other callback takes a packet from the queue
    have hzero : i.pops = 0 := by
      cases i with
      | transportWritten fail => exact absurd ⟨fail,rfl⟩ hi
      | _ => rfl
    have hreads : GuardsReads cfg fs uv (fun _ _ => True) (Queued (ω := ω) w) := queued_reads w
    rw [hzero, List.drop_zero]
    refine hreads.toGuardsAll.step i h (queued_around w _) trivial
      (fun fail _ _ hw => absurd ⟨fail,hw⟩ hi) ?_ ?_ (fun hc => (hs.running hc).1.wf)
      (step_closes_true _ d i) ?_ (fun _ _ _ _ => h)
    · rintro r rfl _ _
      exact hreads.transport_read r (fun _ => trivial) h (queued_around w _)
        (fun _ _ _ _ => queued_around w _) (fun up d' hr _ => ⟨frame_closes_true _ _,fun _ _ os => by
          have hreceive := hreads.receive r (queued_around w _) (fun _ => trivial) h
          rw [hr] at hreceive
          exact hreceive⟩)
    · rintro rfl hc _ _ _
      have hsound : KeepsClose cfg fs uv (fun _ _ => True) (Sound cfg uv []) := sound_close
      have hclose : GuardsClose cfg fs uv (fun _ _ => True)
          (fun d' => Sound cfg uv [] d' ∧ Queued w d') :=
        hsound.guards_close.and (queued_close w)
      exact (hclose.uv_close_client ⟨hs,h⟩ hc (destroy_true _ (fun _ h hc => (h.1.running hc).1))).2
    · cases i with
      | connected a fail => exact fun svc state _ _ _ => Or.inl h
      | _ => trivial

/-! Runs. -/

theorem crashed_run (hc : d.crashed = true) (is : List Input) :
    run (step cfg fs uv) d is = d := by
  induction is with
  | nil => rfl
  | cons i is ih =>
    have hstep : step cfg fs uv d i = d := if_pos hc
    rw [run_cons, hstep, ih]

theorem sound_runs (hs : Sound cfg uv [] d) (is : List Input) :
    Sound cfg uv [] (run (step cfg fs uv) d is) :=
  run_invariant _ (Sound cfg uv []) (fun _ i h => sound_callback i h) d hs is

/-- The callbacks of writes come in the order in which the packets were handed over. -/
theorem queued_run (is : List Input) (hs : Sound cfg uv [] d) (h : Queued w d)
    (hc : (run (step cfg fs uv) d is).crashed = false) :
    Queued (w.drop (is.map Input.pops).sum) (run (step cfg fs uv) d is) := by
  induction is generalizing d w with
  | nil => exact h
  | cons i is ih =>
    have hrun : d.crashed = false := by
      by_contra hd
      rw [crashed_run (by simpa using hd) (i :: is)] at hc
      exact hd hc
    rw [run_cons] at hc ⊢
    rw [List.map_cons, List.sum_cons, ← List.drop_drop]
    exact ih (sound_callback i hs) (queued_step i hs hrun h) hc

/-- The last of the packets that wait is the next when those before it have been written. -/
theorem queued_last {up : ApacketUv} (is : List Input) (hs : Sound cfg uv [] d)
    (hw : d.socket.writes = w ++ [up]) (hpops : (is.map Input.pops).sum = w.length)
    (hc : (run (step cfg fs uv) d is).crashed = false) :
    ∃ rest, (run (step cfg fs uv) d is).socket.writes = up :: rest := by
  have hall : Queued (w ++ [up]) d := by
    unfold Queued
    rw [hw]
  obtain ⟨rest,hrest⟩ := queued_run is hs hall hc
  rw [hpops, List.drop_left] at hrest
  exact ⟨rest,hrest.symm⟩

end MicroADB
