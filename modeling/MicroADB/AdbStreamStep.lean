import MicroADB.AdbStream

/-! A callback, as each stream sees it: acts of its service, and what the callback ends with when
that concerns the stream. -/
namespace MicroADB
open ByteMemory EventRun

variable {ω : Type} {cfg : Config} {fs : FileSystem ω} {uv : Uv ω} {d d' : Daemon ω}

/-! The ends of the callbacks. -/

theorem Filled.tame {svc svc' : Service} {fs : List StreamFrame} (h : Filled svc svc') :
    Tame svc svc' fs := by
  cases h with
  | tcp hk =>
    refine ⟨fun _ => ⟨rfl,Or.inl rfl⟩,fun he => ?_,by rw [hk]; rfl⟩
    cases hk.symm.trans he
  | shell hk =>
    refine ⟨fun _ => ⟨rfl,Or.inl rfl⟩,fun he => ?_,by rw [hk]; rfl⟩
    cases hk.symm.trans he

theorem Fed.acts {a : ℕ} {bs : List UInt8} {x y : Option ℕ × Daemon ω} (h : Fed uv a bs x y) :
    (∃ svc svc', Filled svc svc' ∧ ActsAt a svc svc' [.wrte svc.peerId bs] 0 x.2 y.2) ∧
      replies y.2 = replies x.2 := by
  cases h with
  | @fed d svc svc' up ha hf hst hframe hp hne hw =>
    obtain ⟨es,hlog,hadds⟩ := adds_send_wrte uv (d.setService a svc') hframe a
    have hq := quietly_send_frame uv (d.setService a svc') up
    rw [hp] at hadds
    exact ⟨⟨svc,svc',hf,hf.tame,((alive_iff _ _ _).mp ha).1,hq.heap,es,
      ⟨hlog,hq.nextServiceId,hq.fresh.ge⟩,hadds⟩,replies_send uv (d.setService a svc') up hw⟩

theorem Returned.acts {a : ℕ} (h : Returned uv a d d') :
    (∃ svc writes, svc.kind.Takes ∧ ActsAt a svc
      { svc with stream := { svc.stream with writes := writes } } [.okay svc.peerId] 0 d d') ∧
      replies d' = replies d := by
  cases h with
  | @returned svc up rest ha hw hk =>
    set svc' : Service := { svc with stream := { svc.stream with writes := rest } } with hsvc'
    have hframe : FrameOf aOkay svc ((up.setWriteLen 0).message aOkay svc.id svc.peerId 0) :=
      ⟨rfl,rfl,rfl⟩
    obtain ⟨es,hlog,hadds⟩ := adds_send_okay uv (d.setService a svc') hframe a
    have hq := quietly_send_frame uv (d.setService a svc')
      ((up.setWriteLen 0).message aOkay svc.id svc.peerId 0)
    have htame : Tame svc svc' [.okay svc.peerId] := by
      refine ⟨fun _ => ⟨rfl,Or.inl rfl⟩,fun he => ?_,Iff.rfl⟩
      rw [he] at hk
      change StreamState.connected.index ≤ StreamState.errorClose.index at hk
      exact absurd hk (by decide)
    exact ⟨⟨svc,rest,hk,htame,((alive_iff _ _ _).mp ha).1,hq.heap,es,
      ⟨hlog,hq.nextServiceId,hq.fresh.ge⟩,hadds⟩,
      replies_send uv (d.setService a svc')
        ((up.setWriteLen 0).message aOkay svc.id svc.peerId 0) rfl⟩

theorem sync_tame {svc svc' : Service} {fs : List StreamFrame} (hk : svc.kind.IsSync)
    (hk' : svc'.kind.IsSync) (hid : svc'.id = svc.id) (hpeer : svc'.peerId = svc.peerId) :
    Tame svc svc' fs := by
  refine ⟨fun _ => ⟨hpeer,Or.inl hid⟩,fun he => ?_,iff_of_true hk' hk⟩
  rw [he] at hk
  exact hk.elim

theorem Answering.acts {a : ℕ} {x y : Option ℕ × Daemon ω} (h : Answering uv a x y) :
    ∃ svc, svc.kind.IsSync ∧ ActsAt a svc svc [.okay svc.peerId] 0 x.2 y.2 ∧
      (replies y.2 = replies x.2 ∨ ∃ up : ApacketUv, up.p.msg.arg0 = svc.id ∧
        up.p.msg.arg1 = svc.peerId ∧ replies y.2 = replies x.2 ++ [up]) := by
  cases h with
  | @replied d svc up ha hk hf hw =>
    obtain ⟨es,hlog,hadds⟩ := adds_send_okay uv d hf a
    have hq := quietly_send_frame uv d up
    have hheap := ((alive_iff _ _ _).mp ha).1
    refine ⟨svc,hk,⟨sync_tame hk hk rfl rfl,hheap,hq.heap.trans (heap_self hheap),es,
      hq.beside hlog,hadds⟩,?_⟩
    rcases send_frame_writes uv d up with hs | hs
    · exact Or.inl (replies_of_socket hs)
    · refine Or.inr ⟨up.sealed,hf.arg0,hf.arg1,?_⟩
      have hone : [up.sealed].filter (fun up => decide (0 < up.p.writeLen)) = [up.sealed] := by
        rw [List.filter_singleton, decide_eq_true (show 0 < up.sealed.p.writeLen from hw)]
        rfl
      unfold replies
      rw [hs, List.filter_append, hone]

theorem Continued.acts {a : ℕ} {x y : Option ℕ × Daemon ω} (h : Continued cfg fs uv a x y) :
    (∃ svc afs afs' payload, svc.kind = .sync afs ∧
      ActsAt a svc { svc with kind := .sync afs' } [.wrte svc.peerId payload] 1 x.2 y.2) ∧
      replies y.2 = replies x.2 := by
  cases h with
  | @continued d svc s c up hreg ha hk hf hw =>
    set e := syncDone (d.emit (.onAck a)) a svc c with he
    obtain ⟨es,hlog,hadds⟩ := adds_send_wrte uv e hf a
    have hq := quietly_send_frame uv e up
    have hsync : Adds (c.log.map (.sync a)) svc.id [] a 0 := by
      refine adds_silent (fun e he => ?_) svc.id a
      obtain ⟨_,_,rfl⟩ := List.mem_map.mp he
      rfl
    have hlog' : (sendFrame uv e up).log = d.log ++ ([.onAck a] ++ c.log.map (.sync a) ++ es) := by
      rw [hlog, he, syncDone, Daemon.emit]
      simp only [List.append_assoc]
    have htame : Tame svc { svc with kind := .sync c.svc } [.wrte svc.peerId up.p.payload] :=
      sync_tame (by rw [hk]; trivial) trivial rfl rfl
    exact ⟨⟨svc,s,c.svc,up.p.payload,hk,htame,((alive_iff _ _ _).mp ha).1,hq.heap,_,
      ⟨hlog',hq.nextServiceId,hq.fresh.ge⟩,((adds_ack svc.id a).append hsync).append hadds⟩,
      replies_send uv e up hw⟩

/-! A callback and one stream. -/

/-- What a callback ends with for the stream at a. -/
inductive Finish (cfg : Config) (fs : FileSystem ω) (uv : Uv ω) (d : Daemon ω) (i : Input) (a : ℕ)
    (s : Stream) : Stream → Prop
  | same (hb : ∀ bs, streamBytes cfg uv d i ≠ some (a,bs)) (hr : streamReturns d i ≠ some a) :
    Finish cfg fs uv d i a s s
  | fed (bs : List UInt8) (svc' : Service) (hb : streamBytes cfg uv d i = some (a,bs))
    (hr : streamReturns d i ≠ some a) (hf : Filled s.svc svc') :
    Finish cfg fs uv d i a s ⟨svc',s.frames ++ [.wrte s.svc.peerId bs],s.acks⟩
  | returned (writes : List ApacketUv) (hb : ∀ bs, streamBytes cfg uv d i ≠ some (a,bs))
    (hr : streamReturns d i = some a) (hk : s.svc.kind.Takes) :
    Finish cfg fs uv d i a s
      ⟨{ s.svc with stream := { s.svc.stream with writes := writes } },
        s.frames ++ [.okay s.svc.peerId],s.acks⟩
  | replied (hb : ∀ bs, streamBytes cfg uv d i ≠ some (a,bs)) (hr : streamReturns d i ≠ some a)
    (hs : streamReplies cfg fs uv d i = some a) (hk : s.svc.kind.IsSync) :
    Finish cfg fs uv d i a s ⟨s.svc,s.frames ++ [.okay s.svc.peerId],s.acks⟩
  | continued (afs afs' : AfsService) (payload : List UInt8)
    (hb : ∀ bs, streamBytes cfg uv d i ≠ some (a,bs)) (hr : streamReturns d i ≠ some a)
    (hk : s.svc.kind = .sync afs) :
    Finish cfg fs uv d i a s
      ⟨{ s.svc with kind := .sync afs' },s.frames ++ [.wrte s.svc.peerId payload],s.acks+1⟩

/-- The last move of a callback: one service acts, whose stream is at b. -/
theorem ActsAt.finish {i : Input} {x : Option ℕ × Daemon ω} {a b : ℕ} {svc svc' : Service}
    {fs' : List StreamFrame} {k : ℕ} {s' : Stream} (h : ActsAt b svc svc' fs' k x.2 d')
    (hs : Streams d) (hm : StepMoves cfg fs uv (none,d) x) (ha : streamAt a d' = some s')
    (hself : a = b → ∀ frames n,
      Finish cfg fs uv d i a ⟨svc,frames,n⟩ ⟨svc',frames ++ fs',n+k⟩)
    (hother : a ≠ b → Finish cfg fs uv d i a s' s') :
    ∃ s, StreamRuns a d s ∧ Finish cfg fs uv d i a s s' := by
  by_cases hab : a = b
  · subst hab
    obtain ⟨frames,n,hbefore,hafter⟩ := h.self (hm.streams hs)
    obtain rfl := Option.some.inj (ha.symm.trans hafter)
    exact ⟨_,hm.stream hs a hbefore,hself rfl frames n⟩
  · exact ⟨s',hm.stream hs a ((h.other (hm.streams hs) hab).symm.trans ha),hother hab⟩

/-- The stream that a callback leaves: acts of its service, and then what the callback ends with. -/
theorem step_stream (i : Input) (ht : d.crashed = false → Table d) (hs : Streams d) (a : ℕ)
    {s' : Stream} (ha : streamAt a (step cfg fs uv d i) = some s') :
    ∃ s, StreamRuns a d s ∧ Finish cfg fs uv d i a s s' := by
  have hnone {b : ℕ} {p : Option (ℕ × List UInt8)} (hp : p = none) (bs : List UInt8) :
      p ≠ some (b,bs) := by
    rw [hp]
    exact nofun
  have hnever {b : ℕ} {p : Option ℕ} (hp : p = none) : p ≠ some b := by
    rw [hp]
    exact nofun
  cases step_stepped cfg fs uv i ht with
  | moves hb hr hm => exact ⟨s',hm.stream hs a ha,.same (hnone hb) (hnever hr)⟩
  | fed b bs x hb hr hm hf =>
    obtain ⟨⟨svc,svc',hfill,hacts⟩,-⟩ := hf.acts
    refine hacts.finish hs hm ha (fun hab frames n => ?_) (fun hab => ?_)
    · subst hab
      exact .fed bs svc' hb (hnever hr) hfill
    · refine .same (fun bs' hb' => hab ?_) (hnever hr)
      exact (Prod.ext_iff.mp (Option.some.inj (hb'.symm.trans hb))).1
  | returned b hb hr h =>
    obtain ⟨⟨svc,writes,hk,hacts⟩,-⟩ := h.acts
    refine hacts.finish hs (StepMoves.refl (none,d)) ha (fun hab frames n => ?_) (fun hab => ?_)
    · subst hab
      exact .returned writes (hnone hb) hr hk
    · exact .same (hnone hb) (fun hr' => hab (Option.some.inj (hr'.symm.trans hr)))
  | replied b x hb hr hrep hm hf =>
    obtain ⟨svc,hk,hacts,-⟩ := hf.acts
    refine hacts.finish hs hm ha (fun hab frames n => ?_) (fun _ => .same (hnone hb) (hnever hr))
    subst hab
    exact .replied (hnone hb) (hnever hr) hrep hk
  | continued b x hb hr hm hf =>
    obtain ⟨⟨svc,afs,afs',payload,hk,hacts⟩,-⟩ := hf.acts
    refine hacts.finish hs hm ha (fun hab frames n => ?_) (fun _ => .same (hnone hb) (hnever hr))
    subst hab
    exact .continued afs afs' payload (hnone hb) (hnever hr) hk

theorem step_streams (cfg : Config) (fs : FileSystem ω) (uv : Uv ω) (i : Input)
    (ht : d.crashed = false → Table d) (hs : Streams d) :
    Streams (step cfg fs uv d i) := by
  have hold {d d' : Daemon ω} (hr : replies d' = replies d) :
      ∀ up ∈ replies d', up ∈ replies d ∨ ReplyOf d up := fun up hup => Or.inl (hr ▸ hup)
  cases step_stepped cfg fs uv i ht with
  | moves hb hr hm => exact hm.streams hs
  | fed b bs x hb hr hm hf =>
    obtain ⟨⟨svc,svc',hfill,hacts⟩,hrep⟩ := hf.acts
    exact (hm.streams hs).acts hacts (hold hrep)
  | returned b hb hr h =>
    obtain ⟨⟨svc,writes,hk,hacts⟩,hrep⟩ := h.acts
    exact hs.acts hacts (hold hrep)
  | replied b x hb hr hrep hm hf =>
    obtain ⟨svc,hk,hacts,hreplies⟩ := hf.acts
    refine (hm.streams hs).acts hacts (fun up hup => ?_)
    rcases hreplies with hreplies | ⟨up',harg0,harg1,hreplies⟩ <;> rw [hreplies] at hup
    · exact Or.inl hup
    · rcases List.mem_append.mp hup with hup | hup
      · exact Or.inl hup
      · obtain rfl := List.mem_singleton.mp hup
        exact Or.inr ⟨b,svc,hacts.before,hk,harg0,harg1⟩
  | continued b x hb hr hm hf =>
    obtain ⟨⟨svc,afs,afs',payload,hk,hacts⟩,hrep⟩ := hf.acts
    exact (hm.streams hs).acts hacts (hold hrep)

/-! What grows. -/

theorem Moved.log (h : Moved d d') : ∃ es, d'.log = d.log ++ es := by
  cases h with
  | still es hb _ _ => exact ⟨es,hb.log⟩
  | acts a svc svc' fs k _ hacts =>
    obtain ⟨es,hb,-⟩ := hacts.trace
    exact ⟨es,hb.log⟩
  | opened svc peerId params _ _ _ _ he => exact ⟨[.opened d.fresh params],he ▸ rfl⟩

theorem StepMoves.log {x y : Option ℕ × Daemon ω} (h : StepMoves cfg fs uv x y)
    (hs : Streams x.2) : ∃ es, y.2.log = x.2.log ++ es := by
  induction h with
  | refl => exact ⟨[],(List.append_nil _).symm⟩
  | tail hm hlast ih =>
    obtain ⟨es,hes⟩ := ih
    obtain ⟨es',hes'⟩ := (hlast.moved (StepMoves.streams hm hs).replies).log
    exact ⟨es ++ es',by rw [hes', hes, List.append_assoc]⟩

theorem ActsAt.grows {a b : ℕ} {svc svc' : Service} {fs' : List StreamFrame} {k : ℕ}
    {x : Option ℕ × Daemon ω} (h : ActsAt b svc svc' fs' k x.2 d') (hs : Streams d)
    (hm : StepMoves cfg fs uv (none,d) x) :
    (∃ es, d'.log = d.log ++ es) ∧ (streamAt a d' = none → streamAt a d = none) := by
  obtain ⟨es,hes⟩ := hm.log hs
  obtain ⟨es',hb,-⟩ := h.trace
  refine ⟨⟨es ++ es',by rw [hb.log, hes, List.append_assoc]⟩,fun hnone => hm.absent hs ?_⟩
  by_cases hab : a = b
  · subst hab
    obtain ⟨frames,n,-,hafter⟩ := h.self (hm.streams hs)
    rw [hafter] at hnone
    cases hnone
  · exact (h.other (hm.streams hs) hab).symm.trans hnone

/-- The trace grows, and no stream disappears. -/
theorem step_grows (cfg : Config) (fs : FileSystem ω) (uv : Uv ω) (i : Input)
    (ht : d.crashed = false → Table d) (hs : Streams d) (a : ℕ) :
    (∃ es, (step cfg fs uv d i).log = d.log ++ es) ∧
      (streamAt a (step cfg fs uv d i) = none → streamAt a d = none) := by
  cases step_stepped cfg fs uv i ht with
  | moves hb hr hm => exact ⟨hm.log hs,hm.absent hs⟩
  | fed b bs x hb hr hm hf =>
    obtain ⟨⟨svc,svc',hfill,hacts⟩,-⟩ := hf.acts
    exact hacts.grows hs hm
  | returned b hb hr h =>
    obtain ⟨⟨svc,writes,hk,hacts⟩,-⟩ := h.acts
    exact hacts.grows hs (StepMoves.refl (none,d) : StepMoves cfg fs uv _ _)
  | replied b x hb hr hrep hm hf =>
    obtain ⟨svc,hk,hacts,-⟩ := hf.acts
    exact hacts.grows hs hm
  | continued b x hb hr hm hf =>
    obtain ⟨⟨svc,afs,afs',payload,hk,hacts⟩,-⟩ := hf.acts
    exact hacts.grows hs hm

/-- What holds of the streams in every run. -/
structure Flowing (cfg : Config) (uv : Uv ω) (d : Daemon ω) : Prop where
  sound : Sound cfg uv [] d
  streams : Streams d

theorem Flowing.table (h : Flowing cfg uv d) (hc : d.crashed = false) : Table d :=
  (h.sound.running hc).1

theorem flowing_start (cfg : Config) (uv : Uv ω) (token : List UInt8) (os : ω) :
    Flowing cfg uv (daemonStart token os) := ⟨sound_start token os,streams_start token os⟩

theorem Flowing.step (h : Flowing cfg uv d) (i : Input) :
    Flowing cfg uv (MicroADB.step cfg fs uv d i) :=
  ⟨sound_callback i h.sound,step_streams _ _ _ i h.table h.streams⟩

theorem flowing_run (cfg : Config) (fs : FileSystem ω) (uv : Uv ω) (token : List UInt8) (os : ω)
    (is : List Input) : Flowing cfg uv (daemonRun cfg fs uv token os is) :=
  run_invariant _ (Flowing cfg uv) (fun _ i h => h.step i) _ (flowing_start cfg uv token os) is

end MicroADB
