import MicroADB.FileSyncReading

/-! The replies to a packet, one behind the other. A condition on where each of them lies is put to
the bytes of the packet and to what the service has read before it, for all that the file system can
answer. Where a reply goes over unread bytes these are not known any more. -/
namespace MicroADB
open ByteMemory EventRun

/-- v is u with anything in its first k bytes. -/
def Overwritten (k : ℕ) (u v : List UInt8) : Prop := v.length = u.length ∧ v.drop k = u.drop k

section
variable (cfg : Config) (reason : ℕ) (C : ℕ → ℕ → ℕ → Reply → Prop)

/-- C holds of each reply in n iterations: of the bytes written before it, the bytes taken from the
packet and those that are unread once it is there, and the reply. -/
def EachReply : ℕ → ℕ → ℕ → List UInt8 → Reading → Prop
  | 0, _, _, _, _ => True
  | n+1, written, taken, unread, r =>
    let t := r.step cfg reason unread
    unread ≠ [] → ∀ o ∈ t.exits,
      match o.reply with
      | none => EachReply n written (taken+t.bytes) (unread.drop t.bytes) o.next
      | some q => C written (taken+t.bytes) (unread.drop t.bytes).length q ∧
          ∀ v, Overwritten (written+q.length-(taken+t.bytes)) (unread.drop t.bytes) v →
            EachReply n (written+q.length) (taken+t.bytes) v o.next

/-- The same where no reply goes over unread bytes, which can be computed. -/
def eachReplyBehind [∀ w t u q, Decidable (C w t u q)] :
    ℕ → ℕ → ℕ → List UInt8 → Reading → Bool
  | 0, _, _, _, _ => true
  | n+1, written, taken, unread, r =>
    let t := r.step cfg reason unread
    unread.isEmpty || t.exits.all fun o =>
      match o.reply with
      | none => eachReplyBehind n written (taken+t.bytes) (unread.drop t.bytes) o.next
      | some q => decide (C written (taken+t.bytes) (unread.drop t.bytes).length q) &&
          ((unread.drop t.bytes).isEmpty || decide (written+q.length ≤ taken+t.bytes) &&
            eachReplyBehind n (written+q.length) (taken+t.bytes) (unread.drop t.bytes) o.next)

end

variable {ω : Type} {cfg : Config} {fs : FileSystem ω} {reason : ℕ}
  {C : ℕ → ℕ → ℕ → Reply → Prop}

theorem each_reply_nil (n w t : ℕ) (r : Reading) : EachReply cfg reason C n w t [] r := by
  cases n with
  | zero => trivial
  | succ n => exact fun h => absurd rfl h

theorem each_reply_of_behind [∀ w t u q, Decidable (C w t u q)] (n w t : ℕ) (u : List UInt8)
    (r : Reading) (h : eachReplyBehind cfg reason C n w t u r = true) :
    EachReply cfg reason C n w t u r := by
  induction n generalizing w t u r with
  | zero => trivial
  | succ n ih =>
    intro hne o ho
    rw [eachReplyBehind, Bool.or_eq_true, List.isEmpty_iff] at h
    have ho' := List.all_eq_true.mp (h.resolve_left hne) o ho
    revert ho'
    cases o.reply with
    | none => exact ih _ _ _ _
    | some q =>
      intro ho'
      rw [Bool.and_eq_true, decide_eq_true_eq, Bool.or_eq_true, Bool.and_eq_true,
        decide_eq_true_eq, List.isEmpty_iff] at ho'
      refine ⟨ho'.1,fun v hv => ?_⟩
      rcases ho'.2 with hnil | ⟨hle,hrest⟩
      · have hv0 : v = [] := by
          rw [← List.length_eq_zero_iff, hv.1, hnil]
          rfl
        rw [hv0]
        exact each_reply_nil _ _ _ _
      · have hv0 := hv.2
        rw [Nat.sub_eq_zero_of_le hle, List.drop_zero, List.drop_zero] at hv0
        rw [hv0]
        exact ih _ _ _ _ hrest

/-! A request in a packet of its own. -/

/-- No reply has a longer fixed part than DENT and DONE. -/
theorem fixed_le (r : Reading) (u : List UInt8) :
    ∀ o ∈ (r.step cfg reason u).exits, ∀ q ∈ o.reply, q.fixed ≤ sizeofDent := by
  have hgo (next : Reading) : ∀ q ∈ (Exit.go next).reply, q.fixed ≤ sizeofDent := nofun
  have hended (f e : ℕ) (hf : f ≤ sizeofDent) :
      ∀ q ∈ (Exit.ended f e).reply, q.fixed ≤ sizeofDent := by
    rintro q ⟨⟩
    exact hf
  have hstreams (f : ℕ) (hf : f ≤ sizeofDent) :
      ∀ q ∈ (Exit.streams cfg f).reply, q.fixed ≤ sizeofDent := by
    rintro q ⟨⟩
    exact hf
  have hstat : sizeofStat ≤ sizeofDent := by decide
  have hdata : sizeofData ≤ sizeofDent := by decide
  have hstatus : sizeofStatus ≤ sizeofDent := by decide
  have hfailed (text : String) : ∀ q ∈ (Exit.failed text).reply, q.fixed ≤ sizeofDent :=
    hended _ _ hdata
  intro o ho
  cases r <;> simp only [Reading.step, collect] at ho <;>
    grind [headerExits, requestExits, recordExits, chunkExits, targetExits]

/-- Whatever is completed by the last bytes of the packet, its reply is the first in it. -/
theorem each_reply_last (hC : ∀ t q, q.fixed ≤ sizeofDent → C 0 t 0 q) (n t : ℕ) (u : List UInt8)
    (r : Reading) (h : u.length ≤ (r.step cfg reason u).bytes) :
    EachReply cfg reason C n 0 t u r := by
  cases n with
  | zero => trivial
  | succ n =>
    intro _ o ho
    have hfixed := fixed_le r u o ho
    have hnil : u.drop (r.step cfg reason u).bytes = [] := List.drop_eq_nil_of_le h
    revert hfixed
    cases o.reply with
    | none =>
      intro _
      dsimp only
      rw [hnil]
      exact each_reply_nil _ _ _ _
    | some q =>
      intro hfixed
      dsimp only
      rw [hnil]
      refine ⟨hC _ q (hfixed q rfl),fun v hv => ?_⟩
      rw [List.length_eq_zero_iff.mp hv.1]
      exact each_reply_nil _ _ _ _

/-- A request that has a packet to itself. -/
theorem each_reply_alone (hC : ∀ t q, q.fixed ≤ sizeofDent → C 0 t 0 q) (n id : ℕ)
    (name : List UInt8) (hlen : name.length < 2^32) :
    EachReply cfg reason C n 0 0 (syncRequest id name) (.header []) := by
  cases n with
  | zero => trivial
  | succ n =>
    have hsize : sizeofReq ≤ (syncRequest id name).length := by
      simp only [syncRequest, List.length_append, length_le32, sizeofReq]
      omega
    have hheader : (syncRequest id name).take sizeofReq = le32 id ++ le32 name.length := by
      rw [syncRequest]
      exact List.take_left' rfl
    have hname : (syncRequest id name).drop sizeofReq = name := by
      rw [syncRequest]
      exact List.drop_left' rfl
    have hword : ofLe32 ((le32 id ++ le32 name.length).drop 4) = name.length := by
      rw [List.drop_left' (length_le32 id), ofLe32_le32, u32_of_lt _ hlen]
    have hstep : (Reading.header []).step cfg reason (syncRequest id name) =
        ⟨sizeofReq,headerExits cfg (le32 id ++ le32 name.length)⟩ := by
      rw [Reading.step, collect, List.length_nil, Nat.sub_zero, if_neg (not_lt.mpr hsize), hheader]
      rfl
    intro _ o ho
    rw [hstep] at ho ⊢
    dsimp only at ho ⊢
    unfold headerExits at ho
    split at ho
    · cases ho
    · obtain rfl := List.mem_singleton.mp ho
      rw [hname, hword]
      change EachReply cfg reason C n 0 _ name (.name _ name.length [])
      apply each_reply_last hC
      rw [Reading.step, collect, List.length_nil, Nat.sub_zero, if_neg (lt_irrefl _)]
/-! Runs of the loop. -/

/-- The reply q lies behind those in c, where C allows it. -/
structure Placed (cfg : Config) (C : ℕ → ℕ → ℕ → Reply → Prop) (c d : SyncCtx ω) (q : Reply) :
    Prop where
  answers : Answers cfg c d (some q.fixed)
  length : c.p.writeLen+q.fixed ≤ cfg.payloadSize → d.p.writeLen ≤ c.p.writeLen+q.length
  place : C c.p.writeLen d.svc.packetPtr d.p.msg.dataLength q

/-- What is stored behind the first j unread bytes is still there. -/
theorem rest_drop {c d : SyncCtx ω} {k : ℕ} (j : ℕ) (hk : Consumed c d k)
    (hdata : ∀ i, c.svc.packetPtr+k+j ≤ i → d.p.data i = c.p.data i) :
    d.rest.drop j = (c.rest.drop k).drop j := by
  have hlen := congrArg Amessage.dataLength hk.msg
  have hptr := hk.packetPtr
  have hle := hk.le
  dsimp only at hlen
  apply List.ext_getElem
  · simp only [List.length_drop, length_rest]
    omega
  · intro i hi hi'
    rw [List.getElem_drop, List.getElem_drop, List.getElem_drop]
    unfold SyncCtx.rest SyncCtx.peek
    rw [getElem_slice, getElem_slice, hdata _ (by omega)]
    congr 1
    omega

theorem sync_iters_stop (n : ℕ) (r : ℤ × SyncCtx ω) (h : r.2.p.msg.dataLength = 0 ∨ r.1 < 0) :
    syncIters cfg fs n r = [] := by
  cases n with
  | zero => rfl
  | succ n => exact if_neg (by omega)

/-- Every reply that the loop puts in the packet lies where C allows it. -/
theorem each_reply_iters (hreason : ∀ e, min (fs.strerror e).length cfg.payloadSize ≤ reason)
    (hmono : ∀ w w' t u q, w ≤ w' → C w' t u q → C w t u q)
    (hroom : ∀ w t u q, C w t u q → 0 < u → w+q.fixed ≤ cfg.payloadSize)
    (n : ℕ) (r : ℤ × SyncCtx ω) (w : ℕ) (hwf : r.2.svc.Wf cfg) (hwl : r.2.p.writeLen ≤ w)
    (hP : r.2.p.writeLen ≤ cfg.payloadSize)
    (h : EachReply cfg reason C n w r.2.svc.packetPtr r.2.rest r.2.svc.reading) :
    ∀ c ∈ syncIters cfg fs n r, Quiet c (syncIter cfg fs c).2 ∨
      ∃ q, Placed cfg C c (syncIter cfg fs c).2 q := by
  induction n generalizing r w with
  | zero => simp [syncIters]
  | succ n ih =>
    rw [syncIters]
    split
    · rename_i hgo
      rw [List.forall_mem_cons]
      have hne : r.2.rest ≠ [] := by
        rw [ne_eq, rest_eq_nil_iff]
        omega
      have hwf' := (wf_invariant cfg fs).iter r.2 hwf
      -- the iteration comes to one of the exits, or the service fails and the loop ends
      rcases sync_iter_exits hreason hwf hP with ⟨o,ho,hmet⟩ | ⟨hneg,hquiet⟩
      · have hafter := h hne o ho
        have hnext := sync_iter_reading hmet
        obtain ⟨-,hk,hans,hlength,-⟩ := hmet
        set d := (syncIter cfg fs r.2).2 with hd
        have hptr := hk.packetPtr
        have hrest : (r.2.rest.drop (r.2.svc.reading.step cfg reason r.2.rest).bytes).length =
            d.p.msg.dataLength := by
          rw [List.length_drop, length_rest, hk.msg]
        rw [← hptr, ← hnext] at hafter
        revert hafter hans hlength
        cases o.reply with
        | none =>
          -- without a reply the bytes behind those that were taken are the same
          intro hafter hans _
          have hquiet : Quiet r.2 d := hans
          refine ⟨Or.inl hquiet,ih (syncIter cfg fs r.2) w hwf' ?_ ?_ ?_⟩
          · rw [hquiet.writeLen]
            exact hwl
          · rw [hquiet.writeLen]
            exact hP
          · have hsame := rest_drop 0 hk (fun i _ => by rw [hquiet.data])
            rw [List.drop_zero, List.drop_zero] at hsame
            rw [hsame]
            exact hafter
        | some q =>
          intro hafter hans hlength
          have hans' : Answers cfg r.2 d (some q.fixed) := hans
          have hlength' := hlength q rfl
          obtain ⟨hplace,hafter⟩ := hafter
          rw [hrest] at hplace
          refine ⟨Or.inr ⟨q,hans',hlength',hmono _ _ _ _ _ hwl hplace⟩,?_⟩
          -- nothing is asked of what follows the last bytes
          by_cases hend : d.p.msg.dataLength = 0
          · rw [sync_iters_stop n _ (Or.inl hend)]
            simp
          · have hfit := hroom _ _ _ _ hplace (by omega)
            have hwritten := hlength' (by omega)
            obtain ⟨m,hm⟩ := hans'
            obtain ⟨hle,hend,-⟩ := hm.fits (by omega)
            have hwl' : d.p.writeLen ≤ w+q.length := by omega
            have hP' : d.p.writeLen ≤ cfg.payloadSize := by omega
            -- the bytes that the reply went over are some of those that were allowed for
            refine ih (syncIter cfg fs r.2) (w+q.length) hwf' hwl' hP' ?_
            refine hafter d.rest ⟨?_,?_⟩
            · rw [length_rest, hrest]
            · exact rest_drop _ hk (fun i hi => hm.data i (Or.inr (by omega)))
      · refine ⟨Or.inl hquiet,?_⟩
        rw [sync_iters_stop n _ (Or.inr hneg)]
        simp
    · simp

/-- What an iteration keeps holds behind every one. -/
theorem sync_iters_forall (Q : SyncCtx ω → Prop) (n : ℕ) (r : ℤ × SyncCtx ω) (h0 : Q r.2)
    (h : ∀ c ∈ syncIters cfg fs n r, 0 < c.p.msg.dataLength → Q c → Q (syncIter cfg fs c).2) :
    ∀ c ∈ syncIters cfg fs n r, Q (syncIter cfg fs c).2 := by
  induction n generalizing r with
  | zero => simp [syncIters]
  | succ n ih =>
    rw [syncIters] at h ⊢
    split
    · rename_i hgo
      rw [if_pos hgo, List.forall_mem_cons] at h
      rw [List.forall_mem_cons]
      have hone := h.1 hgo.1 h0
      exact ⟨hone,ih _ hone h.2⟩
    · simp

end MicroADB
