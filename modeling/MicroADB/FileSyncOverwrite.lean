import MicroADB.FileSyncData
import MicroADB.FileSyncReplies

/-! Requests are read from the packet in which the replies are written. That no reply reaches a
request that is still to come can be told from the bytes of the packet: each request has to take as
many as its reply. Where the payload is of the usual size, running the requests on the payload as
it was received tells it exactly. -/
namespace MicroADB
open ByteMemory EventRun

variable {ω : Type} (cfg : Config) (fs : FileSystem ω)

/-- The replies end before the unread bytes, and these are still those of d0. -/
structure Untouched (d0 : Mem) (c : SyncCtx ω) : Prop where
  behind : 0 < c.p.msg.dataLength → c.p.writeLen ≤ c.svc.packetPtr
  unread : c.Unread d0

/-- No reply to the frame overwrites request bytes that are still to be consumed. -/
def RequestsIntact (s : SyncRun ω) : SyncInput cfg → Prop
  | .write f => s.closed = false →
    (∀ c ∈ writeIters cfg fs (s.ctx f.packet), Untouched f.data (syncIter cfg fs c).2) ∧
      Untouched f.data (fileSyncOnWrite cfg fs (s.ctx f.packet)).2
  | _ => True

/-- The iterations on the payload as it was received: it is put back before each of them. -/
def receivedIters (d0 : Mem) : ℕ → ℤ × SyncCtx ω → List (SyncCtx ω)
  | 0, _ => []
  | n+1, r =>
    if 0 < r.2.p.msg.dataLength ∧ 0 ≤ r.1 then
      r.2.withData d0 :: receivedIters d0 n (syncIter cfg fs (r.2.withData d0))
    else []

/-- As long as bytes remain, the replies to the requests received are together no longer
than what these requests took from the packet. -/
def RepliesCovered (s : SyncRun ω) : SyncInput cfg → Prop
  | .write f => s.closed = false →
    ∀ c ∈ receivedIters cfg fs f.data (4*f.msg.dataLength) (0, (s.ctx f.packet).rewind),
      0 < (syncIter cfg fs c).2.p.msg.dataLength →
        (syncIter cfg fs c).2.p.writeLen ≤ (syncIter cfg fs c).2.svc.packetPtr
  | _ => True

theorem untouched_packet (s : SyncRun ω) (f : SyncFrame cfg) :
    Untouched f.data (s.ctx f.packet).rewind := ⟨fun _ => Nat.zero_le _,fun _ _ _ => rfl⟩

/-- An iteration only goes forward in the packet, and the unread bytes end where they did. -/
theorem sync_iter_forward (c : SyncCtx ω) (hd : 0 < c.p.msg.dataLength) :
    c.svc.packetPtr ≤ (syncIter cfg fs c).2.svc.packetPtr ∧
      (syncIter cfg fs c).2.svc.packetPtr+(syncIter cfg fs c).2.p.msg.dataLength =
        c.svc.packetPtr+c.p.msg.dataLength := by
  obtain ⟨k,hk,-⟩ := sync_iter_consumed cfg fs c hd
  have hle := hk.le
  rw [hk.packetPtr, hk.msg]
  dsimp only
  constructor <;> omega

theorem untouched_of_quiet (d0 : Mem) (c : SyncCtx ω) (hd : 0 < c.p.msg.dataLength)
    (hc : Untouched d0 c) (hq : Quiet c (syncIter cfg fs c).2) :
    Untouched d0 (syncIter cfg fs c).2 := by
  obtain ⟨hptr,hlen⟩ := sync_iter_forward cfg fs c hd
  have hw := hc.behind hd
  refine ⟨fun _ => ?_,fun i hi hlt => ?_⟩
  · rw [hq.writeLen]
    omega
  · rw [hq.data]
    exact hc.unread i (by omega) (by omega)

/-- An iteration that keeps behind the unread bytes leaves them as they are. -/
theorem untouched_iter (d0 : Mem) (c : SyncCtx ω) (hwf : c.svc.Wf cfg) (hc : Untouched d0 c)
    (hd : 0 < c.p.msg.dataLength) (hle : c.svc.packetPtr+c.p.msg.dataLength ≤ cfg.payloadSize)
    (hbehind : 0 < (syncIter cfg fs c).2.p.msg.dataLength →
      (syncIter cfg fs c).2.p.writeLen ≤ (syncIter cfg fs c).2.svc.packetPtr) :
    Untouched d0 (syncIter cfg fs c).2 := by
  have hw := hc.behind hd
  have hans := sync_iter_answers cfg fs c hwf (by omega)
  obtain ⟨hptr,hlen⟩ := sync_iter_forward cfg fs c hd
  cases hhead : replyHead cfg fs c with
  | none =>
    rw [hhead] at hans
    exact untouched_of_quiet cfg fs d0 c hd hc hans
  | some h =>
    rw [hhead] at hans
    obtain ⟨n,hn⟩ := hans
    refine ⟨hbehind,fun i hi hlt => ?_⟩
    have hwl := hbehind (by omega)
    -- a reply without room ends at the end of the packet, behind which nothing is unread
    have hfit : c.p.writeLen+h ≤ cfg.payloadSize := by
      by_contra hlt
      have htight := (hn.tight (by omega)).1
      omega
    obtain ⟨-,hend,-⟩ := hn.fits hfit
    rw [hn.data i (Or.inr (by omega))]
    exact hc.unread i (by omega) (by omega)

/-- As long as nothing was overwritten the two runs of the loop are in step. -/
theorem sync_iters_untouched_iff (d0 : Mem) (n : ℕ) (r r' : ℤ × SyncCtx ω)
    (hsame : SameRun r r') (hwf : r.2.svc.Wf cfg) (hr : Untouched d0 r.2)
    (hle : r.2.svc.packetPtr+r.2.p.msg.dataLength ≤ cfg.payloadSize) :
    (∀ c ∈ syncIters cfg fs n r, Untouched d0 (syncIter cfg fs c).2) ↔
      ∀ c ∈ receivedIters cfg fs d0 n r', 0 < (syncIter cfg fs c).2.p.msg.dataLength →
        (syncIter cfg fs c).2.p.writeLen ≤ (syncIter cfg fs c).2.svc.packetPtr := by
  induction n generalizing r r' with
  | zero => simp [syncIters, receivedIters]
  | succ n ih =>
    obtain ⟨hret,hctx⟩ := hsame
    have hmsg : r'.2.p.msg = r.2.p.msg := hctx.msg
    rw [syncIters, receivedIters, hret, hmsg]
    split
    · rename_i hgo
      have hd0 : r'.2.withData d0 = r.2.withData d0 := by
        rw [with_data_of_same _ _ hctx]
        rfl
      have hiter := sync_iter_blind cfg fs r.2 d0 hr.unread
      have hnext := hiter.2
      obtain ⟨hptr,hlen⟩ := sync_iter_forward cfg fs r.2 hgo.1
      have hrec := ih (syncIter cfg fs r.2) (syncIter cfg fs (r.2.withData d0)) hiter
        ((wf_invariant cfg fs).iter r.2 hwf)
      rw [List.forall_mem_cons, List.forall_mem_cons, hd0, hnext.msg, hnext.writeLen, hnext.svc]
      constructor
      · rintro ⟨h,ht⟩
        exact ⟨h.behind,(hrec h (by omega)).mp ht⟩
      · rintro ⟨h,ht⟩
        have hu := untouched_iter cfg fs d0 r.2 hwf hr hgo.1 hle h
        exact ⟨hu,(hrec hu (by omega)).mpr ht⟩
    · simp

/-- In every run the unread bytes of each packet stay as they were sent exactly when the
replies to what came before them are covered by its bytes. -/
theorem requests_intact_iff (raw : AfsService) (os : ω) (is : List (SyncInput cfg))
    (hlen : ∀ f, .write f ∈ is → f.msg.dataLength ≤ cfg.payloadSize) :
    Along (syncStep cfg fs) (RequestsIntact cfg fs) (syncStart raw os) is ↔
      Along (syncStep cfg fs) (RepliesCovered cfg fs) (syncStart raw os) is := by
  refine along_iff_of_invariant (syncStep cfg fs) (fun s => s.svc.Wf cfg) _ _
    (fun s i hs _ => (wf_invariant cfg fs).step s i hs) (syncStart raw os) (wf_start cfg raw) is
    (fun s i hi hs => ?_)
  cases i with
  | close => exact Iff.rfl
  | ack f => exact Iff.rfl
  | write f =>
    have h0 := untouched_packet cfg s f
    have hle : (s.ctx f.packet).rewind.svc.packetPtr+(s.ctx f.packet).rewind.p.msg.dataLength ≤
        cfg.payloadSize := by
      change 0+f.msg.dataLength ≤ _
      have hf := hlen f hi
      omega
    have hiff := sync_iters_untouched_iff cfg fs f.data (4*f.msg.dataLength)
      (0, (s.ctx f.packet).rewind) (0, (s.ctx f.packet).rewind)
      ⟨rfl,rfl,rfl,rfl,rfl,rfl⟩ hs h0 hle
    constructor
    · intro h hopen
      exact hiff.mp (h hopen).1
    · intro h hopen
      have hall := hiff.mpr (h hopen)
      exact ⟨hall,sync_loop_of_iters cfg fs (Untouched f.data) _ _ h0 hall⟩

/-! What the bytes tell. -/

/-- A reply in front of unread bytes fits into the packet and ends before them. -/
def Covered (written taken unread : ℕ) (q : Reply) : Prop :=
  unread = 0 ∨ written+q.fixed ≤ cfg.payloadSize ∧ written+q.length ≤ taken

instance (w t u : ℕ) (q : Reply) : Decidable (Covered cfg w t u q) :=
  inferInstanceAs (Decidable (_ ∨ _ ∧ _))

/-- As long as bytes of the packet remain, the requests completed so far have taken as many from
it as their replies are long at most, whatever the file system answers. -/
def RequestsCover (reason : ℕ) (s : SyncRun ω) : SyncInput cfg → Prop
  | .write f => s.closed = false →
    EachReply cfg reason (Covered cfg) (4*f.msg.dataLength) 0 0 f.bytes s.svc.reading
  | _ => True

/-- Behind a request that has a packet to itself nothing is unread. -/
theorem request_alone_covers (reason : ℕ) (s : SyncRun ω) (hs : s.svc.reading = .header [])
    (f : SyncFrame cfg) (id : ℕ) (name : List UInt8) (hlen : name.length < 2^32)
    (hf : f.bytes = syncRequest id name) : RequestsCover cfg reason s (.write f) := by
  intro _
  rw [hs, hf]
  exact each_reply_alone (fun _ _ _ => Or.inl rfl) _ id name hlen

/-- A covered reply leaves the unread bytes as they are. -/
theorem untouched_of_placed (d0 : Mem) (c : SyncCtx ω) (q : Reply)
    (hd : 0 < c.p.msg.dataLength) (hc : Untouched d0 c)
    (hq : Placed cfg (Covered cfg) c (syncIter cfg fs c).2 q) :
    Untouched d0 (syncIter cfg fs c).2 := by
  obtain ⟨hptr,hlen⟩ := sync_iter_forward cfg fs c hd
  rcases hq.place with hend | ⟨hfit,hle⟩
  · exact ⟨fun h => by omega,fun i _ _ => by omega⟩
  · have hwritten := hq.length hfit
    obtain ⟨n,hn⟩ := hq.answers
    obtain ⟨-,hend,-⟩ := hn.fits hfit
    refine ⟨fun _ => by omega,fun i hi hlt => ?_⟩
    rw [hn.data i (Or.inr (by omega))]
    exact hc.unread i (by omega) (by omega)

/-- In every run in which the requests of each packet cover their replies, the unread bytes of each
packet stay as they were sent. -/
theorem requests_intact (reason : ℕ)
    (hreason : ∀ e, min (fs.strerror e).length cfg.payloadSize ≤ reason) (raw : AfsService) (os : ω) (is : List (SyncInput cfg))
    (h : Along (syncStep cfg fs) (RequestsCover cfg reason) (syncStart raw os) is) :
    Along (syncStep cfg fs) (RequestsIntact cfg fs) (syncStart raw os) is := by
  refine along_of_invariant (syncStep cfg fs) (fun s => s.svc.Wf cfg) (RequestsCover cfg reason) _
    (fun s i hs _ => (wf_invariant cfg fs).step s i hs) (fun s i hs hi => ?_)
    (syncStart raw os) (wf_start cfg raw) is h
  cases i with
  | close => trivial
  | ack f => trivial
  | write f =>
    intro hopen
    have h0 := untouched_packet cfg s f
    have hplaced := each_reply_iters hreason (C := Covered cfg)
      (fun w w' t u q hw hq => hq.imp id (fun hq => ⟨by omega,by omega⟩))
      (fun w t u q hq hu => (hq.resolve_left (by omega)).1)
      (4*f.msg.dataLength) (0, (s.ctx f.packet).rewind) 0 hs le_rfl (Nat.zero_le _) (hi hopen)
    have hall := sync_iters_forall (Untouched f.data) _ _ h0 (fun c hc hd hun => by
      rcases hplaced c hc with hquiet | ⟨q,hq⟩
      · exact untouched_of_quiet cfg fs f.data c hd hun hquiet
      · exact untouched_of_placed cfg fs f.data c q hd hun hq)
    exact ⟨hall,sync_loop_of_iters cfg fs (Untouched f.data) _ _ h0 hall⟩

/-- Two STAT requests of sixteen bytes, as long as their replies. -/
theorem stats_intact :
    Along (syncStep readmeConfig emptyFs) (RequestsIntact readmeConfig emptyFs)
      (syncStart default ()) [.write (.ofBytes readmeConfig
        (syncRequest idStat (ascii "/aaaaaaa") ++ syncRequest idStat (ascii "/aaaaaaa"))
        (by decide))] := by
  have hreason : (ascii "No such file or directory").length ≤ 25 := by decide
  apply requests_intact readmeConfig emptyFs 25
    (fun _ => (min_le_left _ _).trans hreason) default ()
  refine ⟨fun _ => each_reply_of_behind _ _ _ _ _ ?_,trivial⟩
  decide +kernel

/-- Two STAT requests of nine bytes: the reply to the first takes sixteen. -/
theorem short_stats_overwritten :
    ¬Along (syncStep readmeConfig emptyFs) (RequestsIntact readmeConfig emptyFs)
      (syncStart default ()) [.write (.ofBytes readmeConfig
        (syncRequest idStat (ascii "/") ++ syncRequest idStat (ascii "/")) (by decide))] := by
  intro h
  have hbehind := fun c hc => ((h.1 rfl).1 c hc).behind
  revert hbehind
  decide +kernel

end MicroADB
