import MicroADB.FileSyncWf

/-! The buffer of a file sync service. Headers, names and symlink targets are collected in it, as
many bytes at a time as the packets bring, and size counts them. -/
namespace MicroADB
open ByteMemory EventRun

/-- How many bytes read_from_packet is to collect in each state. File data does not go through the
buffer. -/
def AfsService.wanted (cfg : Config) (s : AfsService) : Option ℕ :=
  match s.state with
  | .waitCmd => some sizeofReq
  | .waitCmdData => some s.namelen
  | .processSendFileHdr | .processSendSymHdr => some sizeofData
  | .processSendSymData => if cfg.fileSymlink then some s.namelen else none
  | .processSendFileData | .processRecv | .processList => none

/-- How far the buffer is filled in each state. -/
structure AfsService.Filled (cfg : Config) (s : AfsService) : Prop where
  header : s.state = .waitCmd ∨ s.state = .processSendFileHdr ∨ s.state = .processSendSymHdr →
    s.size < 8
  name : s.state = .waitCmdData →
    s.namelen < cfg.pathMax ∧ (s.size < s.namelen ∨ s.size = 0 ∧ s.namelen = 0)
  target : s.state = .processSendSymData → s.size < s.namelen ∨ s.size = 0
  other : s.state = .processRecv ∨ s.state = .processList ∨ s.state = .processSendFileData →
    s.size = 0

theorem AfsService.Wf.filled {cfg : Config} {s : AfsService} (h : s.Wf cfg) : s.Filled cfg := by
  unfold AfsService.Wf at h
  constructor
  · rintro (hs | hs | hs) <;> rw [hs] at h
    · exact h
    · exact h.1
    · exact h
  · intro hs
    rw [hs] at h
    exact ⟨h.1,h.2.2⟩
  · intro hs
    rw [hs] at h
    exact h
  · rintro (hs | hs | hs) <;> rw [hs] at h
    · exact h.1
    · exact h.1
    · exact h.1

variable {ω : Type} (cfg : Config) (fs : FileSystem ω)

/-! What the handlers do with the buffer behind a read. -/

/-- A handler that leaves the count alone, and the memory behind the buffer. -/
structure Within (c c' : SyncCtx ω) : Prop where
  size : c'.svc.size = c.svc.size
  outside : ∀ i, cfg.pathMax ≤ i → c'.svc.buff i = c.svc.buff i

variable {cfg}

theorem Within.refl (c : SyncCtx ω) : Within cfg c c := ⟨rfl,fun _ _ => rfl⟩

theorem Within.trans {c c' c'' : SyncCtx ω} (h : Within cfg c c') (h' : Within cfg c' c'') :
    Within cfg c c'' :=
  ⟨h'.size.trans h.size,fun i hi => (h'.outside i hi).trans (h.outside i hi)⟩

/-- The handlers that change neither. -/
theorem Within.of_same {c c' : SyncCtx ω} (hsize : c'.svc.size = c.svc.size)
    (hbuff : c'.svc.buff = c.svc.buff) : Within cfg c c' :=
  ⟨hsize,fun i _ => congrFun hbuff i⟩

/-- A NUL in the buffer. -/
theorem within_terminate (c : SyncCtx ω) (j : ℕ) (hj : j < cfg.pathMax) :
    Within cfg c (c.setBuff (store c.svc.buff j [0])) := by
  refine ⟨rfl,fun i hi => ?_⟩
  apply store_apply_of_ge
  change j+1 ≤ i
  omega

variable (cfg)

theorem within_process_recv (c : SyncCtx ω) : Within cfg c (stateProcessRecv cfg fs c).2 := by
  unfold stateProcessRecv
  dsimp only
  split
  · exact .of_same rfl rfl
  · split <;> exact .of_same rfl rfl

theorem within_process_list (c : SyncCtx ω) : Within cfg c (stateProcessList cfg fs c).2 := by
  unfold stateProcessList
  dsimp only
  split
  · exact .of_same (by simp) (by simp)
  · rename_i name _
    obtain ⟨-,-,hsvc⟩ := stat_entry_keeps cfg fs (sysReaddir fs c c.svc.u.d).2 name
    rcases hsvc with hsvc | ⟨text,hsvc⟩
    · exact .of_same (by simp [hsvc]) (by simp [hsvc])
    · exact .of_same (by simp [hsvc]) (by simp [hsvc])

theorem within_init_stat (c : SyncCtx ω) : Within cfg c (stateInitStat cfg fs c).2 := by
  unfold stateInitStat
  dsimp only
  split <;> exact .of_same rfl rfl

theorem within_init_list (c : SyncCtx ω) : Within cfg c (stateInitList cfg fs c).2 := by
  unfold stateInitList
  dsimp only
  split
  · exact .of_same rfl rfl
  · split
    · exact .of_same rfl rfl
    · split
      · exact .of_same rfl rfl
      · refine Within.trans ?_ (within_process_list cfg fs _)
        exact .of_same rfl rfl

theorem within_init_recv (c : SyncCtx ω) : Within cfg c (stateInitRecv cfg fs c).2 := by
  unfold stateInitRecv
  dsimp only
  split
  · exact .of_same rfl rfl
  · refine Within.trans ?_ (within_process_recv cfg fs _)
    exact .of_same rfl rfl

theorem within_init_send_path (c : SyncCtx ω) (mode : ℕ) (isLink : Bool) :
    Within cfg c (stateInitSendPath cfg fs c mode isLink).2 := by
  have hsvc := create_path_directories_svc cfg fs (sysUnlink fs c (c.name cfg))
  rw [sys_unlink_svc] at hsvc
  have hdirs : Within cfg c (createPathDirectories cfg fs (sysUnlink fs c (c.name cfg))).2 :=
    .of_same (congrArg AfsService.size hsvc) (congrArg AfsService.buff hsvc)
  have hlink (d : SyncCtx ω) : Within cfg d (stateInitSendLink cfg fs d).2 := by
    unfold stateInitSendLink
    dsimp only
    split
    · exact .of_same rfl rfl
    · split <;> exact .of_same rfl rfl
  have hfile (d : SyncCtx ω) : Within cfg d (stateInitSendFile cfg fs d mode).2 := by
    unfold stateInitSendFile
    dsimp only
    split <;> exact .of_same rfl rfl
  unfold stateInitSendPath
  dsimp only
  split
  · exact hdirs.trans (.of_same rfl rfl)
  · split
    · exact hdirs.trans (hlink _)
    · exact hdirs.trans (hfile _)

theorem within_init_send (c : SyncCtx ω) : Within cfg c (stateInitSend cfg fs c).2 := by
  unfold stateInitSend
  split
  · rename_i tmp htmp
    -- The comma is in the string, and the string in the buffer.
    have hlt : tmp < cfg.pathMax := by
      have hbounds := (strrchr_bounds _ _ _ _ _ htmp).2.1
      omega
    exact (within_terminate c tmp hlt).trans (within_init_send_path cfg fs _ _ _)
  · exact within_init_send_path cfg fs c _ _

theorem within_init (c : SyncCtx ω) : Within cfg c (stateInit cfg fs c).2 := by
  unfold stateInit
  split_ifs
  · exact within_init_stat cfg fs c
  · exact within_init_list cfg fs c
  · exact within_init_send cfg fs c
  · exact within_init_recv cfg fs c
  · exact .refl c
  · exact .refl c

theorem within_request_name (c : SyncCtx ω) : Within cfg c (requestName cfg fs c).2 := by
  unfold requestName
  split
  · exact .refl c
  · rename_i hlt
    have hname : Within cfg c (c.setBuff (store c.svc.buff c.svc.namelen [0])) :=
      within_terminate c _ (not_le.mp hlt)
    have hexec (d : SyncCtx ω) (e : SyncEvent) : Within cfg d (d.emit e) := .of_same rfl rfl
    exact (hname.trans (hexec _ _)).trans (within_init cfg fs _)

theorem within_request_header (c : SyncCtx ω) : Within cfg c (requestHeader cfg c).2 := by
  unfold requestHeader
  split_ifs <;> exact .of_same rfl rfl

theorem within_send_header (c : SyncCtx ω) : Within cfg c (sendHeader cfg c).2 := by
  unfold sendHeader
  split_ifs <;> exact .of_same rfl rfl

theorem within_sym_target (c : SyncCtx ω) : Within cfg c (sendSymTarget cfg fs c).2 := by
  unfold sendSymTarget
  split
  · exact .of_same rfl rfl
  · rename_i hlt
    have htarget : Within cfg c (c.setBuff (store c.svc.buff c.svc.namelen [0])) :=
      within_terminate c _ (not_le.mp hlt)
    dsimp only
    split <;> exact htarget.trans (.of_same rfl rfl)

/-- A state that collects bytes is one call of read_from_packet and what follows it. -/
theorem state_process_reads (c : SyncCtx ω) (n : ℕ) (h : c.svc.wanted cfg = some n) :
    ∃ d fail next, d.svc = c.svc ∧ d.p = c.p ∧
      stateProcess cfg fs c = afterRead (readFromPacket cfg d n) fail next ∧
      (∀ e, (fail e).1 ≤ 0 ∧ Within cfg e (fail e).2) ∧ ∀ e, Within cfg e (next e).2 := by
  have hquit (e : SyncCtx ω) : ((-1, e) : ℤ × SyncCtx ω).1 ≤ 0 ∧ Within cfg e e :=
    ⟨(by decide : (-1 : ℤ) ≤ 0),.refl e⟩
  have herror (e : SyncCtx ω) : (readError cfg e).1 ≤ 0 ∧ Within cfg e (readError cfg e).2 :=
    ⟨le_rfl,.of_same rfl rfl⟩
  unfold AfsService.wanted at h
  unfold stateProcess
  cases hs : c.svc.state <;> rw [hs] at h <;> dsimp only at h ⊢
  case waitCmd =>
    obtain rfl := Option.some.inj h
    exact ⟨c.emit (.header (min (sizeofReq-c.svc.size) c.p.msg.dataLength)),_,_,rfl,rfl,rfl,hquit,
      within_request_header cfg⟩
  case waitCmdData =>
    obtain rfl := Option.some.inj h
    exact ⟨c,_,_,rfl,rfl,rfl,hquit,within_request_name cfg fs⟩
  case processSendFileHdr =>
    obtain rfl := Option.some.inj h
    exact ⟨c,_,_,rfl,rfl,rfl,herror,within_send_header cfg⟩
  case processSendSymHdr =>
    obtain rfl := Option.some.inj h
    exact ⟨c,_,_,rfl,rfl,rfl,herror,within_send_header cfg⟩
  case processSendSymData =>
    split at h
    · rename_i hsym
      obtain rfl := Option.some.inj h
      rw [if_pos hsym]
      exact ⟨c,_,_,rfl,rfl,rfl,herror,within_sym_target cfg fs⟩
    · cases h
  all_goals cases h

/-! One iteration. -/

theorem within_reset (c : SyncCtx ω) : (stateReset fs c).svc.size = 0 ∧
    (stateReset fs c).svc.buff = c.svc.buff := by
  rw [state_reset_svc]
  exact ⟨rfl,rfl⟩

/-- The iteration completes an item (a header, a name or a target is there, a block of file data is
written), or it ends in state_reset. -/
def ends (c : SyncCtx ω) : Bool :=
  (syncIter cfg fs c).1 ≤ 0 || (c.svc.wanted cfg).all fun n => (readFromPacket cfg c n).1 = 0

/-- The bytes that the iteration consumes. -/
def consumed (c : SyncCtx ω) : List UInt8 :=
  c.peek (c.p.msg.dataLength-(syncIter cfg fs c).2.p.msg.dataLength)

/-- The bytes consumed since an item was completed or state_reset was called. -/
def pendingAfter (pending : List UInt8) (c : SyncCtx ω) : List UInt8 :=
  if ends cfg fs c then [] else pending ++ consumed cfg fs c

/-- What an iteration may do to the memory: the copy of read_from_packet has its place in the
buffer, and behind the buffer, where a terminator could be too, nothing changes. Only a symlink
target that is longer than the buffer is refused. -/
structure CopiesInside (c : SyncCtx ω) : Prop where
  copy : ∀ n, c.svc.wanted cfg = some n → (readFromPacket cfg c n).1 ≠ -eINVAL →
    c.svc.size+min (n-c.svc.size) c.p.msg.dataLength ≤ cfg.pathMax
  refused : ∀ n, c.svc.wanted cfg = some n → (readFromPacket cfg c n).1 = -eINVAL →
    c.svc.state = .processSendSymData ∧ n = c.svc.namelen ∧ cfg.pathMax < n
  terminator : c.svc.state = .waitCmdData → c.svc.namelen < cfg.pathMax
  outside : ∀ i, cfg.pathMax ≤ i → (syncIter cfg fs c).2.svc.buff i = c.svc.buff i

theorem read_value (c : SyncCtx ω) (n : ℕ) :
    (readFromPacket cfg c n).1 =
      if n < c.svc.size ∨ cfg.pathMax < n then -(eINVAL : ℤ)
      else if n-c.svc.size ≤ c.p.msg.dataLength then 0 else -(eAGAIN : ℤ) := by
  rcases read_from_packet_cases cfg c n with ⟨hbad,hr⟩ | ⟨h1,h2,h3,hr⟩ | ⟨h1,h2,h3,hr⟩
  · rw [hr, if_pos hbad]
  · rw [hr, if_neg (by omega), if_pos h3]
  · rw [hr, if_neg (by omega), if_neg (by omega)]

/-- The read of a state that is filled as it should be. -/
theorem wanted_fits (c : SyncCtx ω) (n : ℕ) (hn : c.svc.wanted cfg = some n)
    (h : c.svc.Filled cfg) : c.svc.size ≤ n ∧
      (n ≤ cfg.pathMax ∨ c.svc.state = .processSendSymData ∧ n = c.svc.namelen) := by
  have hmax := cfg.pathMax_ge
  unfold AfsService.wanted at hn
  cases hs : c.svc.state <;> rw [hs] at hn <;> dsimp only at hn
  case waitCmd =>
    obtain rfl := Option.some.inj hn
    have hlt := h.header (Or.inl hs)
    exact ⟨hlt.le,Or.inl (le_trans (by decide) hmax)⟩
  case waitCmdData =>
    obtain rfl := Option.some.inj hn
    obtain ⟨hlt,hsize⟩ := h.name hs
    exact ⟨by omega,Or.inl hlt.le⟩
  case processSendFileHdr =>
    obtain rfl := Option.some.inj hn
    have hlt := h.header (Or.inr (Or.inl hs))
    exact ⟨hlt.le,Or.inl (le_trans (by decide) hmax)⟩
  case processSendSymHdr =>
    obtain rfl := Option.some.inj hn
    have hlt := h.header (Or.inr (Or.inr hs))
    exact ⟨hlt.le,Or.inl (le_trans (by decide) hmax)⟩
  case processSendSymData =>
    split at hn
    · obtain rfl := Option.some.inj hn
      have hsize := h.target hs
      exact ⟨by omega,Or.inr ⟨rfl,rfl⟩⟩
    · cases hn
  all_goals cases hn

/-- A state that collects nothing leaves the buffer alone, and goes on only with file data. -/
theorem state_process_unread (c : SyncCtx ω) (h : c.svc.wanted cfg = none) :
    Within cfg c (stateProcess cfg fs c).2 ∧
      (0 < (stateProcess cfg fs c).1 → c.svc.state = .processSendFileData) := by
  have hneg : ¬(0 : ℤ) < -1 := by decide
  unfold AfsService.wanted at h
  unfold stateProcess
  cases hs : c.svc.state <;> rw [hs] at h <;> dsimp only at h ⊢
  case processRecv => exact ⟨.refl c,fun hpos => absurd hpos hneg⟩
  case processList => exact ⟨.refl c,fun hpos => absurd hpos hneg⟩
  case processSendFileData =>
    obtain ⟨d,-,hsvc,-,⟨-,-,hr⟩ | ⟨-,-,hr⟩ | ⟨-,hr⟩⟩ := state_process_send_file_cases cfg fs c
    all_goals
      have hsize : d.svc.size = c.svc.size := by rw [hsvc]; rfl
      have hbuff : d.svc.buff = c.svc.buff := by rw [hsvc]; rfl
      rw [hr]
      exact ⟨.of_same hsize hbuff,fun _ => rfl⟩
  case processSendSymData =>
    split at h
    · cases h
    · rename_i hsym
      rw [if_neg hsym]
      exact ⟨.refl c,fun hpos => absurd hpos hneg⟩
  all_goals cases h

/-- The end of an iteration: state_reset comes in where the handler does not go on. -/
theorem sync_iter_within (c d : SyncCtx ω) (h : Within cfg d (stateProcess cfg fs c).2)
    (hsize : 0 < (stateProcess cfg fs c).1 → d.svc.size = 0) :
    (syncIter cfg fs c).2.svc.size = 0 ∧
      ∀ i, cfg.pathMax ≤ i → (syncIter cfg fs c).2.svc.buff i = d.svc.buff i := by
  have hreset := within_reset fs (stateProcess cfg fs c).2
  unfold syncIter
  dsimp only
  split
  · refine ⟨hreset.1,fun i hi => ?_⟩
    rw [hreset.2]
    exact h.outside i hi
  · rename_i hpos
    exact ⟨h.size.trans (hsize (not_le.mp hpos)),h.outside⟩

/-- An iteration empties the buffer at the end of an item, or all that the packet has left goes
into it. -/
theorem sync_iter_buffer (c : SyncCtx ω) (h : c.svc.Filled cfg) :
    (ends cfg fs c = true ∧ (syncIter cfg fs c).2.svc.size = 0 ∧
        ∀ i, cfg.pathMax ≤ i → (syncIter cfg fs c).2.svc.buff i = c.svc.buff i) ∨
      ends cfg fs c = false ∧ c.svc.size+c.p.msg.dataLength ≤ cfg.pathMax ∧
        ∃ d : SyncCtx ω, d.svc = c.svc ∧ d.p = c.p ∧ (syncIter cfg fs c).2 = d.short := by
  cases hw : c.svc.wanted cfg with
  | none =>
    obtain ⟨hwithin,hstate⟩ := state_process_unread cfg fs c hw
    obtain ⟨hsize,hout⟩ := sync_iter_within cfg fs c c hwithin
      (fun hpos => h.other (Or.inr (Or.inr (hstate hpos))))
    refine Or.inl ⟨?_,hsize,hout⟩
    unfold ends
    rw [hw]
    exact Bool.or_true _
  | some n =>
    obtain ⟨d,fail,next,hsvc,hp,hprocess,hfail,hnext⟩ := state_process_reads cfg fs c n hw
    obtain ⟨hle,hroom⟩ := wanted_fits cfg c n hw h
    have hread := read_value cfg c n
    unfold ends
    rw [hw]
    rcases after_read_cases cfg d n fail next with ⟨hbad,hr⟩ | ⟨h1,h2,h3,hr⟩ | ⟨h1,h2,h3,hr⟩
    · -- A target that is too long: the handler fails, and state_reset follows.
      obtain ⟨hret,hwithin⟩ := hfail (d.setSize 0)
      rw [← hr, ← hprocess] at hret hwithin
      obtain ⟨hsize,hout⟩ := sync_iter_within cfg fs c (d.setSize 0) hwithin (fun _ => rfl)
      refine Or.inl ⟨?_,hsize,fun i hi => (hout i hi).trans ?_⟩
      · exact Bool.or_eq_true_iff.mpr (Or.inl (decide_eq_true hret))
      · exact congrFun (congrArg AfsService.buff hsvc) i
    · -- The item is complete.
      have hwithin := hnext (d.complete n)
      rw [← hr, ← hprocess] at hwithin
      obtain ⟨hsize,hout⟩ := sync_iter_within cfg fs c (d.complete n) hwithin (fun _ => rfl)
      rw [hsvc] at h1 h3
      rw [hp] at h3
      refine Or.inl ⟨?_,hsize,fun i hi => (hout i hi).trans ?_⟩
      · rw [if_neg (by omega), if_pos h3] at hread
        exact Bool.or_eq_true_iff.mpr (Or.inr (decide_eq_true hread))
      · have hcopy : store d.svc.buff d.svc.size (d.peek (n-d.svc.size)) i = d.svc.buff i := by
          apply store_apply_of_ge
          rw [SyncCtx.peek, length_slice, hsvc]
          omega
        rw [← hsvc]
        exact hcopy
    · rw [hsvc] at h1 h3
      rw [hp] at h3
      have hiter : syncIter cfg fs c = (1,d.short) := by
        unfold syncIter
        rw [hprocess, hr]
        rfl
      refine Or.inr ⟨?_,by omega,d,hsvc,hp,congrArg Prod.snd hiter⟩
      rw [if_neg (by omega), if_neg (by omega)] at hread
      rw [hiter, Option.all_some, hread]
      rfl

theorem sync_iter_outside (c : SyncCtx ω) (h : c.svc.Filled cfg) (i : ℕ) (hi : cfg.pathMax ≤ i) :
    (syncIter cfg fs c).2.svc.buff i = c.svc.buff i := by
  rcases sync_iter_buffer cfg fs c h with ⟨-,-,hout⟩ | ⟨-,hroom,d,hsvc,hp,hiter⟩
  · exact hout i hi
  · rw [hiter]
    have hcopy : store d.svc.buff d.svc.size (d.peek d.p.msg.dataLength) i = d.svc.buff i := by
      apply store_apply_of_ge
      rw [SyncCtx.peek, length_slice, hsvc, hp]
      omega
    rw [← hsvc]
    exact hcopy

theorem copies_inside (c : SyncCtx ω) (h : c.svc.Filled cfg) : CopiesInside cfg fs c where
  copy n hn hread := by
    obtain ⟨hle,-⟩ := wanted_fits cfg c n hn h
    rw [read_value] at hread
    split at hread
    · exact absurd rfl hread
    · omega
  refused n hn hread := by
    obtain ⟨hle,hroom⟩ := wanted_fits cfg c n hn h
    rw [read_value] at hread
    split at hread
    · rcases hroom with hroom | ⟨hs,rfl⟩
      · omega
      · exact ⟨hs,rfl,by omega⟩
    · split at hread
      · cases hread
      · cases hread
  terminator hs := (h.name hs).1
  outside := sync_iter_outside cfg fs c h

/-- The first size bytes of the buffer are the bytes that are pending. -/
def Holds (s : AfsService) (pending : List UInt8) : Prop := slice s.buff 0 s.size = pending

theorem holds_of_size {s : AfsService} (h : s.size = 0) : Holds s [] := by
  unfold Holds
  rw [h]
  rfl

theorem sync_iter_holds (c : SyncCtx ω) (pending : List UInt8) (h : c.svc.Filled cfg)
    (hp : Holds c.svc pending) :
    Holds (syncIter cfg fs c).2.svc (pendingAfter cfg fs pending c) := by
  unfold pendingAfter
  rcases sync_iter_buffer cfg fs c h with ⟨hends,hsize,-⟩ | ⟨hends,-,d,hsvc,hpkt,hiter⟩
  · rw [if_pos hends]
    exact holds_of_size hsize
  · -- The packet is used up, and its bytes are behind those that were there.
    have hconsumed : consumed cfg fs c = d.peek d.p.msg.dataLength := by
      have hleft : (syncIter cfg fs c).2.p.msg.dataLength = 0 := by
        rw [hiter]
        exact Nat.sub_self _
      rw [consumed, hleft, Nat.sub_zero, SyncCtx.peek, SyncCtx.peek, hsvc, hpkt]
    have hlength : (d.peek d.p.msg.dataLength).length = d.p.msg.dataLength := length_slice _ _ _
    have happend := slice_store_append d.svc.buff 0 d.svc.size (d.peek d.p.msg.dataLength)
    rw [Nat.zero_add, hlength] at happend
    have hold : slice d.svc.buff 0 d.svc.size = pending := by
      rw [hsvc]
      exact hp
    rw [hends, if_neg Bool.false_ne_true, hconsumed, hiter, ← hold]
    exact happend

/-! The iterations of a packet, the packets of a run. -/

/-- What the loop of file_sync_on_write leaves pending. -/
theorem sync_loop_holds (n : ℕ) (r : ℤ × SyncCtx ω) (pending : List UInt8)
    (h : r.2.svc.Wf cfg) (hp : Holds r.2.svc pending) :
    Holds (syncLoop cfg fs n r).2.svc
      ((syncIters cfg fs n r).foldl (pendingAfter cfg fs) pending) := by
  induction n generalizing r pending with
  | zero => exact hp
  | succ n ih =>
    rw [syncLoop, syncIters]
    split
    · exact ih _ _ ((wf_invariant cfg fs).iter r.2 h) (sync_iter_holds cfg fs r.2 pending h.filled hp)
    · exact hp

/-- The same where an iteration starts: it finds what those in front of it have left. -/
theorem sync_iters_hold (n : ℕ) (r : ℤ × SyncCtx ω) (pending : List UInt8)
    (h : r.2.svc.Wf cfg) (hp : Holds r.2.svc pending) (k : ℕ) (c : SyncCtx ω)
    (hc : (syncIters cfg fs n r)[k]? = some c) :
    c.svc.Wf cfg ∧
      Holds c.svc (((syncIters cfg fs n r).take k).foldl (pendingAfter cfg fs) pending) := by
  induction n generalizing r pending k with
  | zero => cases hc
  | succ n ih =>
    rw [syncIters] at hc ⊢
    split at hc
    · rename_i hgo
      rw [if_pos hgo]
      cases k with
      | zero =>
        obtain rfl := Option.some.inj hc
        exact ⟨h,hp⟩
      | succ k =>
        rw [List.getElem?_cons_succ] at hc
        exact ih _ _ ((wf_invariant cfg fs).iter r.2 h)
          (sync_iter_holds cfg fs r.2 pending h.filled hp) k hc
    · cases hc

/-- The bytes pending behind a step: the loop of file_sync_on_write goes through its iterations,
file_sync_on_ack resets what it does not go on with, and a service that fails or is closed is
reset. -/
def pendingStep (s : SyncRun ω) (pending : List UInt8) (i : SyncInput cfg) : List UInt8 :=
  if s.closed then pending
  else match i with
    | .write f =>
      if (fileSyncOnWrite cfg fs (s.ctx f.packet)).1 < 0 then []
      else (writeIters cfg fs (s.ctx f.packet)).foldl (pendingAfter cfg fs) pending
    | .ack f => if 0 < (stateAck cfg fs (s.ctx f.packet).rewind).1 then pending else []
    | .close => []

/-- The service and the bytes pending behind a run. -/
def pendingRun (raw : AfsService) (os : ω) (is : List (SyncInput cfg)) : SyncRun ω × List UInt8 :=
  run (fun x i => (syncStep cfg fs x.1 i,pendingStep cfg fs x.1 x.2 i)) (syncStart raw os,[]) is

theorem pending_run_fst (raw : AfsService) (os : ω) (is : List (SyncInput cfg)) :
    (pendingRun cfg fs raw os is).1 = syncRun cfg fs raw os is := by
  have hrun (x : SyncRun ω × List UInt8) :
      (run (fun x i => (syncStep cfg fs x.1 i,pendingStep cfg fs x.1 x.2 i)) x is).1 =
        run (syncStep cfg fs) x.1 is := by
    induction is generalizing x with
    | nil => rfl
    | cons i is ih => exact ih _
  exact hrun _

/-- The callback of an OKAY goes on only with a file or a listing. -/
theorem state_ack_within (c : SyncCtx ω) (h : c.svc.Filled cfg) :
    Within cfg c (stateAck cfg fs c).2 ∧ (0 < (stateAck cfg fs c).1 → c.svc.size = 0) := by
  have hneg : ¬(0 : ℤ) < -1 := by decide
  unfold stateAck
  cases hs : c.svc.state <;> dsimp only
  case processRecv =>
    exact ⟨within_process_recv cfg fs c,fun _ => h.other (Or.inl hs)⟩
  case processList =>
    exact ⟨within_process_list cfg fs c,fun _ => h.other (Or.inr (Or.inl hs))⟩
  all_goals
    refine ⟨.refl c,fun hpos => ?_⟩
    first | exact absurd hpos (lt_irrefl _) | exact absurd hpos hneg

theorem pending_step (s : SyncRun ω) (pending : List UInt8) (i : SyncInput cfg)
    (h : s.svc.Wf cfg) (hp : Holds s.svc pending) :
    Holds (syncStep cfg fs s i).svc (pendingStep cfg fs s pending i) := by
  have hreset (c : SyncCtx ω) : Holds (stateReset fs c).svc [] :=
    holds_of_size (within_reset fs c).1
  have hafter (r : ℤ × SyncCtx ω) (left : List UInt8) (hr : 0 ≤ r.1 → Holds r.2.svc left) :
      Holds (afterCallback fs r).svc (if r.1 < 0 then [] else left) := by
    unfold afterCallback
    split
    · exact hreset r.2
    · exact hr (not_lt.mp ‹_›)
  unfold syncStep pendingStep
  split
  · exact hp
  · cases i with
    | write f =>
      refine hafter _ _ (fun _ => ?_)
      exact sync_loop_holds cfg fs _ (0,(s.ctx f.packet).rewind) pending h hp
    | ack f =>
      have hwf : (s.ctx f.packet).rewind.svc.Wf cfg := h
      obtain ⟨hwithin,hgo⟩ := state_ack_within cfg fs (s.ctx f.packet).rewind hwf.filled
      have hdef : fileSyncOnAck cfg fs (s.ctx f.packet) =
          if 0 < (stateAck cfg fs (s.ctx f.packet).rewind).1 then
            (0,(stateAck cfg fs (s.ctx f.packet).rewind).2)
          else ((stateAck cfg fs (s.ctx f.packet).rewind).1,
            stateReset fs (stateAck cfg fs (s.ctx f.packet).rewind).2) := rfl
      dsimp only
      rw [hdef]
      split
      · rename_i hpos
        -- Nothing is collected while a file or a listing is sent.
        have hzero : s.svc.size = 0 := hgo hpos
        have hnil : pending = [] := by
          rw [← hp, hzero]
          rfl
        rw [hnil]
        exact holds_of_size (hwithin.size.trans hzero)
      · have hleft := hafter ((stateAck cfg fs (s.ctx f.packet).rewind).1,
            stateReset fs (stateAck cfg fs (s.ctx f.packet).rewind).2) [] (fun _ => hreset _)
        rw [ite_self] at hleft
        exact hleft
    | close => exact hreset _

/-- Behind the buffer the memory stays as malloc left it. -/
theorem outside_invariant (raw : AfsService) : SyncInvariant cfg fs
    (fun s _ => s.Wf cfg ∧ ∀ i, cfg.pathMax ≤ i → s.buff i = raw.buff i) where
  packetPtr _ _ _ h := h
  process c h := by
    refine ⟨wf_state_process cfg fs c h.1,fun i hi => ?_⟩
    have hiter : (syncIter cfg fs c).2.svc.buff = (stateProcess cfg fs c).2.svc.buff := by
      unfold syncIter
      dsimp only
      split
      · exact (within_reset fs _).2
      · rfl
    rw [← hiter, sync_iter_outside cfg fs c h.1.filled i hi]
    exact h.2 i hi
  ack c h := by
    refine ⟨wf_state_ack cfg fs c h.1,fun i hi => ?_⟩
    obtain ⟨hwithin,-⟩ := state_ack_within cfg fs c h.1.filled
    rw [hwithin.outside i hi]
    exact h.2 i hi
  reset c h := by
    refine ⟨wf_state_reset cfg fs c,fun i hi => ?_⟩
    rw [(within_reset fs c).2]
    exact h.2 i hi

/-- Every file sync service in every state of every run, whatever the packets and the file system
are: the buffer is filled as each state allows, it holds the bytes that are pending, the memory
behind it is as it was, and the same goes for each iteration over the next packet, whose copies stay
inside of it. -/
theorem buffer_bounded (raw : AfsService) (os : ω) (is : List (SyncInput cfg)) :
    (syncRun cfg fs raw os is).svc.Filled cfg ∧
      (pendingRun cfg fs raw os is).1 = syncRun cfg fs raw os is ∧
      slice (syncRun cfg fs raw os is).svc.buff 0 (syncRun cfg fs raw os is).svc.size =
        (pendingRun cfg fs raw os is).2 ∧
      (∀ i, cfg.pathMax ≤ i → (syncRun cfg fs raw os is).svc.buff i = raw.buff i) ∧
      ∀ (f : SyncFrame cfg) k c,
        (writeIters cfg fs ((syncRun cfg fs raw os is).ctx f.packet))[k]? = some c →
          c.svc.Filled cfg ∧ CopiesInside cfg fs c ∧ slice c.svc.buff 0 c.svc.size =
            ((writeIters cfg fs ((syncRun cfg fs raw os is).ctx f.packet)).take k).foldl
              (pendingAfter cfg fs) (pendingRun cfg fs raw os is).2 := by
  have hwf := wf_run cfg fs raw os is
  have hfst := pending_run_fst cfg fs raw os is
  have hholds : (pendingRun cfg fs raw os is).1.svc.Wf cfg ∧
      Holds (pendingRun cfg fs raw os is).1.svc (pendingRun cfg fs raw os is).2 := by
    refine run_invariant _ (fun x : SyncRun ω × List UInt8 => x.1.svc.Wf cfg ∧ Holds x.1.svc x.2)
      (fun x i hx => ⟨?_,pending_step cfg fs x.1 x.2 i hx.1 hx.2⟩) _
      ⟨wf_start cfg raw,holds_of_size rfl⟩ is
    exact (wf_invariant cfg fs).step x.1 i hx.1
  rw [hfst] at hholds
  have hout := (outside_invariant cfg fs raw).run raw os ⟨wf_start cfg raw,fun _ _ => rfl⟩ is
  refine ⟨hwf.filled,hfst,hholds.2,hout.2,fun f k c hc => ?_⟩
  obtain ⟨hwf',hiter⟩ := sync_iters_hold cfg fs _
    (0,((syncRun cfg fs raw os is).ctx f.packet).rewind) _ hwf hholds.2 k c hc
  exact ⟨hwf'.filled,copies_inside cfg fs c hwf'.filled,hiter⟩

end MicroADB
