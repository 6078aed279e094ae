import MicroADB.FileSyncWf

/-! The replies that the file sync service puts in the packet in hand: how long each is,
which bytes it touches, and when there is room for it. -/
namespace MicroADB
open ByteMemory EventRun

/-- A room that was computed is one. -/
def SyncEvent.roomy : SyncEvent → Prop
  | .room r => 0 ≤ r
  | _ => True

def Roomy (l : List SyncEvent) : Prop := ∀ e ∈ l, e.roomy

@[simp] theorem roomy_append (l es : List SyncEvent) : Roomy (l ++ es) ↔ Roomy l ∧ Roomy es :=
  List.forall_mem_append

@[simp] theorem roomy_nil : Roomy [] := by simp [Roomy]

@[simp] theorem roomy_singleton (e : SyncEvent) : Roomy [e] ↔ e.roomy := by simp [Roomy]

@[simp] theorem roomy_cons (e : SyncEvent) (es : List SyncEvent) :
    Roomy (e :: es) ↔ e.roomy ∧ Roomy es :=
  List.forall_mem_cons

variable {ω : Type} (cfg : Config) (fs : FileSystem ω)

/-- No reply was written. -/
structure Quiet (c d : SyncCtx ω) : Prop where
  writeLen : d.p.writeLen = c.p.writeLen
  data : d.p.data = c.p.data
  roomy : Roomy d.log ↔ Roomy c.log

/-- A reply of n bytes was written behind those already in the packet, or there was no
room for its fixed part of h bytes. -/
structure Replied (c d : SyncCtx ω) (h n : ℕ) : Prop where
  head : h ≤ n
  data : ∀ i, i < c.p.writeLen ∨ c.p.writeLen+n ≤ i → d.p.data i = c.p.data i
  fits : c.p.writeLen+h ≤ cfg.payloadSize →
    c.p.writeLen+n ≤ cfg.payloadSize ∧ d.p.writeLen = c.p.writeLen+n ∧
      (Roomy d.log ↔ Roomy c.log)
  tight : cfg.payloadSize < c.p.writeLen+h →
    cfg.payloadSize ≤ d.p.writeLen ∧ (d.p.writeLen ≤ cfg.payloadSize → ¬Roomy d.log)

/-- A reply with a fixed part of this size, or none. -/
def Answers (c d : SyncCtx ω) : Option ℕ → Prop
  | none => Quiet c d
  | some h => ∃ n, Replied cfg c d h n

theorem quiet_refl (c : SyncCtx ω) : Quiet c c := ⟨rfl,rfl,Iff.rfl⟩

theorem quiet_trans (c d e : SyncCtx ω) (h : Quiet c d) (h' : Quiet d e) : Quiet c e :=
  ⟨h'.writeLen.trans h.writeLen,h'.data.trans h.data,h'.roomy.trans h.roomy⟩

theorem answers_of_quiet (c d e : SyncCtx ω) (o : Option ℕ) (h : Quiet c d)
    (h' : Answers cfg d e o) : Answers cfg c e o := by
  cases o with
  | none => exact quiet_trans c d e h h'
  | some k =>
    obtain ⟨n,hn⟩ := h'
    refine ⟨n,hn.head,?_,?_,?_⟩
    · rw [← h.writeLen, ← h.data]
      exact hn.data
    · rw [← h.writeLen, ← h.roomy]
      exact hn.fits
    · rw [← h.writeLen]
      exact hn.tight

theorem answers_then_quiet (c d e : SyncCtx ω) (o : Option ℕ) (h : Answers cfg c d o)
    (h' : Quiet d e) : Answers cfg c e o := by
  cases o with
  | none => exact quiet_trans c d e h h'
  | some k =>
    obtain ⟨n,hn⟩ := h
    refine ⟨n,hn.head,?_,?_,?_⟩
    · rw [h'.data]
      exact hn.data
    · rw [h'.writeLen, h'.roomy]
      exact hn.fits
    · rw [h'.writeLen, h'.roomy]
      exact hn.tight

/-- Nothing but the reply area is stored to. -/
theorem put_outside (c : SyncCtx ω) (o n i : ℕ) (bs : List UInt8) (hn : o+bs.length ≤ n)
    (hi : i < c.p.writeLen ∨ c.p.writeLen+n ≤ i) : (c.put o bs).p.data i = c.p.data i := by
  rcases hi with hi | hi
  · exact store_apply_of_lt _ _ _ _ (by omega)
  · exact store_apply_of_ge _ _ _ _ (by omega)

/-! The writers. -/

theorem prepare_fail_message_answers (c : SyncCtx ω) (reason : List UInt8)
    (hr : reason.length < 2^30) (hw : c.p.writeLen ≤ cfg.payloadSize) :
    Answers cfg c (prepareFailMessage cfg c reason) (some sizeofData) := by
  have hP := cfg.payload_lt
  set room : ℤ := cfg.payloadSize-sizeofData-c.p.writeLen with hroom
  set len := min reason.length (sizeT room) with hlen
  have hle : len ≤ reason.length := Nat.min_le_left _ _
  have hwl : (prepareFailMessage cfg c reason).p.writeLen = c.p.writeLen+(sizeofData+len) := by
    change u32 (c.p.writeLen+(sizeofData+len)) = _
    apply u32_of_lt
    unfold sizeofData
    omega
  have hlog : (prepareFailMessage cfg c reason).log = c.log ++ [.room room] := rfl
  refine ⟨sizeofData+len,Nat.le_add_right _ _,?_,?_,?_⟩
  · intro i hi
    set body := (c.emit (.room room)).put sizeofData (reason.take len)
    calc (prepareFailMessage cfg c reason).p.data i = body.p.data i :=
          put_outside body 0 (sizeofData+len) i _ (by simp [sizeofData]) hi
      _ = c.p.data i :=
          put_outside (c.emit _) sizeofData (sizeofData+len) i _ (by simp) hi
  · intro hfit
    have h0 : 0 ≤ room := by
      rw [hroom]
      omega
    have hlen' : len ≤ room.toNat := by
      rw [hlen, sizeT_of_nonneg room h0 (by omega)]
      exact Nat.min_le_right _ _
    refine ⟨by omega,hwl,?_⟩
    rw [hlog, roomy_append, roomy_singleton]
    exact ⟨fun h => h.1,fun h => ⟨h,h0⟩⟩
  · intro htight
    rw [hwl]
    exact ⟨by omega,by omega⟩

theorem prepare_fail_errno_answers (c : SyncCtx ω) (hw : c.p.writeLen ≤ cfg.payloadSize) :
    Answers cfg c (prepareFailErrno cfg fs c) (some sizeofData) :=
  prepare_fail_message_answers cfg c _ (fs.strerror_lt _) hw

/-- The replies of a fixed size. -/
theorem put_record_answers (c : SyncCtx ω) (bs : List UInt8) (h : ℕ) (hh : bs.length = h)
    (hlt : h < 2^31) (hw : c.p.writeLen ≤ cfg.payloadSize) :
    Answers cfg c ((c.put 0 bs).advance h) (some h) := by
  have hP := cfg.payload_lt
  have hwl : ((c.put 0 bs).advance h).p.writeLen = c.p.writeLen+h :=
    u32_of_lt _ (by simp only [SyncCtx.put_p]; omega)
  refine ⟨h,le_rfl,?_,?_,?_⟩
  · intro i hi
    exact put_outside c 0 h i bs (by omega) hi
  · exact fun hfit => ⟨hfit,hwl,Iff.rfl⟩
  · intro htight
    rw [hwl]
    exact ⟨htight.le,by omega⟩

theorem prepare_okay_message_answers (c : SyncCtx ω) (hw : c.p.writeLen ≤ cfg.payloadSize) :
    Answers cfg c (prepareOkayMessage c) (some sizeofStatus) :=
  put_record_answers cfg c _ _ rfl (by decide) hw

theorem put_list_done_answers (c : SyncCtx ω) (hw : c.p.writeLen ≤ cfg.payloadSize) :
    Answers cfg c (putListDone c) (some sizeofDent) :=
  put_record_answers cfg c _ _ rfl (by decide) hw

/-- A call that is no room leaves the packet alone. -/
theorem quiet_of_log (c d : SyncCtx ω) (evs : List SyncEvent) (hp : d.p.writeLen = c.p.writeLen)
    (hd : d.p.data = c.p.data) (hlog : d.log = c.log ++ evs) (hevs : Roomy evs) : Quiet c d := by
  refine ⟨hp,hd,?_⟩
  rw [hlog, roomy_append]
  exact ⟨fun h => h.1,fun h => ⟨h,hevs⟩⟩

theorem state_init_stat_answers (c : SyncCtx ω) (hw : c.p.writeLen ≤ cfg.payloadSize) :
    Answers cfg c (stateInitStat cfg fs c).2 (some sizeofStat) := by
  have hstat : Quiet c (sysStat fs c (c.name cfg)).2 :=
    quiet_of_log c _ _ rfl rfl (sys_stat_log fs c _) (by simp [Roomy, SyncEvent.roomy])
  unfold stateInitStat
  dsimp only
  split
  · refine answers_then_quiet cfg _ _ _ _ (answers_of_quiet cfg _ _ _ _ hstat
      (put_record_answers cfg _ _ _ rfl (by decide) hw)) ⟨rfl,rfl,Iff.rfl⟩
  · exact answers_of_quiet cfg _ _ _ _ hstat (put_record_answers cfg _ _ _ rfl (by decide) hw)

theorem stat_entry_outside (c : SyncCtx ω) (name : List UInt8) (n i : ℕ) (hn : sizeofDent ≤ n)
    (hi : i < c.p.writeLen ∨ c.p.writeLen+n ≤ i) :
    (statEntry cfg fs c name).p.data i = c.p.data i := by
  have hput (d : SyncCtx ω) (bs : List UInt8) (hbs : bs.length = 12) (hd : d.p = c.p) :
      (d.put 4 bs).p.data i = c.p.data i := by
    rw [put_outside d 4 n i bs (by unfold sizeofDent at hn; omega) (by rw [hd]; exact hi), hd]
  unfold statEntry
  dsimp only
  split
  · exact hput _ _ rfl rfl
  · split
    · exact hput _ _ rfl rfl
    · exact hput _ _ rfl rfl

theorem stat_entry_roomy (c : SyncCtx ω) (name : List UInt8)
    (hfile : c.svc.u.filePtr ≤ cfg.pathMax) :
    Roomy (statEntry cfg fs c name).log ↔ Roomy c.log := by
  have h0 : (0 : ℤ) ≤ cfg.pathMax-c.svc.u.filePtr := by omega
  unfold statEntry
  dsimp only
  split
  · simp [SyncEvent.roomy, hfile]
  · split <;>
      simp [SyncEvent.roomy, hfile]

/-- A listing sends one entry at a time, its name cut to the room that is left. -/
theorem state_process_list_answers (c : SyncCtx ω) (hfile : c.svc.u.filePtr ≤ cfg.pathMax)
    (hw : c.p.writeLen ≤ cfg.payloadSize) :
    Answers cfg c (stateProcessList cfg fs c).2 (some sizeofDent) := by
  have hP := cfg.payload_lt
  have hread : Quiet c (sysReaddir fs c c.svc.u.d).2 :=
    quiet_of_log c _ _ rfl rfl (sys_readdir_log fs c _) (by simp [Roomy, SyncEvent.roomy])
  unfold stateProcessList
  dsimp only
  split
  · exact answers_of_quiet cfg _ _ _ _ hread (put_list_done_answers cfg _ hw)
  · rename_i name hname
    have hlt : name.length < 2^30 := fs.readdir_lt _ _ _ hname
    apply answers_of_quiet cfg _ _ _ _ hread
    obtain ⟨-,hwl,-⟩ := stat_entry_keeps cfg fs (sysReaddir fs c c.svc.u.d).2 name
    have hroomy := stat_entry_roomy cfg fs (sysReaddir fs c c.svc.u.d).2 name hfile
    have hout := stat_entry_outside cfg fs (sysReaddir fs c c.svc.u.d).2 name
    set b := (sysReaddir fs c c.svc.u.d).2
    set d := statEntry cfg fs b name
    have hwb : b.p.writeLen = c.p.writeLen := rfl
    set remaining : ℤ := cfg.payloadSize-sizeofDent-d.p.writeLen with hrem
    set len : ℤ := dentLen remaining name.length with hlen
    -- 20+len is never negative: with no room at all len is what is left behind the 20 bytes
    have hlenle : len ≤ name.length ∧ -20 ≤ len ∧ (0 ≤ remaining → len ≤ remaining ∧ 0 ≤ len) ∧
        (remaining < 0 → len = remaining) := by
      unfold sizeofDent at hrem
      unfold dentLen at hlen
      split_ifs at hlen <;> omega
    have hadv : u32 (d.p.writeLen+sizeT (sizeofDent+len)) =
        d.p.writeLen+(sizeofDent+len).toNat := by
      rw [sizeT_of_nonneg _ (by unfold sizeofDent; omega) (by unfold sizeofDent; omega),
        u32_of_lt _ (by unfold sizeofDent; omega)]
    refine ⟨sizeofDent+len.toNat,Nat.le_add_right _ _,?_,?_,?_⟩
    · intro i hi
      have hi' : i < d.p.writeLen ∨ d.p.writeLen+(sizeofDent+len.toNat) ≤ i := by omega
      have h20 : sizeofDent ≤ sizeofDent+len.toNat := Nat.le_add_right _ _
      set e := d.emit (.room remaining)
      set e' := e.put 0 (le32 idDent)
      set e'' := e'.put 16 (le32 (u32OfInt len))
      change (e''.put sizeofDent (name.take len.toNat)).p.data i = _
      rw [put_outside e'' sizeofDent (sizeofDent+len.toNat) i _ (by simp) hi',
        put_outside e' 16 (sizeofDent+len.toNat) i _ (by simp [sizeofDent]) hi',
        put_outside e 0 (sizeofDent+len.toNat) i _ (by simp [sizeofDent]; omega) hi']
      exact hout _ i h20 hi
    · intro hfit
      have h0 : 0 ≤ remaining := by
        rw [hrem]
        omega
      change _ ∧ u32 (d.p.writeLen+sizeT (sizeofDent+len)) = _ ∧
        (Roomy (d.log ++ [.room remaining]) ↔ _)
      rw [hadv, roomy_append, roomy_singleton, hroomy]
      exact ⟨by omega,by omega,fun h => h.1,fun h => ⟨h,h0⟩⟩
    · intro htight
      have h0 : remaining < 0 := by
        rw [hrem]
        omega
      change _ ≤ u32 (d.p.writeLen+sizeT (sizeofDent+len)) ∧ (_ → ¬Roomy (d.log ++ [.room remaining]))
      rw [hadv, roomy_append, roomy_singleton]
      refine ⟨by omega,fun _ h => ?_⟩
      exact absurd h.2 (not_le.mpr h0)

theorem state_init_list_answers (c : SyncCtx ω) (hw : c.p.writeLen ≤ cfg.payloadSize) :
    Answers cfg c (stateInitList cfg fs c).2 (some sizeofDent) := by
  unfold stateInitList
  dsimp only
  split
  · exact put_list_done_answers cfg c hw
  · rename_i hlen
    have hmalloc : Quiet c (sysMalloc fs c cfg.pathMax).2 :=
      quiet_of_log c _ _ rfl rfl (sys_malloc_log fs c _) (by simp [Roomy, SyncEvent.roomy])
    split
    · exact answers_of_quiet cfg _ _ _ _ hmalloc (put_list_done_answers cfg _ hw)
    · apply answers_of_quiet cfg _ _ _ _ hmalloc
      split
      · refine answers_of_quiet cfg _ _ _ _ ?_ (put_list_done_answers cfg _ hw)
        exact ⟨rfl,rfl,by simp [SyncEvent.roomy]⟩
      · refine answers_of_quiet cfg _ _ _ _ ?_ (state_process_list_answers cfg fs _ ?_ hw)
        · exact ⟨rfl,rfl,by simp [SyncEvent.roomy]⟩
        · simp [AfsUnion.filePtr]
          omega

theorem state_process_recv_answers (c : SyncCtx ω) (hw : c.p.writeLen ≤ cfg.payloadSize) :
    Answers cfg c (stateProcessRecv cfg fs c).2 (some sizeofData) := by
  have hP := cfg.payload_lt
  unfold stateProcessRecv
  dsimp only
  set room : ℤ := cfg.payloadSize-sizeofData-c.p.writeLen with hroom
  set r := sysRead fs (c.emit (.room room)) c.svc.u.fd (sizeT room) with hr
  have hp : r.2.p = c.p := rfl
  have hlog : r.2.log = c.log ++ [.room room] ++ [.read c.svc.u.fd (r.1.map List.length)] := rfl
  have hroomy : Roomy r.2.log ↔ Roomy c.log ∧ 0 ≤ room := by
    rw [hlog]
    simp [SyncEvent.roomy]
  -- the room was computed before the read, so what follows is a reply without a room
  have hcompose (e : SyncCtx ω) (h : Answers cfg r.2 e (some sizeofData))
      (hlog : Roomy e.log → Roomy r.2.log) : Answers cfg c e (some sizeofData) := by
    obtain ⟨n,hn⟩ := h
    refine ⟨n,hn.head,hn.data,?_,?_⟩
    · intro hfit
      obtain ⟨h1,h2,h3⟩ := hn.fits hfit
      refine ⟨h1,h2,h3.trans (hroomy.trans ⟨fun h => h.1,fun h => ⟨h,?_⟩⟩)⟩
      rw [hroom]
      omega
    · intro htight
      refine ⟨(hn.tight htight).1,fun _ he => ?_⟩
      have h0 := (hroomy.mp (hlog he)).2
      rw [hroom] at h0
      omega
  split
  · refine hcompose _ (prepare_fail_message_answers cfg _ _ (by decide) hw) ?_
    rw [prepare_fail_message_log, roomy_append]
    exact fun h => h.1
  · rename_i bs hbs
    have hlt : bs.length < 2^31 := lt_of_le_of_lt (fs.read_lt _ _ _ _ hbs) (by decide)
    have hle : bs.length ≤ sizeT room := fs.read_le _ _ _ _ hbs
    split
    · exact hcompose _ (put_record_answers cfg _ _ _ rfl (by decide) hw) id
    · have hlt' : bs.length ≤ 0x7ffff000 := fs.read_lt _ _ _ _ hbs
      have hadv : u32 (c.p.writeLen+(sizeofData+bs.length)) =
          c.p.writeLen+(sizeofData+bs.length) :=
        u32_of_lt _ (by unfold sizeofData; omega)
      refine ⟨sizeofData+bs.length,Nat.le_add_right _ _,?_,?_,?_⟩
      · intro i hi
        set e := r.2.put sizeofData bs
        change (e.put 0 _).p.data i = _
        rw [put_outside e 0 (sizeofData+bs.length) i _ (by simp [sizeofData]) hi,
          put_outside r.2 sizeofData (sizeofData+bs.length) i _ le_rfl hi]
        rfl
      · intro hfit
        have h0 : 0 ≤ room := by
          rw [hroom]
          omega
        rw [sizeT_of_nonneg room h0 (by omega)] at hle
        change _ ∧ u32 (c.p.writeLen+(sizeofData+bs.length)) = _ ∧ (Roomy r.2.log ↔ _)
        rw [hadv, hroomy]
        exact ⟨by omega,rfl,fun h => h.1,fun h => ⟨h,h0⟩⟩
      · intro htight
        have h0 : room < 0 := by
          rw [hroom]
          omega
        change _ ≤ u32 (c.p.writeLen+(sizeofData+bs.length)) ∧ (_ → ¬Roomy r.2.log)
        rw [hadv, hroomy]
        exact ⟨by omega,fun _ h => absurd h.2 (not_le.mpr h0)⟩

/-- A failure reported after calls that left the packet alone. -/
theorem fail_after_quiet (c d : SyncCtx ω) (reason : List UInt8) (h : Quiet c d)
    (hr : reason.length < 2^30) (hw : c.p.writeLen ≤ cfg.payloadSize) :
    Answers cfg c (prepareFailMessage cfg d reason) (some sizeofData) :=
  answers_of_quiet cfg _ _ _ _ h
    (prepare_fail_message_answers cfg d reason hr (by rw [h.writeLen]; exact hw))

theorem state_init_recv_answers (c : SyncCtx ω) (hw : c.p.writeLen ≤ cfg.payloadSize) :
    Answers cfg c (stateInitRecv cfg fs c).2 (some sizeofData) := by
  have hopen (u : AfsUnion) : Quiet c ((sysOpen fs c (c.name cfg) .rdonly).2.setUnion u) :=
    quiet_of_log c _ _ rfl rfl (sys_open_log fs c _ _) (by simp [SyncEvent.roomy])
  unfold stateInitRecv
  dsimp only
  split
  · exact fail_after_quiet cfg _ _ _ (hopen _) (by decide) hw
  · refine answers_of_quiet cfg _ _ _ _ ?_ (state_process_recv_answers cfg fs _ ?_)
    · exact ⟨(hopen .unset).writeLen,(hopen .unset).data,(hopen .unset).roomy⟩
    · exact hw

/-- The fixed part of the status that ends a request or a transfer on this return value. -/
def endHead (ret : ℤ) : Option ℕ := if ret = 0 then some sizeofStatus else none

theorem roomy_of_is_mkdir (evs : List SyncEvent) (h : ∀ e ∈ evs, e.isMkdir) : Roomy evs := by
  intro e he
  have hm := h e he
  cases e <;> trivial

theorem roomy_of_is_write (evs : List SyncEvent) (h : ∀ e ∈ evs, e.isWrite) : Roomy evs := by
  intro e he
  have hw := h e he
  cases e <;> trivial

theorem state_init_send_file_answers (c : SyncCtx ω) (mode : ℕ)
    (hw : c.p.writeLen ≤ cfg.payloadSize) :
    Answers cfg c (stateInitSendFile cfg fs c mode).2
      (endHead (stateInitSendFile cfg fs c mode).1) := by
  have hopen (u : AfsUnion) :
      Quiet c ((sysOpen fs c (c.name cfg) (.create mode)).2.setUnion u) :=
    quiet_of_log c _ _ rfl rfl (sys_open_log fs c _ _) (by simp [SyncEvent.roomy])
  unfold stateInitSendFile
  dsimp only
  split
  · exact fail_after_quiet cfg _ _ _ (hopen _) (fs.strerror_lt _) hw
  · exact ⟨(hopen .unset).writeLen,(hopen .unset).data,(hopen .unset).roomy⟩

theorem state_init_send_link_answers (c : SyncCtx ω) (hw : c.p.writeLen ≤ cfg.payloadSize) :
    Answers cfg c (stateInitSendLink cfg fs c).2 (endHead (stateInitSendLink cfg fs c).1) := by
  have hmalloc : Quiet c (sysMalloc fs c ((c.name cfg).length+1)).2 :=
    quiet_of_log c _ _ rfl rfl (sys_malloc_log fs c _) (by simp [SyncEvent.roomy])
  unfold stateInitSendLink
  dsimp only
  split
  · exact prepare_fail_message_answers cfg _ _ (by decide) hw
  · split
    · exact fail_after_quiet cfg _ _ _ hmalloc (by decide) hw
    · exact ⟨hmalloc.writeLen,hmalloc.data,hmalloc.roomy⟩

/-- unlink and create_path_directories. -/
theorem path_directories_quiet (c : SyncCtx ω) :
    Quiet c (createPathDirectories cfg fs (sysUnlink fs c (c.name cfg))).2 := by
  obtain ⟨evs,hlog,hevs⟩ := create_path_directories_log cfg fs (sysUnlink fs c (c.name cfg))
  have hp := create_path_directories_p cfg fs (sysUnlink fs c (c.name cfg))
  refine ⟨by rw [hp]; rfl,by rw [hp]; rfl,?_⟩
  rw [hlog]
  simp [SyncEvent.roomy, roomy_of_is_mkdir evs hevs]

theorem state_init_send_answers (c : SyncCtx ω) (hw : c.p.writeLen ≤ cfg.payloadSize) :
    Answers cfg c (stateInitSend cfg fs c).2 (endHead (stateInitSend cfg fs c).1) := by
  have hpath (d : SyncCtx ω) (mode : ℕ) (isLink : Bool) (hd : Quiet c d) :
      Answers cfg c (stateInitSendPath cfg fs d mode isLink).2
        (endHead (stateInitSendPath cfg fs d mode isLink).1) := by
    apply answers_of_quiet cfg _ _ _ _ hd
    have hw' : d.p.writeLen ≤ cfg.payloadSize := by
      rw [hd.writeLen]
      exact hw
    have hdirs := path_directories_quiet cfg fs d
    unfold stateInitSendPath
    dsimp only
    apply answers_of_quiet cfg _ _ _ _ hdirs
    have hwb : (createPathDirectories cfg fs (sysUnlink fs d (d.name cfg))).2.p.writeLen ≤
        cfg.payloadSize := by
      rw [hdirs.writeLen]
      exact hw'
    split
    · exact prepare_fail_errno_answers cfg fs _ hwb
    · split
      · exact state_init_send_link_answers cfg fs _ hwb
      · exact state_init_send_file_answers cfg fs _ _ hwb
  unfold stateInitSend
  split
  · exact hpath _ _ _ ⟨rfl,rfl,Iff.rfl⟩
  · exact hpath _ _ _ (quiet_refl c)

/-! Which reply an iteration starts, told from the state before it. -/

/-- The fixed part of the reply to the first frame of a request. -/
def requestHead (cmd : ℕ) : Option ℕ :=
  if cmd = idStat then some sizeofStat
  else if cmd = idList then some sizeofDent
  else if cmd = idRecv then some sizeofData
  else none

/-- The rest of the name of the request is in the packet. -/
def SyncCtx.nameComplete (c : SyncCtx ω) : Prop :=
  c.svc.state = .waitCmdData ∧ c.svc.namelen-c.svc.size ≤ c.p.msg.dataLength

instance (c : SyncCtx ω) : Decidable c.nameComplete := inferInstanceAs (Decidable (_ ∧ _))

/-- The fixed part of the reply of an iteration: STAT, DENT or DONE, and DATA, DONE or FAIL
answer a request that is complete; OKAY or FAIL ends a transfer. -/
def replyHead (c : SyncCtx ω) : Option ℕ :=
  if c.nameComplete ∧ (requestHead c.svc.cmd).isSome then requestHead c.svc.cmd
  else endHead (stateProcess cfg fs c).1

/-- The same for an OKAY frame. -/
def ackHead (c : SyncCtx ω) : Option ℕ :=
  match c.svc.state with
  | .processRecv => some sizeofData
  | .processList => some sizeofDent
  | _ => none

theorem state_init_answers (c : SyncCtx ω) (hw : c.p.writeLen ≤ cfg.payloadSize)
    (hq : c.svc.cmd ≠ idQuit) :
    Answers cfg c (stateInit cfg fs c).2
      (if (requestHead c.svc.cmd).isSome then requestHead c.svc.cmd
        else endHead (stateInit cfg fs c).1) := by
  by_cases hstat : c.svc.cmd = idStat
  · have hhead : requestHead c.svc.cmd = some sizeofStat := if_pos hstat
    have hinit : stateInit cfg fs c = stateInitStat cfg fs c := if_pos hstat
    rw [hhead, hinit]
    exact state_init_stat_answers cfg fs c hw
  by_cases hlist : c.svc.cmd = idList
  · have hhead : requestHead c.svc.cmd = some sizeofDent := by
      rw [requestHead, if_neg hstat, if_pos hlist]
    have hinit : stateInit cfg fs c = stateInitList cfg fs c := by
      rw [stateInit, if_neg hstat, if_pos hlist]
    rw [hhead, hinit]
    exact state_init_list_answers cfg fs c hw
  by_cases hsend : c.svc.cmd = idSend
  · have hhead : requestHead c.svc.cmd = none := by
      rw [hsend]
      decide
    have hinit : stateInit cfg fs c = stateInitSend cfg fs c := by
      rw [stateInit, if_neg hstat, if_neg hlist, if_pos hsend]
    rw [hhead, hinit]
    exact state_init_send_answers cfg fs c hw
  by_cases hrecv : c.svc.cmd = idRecv
  · have hhead : requestHead c.svc.cmd = some sizeofData := by
      rw [requestHead, if_neg hstat, if_neg hlist, if_pos hrecv]
    have hinit : stateInit cfg fs c = stateInitRecv cfg fs c := by
      rw [stateInit, if_neg hstat, if_neg hlist, if_neg hsend, if_pos hrecv]
    rw [hhead, hinit]
    exact state_init_recv_answers cfg fs c hw
  · have hhead : requestHead c.svc.cmd = none := by
      rw [requestHead, if_neg hstat, if_neg hlist, if_neg hrecv]
    have hinit : stateInit cfg fs c = (-1, c) := by
      rw [stateInit, if_neg hstat, if_neg hlist, if_neg hsend, if_neg hrecv, if_neg hq]
    rw [hhead, hinit]
    exact quiet_refl c

/-- A reader that answers only where it ends the transfer. -/
theorem answers_after_read (c : SyncCtx ω) (n : ℕ) (fail next : SyncCtx ω → ℤ × SyncCtx ω)
    (hfail : Answers cfg (c.setSize 0) (fail (c.setSize 0)).2 (endHead (fail (c.setSize 0)).1))
    (hnext : Answers cfg (c.complete n) (next (c.complete n)).2
      (endHead (next (c.complete n)).1)) :
    Answers cfg c (afterRead (readFromPacket cfg c n) fail next).2
      (endHead (afterRead (readFromPacket cfg c n) fail next).1) := by
  rcases after_read_cases cfg c n fail next with ⟨-,hr⟩ | ⟨-,-,-,hr⟩ | ⟨-,-,-,hr⟩
  · rw [hr]
    exact answers_of_quiet cfg c (c.setSize 0) _ _ ⟨rfl,rfl,Iff.rfl⟩ hfail
  · rw [hr]
    exact answers_of_quiet cfg c (c.complete n) _ _ ⟨rfl,rfl,Iff.rfl⟩ hnext
  · rw [hr]
    exact ⟨rfl,rfl,Iff.rfl⟩

theorem reply_head_of_state (c : SyncCtx ω) (hs : c.svc.state ≠ .waitCmdData) :
    replyHead cfg fs c = endHead (stateProcess cfg fs c).1 := by
  rw [replyHead, if_neg (fun h => hs h.1.1)]

theorem state_wait_cmd_answers (c : SyncCtx ω) :
    Answers cfg c (stateWaitCmd cfg c).2 (endHead (stateWaitCmd cfg c).1) := by
  set d := c.emit (.header (min (sizeofReq-c.svc.size) c.p.msg.dataLength))
  have hd : Quiet c d := quiet_of_log c d _ rfl rfl rfl (by simp [SyncEvent.roomy])
  refine answers_of_quiet cfg _ _ _ _ hd (answers_after_read cfg d _ _ _ (quiet_refl _) ?_)
  unfold requestHeader
  split_ifs <;> exact ⟨rfl,rfl,Iff.rfl⟩

theorem state_process_send_header_answers (c : SyncCtx ω)
    (hw : c.p.writeLen ≤ cfg.payloadSize) :
    Answers cfg c (stateProcessSendHeader cfg c).2
      (endHead (stateProcessSendHeader cfg c).1) := by
  refine answers_after_read cfg c _ _ _ (prepare_fail_message_answers cfg _ _ (by decide) hw) ?_
  unfold sendHeader
  split_ifs
  · exact prepare_okay_message_answers cfg _ hw
  · exact prepare_fail_message_answers cfg _ _ (by decide) hw
  · exact ⟨rfl,rfl,Iff.rfl⟩

theorem state_process_send_file_answers (c : SyncCtx ω) (hw : c.p.writeLen ≤ cfg.payloadSize) :
    Answers cfg c (stateProcessSendFile cfg fs c).2
      (endHead (stateProcessSendFile cfg fs c).1) := by
  obtain ⟨d,hd,-,hp,hcases⟩ := state_process_send_file_cases cfg fs c
  obtain ⟨evs,hlog,hevs⟩ := write_block_log fs c.takeBlock (c.peek c.blockSize)
  rw [← hd] at hlog
  have hquiet : Quiet c d := by
    refine quiet_of_log c d evs ?_ ?_ hlog (roomy_of_is_write evs hevs)
    · rw [hp]
      rfl
    · rw [hp]
      rfl
  rcases hcases with ⟨-,-,hr⟩ | ⟨-,-,hr⟩ | ⟨-,hr⟩
  · rw [hr]
    exact ⟨hquiet.writeLen,hquiet.data,hquiet.roomy⟩
  · rw [hr]
    exact hquiet
  · rw [hr]
    exact fail_after_quiet cfg c d _ hquiet (by decide) hw

theorem state_process_send_sym_answers (c : SyncCtx ω) (hw : c.p.writeLen ≤ cfg.payloadSize) :
    Answers cfg c (stateProcessSendSym cfg fs c).2
      (endHead (stateProcessSendSym cfg fs c).1) := by
  refine answers_after_read cfg c _ _ _ (prepare_fail_message_answers cfg _ _ (by decide) hw) ?_
  set d := c.complete c.svc.namelen
  have hcall (b : SyncCtx ω) (target path : List UInt8) : Quiet b (sysSymlink fs b target path).2 :=
    quiet_of_log b _ _ rfl rfl (sys_symlink_log fs b _ _) (by simp [SyncEvent.roomy])
  unfold sendSymTarget
  dsimp only
  split_ifs
  · exact prepare_fail_message_answers cfg _ _ (by decide) hw
  · refine answers_of_quiet cfg _ _ _ _ ?_ (fail_after_quiet cfg _ _ _ (hcall _ _ _) (by decide) hw)
    exact ⟨rfl,rfl,Iff.rfl⟩
  · have h := hcall (d.setBuff (store d.svc.buff d.svc.namelen [0]))
      ((d.setBuff (store d.svc.buff d.svc.namelen [0])).name cfg) d.svc.u.linkText
    exact ⟨h.writeLen,h.data,h.roomy⟩

theorem state_wait_cmd_data_answers (c : SyncCtx ω) (h : c.svc.Wf cfg)
    (hs : c.svc.state = .waitCmdData) (hw : c.p.writeLen ≤ cfg.payloadSize) :
    Answers cfg c (stateWaitCmdData cfg fs c).2 (replyHead cfg fs c) := by
  have hprocess : stateProcess cfg fs c = stateWaitCmdData cfg fs c := by
    rw [stateProcess, hs]
  obtain ⟨hmax,hq,hlt⟩ := wf_waitCmdData cfg c.svc hs h
  rcases after_read_cases cfg c c.svc.namelen (fun c => (-1, c)) (requestName cfg fs) with
    ⟨hbad,-⟩ | ⟨-,-,hdone,hr⟩ | ⟨-,-,hshort,hr⟩
  · omega
  · have hname : c.nameComplete := ⟨hs,hdone⟩
    have hstart : stateWaitCmdData cfg fs c = requestName cfg fs (c.complete c.svc.namelen) := hr
    set d := c.complete c.svc.namelen
    set e := (d.setBuff (store d.svc.buff d.svc.namelen [0])).emit
      (.exec d.svc.cmd (slice (store d.svc.buff d.svc.namelen [0]) 0 d.svc.namelen)) with he
    have hrun : requestName cfg fs d = stateInit cfg fs e := if_neg (not_le.mpr hmax)
    have hquiet : Quiet c e := quiet_of_log c e _ rfl rfl rfl (by simp [SyncEvent.roomy])
    have hans := answers_of_quiet cfg _ _ _ _ hquiet (state_init_answers cfg fs e hw hq)
    have hhead : replyHead cfg fs c = if (requestHead c.svc.cmd).isSome
        then requestHead c.svc.cmd else endHead (stateInit cfg fs e).1 := by
      rw [replyHead, hprocess, hstart, hrun]
      simp only [hname, true_and]
    rw [hstart, hrun, hhead]
    exact hans
  · have hwait : stateWaitCmdData cfg fs c = (1, c.short) := hr
    have hname : ¬c.nameComplete := fun hn => absurd hn.2 (by omega)
    rw [replyHead, if_neg (fun hn => hname hn.1), hprocess, hwait]
    exact ⟨rfl,rfl,Iff.rfl⟩

theorem state_process_answers (c : SyncCtx ω) (h : c.svc.Wf cfg)
    (hw : c.p.writeLen ≤ cfg.payloadSize) :
    Answers cfg c (stateProcess cfg fs c).2 (replyHead cfg fs c) := by
  cases hs : c.svc.state
  case waitCmdData =>
    have hprocess : stateProcess cfg fs c = stateWaitCmdData cfg fs c := by rw [stateProcess, hs]
    rw [hprocess]
    exact state_wait_cmd_data_answers cfg fs c h hs hw
  all_goals
    rw [reply_head_of_state cfg fs c (by simp [hs])]
    simp only [stateProcess, hs]
  case waitCmd => exact state_wait_cmd_answers cfg c
  case processRecv => exact quiet_refl c
  case processList => exact quiet_refl c
  case processSendFileHdr => exact state_process_send_header_answers cfg c hw
  case processSendSymHdr => exact state_process_send_header_answers cfg c hw
  case processSendFileData => exact state_process_send_file_answers cfg fs c hw
  case processSendSymData =>
    split
    · exact state_process_send_sym_answers cfg fs c hw
    · exact quiet_refl c

theorem state_reset_quiet (c : SyncCtx ω) : Quiet c (stateReset fs c) := by
  unfold stateReset
  cases c.svc.state <;> exact ⟨rfl,rfl,by simp [SyncEvent.roomy]⟩

/-- One iteration of the loop writes the reply that replyHead tells, or none. -/
theorem sync_iter_answers (c : SyncCtx ω) (h : c.svc.Wf cfg)
    (hw : c.p.writeLen ≤ cfg.payloadSize) :
    Answers cfg c (syncIter cfg fs c).2 (replyHead cfg fs c) := by
  have hans := state_process_answers cfg fs c h hw
  unfold syncIter
  dsimp only
  split
  · exact answers_then_quiet cfg _ _ _ _ hans (state_reset_quiet fs _)
  · exact hans

theorem file_sync_on_ack_answers (c : SyncCtx ω) (h : c.svc.Wf cfg)
    (hw : c.p.writeLen ≤ cfg.payloadSize) :
    Answers cfg c (fileSyncOnAck cfg fs c).2 (ackHead c) := by
  have hack : Answers cfg c (stateAck cfg fs c.rewind).2 (ackHead c) := by
    refine answers_of_quiet cfg c c.rewind _ _ ⟨rfl,rfl,Iff.rfl⟩ ?_
    unfold stateAck ackHead
    cases hs : c.svc.state <;> simp only [SyncCtx.rewind, hs]
    case processRecv => exact state_process_recv_answers cfg fs _ hw
    case processList =>
      simp only [AfsService.Wf, hs] at h
      exact state_process_list_answers cfg fs _ (by simp only; omega) hw
    all_goals exact ⟨rfl,rfl,Iff.rfl⟩
  unfold fileSyncOnAck
  dsimp only
  split
  · exact hack
  · exact answers_then_quiet cfg _ _ _ _ hack (state_reset_quiet fs _)

end MicroADB
