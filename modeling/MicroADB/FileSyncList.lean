import MicroADB.FileSyncRecv

/-! The reply to a LIST request: a DENT record for every entry that readdir yields, one for
the request and one for each OKAY, and a DONE at the end. -/
namespace MicroADB
open ByteMemory EventRun

variable {ω : Type} {cfg : Config} {fs : FileSystem ω}

/-- lstat of an entry, which is not called when the path does not fit in the buffer. -/
def entryStat (cfg : Config) (fs : FileSystem ω) (dir : List UInt8) (s : ω) (name : List UInt8) :
    ω × Option Stat :=
  if dir.length+1+name.length < cfg.pathMax then fs.lstat s (dir ++ 47 :: name) else (s, none)

/-- The entries that readdir yields from the state s on, each with what lstat says of it. A name
is a C string. -/
inductive Entries (cfg : Config) (fs : FileSystem ω) (dir : List UInt8) (d : ℕ) :
    ω → List (List UInt8 × Option Stat) → Prop
  | last (s : ω) (h : (fs.readdir s d).2 = none) : Entries cfg fs dir d s []
  | entry (s : ω) (name : List UInt8) (entries : List (List UInt8 × Option Stat))
    (h : (fs.readdir s d).2 = some name) (hnul : (0 : UInt8) ∉ name)
    (rest : Entries cfg fs dir d (entryStat cfg fs dir (fs.readdir s d).1 name).1 entries) :
    Entries cfg fs dir d s
      ((name, (entryStat cfg fs dir (fs.readdir s d).1 name).2) :: entries)

/-- Mode, size and time, zeros when there is no struct stat. -/
def statWords : Option Stat → List UInt8
  | some st => le32 st.stMode ++ le32 (u32OfInt st.stSize) ++ le32 (u32OfInt st.stMtime)
  | none => le32 0 ++ le32 0 ++ le32 0

def dentRecord (cfg : Config) (e : List UInt8 × Option Stat) : List UInt8 :=
  le32 idDent ++ statWords e.2 ++ le32 (min e.1.length (cfg.payloadSize-sizeofDent)) ++
    e.1.take (cfg.payloadSize-sizeofDent)

def listDoneRecord : List UInt8 := le32 idDone ++ le32 0 ++ le32 0 ++ le32 0 ++ le32 0

def listRecords (cfg : Config) (entries : List (List UInt8 × Option Stat)) : List (List UInt8) :=
  entries.map (dentRecord cfg) ++ [listDoneRecord]

/-- The calls that acquire or release something. -/
def SyncEvent.holds : SyncEvent → Bool
  | .malloc _ (some _) | .free _ | .opendir _ (some _) | .closedir _ => true
  | _ => false

/-! One entry. -/

/-- list.path, with the directory and the slash in front of the name. -/
structure PathBuffer (cfg : Config) (dir : List UInt8) (raw text : Mem) : Prop where
  dir : slice text 0 (dir.length+1) = dir ++ [47]
  inside : ∀ i, cfg.pathMax ≤ i → text i = raw i

theorem length_stat_words (st : Option Stat) : (statWords st).length = 12 := by
  cases st <;> rfl

/-- A name is appended with its terminator, and the path is read back. -/
theorem PathBuffer.store_name {dir : List UInt8} {raw text : Mem}
    (h : PathBuffer cfg dir raw text) (name : List UInt8) (hdir : (0 : UInt8) ∉ dir)
    (hname : (0 : UInt8) ∉ name) (hfits : dir.length+1+name.length < cfg.pathMax) :
    PathBuffer cfg dir raw (store text (dir.length+1) (name ++ [0])) ∧
      cstring (store text (dir.length+1) (name ++ [0])) 0 cfg.pathMax = dir ++ 47 :: name := by
  have hfixed : slice (store text (dir.length+1) (name ++ [0])) 0 (dir.length+1) =
      dir ++ [47] := by
    rw [slice_store_disjoint _ _ _ _ _ (Or.inl (by omega)), h.dir]
  refine ⟨⟨hfixed,fun i hi => ?_⟩,?_⟩
  · rw [store_apply_of_ge _ _ _ _ (by rw [List.length_append, List.length_singleton]; omega)]
    exact h.inside i hi
  · have hlen : (dir ++ 47 :: name).length = dir.length+1+name.length := by
      rw [List.length_append, List.length_cons]
      omega
    have hslice : slice (store text (dir.length+1) (name ++ [0])) 0 (dir ++ 47 :: name).length =
        dir ++ 47 :: name := by
      rw [hlen, slice_add, hfixed, Nat.zero_add, ← store_append,
        slice_store_disjoint _ _ _ _ _ (Or.inl (by omega)), slice_store_self]
      simp
    refine cstring_of_slice _ 0 _ _ hslice ?_ ?_ (by rw [hlen]; exact hfits)
    · simp only [List.mem_append, List.mem_cons, not_or]
      exact ⟨hdir,by decide,hname⟩
    · rw [hlen, Nat.zero_add, ← store_append]
      exact store_apply_of_mem _ _ 0 [0] (by simp)

/-- What a listing has open: the directory, the buffer and the text in it. -/
structure Opened (cfg : Config) (dir : List UInt8) (d path : ℕ) (raw : Mem) (svc : AfsService) :
    Prop where
  union : ∃ text, svc.u = .list d path text (dir.length+1) ∧ PathBuffer cfg dir raw text

/-- The stat of an entry. -/
theorem stat_entry_spec {dir : List UInt8} {d path : ℕ} {raw : Mem} (c : SyncCtx ω)
    (name : List UInt8) (hdir : (0 : UInt8) ∉ dir) (hname : (0 : UInt8) ∉ name)
    (h : Opened cfg dir d path raw c.svc) :
    Opened cfg dir d path raw (statEntry cfg fs c name).svc ∧
      (statEntry cfg fs c name).svc.state = c.svc.state ∧
      (statEntry cfg fs c name).p = (c.put 4 (statWords (entryStat cfg fs dir c.os name).2)).p ∧
      (statEntry cfg fs c name).os = (entryStat cfg fs dir c.os name).1 ∧
      ∃ evs, (statEntry cfg fs c name).log = c.log ++ evs ∧ ∀ e ∈ evs, e.holds = false := by
  obtain ⟨text,hu,hbuffer⟩ := h.union
  have hptr : c.svc.u.filePtr = dir.length+1 := by rw [hu]; rfl
  have htext : c.svc.u.text = text := by rw [hu]; rfl
  have hd : c.svc.u.d = d := by rw [hu]; rfl
  have hpath : c.svc.u.path = path := by rw [hu]; rfl
  by_cases hfits : dir.length+1+name.length < cfg.pathMax
  · obtain ⟨hbuffer',hread⟩ := hbuffer.store_name name hdir hname hfits
    have hstat : entryStat cfg fs dir c.os name = fs.lstat c.os (dir ++ 47 :: name) := if_pos hfits
    set e := (c.emit (.room (cfg.pathMax-(dir.length+1 : ℕ)))).setUnion
      (.list d path (store text (dir.length+1) (name ++ [0])) (dir.length+1)) with he
    have hentry : statEntry cfg fs c name = (sysLstat fs e (dir ++ 47 :: name)).2.put 4
        (statWords (fs.lstat c.os (dir ++ 47 :: name)).2) := by
      have hres : (sysLstat fs e (dir ++ 47 :: name)).1 =
          (fs.lstat c.os (dir ++ 47 :: name)).2 := rfl
      unfold statEntry
      simp only [SyncCtx.emit_svc, hptr, htext, hd, hpath]
      rw [if_neg (by push_cast; omega), hread, ← he, hres]
      cases (fs.lstat c.os (dir ++ 47 :: name)).2 <;> rfl
    rw [hentry, hstat]
    exact ⟨⟨_,rfl,hbuffer'⟩,rfl,rfl,rfl,[.room (cfg.pathMax-(dir.length+1 : ℕ)),
      .lstat (dir ++ 47 :: name) (fs.lstat c.os (dir ++ 47 :: name)).2.isSome],
      List.append_assoc _ _ _,by simp [SyncEvent.holds]⟩
  · have hstat : entryStat cfg fs dir c.os name = (c.os, none) := if_neg hfits
    have hentry : statEntry cfg fs c name =
        (c.emit (.room (cfg.pathMax-(dir.length+1 : ℕ)))).put 4 (statWords none) := by
      unfold statEntry
      simp only [SyncCtx.emit_svc, hptr]
      rw [if_pos (by push_cast; omega)]
      rfl
    rw [hentry, hstat]
    exact ⟨h,rfl,rfl,rfl,[.room (cfg.pathMax-(dir.length+1 : ℕ))],rfl,by simp [SyncEvent.holds]⟩

/-- A block that is stored in four parts. -/
theorem slice_dent (m : Mem) (a b c bs : List UInt8) (ha : a.length = 4) (hb : b.length = 12)
    (hc : c.length = 4) :
    slice (store (store (store (store m 4 b) 0 a) 16 c) 20 bs) 0 (20+bs.length) =
      a ++ b ++ c ++ bs := by
  have hsplit : 20+bs.length = 4+12+4+bs.length := by omega
  have hself (m : Mem) (o n : ℕ) (xs : List UInt8) (hn : xs.length = n) :
      slice (store m o xs) o n = xs := hn ▸ slice_store_self m o xs
  have hother (m : Mem) (o p n : ℕ) (xs : List UInt8) (h : p+n ≤ o ∨ o+xs.length ≤ p) :
      slice (store m o xs) p n = slice m p n := slice_store_disjoint m o p n xs h
  rw [hsplit, slice_add, slice_add, slice_add]
  congr 1
  · congr 1
    · congr 1
      · rw [hother _ 20 _ _ _ (Or.inl (by omega)), hother _ 16 _ _ _ (Or.inl (by omega)),
          hself _ _ _ _ ha]
      · rw [hother _ 20 _ _ _ (Or.inl (by omega)), hother _ 16 _ _ _ (Or.inl (by omega)),
          hother _ 0 _ _ _ (Or.inr (by omega)), hself _ _ _ _ hb]
    · rw [hother _ 20 _ _ _ (Or.inl (by omega)), hself _ _ _ _ hc]
  · exact hself _ _ _ _ rfl

/-- The rest of a DENT record behind the stat of the entry. -/
theorem dent_reply (h64 : 64 ≤ cfg.payloadSize) (c : SyncCtx ω) (name : List UInt8)
    (st : Option Stat) (m : Mem) (hw : c.p.writeLen = 0) (hname : name.length < 2^30)
    (hdata : c.p.data = store m 4 (statWords st)) :
    (putDent cfg c name).reply = dentRecord cfg (name, st) := by
  have hmax := cfg.payload_lt
  set k := min name.length (cfg.payloadSize-sizeofDent) with hk
  have hlen : dentLen (cfg.payloadSize-sizeofDent-c.p.writeLen) name.length = k := by
    unfold dentLen
    split <;> unfold sizeofDent at * <;> omega
  have hword : u32OfInt (k : ℤ) = k := by
    unfold u32OfInt
    omega
  have htake : name.take k = name.take (cfg.payloadSize-sizeofDent) := by
    rw [hk, Nat.min_comm]
    exact List.take_eq_take_min.symm
  have hcount : (name.take k).length = k := List.length_take_of_le (Nat.min_le_left _ _)
  have hsize : sizeT (sizeofDent+(k : ℤ)) = sizeofDent+k := by
    rw [sizeT_of_nonneg] <;> unfold sizeofDent <;> omega
  have hput : putDent cfg c name = ((((c.emit (.room (cfg.payloadSize-sizeofDent-c.p.writeLen))).put 0
      (le32 idDent)).put 16 (le32 k)).put sizeofDent (name.take k)).advance (sizeofDent+k) := by
    unfold putDent
    simp only [hlen, hword, hsize, Int.toNat_natCast]
  have hwrite : (putDent cfg c name).p.writeLen = 20+(name.take k).length := by
    rw [hput, hcount]
    change u32 (c.p.writeLen+(sizeofDent+k)) = _
    rw [hw, u32_of_lt _ (by unfold sizeofDent; omega)]
    unfold sizeofDent
    omega
  have hstored : (putDent cfg c name).p.data = store (store (store (store m 4 (statWords st)) 0
      (le32 idDent)) 16 (le32 k)) 20 (name.take k) := by
    rw [hput]
    change store (store (store c.p.data (c.p.writeLen+0) _) (c.p.writeLen+16) _)
      (c.p.writeLen+sizeofDent) _ = _
    rw [hw, hdata]
    rfl
  rw [SyncCtx.reply, hwrite, hstored,
    slice_dent m (le32 idDent) (statWords st) (le32 k) _ rfl (length_stat_words st) rfl,
    dentRecord, htake]

/-! The listing. -/

/-- The run that started with the trace log has still to answer the records: the directory is
open, or it and the buffer were released and the service is idle. -/
inductive Listing (cfg : Config) (fs : FileSystem ω) (dir : List UInt8) (d path : ℕ) (raw : Mem)
    (log : List SyncEvent) (t : SyncRun ω) : List (List UInt8) → Prop
  | lists (entries : List (List UInt8 × Option Stat)) (opened : t.closed = false)
    (state : t.svc.state = .processList) (held : Opened cfg dir d path raw t.svc)
    (entries_eq : Entries cfg fs dir d t.os entries)
    (events : ∃ evs, t.log = log ++ evs ∧ evs.filter SyncEvent.holds =
      [.malloc cfg.pathMax (some path),.opendir dir (some d)]) :
    Listing cfg fs dir d path raw log t (listRecords cfg entries)
  | idle (opened : t.closed = false) (state : t.svc.state = .waitCmd) (size : t.svc.size = 0)
    (held : Opened cfg dir d path raw t.svc)
    (events : ∃ evs, t.log = log ++ evs ∧ evs.filter SyncEvent.holds =
      [.malloc cfg.pathMax (some path),.opendir dir (some d),.free path,.closedir d]) :
    Listing cfg fs dir d path raw log t []

section
variable {dir : List UInt8} {d path : ℕ} {raw : Mem} {log : List SyncEvent}

theorem Opened.handles {svc : AfsService} (h : Opened cfg dir d path raw svc) :
    svc.u.d = d ∧ svc.u.path = path := by
  obtain ⟨text,hu,-⟩ := h.union
  rw [hu]
  exact ⟨rfl,rfl⟩

/-- Calls that acquire and release nothing. -/
theorem filter_holds_append {evs es held : List SyncEvent}
    (h : evs.filter SyncEvent.holds = held) (hes : ∀ e ∈ es, e.holds = false) :
    (evs ++ es).filter SyncEvent.holds = held := by
  rw [List.filter_append, h, List.filter_eq_nil_iff.mpr (by simpa using hes), List.append_nil]

/-- Behind the last entry: the last record, and what the reset releases. -/
theorem list_record_last (c : SyncCtx ω) (hw : c.p.writeLen = 0)
    (hstate : c.svc.state = .processList) (hopened : Opened cfg dir d path raw c.svc)
    (hres : (sysReaddir fs c d).1 = none)
    (hlog : ∃ evs, c.log = log ++ evs ∧ evs.filter SyncEvent.holds =
      [.malloc cfg.pathMax (some path),.opendir dir (some d)]) :
    (stateProcessList cfg fs c).1 = 0 ∧
      (stateReset fs (stateProcessList cfg fs c).2).reply = listDoneRecord ∧
      Listing cfg fs dir d path raw log
        ((stateReset fs (stateProcessList cfg fs c).2).run false) [] := by
  obtain ⟨evs,hevs,hholds⟩ := hlog
  obtain ⟨hd,hpath⟩ := hopened.handles
  set q := (sysReaddir fs c d).2 with hq
  have hqlog : q.log = log ++ (evs ++ [.readdir d (fs.readdir c.os d).2]) := by
    rw [hq, sys_readdir_log, hevs, List.append_assoc]
    rfl
  have hdone : stateProcessList cfg fs c = (0, putListDone q) := by
    unfold stateProcessList
    dsimp only
    rw [hd, hres]
  have hreset : stateReset fs (putListDone q) =
      ((sysClosedir fs (sysFree fs (putListDone q) path) d).setState .waitCmd).setSize 0 := by
    have hqstate : (putListDone q).svc.state = .processList := hstate
    have hqd : (putListDone q).svc.u.d = d := hd
    have hqpath : (putListDone q).svc.u.path = path := hpath
    simp only [stateReset, hqstate, hqpath, hqd]
  rw [hdone, hreset]
  refine ⟨rfl,reply_put q listDoneRecord hw (by decide),.idle rfl rfl rfl ⟨hopened.union⟩
    ⟨(evs ++ [.readdir d (fs.readdir c.os d).2]) ++ [.free path,.closedir d],?_,?_⟩⟩
  · change q.log ++ [.free path] ++ [.closedir d] = _
    rw [hqlog]
    simp only [List.append_assoc]
    rfl
  · rw [List.filter_append, filter_holds_append hholds (by simp [SyncEvent.holds])]
    rfl

/-- An entry: its record, with the directory still open. -/
theorem list_record_entry (h64 : 64 ≤ cfg.payloadSize) (hdir : (0 : UInt8) ∉ dir) (c : SyncCtx ω)
    (name : List UInt8) (entries : List (List UInt8 × Option Stat)) (hw : c.p.writeLen = 0)
    (hstate : c.svc.state = .processList) (hopened : Opened cfg dir d path raw c.svc)
    (hname : (fs.readdir c.os d).2 = some name) (hnul : (0 : UInt8) ∉ name)
    (hrest : Entries cfg fs dir d (entryStat cfg fs dir (fs.readdir c.os d).1 name).1 entries)
    (hlog : ∃ evs, c.log = log ++ evs ∧ evs.filter SyncEvent.holds =
      [.malloc cfg.pathMax (some path),.opendir dir (some d)]) :
    (stateProcessList cfg fs c).1 = 1 ∧
      (stateProcessList cfg fs c).2.reply =
        dentRecord cfg (name, (entryStat cfg fs dir (fs.readdir c.os d).1 name).2) ∧
      Listing cfg fs dir d path raw log ((stateProcessList cfg fs c).2.run false)
        (listRecords cfg entries) := by
  obtain ⟨evs,hevs,hholds⟩ := hlog
  have hd := hopened.handles.1
  have hres : (sysReaddir fs c d).1 = some name := hname
  set q := (sysReaddir fs c d).2 with hq
  have hqlog : q.log = log ++ (evs ++ [.readdir d (fs.readdir c.os d).2]) := by
    rw [hq, sys_readdir_log, hevs, List.append_assoc]
    rfl
  obtain ⟨hopened',hstate',hp,hos,es,hes,hnone⟩ := stat_entry_spec q name hdir hnul hopened
  have hqstate : q.svc.state = .processList := hstate
  have hqos : q.os = (fs.readdir c.os d).1 := rfl
  have hput : stateProcessList cfg fs c = (1, putDent cfg (statEntry cfg fs q name) name) := by
    unfold stateProcessList
    dsimp only
    rw [hd, hres]
  rw [hput]
  rw [hqstate] at hstate'
  rw [hqos] at hp hos
  generalize statEntry cfg fs q name = e at hopened' hstate' hp hos hes ⊢
  dsimp only
  refine ⟨rfl,?_,?_⟩
  · refine dent_reply h64 _ name _ c.p.data ?_ (fs.readdir_lt _ _ _ hname) ?_
    · rw [hp]
      exact hw
    · rw [hp]
      change store c.p.data (c.p.writeLen+4) _ = _
      rw [hw]
  · refine .lists entries rfl hstate' ⟨hopened'.union⟩ ?_ ⟨evs ++
      ([.readdir d (fs.readdir c.os d).2] ++ es ++
        [.room (cfg.payloadSize-sizeofDent-e.p.writeLen)]),?_,?_⟩
    · change Entries cfg fs dir d e.os entries
      rw [hos]
      exact hrest
    · change (putDent cfg e name).log = _
      rw [put_dent_log, hes, hqlog]
      simp only [List.append_assoc]
    · refine filter_holds_append hholds (fun x hx => ?_)
      simp only [List.mem_append, List.mem_singleton] at hx
      rcases hx with (rfl | hx) | rfl
      · rfl
      · exact hnone x hx
      · rfl

/-- One record of a listing. -/
theorem list_record (h64 : 64 ≤ cfg.payloadSize) (hdir : (0 : UInt8) ∉ dir) (c : SyncCtx ω)
    (entries : List (List UInt8 × Option Stat)) (hw : c.p.writeLen = 0)
    (hstate : c.svc.state = .processList) (hopened : Opened cfg dir d path raw c.svc)
    (h : Entries cfg fs dir d c.os entries)
    (hlog : ∃ evs, c.log = log ++ evs ∧ evs.filter SyncEvent.holds =
      [.malloc cfg.pathMax (some path),.opendir dir (some d)]) :
    ∃ r rs, listRecords cfg entries = r :: rs ∧
      ((stateProcessList cfg fs c).1 = 1 ∧ (stateProcessList cfg fs c).2.reply = r ∧
          Listing cfg fs dir d path raw log ((stateProcessList cfg fs c).2.run false) rs ∨
        (stateProcessList cfg fs c).1 = 0 ∧
          (stateReset fs (stateProcessList cfg fs c).2).reply = r ∧
          Listing cfg fs dir d path raw log
            ((stateReset fs (stateProcessList cfg fs c).2).run false) rs) := by
  cases h with
  | last _ h => exact ⟨_,_,rfl,Or.inr (list_record_last c hw hstate hopened h hlog)⟩
  | entry _ name entries h hnul hrest =>
    exact ⟨_,_,rfl,Or.inl
      (list_record_entry h64 hdir c name entries hw hstate hopened h hnul hrest hlog)⟩

theorem listing_after {t : SyncRun ω} {c : SyncCtx ω} {rs : List (List UInt8)} (ht : t.After c)
    (h : Listing cfg fs dir d path raw log (c.run false) rs) :
    Listing cfg fs dir d path raw log t rs := by
  obtain ⟨m,hsvc⟩ := ht.svc
  cases h with
  | lists entries _ state held hentries events =>
    refine .lists entries ht.opened ?_ ?_ (ht.os ▸ hentries) (ht.log ▸ events)
    · rw [hsvc]
      exact state
    · rw [hsvc]
      exact ⟨held.union⟩
  | idle _ state size held events =>
    refine .idle ht.opened ?_ ?_ ?_ (ht.log ▸ events)
    · rw [hsvc]
      exact state
    · rw [hsvc]
      exact size
    · rw [hsvc]
      exact ⟨held.union⟩

/-- Nothing is left to answer: the service is idle. -/
theorem Listing.idle_state {t : SyncRun ω} (h : Listing cfg fs dir d path raw log t []) :
    t.svc.state = .waitCmd ∧ t.svc.size = 0 ∧ ∃ evs, t.log = log ++ evs ∧
      evs.filter SyncEvent.holds =
        [.malloc cfg.pathMax (some path),.opendir dir (some d),.free path,.closedir d] := by
  generalize hl : ([] : List (List UInt8)) = l at h
  cases h with
  | lists entries => exact absurd hl.symm (by simp [listRecords])
  | idle _ state size _ events => exact ⟨state,size,events⟩

theorem Listing.buffer {t : SyncRun ω} {rs : List (List UInt8)}
    (h : Listing cfg fs dir d path raw log t rs) (i : ℕ) (hi : cfg.pathMax ≤ i) :
    t.svc.u.text i = raw i := by
  have hopened : Opened cfg dir d path raw t.svc := by
    cases h <;> assumption
  obtain ⟨text,hu,hbuffer⟩ := hopened.union
  rw [hu]
  exact hbuffer.inside i hi

theorem list_ack (h64 : 64 ≤ cfg.payloadSize) (hdir : (0 : UInt8) ∉ dir) (t : SyncRun ω)
    (f : SyncFrame cfg) (r : List UInt8) (rs : List (List UInt8))
    (h : Listing cfg fs dir d path raw log t (r :: rs)) :
    ∃ c, fileSyncOnAck cfg fs (t.ctx f.packet) = (0, c) ∧ c.reply = r ∧
      Listing cfg fs dir d path raw log (c.run false) rs := by
  generalize hl : r :: rs = l at h
  cases h with
  | idle => cases hl
  | lists entries opened state held hentries events =>
    have hack : stateAck cfg fs (t.ctx f.packet).rewind =
        stateProcessList cfg fs (t.ctx f.packet).rewind := by
      have hs : (t.ctx f.packet).rewind.svc.state = .processList := state
      simp only [stateAck, hs]
    obtain ⟨r',rs',hr,hcase⟩ := list_record h64 hdir (t.ctx f.packet).rewind entries rfl state
      ⟨held.union⟩ hentries events
    obtain ⟨rfl,rfl⟩ := List.cons.inj (hl.trans hr)
    unfold fileSyncOnAck
    rw [hack]
    rcases hcase with ⟨hret,hreply,hlisting⟩ | ⟨hret,hreply,hlisting⟩
    · dsimp only
      rw [if_pos (by rw [hret]; decide)]
      exact ⟨_,rfl,hreply,hlisting⟩
    · dsimp only
      rw [if_neg (by rw [hret]; decide), hret]
      exact ⟨_,rfl,hreply,hlisting⟩

end

/-! The request. -/

theorem SyncEvent.holds_of_header {e : SyncEvent} (h : e.isHeader) : e.holds = false := by
  cases e with
  | header => rfl
  | _ => cases h

/-- The context in which the request is executed. -/
theorem list_request (cfg : Config) (fs : FileSystem ω) (s : SyncRun ω) (dir : List UInt8)
    (hdir : (0 : UInt8) ∉ dir)
    (hlt : dir.length < cfg.pathMax) (c : SyncCtx ω) (hc : Complete idList dir s c) :
    ∃ d : SyncCtx ω, requestName cfg fs c = stateInitList cfg fs d ∧ d.name cfg = dir ∧
      d.os = s.os ∧ d.p.writeLen = 0 ∧ d.svc.state = .waitCmdData ∧
      ∃ evs, d.log = s.log ++ evs ∧ evs.filter SyncEvent.holds = [] := by
  obtain ⟨hs,hlog,hheaders⟩ := hc.log
  set b := store c.svc.buff c.svc.namelen [0] with hb
  set d := (c.setBuff b).emit (.exec idList (slice b 0 c.svc.namelen)) with hd
  have hcmd : (c.setBuff b).svc.cmd = idList := hc.cmd
  have hname : d.name cfg = dir := hc.name_eq.trans (cName_eq hlt hdir)
  refine ⟨d,?_,hname,hc.os,hc.writeLen,hc.state,hs ++ [.exec idList (slice b 0 c.svc.namelen)],?_,?_⟩
  · have hdcmd : d.svc.cmd = idList := hc.cmd
    have hinit : stateInit cfg fs d = stateInitList cfg fs d := by
      rw [stateInit, hdcmd, if_neg (by decide), if_pos rfl]
    rw [requestName, if_neg (by rw [hc.namelen]; omega)]
    dsimp only
    rw [hcmd]
    exact hinit
  · change c.log ++ [_] = _
    rw [hlog, List.append_assoc]
  · refine List.filter_eq_nil_iff.mpr (fun x hx => ?_)
    rcases List.mem_append.mp hx with hx | hx
    · simp [SyncEvent.holds_of_header (hheaders x hx)]
    · rw [List.mem_singleton.mp hx]
      simp [SyncEvent.holds]

/-- What the service answers and leaves when the directory cannot be listed. -/
structure Unlisted (fs : FileSystem ω) (log held : List SyncEvent) (c : SyncCtx ω) : Prop where
  reply : c.reply = listDoneRecord
  state : c.svc.state = .waitCmd
  size : c.svc.size = 0
  events : ∃ evs, c.log = log ++ evs ∧ evs.filter SyncEvent.holds = held

theorem execute_of_zero {c d : SyncCtx ω} (h : requestName cfg fs c = (0, d)) :
    execute cfg fs c = (0, stateReset fs d) := by
  rw [execute, h]
  dsimp only
  rw [if_pos le_rfl]

/-- A directory whose name is too long, or which cannot be opened. -/
theorem list_execute_fails (s : SyncRun ω) (dir : List UInt8) (path : ℕ) (raw : Mem)
    (hdir : (0 : UInt8) ∉ dir) (hlt : dir.length < cfg.pathMax)
    (hmalloc : (fs.malloc s.os cfg.pathMax).2 = some (path, raw))
    (hfail : cfg.pathMax-3 ≤ dir.length ∨
      (fs.opendir (fs.malloc s.os cfg.pathMax).1 dir).2 = none)
    (c : SyncCtx ω) (hc : Complete idList dir s c) :
    (execute cfg fs c).1 = 0 ∧ Unlisted fs s.log
      (if cfg.pathMax-3 ≤ dir.length then []
        else [.malloc cfg.pathMax (some path),.free path]) (execute cfg fs c).2 := by
  obtain ⟨d,hrun,hname,hos,hw,hstate,evs,hlog,hholds⟩ := list_request cfg fs s dir
    hdir hlt c hc
  have hreset (e : SyncCtx ω) (hstate : e.svc.state = .waitCmdData) :
      stateReset fs e = (e.setState .waitCmd).setSize 0 := by
    simp only [stateReset, hstate]
  by_cases hlong : cfg.pathMax-3 ≤ dir.length
  · have hzero : requestName cfg fs c = (0, putListDone d) := by
      rw [hrun, stateInitList, hname, if_pos hlong]
    rw [execute_of_zero hzero, if_pos hlong, hreset (putListDone d) hstate]
    exact ⟨rfl,reply_put d listDoneRecord hw (by decide),rfl,rfl,evs,hlog,hholds⟩
  · have hres : (sysMalloc fs d cfg.pathMax).1 = some (path, raw) := by
      rw [← hmalloc, ← hos]
      rfl
    have hnone := hfail.resolve_left hlong
    set e := (sysMalloc fs d cfg.pathMax).2.setUnion
      (.list 0 path (store raw 0 (dir ++ [47])) (dir.length+1)) with he
    have hopen : (fs.opendir e.os dir).2 = none := by
      rw [← hnone, ← hos]
      rfl
    set g := sysFree fs (sysOpendir fs e dir).2 path with hg
    have hzero : requestName cfg fs c = (0, putListDone g) := by
      have hopen' : (sysOpendir fs e dir).1 = none := hopen
      rw [hrun, stateInitList, hname]
      dsimp only
      rw [if_neg hlong, hres]
      dsimp only
      rw [hopen']
    have hglog : g.log = d.log ++ [.malloc cfg.pathMax ((fs.malloc d.os cfg.pathMax).2.map Prod.fst)] ++
        [.opendir dir (fs.opendir e.os dir).2] ++ [.free path] := rfl
    have hmres : (fs.malloc d.os cfg.pathMax).2.map Prod.fst = some path := by
      rw [hos, hmalloc]
      rfl
    rw [hmres, hopen, hlog] at hglog
    rw [execute_of_zero hzero, if_neg hlong, hreset (putListDone g) hstate]
    refine ⟨rfl,reply_put g listDoneRecord hw (by decide),rfl,rfl,
      evs ++ [.malloc cfg.pathMax (some path),.opendir dir none,.free path],?_,?_⟩
    · refine hglog.trans ?_
      simp only [List.append_assoc, List.cons_append, List.nil_append]
    · rw [List.filter_append, hholds]
      rfl

/-- A directory that is opened: the first record. -/
theorem list_execute_opens (h64 : 64 ≤ cfg.payloadSize) (s : SyncRun ω) (dir : List UInt8)
    (path d : ℕ) (raw : Mem) (entries : List (List UInt8 × Option Stat))
    (hdir : (0 : UInt8) ∉ dir) (hlt : dir.length < cfg.pathMax-3)
    (hmalloc : (fs.malloc s.os cfg.pathMax).2 = some (path, raw))
    (hopen : (fs.opendir (fs.malloc s.os cfg.pathMax).1 dir).2 = some d)
    (hentries : Entries cfg fs dir d (fs.opendir (fs.malloc s.os cfg.pathMax).1 dir).1 entries)
    (c : SyncCtx ω) (hc : Complete idList dir s c) :
    0 ≤ (execute cfg fs c).1 ∧ ∃ r rs, listRecords cfg entries = r :: rs ∧
      (execute cfg fs c).2.reply = r ∧
      Listing cfg fs dir d path raw s.log ((execute cfg fs c).2.run false) rs := by
  obtain ⟨b,hrun,hname,hos,hw,-,evs,hlog,hholds⟩ := list_request cfg fs s dir hdir
    (by omega) c hc
  have hres : (sysMalloc fs b cfg.pathMax).1 = some (path, raw) := by
    rw [← hmalloc, ← hos]
    rfl
  set text := store raw 0 (dir ++ [47]) with htext
  set e := (sysMalloc fs b cfg.pathMax).2.setUnion (.list 0 path text (dir.length+1)) with he
  have heos : e.os = (fs.malloc s.os cfg.pathMax).1 := by
    rw [← hos]
    rfl
  have hopened : (sysOpendir fs e dir).1 = some d := by
    rw [← hopen, ← heos]
    rfl
  set f := ((sysOpendir fs e dir).2.setUnion (.list d path text (dir.length+1))).setState
    .processList with hf
  have hinit : stateInitList cfg fs b = stateProcessList cfg fs f := by
    rw [stateInitList, hname]
    dsimp only
    rw [if_neg (by omega), hres]
    dsimp only
    rw [hopened]
  have hbuffer : PathBuffer cfg dir raw text := by
    have hlen : (dir ++ [(47 : UInt8)]).length = dir.length+1 := by simp
    refine ⟨hlen ▸ slice_store_self raw 0 (dir ++ [47]),fun i hi => ?_⟩
    exact store_apply_of_ge _ _ _ _ (by rw [hlen]; omega)
  have hevents : ∃ evs, f.log = s.log ++ evs ∧ evs.filter SyncEvent.holds =
      [.malloc cfg.pathMax (some path),.opendir dir (some d)] := by
    refine ⟨evs ++ [.malloc cfg.pathMax (some path),.opendir dir (some d)],?_,?_⟩
    · have hmres : (fs.malloc b.os cfg.pathMax).2.map Prod.fst = some path := by
        rw [hos, hmalloc]
        rfl
      have hores : (fs.opendir e.os dir).2 = some d := hopened
      change b.log ++ [.malloc cfg.pathMax ((fs.malloc b.os cfg.pathMax).2.map Prod.fst)] ++
        [.opendir dir (fs.opendir e.os dir).2] = _
      rw [hmres, hores, hlog]
      simp only [List.append_assoc]
      rfl
    · rw [List.filter_append, hholds]
      rfl
  have hfos : Entries cfg fs dir d f.os entries := by
    have hos' : f.os = (fs.opendir (fs.malloc s.os cfg.pathMax).1 dir).1 := by
      rw [← heos]
      rfl
    rw [hos']
    exact hentries
  obtain ⟨r,rs,hr,hcase⟩ := list_record h64 hdir f entries hw rfl ⟨⟨text,rfl,hbuffer⟩⟩ hfos hevents
  unfold execute
  rw [hrun, hinit]
  dsimp only
  rcases hcase with ⟨hret,hreply,hlisting⟩ | ⟨hret,hreply,hlisting⟩
  · rw [if_neg (by rw [hret]; decide), hret]
    exact ⟨by decide,r,rs,hr,hreply,hlisting⟩
  · rw [if_pos (by rw [hret]), hret]
    exact ⟨le_rfl,r,rs,hr,hreply,hlisting⟩

/-- The answer to a request in these packets and to the OKAYs behind it: one of the packets
is answered with the first record and the others with nothing, every OKAY is answered with the
next record and with nothing behind the last, and then the service is idle. -/
structure Answered (cfg : Config) (fs : FileSystem ω) (s : SyncRun ω)
    (frames acks : List (SyncFrame cfg)) (first : List UInt8)
    (rest : List (List UInt8)) : Prop where
  writes : ∃ i j, i+1+j = frames.length ∧ writeResults cfg fs s frames =
    List.replicate i (0, []) ++ [(0, first)] ++ List.replicate j (0, [])
  acked : ackResults cfg fs (writeRun cfg fs s frames) acks =
    rest.map (fun r => (0, r)) ++ List.replicate (acks.length-rest.length) (0, [])
  state : (ackRun cfg fs (writeRun cfg fs s frames) acks).svc.state = .waitCmd
  size : (ackRun cfg fs (writeRun cfg fs s frames) acks).svc.size = 0
  opened : (ackRun cfg fs (writeRun cfg fs s frames) acks).closed = false

/-- The calls of the run that acquire or release something. -/
def heldCalls (cfg : Config) (fs : FileSystem ω) (s : SyncRun ω)
    (frames acks : List (SyncFrame cfg)) :
    List SyncEvent :=
  (s.since (ackRun cfg fs (writeRun cfg fs s frames) acks)).filter SyncEvent.holds

/-- A LIST of a directory, alone from the idle state and cut into packets anywhere, when there
is memory for the path: every entry that readdir yields is sent in a DENT record, in order, then
DONE; the directory and the buffer are released once, and nothing is written behind the buffer.
A directory that cannot be opened, or whose name is too long, is answered with DONE alone. -/
theorem list_sends_entries (cfg : Config) (fs : FileSystem ω) (h64 : 64 ≤ cfg.payloadSize)
    (s : SyncRun ω) (dir : List UInt8) (path : ℕ) (raw : Mem) (frames acks : List (SyncFrame cfg))
    (hopen : s.closed = false) (hstate : s.svc.state = .waitCmd) (hsize : s.svc.size = 0)
    (hne : dir ≠ []) (hnul : (0 : UInt8) ∉ dir) (hlt : dir.length < cfg.pathMax)
    (hsplit : (frames.map SyncFrame.bytes).flatten = syncRequest idList dir)
    (hmalloc : (fs.malloc s.os cfg.pathMax).2 = some (path, raw)) :
    (∀ d entries, dir.length < cfg.pathMax-3 →
      (fs.opendir (fs.malloc s.os cfg.pathMax).1 dir).2 = some d →
      Entries cfg fs dir d (fs.opendir (fs.malloc s.os cfg.pathMax).1 dir).1 entries →
      entries.length ≤ acks.length →
        (∃ first rest, listRecords cfg entries = first :: rest ∧
          Answered cfg fs s frames acks first rest) ∧
        heldCalls cfg fs s frames acks =
          [.malloc cfg.pathMax (some path),.opendir dir (some d),.free path,.closedir d] ∧
        ∀ k i, cfg.pathMax ≤ i →
          (ackRun cfg fs (writeRun cfg fs s frames) (acks.take k)).svc.u.text i = raw i) ∧
    (cfg.pathMax-3 ≤ dir.length ∨
        (fs.opendir (fs.malloc s.os cfg.pathMax).1 dir).2 = none →
      Answered cfg fs s frames acks listDoneRecord [] ∧
        heldCalls cfg fs s frames acks = if cfg.pathMax-3 ≤ dir.length then []
          else [.malloc cfg.pathMax (some path),.free path]) := by
  refine ⟨fun d entries hshort hdir hentries hacks => ?_,fun hfail => ?_⟩
  · have hexecute := list_execute_opens h64 s dir path d raw entries hnul hshort hmalloc hdir hentries
    obtain ⟨c,i,j,hdone,hlen,hres,hafter⟩ := request_delivered (by decide) (by decide)
      hne hlt (fun c hc => (hexecute c hc).1) frames hopen hstate hsize hsplit
    obtain ⟨-,first,rest,hrecords,hreply,hlisting⟩ := hexecute c hdone
    have hcount : rest.length = entries.length := by
      have hl := congrArg List.length hrecords
      simpa [listRecords] using hl.symm
    obtain ⟨hacked,hst,hsz,hcl,⟨u,hidle,hlog⟩,hfixed⟩ :=
      acks_served (Listing cfg fs dir d path raw s.log)
        (fun t rs h => by cases h <;> assumption) (fun t f r rs h => list_ack h64 hnul t f r rs h)
        (fun t h => ⟨h.idle_state.1,h.idle_state.2.1⟩) rest acks (hcount ▸ hacks) _
        (listing_after hafter hlisting)
    obtain ⟨-,-,evs,hevs,hheld⟩ := hidle.idle_state
    refine ⟨⟨first,rest,hrecords,⟨i,j,hlen,hreply ▸ hres⟩,hacked,hst,hsz,hcl⟩,?_,fun k i hi => ?_⟩
    · rw [heldCalls, SyncRun.since, hlog, hevs, List.drop_left]
      exact hheld
    · obtain ⟨t,rs,ht,hu⟩ := hfixed k
      rw [hu]
      exact ht.buffer i hi
  · have hexecute := list_execute_fails s dir path raw hnul hlt hmalloc hfail
    obtain ⟨c,i,j,hdone,hlen,hres,hafter⟩ := request_delivered (by decide) (by decide)
      hne hlt (fun c hc => (hexecute c hc).1.ge) frames hopen hstate hsize hsplit
    obtain ⟨-,hun⟩ := hexecute c hdone
    obtain ⟨n,hsvc⟩ := hafter.svc
    obtain ⟨evs,hevs,hheld⟩ := hun.events
    obtain ⟨hacked,hst,hsz,hcl,hlog,-⟩ := idle_acks fs acks (writeRun cfg fs s frames)
      hafter.opened (by rw [hsvc]; exact hun.state) (by rw [hsvc]; exact hun.size)
    refine ⟨⟨⟨i,j,hlen,hun.reply ▸ hres⟩,hacked,hst,hsz,hcl⟩,?_⟩
    rw [heldCalls, SyncRun.since, hlog, hafter.log, hevs, List.drop_left]
    exact hheld

/-- A file system with one directory, of one entry. -/
def listableFs : FileSystem ℕ :=
  { readableFs with
    lstat := fun s _ => (s, some ⟨33188,3,7⟩)
    opendir := fun s _ => (s, some 5)
    readdir := fun s _ => (s+1, if s = 0 then some (ascii "b") else none)
    readdir_lt := fun s _ name h => by
      by_cases hs : s = 0
      · obtain rfl := Option.some.inj ((if_pos hs).symm.trans h)
        decide
      · rw [if_neg hs] at h
        cases h }

/-- The request in one packet, and an OKAY behind the entry. -/
theorem list_sends_one_entry :
    ackResults readmeConfig listableFs (writeRun readmeConfig listableFs (syncStart default 0)
        [.ofBytes readmeConfig (syncRequest idList (ascii "/a")) (by decide)])
      [.ofBytes readmeConfig [] (by decide)] = [(0, listDoneRecord)] := by
  have hentries : Entries readmeConfig listableFs (ascii "/a") 5 0
      [(ascii "b", some ⟨33188,3,7⟩)] :=
    .entry 0 (ascii "b") [] rfl (by decide) (.last 1 rfl)
  obtain ⟨⟨⟨first,rest,hrecords,hanswered⟩,-⟩,-⟩ :=
    (list_sends_entries readmeConfig listableFs (by decide) (syncStart default 0) (ascii "/a") 0
      (fun _ => 0) [.ofBytes readmeConfig (syncRequest idList (ascii "/a")) (by decide)]
      [.ofBytes readmeConfig [] (by decide)] rfl rfl rfl (by decide) (by decide) (by decide)
      (by decide +kernel) rfl).imp
      (fun h => h 5 _ (by decide) rfl hentries (by decide)) id
  obtain ⟨-,rfl⟩ := List.cons.inj hrecords
  exact hanswered.acked

end MicroADB
