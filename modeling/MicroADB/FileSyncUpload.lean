import MicroADB.FileSyncDerail

/-! The upload of a regular file. -/
namespace MicroADB
open ByteMemory EventRun

/-- A SEND of a regular file: path, comma and mode, then the chunks. -/
structure Upload (cfg : Config) where
  path : List UInt8
  modeText : List UInt8
  chunks : List (List UInt8)
  time : ℕ
  absolute : path.head? = some 47
  path_nul : (0 : UInt8) ∉ path
  mode_text : (44 : UInt8) ∉ modeText ∧ (0 : UInt8) ∉ modeText
  short : path.length+1+modeText.length < cfg.pathMax
  regular : sIsLnk (u32 (strtoul modeText)) = false
  chunk_lt : ∀ ch ∈ chunks, ch.length < 2^32

variable {ω : Type} {cfg : Config} (fs : FileSystem ω)

def Upload.transfer (u : Upload cfg) : Transfer where
  name := u.path ++ 44 :: u.modeText
  chunks := u.chunks
  time := u.time
  name_lt := by
    have h := u.short
    have hmax := cfg.pathMax_lt
    simp only [List.length_append, List.length_cons]
    omega
  chunk_lt := u.chunk_lt

def Upload.mode (u : Upload cfg) : ℕ := u32 (strtoul u.modeText)

theorem upload_name_length (u : Upload cfg) :
    u.transfer.name.length = u.path.length+1+u.modeText.length := by
  change (u.path ++ 44 :: u.modeText).length = _
  simp only [List.length_append, List.length_cons]
  omega

/-- The name is cut at the last comma, in front of the mode. -/
theorem upload_comma (u : Upload cfg) : sendComma cfg u.transfer.name = some u.path.length := by
  have hs := slice_store_self (fun _ => 0) 0 u.transfer.name
  have hz := name_mem_end u.transfer.name
  rw [upload_name_length] at hs hz
  have h := strrchr_of_slice (nameMem u.transfer.name) 44 0 cfg.pathMax u.path u.modeText hs
    u.path_nul (by decide) u.mode_text (by rw [Nat.zero_add]; exact hz) u.short
  rwa [Nat.zero_add] at h

/-- The string that a NUL at its comma makes of the name, and the one behind it. -/
theorem upload_cut (u : Upload cfg) :
    slice (store (nameMem u.transfer.name) u.path.length [0]) 0 u.path.length = u.path ∧
      slice (store (nameMem u.transfer.name) u.path.length [0]) (u.path.length+1)
        u.modeText.length = u.modeText := by
  have hs : slice (nameMem u.transfer.name) 0 (u.path.length+(1+u.modeText.length)) =
      u.path ++ 44 :: u.modeText := by
    have h := slice_store_self (fun _ => 0) 0 u.transfer.name
    rw [upload_name_length, Nat.add_assoc] at h
    exact h
  rw [slice_add, Nat.zero_add] at hs
  obtain ⟨hpath,htail⟩ := List.append_inj hs (by simp)
  rw [Nat.add_comm 1, slice_succ] at htail
  constructor
  · rw [slice_store_disjoint _ _ _ _ _ (Or.inl (by omega)), hpath]
  · rw [slice_store_disjoint _ _ _ _ _ (Or.inr (by simp))]
    exact (List.cons.inj htail).2

theorem upload_path (u : Upload cfg) : sendPath cfg u.transfer.name = u.path := by
  have hlt := u.short
  rw [sendPath, upload_comma]
  refine cstring_of_slice _ _ _ _ (upload_cut u).1 u.path_nul ?_ (by omega)
  rw [Nat.zero_add]
  exact store_apply_of_mem _ _ 0 [0] (by simp)

theorem upload_mode (u : Upload cfg) : sendMode cfg u.transfer.name = u.mode := by
  have hlt := u.short
  have hlen := upload_name_length u
  rw [sendMode, upload_comma]
  dsimp only
  rw [cstring_of_slice _ _ _ _ (upload_cut u).2 u.mode_text.2 ?_ (by omega)]
  · rfl
  · rw [store_apply_of_ge _ _ _ _ (by simp), ← hlen]
    exact name_mem_end u.transfer.name

/-! The loop and the packets. -/

/-- A call has failed in the run that started with the trace log. -/
def Broken (log l : List SyncEvent) : Prop := ∃ evs, log ++ evs <+: l ∧ ¬AllSucceed evs

/-- The reply in the packet in hand: the final status once nothing is to come. -/
def StatusSent (c : SyncCtx ω) (R : List UInt8) : Prop :=
  R ≠ [] ∧ c.p.writeLen = 0 ∨
  R = [] ∧ c.p.writeLen = sizeofStatus ∧ slice c.p.data 0 sizeofStatus = le32 idOkay ++ le32 0

/-- The service follows the upload, without a reply before its end. -/
def Uploading (u : Upload cfg) (log : List SyncEvent) (L : List UInt8) (r : ℤ × SyncCtx ω) : Prop :=
  ∃ evs, 0 ≤ r.1 ∧ r.2.log = log ++ evs ∧ Follows cfg u.transfer r.2.svc evs (r.2.rest ++ L) ∧
    StatusSent r.2 (r.2.rest ++ L)

section
variable {fs} {u : Upload cfg} {log : List SyncEvent} {L : List UInt8}

theorem not_all_succeed (evs : List SyncEvent) (h : ¬Passes cfg u.transfer evs) :
    ¬AllSucceed evs := by
  intro hok
  refine h (Or.inr ⟨?_,hok,fun hl => ?_⟩)
  · change (u.path ++ 44 :: u.modeText).head? = _
    rw [List.head?_append, u.absolute]
    rfl
  · have hreg := u.regular
    rw [upload_mode] at hl
    rw [← Upload.mode, hl] at hreg
    cases hreg

theorem uploading_iter (c : SyncCtx ω) (ret : ℤ) (hd : 0 < c.p.msg.dataLength)
    (h : Uploading u log L (ret, c)) :
    Broken log (syncIter cfg fs c).2.log ∨ Uploading u log L (syncIter cfg fs c) := by
  obtain ⟨evs,-,hlog,hfollows,hstatus⟩ := h
  have hrest : c.rest ≠ [] := by
    rw [ne_eq, rest_eq_nil_iff]
    omega
  have hnone : c.p.writeLen = 0 := by
    rcases hstatus with ⟨-,h0⟩ | ⟨hnil,-⟩
    · exact h0
    · exact absurd (List.append_eq_nil_iff.mp hnil).1 hrest
  cases sync_iter_outcome fs hlog hfollows hd with
  | follows evs' hr hl hf hs =>
    refine Or.inr ⟨evs',hr,hl,hf,?_⟩
    rcases hs with ⟨hne,hw⟩ | ⟨hnil,hw,hdata⟩
    · exact Or.inl ⟨hne,hw.trans hnone⟩
    · refine Or.inr ⟨hnil,?_,?_⟩
      · rw [hw, hnone]
        decide
      · rw [hdata, hnone]
        exact slice_store_self c.p.data 0 (le32 idOkay ++ le32 0)
  | fails evs' hr hl hs hz hrest hh hfail =>
    exact Or.inl ⟨evs',by rw [hl],not_all_succeed evs' hfail⟩
  | stops evs' hr hl hh hp hreason =>
    have hshort := u.short
    rcases hreason with hlong | hlink
    · rw [upload_name_length] at hlong
      omega
    · have hreg := u.regular
      rw [upload_mode] at hlink
      rw [← Upload.mode, hlink] at hreg
      cases hreg

/-- One packet of the upload. -/
theorem uploading_packet (fs : FileSystem ω) (s : SyncRun ω) (f : SyncFrame cfg)
    (evs : List SyncEvent)
    (hopen : s.closed = false) (hlog : s.log = log ++ evs)
    (hfollows : Follows cfg u.transfer s.svc evs (f.bytes ++ L)) (hne : 0 < f.msg.dataLength) :
    Broken log (syncStep cfg fs s (.write f)).log ∨
      (fileSyncOnWrite cfg fs (s.ctx f.packet)).1 = 0 ∧
        StatusSent (fileSyncOnWrite cfg fs (s.ctx f.packet)).2 L ∧
        (syncStep cfg fs s (.write f)).closed = false ∧
        ∃ evs', (syncStep cfg fs s (.write f)).log = log ++ evs' ∧
          Follows cfg u.transfer (syncStep cfg fs s (.write f)).svc evs' L := by
  set c := s.ctx f.packet with hc
  have hbytes : c.rewind.rest = f.bytes := rfl
  have hstart : Uploading u log L (0, c.rewind) := by
    refine ⟨evs,le_rfl,hlog,follows_rewind s.svc 0 evs _ hfollows,Or.inl ⟨?_,rfl⟩⟩
    rw [hbytes, ne_eq, List.append_eq_nil_iff, SyncFrame.bytes, slice_eq_nil_iff]
    omega
  have hloop := sync_loop_invariant cfg fs
    (fun r => Broken log r.2.log ∨ Uploading u log L r) (fun ret d _ hd h => by
      rcases h with ⟨evs,hpre,hbad⟩ | h
      · exact Or.inl ⟨evs, sync_iter_prefix cfg fs d ( state_process_prefix cfg fs d hpre),hbad⟩
      · exact uploading_iter d ret hd h) (4*c.p.msg.dataLength) (0, c.rewind) (Or.inr hstart)
  have hstep : syncStep cfg fs s (.write f) = afterCallback fs (fileSyncOnWrite cfg fs c) := by
    unfold syncStep
    rw [if_neg (by simp [hopen])]
  have hend := file_sync_on_write_ends cfg fs c
  rw [hstep]
  set r := syncLoop cfg fs (4*c.p.msg.dataLength) (0, c.rewind) with hr
  have hwrite : fileSyncOnWrite cfg fs c = (if 0 ≤ r.1 then 0 else r.1, r.2) := rfl
  rw [hwrite] at hend ⊢
  rcases hloop with ⟨evs',hpre,hbad⟩ | ⟨evs',hret,hlog',hf,hstatus⟩
  · have hafter (ret : ℤ) : log ++ evs' <+: (afterCallback fs (ret, r.2)).log := by
      unfold afterCallback
      split
      · exact state_reset_prefix fs r.2 hpre
      · exact hpre
    exact Or.inl ⟨evs',hafter _,hbad⟩
  · rw [if_pos hret] at hend ⊢
    have hnil : r.2.rest = [] := (rest_eq_nil_iff r.2).mpr (by simpa using hend)
    rw [hnil, List.nil_append] at hf hstatus
    exact Or.inr ⟨rfl,hstatus,rfl,evs',hlog',hf⟩

end

variable (cfg) in
/-- What file_sync_on_write returns for each packet, and the reply it leaves in it. -/
def writeResults (s : SyncRun ω) : List (SyncFrame cfg) → List (ℤ × List UInt8)
  | [] => []
  | f :: frames =>
    let r := fileSyncOnWrite cfg fs (s.ctx f.packet)
    (r.1, slice r.2.p.data 0 r.2.p.writeLen) :: writeResults (syncStep cfg fs s (.write f)) frames

/-- The status that ends an upload. -/
def okayRecord : List UInt8 := le32 idOkay ++ le32 0

theorem uploading_run {u : Upload cfg} {log : List SyncEvent} (f : SyncFrame cfg)
    (frames : List (SyncFrame cfg)) (s : SyncRun ω) (evs : List SyncEvent)
    (hne : ∀ g ∈ f :: frames, 0 < g.msg.dataLength) (hopen : s.closed = false)
    (hlog : s.log = log ++ evs)
    (hfollows : Follows cfg u.transfer s.svc evs ((f :: frames).map SyncFrame.bytes).flatten) :
    Broken log (writeRun cfg fs s (f :: frames)).log ∨
      writeResults cfg fs s (f :: frames) =
          List.replicate frames.length (0, []) ++ [(0, okayRecord)] ∧
        (writeRun cfg fs s (f :: frames)).closed = false ∧
        ∃ evs', (writeRun cfg fs s (f :: frames)).log = log ++ evs' ∧
          Follows cfg u.transfer (writeRun cfg fs s (f :: frames)).svc evs' [] := by
  induction frames generalizing f s evs with
  | nil =>
    rcases uploading_packet fs s f evs hopen hlog hfollows (hne f (by simp)) with
      hbad | ⟨hret,hstatus,hopen',hrest⟩
    · exact Or.inl hbad
    · refine Or.inr ⟨?_,hopen',hrest⟩
      rcases hstatus with ⟨h,-⟩ | ⟨-,hwl,hdata⟩
      · exact absurd rfl h
      · change [_] = _
        rw [hret, hwl, hdata]
        rfl
  | cons g frames ih =>
    have hmore : ((g :: frames).map SyncFrame.bytes).flatten ≠ [] := by
      have hg := hne g (by simp)
      rw [List.map_cons, List.flatten_cons, ne_eq, List.append_eq_nil_iff, SyncFrame.bytes,
        slice_eq_nil_iff]
      omega
    rcases uploading_packet fs s f evs hopen hlog hfollows (hne f (by simp)) with
      ⟨evs',hpre,hbad⟩ | ⟨hret,hstatus,hopen',evs',hlog',hf⟩
    · refine Or.inl ⟨evs',?_,hbad⟩
      exact run_invariant (syncStep cfg fs) (fun s => log ++ evs' <+: s.log)
        (fun s i h => sync_step_prefix cfg fs _ s i h) _ hpre _
    · rcases ih g (syncStep cfg fs s (.write f)) evs' (fun x hx => hne x (List.mem_cons_of_mem _ hx))
        hopen' hlog' hf with hbad | ⟨hres,hrest⟩
      · exact Or.inl hbad
      · refine Or.inr ⟨?_,hrest⟩
        rcases hstatus with ⟨-,hwl⟩ | ⟨h,-⟩
        · rw [writeResults, hres, hret, hwl]
          rfl
        · exact absurd h hmore

/-- An idle service that gets an upload in non-empty packets, cut anywhere, answers the last
of them with OKAY and the others with nothing, has then written the chunks to the file, in
order, and closed it, and is idle again, when all calls succeed. -/
theorem upload_completes (u : Upload cfg) (s : SyncRun ω) (frames : List (SyncFrame cfg))
    (hopen : s.closed = false) (hstate : s.svc.state = .waitCmd) (hsize : s.svc.size = 0)
    (hne : ∀ f ∈ frames, 0 < f.msg.dataLength)
    (hsplit : (frames.map SyncFrame.bytes).flatten = u.transfer.stream)
    (hok : AllSucceed (s.since (writeRun cfg fs s frames))) :
    writeResults cfg fs s frames =
        List.replicate (frames.length-1) (0, []) ++ [(0, okayRecord)] ∧
      (∃ (fd : ℤ) (parts : List (List UInt8)), fileOps (s.since (writeRun cfg fs s frames)) =
          .opened u.path (.create (u.mode &&& 0o777)) fd :: parts.map (.wrote fd) ++ [.closed fd] ∧
        parts.flatten = u.chunks.flatten) ∧
      (writeRun cfg fs s frames).svc.state = .waitCmd ∧
      (writeRun cfg fs s frames).svc.size = 0 ∧ (writeRun cfg fs s frames).closed = false := by
  have hstart : Follows cfg u.transfer s.svc [] u.transfer.stream := by
    refine .header hstate ?_ ?_ all_succeed_nil rfl ?_
    · rw [hsize]
      decide
    · rw [hsize]
      rfl
    · rw [collected_of_size_zero hsize, List.nil_append]
  cases frames with
  | nil =>
    have hlen := congrArg List.length hsplit
    simp only [Transfer.stream, List.length_append, length_le32, List.map_nil, List.flatten_nil,
      List.length_nil] at hlen
    omega
  | cons f frames =>
    rw [← hsplit] at hstart
    rcases uploading_run fs f frames s [] hne hopen (List.append_nil _).symm hstart with
      ⟨evs,⟨es,hes⟩,hbad⟩ | ⟨hres,hclosed,evs,hlog,hf⟩
    · refine absurd ?_ hbad
      rw [SyncRun.since, ← hes, List.append_assoc, List.drop_left, all_succeed_append] at hok
      exact hok.1
    · have hsince : s.since (writeRun cfg fs s (f :: frames)) = evs := by
        rw [SyncRun.since, hlog, List.drop_left]
      obtain ⟨hst,hsz,-,-,hup⟩ := follows_end cfg u.transfer _ evs hf
      have hreg : sIsLnk (sendMode cfg u.transfer.name) = false := by
        rw [upload_mode]
        exact u.regular
      refine ⟨hres,?_,hst,hsz,hclosed⟩
      rw [hsince]
      have hupl := hup hreg
      rw [Uploaded, upload_path, upload_mode] at hupl
      exact hupl

/-- A file system in which every file can be written. -/
def writableFs : FileSystem Unit :=
  { emptyFs with
    mkdir := fun s _ _ => (s, 0)
    openFile := fun s _ _ => (s, 3)
    write := fun s _ bs => (s, bs.length)
    write_le := fun _ _ _ => le_rfl
    write_interrupted := fun _ _ bs h _ => absurd h (by simp) }

/-- Three bytes and an empty chunk for /d/a. -/
def smallUpload : Upload readmeConfig where
  path := ascii "/d/a"
  modeText := ascii "33188"
  chunks := [ascii "abc", []]
  time := 0
  absolute := by decide
  path_nul := by decide
  mode_text := by decide
  short := by decide
  regular := by decide
  chunk_lt := by decide

/-- The upload in two packets, cut in the first DATA header. -/
theorem small_upload_completes :
    writeResults readmeConfig writableFs (syncStart default ())
      [.ofBytes readmeConfig (smallUpload.transfer.stream.take 20) (by decide),
        .ofBytes readmeConfig (smallUpload.transfer.stream.drop 20) (by decide)] =
      [(0, []), (0, okayRecord)] :=
  (upload_completes writableFs smallUpload (syncStart default ())
    [.ofBytes readmeConfig (smallUpload.transfer.stream.take 20) (by decide),
      .ofBytes readmeConfig (smallUpload.transfer.stream.drop 20) (by decide)]
    rfl rfl rfl (by decide) (by decide +kernel) (by decide +kernel)).1

end MicroADB
