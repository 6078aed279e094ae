import MicroADB.FileSyncReply
import MicroADB.FileSyncRequest

/-! What the bytes of a packet ask of the service, whatever the file system answers. A service is
somewhere in reading a header, a name or a record. The bytes of a packet take it further, and what
they complete ends in one of a few ways, with a reply of a known length or none. -/
namespace MicroADB
open ByteMemory EventRun

/-- How far a service is in reading, with the bytes that it has got so far. -/
inductive Reading
  | header (got : List UInt8)
  | name (cmd len : ℕ) (got : List UInt8)
  | record (isLink : Bool) (got : List UInt8)
  | chunk (left : ℕ)
  | target (len got : ℕ)
  | streaming
deriving DecidableEq, Repr

/-- A reply has a fixed part, and a variable part that is at most so long. -/
structure Reply where
  fixed : ℕ
  extra : ℕ
deriving DecidableEq, Repr

def Reply.length (q : Reply) : ℕ := q.fixed+q.extra

/-- What an iteration of the loop can come to. -/
structure Exit where
  reply : Option Reply
  next : Reading
deriving DecidableEq, Repr

namespace Exit

def go (next : Reading) : Exit := ⟨none,next⟩

/-- The reply ends the request. -/
def ended (fixed extra : ℕ) : Exit := ⟨some ⟨fixed,extra⟩,.header []⟩

def failed (text : String) : Exit := ended sizeofData (ascii text).length

/-- The first of several replies. Its variable part is as long as there is room. -/
def streams (cfg : Config) (fixed : ℕ) : Exit := ⟨some ⟨fixed,cfg.payloadSize⟩,.streaming⟩

end Exit

/-- The number of bytes that an iteration takes from the packet, and what it can come to: nothing
at all where the service fails. -/
structure Taken where
  bytes : ℕ
  exits : List Exit
deriving DecidableEq, Repr

/-- n bytes are to be read, and got of them are there. -/
def collect (n : ℕ) (got unread : List UInt8) (wait : List UInt8 → Reading)
    (done : List UInt8 → List Exit) : Taken :=
  if unread.length < n-got.length then ⟨unread.length,[.go (wait (got ++ unread))]⟩
  else ⟨n-got.length,done (got ++ unread.take (n-got.length))⟩

section
variable (cfg : Config) (reason : ℕ)

def headerExits (bs : List UInt8) : List Exit :=
  if ofLe32 bs = idQuit ∨ cfg.pathMax ≤ ofLe32 (bs.drop 4) then []
  else [.go (.name (ofLe32 bs) (ofLe32 (bs.drop 4)) [])]

/-- The longest reason that can be given for the failure of a SEND. -/
def sendReason (isLink : Bool) : ℕ :=
  if isLink then max reason (ascii "out of memory").length else reason

def requestExits (cmd : ℕ) (name : List UInt8) : List Exit :=
  if cmd = idStat then [.ended sizeofStat 0]
  else if cmd = idList then
    .ended sizeofDent 0 ::
      if cfg.pathMax-3 ≤ (cName cfg name).length then []
      else [.streams cfg sizeofDent]
  else if cmd = idSend then
    .ended sizeofData (sendReason reason (sIsLnk (sendMode cfg name))) ::
      if name.head? = some 47 then [.go (.record (sIsLnk (sendMode cfg name)) [])] else []
  else if cmd = idRecv then [.failed "file does not exist",.streams cfg sizeofData]
  else []

def recordExits (isLink : Bool) (bs : List UInt8) : List Exit :=
  if ofLe32 bs = idData then
    [.go (if isLink then .target (ofLe32 (bs.drop 4)) 0 else .chunk (ofLe32 (bs.drop 4)))]
  else if ofLe32 bs = idDone then [.ended sizeofStatus 0]
  else [.failed "invalid data message"]

def chunkExits (left n : ℕ) : List Exit :=
  .go (if left ≤ n then .record false [] else .chunk (left-n)) ::
    if min n left = 0 then [] else [.failed "write error"]

def targetExits (len : ℕ) : List Exit :=
  if cfg.pathMax ≤ len then [.failed "symlink target too long"]
  else [.failed "symlink call failed",.go (.record true [])]

/-- The next iteration on these unread bytes. reason bounds the texts of strerror, as far as they fit
into a packet. -/
def Reading.step (r : Reading) (unread : List UInt8) : Taken :=
  match r with
  | .header got => collect sizeofReq got unread .header (headerExits cfg)
  | .name cmd len got => collect len got unread (.name cmd len) (requestExits cfg reason cmd)
  | .record isLink got => collect sizeofData got unread (.record isLink) (recordExits isLink)
  | .chunk left => ⟨min unread.length left,chunkExits left unread.length⟩
  | .target len got =>
    if cfg.fileSymlink = false then ⟨0,[]⟩
    else if cfg.pathMax < len then ⟨0,[.failed "read error"]⟩
    else if unread.length < len-got then
      ⟨unread.length,[.go (.target len (got+unread.length))]⟩
    else ⟨len-got,targetExits cfg len⟩
  | .streaming => ⟨0,[]⟩

end

def AfsService.reading (s : AfsService) : Reading :=
  match s.state with
  | .waitCmd => .header s.collected
  | .waitCmdData => .name s.cmd s.namelen s.collected
  | .processSendFileHdr => .record false s.collected
  | .processSendSymHdr => .record true s.collected
  | .processSendFileData => .chunk s.namelen
  | .processSendSymData => .target s.namelen s.size
  | .processRecv | .processList => .streaming

/-- A STAT request with its reply, and a byte behind it. -/
example : (Reading.name idStat 2 []).step defaultConfig 0 (ascii "/ab") =
    ⟨2,[.ended 16 0]⟩ := by decide +kernel

/-! The bytes in buff. -/

theorem word_of_slice (m : Mem) (bs : List UInt8) (h : slice m 0 8 = bs) :
    word m 0 = ofLe32 bs ∧ word m 4 = ofLe32 (bs.drop 4) := by
  have hsplit : bs = slice m 0 4 ++ slice m 4 4 := by
    rw [← h]
    exact slice_add m 0 4 4
  have hdrop : bs.drop 4 = slice m 4 4 := by
    rw [hsplit]
    exact List.drop_left' (length_slice m 0 4)
  constructor
  · rw [hsplit]
    rfl
  · rw [hdrop]
    rfl

variable {ω : Type} (cfg : Config) (fs : FileSystem ω)

/-- What is complete, and what is left of the packet behind it. -/
theorem complete_bytes (c : SyncCtx ω) (n : ℕ) (hle : c.svc.size ≤ n)
    (hdone : n-c.svc.size ≤ c.p.msg.dataLength) :
    slice (c.complete n).svc.buff 0 n = c.svc.collected ++ c.rest.take (n-c.svc.size) := by
  have hlen : (c.svc.collected ++ c.rest.take (n-c.svc.size)).length = n := by
    rw [List.length_append, length_collected, List.length_take, length_rest]
    omega
  refine (complete_stream c n _ (c.rest.drop (n-c.svc.size)) [] hlen hle hdone ?_).1
  rw [List.append_nil, List.append_assoc, List.take_append_drop]

theorem short_bytes (c : SyncCtx ω) : c.short.svc.collected = c.svc.collected ++ c.rest := by
  have hs := slice_store_append c.svc.buff 0 c.svc.size c.rest
  rw [Nat.zero_add, length_rest] at hs
  exact hs

theorem reading_wait_cmd (s : AfsService) (hs : s.state = .waitCmd) (hz : s.size = 0) :
    s.reading = .header [] := by
  rw [AfsService.reading, hs, collected_of_size_zero hz]

theorem reading_send_file_hdr (s : AfsService) (hs : s.state = .processSendFileHdr)
    (hz : s.size = 0) : s.reading = .record false [] := by
  rw [AfsService.reading, hs, collected_of_size_zero hz]

theorem reading_send_sym_hdr (s : AfsService) (hs : s.state = .processSendSymHdr)
    (hz : s.size = 0) : s.reading = .record true [] := by
  rw [AfsService.reading, hs, collected_of_size_zero hz]

/-! A handler does what one of the exits says. -/

/-- The handler took k bytes from the packet and came to the exit o. -/
structure Met (c : SyncCtx ω) (r : ℤ × SyncCtx ω) (k : ℕ) (o : Exit) : Prop where
  ret : 0 ≤ r.1
  consumed : Consumed c r.2 k
  answers : Answers cfg c r.2 (o.reply.map Reply.fixed)
  length : ∀ q ∈ o.reply, c.p.writeLen+q.fixed ≤ cfg.payloadSize →
    r.2.p.writeLen ≤ c.p.writeLen+q.length
  next : o.next = if 0 < r.1 then r.2.svc.reading else .header []

/-- The handler came to one of the exits, or the service failed. -/
def Exits (c : SyncCtx ω) (r : ℤ × SyncCtx ω) (t : Taken) : Prop :=
  (∃ o ∈ t.exits, Met cfg c r t.bytes o) ∨ r.1 < 0 ∧ Quiet c r.2

variable {cfg} {c d e : SyncCtx ω} {k : ℕ}

theorem consumed_zero (h : d.svc.packetPtr = c.svc.packetPtr) (hmsg : d.p.msg = c.p.msg) :
    Consumed c d 0 := ⟨Nat.zero_le _,h,hmsg⟩

theorem consumed_same (h : Consumed c d k) (hptr : e.svc.packetPtr = d.svc.packetPtr)
    (hmsg : e.p.msg = d.p.msg) : Consumed c e k := ⟨h.le,hptr.trans h.packetPtr,hmsg.trans h.msg⟩

theorem consumed_behind {j : ℕ} (h : Consumed c d j) (hk : Consumed d e k) :
    Consumed c e (j+k) := by
  have hle := hk.le
  have hptr := hk.packetPtr
  have hmsg := hk.msg
  rw [h.packetPtr] at hptr
  rw [h.msg] at hle hmsg
  refine ⟨?_,?_,?_⟩
  · have hj := h.le
    dsimp only at hle
    omega
  · rw [hptr, Nat.add_assoc]
  · rw [hmsg, Nat.sub_sub]

/-- What a handler does behind calls that left the packet alone. -/
theorem Met.behind {r : ℤ × SyncCtx ω} {o : Exit} {j : ℕ} (hq : Quiet c d) (hj : Consumed c d j)
    (h : Met cfg d r k o) : Met cfg c r (j+k) o where
  ret := h.ret
  consumed := consumed_behind hj h.consumed
  answers := answers_of_quiet cfg c d r.2 _ hq h.answers
  length q hq' hfit := by
    rw [← hq.writeLen] at hfit ⊢
    exact h.length q hq' hfit
  next := h.next

theorem Exits.behind {r : ℤ × SyncCtx ω} {t : Taken} {j : ℕ} (hq : Quiet c d)
    (hj : Consumed c d j) (h : Exits cfg d r t) : Exits cfg c r ⟨j+t.bytes,t.exits⟩ := by
  rcases h with ⟨o,ho,hmet⟩ | ⟨hneg,hquiet⟩
  · exact Or.inl ⟨o,ho,hmet.behind hq hj⟩
  · exact Or.inr ⟨hneg,quiet_trans c d r.2 hq hquiet⟩

/-- The handler goes on without a reply. -/
theorem met_go {next : Reading} (hk : Consumed c d k) (hq : Quiet c d)
    (hnext : d.svc.reading = next) : Met cfg c (1, d) k (.go next) where
  ret := zero_le_one
  consumed := hk
  answers := hq
  length q hq' := by cases hq'
  next := hnext.symm

/-! The writers of a reply that ends a request, behind calls that left the packet alone. -/

theorem met_failed (text : List UInt8) (n : ℕ) (hq : Quiet c d) (hk : Consumed c d k)
    (hn : min text.length cfg.payloadSize ≤ n) (hlt : text.length < 2^30)
    (hw : c.p.writeLen ≤ cfg.payloadSize) :
    Met cfg c (0, prepareFailMessage cfg d text) k (.ended sizeofData n) where
  ret := le_rfl
  consumed := consumed_same hk rfl rfl
  answers := fail_after_quiet cfg c d text hq hlt hw
  length q hq' hfit := by
    obtain rfl := Option.mem_some_iff.mp hq'
    rw [← hq.writeLen] at hfit ⊢
    change d.p.writeLen+sizeofData ≤ cfg.payloadSize at hfit
    -- the text is cut to what is left of the packet
    have hroom : sizeT (cfg.payloadSize-sizeofData-d.p.writeLen) ≤ cfg.payloadSize := by
      have hmax := cfg.payload_lt
      rw [sizeT_of_nonneg _ (by omega) (by omega)]
      omega
    apply (Nat.mod_le _ _).trans
    change d.p.writeLen+(sizeofData+min text.length (sizeT (cfg.payloadSize-sizeofData-d.p.writeLen)))
      ≤ d.p.writeLen+(sizeofData+n)
    omega
  next := rfl

theorem met_record (bs : List UInt8) (h : ℕ) (hq : Quiet c d) (hk : Consumed c d k)
    (hh : bs.length = h) (hlt : h < 2^31) (hw : c.p.writeLen ≤ cfg.payloadSize) :
    Met cfg c (0, (d.put 0 bs).advance h) k (.ended h 0) where
  ret := le_rfl
  consumed := consumed_same hk rfl rfl
  answers := answers_of_quiet cfg c d _ _ hq
    (put_record_answers cfg d bs h hh hlt (by rw [hq.writeLen]; exact hw))
  length q hq' _ := by
    obtain rfl := Option.mem_some_iff.mp hq'
    rw [← hq.writeLen]
    exact Nat.mod_le _ _
  next := rfl

theorem met_list_done (hq : Quiet c d) (hk : Consumed c d k)
    (hw : c.p.writeLen ≤ cfg.payloadSize) :
    Met cfg c (0, putListDone d) k (.ended sizeofDent 0) :=
  met_record _ _ hq hk rfl (by decide) hw

/-- A first reply fills the packet at most. -/
theorem met_streams (h : ℕ) (hk : Consumed c d k) (hans : Answers cfg c d (some h))
    (hs : d.svc.reading = .streaming) : Met cfg c (1, d) k (.streams cfg h) where
  ret := zero_le_one
  consumed := hk
  answers := hans
  length q hq' hfit := by
    obtain rfl := Option.mem_some_iff.mp hq'
    obtain ⟨n,hn⟩ := hans
    obtain ⟨hle,hwl,-⟩ := hn.fits hfit
    change d.p.writeLen ≤ c.p.writeLen+(h+cfg.payloadSize)
    omega
  next := hs.symm

/-! Requests. -/

variable {fs}

theorem stat_exits (hz : c.svc.size = 0) (hw : c.p.writeLen ≤ cfg.payloadSize) :
    Met cfg c (stateInitStat cfg fs c) 0 (.ended sizeofStat 0) := by
  have hans := state_init_stat_answers cfg fs c hw
  have hstart := state_init_stat_started cfg fs c
  have hk := consumed_zero hstart.packetPtr hstart.msg
  have hsize := hstart.size.trans hz
  revert hans hk hsize
  unfold stateInitStat
  dsimp only
  split
  · intro hans hk hsize
    refine ⟨zero_le_one,hk,hans,fun q hq _ => ?_,?_⟩
    · obtain rfl := Option.mem_some_iff.mp hq
      exact Nat.mod_le _ _
    · exact (reading_wait_cmd _ rfl hsize).symm
  · intro hans hk _
    refine ⟨le_rfl,hk,hans,fun q hq _ => ?_,rfl⟩
    obtain rfl := Option.mem_some_iff.mp hq
    exact Nat.mod_le _ _

/-- A listing ends with DONE, or goes on behind an entry. -/
theorem process_list_exits (hs : c.svc.state = .processList)
    (hfile : c.svc.u.filePtr ≤ cfg.pathMax) (hw : c.p.writeLen ≤ cfg.payloadSize) :
    Met cfg c (stateProcessList cfg fs c) 0 (.ended sizeofDent 0) ∨
      Met cfg c (stateProcessList cfg fs c) 0 (.streams cfg sizeofDent) := by
  have hans := state_process_list_answers cfg fs c hfile hw
  have hstart := state_process_list_started cfg fs c hs
  have hk := consumed_zero hstart.packetPtr hstart.msg
  revert hans hk
  unfold stateProcessList
  dsimp only
  split
  · intro _ _
    have hread : Quiet c (sysReaddir fs c c.svc.u.d).2 :=
      quiet_of_log c _ _ rfl rfl (sys_readdir_log fs c _) (by simp [SyncEvent.roomy])
    exact Or.inl (met_list_done hread (consumed_zero rfl rfl) hw)
  · rename_i name hname
    intro hans hk
    refine Or.inr (met_streams sizeofDent hk hans ?_)
    have hstate : (putDent cfg (statEntry cfg fs (sysReaddir fs c c.svc.u.d).2 name)
        name).svc.state = .processList := by
      rw [put_dent_svc]
      obtain ⟨-,-,hsvc | ⟨text,hsvc⟩⟩ :=
        stat_entry_keeps cfg fs (sysReaddir fs c c.svc.u.d).2 name
      · rw [hsvc]
        exact hs
      · rw [hsvc]
        exact hs
    rw [AfsService.reading, hstate]

theorem list_exits (hw : c.p.writeLen ≤ cfg.payloadSize) :
    Met cfg c (stateInitList cfg fs c) 0 (.ended sizeofDent 0) ∨
      ¬cfg.pathMax-3 ≤ (c.name cfg).length ∧
        Met cfg c (stateInitList cfg fs c) 0 (.streams cfg sizeofDent) := by
  unfold stateInitList
  dsimp only
  split
  · exact Or.inl (met_list_done (quiet_refl c) (consumed_zero rfl rfl) hw)
  · rename_i hlen
    have hmalloc : Quiet c (sysMalloc fs c cfg.pathMax).2 :=
      quiet_of_log c _ _ rfl rfl (sys_malloc_log fs c _) (by simp [SyncEvent.roomy])
    split
    · exact Or.inl (met_list_done hmalloc (consumed_zero rfl rfl) hw)
    · split
      · refine Or.inl (met_list_done (quiet_trans c _ _ hmalloc ⟨rfl,rfl,?_⟩)
          (consumed_zero rfl rfl) hw)
        simp [SyncEvent.roomy]
      · -- the directory is open: the first entry, or DONE where it has none
        have hopened (e : SyncCtx ω) (hs : e.svc.state = .processList)
            (hfile : e.svc.u.filePtr ≤ cfg.pathMax) (hquiet : Quiet c e) (hk : Consumed c e 0) :
            Met cfg c (stateProcessList cfg fs e) 0 (.ended sizeofDent 0) ∨
              Met cfg c (stateProcessList cfg fs e) 0 (.streams cfg sizeofDent) := by
          have hwe : e.p.writeLen ≤ cfg.payloadSize := by
            rw [hquiet.writeLen]
            exact hw
          exact (process_list_exits hs hfile hwe).imp (fun h => h.behind hquiet hk)
            (fun h => h.behind hquiet hk)
        refine Or.imp id (fun h => ⟨hlen,h⟩) (hopened _ rfl ?_ ?_ (consumed_zero rfl rfl))
        · change (c.name cfg).length+1 ≤ cfg.pathMax
          omega
        · refine quiet_trans c _ _ hmalloc ⟨rfl,rfl,?_⟩
          simp [SyncEvent.roomy]

/-- The first block of a file, its end, or an error. -/
theorem recv_exits (hw : c.p.writeLen ≤ cfg.payloadSize) :
    Met cfg c (stateInitRecv cfg fs c) 0 (.failed "file does not exist") ∨
      Met cfg c (stateInitRecv cfg fs c) 0 (.streams cfg sizeofData) := by
  have hans := state_init_recv_answers cfg fs c hw
  have hstart := state_init_recv_started cfg fs c
  have hk := consumed_zero hstart.packetPtr hstart.msg
  revert hans hk
  unfold stateInitRecv stateProcessRecv
  dsimp only
  split
  · intro _ _
    have hopen (u : AfsUnion) : Quiet c ((sysOpen fs c (c.name cfg) .rdonly).2.setUnion u) :=
      quiet_of_log c _ _ rfl rfl (sys_open_log fs c _ _) (by simp [SyncEvent.roomy])
    exact Or.inl (met_failed _ _ (hopen _) (consumed_zero rfl rfl) (min_le_left _ _) (by decide) hw)
  · -- the texts of the errors are shorter than that of a file that does not exist
    have hended (r : ℤ × SyncCtx ω) (n : ℕ) (hr : r.1 = 0)
        (hlen : r.2.p.writeLen ≤ c.p.writeLen+(sizeofData+n))
        (hn : n ≤ (ascii "file does not exist").length)
        (hans : Answers cfg c r.2 (some sizeofData)) (hk : Consumed c r.2 0) :
        Met cfg c r 0 (.failed "file does not exist") := by
      refine ⟨hr.ge,hk,hans,fun q hq _ => ?_,?_⟩
      · obtain rfl := Option.mem_some_iff.mp hq
        change _ ≤ c.p.writeLen+(sizeofData+(ascii "file does not exist").length)
        omega
      · rw [hr]
        rfl
    split
    · intro hans hk
      refine Or.inl (hended _ (ascii "read failed").length rfl ?_ (by decide) hans hk)
      apply (Nat.mod_le _ _).trans
      have hcut := Nat.min_le_left (ascii "read failed").length
        (sizeT (cfg.payloadSize-sizeofData-c.p.writeLen))
      change c.p.writeLen+(sizeofData+_) ≤ _
      omega
    · split
      · intro hans hk
        exact Or.inl (hended _ 0 rfl (Nat.mod_le _ _) (Nat.zero_le _) hans hk)
      · intro hans hk
        exact Or.inr (met_streams sizeofData hk hans rfl)

variable {reason : ℕ}

theorem send_link_exits (hq : Quiet c d) (hk : Consumed c d k) (hz : d.svc.size = 0)
    (hw : c.p.writeLen ≤ cfg.payloadSize) :
    Met cfg c (stateInitSendLink cfg fs d) k (.ended sizeofData (sendReason reason true)) ∨
      Met cfg c (stateInitSendLink cfg fs d) k (.go (.record true [])) := by
  have hmalloc : Quiet c (sysMalloc fs d ((d.name cfg).length+1)).2 :=
    quiet_trans c d _ hq (quiet_of_log d _ _ rfl rfl (sys_malloc_log fs d _)
      (by simp [SyncEvent.roomy]))
  have hmemory : (ascii "out of memory").length ≤ sendReason reason true := by
    rw [sendReason, if_pos rfl]
    exact le_max_right _ _
  have hpath : (ascii "path too long").length ≤ sendReason reason true :=
    le_trans (by decide) hmemory
  unfold stateInitSendLink
  dsimp only
  split
  · exact Or.inl (met_failed _ _ hq hk (min_le_of_left_le hpath) (by decide) hw)
  · split
    · refine Or.inl (met_failed _ _ hmalloc ?_ (min_le_of_left_le hmemory) (by decide) hw)
      exact consumed_same hk rfl rfl
    · right
      apply met_go
      · exact consumed_same hk rfl rfl
      · exact ⟨hmalloc.writeLen,hmalloc.data,hmalloc.roomy⟩
      · exact reading_send_sym_hdr _ rfl hz

theorem send_file_exits (mode : ℕ)
    (hreason : ∀ e, min (fs.strerror e).length cfg.payloadSize ≤ reason)
    (hq : Quiet c d) (hk : Consumed c d k) (hz : d.svc.size = 0)
    (hw : c.p.writeLen ≤ cfg.payloadSize) :
    Met cfg c (stateInitSendFile cfg fs d mode) k (.ended sizeofData (sendReason reason false)) ∨
      Met cfg c (stateInitSendFile cfg fs d mode) k (.go (.record false [])) := by
  have hopen (u : AfsUnion) : Quiet c ((sysOpen fs d (d.name cfg) (.create mode)).2.setUnion u) :=
    quiet_trans c d _ hq (quiet_of_log d _ _ rfl rfl (sys_open_log fs d _ _)
      (by simp [SyncEvent.roomy]))
  unfold stateInitSendFile
  dsimp only
  split
  · refine Or.inl (met_failed _ _ (hopen _) ?_ (hreason _) (fs.strerror_lt _) hw)
    exact consumed_same hk rfl rfl
  · right
    apply met_go
    · exact consumed_same hk rfl rfl
    · exact ⟨(hopen .unset).writeLen,(hopen .unset).data,(hopen .unset).roomy⟩
    · exact reading_send_file_hdr _ rfl hz

/-- The name does not begin with a slash, or cannot be made, or the transfer begins. -/
theorem send_exits (name : List UInt8)
    (hreason : ∀ e, min (fs.strerror e).length cfg.payloadSize ≤ reason)
    (hbuff : slice c.svc.buff 0 name.length = name) (hnul : c.svc.buff name.length = 0)
    (hz : c.svc.size = 0) (hw : c.p.writeLen ≤ cfg.payloadSize) :
    Met cfg c (stateInitSend cfg fs c) 0
        (.ended sizeofData (sendReason reason (sIsLnk (sendMode cfg name)))) ∨
      name.head? = some 47 ∧
        Met cfg c (stateInitSend cfg fs c) 0 (.go (.record (sIsLnk (sendMode cfg name)) [])) := by
  obtain ⟨m,hsend,-,hslash⟩ := state_init_send_eq cfg fs c name hbuff hnul
  rw [hsend]
  generalize sIsLnk (sendMode cfg name) = isLink
  have hdirs := path_directories_quiet cfg fs (c.setBuff m)
  have hrefused : ¬m 0 = 47 →
      (createPathDirectories cfg fs (sysUnlink fs (c.setBuff m) ((c.setBuff m).name cfg))).1 ≠ 0 := by
    intro h47
    have hneg : createPathDirectories cfg fs (sysUnlink fs (c.setBuff m) ((c.setBuff m).name cfg)) =
        (-1, sysUnlink fs (c.setBuff m) ((c.setBuff m).name cfg)) := if_pos h47
    rw [hneg]
    exact neg_ne_zero.mpr one_ne_zero
  have hsvc := create_path_directories_svc cfg fs (sysUnlink fs (c.setBuff m) ((c.setBuff m).name cfg))
  have hp := create_path_directories_p cfg fs (sysUnlink fs (c.setBuff m) ((c.setBuff m).name cfg))
  unfold stateInitSendPath
  dsimp only
  generalize createPathDirectories cfg fs (sysUnlink fs (c.setBuff m)
    ((c.setBuff m).name cfg)) = r at *
  have hquiet : Quiet c r.2 := quiet_trans c (c.setBuff m) r.2 ⟨rfl,rfl,Iff.rfl⟩ hdirs
  have hk : Consumed c r.2 0 := consumed_zero (by rw [hsvc]; rfl) (by rw [hp]; rfl)
  have hrz : r.2.svc.size = 0 := by
    rw [hsvc]
    exact hz
  split
  · refine Or.inl (met_failed _ _ hquiet hk ?_ (fs.strerror_lt _) hw)
    cases isLink with
    | true => exact le_max_of_le_left (hreason _)
    | false => exact hreason _
  · rename_i hzero
    have habs : name.head? = some 47 := hslash.mp (not_not.mp (fun h => hzero (hrefused h)))
    cases isLink with
    | true => exact (send_link_exits hquiet hk hrz hw).imp id (fun h => ⟨habs,h⟩)
    | false => exact (send_file_exits _ hreason hquiet hk hrz hw).imp id (fun h => ⟨habs,h⟩)

/-- A request whose name is in buff, with its terminator. -/
theorem request_exits (name : List UInt8)
    (hreason : ∀ e, min (fs.strerror e).length cfg.payloadSize ≤ reason)
    (hbuff : slice c.svc.buff 0 name.length = name) (hnul : c.svc.buff name.length = 0)
    (hz : c.svc.size = 0) (hquit : c.svc.cmd ≠ idQuit) (hw : c.p.writeLen ≤ cfg.payloadSize) :
    Exits cfg c (stateInit cfg fs c) ⟨0,requestExits cfg reason c.svc.cmd name⟩ := by
  have hname : c.name cfg = cName cfg name :=
    cstring_congr _ _ _ _ name.length (name_mem_end name) (Nat.zero_le _)
      (fun i _ hi => name_mem_of_slice _ name hbuff hnul i hi)
  unfold stateInit requestExits
  split
  · exact Or.inl ⟨_,List.mem_singleton_self _,stat_exits hz hw⟩
  split
  · left
    rcases list_exits hw with h | ⟨hlen,h⟩
    · exact ⟨_,List.mem_cons_self,h⟩
    · refine ⟨_,List.mem_cons_of_mem _ ?_,h⟩
      rw [← hname, if_neg hlen]
      exact List.mem_singleton_self _
  split
  · left
    rcases send_exits name hreason hbuff hnul hz hw with h | ⟨habs,h⟩
    · exact ⟨_,List.mem_cons_self,h⟩
    · refine ⟨_,List.mem_cons_of_mem _ ?_,h⟩
      rw [if_pos habs]
      exact List.mem_singleton_self _
  split
  · left
    rcases recv_exits hw with h | h
    · exact ⟨_,List.mem_cons_self,h⟩
    · exact ⟨_,List.mem_cons_of_mem _ (List.mem_singleton_self _),h⟩
  · -- an unknown command
    exact Or.inr ⟨neg_one_lt_zero,quiet_refl c⟩

/-! The readers. -/

/-- What is being read is complete, or the packet ends in it. -/
theorem collect_exits (n : ℕ) (fail next : SyncCtx ω → ℤ × SyncCtx ω)
    (wait : List UInt8 → Reading) (done : List UInt8 → List Exit) (hsize : c.svc.size ≤ n)
    (hmax : n ≤ cfg.pathMax)
    (hdone : ∀ bs : List UInt8, bs.length = n → slice (c.complete n).svc.buff 0 n = bs →
      Exits cfg (c.complete n) (next (c.complete n)) ⟨0,done bs⟩)
    (hwait : c.short.svc.reading = wait c.short.svc.collected) :
    Exits cfg c (afterRead (readFromPacket cfg c n) fail next)
      (collect n c.svc.collected c.rest wait done) := by
  rcases after_read_cases cfg c n fail next with ⟨hbad,-⟩ | ⟨-,-,hfull,hr⟩ | ⟨-,-,hshort,hr⟩
  · omega
  · have hquiet : Quiet c (c.complete n) := ⟨rfl,rfl,Iff.rfl⟩
    have hk : Consumed c (c.complete n) (n-c.svc.size) := ⟨hfull,rfl,rfl⟩
    have hbytes := complete_bytes c n hsize hfull
    have hlen : (c.svc.collected ++ c.rest.take (n-c.svc.size)).length = n := by
      rw [← hbytes, length_slice]
    rw [hr, collect, length_collected, length_rest, if_neg (not_lt.mpr hfull)]
    exact (hdone _ hlen hbytes).behind hquiet hk
  · have hquiet : Quiet c c.short := ⟨rfl,rfl,Iff.rfl⟩
    rw [hr, collect, length_collected, length_rest, if_pos hshort, ← short_bytes]
    exact Or.inl ⟨_,List.mem_singleton_self _,met_go ⟨le_rfl,rfl,rfl⟩ hquiet hwait⟩

theorem wait_cmd_exits (hs : c.svc.state = .waitCmd) (hsize : c.svc.size < sizeofReq) :
    Exits cfg c (stateWaitCmd cfg c) (c.svc.reading.step cfg reason c.rest) := by
  have hread : c.svc.reading.step cfg reason c.rest =
      collect sizeofReq c.svc.collected c.rest .header (headerExits cfg) := by
    rw [AfsService.reading, hs]
    rfl
  set d := c.emit (.header (min (sizeofReq-c.svc.size) c.p.msg.dataLength)) with hd
  have hquiet : Quiet c d := quiet_of_log c d _ rfl rfl rfl (by simp [SyncEvent.roomy])
  have hpath := cfg.pathMax_ge
  -- what is noted of the header is no reply
  have hcollect : Exits cfg d (stateWaitCmd cfg c)
      (collect sizeofReq c.svc.collected c.rest .header (headerExits cfg)) := by
    refine collect_exits (c := d) sizeofReq _ _ _ _ hsize.le (by unfold sizeofReq; omega) ?_ ?_
    · intro bs _ hbs
      obtain ⟨hcmd,hlen⟩ := word_of_slice _ bs hbs
      unfold requestHeader headerExits
      dsimp only
      rw [hcmd, hlen]
      by_cases hquit : ofLe32 bs = idQuit
      · rw [if_pos hquit, if_pos (Or.inl hquit)]
        exact Or.inr ⟨neg_one_lt_zero,quiet_refl _⟩
      by_cases hlong : cfg.pathMax ≤ ofLe32 (bs.drop 4)
      · rw [if_neg hquit, if_pos hlong, if_pos (Or.inr hlong)]
        exact Or.inr ⟨neg_one_lt_zero,quiet_refl _⟩
      · rw [if_neg hquit, if_neg hlong, if_neg (not_or.mpr ⟨hquit,hlong⟩)]
        exact Or.inl ⟨_,List.mem_singleton_self _,
          met_go (consumed_zero rfl rfl) ⟨rfl,rfl,Iff.rfl⟩ rfl⟩
    · have hshort : d.short.svc.state = .waitCmd := hs
      rw [AfsService.reading, hshort]
  rw [hread]
  have h := hcollect.behind hquiet (consumed_zero rfl rfl)
  rw [Nat.zero_add] at h
  exact h

theorem wait_cmd_data_exits (hreason : ∀ e, min (fs.strerror e).length cfg.payloadSize ≤ reason)
    (hs : c.svc.state = .waitCmdData) (h : c.svc.Wf cfg) (hw : c.p.writeLen ≤ cfg.payloadSize) :
    Exits cfg c (stateWaitCmdData cfg fs c) (c.svc.reading.step cfg reason c.rest) := by
  have hread : c.svc.reading.step cfg reason c.rest = collect c.svc.namelen c.svc.collected c.rest
      (.name c.svc.cmd c.svc.namelen) (requestExits cfg reason c.svc.cmd) := by
    rw [AfsService.reading, hs]
    rfl
  obtain ⟨hmax,hquit,hlt⟩ := wf_waitCmdData cfg c.svc hs h
  rw [hread]
  refine collect_exits c.svc.namelen _ _ _ _ (by omega) hmax.le ?_ ?_
  · intro bs hlen hbs
    set d := c.complete c.svc.namelen with hd
    set e := (d.setBuff (store d.svc.buff d.svc.namelen [0])).emit
      (.exec d.svc.cmd (slice (store d.svc.buff d.svc.namelen [0]) 0 d.svc.namelen)) with he
    have hquiet : Quiet d e := quiet_of_log d e _ rfl rfl rfl (by simp [SyncEvent.roomy])
    have hrun : requestName cfg fs d = stateInit cfg fs e := if_neg (not_le.mpr hmax)
    have hnamelen : d.svc.namelen = bs.length := hlen.symm
    have hbuff : slice e.svc.buff 0 bs.length = bs := by
      change slice (store d.svc.buff d.svc.namelen [0]) 0 bs.length = bs
      rw [slice_store_disjoint _ _ _ _ _ (Or.inl (by omega)), hlen]
      exact hbs
    have hnul : e.svc.buff bs.length = 0 := by
      change store d.svc.buff d.svc.namelen [0] bs.length = 0
      rw [hnamelen]
      exact store_apply_of_mem d.svc.buff bs.length 0 [0] (by simp)
    have hexits := request_exits (c := e) bs hreason hbuff hnul rfl hquit hw
    rw [hrun]
    exact hexits.behind hquiet (consumed_zero rfl rfl)
  · have hshort : c.short.svc.state = .waitCmdData := hs
    rw [AfsService.reading, hshort]
    rfl

/-- The header of a record is read in two states. -/
theorem send_header_exits (isLink : Bool) (hw : c.p.writeLen ≤ cfg.payloadSize)
    (hs : c.svc.state = if isLink then .processSendSymHdr else .processSendFileHdr)
    (hsize : c.svc.size < sizeofData) :
    Exits cfg c (stateProcessSendHeader cfg c) (c.svc.reading.step cfg reason c.rest) := by
  have hrec (s : AfsService) (hst : s.state = c.svc.state) :
      s.reading = .record isLink s.collected := by
    cases isLink <;> rw [AfsService.reading, hst, hs] <;> rfl
  have hpath := cfg.pathMax_ge
  rw [hrec c.svc rfl]
  refine collect_exits sizeofData _ _ _ _ hsize.le (by unfold sizeofData; omega) ?_
    (hrec c.short.svc rfl)
  intro bs _ hbs
  set d := c.complete sizeofData with hd
  have hwd : d.p.writeLen ≤ cfg.payloadSize := hw
  obtain ⟨hid,hlen⟩ := word_of_slice _ bs hbs
  unfold sendHeader recordExits
  dsimp only
  rw [hid, hlen]
  by_cases hdata : ofLe32 bs = idData
  · rw [if_neg (not_not.mpr hdata), if_pos hdata]
    refine Or.inl ⟨_,List.mem_singleton_self _,
      met_go (consumed_zero rfl rfl) ⟨rfl,rfl,Iff.rfl⟩ ?_⟩
    have hds : d.svc.state = if isLink then .processSendSymHdr else .processSendFileHdr := hs
    cases isLink with
    | true =>
      simp [AfsService.reading, hds, AfsState.succ]
      rfl
    | false => simp [AfsService.reading, hds, AfsState.succ]
  by_cases hdone : ofLe32 bs = idDone
  · rw [if_pos hdata, if_pos hdone, if_neg hdata, if_pos hdone]
    exact Or.inl ⟨_,List.mem_singleton_self _,
      met_record _ _ (quiet_refl d) (consumed_zero rfl rfl) rfl (by decide) hwd⟩
  · rw [if_pos hdata, if_neg hdone, if_neg hdata, if_neg hdone]
    exact Or.inl ⟨_,List.mem_singleton_self _,
      met_failed _ _ (quiet_refl d) (consumed_zero rfl rfl) (min_le_left _ _) (by decide) hwd⟩

theorem send_file_data_exits (hs : c.svc.state = .processSendFileData) (h : c.svc.Wf cfg)
    (hw : c.p.writeLen ≤ cfg.payloadSize) :
    Exits cfg c (stateProcessSendFile cfg fs c) (c.svc.reading.step cfg reason c.rest) := by
  have hread : c.svc.reading.step cfg reason c.rest =
      ⟨c.blockSize,chunkExits c.svc.namelen c.p.msg.dataLength⟩ := by
    rw [AfsService.reading, hs, Reading.step, length_rest]
    rfl
  have hz : c.svc.size = 0 := by
    simp only [AfsService.Wf, hs] at h
    exact h.1
  obtain ⟨d,hd,hsvc,hp,hcases⟩ := state_process_send_file_cases cfg fs c
  obtain ⟨evs,hlog,hevs⟩ := write_block_log fs c.takeBlock (c.peek c.blockSize)
  rw [← hd] at hlog
  have hquiet : Quiet c d := by
    refine quiet_of_log c d evs ?_ ?_ hlog (roomy_of_is_write evs hevs)
    · rw [hp]
      rfl
    · rw [hp]
      rfl
  have hk : Consumed c d c.blockSize :=
    ⟨Nat.min_le_left _ _,by rw [hsvc]; rfl,by rw [hp]; rfl⟩
  have hdsize : d.svc.size = 0 := by
    rw [hsvc]
    exact hz
  rw [hread]
  left
  -- the record is complete, or goes on in the next packet, or the write failed
  rcases hcases with ⟨-,hle,hr⟩ | ⟨-,hlt,hr⟩ | ⟨hbad,hr⟩
  · rw [hr]
    refine ⟨_,List.mem_cons_self,
      met_go (consumed_same hk rfl rfl) ⟨hquiet.writeLen,hquiet.data,hquiet.roomy⟩ ?_⟩
    rw [if_pos hle]
    refine reading_send_file_hdr _ ?_ hdsize
    rw [SyncCtx.setState_svc, hs]
    rfl
  · rw [hr]
    refine ⟨_,List.mem_cons_self,met_go hk hquiet ?_⟩
    have hds : d.svc.state = .processSendFileData := by
      rw [hsvc]
      exact hs
    have hleft : d.svc.namelen = c.svc.namelen-c.p.msg.dataLength := by
      rw [hsvc]
      change c.svc.namelen-min c.p.msg.dataLength c.svc.namelen = _
      omega
    rw [if_neg (not_le.mpr hlt), AfsService.reading, hds, hleft]
  · rw [hr]
    -- an empty block is not written
    have hblock : min c.p.msg.dataLength c.svc.namelen ≠ 0 := by
      intro hzero
      have hnil : c.peek c.blockSize = [] := (slice_eq_nil_iff _ _ _).mpr hzero
      rw [hnil] at hbad
      unfold writeBlock at hbad
      split at hbad
      · cases hbad
      · cases hbad
    refine ⟨_,List.mem_cons_of_mem _ ?_,met_failed _ _ hquiet hk (min_le_left _ _) (by decide) hw⟩
    rw [if_neg hblock]
    exact List.mem_singleton_self _

theorem send_sym_target_exits (hs : c.svc.state = .processSendSymData) (h : c.svc.Wf cfg)
    (hlink : cfg.fileSymlink = true) (hw : c.p.writeLen ≤ cfg.payloadSize) :
    Exits cfg c (stateProcessSendSym cfg fs c) (c.svc.reading.step cfg reason c.rest) := by
  simp only [AfsService.Wf, hs] at h
  have hread : c.svc.reading = .target c.svc.namelen c.svc.size := by
    rw [AfsService.reading, hs]
  rw [hread, Reading.step, length_rest, hlink, if_neg (by decide)]
  rcases after_read_cases cfg c c.svc.namelen (readError cfg) (sendSymTarget cfg fs) with
    ⟨hbad,hr⟩ | ⟨hsize,hmax,hfull,hr⟩ | ⟨hsize,hmax,hshort,hr⟩
  · -- a target that does not fit into buff is a read error
    rw [stateProcessSendSym, hr, if_pos (by omega)]
    exact Or.inl ⟨_,List.mem_singleton_self _,
      met_failed _ _ ⟨rfl,rfl,Iff.rfl⟩ (consumed_zero rfl rfl) (min_le_left _ _) (by decide) hw⟩
  · rw [stateProcessSendSym, hr, if_neg (not_lt.mpr hmax), if_neg (not_lt.mpr hfull)]
    set d := c.complete c.svc.namelen with hd
    have hquiet : Quiet c d := ⟨rfl,rfl,Iff.rfl⟩
    have hk : Consumed c d (c.svc.namelen-c.svc.size) := ⟨hfull,rfl,rfl⟩
    have hnamelen : d.svc.namelen = c.svc.namelen := rfl
    left
    unfold sendSymTarget targetExits
    dsimp only
    rw [hnamelen]
    split
    · exact ⟨_,List.mem_singleton_self _,met_failed _ _ hquiet hk (min_le_left _ _) (by decide) hw⟩
    · set b := d.setBuff (store d.svc.buff c.svc.namelen [0]) with hb
      have hcall : Quiet c (sysSymlink fs b (b.name cfg) b.svc.u.linkText).2 :=
        quiet_trans c b _ ⟨rfl,rfl,Iff.rfl⟩
          (quiet_of_log b _ _ rfl rfl (sys_symlink_log fs b _ _) (by simp [SyncEvent.roomy]))
      split
      · exact ⟨_,List.mem_cons_self,
          met_failed _ _ hcall (consumed_same hk rfl rfl) (min_le_left _ _) (by decide) hw⟩
      · refine ⟨_,List.mem_cons_of_mem _ (List.mem_singleton_self _),
          met_go (consumed_same hk rfl rfl) ⟨hcall.writeLen,hcall.data,hcall.roomy⟩ ?_⟩
        apply reading_send_sym_hdr
        · change c.svc.state.pred = _
          rw [hs]
          rfl
        · rfl
  · rw [stateProcessSendSym, hr, if_neg (not_lt.mpr hmax), if_pos hshort]
    refine Or.inl ⟨_,List.mem_singleton_self _,met_go ⟨le_rfl,rfl,rfl⟩ ⟨rfl,rfl,Iff.rfl⟩ ?_⟩
    have hshort' : c.short.svc.state = .processSendSymData := hs
    rw [AfsService.reading, hshort']
    rfl

/-- One iteration of the loop, on what the service is reading and the unread bytes. -/
theorem state_process_exits (hreason : ∀ e, min (fs.strerror e).length cfg.payloadSize ≤ reason)
    (h : c.svc.Wf cfg) (hw : c.p.writeLen ≤ cfg.payloadSize) :
    Exits cfg c (stateProcess cfg fs c) (c.svc.reading.step cfg reason c.rest) := by
  cases hs : c.svc.state <;> simp only [stateProcess, hs]
  case waitCmd =>
    simp only [AfsService.Wf, hs] at h
    exact wait_cmd_exits hs h
  case waitCmdData => exact wait_cmd_data_exits hreason hs h hw
  case processRecv => exact Or.inr ⟨neg_one_lt_zero,quiet_refl c⟩
  case processList => exact Or.inr ⟨neg_one_lt_zero,quiet_refl c⟩
  case processSendFileHdr =>
    simp only [AfsService.Wf, hs] at h
    exact send_header_exits false hw hs h.1
  case processSendSymHdr =>
    simp only [AfsService.Wf, hs] at h
    exact send_header_exits true hw hs h
  case processSendFileData => exact send_file_data_exits hs h hw
  case processSendSymData =>
    split
    · rename_i hlink
      exact send_sym_target_exits hs h hlink hw
    · exact Or.inr ⟨neg_one_lt_zero,quiet_refl c⟩

theorem reading_state_reset (c : SyncCtx ω) : (stateReset fs c).svc.reading = .header [] := by
  rw [state_reset_svc]
  exact reading_wait_cmd _ rfl rfl

/-- The same with the reset behind it. -/
theorem sync_iter_exits (hreason : ∀ e, min (fs.strerror e).length cfg.payloadSize ≤ reason)
    (h : c.svc.Wf cfg) (hw : c.p.writeLen ≤ cfg.payloadSize) :
    Exits cfg c (syncIter cfg fs c) (c.svc.reading.step cfg reason c.rest) := by
  have hprocess := state_process_exits hreason h hw
  unfold syncIter
  dsimp only
  split
  · -- the end of a request, or a failure: the reset leaves the packet alone
    rename_i hstop
    have hreset := state_reset_quiet fs (stateProcess cfg fs c).2
    have hptr : (stateReset fs (stateProcess cfg fs c).2).svc.packetPtr =
        (stateProcess cfg fs c).2.svc.packetPtr := by
      rw [state_reset_svc]
    have hmsg : (stateReset fs (stateProcess cfg fs c).2).p.msg =
        (stateProcess cfg fs c).2.p.msg := by
      rw [state_reset_p]
    rcases hprocess with ⟨o,ho,hmet⟩ | ⟨hneg,hquiet⟩
    · refine Or.inl ⟨o,ho,hmet.ret,consumed_same hmet.consumed hptr hmsg,
        answers_then_quiet cfg _ _ _ _ hmet.answers hreset,fun q hq hfit => ?_,?_⟩
      · rw [hreset.writeLen]
        exact hmet.length q hq hfit
      · rw [hmet.next, if_neg (not_lt.mpr hstop), if_neg (not_lt.mpr hstop)]
    · exact Or.inr ⟨hneg,quiet_trans _ _ _ hquiet hreset⟩
  · exact hprocess

/-- What the next iteration finds the service reading. -/
theorem sync_iter_reading {o : Exit} (h : Met cfg c (syncIter cfg fs c) k o) :
    (syncIter cfg fs c).2.svc.reading = o.next := by
  rw [h.next]
  split
  · rfl
  · rename_i hstop
    rw [syncIter] at hstop ⊢
    rw [if_pos (not_lt.mp hstop)]
    exact reading_state_reset _

end MicroADB
