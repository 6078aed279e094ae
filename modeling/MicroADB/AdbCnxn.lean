import MicroADB.AdbKick

/-! The CNXN frame. The banner is printed into the packet segment by segment, each one behind the
last, and what does not fit is cut. A device id that does not fit is another matter: its length is
-1, and send_cnxn_frame puts it into the header as it is. -/
namespace MicroADB
open ByteMemory

/-- The first segment. -/
def Product.deviceText (prod : Product) : List UInt8 :=
  ascii "device:" ++ prod.deviceId ++ ascii ":"

/-- The configured segments in a row. -/
def Product.banner (prod : Product) : List UInt8 := prod.deviceText ++ prod.texts.flatten

/-- What n bytes hold of a text: all of it, or its front and a NUL. -/
def cut (n : ℕ) (bs : List UInt8) : List UInt8 :=
  if bs.length < n then bs else bs.take (n-1) ++ [0]

theorem length_cut (n : ℕ) (bs : List UInt8) (hn : 0 < n) :
    (cut n bs).length = min bs.length n := by
  unfold cut
  split
  · omega
  · rw [List.length_append, List.length_take, List.length_singleton]
    omega

/-- Only the text behind one that fits is cut. -/
theorem cut_append (n : ℕ) (as bs : List UInt8) (h : as.length < n) :
    cut n (as ++ bs) = as ++ cut (n-as.length) bs := by
  unfold cut
  rw [List.length_append]
  by_cases hfit : as.length+bs.length < n
  · rw [if_pos hfit, if_pos (by omega)]
  · have hroom : n-1-as.length = n-as.length-1 := by omega
    rw [if_neg hfit, if_neg (by omega), List.take_append, List.take_of_length_le (by omega), hroom,
      List.append_assoc]

/-- snprintf behind the text as. -/
theorem snprintf_cut (m : Mem) (room : ℕ) (as text : List UInt8) (hroom : 0 < room)
    (h : slice m 0 as.length = as) :
    slice (snprintf m as.length room text).1 0 (as.length+(cut room text).length) =
      as ++ cut room text := by
  have hstore : (snprintf m as.length room text).1 = store m as.length (text.take (room-1) ++ [0]) :=
    if_neg hroom.ne'
  have hfront : slice (store m as.length (text.take (room-1) ++ [0])) 0 as.length = as := by
    rw [slice_store_disjoint _ _ _ _ _ (Or.inl (by omega))]
    exact h
  -- The NUL behind a text that fits is not looked at.
  have hback : slice (store m as.length (text.take (room-1) ++ [0])) as.length (cut room text).length =
      cut room text := by
    have hall := slice_store_self m as.length (text.take (room-1) ++ [0])
    unfold cut
    split
    · have htake : text.take (room-1) = text := List.take_of_length_le (by omega)
      rw [htake, List.length_append, slice_add] at hall
      rw [htake]
      exact (List.append_inj hall (by simp)).1
    · exact hall
  rw [hstore, slice_add, hfront, Nat.zero_add, hback]

/-- The segments behind the text as. -/
theorem fill_texts_cut (bufsize : ℕ) (texts : List (List UInt8)) (m : Mem) (o remaining len : ℕ)
    (as : List UInt8) (has : as.length = o+len) (hm : slice m 0 as.length = as)
    (hsize : o+remaining = bufsize) (hlen : len < remaining) :
    (fillTexts bufsize texts m o remaining len).1 =
        ((cut bufsize (as ++ texts.flatten)).length : ℤ) ∧
      slice (fillTexts bufsize texts m o remaining len).2 0
          (cut bufsize (as ++ texts.flatten)).length = cut bufsize (as ++ texts.flatten) := by
  induction texts generalizing m o remaining len as with
  | nil =>
    have hcut : cut bufsize (as ++ [].flatten) = as := by
      rw [List.flatten_nil, List.append_nil]
      exact if_pos (by omega)
    rw [hcut]
    refine ⟨?_,hm⟩
    change (bufsize : ℤ)-remaining+len = _
    omega
  | cons text texts ih =>
    have hroom : 0 < remaining-len := by omega
    have hprint := snprintf_cut m (remaining-len) as text hroom hm
    rw [has] at hprint
    rw [fillTexts]
    split
    · -- The buffer ends inside of this text, and the others do not count.
      rename_i hfull
      have hfull' : remaining-len ≤ text.length := hfull
      have hcut : cut bufsize (as ++ (text :: texts).flatten) = as ++ cut (remaining-len) text := by
        rw [cut_append _ _ _ (by omega), List.flatten_cons]
        have hrest : bufsize-as.length = remaining-len := by omega
        rw [hrest]
        unfold cut
        rw [if_neg (by rw [List.length_append]; omega), if_neg (by omega),
          List.take_append_of_le_length (by omega)]
      have hlength : (as ++ cut (remaining-len) text).length = bufsize := by
        rw [List.length_append, length_cut _ _ hroom]
        omega
      rw [hcut]
      refine ⟨by rw [hlength],?_⟩
      rw [List.length_append, has]
      exact hprint
    · rename_i hfit
      have hfit' : text.length < remaining-len := not_le.mp hfit
      have hcut : cut (remaining-len) text = text := if_pos hfit'
      rw [hcut] at hprint
      have hnext := ih (snprintf m (o+len) (remaining-len) text).1 (o+len) (remaining-len)
        text.length (as ++ text) (by rw [List.length_append, has])
        (by rw [List.length_append, has]; exact hprint) (by omega) hfit'
      rw [List.append_assoc, ← List.flatten_cons] at hnext
      exact hnext

/-- Every product and buffer: a device text that fits gives the banner, as far as there is room. -/
theorem fill_connect_data_cut (prod : Product) (m : Mem) (n : ℕ)
    (h : prod.deviceText.length < n) :
    (adbFillConnectData prod m n).1 = ((cut n prod.banner).length : ℤ) ∧
      slice (adbFillConnectData prod m n).2 0 (cut n prod.banner).length = cut n prod.banner := by
  have hprint := snprintf_cut m n [] prod.deviceText (by omega) rfl
  have hcut : cut n prod.deviceText = prod.deviceText := if_pos h
  rw [hcut, List.length_nil, Nat.zero_add, List.nil_append] at hprint
  have hfill := fill_texts_cut n prod.texts (snprintf m 0 n prod.deviceText).1 0 n
    prod.deviceText.length prod.deviceText (Nat.zero_add _).symm hprint (Nat.zero_add n) h
  have hdef : adbFillConnectData prod m n =
      fillTexts n prod.texts (snprintf m 0 n prod.deviceText).1 0 n prod.deviceText.length :=
    if_neg (not_le.mpr h)
  rw [hdef]
  exact hfill

theorem fill_connect_data_short (prod : Product) (m : Mem) (n : ℕ)
    (h : n ≤ prod.deviceText.length) : (adbFillConnectData prod m n).1 = -1 := by
  have hdef : adbFillConnectData prod m n = (-1, (snprintf m 0 n prod.deviceText).1) := if_pos h
  rw [hdef]

/-- The packet of the CNXN frame. -/
def cnxnPacket (cfg : Config) (up : ApacketUv) : ApacketUv :=
  (up.setData (adbFillConnectData cfg.product up.p.data cfg.cnxnPayloadSize).2).message aCnxn aVersion
    cfg.payloadSize (u32OfInt (adbFillConnectData cfg.product up.p.data cfg.cnxnPayloadSize).1)

variable {ω : Type}

/-- The frame that send_cnxn_frame hands to the transport: its payload is not longer than the
buffer, every byte of it comes from adb_fill_connect_data, and it is the banner or what the buffer
holds of it. -/
def SendsBanner (cfg : Config) (uv : Uv ω) (d : Daemon ω) (up : ApacketUv) : Prop :=
  ∃ msg payload ok es,
    (sendCnxnFrame cfg uv d up).log = d.log ++ .write up.addr msg payload ok :: es ∧
      msg.command = aCnxn ∧ msg.dataLength ≤ cfg.cnxnPayloadSize ∧
      payload.length = msg.dataLength ∧
      (∀ i < msg.dataLength, ∀ m, payload[i]? =
        some ((adbFillConnectData cfg.product m cfg.cnxnPayloadSize).2 i)) ∧
      payload = if cfg.product.banner.length < cfg.cnxnPayloadSize then cfg.product.banner
        else cfg.product.banner.take (cfg.cnxnPayloadSize-1) ++ [0]

/-- The length of a device text that does not fit is the 2^32-1 of the header. -/
theorem not_sends_banner (cfg : Config) (uv : Uv ω) (d : Daemon ω) (up : ApacketUv)
    (hshort : cfg.cnxnPayloadSize ≤ cfg.product.deviceText.length) : ¬SendsBanner cfg uv d up := by
  rintro ⟨msg,payload,ok',es',hlog',-,hlength,-,-,-⟩
  obtain ⟨ok,es,hlog,-⟩ := send_frame_log uv d (cnxnPacket cfg up)
  have hwrite := (List.cons.inj (List.append_cancel_left (hlog.symm.trans hlog'))).1
  have hmsg : (cnxnPacket cfg up).p.seal.msg = msg := by
    injection hwrite
  have hall : msg.dataLength = u32OfInt (-1) := by
    rw [← hmsg, ← fill_connect_data_short cfg.product up.p.data _ hshort]
    rfl
  rw [hall] at hlength
  have hmax : u32OfInt (-1) = 2^32-1 := by decide
  have hlt := cfg.cnxn_lt
  omega

/-- Every product and buffer size, transport and packet: the payload is as it should be exactly when
the first segment fits with its NUL. -/
theorem sends_banner_iff (cfg : Config) (uv : Uv ω) (d : Daemon ω) (up : ApacketUv)
    (hn : 0 < cfg.cnxnPayloadSize) :
    SendsBanner cfg uv d up ↔ cfg.product.deviceText.length < cfg.cnxnPayloadSize := by
  constructor
  · intro h
    by_contra hshort
    exact not_sends_banner cfg uv d up (not_lt.mp hshort) h
  · intro hfit
    obtain ⟨ok,es,hlog,-⟩ := send_frame_log uv d (cnxnPacket cfg up)
    have hlt := cfg.cnxn_lt
    obtain ⟨hint,-⟩ := fill_connect_data_cut cfg.product up.p.data _ hfit
    set text := cut cfg.cnxnPayloadSize cfg.product.banner with htext
    have hle : text.length ≤ cfg.cnxnPayloadSize := by
      rw [htext, length_cut _ _ hn]
      exact min_le_right _ _
    have hlength : (cnxnPacket cfg up).p.msg.dataLength = text.length := by
      have hu32 : u32OfInt ((text.length : ℕ) : ℤ) = text.length := by
        unfold u32OfInt
        omega
      rw [← hu32, ← hint]
      rfl
    have hbytes (m : Mem) := (fill_connect_data_cut cfg.product m _ hfit).2
    have hpayload : (cnxnPacket cfg up).p.payload = text := by
      rw [Apacket.payload, hlength]
      exact hbytes up.p.data
    refine ⟨(cnxnPacket cfg up).p.seal.msg,text,ok,es,?_,rfl,?_,hlength.symm,?_,rfl⟩
    · rw [← hpayload]
      exact hlog
    · exact hlength.trans_le hle
    · intro i hi m
      have hi' : i < text.length := hlength ▸ hi
      rw [List.getElem?_eq_getElem hi']
      have hget := (slice_eq_iff _ _ _).mp (hbytes m) i hi'
      rw [Nat.zero_add] at hget
      exact congrArg some hget.symm

/-- The CNXN of the host, whose packet the banner takes. -/
def hostCnxn : ApacketUv :=
  ⟨0,defaultConfig.cnxnPayloadSize,0,⟨aCnxn,aVersion,0,0,0,0⟩,fun _ => 0⟩

theorem default_banner_sent :
    SendsBanner defaultConfig plainUv (daemonStart [] ()) hostCnxn :=
  (sends_banner_iff defaultConfig plainUv (daemonStart [] ()) hostCnxn (by decide)).mpr
    (by decide)

/-- The options of CMakeLists.txt with a device id of 1016 bytes. -/
def longIdConfig : Config :=
  { defaultConfig with
    product := { defaultConfig.product with deviceId := List.replicate 1016 97 } }

theorem long_id_not_sent :
    ¬SendsBanner longIdConfig plainUv (daemonStart [] ()) hostCnxn := by
  apply not_sends_banner
  have hlength : longIdConfig.product.deviceText.length = 7+1016+1 := by
    change (ascii "device:" ++ List.replicate 1016 97 ++ ascii ":").length = _
    rw [List.length_append, List.length_append, List.length_replicate]
    rfl
  rw [hlength]
  decide

end MicroADB
