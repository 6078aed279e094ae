import MicroADB.Adb

/-! The payload of a CNXN frame, adb_banner.c. -/
namespace MicroADB
open ByteMemory

/-- snprintf of a text without conversions to offset o, where room bytes are left. -/
def snprintf (m : Mem) (o room : ℕ) (text : List UInt8) : Mem × ℕ :=
  (if room = 0 then m else store m o (text.take (room-1) ++ [0]), text.length)

/-- The texts behind the first one, in their order. -/
def Product.texts (prod : Product) : List (List UInt8) :=
  [prod.productName.map (fun s => ascii "ro.product.name=" ++ s ++ ascii ";"),
    prod.productModel.map (fun s => ascii "ro.product.model=" ++ s ++ ascii ";"),
    prod.productDevice.map (fun s => ascii "ro.product.device=" ++ s ++ ascii ";"),
    some (ascii "features=" ++ prod.features)].reduceOption

/-- The steps of adb_fill_connect_data behind a text of len bytes at offset o. -/
def fillTexts (bufsize : ℕ) : List (List UInt8) → Mem → ℕ → ℕ → ℕ → ℤ × Mem
  | [], m, _, remaining, len => (bufsize-remaining+len, m)
  | text :: texts, m, o, remaining, len =>
    let r := snprintf m (o+len) (remaining-len) text
    if remaining-len ≤ r.2 then (bufsize, r.1)
    else fillTexts bufsize texts r.1 (o+len) (remaining-len) r.2

def adbFillConnectData (prod : Product) (m : Mem) (bufsize : ℕ) : ℤ × Mem :=
  let r := snprintf m 0 bufsize (ascii "device:" ++ prod.deviceId ++ ascii ":")
  if bufsize ≤ r.2 then (-1, r.1) else fillTexts bufsize prod.texts r.1 0 bufsize r.2

end MicroADB
