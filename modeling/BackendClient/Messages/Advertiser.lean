import BackendClient.Python.Dict
import BackendClient.Python.Builtins
import Mathlib.Data.Rat.Defs

/-!
# Advertiser messages

`AdvertiserMessage` turns the payload of a mesh frame into the per-node dictionary
`apdu["adv"]`. The payload is a two-byte header (a type byte whose bit 7 selects three- or
four-byte addresses, and a reserved byte) followed by records of an address and one value
byte. `decode` cuts the body into chunks of the record size, skips a short trailing chunk,
and files each record's value under its address in one of three lists, `rss`, `otap` or
`value`, chosen by the truthiness of two locals.

The values are Python numbers: the raw byte, or `raw / 2 - 127` for an RSS frame. Every
such number is a multiple of one half, so `ℚ` holds it exactly.

The class-wide `message_counter` is explicit state passed to `count`. `GenericMessage`, the
parent class, is not among the sources; the model takes `data_payload` and the receive time
as given and assumes that its `decode` leaves `apdu` alone.
-/

namespace BackendClient

/-- One entry of `apdu["adv"]`: `dict(time=None, rss=list(), otap=list(), value=list())`. -/
structure AdvEntry where
  time : Option Nat
  rss : List ℚ
  otap : List ℚ
  value : List ℚ

/-- The entry `decode` creates for an address it has not seen. -/
def AdvEntry.new : AdvEntry := ⟨none, [], [], []⟩

/-- The attributes of an `AdvertiserMessage` that `count` and `decode` read and write. -/
structure AdvertiserMessage where
  dataPayload : List UInt8
  /-- `self.timestamp = self.rx_time_ms_epoch`. -/
  timestamp : Nat
  /-- `apdu["adv"]`. -/
  adv : PyDict Nat AdvEntry
  advType : Option Nat
  advReservedField : Option Nat
  index : Option Nat

namespace AdvertiserMessage

/-- `AdvertiserMessage.message_type_rss`. -/
def messageTypeRss : Nat := 2

/-- `AdvertiserMessage.message_type_otap`. -/
def messageTypeOtap : Nat := 3

/-- `count()`: increments the class-wide `message_counter` and stamps the message with the
new value. Returns the counter and the message. -/
def count (messageCounter : Nat) (m : AdvertiserMessage) : Nat × AdvertiserMessage :=
  (messageCounter + 1, { m with index := some (messageCounter + 1) })

/-! ## The pieces of `decode` -/

/-- `struct.Struct("<B B").unpack(buf)`. -/
def unpackHeader : List UInt8 → Result (Nat × Nat)
  | [b0, b1] => .ok (b0.toNat, b1.toNat)
  | _ => .raise .structError

/-- `struct.Struct(fmt).unpack(buf)` for a format of `size` unsigned bytes (`"<B B B B"` has
size four, `"<B B B B B"` five). -/
def unpackBytes (size : Nat) (buf : List UInt8) : Result (List Nat) :=
  if buf.length = size then .ok (buf.map UInt8.toNat) else .raise .structError

/-- Modelled from the spec: `tools.chunker(seq, size)`, whose module is not among the
sources. The body is consumed in consecutive chunks of `size` elements; the last chunk is
shorter when `size` does not divide the length. -/
def chunker {α : Type} (seq : List α) (size : Nat) : List (List α) :=
  (List.range ((seq.length + size - 1) / size)).map fun i => (seq.drop (i * size)).take size

/-- The address of a record: `values[0] | values[1] << 8 | values[2] << 16`, and
`| values[3] << 24` when the address is four bytes long. -/
def address (addressLen : Nat) (values : List Nat) : Nat :=
  let address := values.getD 0 0 ||| (values.getD 1 0 <<< 8) ||| (values.getD 2 0 <<< 16)
  if addressLen = 4 then address ||| (values.getD 3 0 <<< 24) else address

/-- The locals `rss`, `otap` and `value` after the branch on the frame type. -/
def classify (advType raw : Nat) : Option ℚ × Option ℚ × ℚ :=
  if advType = messageTypeRss then
    let rss : ℚ := (raw : ℚ) / 2 - 127
    (some rss, none, rss)
  else if advType = messageTypeOtap then (none, some (raw : ℚ), (raw : ℚ))
  else (none, none, (raw : ℚ))

/-- Python truthiness of a local that holds `None` or a number. -/
def truthy : Option ℚ → Bool
  | none => false
  | some q => q ≠ 0

/-- `if rss: … elif otap: … else: …`, appending to one list of the entry. -/
def appendSample (rss otap : Option ℚ) (value : ℚ) (e : AdvEntry) : AdvEntry :=
  if truthy rss then { e with rss := e.rss ++ [rss.getD 0] }
  else if truthy otap then { e with otap := e.otap ++ [otap.getD 0] }
  else { e with value := e.value ++ [value] }

/-- The body of the loop after a record has been unpacked into `values`. -/
def storeRecord (advType addressLen timestamp : Nat) (adv : PyDict Nat AdvEntry)
    (values : List Nat) : PyDict Nat AdvEntry :=
  let address := address addressLen values
  let (rss, otap, value) := classify advType (values.getLastD 0)
  -- `if address not in self.apdu["adv"]: self.apdu["adv"][address] = dict(...)`
  let adv := adv.setdefault address AdvEntry.new
  let adv := adv.modify address fun e => { e with time := some timestamp }
  adv.modify address (appendSample rss otap value)

/-- One pass of the loop over the chunks of the body. -/
def decodeChunk (advType addressLen size timestamp : Nat) (adv : PyDict Nat AdvEntry)
    (chunk : List UInt8) : Result (PyDict Nat AdvEntry) :=
  if chunk.length < addressLen + 1 then pure adv
  else do
    let values ← unpackBytes size chunk
    pure (storeRecord advType addressLen timestamp adv values)

/-- `decode()`: unpacks the header, then every full record of the body into `apdu["adv"]`. -/
def decode (m : AdvertiserMessage) : Result AdvertiserMessage := do
  let (h0, h1) ← unpackHeader (m.dataPayload.take 2)
  let advType := h0 &&& 0x7F
  let address4byte := h0 >>> 7
  let (size, addressLen) := if address4byte = 1 then (5, 4) else (4, 3)
  let body := m.dataPayload.drop 2
  let adv ← (chunker body size).foldlM (decodeChunk advType addressLen size m.timestamp) m.adv
  pure { m with adv := adv, advType := some advType, advReservedField := some h1 }

/-- `AdvertiserMessage(...)`: a fresh `apdu["adv"]`, then `count()`, then `decode()`. The
counter has moved even when `decode` raises. -/
def init (messageCounter : Nat) (dataPayload : List UInt8) (timestamp : Nat) :
    Nat × Result AdvertiserMessage :=
  let m : AdvertiserMessage := ⟨dataPayload, timestamp, PyDict.empty, none, none, none⟩
  let (counter, m) := count messageCounter m
  (counter, decode m)

/-! ## Where a record goes

`appendSample` files a record's value in the list named by `slot`, and the value it files
is `sample`. The choice depends on the value itself, not only on the frame type: a value
of zero is falsy, so it goes to `value` whatever the type. -/

/-- The three lists of an entry. -/
inductive Slot
  | rss
  | otap
  | value
  deriving DecidableEq, Repr

/-- The list `appendSample` files a record with raw byte `raw` in. -/
def slot (advType raw : Nat) : Slot :=
  if truthy (classify advType raw).1 then .rss
  else if truthy (classify advType raw).2.1 then .otap
  else .value

/-- The number `appendSample` files for a record with raw byte `raw`. -/
def sample (advType raw : Nat) : ℚ := (classify advType raw).2.2

end AdvertiserMessage

namespace AdvEntry
open AdvertiserMessage

/-- The list of an entry named by a slot. -/
def list (e : AdvEntry) : Slot → List ℚ
  | .rss => e.rss
  | .otap => e.otap
  | .value => e.value

/-- An entry with one more number at the end of one list. -/
def push (e : AdvEntry) (s : Slot) (q : ℚ) : AdvEntry :=
  match s with
  | .rss => { e with rss := e.rss ++ [q] }
  | .otap => { e with otap := e.otap ++ [q] }
  | .value => { e with value := e.value ++ [q] }

@[simp] theorem time_push (e : AdvEntry) (s : Slot) (q : ℚ) : (e.push s q).time = e.time := by
  cases s <;> rfl

@[simp] theorem list_push (e : AdvEntry) (s s' : Slot) (q : ℚ) :
    (e.push s q).list s' = e.list s' ++ if s = s' then [q] else [] := by
  cases s <;> cases s' <;> simp [push, list]

@[simp] theorem list_new (s : Slot) : AdvEntry.new.list s = [] := by cases s <;> rfl

@[simp] theorem list_setTime (e : AdvEntry) (t : Option Nat) (s : Slot) :
    ({ e with time := t } : AdvEntry).list s = e.list s := by cases s <;> rfl

end AdvEntry

namespace AdvertiserMessage

theorem appendSample_classify (advType raw : Nat) (e : AdvEntry) :
    appendSample (classify advType raw).1 (classify advType raw).2.1 (classify advType raw).2.2 e
      = e.push (slot advType raw) (sample advType raw) := by
  unfold appendSample slot sample
  by_cases h2 : advType = messageTypeRss
  · by_cases h0 : truthy (classify advType raw).1 <;>
      simp_all [classify, truthy, AdvEntry.push]
  · by_cases h3 : advType = messageTypeOtap <;> by_cases h0 : (raw : ℚ) = 0 <;>
      simp_all [classify, truthy, AdvEntry.push]

theorem storeRecord_eq (advType addressLen timestamp : Nat) (adv : PyDict Nat AdvEntry)
    (values : List Nat) :
    storeRecord advType addressLen timestamp adv values =
      ((adv.setdefault (address addressLen values) AdvEntry.new).modify
        (address addressLen values) fun e => { e with time := some timestamp }).modify
        (address addressLen values)
        (fun e => e.push (slot advType (values.getLastD 0)) (sample advType (values.getLastD 0))) := by
  simp only [storeRecord, ← appendSample_classify]

@[simp] theorem mem_keys_storeRecord {advType addressLen timestamp : Nat}
    {adv : PyDict Nat AdvEntry} {values : List Nat} {a : Nat} :
    a ∈ (storeRecord advType addressLen timestamp adv values).keys ↔
      a = address addressLen values ∨ a ∈ adv.keys := by
  simp [storeRecord_eq]

/-- What storing a record with unpacked `values` does to the entry of its address. -/
def updateEntry (advType timestamp : Nat) (values : List Nat) (e : AdvEntry) : AdvEntry :=
  ({ e with time := some timestamp } : AdvEntry).push (slot advType (values.getLastD 0))
    (sample advType (values.getLastD 0))

@[simp] theorem get?_storeRecord {advType addressLen timestamp : Nat}
    {adv : PyDict Nat AdvEntry} {values : List Nat} {a : Nat} :
    (storeRecord advType addressLen timestamp adv values).get? a =
      if a = address addressLen values then
        some (updateEntry advType timestamp values ((adv.get? a).getD AdvEntry.new))
      else adv.get? a := by
  by_cases h : a = address addressLen values
  · subst h; simp [storeRecord_eq, updateEntry]
  · simp [storeRecord_eq, h]

/-! ## Storing many records

Storing records one after another only ever touches the entry of each record's address,
so the entry of an address is the fold of `updateEntry` over that address's records. -/

theorem mem_keys_foldl_storeRecord {advType addressLen timestamp : Nat} (rs : List (List Nat))
    (adv : PyDict Nat AdvEntry) (a : Nat) :
    a ∈ (rs.foldl (storeRecord advType addressLen timestamp) adv).keys ↔
      a ∈ adv.keys ∨ ∃ v ∈ rs, address addressLen v = a := by
  induction rs generalizing adv with
  | nil => simp
  | cons v vs ih =>
    simp only [List.foldl_cons, ih, mem_keys_storeRecord, List.mem_cons, exists_eq_or_imp]
    tauto

theorem get?_foldl_storeRecord {advType addressLen timestamp : Nat} (rs : List (List Nat))
    (adv : PyDict Nat AdvEntry) (a : Nat) :
    (rs.foldl (storeRecord advType addressLen timestamp) adv).get? a =
      (rs.filter fun v => address addressLen v = a).foldl
        (fun o v => some (updateEntry advType timestamp v (o.getD AdvEntry.new))) (adv.get? a) := by
  induction rs generalizing adv with
  | nil => rfl
  | cons v vs ih =>
    by_cases hv : address addressLen v = a
    · simp [ih, hv, List.filter_cons]
    · simp [ih, hv, List.filter_cons, Ne.symm hv]

theorem foldl_some_updateEntry {advType timestamp : Nat} (l : List (List Nat))
    (o : Option AdvEntry) :
    l.foldl (fun o v => some (updateEntry advType timestamp v (o.getD AdvEntry.new))) o =
      if l = [] then o else some (l.foldl (fun e v => updateEntry advType timestamp v e)
        (o.getD AdvEntry.new)) := by
  induction l generalizing o with
  | nil => rfl
  | cons v vs ih => cases vs <;> simp [ih]

@[simp] theorem list_foldl_updateEntry {advType timestamp : Nat} (l : List (List Nat))
    (e : AdvEntry) (s : Slot) :
    (l.foldl (fun e v => updateEntry advType timestamp v e) e).list s =
      e.list s ++ (l.filter fun v => slot advType (v.getLastD 0) = s).map
        fun v => sample advType (v.getLastD 0) := by
  induction l generalizing e with
  | nil => simp
  | cons v vs ih =>
    rw [List.foldl_cons, ih]
    by_cases hs : slot advType (v.getLast?.getD 0) = s <;> simp [updateEntry, hs, List.filter_cons]

theorem time_foldl_updateEntry {advType timestamp : Nat} {l : List (List Nat)} (hl : l ≠ [])
    (e : AdvEntry) :
    (l.foldl (fun e v => updateEntry advType timestamp v e) e).time = some timestamp := by
  induction l generalizing e with
  | nil => exact absurd rfl hl
  | cons v vs ih => cases vs <;> simp_all [updateEntry]

/-- The three lists together hold every filed number once: filing by slot partitions. -/
theorem perm_slot_lists {γ : Type} (l : List γ) (sl : γ → Slot) (g : γ → ℚ) :
    ((l.filter (sl · = .rss)).map g ++ (l.filter (sl · = .otap)).map g ++
      (l.filter (sl · = .value)).map g).Perm (l.map g) := by
  induction l with
  | nil => simp
  | cons x xs ih =>
    rcases hx : sl x with _ | _ | _ <;> simp [List.filter_cons, hx]
    · simpa using ih
    · exact List.perm_middle.trans (by simpa using ih.cons (g x))
    · rw [← List.append_assoc]; exact List.perm_middle.trans (ih.cons _)

/-! ## The loop over the body -/

theorem length_le_of_mem_chunker {α : Type} {seq : List α} {size : Nat} {c : List α}
    (h : c ∈ chunker seq size) : c.length ≤ size := by
  obtain ⟨i, -, rfl⟩ := List.mem_map.1 h
  exact List.length_take_le _ _

theorem decodeChunk_of_lt {advType addressLen size timestamp : Nat} {adv : PyDict Nat AdvEntry}
    {chunk : List UInt8} (h : chunk.length < addressLen + 1) :
    decodeChunk advType addressLen size timestamp adv chunk = .ok adv := by
  simp [decodeChunk, h]

theorem decodeChunk_of_eq {advType addressLen timestamp : Nat} {adv : PyDict Nat AdvEntry}
    {chunk : List UInt8} (h : chunk.length = addressLen + 1) :
    decodeChunk advType addressLen (addressLen + 1) timestamp adv chunk =
      .ok (storeRecord advType addressLen timestamp adv (chunk.map UInt8.toNat)) := by
  simp [decodeChunk, unpackBytes, h]

/-- Since the struct size is `address_len + 1`, every chunk the guard lets through unpacks:
the loop never raises, and stores exactly the full chunks, in order. -/
theorem foldlM_decodeChunk (advType addressLen timestamp : Nat) (chunks : List (List UInt8))
    (h : ∀ c ∈ chunks, c.length ≤ addressLen + 1) (adv : PyDict Nat AdvEntry) :
    chunks.foldlM (decodeChunk advType addressLen (addressLen + 1) timestamp) adv =
      .ok ((chunks.filter fun c => c.length = addressLen + 1).foldl
        (fun adv c => storeRecord advType addressLen timestamp adv (c.map UInt8.toNat)) adv) := by
  induction chunks generalizing adv with
  | nil => rfl
  | cons c cs ih =>
    have ih' := ih fun c' hc' => h c' (List.mem_cons_of_mem c hc')
    rcases Nat.lt_or_eq_of_le (h c (List.mem_cons_self c cs)) with hlt | heq
    · simp [decodeChunk_of_lt hlt, ih', hlt.ne]
    · simp [decodeChunk_of_eq heq, ih', heq]

/-- `decode` on a payload shorter than its header raises `struct.error`. -/
theorem decode_of_length_lt {m : AdvertiserMessage} (h : m.dataPayload.length < 2) :
    decode m = .raise .structError := by
  match hp : m.dataPayload, h with
  | [], _ => simp [decode, hp, unpackHeader]
  | [_], _ => simp [decode, hp, unpackHeader]

/-- `decode` on a payload with a header: the full records of the body are stored in turn. -/
theorem decode_of_cons {m : AdvertiserMessage} {b0 b1 : UInt8} {rest : List UInt8}
    (hp : m.dataPayload = b0 :: b1 :: rest) :
    decode m = .ok { m with
      adv := ((chunker rest (if b0.toNat >>> 7 = 1 then 5 else 4)).filter fun c =>
          c.length = (if b0.toNat >>> 7 = 1 then 4 else 3) + 1).foldl
        (fun adv c => storeRecord (b0.toNat &&& 0x7F) (if b0.toNat >>> 7 = 1 then 4 else 3)
          m.timestamp adv (c.map UInt8.toNat)) m.adv
      advType := some (b0.toNat &&& 0x7F)
      advReservedField := some b1.toNat } := by
  have hfold := fun (len : Nat) => foldlM_decodeChunk (b0.toNat &&& 0x7F) len m.timestamp
    (chunker rest (len + 1)) (fun c hc => length_le_of_mem_chunker hc) m.adv
  by_cases hw : b0.toNat >>> 7 = 1
  · simp [decode, hp, unpackHeader, hw, hfold 4]
  · simp [decode, hp, unpackHeader, hw, hfold 3]

end AdvertiserMessage

end BackendClient
