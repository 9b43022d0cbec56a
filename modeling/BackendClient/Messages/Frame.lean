import BackendClient.Messages.Advertiser
import Mathlib.Data.List.Perm.Basic
import Mathlib.Algebra.Field.Rat
import Mathlib.Tactic.NormNum

/-!
# The advertiser wire format

The frame layout as the specification states it, written without the decoder's chunking
loop or bit operations: the records of a payload are the `⌊(len p - 2) / (w + 1)⌋` full
`(w + 1)`-byte chunks after the header, a record's address is the little-endian value of
its first `w` bytes, and its sample is its last byte, halved and shifted for an RSS frame.

`decode_records` shows that `decode` refines this description: decoding into an empty
`apdu["adv"]` raises exactly when the header is missing, and otherwise keeps one sample per
record, under the record's address, in record order. The list that receives a sample is
chosen by Python truthiness, which `slot_eq` shows is not the frame type alone. Decoding into
an `apdu["adv"]` that already holds the payload's entries files every record again
(`decode_again`).
-/

namespace BackendClient.Frame
open AdvertiserMessage

/-- The little-endian value of a byte string. -/
def leValue : List UInt8 → Nat
  | [] => 0
  | b :: bs => b.toNat + 256 * leValue bs

/-- The address width of a frame whose type byte is `b0`: four bytes when `b0 >> 7 == 1`. -/
def addressWidth (b0 : UInt8) : Nat := if b0.toNat >>> 7 = 1 then 4 else 3

/-- The frame type, `b0 & 0x7F`. -/
def frameType (b0 : UInt8) : Nat := b0.toNat &&& 0x7F

/-- The full records of a payload `p`: the consecutive `(w + 1)`-byte chunks of `p[2:]`,
`⌊(len p - 2) / (w + 1)⌋` of them. -/
def records (p : List UInt8) : List (List UInt8) :=
  let w := addressWidth (p.headD 0)
  (List.range ((p.length - 2) / (w + 1))).map fun i => ((p.drop 2).drop (i * (w + 1))).take (w + 1)

/-- The address of a record: the little-endian value of its first `w` bytes. -/
def recordAddress (w : Nat) (r : List UInt8) : Nat := leValue (r.take w)

/-- The value byte of a record, its last. -/
def recordRaw (r : List UInt8) : Nat := (r.getLastD 0).toNat

/-- The sample a record decodes to: `raw / 2 - 127` in an RSS frame, `raw` otherwise. -/
def recordSample (type : Nat) (r : List UInt8) : ℚ :=
  if type = 2 then (recordRaw r : ℚ) / 2 - 127 else recordRaw r

/-! ## Addresses -/

private theorem toNat_lt_256 (b : UInt8) : b.toNat < 256 := b.toNat_lt_size

theorem leValue_lt (l : List UInt8) : leValue l < 256 ^ l.length := by
  induction l with
  | nil => simp [leValue]
  | cons b bs ih =>
    have hb := toNat_lt_256 b
    rw [leValue, List.length_cons, Nat.pow_succ]
    omega

private theorem lor_shiftLeft_eq_add {x : Nat} (y : Nat) {k : Nat} (hx : x < 2 ^ k) :
    x ||| (y <<< k) = x + y * 2 ^ k := by
  rw [Nat.or_comm, Nat.shiftLeft_eq, Nat.mul_comm, ← Nat.mul_add_lt_is_or hx, Nat.add_comm]

/-- The decoder's `|` of shifted bytes is the little-endian value of the address bytes. -/
theorem address_eq_leValue {w : Nat} (hw : w = 3 ∨ w = 4) {r : List UInt8}
    (hr : r.length = w + 1) : address w (r.map UInt8.toNat) = leValue (r.take w) := by
  rcases hw with rfl | rfl
  · match r, hr with
    | [a, b, c, _], _ =>
      have := toNat_lt_256 a; have := toNat_lt_256 b
      simp only [address, leValue, List.map_cons, List.map_nil, List.getD_cons_zero,
        List.getD_cons_succ, List.take, if_neg (by decide : (3 : Nat) ≠ 4)]
      rw [lor_shiftLeft_eq_add _ (by omega : a.toNat < 2 ^ 8),
        lor_shiftLeft_eq_add _ (by omega : a.toNat + b.toNat * 2 ^ 8 < 2 ^ 16)]
      omega
  · match r, hr with
    | [a, b, c, d, _], _ =>
      have := toNat_lt_256 a; have := toNat_lt_256 b; have := toNat_lt_256 c
      simp only [address, leValue, List.map_cons, List.map_nil, List.getD_cons_zero,
        List.getD_cons_succ, List.take, if_true]
      rw [lor_shiftLeft_eq_add _ (by omega : a.toNat < 2 ^ 8),
        lor_shiftLeft_eq_add _ (by omega : a.toNat + b.toNat * 2 ^ 8 < 2 ^ 16),
        lor_shiftLeft_eq_add _ (by omega : a.toNat + b.toNat * 2 ^ 8 + c.toNat * 2 ^ 16 < 2 ^ 24)]
      omega

/-! ## Records -/

private theorem filter_range_lt (K m : Nat) :
    (List.range K).filter (fun i => decide (i < m)) = List.range (min K m) := by
  induction K with
  | zero => simp
  | succ K ih =>
    rw [List.range_succ, List.filter_append, ih]
    by_cases h : K < m
    · simp [h, Nat.min_eq_left (Nat.le_of_lt h), Nat.min_eq_left (Nat.succ_le_of_lt h),
        List.range_succ]
    · simp [h, Nat.min_eq_right (Nat.le_of_not_lt h),
        Nat.min_eq_right (Nat.le_succ_of_le (Nat.le_of_not_lt h))]

/-- The full chunks of `chunker` are the `⌊len / size⌋` leading slices: the short chunk, if
any, is the last one. -/
theorem filter_chunker {α : Type} (seq : List α) {size : Nat} (hs : 0 < size) :
    (chunker seq size).filter (fun c => c.length = size) =
      (List.range (seq.length / size)).map fun i => (seq.drop (i * size)).take size := by
  have hK : seq.length / size ≤ (seq.length + size - 1) / size :=
    Nat.div_le_div_right (by omega)
  have hfull : ∀ i, ((seq.drop (i * size)).take size).length = size ↔ i < seq.length / size := by
    intro i
    rw [List.length_take, List.length_drop, Nat.lt_iff_add_one_le, Nat.le_div_iff_mul_le hs,
      Nat.succ_mul]
    omega
  unfold chunker
  rw [List.filter_map, List.filter_congr (q := fun i => decide (i < seq.length / size))
    (fun i _ => by simpa using hfull i), filter_range_lt, Nat.min_eq_right hK]

/-- `decode` on a payload with a header stores the payload's records, in order. -/
theorem decode_eq_records {m : AdvertiserMessage} {b0 b1 : UInt8} {rest : List UInt8}
    (hp : m.dataPayload = b0 :: b1 :: rest) :
    decode m = .ok { m with
      adv := ((records m.dataPayload).map (·.map UInt8.toNat)).foldl
        (storeRecord (frameType b0) (addressWidth b0) m.timestamp) m.adv
      advType := some (frameType b0)
      advReservedField := some b1.toNat } := by
  have hsize : (if b0.toNat >>> 7 = 1 then 5 else 4) = addressWidth b0 + 1 := by
    unfold addressWidth; split <;> rfl
  rw [decode_of_cons hp, hsize, show (if b0.toNat >>> 7 = 1 then 4 else 3) = addressWidth b0 from rfl,
    filter_chunker _ (Nat.succ_pos _), List.foldl_map, hp]
  simp [records, List.foldl_map, frameType]

theorem length_of_mem_records {p : List UInt8} {r : List UInt8} (hr : r ∈ records p) :
    r.length = addressWidth (p.headD 0) + 1 := by
  obtain ⟨i, hi, rfl⟩ := List.mem_map.1 hr
  rw [List.mem_range, Nat.lt_iff_add_one_le, Nat.le_div_iff_mul_le (Nat.succ_pos _),
    Nat.succ_mul] at hi
  simp only [List.length_take, List.length_drop, Nat.succ_eq_add_one] at hi ⊢
  omega

theorem addressWidth_cases (b0 : UInt8) : addressWidth b0 = 3 ∨ addressWidth b0 = 4 := by
  unfold addressWidth; split <;> simp

/-! ## Samples -/

theorem getLastD_map_toNat (r : List UInt8) : (r.map UInt8.toNat).getLastD 0 = recordRaw r := by
  simpa [recordRaw] using List.getLastD_map UInt8.toNat r 0

/-- The decoder's filed number is the spec's sample, `raw / 2 - 127` exactly for type 2. -/
theorem sample_recordRaw (t : Nat) (r : List UInt8) : sample t (recordRaw r) = recordSample t r := by
  unfold sample classify recordSample messageTypeRss
  split_ifs <;> rfl

/-! ## What `decode` makes of a frame -/

section Decode
variable {m m' : AdvertiserMessage}

/-- The records of address `a`, by the spec's reading of the frame. -/
def recordsAt (p : List UInt8) (a : Nat) : List (List UInt8) :=
  (records p).filter fun r => recordAddress (addressWidth (p.headD 0)) r = a

private theorem filter_address_records {p : List UInt8} {w : Nat}
    (hw : addressWidth (p.headD 0) = w) (a : Nat) :
    ((records p).map (·.map UInt8.toNat)).filter (fun v => address w v = a) =
      (recordsAt p a).map (·.map UInt8.toNat) := by
  subst hw
  rw [List.filter_map, recordsAt]
  congr 1
  refine List.filter_congr fun r hr => ?_
  simp only [Function.comp_def, address_eq_leValue (addressWidth_cases _) (length_of_mem_records hr),
    recordAddress]

/-- Decoding into an empty `apdu["adv"]` creates exactly the addresses of the records. -/
theorem mem_keys_decode (hm : m.adv = PyDict.empty) (h : decode m = .ok m') (a : Nat) :
    a ∈ m'.adv.keys ↔ ∃ r ∈ records m.dataPayload,
      recordAddress (addressWidth (m.dataPayload.headD 0)) r = a := by
  match hp : m.dataPayload with
  | b0 :: b1 :: rest =>
    rw [decode_eq_records hp, Result.ok.injEq] at h
    subst h
    rw [mem_keys_foldl_storeRecord, hm, hp]
    have key := fun (r : List UInt8) (hr : r ∈ records (b0 :: b1 :: rest)) =>
      address_eq_leValue (addressWidth_cases b0)
        (length_of_mem_records (p := b0 :: b1 :: rest) hr)
    simp only [PyDict.keys_empty, List.not_mem_nil, false_or, List.mem_map, List.headD_cons]
    constructor
    · rintro ⟨_, ⟨r, hr, rfl⟩, rfl⟩; exact ⟨r, hr, (key r hr).symm⟩
    · rintro ⟨r, hr, rfl⟩; exact ⟨_, ⟨r, hr, rfl⟩, key r hr⟩
  | [] | [_] => simp [decode_of_length_lt (m := m) (by simp [hp])] at h

/-- Decoding into an empty `apdu["adv"]`: the entry of an address is stamped with the
message time, and each of its lists holds, in record order, the samples of that address's
records that `appendSample` files there. -/
theorem get?_decode (hm : m.adv = PyDict.empty) (h : decode m = .ok m') {a : Nat}
    {e : AdvEntry} (he : m'.adv.get? a = some e) (s : Slot) :
    e.time = some m.timestamp ∧
      e.list s = ((recordsAt m.dataPayload a).filter fun r =>
        slot (frameType (m.dataPayload.headD 0)) (recordRaw r) = s).map
          (recordSample (frameType (m.dataPayload.headD 0))) := by
  match hp : m.dataPayload with
  | b0 :: b1 :: rest =>
    rw [decode_eq_records hp, Result.ok.injEq] at h
    subst h
    rw [get?_foldl_storeRecord, hm, PyDict.get?_empty, hp,
      filter_address_records (p := b0 :: b1 :: rest) (w := addressWidth b0) rfl,
      foldl_some_updateEntry] at he
    split_ifs at he with hnil
    cases he
    refine ⟨time_foldl_updateEntry (by simpa using hnil) _, ?_⟩
    rw [list_foldl_updateEntry, Option.getD_none, AdvEntry.list_new, List.nil_append,
      List.filter_map, List.map_map]
    simp only [Function.comp_def, getLastD_map_toNat, sample_recordRaw, List.headD_cons]
  | [] | [_] => simp [decode_of_length_lt (m := m) (by simp [hp])] at h

/-- Bytes after the last full record are no record: appending fewer than `w + 1` bytes to a
payload made of whole records leaves its records unchanged. -/
theorem records_append_partial {p t : List UInt8} (hp : 2 ≤ p.length)
    (hfull : (p.length - 2) % (addressWidth (p.headD 0) + 1) = 0)
    (ht : t.length < addressWidth (p.headD 0) + 1) :
    records (p ++ t) = records p := by
  match p, hp with
  | b0 :: b1 :: rest, _ =>
    have hlen : ∀ n, n + 1 + 1 - 2 = n := fun n => rfl
    simp only [List.length_cons, hlen, List.headD_cons] at hfull ht
    obtain ⟨q, hq⟩ : ∃ q, rest.length = (addressWidth b0 + 1) * q :=
      ⟨_, (Nat.mul_div_cancel' (Nat.dvd_of_mod_eq_zero hfull)).symm⟩
    have hdiv : (rest.length + t.length) / (addressWidth b0 + 1) =
        rest.length / (addressWidth b0 + 1) := by
      rw [hq, Nat.mul_add_div (Nat.succ_pos _), Nat.mul_div_cancel_left _ (Nat.succ_pos _),
        Nat.div_eq_of_lt ht, Nat.add_zero]
    simp only [records, List.cons_append, List.length_cons, List.length_append, hlen,
      List.headD_cons, List.drop_succ_cons, List.drop_zero, hdiv]
    refine List.map_congr_left fun i hi => ?_
    have hi' : (i + 1) * (addressWidth b0 + 1) ≤ rest.length := by
      rw [List.mem_range, Nat.lt_iff_add_one_le, Nat.le_div_iff_mul_le (Nat.succ_pos _)] at hi
      exact hi
    rw [Nat.succ_mul] at hi'
    rw [List.drop_append_of_le_length (by omega),
      List.take_append_of_le_length (by rw [List.length_drop]; omega)]

end Decode

/-- What decoding the payload of `m` into an empty `apdu["adv"]` produces, by the wire
format: `m'` has one entry per record address, each address fits its width, an entry holds
the samples of its address's records across its three lists (none lost or duplicated, each
list in record order, stamped with the message time), and bytes after the last full record
change nothing. -/
structure DecodesFrame (m m' : AdvertiserMessage) : Prop where
  keys : ∀ a, a ∈ m'.adv.keys ↔
    ∃ r ∈ records m.dataPayload, recordAddress (addressWidth (m.dataPayload.headD 0)) r = a
  keys_lt : ∀ a ∈ m'.adv.keys, a < 2 ^ (8 * addressWidth (m.dataPayload.headD 0))
  entries : ∀ a e, m'.adv.get? a = some e →
    let samples := (recordsAt m.dataPayload a).map (recordSample (frameType (m.dataPayload.headD 0)))
    e.time = some m.timestamp ∧ (e.rss ++ e.otap ++ e.value).Perm samples ∧
      e.rss.Sublist samples ∧ e.otap.Sublist samples ∧ e.value.Sublist samples
  trailing : ∀ t : List UInt8, t.length < addressWidth (m.dataPayload.headD 0) + 1 →
    (m.dataPayload.length - 2) % (addressWidth (m.dataPayload.headD 0) + 1) = 0 →
    decode { m with dataPayload := m.dataPayload ++ t } =
      .ok { m' with dataPayload := m.dataPayload ++ t }

/-- **Record-level correctness of `decode`.** Decoding raises exactly when the payload is
shorter than its header, and decoding into an empty `apdu["adv"]` produces what the wire format
describes. -/
theorem decode_records (m : AdvertiserMessage) :
    ((decode m).isOk ↔ 2 ≤ m.dataPayload.length) ∧
      (m.adv = PyDict.empty → ∀ m', decode m = .ok m' → DecodesFrame m m') := by
  refine ⟨?_, fun hm m' h => ⟨mem_keys_decode hm h, fun a ha => ?_, fun a e he => ?_, ?_⟩⟩
  · match hp : m.dataPayload with
    | b0 :: b1 :: rest => simp [decode_eq_records hp, Result.isOk]
    | [] | [_] => simp [decode_of_length_lt (m := m) (by simp [hp]), Result.isOk]
  · obtain ⟨r, hr, rfl⟩ := (mem_keys_decode hm h a).1 ha
    have hw := length_of_mem_records hr
    calc leValue (r.take _) < 256 ^ (r.take (addressWidth (m.dataPayload.headD 0))).length :=
          leValue_lt _
      _ = 2 ^ (8 * addressWidth (m.dataPayload.headD 0)) := by
          rw [List.length_take, hw, Nat.min_eq_left (Nat.le_succ _), Nat.pow_mul]
  · have hl := fun s => (get?_decode hm h he s).2
    refine ⟨(get?_decode hm h he .rss).1, ?_, ?_, ?_, ?_⟩
    · exact (hl .rss ▸ hl .otap ▸ hl .value ▸ perm_slot_lists _ _ _ :)
    · exact (hl .rss ▸ (List.filter_sublist _).map _ :)
    · exact (hl .otap ▸ (List.filter_sublist _).map _ :)
    · exact (hl .value ▸ (List.filter_sublist _).map _ :)
  · intro t ht hfull
    match hp : m.dataPayload with
    | b0 :: b1 :: rest =>
      rw [hp] at ht hfull
      rw [decode_eq_records hp, Result.ok.injEq] at h
      subst h
      rw [decode_eq_records (show ({ m with dataPayload := b0 :: b1 :: rest ++ t } :
        AdvertiserMessage).dataPayload = b0 :: b1 :: (rest ++ t) from rfl),
        records_append_partial (by simp) hfull ht]
      simp [hp]
    | [] | [_] => simp [decode_of_length_lt (m := m) (by simp [hp])] at h

/-- An RSS frame with one record: address 1, raw byte 254. -/
def rssFrame : AdvertiserMessage := ⟨[2, 0, 1, 0, 0, 254], 0, PyDict.empty, none, none, none⟩

theorem decode_records_rssFrame :
    ((decode rssFrame).isOk ↔ 2 ≤ rssFrame.dataPayload.length) ∧ rssFrame.adv = PyDict.empty ∧
      ∀ m', decode rssFrame = .ok m' → DecodesFrame rssFrame m' :=
  ⟨(decode_records rssFrame).1, rfl, (decode_records rssFrame).2 rfl⟩

/-! ## Which list a sample goes to -/

/-- A record is filed as RSS exactly in an RSS frame with a raw byte other than 254, and as
OTAP exactly in an OTAP frame with a raw byte other than 0; everything else is filed under
`value`. -/
theorem slot_eq (t raw : Nat) :
    slot t raw = if t = messageTypeRss ∧ raw ≠ 254 then .rss
      else if t = messageTypeOtap ∧ raw ≠ 0 then .otap else .value := by
  have h254 : ((raw : ℚ) / 2 - 127 = 0) ↔ raw = 254 := by
    rw [sub_eq_zero, div_eq_iff (by norm_num)]
    norm_cast
  unfold slot classify truthy messageTypeRss messageTypeOtap
  by_cases h2 : t = 2
  · simp [h2, h254]
  · by_cases h3 : t = 3 <;> simp [h2, h3]

/-- The RSS record of `rssFrame` decodes to `0.0`, which is falsy, so it is filed under
`value` and the `rss` list of its address stays empty. -/
theorem decode_rssFrame_value :
    ∃ m', decode rssFrame = .ok m' ∧
      ∃ e, m'.adv.get? 1 = some e ∧ e.rss = [] ∧ e.otap = [] ∧ e.value = [0] := by
  obtain ⟨m', hm'⟩ : ∃ m', decode rssFrame = .ok m' := ⟨_, decode_eq_records rfl⟩
  obtain ⟨e, he⟩ := PyDict.exists_get?_of_mem_keys
    ((mem_keys_decode rfl hm' 1).2 ⟨[1, 0, 0, 254], by decide, by decide⟩)
  have hat : recordsAt rssFrame.dataPayload 1 = [[1, 0, 0, 254]] := by decide
  have ht : frameType (rssFrame.dataPayload.headD 0) = messageTypeRss := by decide
  have hslot : slot messageTypeRss (recordRaw [1, 0, 0, 254]) = .value := by
    rw [slot_eq]; decide
  have hl := fun s => (get?_decode rfl hm' he s).2
  simp only [hat, ht, hslot, List.filter_cons, List.filter_nil] at hl
  refine ⟨m', hm', e, he, hl .rss, hl .otap, ?_⟩
  rw [show e.value = e.list .value from rfl, hl .value]
  norm_num [recordSample, messageTypeRss, show recordRaw [1, 0, 0, 254] = 254 from rfl]

/-! ## Decoding a second time

`decode` appends to the lists of `apdu["adv"]` and never clears them. Decoding a message
that has been decoded already files every record of its payload once more: the addresses
and times stay, and each list of each entry is repeated. -/

/-- An entry whose three lists have each been repeated. -/
def doubled (e : AdvEntry) : AdvEntry :=
  { e with rss := e.rss ++ e.rss, otap := e.otap ++ e.otap, value := e.value ++ e.value }

@[simp] theorem list_doubled (e : AdvEntry) (s : Slot) : (doubled e).list s = e.list s ++ e.list s := by
  cases s <;> rfl

private theorem advEntry_eq {e e' : AdvEntry} (ht : e.time = e'.time)
    (hl : ∀ s, e.list s = e'.list s) : e = e' := by
  have hr := hl .rss; have ho := hl .otap; have hv := hl .value
  cases e; cases e'
  simp_all [AdvEntry.list]

/-- Storing the same records into the entry they built doubles its lists. -/
theorem foldl_updateEntry_again {t ts : Nat} {l : List (List Nat)} (hl : l ≠ []) :
    l.foldl (fun e v => updateEntry t ts v e) (l.foldl (fun e v => updateEntry t ts v e) AdvEntry.new) =
      doubled (l.foldl (fun e v => updateEntry t ts v e) AdvEntry.new) :=
  advEntry_eq ((time_foldl_updateEntry hl _).trans (time_foldl_updateEntry hl AdvEntry.new).symm)
    fun s => by simp

theorem exists_decode {m : AdvertiserMessage} (hp : 2 ≤ m.dataPayload.length) :
    ∃ m', decode m = .ok m' := by
  match h : m.dataPayload, hp with
  | b0 :: b1 :: rest, _ => exact ⟨_, decode_eq_records h⟩

section Again
variable {m m' m'' : AdvertiserMessage}

theorem dataPayload_decode (h : decode m = .ok m') : m'.dataPayload = m.dataPayload := by
  match hp : m.dataPayload with
  | b0 :: b1 :: rest =>
    rw [decode_eq_records hp, Result.ok.injEq] at h
    rw [← h, hp]
  | [] | [_] => simp [decode_of_length_lt (m := m) (by simp [hp])] at h

/-- Decoding again doubles the lists of every entry the first decoding made. -/
theorem get?_decode_again (hm : m.adv = PyDict.empty) (h : decode m = .ok m')
    (h' : decode m' = .ok m'') (a : Nat) : m''.adv.get? a = (m'.adv.get? a).map doubled := by
  match hp : m.dataPayload with
  | b0 :: b1 :: rest =>
    rw [decode_eq_records ((dataPayload_decode h).trans hp), Result.ok.injEq] at h'
    rw [decode_eq_records hp, Result.ok.injEq] at h
    subst h'
    subst h
    simp only [get?_foldl_storeRecord, hm, PyDict.get?_empty, foldl_some_updateEntry]
    split_ifs with hnil
    · rfl
    · simp only [Option.getD_some, Option.getD_none, Option.map_some']
      exact congrArg some (foldl_updateEntry_again hnil)
  | [] | [_] => simp [decode_of_length_lt (m := m) (by simp [hp])] at h

/-- Decoding again leaves `apdu["adv"]` as it was exactly when the payload has no full
record. -/
theorem adv_decode_again_eq_iff (hm : m.adv = PyDict.empty) (h : decode m = .ok m')
    (h' : decode m' = .ok m'') : m''.adv = m'.adv ↔ records m.dataPayload = [] := by
  have hp' := dataPayload_decode h
  constructor
  · intro heq
    by_contra hne
    obtain ⟨r, hr⟩ := List.exists_mem_of_ne_nil _ hne
    obtain ⟨e, he⟩ := PyDict.exists_get?_of_mem_keys ((mem_keys_decode hm h _).2 ⟨r, hr, rfl⟩)
    set s := slot (frameType (m.dataPayload.headD 0)) (recordRaw r)
    have hs : e.list s ≠ [] := by
      rw [(get?_decode hm h he s).2]
      exact List.ne_nil_of_mem (List.mem_map_of_mem _
        (List.mem_filter.2 ⟨List.mem_filter.2 ⟨hr, by simp⟩, by simp [s]⟩))
    have hd : doubled e = e := by
      have hg := get?_decode_again hm h h' (recordAddress (addressWidth (m.dataPayload.headD 0)) r)
      rw [heq, he, Option.map_some'] at hg
      exact (Option.some.inj hg).symm
    have hlen := congrArg List.length (congrArg (AdvEntry.list · s) hd)
    simp only [list_doubled, List.length_append, Nat.add_right_eq_self] at hlen
    exact hs (List.eq_nil_of_length_eq_zero hlen)
  · intro hnil
    match hp : m'.dataPayload with
    | b0 :: b1 :: rest =>
      rw [decode_eq_records hp, Result.ok.injEq] at h'
      rw [← h', hp', hnil]
      rfl
    | [] | [_] => simp [decode_of_length_lt (m := m') (by simp [hp])] at h'

end Again

/-- **A second `decode()` repeats every sample.** For every payload with a header, decoding
again a message constructed from it keeps every address and time but repeats each of the
`rss`, `otap` and `value` lists of every entry, so every sample count doubles; `apdu["adv"]`
is left as it was exactly when the payload has no full record. -/
theorem decode_again (counter : Nat) (p : List UInt8) (t : Nat) (hp : 2 ≤ p.length) :
    ∃ m, (AdvertiserMessage.init counter p t).2 = .ok m ∧ ∃ m', decode m = .ok m' ∧
      (∀ a, m'.adv.get? a = (m.adv.get? a).map doubled) ∧ (m'.adv = m.adv ↔ records p = []) := by
  have hinit : (AdvertiserMessage.init counter p t).2 =
      decode ⟨p, t, PyDict.empty, none, none, some (counter + 1)⟩ := rfl
  obtain ⟨m, hm⟩ := exists_decode (m := ⟨p, t, PyDict.empty, none, none, some (counter + 1)⟩) hp
  obtain ⟨m', hm'⟩ := exists_decode (m := m) (by rw [dataPayload_decode hm]; exact hp)
  exact ⟨m, hinit.trans hm, m', hm', get?_decode_again rfl hm hm',
    (adv_decode_again_eq_iff rfl hm hm' :)⟩

/-- An OTAP frame with one record, node 1 reporting sequence 5: decoded again, its entry's
`otap` list `[5]` becomes `[5, 5]`. -/
theorem decode_again_otapFrame :
    2 ≤ [3, 0, 1, 0, 0, 5].length ∧ records [3, 0, 1, 0, 0, 5] ≠ [] ∧
      ∃ m, (AdvertiserMessage.init 0 [3, 0, 1, 0, 0, 5] 0).2 = .ok m ∧ ∃ m', decode m = .ok m' ∧
        (∀ a, m'.adv.get? a = (m.adv.get? a).map doubled) ∧
        (m'.adv = m.adv ↔ records [3, 0, 1, 0, 0, 5] = []) :=
  ⟨by decide, by decide, decode_again 0 [3, 0, 1, 0, 0, 5] 0 (by decide)⟩

end BackendClient.Frame
