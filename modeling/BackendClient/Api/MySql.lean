import BackendClient.Messages.Frame

/-!
# Storing advertiser messages

`MySQLObserver._map_message` hands every `AdvertiserMessage` to `MySQL.put_advertiser`, which
builds one row of the `advertiser` table for each value it finds and inserts the rows with
`executemany`. It reads the entries from `message.advertisers`, and from each entry only the
list `fields["value"]`.

No class among the sources defines `advertisers`: `AdvertiserMessage` keeps its entries under
`apdu["adv"]`, and `GenericMessage`, not among the sources, is assumed to define no such
attribute, so the read raises `AttributeError`. `advertiserRows` takes the read as a parameter,
so that what the loops do with the entries is stated apart from it. A row is kept as its three
columns that come from the decoded data: the measured time (`message.timestamp`, before its
ISO rendering), `node_address` and `value`; the other columns, the connection and the logger
are left out.
-/

namespace BackendClient.MySQL
open AdvertiserMessage Frame

/-- One row of the `advertiser` table, by its columns that come from the decoded data. -/
structure AdvertiserRow where
  measuredTime : Nat
  nodeAddress : Nat
  value : ℚ
  deriving DecidableEq

/-- `message.advertisers`: no class among the sources defines the attribute. -/
def advertisers (_message : AdvertiserMessage) : Result (PyDict Nat AdvEntry) :=
  .raise (.attributeError "advertisers")

/-- The loops of `put_advertiser` that fill `values`, for a reading `advertisers` of the
attribute: for each message, for each `node_address, fields` of its entries, for each
number of `fields["value"]`, one row. -/
def advertiserRows (advertisers : AdvertiserMessage → Result (PyDict Nat AdvEntry))
    (messages : List AdvertiserMessage) : Result (List AdvertiserRow) :=
  messages.foldlM (fun values message => do
    let entries ← advertisers message
    pure (entries.items.foldl (fun values entry =>
      entry.2.value.foldl (fun values value =>
        values ++ [⟨message.timestamp, entry.1, value⟩]) values) values)) []

/-- `put_advertiser(messages)`: the rows `executemany` inserts. -/
def putAdvertiser (messages : List AdvertiserMessage) : Result (List AdvertiserRow) :=
  advertiserRows advertisers messages

/-- `MySQLObserver._map_message` on an `AdvertiserMessage`. -/
def mapMessage (message : AdvertiserMessage) : Result (List AdvertiserRow) :=
  putAdvertiser [message]

/-! ## The rows of one message -/

private theorem foldl_append_flatMap {α β : Type} (g : α → List β) (l : List α) (acc : List β) :
    l.foldl (fun acc a => acc ++ g a) acc = acc ++ l.flatMap g := by
  induction l generalizing acc with
  | nil => simp
  | cons a l ih => simp [ih]

/-- The loops over one message's entries: the `value` numbers of each entry, entry by
entry, each under the entry's address. -/
theorem advertiserRows_singleton {advertisers : AdvertiserMessage → Result (PyDict Nat AdvEntry)}
    {message : AdvertiserMessage} {entries : PyDict Nat AdvEntry}
    (h : advertisers message = .ok entries) :
    advertiserRows advertisers [message] = .ok (entries.items.flatMap fun e =>
      e.2.value.map fun v => ⟨message.timestamp, e.1, v⟩) := by
  simp only [advertiserRows, List.foldlM_cons, List.foldlM_nil, h, Result.ok_bind,
    Result.pure_eq, foldl_append_flatMap, ← List.map_eq_flatMap, List.nil_append]

/-- The rows of an address carry the numbers of its entry's `value` list, and no other. -/
theorem values_rows_at (t a : Nat) (entries : PyDict Nat AdvEntry) :
    (((entries.items.flatMap fun e => e.2.value.map fun v => (⟨t, e.1, v⟩ : AdvertiserRow)).filter
      (·.nodeAddress = a)).map (·.value)) = ((entries.get? a).map (·.value)).getD [] := by
  rw [← PyDict.flatMap_items_key, List.filter_flatMap, List.map_flatMap]
  congr 1
  funext e
  by_cases he : e.1 = a <;> simp [List.filter_map, Function.comp_def, he]

/-! ## What `put_advertiser` stores of a decoded message -/

/-- **`put_advertiser` stores no RSS or OTAP sample.** For every message constructed from a
payload, `put_advertiser([m])` raises `AttributeError` on `message.advertisers` and stores no
row. Were the attribute `apdu["adv"]`, the rows of an address would carry exactly the samples
of its records that `decode` filed under `value`: no `rss` or `otap` sample would have a
row. -/
theorem putAdvertiser_constructed (counter : Nat) (p : List UInt8) (t : Nat)
    {m : AdvertiserMessage} (hm : (AdvertiserMessage.init counter p t).2 = .ok m) :
    putAdvertiser [m] = .raise (.attributeError "advertisers") ∧
      ∃ rows, advertiserRows (fun m => .ok m.adv) [m] = .ok rows ∧
        ∀ a, (rows.filter (·.nodeAddress = a)).map (·.value) =
          ((recordsAt p a).filter fun r => slot (frameType (p.headD 0)) (recordRaw r) = .value).map
            (recordSample (frameType (p.headD 0))) := by
  have hm' : decode ⟨p, t, PyDict.empty, none, none, some (counter + 1)⟩ = .ok m := hm
  refine ⟨rfl, _, advertiserRows_singleton rfl, fun a => ?_⟩
  rw [values_rows_at]
  cases hg : m.adv.get? a with
  | some e => exact (get?_decode rfl hm' hg .value).2
  | none =>
    have hat : recordsAt p a = [] := List.eq_nil_iff_forall_not_mem.2 fun r hr =>
      PyDict.get?_eq_none_iff.1 hg ((mem_keys_decode rfl hm' a).2
        ⟨r, (List.mem_filter.1 hr).1, by simpa using (List.mem_filter.1 hr).2⟩)
    simp [hat]

/-- An OTAP frame with one record, node 1 reporting sequence 5: its sample is filed under
`otap`, so even with `apdu["adv"]` read for `advertisers` no row carries it. -/
theorem putAdvertiser_constructed_otapFrame :
    slot 3 5 = .otap ∧ ∃ m, (AdvertiserMessage.init 0 [3, 0, 1, 0, 0, 5] 0).2 = .ok m ∧
      putAdvertiser [m] = .raise (.attributeError "advertisers") ∧
      ∃ rows, advertiserRows (fun m => .ok m.adv) [m] = .ok rows ∧
        ∀ a, (rows.filter (·.nodeAddress = a)).map (·.value) =
          ((recordsAt [3, 0, 1, 0, 0, 5] a).filter fun r =>
            slot (frameType 3) (recordRaw r) = .value).map (recordSample (frameType 3)) :=
  ⟨by decide, _, rfl, putAdvertiser_constructed 0 [3, 0, 1, 0, 0, 5] 0 rfl⟩

end BackendClient.MySQL
