import Mathlib.Data.List.Nodup

/-!
# Python dictionaries

The client keeps all of its state in Python `dict`s: the decoded records of an advertiser
frame (`apdu["adv"]`), the known gateways and their sinks, the query parameters of a request.
A `dict` is modelled by its items in insertion order, which is also the order in which a
`for k, v in d.items()` loop visits them. Key uniqueness is carried by the structure, so a
dictionary with a repeated key cannot be built.

Assigning to a present key replaces its value in place; assigning to a new key appends it.
Mutating a value object that the dictionary holds (`d[k]["present"] = False`) is modelled
as `modify`, which rewrites that one value and keeps the order.
-/

namespace BackendClient

/-- A Python `dict`: its items in insertion order, each key at most once. -/
structure PyDict (α β : Type) where
  items : List (α × β)
  nodup_keys : (items.map Prod.fst).Nodup

namespace PyDict
variable {α β : Type} [DecidableEq α]

/-- The keys, in iteration order. -/
def keys (d : PyDict α β) : List α := d.items.map Prod.fst

/-- `{}`. -/
def empty : PyDict α β := ⟨[], List.nodup_nil⟩

/-- `d[k]`; `none` is the `KeyError`. -/
def get? (d : PyDict α β) (k : α) : Option β := d.items.lookup k

/-- `k in d`. -/
def contains (d : PyDict α β) (k : α) : Bool := decide (k ∈ d.keys)

/-- The value under `k` mutated in place; nothing happens to an absent key. -/
def modify (d : PyDict α β) (k : α) (f : β → β) : PyDict α β :=
  ⟨d.items.map fun e => if e.1 = k then (k, f e.2) else e, by
    have h : ∀ e : α × β, (if e.1 = k then (k, f e.2) else e).1 = e.1 := fun e => by
      by_cases he : e.1 = k <;> simp [he]
    simpa only [List.map_map, Function.comp_def, h] using d.nodup_keys⟩

/-- `d[k] = v`: a present key is overwritten in place, a new key goes last. -/
def set (d : PyDict α β) (k : α) (v : β) : PyDict α β :=
  if hk : k ∈ d.keys then d.modify k fun _ => v
  else ⟨d.items ++ [(k, v)], by simpa [List.nodup_append, d.nodup_keys, keys] using hk⟩

/-- `if k not in d: d[k] = v`, i.e. `d.setdefault(k, v)`. -/
def setdefault (d : PyDict α β) (k : α) (v : β) : PyDict α β :=
  if d.contains k then d else d.set k v

/-- `del d[k]`. -/
def erase (d : PyDict α β) (k : α) : PyDict α β :=
  ⟨d.items.filter fun e => e.1 ≠ k,
    d.nodup_keys.sublist ((List.filter_sublist _).map Prod.fst)⟩

/-- Every value mutated in place, as a loop over `d.items()` that mutates each value. -/
def mapValues (f : β → β) (d : PyDict α β) : PyDict α β :=
  ⟨d.items.map fun e => (e.1, f e.2), by
    simpa only [List.map_map, Function.comp_def] using d.nodup_keys⟩

/-! ## Association lists -/

private theorem lookup_cons_eq {k k' : α} {v : β} {l : List (α × β)} :
    ((k, v) :: l).lookup k' = if k' = k then some v else l.lookup k' := by
  by_cases h : k' = k
  · simp [h]
  · simp [List.lookup_cons, beq_eq_false_iff_ne.2 h, h]

private theorem lookup_map_modify (l : List (α × β)) (k k' : α) (f : β → β) :
    (l.map fun e => if e.1 = k then (k, f e.2) else e).lookup k' =
      if k' = k then (l.lookup k).map f else l.lookup k' := by
  induction l with
  | nil => split_ifs <;> rfl
  | cons e l ih =>
    obtain ⟨a, b⟩ := e
    by_cases ha : a = k
    · subst ha; by_cases h : k' = a <;> simp [lookup_cons_eq, h, ih]
    · by_cases h : k' = k
      · subst h; simp [lookup_cons_eq, ha, ih, Ne.symm ha]
      · by_cases h2 : k' = a <;> simp [lookup_cons_eq, ha, h, h2, ih]

private theorem lookup_append_singleton (l : List (α × β)) (k k' : α) (v : β) :
    (l ++ [(k, v)]).lookup k' = (l.lookup k').or (if k' = k then some v else none) := by
  induction l with
  | nil => simp [lookup_cons_eq]
  | cons e l ih =>
    obtain ⟨a, b⟩ := e
    by_cases h : k' = a <;> simp [lookup_cons_eq, h, ih]

/-! ## Lookup -/

theorem get?_eq_none_iff {d : PyDict α β} {k : α} : d.get? k = none ↔ k ∉ d.keys := by
  rw [get?, List.lookup_eq_none_iff, keys, List.mem_map]
  simp only [bne_iff_ne, ne_eq, not_exists, not_and]
  exact ⟨fun h p hp hk => h p hp hk.symm, fun h p hp hk => h p hp hk.symm⟩

theorem isSome_get?_iff {d : PyDict α β} {k : α} : (d.get? k).isSome ↔ k ∈ d.keys := by
  rw [← not_iff_not, ← get?_eq_none_iff, Option.not_isSome_iff_eq_none]

/-- An item of the dictionary is what `get?` finds under its key: keys do not repeat. -/
theorem mem_items_iff {d : PyDict α β} {k : α} {v : β} : (k, v) ∈ d.items ↔ d.get? k = some v := by
  obtain ⟨l, hl⟩ := d
  simp only [get?]
  induction l with
  | nil => simp
  | cons e l ih =>
    obtain ⟨a, b⟩ := e
    simp only [List.map_cons, List.nodup_cons, List.mem_map] at hl
    by_cases h : k = a
    · subst h
      simp only [List.mem_cons, Prod.mk.injEq, true_and, lookup_cons_eq, if_true,
        Option.some.injEq]
      exact ⟨fun h' => h'.elim Eq.symm fun hm => (hl.1 ⟨_, hm, rfl⟩).elim, fun h' => .inl h'.symm⟩
    · simp [lookup_cons_eq, h, ih hl.2]

/-- A loop over `d.items()` that only acts on key `k` meets the one item of that key. -/
theorem flatMap_items_key {γ : Type} (d : PyDict α β) (k : α) (f : β → List γ) :
    (d.items.flatMap fun e => if e.1 = k then f e.2 else []) = ((d.get? k).map f).getD [] := by
  obtain ⟨l, hl⟩ := d
  simp only [get?]
  induction l with
  | nil => rfl
  | cons e l ih =>
    obtain ⟨a, b⟩ := e
    simp only [List.map_cons, List.nodup_cons, List.mem_map] at hl
    rw [List.flatMap_cons, lookup_cons_eq, ih hl.2]
    by_cases h : k = a
    · subst h
      have hnone : l.lookup k = none :=
        List.lookup_eq_none_iff.2 fun p hp => bne_iff_ne.2 fun hk => hl.1 ⟨p, hp, hk.symm⟩
      simp [hnone]
    · simp [h, Ne.symm h]

theorem mem_keys_of_get? {d : PyDict α β} {k : α} {v : β} (h : d.get? k = some v) :
    k ∈ d.keys :=
  isSome_get?_iff.1 (by simp [h])

theorem exists_get?_of_mem_keys {d : PyDict α β} {k : α} (h : k ∈ d.keys) :
    ∃ v, d.get? k = some v :=
  Option.isSome_iff_exists.1 (isSome_get?_iff.2 h)

@[simp] theorem contains_eq {d : PyDict α β} {k : α} : d.contains k = decide (k ∈ d.keys) := rfl

omit [DecidableEq α] in
@[simp] theorem keys_empty : (empty : PyDict α β).keys = [] := rfl

@[simp] theorem get?_empty (k : α) : (empty : PyDict α β).get? k = none := rfl

/-! ## Updates

Each update is described by its keys and by what `get?` returns afterwards; later proofs
use these and never unfold the update. -/

@[simp] theorem keys_modify {d : PyDict α β} {k : α} {f : β → β} :
    (d.modify k f).keys = d.keys := by
  simp only [modify, keys, List.map_map]
  exact List.map_congr_left fun e _ => by by_cases h : e.1 = k <;> simp [h]

@[simp] theorem get?_modify {d : PyDict α β} {k k' : α} {f : β → β} :
    (d.modify k f).get? k' = if k' = k then (d.get? k).map f else d.get? k' :=
  lookup_map_modify d.items k k' f

@[simp] theorem mem_keys_set {d : PyDict α β} {k k' : α} {v : β} :
    k' ∈ (d.set k v).keys ↔ k' = k ∨ k' ∈ d.keys := by
  unfold set
  split_ifs with hk
  · rw [keys_modify]
    exact ⟨.inr, fun h => h.elim (fun h => h ▸ hk) id⟩
  · simp [keys, or_comm]

@[simp] theorem get?_set {d : PyDict α β} {k k' : α} {v : β} :
    (d.set k v).get? k' = if k' = k then some v else d.get? k' := by
  by_cases hk : k ∈ d.keys
  · obtain ⟨u, hu⟩ := exists_get?_of_mem_keys hk
    by_cases hk' : k' = k <;> simp [set, hk, hk', hu]
  · by_cases hk' : k' = k
    · subst hk'
      simp [set, hk, get?, lookup_append_singleton, ← get?_eq_none_iff.2 hk]
    · simp [set, hk, get?, lookup_append_singleton, hk']

@[simp] theorem mem_keys_setdefault {d : PyDict α β} {k k' : α} {v : β} :
    k' ∈ (d.setdefault k v).keys ↔ k' = k ∨ k' ∈ d.keys := by
  by_cases hk : k ∈ d.keys
  · simp only [setdefault, contains_eq, hk, decide_True, if_true]
    exact ⟨.inr, fun h => h.elim (fun h => h ▸ hk) id⟩
  · simp [setdefault, hk]

@[simp] theorem get?_setdefault {d : PyDict α β} {k k' : α} {v : β} :
    (d.setdefault k v).get? k' = if k' = k then some ((d.get? k).getD v) else d.get? k' := by
  by_cases hk : k ∈ d.keys
  · obtain ⟨u, hu⟩ := exists_get?_of_mem_keys hk
    by_cases hk' : k' = k <;> simp [setdefault, hk, hk', hu]
  · simp [setdefault, hk, get?_eq_none_iff.2 hk]

@[simp] theorem mem_keys_erase {d : PyDict α β} {k k' : α} :
    k' ∈ (d.erase k).keys ↔ k' ≠ k ∧ k' ∈ d.keys := by
  simp only [erase, keys, List.mem_map, List.mem_filter, decide_eq_true_eq]
  constructor
  · rintro ⟨e, ⟨he, hne⟩, rfl⟩; exact ⟨hne, e, he, rfl⟩
  · rintro ⟨hne, e, he, rfl⟩; exact ⟨e, ⟨he, hne⟩, rfl⟩

@[simp] theorem get?_erase {d : PyDict α β} {k k' : α} :
    (d.erase k).get? k' = if k' = k then none else d.get? k' := by
  simp only [get?, erase]
  induction d.items with
  | nil => simp
  | cons e l ih =>
    obtain ⟨a, b⟩ := e
    by_cases ha : a = k
    · subst ha
      rw [List.filter_cons_of_neg (by simp), ih]
      by_cases h : k' = a <;> simp [lookup_cons_eq, h]
    · rw [List.filter_cons_of_pos (by simpa using ha), lookup_cons_eq, lookup_cons_eq, ih]
      by_cases h : k' = a
      · subst h; simp [ha]
      · simp [h]

/-- `for k in ks: del d[k]`. -/
@[simp] theorem get?_foldl_erase {d : PyDict α β} {ks : List α} {k : α} :
    (ks.foldl erase d).get? k = if k ∈ ks then none else d.get? k := by
  induction ks generalizing d with
  | nil => simp
  | cons k' ks ih =>
    by_cases h : k = k'
    · subst h; simp [ih]
    · simp [ih, h]

omit [DecidableEq α] in
@[simp] theorem keys_mapValues {d : PyDict α β} {f : β → β} : (d.mapValues f).keys = d.keys := by
  simp [mapValues, keys]

@[simp] theorem get?_mapValues {d : PyDict α β} {f : β → β} {k : α} :
    (d.mapValues f).get? k = (d.get? k).map f := by
  simp only [get?, mapValues]
  induction d.items with
  | nil => rfl
  | cons e l ih =>
    obtain ⟨a, b⟩ := e
    by_cases h : k = a <;> simp [lookup_cons_eq, h, ih]

end PyDict

end BackendClient
