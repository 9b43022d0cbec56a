import BackendClient.Python.Dict
import Mathlib.Data.Rat.Defs

/-!
# The inventory tracker

Modelled from the spec: `wirepas_backend_client.management.Inventory` is not among the
sources. The benchmark loop of `kpi_adv` calls `add`, `wait`, `is_out_of_time`,
`is_complete`, `is_otaped`, `is_frequency_reached` and `finish` on it; this module gives
those operations the meaning the spec gives them (§3, §4.2, §4.3), over the sample values the
decoder produces.

`start_at` is the time the tracker is made plus the start delay, and the hard deadline is
`start_at` plus the maximum duration. Time is a natural number of ticks.
-/

namespace BackendClient

/-- Modelled from the spec: the record of one observed node. -/
structure NodeRecord where
  lastSeen : Option Nat
  rss : List ℚ
  otap : List ℚ

/-- Modelled from the spec: the record of a node seen for the first time. -/
def NodeRecord.empty : NodeRecord := ⟨none, [], []⟩

/-- Modelled from the spec: the settings `AdvertiserManager.__init__` gives the tracker. -/
structure InventoryConfig where
  targetNodes : Option (List Nat)
  targetOtapSequence : Option ℚ
  targetFrequency : Option Nat
  startDelay : Nat
  maximumDuration : Nat

/-- Modelled from the spec: one benchmark session. -/
structure Inventory where
  sequence : Nat
  config : InventoryConfig
  startAt : Nat
  hardDeadline : Nat
  nodes : PyDict Nat NodeRecord
  finishedAt : Option Nat

namespace Inventory

/-- Modelled from the spec: the tracker of run `sequence`, made at time `now`. -/
def new (sequence : Nat) (config : InventoryConfig) (now : Nat) : Inventory :=
  ⟨sequence, config, now + config.startDelay, now + config.startDelay + config.maximumDuration,
    PyDict.empty, none⟩

/-- Modelled from the spec: `add` creates the record if absent, appends the samples and
overwrites `last_seen`. -/
def add (inv : Inventory) (nodeAddress : Nat) (rss otap : List ℚ) (timestamp : Option Nat) :
    Inventory :=
  { inv with
    nodes := (inv.nodes.setdefault nodeAddress NodeRecord.empty).modify nodeAddress (fun r =>
      { r with lastSeen := timestamp, rss := r.rss ++ rss, otap := r.otap ++ otap }) }

/-- Modelled from the spec: `is_out_of_time()`. -/
def isOutOfTime (inv : Inventory) (now : Nat) : Bool := inv.hardDeadline ≤ now

/-- Modelled from the spec: `is_complete()`, a non-empty target set that has been observed. -/
def isComplete (inv : Inventory) : Bool :=
  match inv.config.targetNodes with
  | some targets => !targets.isEmpty && targets.all fun a => a ∈ inv.nodes.keys
  | none => false

/-- Modelled from the spec: `is_otaped()`, every node in scope has logged the target
OTAP sequence. -/
def isOtaped (inv : Inventory) : Bool :=
  match inv.config.targetOtapSequence with
  | some target =>
    (inv.config.targetNodes.getD inv.nodes.keys).all fun a =>
      match inv.nodes.get? a with
      | some r => target ∈ r.otap
      | none => false
  | none => false

/-- Modelled from the spec: `frequency()`, the number of samples of each node. -/
def frequency (inv : Inventory) (nodeAddress : Nat) : Nat :=
  match inv.nodes.get? nodeAddress with
  | some r => r.rss.length + r.otap.length
  | none => 0

/-- Modelled from the spec: `is_frequency_reached()`, some node has reached the target
number of samples. -/
def isFrequencyReached (inv : Inventory) : Bool :=
  match inv.config.targetFrequency with
  | some target => inv.nodes.keys.any fun a => target ≤ inv.frequency a
  | none => false

/-- Modelled from the spec: `wait()` first resets the tracker, so that each run starts on a
fresh one for its sequence number, with no node data and its start time and deadline counted
from the call (§3: one tracker per run, no carry-over of node data). -/
def reset (inv : Inventory) (now : Nat) : Inventory := new inv.sequence inv.config now

/-- Modelled from the spec: `finish()` freezes the end time on its first call. -/
def finish (inv : Inventory) (now : Nat) : Inventory :=
  { inv with finishedAt := some (inv.finishedAt.getD now) }

/-! ## What `add` does -/

/-- **Samples are appended, never replaced.** -/
theorem frequency_add (inv : Inventory) (nodeAddress : Nat) (rss otap : List ℚ)
    (timestamp : Option Nat) (a : Nat) :
    (inv.add nodeAddress rss otap timestamp).frequency a =
      inv.frequency a + if a = nodeAddress then rss.length + otap.length else 0 := by
  unfold frequency add
  by_cases ha : a = nodeAddress
  · subst ha
    cases h : inv.nodes.get? a <;> simp [h, NodeRecord.empty, Nat.add_assoc, Nat.add_left_comm]
  · simp [ha]

end Inventory

end BackendClient
