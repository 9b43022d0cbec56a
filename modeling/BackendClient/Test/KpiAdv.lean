import BackendClient.Messages.Frame
import BackendClient.Management.Inventory

/-!
# The advertiser benchmark loop

`AdvertiserManager.test_inventory` runs one inventory: it sets the tracker's `sequence`, calls
`wait()`, which resets the tracker and blocks until its start time, resets the class-wide
`AdvertiserMessage.message_counter`, and then passes the entries of each message it takes from
`rx_queue` to `inventory.add`, until the tracker is out of time or one of its targets is
reached, or the exit signal is set. Meanwhile the transport keeps constructing
`AdvertiserMessage`s, each of which calls `count()`, and putting them on the queue.

The model is the whole system as a state machine (the consumer's place in `test_inventory`, the
queue, the class counter and the clock) with one `Event` for each thing that can happen next.
Each queued message carries its order of arrival, and the loop logs every message it consumes
with the run, that order, and how many messages had arrived when the run's `wait()` returned.
Logging, `empty_counter`, `start_signal`, the storage queue and the report, built after the
loop, are left out.
-/

namespace BackendClient

namespace AdvertiserManager

/-- A message on `rx_queue`, with the order in which it was put there. -/
structure Queued where
  serial : Nat
  message : AdvertiserMessage

/-- One message the loop took from the queue: the run, the order the message was put on the
queue in, how many messages had been put there when the run's `wait()` returned, the
message's `index`, and the entries passed to `inventory.add`. -/
structure Consumption where
  run : Nat
  serial : Nat
  startMark : Nat
  index : Option Nat
  entries : List (Nat × AdvEntry)

/-- Where the consumer is. -/
inductive Phase where
  /-- Between runs. -/
  | idle
  /-- In `inventory.wait()`. -/
  | waiting
  /-- `wait()` has returned; the counter is not reset yet. -/
  | started
  /-- In the `while` loop. -/
  | active
  deriving DecidableEq

/-- The state of the consumer, the queue, the class counter and the clock. -/
structure KpiState where
  now : Nat
  /-- `AdvertiserMessage.message_counter`. -/
  messageCounter : Nat
  /-- How many messages have been put on the queue. -/
  enqueued : Nat
  rxQueue : List Queued
  phase : Phase
  /-- `self._test_sequence_number`. -/
  run : Nat
  /-- How many messages had been put on the queue when this run's `wait()` returned. -/
  startMark : Nat
  /-- How many messages the loop had consumed when this run called `wait()`. -/
  runFrom : Nat
  inventory : Inventory
  consumed : List Consumption
  exitSignal : Bool

/-- What can happen next. -/
inductive Event where
  /-- The clock advances. -/
  | tick
  /-- The transport constructs an `AdvertiserMessage` from a payload and queues it. -/
  | arrive (payload : List UInt8)
  /-- `test_inventory(n)` is called, sets `inventory.sequence` and calls `wait()`. -/
  | beginRun (n : Nat)
  /-- `inventory.wait()` returns. -/
  | waitReturns
  /-- `AdvertiserMessage.message_counter = 0`. -/
  | resetCounter
  /-- `rx_queue.get` returns a message. -/
  | get
  /-- `rx_queue.get` times out. -/
  | empty
  /-- The exit signal is set. -/
  | exit
  /-- The loop sees the exit signal. -/
  | exitLoop

/-- The state before anything happens. -/
def init (config : InventoryConfig) : KpiState :=
  ⟨0, 0, 0, [], .idle, 0, 0, 0, Inventory.new 0 config 0, [], false⟩

/-- The `for node_address, details in message.apdu["adv"].items()` loop. -/
def addEntries (inv : Inventory) (entries : List (Nat × AdvEntry)) : Inventory :=
  entries.foldl (fun inv e => inv.add e.1 e.2.rss e.2.otap e.2.time) inv

/-- The checks at the end of the loop body, in the order `test_inventory` makes them. -/
def loopDone (inv : Inventory) (now : Nat) : Bool :=
  inv.isOutOfTime now || inv.isComplete || inv.isOtaped || inv.isFrequencyReached

/-- The state after the loop: `inventory.finish()`. -/
def finishRun (s : KpiState) : KpiState :=
  { s with phase := .idle, inventory := s.inventory.finish s.now }

/-- The effect of one event, `none` when it cannot happen now. -/
def step (s : KpiState) : Event → Option KpiState
  | .tick => some { s with now := s.now + 1 }
  | .arrive payload =>
    match AdvertiserMessage.init s.messageCounter payload s.now with
    | (counter, .ok m) =>
      some { s with
        messageCounter := counter
        enqueued := s.enqueued + 1
        rxQueue := s.rxQueue ++ [⟨s.enqueued, m⟩] }
    | (counter, _) => some { s with messageCounter := counter }
  | .beginRun n =>
    if s.phase = .idle then
      some { s with
        phase := .waiting
        run := n
        runFrom := s.consumed.length
        inventory := Inventory.reset { s.inventory with sequence := n } s.now }
    else none
  | .waitReturns =>
    if s.phase = .waiting ∧ s.inventory.startAt ≤ s.now then
      some { s with phase := .started, startMark := s.enqueued }
    else none
  | .resetCounter =>
    if s.phase = .started then some { s with messageCounter := 0, phase := .active } else none
  | .get =>
    match s.phase, s.exitSignal, s.rxQueue with
    | .active, false, q :: rest =>
      let entries := q.message.adv.items
      let s := { s with
        rxQueue := rest
        inventory := addEntries s.inventory entries
        consumed := s.consumed ++ [⟨s.run, q.serial, s.startMark, q.message.index, entries⟩] }
      some (if loopDone s.inventory s.now then finishRun s else s)
    | _, _, _ => none
  | .empty =>
    match s.phase, s.exitSignal, s.rxQueue with
    | .active, false, [] => some (if s.inventory.isOutOfTime s.now then finishRun s else s)
    | _, _, _ => none
  | .exit => some { s with exitSignal := true }
  | .exitLoop => if s.phase = .active ∧ s.exitSignal then some (finishRun s) else none

/-- The states some interleaving reaches. -/
inductive Reachable (config : InventoryConfig) : KpiState → Prop where
  | init : Reachable config (init config)
  | step {s s' : KpiState} {e : Event} :
      Reachable config s → step s e = some s' → Reachable config s'

/-- The events of a list, in order. -/
def run : KpiState → List Event → Option KpiState
  | s, [] => some s
  | s, e :: es => (step s e).bind fun s' => run s' es

theorem reachable_of_run {config : InventoryConfig} :
    ∀ {s s' : KpiState} {es : List Event}, Reachable config s → run s es = some s' →
      Reachable config s'
  | _, _, [], hs, h => by cases h; exact hs
  | s, _, e :: es, hs, h => by
    simp only [run] at h
    cases he : step s e with
    | none => simp [he] at h
    | some s1 => exact reachable_of_run (Reachable.step hs he) (by simpa [he] using h)

/-- A list of events from the start that ends in a state where `p` holds. -/
theorem exists_reachable_of_run (config : InventoryConfig) (es : List Event)
    (p : KpiState → Bool) (h : (run (init config) es).map p = some true) :
    ∃ s, Reachable config s ∧ p s = true := by
  cases hr : run (init config) es with
  | none => simp [hr] at h
  | some s =>
    simp only [hr, Option.map_some', Option.some.injEq] at h
    exact ⟨s, reachable_of_run Reachable.init hr, h⟩

/-! ## What one event does

Of the state, the invariants below read the queue, the log and the tracker's nodes. An event
leaves all of them alone, queues a message, consumes the head of the queue, or begins a run
on a fresh tracker. -/

/-- **Inversion lemma**: what one event can do to the queue, the log and the tracker. -/
theorem step_cases {s s' : KpiState} {e : Event} (h : step s e = some s') :
    (s'.rxQueue = s.rxQueue ∧ s'.consumed = s.consumed ∧ s'.runFrom = s.runFrom ∧
      s'.inventory.nodes = s.inventory.nodes) ∨
    (∃ m, (∃ counter p t, (AdvertiserMessage.init counter p t).2 = .ok m) ∧
      s'.rxQueue = s.rxQueue ++ [⟨s.enqueued, m⟩] ∧ s'.consumed = s.consumed ∧
      s'.runFrom = s.runFrom ∧ s'.inventory.nodes = s.inventory.nodes) ∨
    (∃ q rest, s.rxQueue = q :: rest ∧ s'.rxQueue = rest ∧
      s'.consumed = s.consumed ++
        [⟨s.run, q.serial, s.startMark, q.message.index, q.message.adv.items⟩] ∧
      s'.runFrom = s.runFrom ∧
      s'.inventory.nodes = (addEntries s.inventory q.message.adv.items).nodes) ∨
    (s'.rxQueue = s.rxQueue ∧ s'.consumed = s.consumed ∧ s'.runFrom = s.consumed.length ∧
      s'.inventory.nodes = PyDict.empty) := by
  cases e with
  | arrive payload =>
    simp only [step] at h
    split at h <;> cases h
    · next hm => exact .inr (.inl ⟨_, ⟨_, _, _, by rw [hm]⟩, rfl, rfl, rfl, rfl⟩)
    · exact .inl ⟨rfl, rfl, rfl, rfl⟩
  | get =>
    simp only [step] at h
    split at h
    · next _ _ _ q rest _ _ hq =>
      cases h
      split <;> exact .inr (.inr (.inl ⟨q, rest, hq, rfl, rfl, rfl, rfl⟩))
    · cases h
  | empty =>
    simp only [step] at h
    split at h
    · cases h; split <;> exact .inl ⟨rfl, rfl, rfl, rfl⟩
    · cases h
  | beginRun =>
    simp only [step] at h; split_ifs at h; cases h
    exact .inr (.inr (.inr ⟨rfl, rfl, rfl, rfl⟩))
  | tick | exit => cases h; exact .inl ⟨rfl, rfl, rfl, rfl⟩
  | waitReturns | resetCounter | exitLoop =>
    simp only [step] at h; split_ifs at h; cases h; exact .inl ⟨rfl, rfl, rfl, rfl⟩

/-- An inventory with no target, no start delay and a maximum duration of 5 ticks. -/
def benchConfig : InventoryConfig := ⟨none, none, none, 0, 5⟩

/-- An OTAP frame with one record: node 1 reports sequence 5. -/
def otapFrame : List UInt8 := [3, 0, 1, 0, 0, 5]

/-! ## Each run has a tracker of its own

`wait()` resets the tracker, and the loop passes it the entries of every message it takes, so
the tracker holds exactly what the current run has consumed: the messages of an earlier run
leave nothing in it. -/

/-- The RSS and OTAP samples a list of entries gives a node. -/
def samplesFor (a : Nat) : List (Nat × AdvEntry) → Nat
  | [] => 0
  | e :: entries =>
    (if a = e.1 then e.2.rss.length + e.2.otap.length else 0) + samplesFor a entries

theorem frequency_addEntries (inv : Inventory) (entries : List (Nat × AdvEntry)) (a : Nat) :
    (addEntries inv entries).frequency a = inv.frequency a + samplesFor a entries := by
  induction entries generalizing inv with
  | nil => simp [addEntries, samplesFor]
  | cons e entries ih =>
    rw [show addEntries inv (e :: entries) = addEntries (inv.add e.1 e.2.rss e.2.otap e.2.time)
      entries from rfl, ih, Inventory.frequency_add]
    by_cases ha : a = e.1 <;> simp [samplesFor, ha, Nat.add_assoc]

section Pipeline
open AdvertiserMessage (Slot slot)

/-- Every message on the queue was constructed, and decoded, from a payload. -/
def QueueDecoded (s : KpiState) : Prop :=
  ∀ q ∈ s.rxQueue, ∃ counter p t, (AdvertiserMessage.init counter p t).2 = .ok q.message

theorem queueDecoded_step {s s' : KpiState} (h : QueueDecoded s) {e : Event}
    (he : step s e = some s') : QueueDecoded s' := by
  rcases step_cases he with ⟨hq, -⟩ | ⟨m, hm, hq, -⟩ | ⟨q, rest, hq0, hq, -⟩ | ⟨hq, -⟩ <;>
    intro q' hq' <;> rw [hq] at hq'
  · exact h q' hq'
  · rcases List.mem_append.1 hq' with hq' | hq'
    · exact h q' hq'
    · rw [List.mem_singleton.1 hq']
      exact hm
  · exact h q' (hq0 ▸ List.mem_cons_of_mem q hq')
  · exact h q' hq'

theorem queueDecoded_of_reachable {config : InventoryConfig} {s : KpiState}
    (h : Reachable config s) : QueueDecoded s := by
  induction h with
  | init => nofun
  | step _ he ih => exact queueDecoded_step ih he

/-- The samples a list of entries gives a node, read off a dictionary's one item for it. -/
theorem samplesFor_items (d : PyDict Nat AdvEntry) (a : Nat) :
    samplesFor a d.items = ((d.get? a).map fun e => e.rss.length + e.otap.length).getD 0 := by
  have key : ∀ l : List (Nat × AdvEntry), samplesFor a l = (l.flatMap fun e =>
      if e.1 = a then List.replicate (e.2.rss.length + e.2.otap.length) () else []).length := by
    intro l
    induction l with
    | nil => rfl
    | cons e l ih =>
      by_cases h : e.1 = a
      · subst h
        simp [samplesFor, ih]
      · simp [samplesFor, ih, h, Ne.symm h]
  have hd := PyDict.flatMap_items_key d a fun e => List.replicate (e.rss.length + e.otap.length) ()
  rw [key, hd]
  cases d.get? a <;> simp

/-- The RSS and the OTAP records together are those not filed under `value`. -/
theorem length_filter_slot {γ : Type} (l : List γ) (sl : γ → Slot) :
    (l.filter (sl · = .rss)).length + (l.filter (sl · = .otap)).length =
      (l.filter (sl · ≠ .value)).length := by
  induction l with
  | nil => rfl
  | cons x l ih => cases h : sl x <;> simp [List.filter_cons, h] at ih ⊢ <;> omega

/-- Passing the entries of a message decoded from an empty `apdu["adv"]` to the tracker adds to
a node's count its records that `decode` files as RSS or OTAP. -/
theorem frequency_addEntries_decode (inv : Inventory) {m m' : AdvertiserMessage}
    (hm : m.adv = PyDict.empty) (h : AdvertiserMessage.decode m = .ok m') (a : Nat) :
    (addEntries inv m'.adv.items).frequency a = inv.frequency a +
      ((Frame.recordsAt m.dataPayload a).filter fun r =>
        slot (Frame.frameType (m.dataPayload.headD 0)) (Frame.recordRaw r) ≠ .value).length := by
  rw [frequency_addEntries, samplesFor_items]
  congr 1
  cases he : m'.adv.get? a with
  | none =>
    have hnil : Frame.recordsAt m.dataPayload a = [] := List.filter_eq_nil_iff.2 fun r hr hra =>
      PyDict.get?_eq_none_iff.1 he ((Frame.mem_keys_decode hm h a).2 ⟨r, hr, by simpa using hra⟩)
    simp [hnil]
  | some e =>
    have hrss := (Frame.get?_decode hm h he .rss).2
    have hotap := (Frame.get?_decode hm h he .otap).2
    simp only [AdvEntry.list] at hrss hotap
    simp only [Option.map_some', Option.getD_some, hrss, hotap, List.length_map]
    exact length_filter_slot _ _

/-- **From the bytes to the tracker.** In every reachable state, taking the message at the head
of the queue adds to each node's sample count exactly the records of the message's frame for
that node that `decode` files as RSS or OTAP: those of a frame of another type, and those whose
sample is zero, are not counted. -/
theorem get_frequency {config : InventoryConfig} {s s' : KpiState} (h : Reachable config s)
    {q : Queued} {rest : List Queued} (hq : s.rxQueue = q :: rest) (hs : step s .get = some s')
    (a : Nat) :
    s'.inventory.frequency a = s.inventory.frequency a +
      ((Frame.recordsAt q.message.dataPayload a).filter fun r =>
        slot (Frame.frameType (q.message.dataPayload.headD 0)) (Frame.recordRaw r) ≠
          .value).length := by
  obtain ⟨counter, p, t, hm⟩ := queueDecoded_of_reachable h q (hq ▸ List.mem_cons_self q rest)
  have hp : q.message.dataPayload = p := Frame.dataPayload_decode hm
  have hf := frequency_addEntries_decode s.inventory rfl hm a
  simp only [step] at hs
  split at hs
  · next _ _ _ q' rest' _ _ hq' =>
    obtain ⟨rfl, rfl⟩ := List.cons.inj (hq.symm.trans hq')
    cases hs
    rw [hp]
    split <;> exact hf
  · cases hs


/-- Run 1 takes the OTAP frame that node 1 sent: node 1's count goes from 0 to 1. -/
theorem get_frequency_otapFrame : ∃ s q rest s', Reachable benchConfig s ∧
    s.rxQueue = q :: rest ∧ step s .get = some s' ∧ s'.inventory.frequency 1 = 1 ∧
    s'.inventory.frequency 1 = s.inventory.frequency 1 +
      ((Frame.recordsAt q.message.dataPayload 1).filter fun r =>
        slot (Frame.frameType (q.message.dataPayload.headD 0)) (Frame.recordRaw r) ≠
          .value).length := by
  obtain ⟨s, hs, hp⟩ := exists_reachable_of_run benchConfig
    [.beginRun 1, .arrive otapFrame, .waitReturns, .resetCounter]
    (fun s => !s.rxQueue.isEmpty &&
      decide ((step s .get).map (fun s' => s'.inventory.frequency 1) = some 1))
    (by decide)
  simp only [Bool.and_eq_true, Bool.not_eq_true', List.isEmpty_eq_false, Option.map_eq_some',
    decide_eq_true_eq] at hp
  obtain ⟨hne, s', hs', hf⟩ := hp
  obtain ⟨q, rest, hq⟩ := List.exists_cons_of_ne_nil hne
  exact ⟨s, q, rest, s', hs, hq, hs', hf, get_frequency hs hq hs' 1⟩

end Pipeline

/-! ## Runs that see stale messages

`test_inventory` never empties the queue: what arrived while it waited, and what an earlier
run left when it stopped, is consumed by the run as if it were new. The traces below start
from the initial state with no target, no start delay and a duration of 5 ticks. -/

/-- **A frame from before the start is counted.** A frame arrives while run 1 waits; the run
passes its entries to `inventory.add`, although it was queued before `wait()` returned. -/
theorem run_consumes_stale_frame :
    ∃ s, Reachable benchConfig s ∧ ∃ c ∈ s.consumed, c.entries ≠ [] ∧ c.serial < c.startMark := by
  obtain ⟨s, hs, hp⟩ := exists_reachable_of_run benchConfig
    [.beginRun 1, .arrive otapFrame, .waitReturns, .resetCounter, .get]
    (fun s => s.consumed.any fun c => !c.entries.isEmpty && decide (c.serial < c.startMark))
    (by decide)
  obtain ⟨c, hc, hce⟩ := List.any_eq_true.1 hp
  simp only [Bool.and_eq_true, Bool.not_eq_true', List.isEmpty_eq_false, decide_eq_true_eq] at hce
  exact ⟨s, hs, c, hc, hce.1, hce.2⟩

/-- **The indices of a run do not count from 1.** A message is stamped while run 1 waits,
the run resets the counter, and the next message is stamped 1 again: the run consumes the
indices 1, 1. -/
theorem run_indices_repeat :
    ∃ s, Reachable benchConfig s ∧
      (s.consumed.filter fun c => c.run = 1).map (·.index) = [some 1, some 1] := by
  obtain ⟨s, hs, hp⟩ := exists_reachable_of_run benchConfig
    [.beginRun 1, .arrive otapFrame, .waitReturns, .resetCounter, .arrive otapFrame, .get, .get]
    (fun s => (s.consumed.filter fun c => c.run = 1).map (·.index) = [some 1, some 1])
    (by decide)
  exact ⟨s, hs, by simpa using hp⟩

end AdvertiserManager

end BackendClient
