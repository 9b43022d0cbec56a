import Mathlib.Data.List.Basic

/-!
# The MQTT connector

`MQTT` wraps a `paho` client. `serve` connects, registers the subscribe handlers, starts the
client's network loop and then loops, calling the publish handlers, until the exit signal is
set; it then closes the connection, stops the network loop and returns. It has no `try` around
its loop: an exception from a publish handler, or from the `send` it calls, leaves `serve`
before it closes anything. The network loop calls `on_connect` and `on_disconnect` back from
its own thread; other code calls `close`, `send` and `subscribe_messages`.

The model is the connector as a state machine whose events are the parts of `serve`, those
calls and the callbacks, in any interleaving; the state keeps the attributes the methods use
and the calls made on the client, in order. What the client does with the calls, and when it
calls back, are left out. `tools.ExitSignal` is not among the sources: it is modelled from its
use here, as a flag that `set` raises. The set `subscription` is a list without duplicates.
-/

namespace BackendClient

namespace MQTT

/-- A call the connector makes on its client. -/
inductive ClientCall where
  | tlsInsecureSet
  | tlsSet
  | connect
  | messageCallbackAdd (topicFilter : String)
  | loopStart
  | subscribe (topic : String)
  | unsubscribe (topic : String)
  | disconnect
  | publish (topic message : String) (qos : Nat) (retain : Bool)
  | loopStop
  deriving DecidableEq

/-- Where `serve` is. -/
inductive Phase where
  /-- Not in `serve`. -/
  | idle
  /-- In the loop of `serve`. -/
  | serving
  deriving DecidableEq

/-- How a call of `serve` ended. -/
inductive ServeEnd where
  /-- It returned `self.running`. -/
  | returned (running : Bool)
  /-- `connect` raised, and `serve` raised it again before starting the network loop. -/
  | connectRaised
  /-- An exception left its loop: a publish handler, or the `send` it called, raised. -/
  | loopRaised
  deriving DecidableEq

/-- `mqtt.CONNACK_ACCEPTED` and `mqtt.MQTT_ERR_SUCCESS`. -/
def success : Nat := 0

/-- What `__init__` is given that the methods read: the topic filters of
`message_subscribe_handlers`, the topics of `message_publish_handlers`, `allow_untrusted` by its
truth value, and `force_unsecure`, where `none` is Python's `None`. -/
structure Settings where
  subscribeHandlers : List String
  publishHandlers : List String
  allowUntrusted : Bool
  forceUnsecure : Option Bool

/-- The attributes of an `MQTT` object that its methods use, and its client's calls. -/
structure Mqtt where
  running : Bool
  exitSignal : Bool
  /-- `self.subscription`. -/
  subscription : List String
  /-- The topic filters of `self.message_subscribe_handlers`. -/
  subscribeHandlers : List String
  /-- The topics of `self.message_publish_handlers`. -/
  publishHandlers : List String
  allowUntrusted : Bool
  forceUnsecure : Option Bool
  phase : Phase
  /-- How each call of `serve` has ended, in order. -/
  served : List ServeEnd
  /-- The calls made on `self.client`, in order. -/
  calls : List ClientCall

/-- The object `__init__` builds: the client is made and configured, nothing is subscribed. -/
def init (s : Settings) : Mqtt :=
  ⟨false, false, [], s.subscribeHandlers, s.publishHandlers, s.allowUntrusted, s.forceUnsecure,
    .idle, [], []⟩

/-- The calls `connect()` makes before `client.connect`: TLS only when `force_unsecure is
False`. -/
def tlsCalls (m : Mqtt) : List ClientCall :=
  if m.forceUnsecure = some false then
    if m.allowUntrusted then [.tlsInsecureSet] else [.tlsSet]
  else []

/-- `connect()`. -/
def connect (m : Mqtt) : Mqtt := { m with calls := m.calls ++ tlsCalls m ++ [.connect] }

/-- `subscribe_messages(handlers)`: a callback for each topic filter, then the filter is added to
`subscription`. -/
def subscribeMessages (m : Mqtt) (handlers : List String) : Mqtt :=
  if handlers.length > 0 then
    let m := handlers.foldl (fun (m : Mqtt) topicFilter => { m with
      calls := m.calls ++ [.messageCallbackAdd topicFilter]
      subscription := if topicFilter ∈ m.subscription then m.subscription
        else m.subscription ++ [topicFilter] }) m
    { m with subscribeHandlers := handlers }
  else m

/-- `close()`. -/
def close (m : Mqtt) : Mqtt :=
  if m.running then { m with running := false, calls := m.calls ++ [.disconnect] } else m

/-- What `on_connect` does for one topic of `subscription`, given what `client.subscribe`
returns for it. -/
def subscribeTopic (results : String → Nat) (topic : String) : List ClientCall :=
  .subscribe topic ::
    if results topic = success then []
    else if results topic = success then [.disconnect]
    else []

/-- `on_connect(client, userdata, flags, rc)`; `results` is what `client.subscribe` returns
for each topic. -/
def onConnect (m : Mqtt) (rc : Nat) (results : String → Nat) : Mqtt :=
  if rc = success then { m with calls := m.calls ++ m.subscription.flatMap (subscribeTopic results) }
  else { m with calls := m.calls ++ [.disconnect] }

/-- `on_disconnect(client, userdata, rc)`. -/
def onDisconnect (m : Mqtt) (rc : Nat) : Mqtt :=
  if rc = success ∧ m.running then
    { m with
      running := false
      exitSignal := true
      calls := m.calls ++ m.subscription.map .unsubscribe }
  else m

/-- `send(message, topic, qos, retain)`: `client.publish` returns `some rc`, or raises
(`none`), and then `send` raises too, with the exit signal left as it was. -/
def send (m : Mqtt) (message topic : String) (qos : Nat) (retain : Bool) (rc : Option Nat) :
    Mqtt :=
  let m := { m with calls := m.calls ++ [.publish topic message qos retain] }
  match rc with
  | some rc => if rc ≠ success then { m with exitSignal := true } else m
  | none => m

/-- `serve()` up to its loop; `connects` says whether `client.connect` returns or raises. -/
def serveBegin (m : Mqtt) (connects : Bool) : Mqtt :=
  let m := connect { m with running := true }
  if connects then
    let m := subscribeMessages m m.subscribeHandlers
    { m with calls := m.calls ++ [.loopStart], phase := .serving }
  else { m with exitSignal := true, served := m.served ++ [.connectRaised] }

/-- `serve()` after its loop: close, stop the network loop, and return `self.running`. -/
def serveEnd (m : Mqtt) : Mqtt :=
  let m := close m
  { m with
    calls := m.calls ++ [.loopStop]
    phase := .idle
    served := m.served ++ [.returned m.running] }

/-- What can happen next. -/
inductive Event where
  | serveBegin (connects : Bool)
  /-- The loop of `serve` sees the exit signal. -/
  | serveEnd
  /-- An exception leaves the loop of `serve`. -/
  | serveRaise
  | close
  | subscribeMessages (handlers : List String)
  | send (message topic : String) (qos : Nat) (retain : Bool) (rc : Option Nat)
  | onConnect (rc : Nat) (results : String → Nat)
  | onDisconnect (rc : Nat)
  /-- Another thread sets the exit signal. -/
  | exit

/-- The effect of one event, `none` when it cannot happen now. The loop of `serve` calls only
the publish handlers, so only they, and the `send` they call, can raise in it. -/
def step (m : Mqtt) : Event → Option Mqtt
  | .serveBegin connects => if m.phase = .idle then some (serveBegin m connects) else none
  | .serveEnd => if m.phase = .serving ∧ m.exitSignal then some (serveEnd m) else none
  | .serveRaise =>
    if m.phase = .serving ∧ m.publishHandlers ≠ [] then
      some { m with phase := .idle, served := m.served ++ [.loopRaised] }
    else none
  | .close => some (close m)
  | .subscribeMessages handlers => some (subscribeMessages m handlers)
  | .send message topic qos retain rc => some (send m message topic qos retain rc)
  | .onConnect rc results => some (onConnect m rc results)
  | .onDisconnect rc => some (onDisconnect m rc)
  | .exit => some { m with exitSignal := true }

/-- The states some interleaving reaches from the connector `__init__` built. -/
inductive Reachable (s : Settings) : Mqtt → Prop where
  | init : Reachable s (init s)
  | step {m m' : Mqtt} {e : Event} : Reachable s m → step m e = some m' → Reachable s m'

/-- The events of a list, in order. -/
def run : Mqtt → List Event → Option Mqtt
  | m, [] => some m
  | m, e :: es => (step m e).bind fun m' => run m' es

/-! ## What one call does -/

theorem close_eq (m : Mqtt) :
    close m = { m with running := false, calls := m.calls ++ if m.running then [.disconnect] else [] } := by
  cases m with
  | mk running => cases running <;> simp [close]

/-- `subscribe_messages` registers a callback for each topic filter it adds to `subscription`,
which only grows; it asks the client for nothing else, and changes nothing else but the
handlers. -/
theorem subscribeMessages_spec (m : Mqtt) (handlers : List String) :
    ∃ new subscription handlers', subscribeMessages m handlers =
      { m with calls := m.calls ++ new, subscription, subscribeHandlers := handlers' } ∧
      (∀ c ∈ new, ∃ t, c = .messageCallbackAdd t) ∧ (∀ t ∈ m.subscription, t ∈ subscription) ∧
      ∀ t ∈ subscription, t ∈ m.subscription ∨ .messageCallbackAdd t ∈ new := by
  have hfold : ∀ (hs : List String) (m : Mqtt), ∃ new subscription,
      hs.foldl (fun (m : Mqtt) topicFilter => { m with
        calls := m.calls ++ [.messageCallbackAdd topicFilter]
        subscription := if topicFilter ∈ m.subscription then m.subscription
          else m.subscription ++ [topicFilter] }) m =
        { m with calls := m.calls ++ new, subscription } ∧
      (∀ c ∈ new, ∃ t, c = .messageCallbackAdd t) ∧ (∀ t ∈ m.subscription, t ∈ subscription) ∧
      ∀ t ∈ subscription, t ∈ m.subscription ∨ .messageCallbackAdd t ∈ new := by
    intro hs
    induction hs with
    | nil => exact fun m => ⟨[], m.subscription, by simp, by simp, fun _ h => h, fun _ h => .inl h⟩
    | cons topicFilter hs ih =>
      intro m
      obtain ⟨new, subscription, heq, hnew, hgrow, hreg⟩ := ih { m with
        calls := m.calls ++ [.messageCallbackAdd topicFilter]
        subscription := if topicFilter ∈ m.subscription then m.subscription
          else m.subscription ++ [topicFilter] }
      have hadd : ∀ t, t ∈ (if topicFilter ∈ m.subscription then m.subscription
          else m.subscription ++ [topicFilter]) ↔ t ∈ m.subscription ∨ t = topicFilter := by
        intro t
        split_ifs with hm
        · exact ⟨.inl, fun h => h.elim id (· ▸ hm)⟩
        · simp
      refine ⟨.messageCallbackAdd topicFilter :: new, subscription, by simp [List.foldl, heq],
        fun c h => ?_, fun t ht => hgrow t ((hadd t).2 (.inl ht)), fun t ht => ?_⟩
      · rcases List.mem_cons.1 h with h | h
        · exact ⟨topicFilter, h⟩
        · exact hnew c h
      · rcases hreg t ht with ht | ht
        · rcases (hadd t).1 ht with ht | rfl
          · exact .inl ht
          · exact .inr (List.mem_cons_self _ _)
        · exact .inr (List.mem_cons_of_mem _ ht)
  unfold subscribeMessages
  split_ifs
  · obtain ⟨new, subscription, heq, h⟩ := hfold handlers m
    exact ⟨new, subscription, handlers, by rw [heq], h⟩
  · exact ⟨[], m.subscription, m.subscribeHandlers, by simp, by simp, fun _ h => h,
      fun _ h => .inl h⟩

/-- Every topic of `subscription` has a message callback, and the client is asked to subscribe
only to topics of `subscription`. -/
structure CallbacksFor (m : Mqtt) : Prop where
  registered : ∀ t ∈ m.subscription, .messageCallbackAdd t ∈ m.calls
  subscribed : ∀ t, .subscribe t ∈ m.calls → t ∈ m.subscription

/-- Calls that subscribe only to topics of `subscription` keep the invariant. -/
theorem CallbacksFor.append {m m' : Mqtt} (h : CallbacksFor m)
    (hsub : m'.subscription = m.subscription) {new : List ClientCall}
    (hcalls : m'.calls = m.calls ++ new) (hnew : ∀ t, .subscribe t ∈ new → t ∈ m.subscription) :
    CallbacksFor m' := by
  refine ⟨fun t ht => ?_, fun t ht => ?_⟩
  · rw [hcalls]
    exact List.mem_append_left _ (h.registered t (hsub ▸ ht))
  · rw [hcalls] at ht
    rw [hsub]
    rcases List.mem_append.1 ht with ht | ht
    · exact h.subscribed t ht
    · exact hnew t ht

theorem CallbacksFor.subscribeMessages {m : Mqtt} (h : CallbacksFor m) (handlers : List String) :
    CallbacksFor (subscribeMessages m handlers) := by
  obtain ⟨new, subscription, handlers', heq, hnew, hgrow, hreg⟩ := subscribeMessages_spec m handlers
  rw [heq]
  refine ⟨fun t ht => ?_, fun t ht => ?_⟩
  · rcases hreg t ht with ht | ht
    · exact List.mem_append_left _ (h.registered t ht)
    · exact List.mem_append_right _ ht
  · rcases List.mem_append.1 ht with ht | ht
    · exact hgrow t (h.subscribed t ht)
    · obtain ⟨_, h⟩ := hnew _ ht
      cases h

theorem CallbacksFor.close {m : Mqtt} (h : CallbacksFor m) : CallbacksFor (close m) :=
  h.append (by rw [close_eq]) (by rw [close_eq]) fun t ht => by split at ht <;> simp at ht

/-- **Step lemma**: every event keeps the invariant, and keeps every topic of `subscription`. -/
theorem callbacksFor_step {m m' : Mqtt} (h : CallbacksFor m) {e : Event} (he : step m e = some m') :
    CallbacksFor m' ∧ ∀ t ∈ m.subscription, t ∈ m'.subscription := by
  have hconnect : CallbacksFor (connect { m with running := true }) :=
    h.append rfl (List.append_assoc _ _ _) fun t ht => by
      unfold tlsCalls at ht; split_ifs at ht <;> simp at ht
  cases e with
  | serveBegin connects =>
    simp only [step] at he
    split_ifs at he
    cases he
    unfold serveBegin
    dsimp only
    split
    · obtain ⟨_, _, _, hs, -, hgrow, -⟩ := subscribeMessages_spec (connect { m with running := true })
        (connect { m with running := true }).subscribeHandlers
      exact ⟨(hconnect.subscribeMessages _).append rfl rfl (by simp), by rw [hs]; exact hgrow⟩
    · exact ⟨hconnect.append rfl (List.append_nil _).symm nofun, fun _ ht => ht⟩
  | serveEnd =>
    simp only [step] at he
    split_ifs at he
    cases he
    exact ⟨h.close.append rfl rfl (by simp), by simp [serveEnd, close_eq]⟩
  | serveRaise =>
    simp only [step] at he
    split_ifs at he
    cases he
    exact ⟨h.append rfl (List.append_nil _).symm nofun, fun _ ht => ht⟩
  | close => cases he; exact ⟨h.close, by simp [close_eq]⟩
  | subscribeMessages handlers =>
    cases he
    obtain ⟨_, _, _, hs, -, hgrow, -⟩ := subscribeMessages_spec m handlers
    exact ⟨h.subscribeMessages handlers, by rw [hs]; exact hgrow⟩
  | send _ _ _ _ rc =>
    cases he
    unfold send
    split
    · split <;> exact ⟨h.append rfl rfl (by simp), fun _ ht => ht⟩
    · exact ⟨h.append rfl rfl (by simp), fun _ ht => ht⟩
  | onConnect rc results =>
    cases he
    unfold onConnect
    split
    · refine ⟨h.append rfl rfl fun t ht => ?_, fun _ ht => ht⟩
      obtain ⟨t', ht', hs⟩ := List.mem_flatMap.1 ht
      unfold subscribeTopic at hs
      split_ifs at hs <;> simp only [List.mem_cons, ClientCall.subscribe.injEq,
        List.mem_singleton, reduceCtorEq, or_false, List.not_mem_nil] at hs <;> exact hs ▸ ht'
    · exact ⟨h.append rfl rfl (by simp), fun _ ht => ht⟩
  | onDisconnect =>
    cases he
    unfold onDisconnect
    split
    · exact ⟨h.append rfl rfl (by simp), fun _ ht => ht⟩
    · exact ⟨h, fun _ ht => ht⟩
  | exit => cases he; exact ⟨h.append rfl (List.append_nil _).symm nofun, fun _ ht => ht⟩

theorem callbacksFor_of_reachable {s : Settings} {m : Mqtt} (h : Reachable s m) :
    CallbacksFor m := by
  induction h with
  | init => exact ⟨nofun, nofun⟩
  | step _ he ih => exact (callbacksFor_step ih he).1

/-- **Every subscription has a callback, and stays.** Whatever events follow a reachable state,
every topic of `subscription` has had a message callback registered by `subscribe_messages`, the
client is asked to subscribe only to topics of `subscription`, and no topic leaves
`subscription`: `on_disconnect` unsubscribes from the broker but keeps the set, which the next
`on_connect` subscribes to again. No message of a subscribed topic arrives without a
handler. -/
theorem callbacksFor_run {s : Settings} {m m' : Mqtt} (h : Reachable s m) {es : List Event}
    (hr : run m es = some m') : CallbacksFor m' ∧ ∀ t ∈ m.subscription, t ∈ m'.subscription := by
  induction es generalizing m with
  | nil => cases hr; exact ⟨callbacksFor_of_reachable h, fun _ ht => ht⟩
  | cons e es ih =>
    simp only [run] at hr
    cases he : step m e with
    | none => simp [he] at hr
    | some m1 =>
      obtain ⟨hc, hgrow⟩ := ih (Reachable.step h he) (by simpa [he] using hr)
      exact ⟨hc, fun t ht => hgrow t ((callbacksFor_step (callbacksFor_of_reachable h) he).2 t ht)⟩

/-- A connector that connects, is accepted, and is disconnected by the broker: it has asked to
subscribe to its topic filter, and keeps it. -/
theorem callbacksFor_run_disconnected :
    ∃ m', run (init ⟨["gw-event/#"], [], false, some false⟩)
        [.serveBegin true, .onConnect success fun _ => success, .onDisconnect success] = some m' ∧
      .subscribe "gw-event/#" ∈ m'.calls ∧ .unsubscribe "gw-event/#" ∈ m'.calls ∧
      CallbacksFor m' ∧ ∀ t ∈ (init ⟨["gw-event/#"], [], false, some false⟩).subscription,
        t ∈ m'.subscription :=
  ⟨_, rfl, by decide, by decide, @callbacksFor_run _ _ _ Reachable.init
    [.serveBegin true, .onConnect success fun _ => success, .onDisconnect success] rfl⟩

end MQTT

end BackendClient
