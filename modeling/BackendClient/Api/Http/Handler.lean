import BackendClient.Api.Http.Status

/-!
# The HTTP request handler

`wbcHTTPRequestHandler` turns an HTTP request into MQTT requests for the sinks the status
observer knows: `_process_request` takes the command from the request path, and
`_mesh_control` walks every known (gateway, sink) pair, calls the command's handler for each,
puts the requests they build on the MQTT queue and sends one HTTP response.

The model keeps what `_mesh_control` and its handlers read and write: the response's `text` and
`code`, the text the datatx handler writes under the Enum member `HTTP_response_fields.text`
(a key of its own), the info fields, the requests and the refresh flag. `Topics.request_message`
is not among the sources, so a request is kept as the arguments of its call, without the
constant QoS. The path is taken after `urlsplit`, the parameters after `parse_qsl`; logging,
`debug_comms`, `http_api_test_mode` (always `False`) and the `str()` renderings of the header
are left out. Only the `while count:` loop of the datatx handler can run for ever: it is
given `fuel`, one unit per test of `count`.
-/

namespace BackendClient

/-- The query parameters, `dict(parse_qsl(query))`. -/
abbrev Params := PyDict String String

/-- The new configuration of a `set_config` request. -/
inductive NewConfig where
  /-- `dict(started=...)`, from the start and stop commands. -/
  | started (started : Bool)
  /-- `dict(app_config_diag=..., app_config_data=..., app_config_seq=...)`. -/
  | appConfig (diag : Int) (data : List UInt8) (seq : Int)
  deriving DecidableEq

/-- A request built by `Topics.request_message`, as the arguments of the call. -/
inductive MqttRequest where
  | sendData (sinkId gwId : String) (destAdd srcEp dstEp : Int) (payload : List UInt8)
      (isUnackCsmaCa : Bool) (hopLimit : Int)
  | setConfig (sinkId gwId : String) (newConfig : NewConfig)
  | getConfigs (gwId : String)
  deriving DecidableEq

/-- The gateway a request is sent to, and the sink for the requests that name one. -/
def MqttRequest.target : MqttRequest → String × Option String
  | .sendData sinkId gwId .. => (gwId, some sinkId)
  | .setConfig sinkId gwId _ => (gwId, some sinkId)
  | .getConfigs gwId => (gwId, none)

/-- A request is for the pair `(gwId, sinkId)`, or for its gateway. -/
def MqttRequest.IsFor (r : MqttRequest) (gwId sinkId : String) : Prop :=
  r.target = (gwId, some sinkId) ∨ r.target = (gwId, none)

/-- The fields `_handle_info_command` adds to the response. -/
structure InfoFields where
  gateway : String
  sink : String
  started : Bool
  appConfigSeq : Int
  appConfigDiag : Int
  appConfigData : List UInt8
  deriving DecidableEq

/-- The response dictionary, by the keys written after its header. -/
structure Response where
  command : String
  text : Option String
  code : Option Nat
  /-- The value under the Enum member `HTTP_response_fields.text`. -/
  textMember : Option String
  info : Option InfoFields
  deriving DecidableEq

namespace WbcHTTPRequestHandler

/-- `HTTP_server_response_codes.http_response_ok`. -/
def httpResponseOk : Nat := 200

/-- `HTTP_server_response_codes.http_response_code_unknown_command`. -/
def httpResponseCodeUnknownCommand : Nat := 500

/-- `int(params[key])`. -/
def intParam (params : Params) (key : String) : Result Int := do
  let value ← Result.ofOption key (params.get? key)
  pyInt value

/-- `try: int(params[key])` / `except KeyError: default`. -/
def intParamOr (params : Params) (key : String) (default : Int) : Result Int :=
  (intParam params key).exceptKeyError fun _ => pure default

/-! ## Datatx -/

/-- The four mandatory fields of a datatx request. -/
structure DatatxFields where
  destinationNodeAddress : Int
  srcEp : Int
  dstEp : Int
  payload : List UInt8
  deriving DecidableEq

/-- The `try` block of `_handle_datatx_command`. -/
def parseDatatxFields (params : Params) : Result DatatxFields := do
  let destinationNodeAddress ← intParam params "destination"
  let srcEp ← intParam params "source_ep"
  let dstEp ← intParam params "dest_ep"
  let payload ← Result.ofOption "payload" (params.get? "payload") >>= unhexlify
  pure ⟨destinationNodeAddress, srcEp, dstEp, payload⟩

/-- `try: params["fast"] in ["true", "1", "yes", "y"]` / `except KeyError: False`. -/
def isUnackCsmaCa (params : Params) : Bool :=
  match params.get? "fast" with
  | some fast => fast ∈ ["true", "1", "yes", "y"]
  | none => false

/-- The body of `_find_sink`'s loop over the sinks of one gateway. -/
def matchSink (sinkNodeAddress : Int) (sink : String × Sink) (found : Bool) :
    Result (ForInStep Bool) := do
  let nodeAddress ← Result.ofOption "node_address" sink.2.nodeAddress
  pure (if nodeAddress = sinkNodeAddress then .done true else .yield found)

/-- The body of `_find_sink`'s loop over the gateways. -/
def matchGateway (sinkNodeAddress : Int) (gateway : String × PyDict String Sink) (found : Bool) :
    Result (ForInStep Bool) := do
  let found ← forIn gateway.2.items found (matchSink sinkNodeAddress)
  pure (if found then .done found else .yield found)

/-- `_find_sink(sink_node_address, gateways)`: whether a known sink has this address. -/
def findSink (sinkNodeAddress : Int) (gateways : GatewaysAndSinks) : Result Bool :=
  forIn gateways.items false (matchGateway sinkNodeAddress)

/-- `while count: count -= 1; newMessages.append(message)`. -/
def sendLoop (message : MqttRequest) : Nat → Int → List MqttRequest → Result (List MqttRequest)
  | 0, _, _ => .outOfFuel
  | fuel + 1, count, newMessages =>
    if count ≠ 0 then sendLoop message fuel (count - 1) (newMessages ++ [message])
    else .ok newMessages

/-- `_handle_datatx_command`: whether the command was ok, the requests for this sink, and the
response. A missing or malformed mandatory field is caught and reported under the Enum
member; a malformed `hoplimit` or `count` is not caught. -/
def handleDatatxCommand (fuel : Nat) (gatewayId : String) (response : Response) (sink : Sink)
    (sinkId : String) (params : Params) (gateways : GatewaysAndSinks) :
    Result (Bool × List MqttRequest × Response) :=
  match parseDatatxFields params with
  | .raise (.keyError key) =>
    pure (false, [], { response with
      code := some httpResponseCodeUnknownCommand
      textMember := some ("Missing field: " ++ (PyExc.keyError key).str) })
  | .raise error =>
    pure (false, [], { response with
      code := some httpResponseCodeUnknownCommand
      textMember := some ("Unknown error: " ++ error.str) })
  | .outOfFuel => .outOfFuel
  | .ok fields => do
    let hopLimit ← intParamOr params "hoplimit" 0
    let count ← intParamOr params "count" 1
    let found ← findSink fields.destinationNodeAddress gateways
    let sendMessageToSink ← if found then do
        let nodeAddress ← Result.ofOption "node_address" sink.nodeAddress
        pure (decide (nodeAddress = fields.destinationNodeAddress))
      else pure true
    let message := MqttRequest.sendData sinkId gatewayId fields.destinationNodeAddress
      fields.srcEp fields.dstEp fields.payload (isUnackCsmaCa params) hopLimit
    let newMessages ← if sendMessageToSink then sendLoop message fuel count [] else pure []
    pure (true, newMessages, response)

/-! ## The other commands -/

/-- `_handle_start_command` and `_handle_stop_command`: one `set_config` request writing
`started`, and a refresh. -/
def handleStartedCommand (started : Bool) (gatewayId sinkId : String) :
    Bool × Bool × List MqttRequest :=
  (true, true, [.setConfig sinkId gatewayId (.started started)])

/-- `_handle_start_command`. -/
def handleStartCommand (gatewayId sinkId : String) : Bool × Bool × List MqttRequest :=
  handleStartedCommand true gatewayId sinkId

/-- `_handle_stop_command`. -/
def handleStopCommand (gatewayId sinkId : String) : Bool × Bool × List MqttRequest :=
  handleStartedCommand false gatewayId sinkId

/-- `_handle_setconfig_command`: an omitted `seq`, `diag` or `data` is taken from the sink's
record, the sequence number wrapping from 254 to 1. -/
def handleSetconfigCommand (gatewayId : String) (params : Params) (sink : Sink)
    (sinkId : String) : Result (Bool × Bool × List MqttRequest) := do
  let seq ← (intParam params "seq").exceptKeyError fun _ => do
    let seq ← Result.ofOption "app_config_seq" sink.appConfigSeq
    pure (if seq = 254 then 1 else seq + 1)
  let diag ← (intParam params "diag").exceptKeyError fun _ =>
    Result.ofOption "app_config_diag" sink.appConfigDiag
  let data ← (Result.ofOption "data" (params.get? "data") >>= fromhex).exceptKeyError fun _ =>
    Result.ofOption "app_config_data" sink.appConfigData
  pure (true, true, [.setConfig sinkId gatewayId (.appConfig diag data seq)])

/-- `_handle_info_command`: the sink's record is copied into the response. -/
def handleInfoCommand (command gatewayId : String) (response : Response) (sink : Sink)
    (sinkId : String) : Result (Bool × Bool × List MqttRequest × Response) := do
  let started ← Result.ofOption "started" sink.started
  let seq ← Result.ofOption "app_config_seq" sink.appConfigSeq
  let diag ← Result.ofOption "app_config_diag" sink.appConfigDiag
  let data ← Result.ofOption "app_config_data" sink.appConfigData
  pure (true, true, [],
    { response with command, info := some ⟨gatewayId, sinkId, started, seq, diag, data⟩ })

/-- `_handle_unknown_command`. -/
def handleUnknownCommand (response : Response) : Response :=
  { response with code := some httpResponseCodeUnknownCommand, text := some "Unknown command" }

/-- `_handle_empty_request`. -/
def handleEmptyRequest (response : Response) : Response :=
  { response with text := some "Error: empty request", code := some httpResponseCodeUnknownCommand }

/-! ## `_mesh_control` -/

/-- The locals of `_mesh_control`'s loop. -/
structure MeshState where
  response : Response
  refresh : Bool
  messages : List MqttRequest
  configMessages : List MqttRequest

/-- The end of the loop body: a command that was ok and asked for a refresh queues a
`get_configs` request for the gateway. -/
def renew (gatewayId : String) (commandWasOk : Bool) (st : MeshState) : MeshState :=
  if commandWasOk && st.refresh then
    { st with refresh := false, configMessages := st.configMessages ++ [.getConfigs gatewayId] }
  else st

/-- The body of the loop over the sinks of one gateway; `.done` is its `break`. -/
def sinkStep (fuel : Nat) (gateways : GatewaysAndSinks) (command : String) (params : Params)
    (gatewayId sinkId : String) (sink : Sink) (st : MeshState) : Result (ForInStep MeshState) :=
  if command = "datatx" then do
    let (commandWasOk, newMessages, response) ←
      handleDatatxCommand fuel gatewayId st.response sink sinkId params gateways
    if commandWasOk then
      pure (.yield (renew gatewayId true
        { st with response, messages := st.messages ++ newMessages }))
    else pure (.done { st with response })
  else if command = "start" then
    let (commandWasOk, refresh, newMessages) := handleStartCommand gatewayId sinkId
    pure (.yield (renew gatewayId commandWasOk
      { st with refresh, messages := st.messages ++ newMessages }))
  else if command = "stop" then
    let (commandWasOk, refresh, newMessages) := handleStopCommand gatewayId sinkId
    pure (.yield (renew gatewayId commandWasOk
      { st with refresh, messages := st.messages ++ newMessages }))
  else if command = "setconfig" then do
    let (commandWasOk, refresh, newMessages) ← handleSetconfigCommand gatewayId params sink sinkId
    pure (.yield (renew gatewayId commandWasOk
      { st with refresh, messages := st.messages ++ newMessages }))
  else if command = "info" then do
    let (commandWasOk, refresh, newMessages, response) ←
      handleInfoCommand command gatewayId st.response sink sinkId
    pure (.yield (renew gatewayId commandWasOk
      { st with response, refresh, messages := st.messages ++ newMessages }))
  else pure (.done { st with response := handleUnknownCommand st.response })

/-- The body of the loop over the gateways. -/
def gatewayStep (fuel : Nat) (gateways : GatewaysAndSinks) (command : String) (params : Params)
    (gateway : String × PyDict String Sink) (st : MeshState) : Result (ForInStep MeshState) := do
  let st ← forIn gateway.2.items st fun sink st =>
    sinkStep fuel gateways command params gateway.1 sink.1 sink.2 st
  pure (.yield st)

/-- `_send_http_response`: the code and message given to `send_response`. -/
def sendHttpResponse (response : Response) : Result (Nat × String) := do
  let code ← Result.ofOption "code" response.code
  let text ← Result.ofOption "text" response.text
  pure (code, text)

/-- What one call of `_mesh_control` does: the response, what `send_response` is given, and
the data and configuration requests put on the MQTT queue, in that order. -/
structure Outcome where
  response : Response
  sent : Nat × String
  messages : List MqttRequest
  configMessages : List MqttRequest
  deriving DecidableEq

/-- `_mesh_control(command, params)` on the observer's `gateways_and_sinks`. -/
def meshControl (fuel : Nat) (gateways : GatewaysAndSinks) (command : String) (params : Params) :
    Result Outcome := do
  let response : Response := ⟨command, none, none, none, none⟩
  if command.length > 0 then
    let response := { response with
      text := some (command ++ " ok!"), code := some httpResponseOk }
    let st ← forIn gateways.items (⟨response, false, [], []⟩ : MeshState)
      (gatewayStep fuel gateways command params)
    let sent ← sendHttpResponse st.response
    pure ⟨st.response, sent, st.messages, st.configMessages⟩
  else
    let response := handleEmptyRequest response
    let sent ← sendHttpResponse response
    pure ⟨response, sent, [], []⟩

/-- `_process_request`, from the path of `urlsplit(self.path)` and the parsed query. The
`except KeyError` around the indexing catches nothing that indexing a list raises. -/
def processRequest (fuel : Nat) (gateways : GatewaysAndSinks) (path : String)
    (params : Params) : Result Outcome := do
  let command ← (getIndex (strSplit path '/') 1).exceptKeyError fun _ => pure "info"
  let command := if command = "" then "info" else command
  meshControl fuel gateways command params

open SinkAndGatewayStatusObserver

/-! ## The known sinks -/

/-- The known (gateway, sink) pairs, in the order `_mesh_control` visits them. -/
def knownSinks (gs : GatewaysAndSinks) : List (String × String × Sink) :=
  gs.items.flatMap fun g => g.2.items.map fun s => (g.1, s.1, s.2)

/-- Some known sink has node address `d`. -/
def addressKnown (gs : GatewaysAndSinks) (d : Int) : Bool :=
  (knownSinks gs).any fun p => p.2.2.nodeAddress = some d

theorem mem_knownSinks {gs : GatewaysAndSinks} {gwId sinkId : String} {sink : Sink} :
    (gwId, sinkId, sink) ∈ knownSinks gs ↔
      ∃ sinks, gs.get? gwId = some sinks ∧ sinks.get? sinkId = some sink := by
  simp only [knownSinks, List.mem_flatMap, List.mem_map, Prod.mk.injEq, Prod.exists,
    ← PyDict.mem_items_iff]
  constructor
  · rintro ⟨_, sinks, hg, _, _, hs, rfl, rfl, rfl⟩; exact ⟨sinks, hg, hs⟩
  · rintro ⟨sinks, hg, hs⟩; exact ⟨gwId, sinks, hg, sinkId, sink, hs, rfl, rfl, rfl⟩

theorem mem_knownSinks_of_mem {gs : GatewaysAndSinks} {g : String × PyDict String Sink}
    (hg : g ∈ gs.items) {s : String × Sink} (hs : s ∈ g.2.items) :
    (g.1, s.1, s.2) ∈ knownSinks gs :=
  List.mem_flatMap.2 ⟨g, hg, List.mem_map.2 ⟨s, hs, rfl⟩⟩

theorem knownSinks_eq_nil_iff {gs : GatewaysAndSinks} :
    knownSinks gs = [] ↔ ∀ g ∈ gs.items, g.2.items = [] := by
  simp [knownSinks, List.flatMap_eq_nil_iff]

theorem valid_of_mem_knownSinks {gs : GatewaysAndSinks} (h : SinkRecordInv gs)
    {p : String × String × Sink} (hp : p ∈ knownSinks gs) : p.2.2.Valid := by
  obtain ⟨sinks, hg, hs⟩ := mem_knownSinks.1 hp
  exact h _ sinks hg _ _ hs

theorem nodeAddress_isSome {sink : Sink} (h : sink.Valid) : sink.nodeAddress.isSome := by
  obtain ⟨c, rfl⟩ := h; rfl

/-! ## `_find_sink` -/

theorem forIn_matchSink (d : Int) (l : List (String × Sink))
    (hl : ∀ e ∈ l, e.2.nodeAddress.isSome) (found : Bool) :
    forIn l found (matchSink d) = .ok (found || l.any fun e => e.2.nodeAddress = some d) := by
  induction l generalizing found with
  | nil => simp
  | cons e l ih =>
    obtain ⟨a, ha⟩ := Option.isSome_iff_exists.1 (hl e (List.mem_cons_self e l))
    rw [List.forIn_cons]
    by_cases had : a = d
    · simp [matchSink, ha, had]
    · simp [matchSink, ha, had, ih fun e' he' => hl e' (List.mem_cons_of_mem e he')]

theorem forIn_matchGateway (d : Int) (l : List (String × PyDict String Sink))
    (hl : ∀ g ∈ l, ∀ e ∈ g.2.items, e.2.nodeAddress.isSome) (found : Bool) :
    forIn l found (matchGateway d) =
      .ok (found || l.any fun g => g.2.items.any fun e => e.2.nodeAddress = some d) := by
  induction l generalizing found with
  | nil => simp
  | cons g l ih =>
    rw [List.forIn_cons]
    simp only [matchGateway, forIn_matchSink d g.2.items (hl g (List.mem_cons_self g l)),
      Result.ok_bind, Result.pure_eq]
    by_cases hf : (found || g.2.items.any fun e => e.2.nodeAddress = some d)
    · simp only [hf, if_true, Result.ok_bind, Result.pure_eq, List.any_cons, ← Bool.or_assoc,
        Bool.true_or]
    · simp only [Bool.not_eq_true] at hf
      simp only [hf, Result.ok_bind, ih (fun g' hg' => hl g' (List.mem_cons_of_mem g hg')), List.any_cons,
        ← Bool.or_assoc, Bool.false_or]
      rfl

/-- **`_find_sink`** answers whether a known sink has the address, when every record has a
`node_address`. -/
theorem findSink_eq {gs : GatewaysAndSinks} (h : ∀ p ∈ knownSinks gs, p.2.2.nodeAddress.isSome)
    (d : Int) : findSink d gs = .ok (addressKnown gs d) := by
  have hl : ∀ g ∈ gs.items, ∀ e ∈ g.2.items, e.2.nodeAddress.isSome := fun g hg e he =>
    h (g.1, e.1, e.2) (mem_knownSinks_of_mem hg he)
  rw [findSink, forIn_matchGateway d _ hl, Bool.false_or]
  congr 1
  rw [Bool.eq_iff_iff]
  simp only [addressKnown, knownSinks, List.any_eq_true, List.mem_flatMap, List.mem_map]
  constructor
  · rintro ⟨g, hg, e, he, hd⟩; exact ⟨(g.1, e.1, e.2), ⟨g, hg, e, he, rfl⟩, hd⟩
  · rintro ⟨_, ⟨g, hg, e, he, rfl⟩, hd⟩; exact ⟨g, hg, e, he, hd⟩

/-! ## Datatx -/

theorem sendLoop_ne_raise (message : MqttRequest) (fuel : Nat) (c : Int)
    (acc : List MqttRequest) (e : PyExc) : sendLoop message fuel c acc ≠ .raise e := by
  induction fuel generalizing c acc with
  | zero => simp [sendLoop]
  | succ fuel ih => unfold sendLoop; split_ifs <;> simp [ih]

theorem intParamOr_ne_keyError (params : Params) (key : String) (default : Int) (k : String) :
    intParamOr params key default ≠ .raise (.keyError k) :=
  Result.exceptKeyError_ne_keyError _ (fun _ _ => by simp) k

section Parsed

variable {gs : GatewaysAndSinks} (hinv : SinkRecordInv gs) {params : Params} {f : DatatxFields}
  {hopLimit count : Int} (hf : parseDatatxFields params = .ok f)
  (hh : intParamOr params "hoplimit" 0 = .ok hopLimit)
  (hc : intParamOr params "count" 1 = .ok count)
include hinv hf hh hc

end Parsed

/-! ## Collecting the requests of every pair -/

/-- The requests of every known pair, gateway by gateway, as the two loops of `_mesh_control`
collect them. -/
def collectRequests {M : Type} (r : String → String → Sink → Result (List M))
    (gs : GatewaysAndSinks) : Result (List M) := do
  let msss ← gs.items.mapM fun g => do
    let mss ← g.2.items.mapM fun s => r g.1 s.1 s.2
    pure mss.flatten
  pure msss.flatten

theorem collectRequests_eq_ok {M : Type} {r : String → String → Sink → Result (List M)}
    {gs : GatewaysAndSinks} {h : String × String × Sink → List M}
    (hr : ∀ p ∈ knownSinks gs, r p.1 p.2.1 p.2.2 = .ok (h p)) :
    collectRequests r gs = .ok ((knownSinks gs).flatMap h) := by
  have hg : ∀ g ∈ gs.items, (do
      let mss ← g.2.items.mapM fun s => r g.1 s.1 s.2
      pure mss.flatten) = Result.ok ((g.2.items.map fun s => h (g.1, s.1, s.2)).flatten) := by
    intro g hg
    rw [Result.mapM_eq_ok fun s hs => hr (g.1, s.1, s.2) (mem_knownSinks_of_mem hg hs)]
    rfl
  rw [collectRequests, Result.mapM_eq_ok hg]
  simp [knownSinks, List.flatMap_assoc, List.flatMap_map, ← List.flatMap_def]

/-- The response `_mesh_control` starts its loop with. -/
def okResponse (command : String) : Response :=
  ⟨command, some (command ++ " ok!"), some httpResponseOk, none, none⟩

/-- **The loops of `_mesh_control`**, for a command whose loop body yields on every known
pair, adding the pair's requests to the state by `add`: the call collects the requests of
every pair, in the order of `knownSinks`, and then sends the response. -/
theorem meshControl_of_yield {M : Type} {fuel : Nat} {gs : GatewaysAndSinks} {command : String}
    {params : Params} (hlen : 0 < command.length) (r : String → String → Sink → Result (List M))
    (add : MeshState → List M → MeshState)
    (hadd : ∀ st ms ms', add (add st ms) ms' = add st (ms ++ ms')) (hnil : ∀ st, add st [] = st)
    (P : MeshState → Prop) (hP : ∀ st ms, P st → P (add st ms))
    (hstep : ∀ p ∈ knownSinks gs, ∀ st, P st →
      sinkStep fuel gs command params p.1 p.2.1 p.2.2 st =
        r p.1 p.2.1 p.2.2 >>= fun ms => pure (.yield (add st ms)))
    (hinit : P ⟨okResponse command, false, [], []⟩) :
    meshControl fuel gs command params = collectRequests r gs >>= fun ms =>
      let st := add ⟨okResponse command, false, [], []⟩ ms
      sendHttpResponse st.response >>= fun sent =>
        pure ⟨st.response, sent, st.messages, st.configMessages⟩ := by
  have hgw : ∀ g ∈ gs.items, ∀ st, P st → gatewayStep fuel gs command params g st =
      (do let mss ← g.2.items.mapM fun s => r g.1 s.1 s.2; pure mss.flatten) >>= fun ms =>
        pure (.yield (add st ms)) := by
    intro g hg st hst
    rw [gatewayStep, Result.forIn_eq_mapM g.2.items _ add hadd hnil P hP _
      (fun s hs st hst => hstep (g.1, s.1, s.2) (mem_knownSinks_of_mem hg hs) st hst) st hst]
    simp only [bind_assoc, pure_bind]
  simp only [meshControl, collectRequests]
  rw [if_pos hlen]
  erw [Result.forIn_eq_mapM gs.items _ add hadd hnil P hP _ hgw _ hinit]
  simp only [bind_assoc, pure_bind]

/-- The loop over one gateway's sinks, for a body that breaks at once. -/
theorem forIn_sinkStep_break {fuel : Nat} {gs : GatewaysAndSinks} {command : String}
    {params : Params} {gwId : String} {f : MeshState → MeshState} (l : List (String × Sink))
    (hstep : ∀ s ∈ l, ∀ st, sinkStep fuel gs command params gwId s.1 s.2 st = .ok (.done (f st)))
    (st : MeshState) :
    forIn l st (fun sink st => sinkStep fuel gs command params gwId sink.1 sink.2 st) =
      .ok (if l = [] then st else f st) := by
  cases l with
  | nil => rfl
  | cons s l => rw [List.forIn_cons, hstep s (List.mem_cons_self s l) st]; rfl

/-- **The loops of `_mesh_control`**, for a command whose loop body breaks at once with the
same effect `f` on every known pair: the inner `break` leaves only the loop over the sinks,
so every gateway with a sink applies `f` once, and `f` is idempotent. -/
theorem meshControl_of_break {fuel : Nat} {gs : GatewaysAndSinks} {command : String}
    {params : Params} (hlen : 0 < command.length) (f : MeshState → MeshState)
    (hf : ∀ st, f (f st) = f st)
    (hstep : ∀ p ∈ knownSinks gs, ∀ st,
      sinkStep fuel gs command params p.1 p.2.1 p.2.2 st = .ok (.done (f st))) :
    meshControl fuel gs command params =
      let st := if knownSinks gs = [] then ⟨okResponse command, false, [], []⟩
        else f ⟨okResponse command, false, [], []⟩
      sendHttpResponse st.response >>= fun sent =>
        pure ⟨st.response, sent, st.messages, st.configMessages⟩ := by
  have hloop : ∀ l : List (String × PyDict String Sink), (∀ g ∈ l, g ∈ gs.items) → ∀ st,
      forIn l st (gatewayStep fuel gs command params) =
        .ok (if ∀ g ∈ l, g.2.items = [] then st else f st) := by
    intro l hl
    induction l with
    | nil => simp
    | cons g l ih =>
      intro st
      have hg := hl g (List.mem_cons_self g l)
      rw [List.forIn_cons, gatewayStep, forIn_sinkStep_break g.2.items
        (fun s hs => hstep (g.1, s.1, s.2) (mem_knownSinks_of_mem hg hs)) st]
      simp only [Result.ok_bind, Result.pure_eq, List.forall_mem_cons]
      rw [ih (fun g' hg' => hl g' (List.mem_cons_of_mem g hg'))]
      by_cases hg0 : g.2.items = [] <;> by_cases hl0 : ∀ g ∈ l, g.2.items = [] <;>
        simp only [hg0, hl0, hf, true_and, false_and, if_true, if_false, ite_self]
  simp only [meshControl, knownSinks_eq_nil_iff]
  rw [if_pos hlen]
  erw [hloop gs.items (fun _ h => h)]
  rfl

section Parsed

variable {gs : GatewaysAndSinks} (hinv : SinkRecordInv gs) {params : Params} {f : DatatxFields}
  {hopLimit count : Int} (hf : parseDatatxFields params = .ok f)
  (hh : intParamOr params "hoplimit" 0 = .ok hopLimit)
  (hc : intParamOr params "count" 1 = .ok count)
include hinv hf hh hc

end Parsed

/-- A store with one gateway `gw` and one sink `sink` whose node address is 5. -/
def oneSink : GatewaysAndSinks :=
  ⟨[("gw", ⟨[("sink", (⟨true, 1, 0, [], 5⟩ : SinkConfig).toSink)], by decide⟩)], by decide⟩

/-- A datatx request for node 5 with a count of 2. -/
def sendTwice : Params :=
  ⟨[("destination", "5"), ("source_ep", "1"), ("dest_ep", "1"), ("payload", "00"),
    ("count", "2")], by decide⟩

/-- A datatx request without a `destination`. -/
def noDestination : Params :=
  ⟨[("source_ep", "1"), ("dest_ep", "1"), ("payload", "00")], by decide⟩

theorem removeInactiveSinks_isOk {gs : GatewaysAndSinks} (hinv : SinkRecordInv gs) {gwId : String}
    (hg : gwId ∈ gs.keys) : (removeInactiveSinks gs gwId).isOk := by
  obtain ⟨sinks, hs⟩ := PyDict.exists_get?_of_mem_keys hg
  have hm : AllMarked sinks := fun sinkId s hs' => by
    obtain ⟨c, rfl⟩ := hinv gwId sinks hs sinkId s hs'; rfl
  rw [removeInactiveSinks_eq hs hm]
  rfl

theorem handleInfoCommand_isOk {sink : Sink} (hs : sink.Valid) (command gwId : String)
    (response : Response) (sinkId : String) :
    (handleInfoCommand command gwId response sink sinkId).isOk := by
  obtain ⟨c, rfl⟩ := hs; rfl

theorem handleSetconfigCommand_ne_keyError {sink : Sink} (hs : sink.Valid) (gwId : String)
    (params : Params) (sinkId key : String) :
    handleSetconfigCommand gwId params sink sinkId ≠ .raise (.keyError key) := by
  obtain ⟨c, rfl⟩ := hs
  have hread : ∀ {α : Type} (x : Result α) (a : α),
      x.exceptKeyError (fun _ => Result.ok a) ≠ .raise (.keyError key) := fun x a =>
    Result.exceptKeyError_ne_keyError x (fun _ _ => by simp) key
  exact Result.bind_ne_raise (hread _ _) fun _ => Result.bind_ne_raise (hread _ _) fun _ =>
    Result.bind_ne_raise (hread _ _) fun _ => by simp

theorem handleDatatxCommand_ne_keyError {gs : GatewaysAndSinks} (hinv : SinkRecordInv gs)
    {sink : Sink} (hs : sink.Valid) (fuel : Nat) (gwId : String) (response : Response)
    (sinkId : String) (params : Params) (key : String) :
    handleDatatxCommand fuel gwId response sink sinkId params gs ≠ .raise (.keyError key) := by
  have hfind := findSink_eq fun p hp => nodeAddress_isSome (valid_of_mem_knownSinks hinv hp)
  obtain ⟨c, rfl⟩ := hs
  unfold handleDatatxCommand
  split
  · simp
  · simp
  · simp
  · refine Result.bind_ne_raise (intParamOr_ne_keyError _ _ _ key) fun _ =>
      Result.bind_ne_raise (intParamOr_ne_keyError _ _ _ key) fun _ => ?_
    have hsend := fun m count => Result.bind_ne_raise (sendLoop_ne_raise m fuel count [] _)
      fun ms => (by simp : Result.ok (true, ms, response) ≠ .raise (.keyError key))
    rw [hfind, Result.ok_bind]
    cases addressKnown gs _
    · simpa using hsend _ _
    · simp only [if_true, SinkConfig.toSink, Result.ofOption_some, Result.ok_bind, Result.pure_eq]
      split
      · exact hsend _ _
      · simp

/-- The reads of sink records that the handler and the status observer make. -/
structure RecordReadsSucceed (gs : GatewaysAndSinks) : Prop where
  removeInactiveSinks : ∀ gwId ∈ gs.keys, (removeInactiveSinks gs gwId).isOk
  findSink : ∀ d, (findSink d gs).isOk
  datatx : ∀ p ∈ knownSinks gs, ∀ fuel response params key,
    handleDatatxCommand fuel p.1 response p.2.2 p.2.1 params gs ≠ .raise (.keyError key)
  info : ∀ p ∈ knownSinks gs, ∀ command response,
    (handleInfoCommand command p.1 response p.2.2 p.2.1).isOk
  setconfig : ∀ p ∈ knownSinks gs, ∀ params key,
    handleSetconfigCommand p.1 params p.2.2 p.2.1 ≠ .raise (.keyError key)

theorem recordReadsSucceed {gs : GatewaysAndSinks} (hinv : SinkRecordInv gs) :
    RecordReadsSucceed gs where
  removeInactiveSinks _ hg := removeInactiveSinks_isOk hinv hg
  findSink d := by
    rw [findSink_eq fun p hp => nodeAddress_isSome (valid_of_mem_knownSinks hinv hp)]; rfl
  datatx p hp fuel response params :=
    handleDatatxCommand_ne_keyError hinv (valid_of_mem_knownSinks hinv hp) fuel p.1 response p.2.1
      params
  info p hp command response :=
    handleInfoCommand_isOk (valid_of_mem_knownSinks hinv hp) command p.1 response p.2.1
  setconfig p hp params :=
    handleSetconfigCommand_ne_keyError (valid_of_mem_knownSinks hinv hp) p.1 params p.2.1

/-- **The store the status observer builds**: after any sequence of status messages, every
record is complete and present, so no read of a record raises a `KeyError`. -/
theorem runStatus_recordsComplete (msgs : List StatusMessage) :
    ∃ gs, runStatus msgs = .ok gs ∧ SinkRecordInv gs ∧ RecordReadsSucceed gs := by
  obtain ⟨gs, hrun, hinv⟩ := runStatus_inv msgs
  exact ⟨gs, hrun, hinv, recordReadsSucceed hinv⟩

/-! ## Start, stop and info over the whole store

These loop bodies never stop the loop. Each of their handlers asks for a refresh, and the end
of the body clears the flag after queueing a `get_configs` request, so every known sink, not
every gateway, adds one such request. -/

section Started

variable {command : String} {started : Bool}
  (hcmd : command = "start" ∧ started = true ∨ command = "stop" ∧ started = false)
include hcmd

theorem sinkStep_started (fuel : Nat) (gs : GatewaysAndSinks) (params : Params)
    (gwId sinkId : String) (sink : Sink) (st : MeshState) (hst : st.refresh = false) :
    sinkStep fuel gs command params gwId sinkId sink st = .ok (.yield { st with
      messages := st.messages ++ [.setConfig sinkId gwId (.started started)]
      configMessages := st.configMessages ++ [.getConfigs gwId] }) := by
  rcases hcmd with ⟨rfl, rfl⟩ | ⟨rfl, rfl⟩
  · rw [sinkStep, if_neg (by decide), if_pos rfl]
    simp [handleStartCommand, handleStartedCommand, renew, hst]
  · rw [sinkStep, if_neg (by decide), if_neg (by decide), if_pos rfl]
    simp [handleStopCommand, handleStartedCommand, renew, hst]

/-- **Start and stop.** Whatever the store and the parameters, `start` and `stop` answer
`200 <command> ok!` and send, for each known sink, a `set_config` request writing `started`
and a `get_configs` request for its gateway. -/
theorem meshControl_started (fuel : Nat) (gs : GatewaysAndSinks) (params : Params) :
    meshControl fuel gs command params = .ok ⟨okResponse command,
      (httpResponseOk, command ++ " ok!"),
      (knownSinks gs).map (fun p => .setConfig p.2.1 p.1 (.started started)),
      (knownSinks gs).map (fun p => .getConfigs p.1)⟩ := by
  have hlen : 0 < command.length := by rcases hcmd with ⟨rfl, -⟩ | ⟨rfl, -⟩ <;> decide
  rw [meshControl_of_yield hlen
    (fun gwId sinkId _ => .ok [(MqttRequest.setConfig sinkId gwId (.started started),
      MqttRequest.getConfigs gwId)])
    (fun (st : MeshState) ms => { st with
      messages := st.messages ++ ms.map Prod.fst
      configMessages := st.configMessages ++ ms.map Prod.snd })
    (fun _ _ _ => by simp) (fun _ => by simp) (fun (st : MeshState) => st.refresh = false)
    (fun _ _ h => h) (fun p _ st hst => by rw [sinkStep_started hcmd _ _ _ _ _ _ _ hst]; rfl) rfl,
    collectRequests_eq_ok fun p _ => rfl]
  simp [← List.map_eq_flatMap, sendHttpResponse, okResponse]

end Started

theorem meshControl_started_start :
    meshControl 0 oneSink "start" PyDict.empty = .ok ⟨okResponse "start",
      (httpResponseOk, "start ok!"), [.setConfig "sink" "gw" (.started true)], [.getConfigs "gw"]⟩ :=
  @meshControl_started "start" true (.inl ⟨rfl, rfl⟩) 0 oneSink PyDict.empty

/-- The configuration a `setconfig` request without `seq`, `diag` or `data` sends a sink: its
own diag and data, and the sequence number after its own, wrapping from 254 to 1. -/
def renewedConfig (sink : Sink) : Option NewConfig := do
  let seq ← sink.appConfigSeq
  pure (.appConfig (← sink.appConfigDiag) (← sink.appConfigData)
    (if seq = 254 then 1 else seq + 1))

theorem renewedConfig_isSome {sink : Sink} (hs : sink.Valid) : (renewedConfig sink).isSome := by
  obtain ⟨c, rfl⟩ := hs; rfl

section Renew

variable {params : Params} (hseq : params.get? "seq" = none) (hdiag : params.get? "diag" = none)
  (hdata : params.get? "data" = none)
include hseq hdiag hdata

theorem sinkStep_setconfig (fuel : Nat) (gs : GatewaysAndSinks) (gwId sinkId : String)
    (c : SinkConfig) (st : MeshState) (hst : st.refresh = false) :
    sinkStep fuel gs "setconfig" params gwId sinkId c.toSink st = .ok (.yield { st with
      messages := st.messages ++ [.setConfig sinkId gwId (.appConfig c.appConfigDiag
        c.appConfigData (if c.appConfigSeq = 254 then 1 else c.appConfigSeq + 1))]
      configMessages := st.configMessages ++ [.getConfigs gwId] }) := by
  rw [sinkStep, if_neg (by decide), if_neg (by decide), if_neg (by decide), if_pos rfl]
  simp [handleSetconfigCommand, intParam, hseq, hdiag, hdata, SinkConfig.toSink, renew, hst]

theorem meshControl_setconfig_eq (fuel : Nat) {gs : GatewaysAndSinks} (hinv : SinkRecordInv gs) :
    meshControl fuel gs "setconfig" params = .ok ⟨okResponse "setconfig",
      (httpResponseOk, "setconfig ok!"),
      (knownSinks gs).filterMap (fun p => (renewedConfig p.2.2).map (.setConfig p.2.1 p.1)),
      (knownSinks gs).map (fun p => .getConfigs p.1)⟩ := by
  rw [meshControl_of_yield (by decide)
    (fun gwId sinkId sink => .ok [((renewedConfig sink).map (.setConfig sinkId gwId),
      MqttRequest.getConfigs gwId)])
    (fun (st : MeshState) ms => { st with
      messages := st.messages ++ ms.filterMap Prod.fst
      configMessages := st.configMessages ++ ms.map Prod.snd })
    (fun _ _ _ => by simp) (fun _ => by simp)
    (fun (st : MeshState) => st.refresh = false) (fun _ _ h => h)
    (fun p hp st hst => by
      obtain ⟨c, hc⟩ := valid_of_mem_knownSinks hinv hp
      rw [hc, sinkStep_setconfig hseq hdiag hdata fuel gs p.1 p.2.1 c st hst]
      rfl) rfl,
    collectRequests_eq_ok fun p _ => rfl]
  simp [← List.map_eq_flatMap, List.filterMap_map, Function.comp_def, sendHttpResponse,
    okResponse]

/-- **Setconfig without parameters.** On a store the status observer built, a `setconfig`
request with no `seq`, `diag` or `data` answers `200 setconfig ok!` and sends, for each known
sink in turn, one `set_config` request with the sink's own diag and data and the next sequence
number, and a `get_configs` request for its gateway. -/
theorem meshControl_setconfig_renews (fuel : Nat) {gs : GatewaysAndSinks}
    (hinv : SinkRecordInv gs) : ∃ o, meshControl fuel gs "setconfig" params = .ok o ∧
      o.response = okResponse "setconfig" ∧ o.sent = (httpResponseOk, "setconfig ok!") ∧
      o.messages.map some =
        (knownSinks gs).map (fun p => (renewedConfig p.2.2).map (.setConfig p.2.1 p.1)) ∧
      o.configMessages = (knownSinks gs).map (fun p => .getConfigs p.1) := by
  refine ⟨_, meshControl_setconfig_eq hseq hdiag hdata fuel hinv, rfl, rfl, ?_, rfl⟩
  rw [List.map_filterMap_some_eq_filter_map_isSome, List.filter_eq_self.2]
  intro m hm
  obtain ⟨p, hp, rfl⟩ := List.mem_map.1 hm
  simpa using renewedConfig_isSome (valid_of_mem_knownSinks hinv hp)

end Renew

theorem meshControl_setconfig_renews_oneSink :
    ∃ o, meshControl 0 oneSink "setconfig" PyDict.empty = .ok o ∧
      o.response = okResponse "setconfig" ∧ o.sent = (httpResponseOk, "setconfig ok!") ∧
      o.messages.map some = [some (.setConfig "sink" "gw" (.appConfig 0 [] 2))] ∧
      o.configMessages = [.getConfigs "gw"] :=
  @meshControl_setconfig_renews PyDict.empty rfl rfl rfl 0 oneSink (by decide)

/-- The fields `_handle_info_command` reports for a pair, when its record has them all. -/
def infoOf (p : String × String × Sink) : Option InfoFields := do
  pure ⟨p.1, p.2.1, ← p.2.2.started, ← p.2.2.appConfigSeq, ← p.2.2.appConfigDiag,
    ← p.2.2.appConfigData⟩

theorem sinkStep_info (fuel : Nat) (gs : GatewaysAndSinks) (params : Params)
    (gwId sinkId : String) {sink : Sink} (hs : sink.Valid) (st : MeshState)
    (hst : st.refresh = false) (hcmd : st.response.command = "info") :
    sinkStep fuel gs "info" params gwId sinkId sink st = .ok (.yield { st with
      response := { st.response with info := infoOf (gwId, sinkId, sink) }
      configMessages := st.configMessages ++ [.getConfigs gwId] }) := by
  obtain ⟨c, rfl⟩ := hs
  rw [sinkStep, if_neg (by decide), if_neg (by decide), if_neg (by decide), if_neg (by decide),
    if_pos rfl]
  cases st
  simp_all [handleInfoCommand, SinkConfig.toSink, infoOf, renew]

/-- **Info reports the last sink only.** On a store the status observer built, `info`
answers `200 info ok!`, queues one `get_configs` request per known sink, and the response
carries the fields of the last known sink: each sink overwrites those of the one before. -/
theorem meshControl_info (fuel : Nat) {gs : GatewaysAndSinks} (hinv : SinkRecordInv gs)
    (params : Params) :
    meshControl fuel gs "info" params = .ok ⟨{ okResponse "info" with
        info := (knownSinks gs).getLast?.bind infoOf },
      (httpResponseOk, "info ok!"), [], (knownSinks gs).map (fun p => .getConfigs p.1)⟩ := by
  have hlast : ∀ (a b : Option (Option InfoFields)) (c : Option InfoFields),
      (a.or b).getD c = a.getD (b.getD c) := by
    intro a b c; cases a <;> rfl
  have hbind : ∀ x : Option (String × String × Sink), (x.map infoOf).getD none = x.bind infoOf := by
    intro x; cases x <;> rfl
  rw [meshControl_of_yield (by decide)
    (fun gwId sinkId sink => .ok [(infoOf (gwId, sinkId, sink), MqttRequest.getConfigs gwId)])
    (fun (st : MeshState) ms => { st with
      response := { st.response with info := ((ms.map Prod.fst).getLast?).getD st.response.info }
      configMessages := st.configMessages ++ ms.map Prod.snd })
    (fun _ _ _ => by simp [List.getLast?_append, hlast]) (fun _ => by simp)
    (fun (st : MeshState) => st.refresh = false ∧ st.response.command = "info")
    (fun _ _ h => h)
    (fun p hp st hst => by
      rw [sinkStep_info fuel gs params p.1 p.2.1 (valid_of_mem_knownSinks hinv hp) st hst.1 hst.2]
      rfl) ⟨rfl, rfl⟩,
    collectRequests_eq_ok fun p _ => rfl]
  simp [← List.map_eq_flatMap, List.getLast?_map, Option.map_map, Function.comp_def, hbind,
    sendHttpResponse, okResponse]

/-- A store with one gateway `gw` and two sinks: `sink` at node address 5 and `sink2` at 6. -/
def twoSinks : GatewaysAndSinks :=
  ⟨[("gw", ⟨[("sink", (⟨true, 1, 0, [], 5⟩ : SinkConfig).toSink),
    ("sink2", (⟨false, 7, 1, [1], 6⟩ : SinkConfig).toSink)], by decide⟩)], by decide⟩

theorem meshControl_info_twoSinks :
    meshControl 0 twoSinks "info" PyDict.empty = .ok ⟨{ okResponse "info" with
        info := some ⟨"gw", "sink2", false, 7, 1, [1]⟩ },
      (httpResponseOk, "info ok!"), [], [.getConfigs "gw", .getConfigs "gw"]⟩ :=
  meshControl_info 0 (by decide) PyDict.empty

/-! ## An unknown command

Its loop body writes the error and breaks at the first sink of every gateway. -/

/-- **An unknown command.** Whatever the store and the parameters, a command no handler
knows queues nothing; it is answered `500 Unknown command` once a sink is known, and
`200 <command> ok!` while none is. -/
theorem meshControl_unknown (fuel : Nat) (gs : GatewaysAndSinks) {command : String}
    (params : Params) (hlen : 0 < command.length)
    (hcmd : command ∉ ["datatx", "start", "stop", "setconfig", "info"]) :
    meshControl fuel gs command params = .ok (if knownSinks gs = []
      then ⟨okResponse command, (httpResponseOk, command ++ " ok!"), [], []⟩
      else ⟨handleUnknownCommand (okResponse command),
        (httpResponseCodeUnknownCommand, "Unknown command"), [], []⟩) := by
  simp only [List.mem_cons, List.mem_singleton, List.not_mem_nil, or_false, not_or] at hcmd
  obtain ⟨hd, hs, ht, hc, hi⟩ := hcmd
  rw [meshControl_of_break hlen
    (fun (st : MeshState) => { st with response := handleUnknownCommand st.response })
    (fun _ => rfl) (fun p _ st => by
      rw [sinkStep, if_neg hd, if_neg hs, if_neg ht, if_neg hc, if_neg hi]; rfl)]
  split_ifs <;> rfl

theorem meshControl_unknown_reboot :
    meshControl 0 oneSink "reboot" PyDict.empty = .ok ⟨handleUnknownCommand (okResponse "reboot"),
      (httpResponseCodeUnknownCommand, "Unknown command"), [], []⟩ :=
  meshControl_unknown 0 oneSink PyDict.empty (by decide) (by decide)

/-! ## `_process_request` -/

/-- **A path without `/` crashes the handler**: `split("/")[1]` raises `IndexError`, which
the `except KeyError` does not catch, whatever the store and the query. -/
theorem processRequest_noSlash (fuel : Nat) (gs : GatewaysAndSinks) (path : String)
    (params : Params) (h : '/' ∉ path.data) :
    processRequest fuel gs path params = .raise .indexError := by
  simp only [processRequest, strSplit, splitChars_of_not_mem h]
  rfl

theorem processRequest_noSlash_abc :
    '/' ∉ "abc".data ∧ processRequest 0 PyDict.empty "abc" PyDict.empty = .raise .indexError :=
  ⟨by decide, processRequest_noSlash 0 PyDict.empty "abc" PyDict.empty (by decide)⟩

/-- **The command is the path's second segment**: the text between the first `/` and the
next one, or the end; an empty segment is `info`. With `processRequest_noSlash`, this says
what `_process_request` does with every path. -/
theorem processRequest_eq (fuel : Nat) (gs : GatewaysAndSinks) (path : String) (params : Params)
    (a b : List Char) (hpath : path.data = a ++ '/' :: b) (ha : '/' ∉ a) :
    processRequest fuel gs path params =
      meshControl fuel gs (if b.takeWhile (· != '/') = [] then "info"
        else String.mk (b.takeWhile (· != '/'))) params := by
  have hhead := head?_splitChars '/' b
  cases hb : splitChars '/' b with
  | nil => simp [hb] at hhead
  | cons w ws =>
    simp only [hb, List.head?_cons, Option.some.injEq] at hhead
    simp only [processRequest, strSplit, hpath, splitChars_append_sep ha, hb, getIndex,
      List.map_cons, List.getElem?_cons_succ, List.getElem?_cons_zero, Result.exceptKeyError_ok,
      Result.ok_bind, ← hhead]
    congr 1
    by_cases hw : w = []
    · simp [hw]
    · have hne : String.mk w ≠ "" := fun h => hw (by simpa using congrArg String.data h)
      simp [hw, hne]

theorem processRequest_eq_info :
    processRequest 0 PyDict.empty "/info/x" PyDict.empty =
      meshControl 0 PyDict.empty "info" PyDict.empty :=
  processRequest_eq 0 PyDict.empty "/info/x" PyDict.empty [] "info/x".data rfl (by decide)

/-! ## The response -/

/-- Two responses that do not report the outcome: an unknown command is answered
`200 foo ok!` while no sink is known, and a datatx request without a destination is answered
with code 500 and the text `datatx ok!` once a sink is known. -/
theorem meshControl_misreports :
    (∀ fuel, ∃ o, meshControl fuel PyDict.empty "foo" PyDict.empty = .ok o ∧
      o.sent = (200, "foo ok!")) ∧
    (∀ fuel, ∃ o, meshControl fuel oneSink "datatx" noDestination = .ok o ∧
      o.sent = (500, "datatx ok!") ∧
      o.response.textMember = some ("Missing field: " ++ (PyExc.keyError "destination").str)) :=
  ⟨fun _ => ⟨_, rfl, rfl⟩, fun _ => ⟨_, rfl, rfl, rfl⟩⟩

/-! ## The response of every call that returns

The loop body touches the response's code and text in one of three ways, chosen by the
command alone: a known command other than datatx leaves them, datatx sets the code to 500
exactly when its mandatory fields do not parse, and an unknown command writes
`500 Unknown command`. Each way is idempotent, so what is sent depends only on whether some
sink is known. -/

@[simp] theorem renew_response (gwId : String) (ok : Bool) (st : MeshState) :
    (renew gwId ok st).response = st.response := by
  unfold renew; split <;> rfl

theorem mem_sendLoop {message : MqttRequest} :
    ∀ {fuel : Nat} {c : Int} {acc ms : List MqttRequest}, sendLoop message fuel c acc = .ok ms →
      ∀ r ∈ ms, r ∈ acc ∨ r = message
  | 0, _, _, _, h => by cases h
  | fuel + 1, c, acc, ms, h => by
    unfold sendLoop at h
    split_ifs at h
    · intro r hr
      rcases mem_sendLoop h r hr with h1 | h1
      · simpa using h1
      · exact .inr h1
    · cases h; exact fun r hr => .inl hr

theorem handleDatatxCommand_targets {fuel : Nat} {gwId sinkId : String} {response : Response}
    {sink : Sink} {params : Params} {gs : GatewaysAndSinks} {ok : Bool} {ms : List MqttRequest}
    {response' : Response}
    (h : handleDatatxCommand fuel gwId response sink sinkId params gs = .ok (ok, ms, response')) :
    ∀ r ∈ ms, r.IsFor gwId sinkId := by
  unfold handleDatatxCommand at h
  split at h
  · cases h; simp
  · cases h; simp
  · cases h
  · rename_i fields _
    obtain ⟨hop, -, h⟩ := Result.bind_eq_ok.1 h
    obtain ⟨count, -, h⟩ := Result.bind_eq_ok.1 h
    obtain ⟨found, -, h⟩ := Result.bind_eq_ok.1 h
    have hloop : ∀ {ms'}, sendLoop (.sendData sinkId gwId fields.destinationNodeAddress fields.srcEp
        fields.dstEp fields.payload (isUnackCsmaCa params) hop) fuel count [] = .ok ms' →
        ∀ r ∈ ms', r.IsFor gwId sinkId := fun hms r hr => by
      rcases mem_sendLoop hms r hr with h1 | rfl
      · simp at h1
      · exact .inl rfl
    simp only [Result.pure_eq, Result.ok_bind] at h
    split at h
    · obtain ⟨_, -, h⟩ := Result.bind_eq_ok.1 h
      split at h
      · obtain ⟨ms', hms, h⟩ := Result.bind_eq_ok.1 h; cases h; exact hloop hms
      · cases h; simp
    · rw [if_pos trivial] at h
      obtain ⟨ms', hms, h⟩ := Result.bind_eq_ok.1 h; cases h; exact hloop hms

/-- What a pass of the loop body for `(gwId, sinkId)` queued, beyond what the state held, is
for that pair or its gateway. -/
def QueuesFor (gwId sinkId : String) (st st' : MeshState) : Prop :=
  ∀ r ∈ st'.messages ++ st'.configMessages,
    r ∈ st.messages ++ st.configMessages ∨ r.IsFor gwId sinkId

theorem queuesFor_renew (gwId sinkId : String) (ok : Bool) {st st' : MeshState}
    (h : QueuesFor gwId sinkId st st') : QueuesFor gwId sinkId st (renew gwId ok st') := by
  unfold renew
  split_ifs
  · intro r hr
    simp only [List.append_assoc, List.mem_append, List.mem_singleton] at hr
    rcases hr with hr | hr | rfl
    · exact h r (List.mem_append_left _ hr)
    · exact h r (List.mem_append_right _ hr)
    · exact .inr (.inr rfl)
  · exact h

theorem queuesFor_append {gwId sinkId : String} (st : MeshState) {ms : List MqttRequest}
    (hms : ∀ m ∈ ms, m.IsFor gwId sinkId) (response : Response) (refresh : Bool) :
    QueuesFor gwId sinkId st { st with response, refresh, messages := st.messages ++ ms } := by
  intro m hm
  simp only [List.mem_append] at hm ⊢
  rcases hm with (hm | hm) | hm
  · exact .inl (.inl hm)
  · exact .inr (hms m hm)
  · exact .inl (.inr hm)

theorem sinkStep_queuesFor {fuel : Nat} {gs : GatewaysAndSinks} {command : String}
    {params : Params} {gwId sinkId : String} {sink : Sink} {st : MeshState}
    {r : ForInStep MeshState} (h : sinkStep fuel gs command params gwId sinkId sink st = .ok r) :
    QueuesFor gwId sinkId st r.value := by
  unfold sinkStep at h
  split_ifs at h
  · obtain ⟨⟨ok, ms, resp⟩, hd, h⟩ := Result.bind_eq_ok.1 h
    dsimp only at h
    split_ifs at h <;> cases h
    · exact queuesFor_renew gwId sinkId true
        (queuesFor_append st (handleDatatxCommand_targets hd) resp st.refresh)
    · exact fun r hr => .inl hr
  · cases h
    exact queuesFor_renew gwId sinkId true
      (queuesFor_append st (by simp [MqttRequest.IsFor, MqttRequest.target]) _ _)
  · cases h
    exact queuesFor_renew gwId sinkId true
      (queuesFor_append st (by simp [MqttRequest.IsFor, MqttRequest.target]) _ _)
  · obtain ⟨⟨ok, refresh, ms⟩, hd, h⟩ := Result.bind_eq_ok.1 h
    cases h
    refine queuesFor_renew gwId sinkId ok (queuesFor_append st ?_ _ _)
    repeat obtain ⟨_, -, hd⟩ := Result.bind_eq_ok.1 hd
    cases hd
    simp [MqttRequest.IsFor, MqttRequest.target]
  · obtain ⟨⟨ok, refresh, ms, resp⟩, hd, h⟩ := Result.bind_eq_ok.1 h
    cases h
    refine queuesFor_renew gwId sinkId ok (queuesFor_append st ?_ _ _)
    repeat obtain ⟨_, -, hd⟩ := Result.bind_eq_ok.1 hd
    cases hd
    simp
  · cases h
    exact fun r hr => .inl hr

/-- **Requests go to known sinks only.** Whatever the store, the command and the parameters,
every request a call of `_mesh_control` that returns queues names a (gateway, sink) pair of
the store, or, for `get_configs`, the gateway of one. -/
theorem meshControl_targets {fuel : Nat} {gs : GatewaysAndSinks} {command : String}
    {params : Params} {o : Outcome} (h : meshControl fuel gs command params = .ok o) :
    ∀ r ∈ o.messages ++ o.configMessages, ∃ p ∈ knownSinks gs, r.IsFor p.1 p.2.1 := by
  let P : MeshState → Prop := fun st =>
    ∀ r ∈ st.messages ++ st.configMessages, ∃ p ∈ knownSinks gs, r.IsFor p.1 p.2.1
  unfold meshControl at h
  split_ifs at h
  · obtain ⟨st, hst, h⟩ := Result.bind_eq_ok.1 h
    obtain ⟨sent, -, h⟩ := Result.bind_eq_ok.1 h
    cases h
    refine Result.forIn_inv P (fun g hg st r hP hr => ?_) (by simp [P]) hst
    obtain ⟨st', hst', hr⟩ := Result.bind_eq_ok.1 hr
    cases hr
    refine Result.forIn_inv P (fun s hs st r hP hr m hm => ?_) hP hst'
    rcases sinkStep_queuesFor hr m hm with hm | hm
    · exact hP m hm
    · exact ⟨_, mem_knownSinks_of_mem hg hs, hm⟩
  · obtain ⟨sent, -, h⟩ := Result.bind_eq_ok.1 h
    cases h
    simp

/-- **Requests go to known sinks only.** Whatever the path and the query, every request a call
of `_process_request` that returns queues names a (gateway, sink) pair of the store, or, for
`get_configs`, the gateway of one. -/
theorem processRequest_targets {fuel : Nat} {gs : GatewaysAndSinks} {path : String}
    {params : Params} {o : Outcome} (h : processRequest fuel gs path params = .ok o) :
    ∀ r ∈ o.messages ++ o.configMessages, ∃ p ∈ knownSinks gs, r.IsFor p.1 p.2.1 := by
  obtain ⟨_, -, h⟩ := Result.bind_eq_ok.1 h
  exact meshControl_targets h

theorem processRequest_targets_sendTwice :
    ∃ o, processRequest 3 oneSink "/datatx" sendTwice = .ok o ∧ o.messages.length = 2 ∧
      ∀ r ∈ o.messages ++ o.configMessages, ∃ p ∈ knownSinks oneSink, r.IsFor p.1 p.2.1 :=
  ⟨_, rfl, rfl, @processRequest_targets 3 oneSink "/datatx" sendTwice _ rfl⟩

end WbcHTTPRequestHandler

end BackendClient
