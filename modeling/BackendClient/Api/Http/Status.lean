import BackendClient.Python.Dict
import BackendClient.Python.Builtins

/-!
# Gateway and sink status

`SinkAndGatewayStatusObserver` keeps `gateways_and_sinks`, the sinks each gateway reported
in its last `gw-response/get_configs` status message, for the HTTP handler to route
commands to. For each message taken from the status queue, `run` marks every known sink of
the message's gateway absent, walks the message's configs, and removes the sinks that are
still marked absent. A config carrying all five mandatory fields overwrites the sink's
record; an incomplete one keeps the sink only if `check_and_refresh_sink` finds a
`started` field, which `run` writes only together with the other four.

A sink record is a dictionary whose keys `run` adds one by one, so the model gives each key
an optional field. The invariant `SinkRecordInv`, that every stored record is complete and
present, is what lets the handler read a record without a `KeyError`. Logging,
`handle_missing_fields` (it only logs) and the config fields `run` never reads are left out.
-/

namespace BackendClient

/-- The fields of one item of a status message's `configs` that `run` reads. -/
structure Config where
  sinkId : Option String
  started : Option Bool
  appConfigSeq : Option Int
  appConfigDiag : Option Int
  appConfigData : Option (List UInt8)
  nodeAddress : Option Int
  deriving DecidableEq

/-- A message of the gateway status queue. -/
structure StatusMessage where
  gwId : String
  configs : List Config

/-- A sink record of `gateways_and_sinks`: the keys `run` writes, each absent until written. -/
structure Sink where
  started : Option Bool
  appConfigSeq : Option Int
  appConfigDiag : Option Int
  appConfigData : Option (List UInt8)
  nodeAddress : Option Int
  present : Option Bool
  deriving DecidableEq

/-- The record `{}` of a sink seen for the first time. -/
def Sink.empty : Sink := ⟨none, none, none, none, none, none⟩

/-- `gateways_and_sinks`: gateway id to sink id to sink record. -/
abbrev GatewaysAndSinks := PyDict String (PyDict String Sink)

namespace SinkAndGatewayStatusObserver

/-- The five mandatory fields of a config are all present. -/
def hasMandatoryFields (config : Config) : Bool :=
  config.started.isSome && config.appConfigSeq.isSome && config.appConfigDiag.isSome &&
    config.appConfigData.isSome && config.nodeAddress.isSome

/-- The record after the five mandatory fields of `config` are copied into it and the sink is
marked present. -/
def writeConfig (sink : Sink) (config : Config) : Sink :=
  { sink with
    started := config.started
    appConfigSeq := config.appConfigSeq
    appConfigDiag := config.appConfigDiag
    appConfigData := config.appConfigData
    nodeAddress := config.nodeAddress
    present := some true }

/-- `check_and_refresh_sink(sink)`: a sink that has been present before keeps its old values
and stays. -/
def checkAndRefreshSink (sink : Sink) : Sink :=
  if sink.started.isSome then { sink with present := some true }
  else { sink with present := some false }

/-- The body of the loop over `status_msg["configs"]`, on the sinks of the message's
gateway. -/
def processConfig (sinks : PyDict String Sink) (config : Config) : PyDict String Sink :=
  match config.sinkId with
  | none => sinks
  | some sinkId =>
    -- New sink detected
    let sinks := sinks.setdefault sinkId Sink.empty
    if hasMandatoryFields config then sinks.modify sinkId (writeConfig · config)
    else sinks.modify sinkId checkAndRefreshSink

/-- One pass of the first loop of `remove_inactive_sinks`. -/
def collectInactive (delete : List String) (item : String × Sink) : Result (List String) := do
  let present ← Result.ofOption "present" item.2.present
  pure (if !present then delete ++ [item.1] else delete)

/-- The first loop of `remove_inactive_sinks`: the ids of the sinks not marked present. -/
def inactiveSinks (sinks : PyDict String Sink) : Result (List String) :=
  sinks.items.foldlM collectInactive []

/-- `remove_inactive_sinks(status_msg)`. -/
def removeInactiveSinks (gs : GatewaysAndSinks) (gwId : String) : Result GatewaysAndSinks := do
  let sinks ← Result.ofOption gwId (gs.get? gwId)
  let delete ← inactiveSinks sinks
  pure (gs.set gwId (delete.foldl PyDict.erase sinks))

/-- `sink["present"] = False`. -/
def markAbsent (sink : Sink) : Sink := { sink with present := some false }

/-- One pass of `run`'s loop, for a message taken from the status queue. -/
def processStatus (gs : GatewaysAndSinks) (msg : StatusMessage) : Result GatewaysAndSinks :=
  -- New gateway detected
  let gs := gs.setdefault msg.gwId PyDict.empty
  -- Initially mark all sinks of this gateway as not present
  let gs := gs.modify msg.gwId (PyDict.mapValues markAbsent)
  let gs := gs.modify msg.gwId fun sinks => msg.configs.foldl processConfig sinks
  removeInactiveSinks gs msg.gwId

/-- `run` over the messages the status queue delivers, from the empty store. -/
def runStatus (msgs : List StatusMessage) : Result GatewaysAndSinks :=
  msgs.foldlM processStatus PyDict.empty

end SinkAndGatewayStatusObserver

/-! ## Complete records

A record is complete when all five mandatory fields are present; `SinkConfig` holds the
values of such a record, and cannot be anything else. -/

/-- The values of a complete sink record. -/
structure SinkConfig where
  started : Bool
  appConfigSeq : Int
  appConfigDiag : Int
  appConfigData : List UInt8
  nodeAddress : Int

/-- The record `run` keeps for a sink with these values: every key present, and present. -/
def SinkConfig.toSink (c : SinkConfig) : Sink :=
  ⟨some c.started, some c.appConfigSeq, some c.appConfigDiag, some c.appConfigData,
    some c.nodeAddress, some true⟩

/-- A record is complete and marked present. -/
def Sink.Valid (s : Sink) : Prop := ∃ c : SinkConfig, s = c.toSink

/-- **The sink-record invariant**: every record of every gateway is complete and present. -/
def SinkRecordInv (gs : GatewaysAndSinks) : Prop :=
  ∀ gw sinks, gs.get? gw = some sinks → ∀ sinkId s, sinks.get? sinkId = some s → s.Valid

/-- The record `run` writes for a complete config. -/
def Sink.ofConfig (config : Config) : Sink :=
  SinkAndGatewayStatusObserver.writeConfig Sink.empty config

/-- The invariant on one record, as a check. -/
def Sink.isComplete (s : Sink) : Bool :=
  s.started.isSome && s.appConfigSeq.isSome && s.appConfigDiag.isSome && s.appConfigData.isSome &&
    s.nodeAddress.isSome && s.present = some true

theorem Sink.valid_iff_isComplete {s : Sink} : s.Valid ↔ s.isComplete := by
  constructor
  · rintro ⟨c, rfl⟩; rfl
  · intro h
    obtain ⟨a, b, c, d, e, p⟩ := s
    simp only [Sink.isComplete, Bool.and_eq_true, Option.isSome_iff_exists,
      decide_eq_true_eq] at h
    obtain ⟨⟨⟨⟨⟨⟨a, rfl⟩, ⟨b, rfl⟩⟩, ⟨c, rfl⟩⟩, ⟨d, rfl⟩⟩, ⟨e, rfl⟩⟩, rfl⟩ := h
    exact ⟨⟨a, b, c, d, e⟩, rfl⟩

/-- The invariant is a check on the items of the store, so it can be decided. -/
theorem sinkRecordInv_iff {gs : GatewaysAndSinks} :
    SinkRecordInv gs ↔ ∀ g ∈ gs.items, ∀ e ∈ g.2.items, e.2.isComplete := by
  simp only [SinkRecordInv, ← PyDict.mem_items_iff, Sink.valid_iff_isComplete]
  constructor
  · intro h g hg e he; exact h g.1 g.2 hg e.1 e.2 he
  · intro h gw sinks hg sinkId s hs; exact h (gw, sinks) hg (sinkId, s) hs

instance : DecidablePred SinkRecordInv := fun _ => decidable_of_iff _ sinkRecordInv_iff.symm

namespace SinkAndGatewayStatusObserver

/-- The last config for `sinkId` that carries all five mandatory fields. -/
def lastComplete (configs : List Config) (sinkId : String) : Option Config :=
  ((configs.filter fun c => c.sinkId = some sinkId).filter hasMandatoryFields).getLast?

theorem writeConfig_eq (sink : Sink) (config : Config) :
    writeConfig sink config = Sink.ofConfig config := rfl

theorem valid_ofConfig {config : Config} (h : hasMandatoryFields config) :
    (Sink.ofConfig config).Valid := by
  simp only [hasMandatoryFields, Bool.and_eq_true, Option.isSome_iff_exists] at h
  obtain ⟨⟨⟨⟨⟨a, ha⟩, ⟨b, hb⟩⟩, ⟨c, hc⟩⟩, ⟨d, hd⟩⟩, ⟨e, he⟩⟩ := h
  exact ⟨⟨a, b, c, d, e⟩, by
    simp [Sink.ofConfig, writeConfig, SinkConfig.toSink, ha, hb, hc, hd, he]⟩

theorem checkAndRefreshSink_ofConfig {config : Config} (h : hasMandatoryFields config) :
    checkAndRefreshSink (Sink.ofConfig config) = Sink.ofConfig config := by
  simp only [hasMandatoryFields, Bool.and_eq_true] at h
  simp [checkAndRefreshSink, Sink.ofConfig, writeConfig, h.1.1.1.1]

theorem checkAndRefreshSink_idem (sink : Sink) :
    checkAndRefreshSink (checkAndRefreshSink sink) = checkAndRefreshSink sink := by
  unfold checkAndRefreshSink; split_ifs <;> simp_all

/-- A known sink that only incomplete configs mention keeps its record. -/
theorem checkAndRefreshSink_toSink (c : SinkConfig) :
    checkAndRefreshSink { c.toSink with present := some false } = c.toSink := rfl

/-! ## One config -/

/-- What one config does to the record of its sink. -/
def updateSink (config : Config) (sink : Sink) : Sink :=
  if hasMandatoryFields config then writeConfig sink config else checkAndRefreshSink sink

@[simp] theorem mem_keys_processConfig {sinks : PyDict String Sink} {config : Config}
    {sinkId : String} :
    sinkId ∈ (processConfig sinks config).keys ↔
      config.sinkId = some sinkId ∨ sinkId ∈ sinks.keys := by
  unfold processConfig
  split
  · next h => simp [h]
  · next id h => split <;> simp [h, @eq_comm _ sinkId]

@[simp] theorem get?_processConfig {sinks : PyDict String Sink} {config : Config}
    {sinkId : String} :
    (processConfig sinks config).get? sinkId =
      if config.sinkId = some sinkId then
        some (updateSink config ((sinks.get? sinkId).getD Sink.empty))
      else sinks.get? sinkId := by
  unfold processConfig updateSink
  split
  · next h => simp [h]
  · next id h =>
    by_cases hs : sinkId = id
    · subst hs; split <;> simp [h]
    · split <;> simp [h, hs, Ne.symm hs]

/-! ## The loop over the configs -/

theorem get?_foldl_processConfig (configs : List Config) (sinks : PyDict String Sink)
    (sinkId : String) :
    (configs.foldl processConfig sinks).get? sinkId =
      (configs.filter fun c => c.sinkId = some sinkId).foldl
        (fun o c => some (updateSink c (o.getD Sink.empty))) (sinks.get? sinkId) := by
  induction configs generalizing sinks with
  | nil => rfl
  | cons c cs ih =>
    by_cases hc : c.sinkId = some sinkId <;> simp [ih, hc, List.filter_cons]

/-- The configs of one sink, taken in order, leave the record of the last complete one, or
else the refreshed starting record. -/
theorem foldl_updateSink (l : List Config) (o : Option Sink) :
    l.foldl (fun o c => some (updateSink c (o.getD Sink.empty))) o =
      if l = [] then o else some (match (l.filter hasMandatoryFields).getLast? with
        | some c => Sink.ofConfig c
        | none => checkAndRefreshSink (o.getD Sink.empty)) := by
  induction l using List.reverseRecOn with
  | nil => rfl
  | append_singleton l c ih =>
    rw [List.foldl_append, ih]
    by_cases hc : hasMandatoryFields c
    · simp [updateSink, hc, writeConfig_eq]
    · by_cases hl : l = []
      · subst hl; simp [updateSink, hc]
      · simp only [hl, if_false, List.foldl_cons, List.foldl_nil, updateSink, hc,
          Bool.false_eq_true, Option.getD_some, List.filter_append, List.filter_cons,
          List.filter_nil, List.append_nil, List.append_eq_nil, false_and, Option.some.injEq]
        split
        · rename_i c' hc'
          exact checkAndRefreshSink_ofConfig
            (List.of_mem_filter (List.mem_of_getLast?_eq_some hc'))
        · exact checkAndRefreshSink_idem _

/-! ## Removing the absent sinks

The marking pass gives every record a `present` key and every config writes one, so the
first loop of `remove_inactive_sinks` never misses it, whatever the store held before. -/

/-- Every record carries a `present` key. -/
def AllMarked (sinks : PyDict String Sink) : Prop :=
  ∀ sinkId s, sinks.get? sinkId = some s → s.present.isSome

/-- The sinks left by `remove_inactive_sinks` when every record carries `present`. -/
def dropAbsent (sinks : PyDict String Sink) : PyDict String Sink :=
  ((sinks.items.filter fun e => e.2.present = some false).map Prod.fst).foldl PyDict.erase sinks

theorem foldlM_collectInactive (l : List (String × Sink)) (hl : ∀ e ∈ l, e.2.present.isSome)
    (delete : List String) :
    l.foldlM collectInactive delete =
      .ok (delete ++ (l.filter fun e => e.2.present = some false).map Prod.fst) := by
  induction l generalizing delete with
  | nil => simp
  | cons e l ih =>
    obtain ⟨p, hp⟩ := Option.isSome_iff_exists.1 (hl e (List.mem_cons_self e l))
    have ih' := ih fun e' he' => hl e' (List.mem_cons_of_mem e he')
    cases p <;> simp [collectInactive, hp, ih', List.filter_cons]

theorem removeInactiveSinks_eq {gs : GatewaysAndSinks} {gwId : String}
    {sinks : PyDict String Sink} (h : gs.get? gwId = some sinks) (hm : AllMarked sinks) :
    removeInactiveSinks gs gwId = .ok (gs.set gwId (dropAbsent sinks)) := by
  have hl : ∀ e ∈ sinks.items, e.2.present.isSome := fun e he =>
    hm e.1 e.2 (PyDict.mem_items_iff.1 he)
  simp [removeInactiveSinks, h, inactiveSinks, foldlM_collectInactive _ hl, dropAbsent]

@[simp] theorem get?_dropAbsent (sinks : PyDict String Sink) (sinkId : String) :
    (dropAbsent sinks).get? sinkId = (sinks.get? sinkId).filter fun s => s.present ≠ some false := by
  simp only [dropAbsent, PyDict.get?_foldl_erase, List.mem_map, List.mem_filter,
    decide_eq_true_eq, Prod.exists, exists_and_right, exists_eq_right, PyDict.mem_items_iff]
  cases sinks.get? sinkId <;> simp [Option.filter]

/-! ## One status message -/

/-- The sinks of a gateway, `{}` for an unknown one. -/
def sinksOf (gs : GatewaysAndSinks) (gwId : String) : PyDict String Sink :=
  (gs.get? gwId).getD PyDict.empty

/-- The sinks of the message's gateway after the marking pass and the loop over the
configs, before `remove_inactive_sinks`. -/
def refreshedSinks (gs : GatewaysAndSinks) (msg : StatusMessage) : PyDict String Sink :=
  msg.configs.foldl processConfig ((sinksOf gs msg.gwId).mapValues markAbsent)

theorem present_updateSink (config : Config) (sink : Sink) :
    (updateSink config sink).present.isSome := by
  unfold updateSink checkAndRefreshSink writeConfig; split_ifs <;> rfl

theorem allMarked_processConfig {sinks : PyDict String Sink} (h : AllMarked sinks)
    (config : Config) : AllMarked (processConfig sinks config) := by
  intro sinkId s hs
  rw [get?_processConfig] at hs
  split_ifs at hs
  · cases hs; exact present_updateSink _ _
  · exact h sinkId s hs

theorem allMarked_foldl_processConfig (configs : List Config) {sinks : PyDict String Sink}
    (h : AllMarked sinks) : AllMarked (configs.foldl processConfig sinks) := by
  induction configs generalizing sinks with
  | nil => exact h
  | cons c cs ih => exact ih (allMarked_processConfig h c)

theorem allMarked_refreshedSinks (gs : GatewaysAndSinks) (msg : StatusMessage) :
    AllMarked (refreshedSinks gs msg) := by
  refine allMarked_foldl_processConfig _ fun sinkId s hs => ?_
  simp only [PyDict.get?_mapValues, Option.map_eq_some'] at hs
  obtain ⟨_, _, rfl⟩ := hs
  rfl

/-- What the marking pass and the configs leave for one sink id. -/
theorem get?_refreshedSinks (gs : GatewaysAndSinks) (msg : StatusMessage) (sinkId : String) :
    (refreshedSinks gs msg).get? sinkId =
      if ∃ c ∈ msg.configs, c.sinkId = some sinkId then
        some (match lastComplete msg.configs sinkId with
          | some c => Sink.ofConfig c
          | none => checkAndRefreshSink
              ((((sinksOf gs msg.gwId).get? sinkId).map markAbsent).getD Sink.empty))
      else ((sinksOf gs msg.gwId).get? sinkId).map markAbsent := by
  rw [refreshedSinks, get?_foldl_processConfig, foldl_updateSink, PyDict.get?_mapValues]
  by_cases h : ∃ c ∈ msg.configs, c.sinkId = some sinkId
  · have hne : msg.configs.filter (fun c => c.sinkId = some sinkId) ≠ [] := by
      obtain ⟨c, hc, hs⟩ := h
      exact List.ne_nil_of_mem (List.mem_filter.2 ⟨hc, by simpa using hs⟩)
    simp only [hne, h, if_false, if_true, lastComplete]
  · have he : msg.configs.filter (fun c => c.sinkId = some sinkId) = [] :=
      List.filter_eq_nil_iff.2 fun c hc hs => h ⟨c, hc, by simpa using hs⟩
    simp only [he, h, if_true, if_false]

theorem valid_of_lastComplete {configs : List Config} {sinkId : String} {c : Config}
    (h : lastComplete configs sinkId = some c) : (Sink.ofConfig c).Valid :=
  valid_ofConfig (List.mem_filter.1 (List.mem_of_getLast?_eq_some h)).2

/-- **Per sink**: from a store whose records of the gateway are complete, a sink is kept iff a
config names it and either one of its configs is complete or it was known; it then holds
the last complete config, or else its old record. -/
theorem get?_dropAbsent_refreshedSinks {gs : GatewaysAndSinks} {msg : StatusMessage}
    (hv : ∀ sinkId s, (sinksOf gs msg.gwId).get? sinkId = some s → s.Valid) (sinkId : String) :
    (dropAbsent (refreshedSinks gs msg)).get? sinkId =
      if ∃ c ∈ msg.configs, c.sinkId = some sinkId then
        ((lastComplete msg.configs sinkId).map Sink.ofConfig).or
          ((sinksOf gs msg.gwId).get? sinkId)
      else none := by
  rw [get?_dropAbsent, get?_refreshedSinks]
  split_ifs with h
  · cases hl : lastComplete msg.configs sinkId with
    | some c => simp [Sink.ofConfig, writeConfig]
    | none =>
      cases ho : (sinksOf gs msg.gwId).get? sinkId with
      | none => simp [checkAndRefreshSink, Sink.empty, markAbsent]
      | some r =>
        obtain ⟨cfg, rfl⟩ := hv sinkId r ho
        simp only [ho, Option.map_some', Option.getD_some, markAbsent, checkAndRefreshSink_toSink]
        simp [SinkConfig.toSink]
  · cases (sinksOf gs msg.gwId).get? sinkId <;> simp [markAbsent]

/-- `processStatus` never raises: it rewrites the message's gateway and nothing else. -/
theorem processStatus_spec (gs : GatewaysAndSinks) (msg : StatusMessage) :
    ∃ gs', processStatus gs msg = .ok gs' ∧ ∀ gwId, gs'.get? gwId =
      if gwId = msg.gwId then some (dropAbsent (refreshedSinks gs msg)) else gs.get? gwId := by
  have h3 : (((gs.setdefault msg.gwId PyDict.empty).modify msg.gwId
      (PyDict.mapValues markAbsent)).modify msg.gwId
        (fun sinks => msg.configs.foldl processConfig sinks)).get? msg.gwId =
      some (refreshedSinks gs msg) := by
    simp [refreshedSinks, sinksOf]
  refine ⟨_, removeInactiveSinks_eq h3 (allMarked_refreshedSinks gs msg), fun gwId => ?_⟩
  by_cases hg : gwId = msg.gwId <;> simp [hg]

theorem valid_sinksOf {gs : GatewaysAndSinks} (h : SinkRecordInv gs) (gwId : String) :
    ∀ sinkId s, (sinksOf gs gwId).get? sinkId = some s → s.Valid := by
  unfold sinksOf
  cases hg : gs.get? gwId with
  | none => simp
  | some sinks => exact h gwId sinks hg

theorem sinkRecordInv_empty : SinkRecordInv PyDict.empty := fun _ _ h => by simp at h

/-- What one status message does to the store, in terms of the message's configs: the
gateway is known afterwards, its sinks are those a config names that either have a complete
config or were known, each holds its last complete config or else its old record, and no
other gateway changes. -/
structure StatusUpdate (gs : GatewaysAndSinks) (msg : StatusMessage) (gs' : GatewaysAndSinks) :
    Prop where
  gateway : msg.gwId ∈ gs'.keys
  sinks : ∀ sinkId, sinkId ∈ (sinksOf gs' msg.gwId).keys ↔
    (∃ c ∈ msg.configs, c.sinkId = some sinkId) ∧
      ((lastComplete msg.configs sinkId).isSome ∨ sinkId ∈ (sinksOf gs msg.gwId).keys)
  records : ∀ sinkId ∈ (sinksOf gs' msg.gwId).keys, (sinksOf gs' msg.gwId).get? sinkId =
    ((lastComplete msg.configs sinkId).map Sink.ofConfig).or ((sinksOf gs msg.gwId).get? sinkId)
  others : ∀ gwId, gwId ≠ msg.gwId → gs'.get? gwId = gs.get? gwId

theorem processStatus_update (gs : GatewaysAndSinks) (h : SinkRecordInv gs)
    (msg : StatusMessage) : ∃ gs', processStatus gs msg = .ok gs' ∧ StatusUpdate gs msg gs' := by
  obtain ⟨gs', he, hg⟩ := processStatus_spec gs msg
  have hs : sinksOf gs' msg.gwId = dropAbsent (refreshedSinks gs msg) := by simp [sinksOf, hg]
  have hget := get?_dropAbsent_refreshedSinks (valid_sinksOf h msg.gwId)
  have hgw : gs'.get? msg.gwId = some (dropAbsent (refreshedSinks gs msg)) := by simp [hg]
  refine ⟨gs', he, ⟨PyDict.mem_keys_of_get? hgw, fun sinkId => ?_, fun sinkId hk => ?_,
    fun gwId hgw => by simp [hg, hgw]⟩⟩
  · rw [hs, ← PyDict.isSome_get?_iff, hget, ← PyDict.isSome_get?_iff]
    split_ifs with hc <;> cases lastComplete msg.configs sinkId <;> simp [hc]
  · rw [hs, ← PyDict.isSome_get?_iff, hget] at hk
    rw [hs, hget]
    split_ifs at hk ⊢
    · rfl
    · simp at hk

/-- A store with two gateways: `gw` holds the sinks `kept` and `stale`, `gw2` the sink
`other`. -/
def twoGateways : GatewaysAndSinks :=
  ⟨[("gw", ⟨[("kept", (⟨true, 1, 0, [], 1⟩ : SinkConfig).toSink),
      ("stale", (⟨true, 1, 0, [], 3⟩ : SinkConfig).toSink)], by decide⟩),
    ("gw2", ⟨[("other", (⟨false, 4, 0, [], 2⟩ : SinkConfig).toSink)], by decide⟩)], by decide⟩

/-- A status message of `gw` mixing complete and incomplete configs: `kept` is known and
incomplete, `new` comes twice complete, `unseen` is new and incomplete, and `stale` is left
out. -/
def mixedStatus : StatusMessage :=
  ⟨"gw", [⟨some "kept", none, none, none, none, none⟩,
    ⟨some "new", some true, some 5, some 0, some [], some 7⟩,
    ⟨some "unseen", some true, none, none, none, some 8⟩,
    ⟨some "new", some false, some 6, some 1, some [1], some 7⟩]⟩

theorem processStatus_update_mixedStatus :
    SinkRecordInv twoGateways ∧ ∃ gs', processStatus twoGateways mixedStatus = .ok gs' ∧
      StatusUpdate twoGateways mixedStatus gs' :=
  ⟨by decide, processStatus_update twoGateways (by decide) mixedStatus⟩

/-! ## The invariant over runs -/

/-- **Step lemma**: one status message keeps every record complete and present. -/
theorem sinkRecordInv_processStatus {gs : GatewaysAndSinks} (h : SinkRecordInv gs)
    (msg : StatusMessage) : ∃ gs', processStatus gs msg = .ok gs' ∧ SinkRecordInv gs' := by
  obtain ⟨gs', he, hg⟩ := processStatus_spec gs msg
  refine ⟨gs', he, fun gwId sinks hs sinkId s hss => ?_⟩
  rw [hg] at hs
  split_ifs at hs with hgw
  · cases hs
    rw [get?_dropAbsent_refreshedSinks (valid_sinksOf h msg.gwId)] at hss
    split_ifs at hss
    cases hl : lastComplete msg.configs sinkId with
    | none =>
      simp only [hl, Option.map_none', Option.none_or] at hss
      exact valid_sinksOf h _ _ _ hss
    | some c =>
      simp only [hl, Option.map_some', Option.or_some, Option.some.injEq] at hss
      exact hss ▸ valid_of_lastComplete hl
  · exact h gwId sinks hs sinkId s hss

/-- **Run lemma**: the invariant holds after every message of every run. -/
theorem foldlM_processStatus (msgs : List StatusMessage) {gs : GatewaysAndSinks}
    (h : SinkRecordInv gs) :
    ∃ gs', msgs.foldlM processStatus gs = .ok gs' ∧ SinkRecordInv gs' := by
  induction msgs generalizing gs with
  | nil => exact ⟨gs, rfl, h⟩
  | cons msg msgs ih =>
    obtain ⟨gs', he, h'⟩ := sinkRecordInv_processStatus h msg
    simpa [List.foldlM_cons, he] using ih h'

theorem runStatus_inv (msgs : List StatusMessage) :
    ∃ gs, runStatus msgs = .ok gs ∧ SinkRecordInv gs :=
  foldlM_processStatus msgs sinkRecordInv_empty

end SinkAndGatewayStatusObserver

end BackendClient
