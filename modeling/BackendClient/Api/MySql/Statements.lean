import BackendClient.Api.MySql

/-!
# The statements the storage executes

`MySQLObserver._map_message` hands each message it takes to the `put_*` method of its class,
which executes SQL statements on its connection, reading the message between them, and stops
at the first exception. A call is modelled as the list of what it does (`Action`): a statement
executed, the read of `cursor.lastrowid` that `put_node_diagnostics` makes, or the exception
that ends it. Every method but `put_advertiser` first inserts the message into
`received_packets`; its other rows reference that row through `LAST_INSERT_ID()`, or, for the
events of `put_node_diagnostics`, through the `lastrowid` read just after it. What a statement
does to the database is the subject of `BackendClient.Api.MySql.Workers`.

The diagnostic message classes are not among the sources: a message is kept as the attributes
the `put_*` methods read, a statement as the rows it inserts, a value as the number `format`
writes (`float` arithmetic as exact rational arithmetic). The SQL text and the `commit` calls,
which change nothing on `MyISAM` tables, are left out.
-/

namespace BackendClient

/-- The attributes of a `GenericMessage` that `put_to_received_packets` reads. -/
structure PacketFields where
  rxTimeMsEpoch : Int
  travelTimeMs : Int
  networkId : Int
  destinationAddress : Int
  sourceAddress : Int
  sourceEndpoint : Int
  destinationEndpoint : Int
  qos : Int
  dataPayload : List UInt8
  /-- `message.hop_count`, when the message has the attribute. -/
  hopCount : Option Int

/-- The attributes of a `TestNWMessage` that `put_testnw_measurements` reads. -/
structure TestNWFields where
  rowCount : Nat
  testdataId : List Int
  numberOfFields : List Nat
  datafields : List (List Int)
  idCtrl : List Int

/-- A message taken from the storage queue, by the first class of `_map_message`'s chain of
`isinstance` tests it belongs to. -/
inductive StoredMessage where
  | advertiser (m : AdvertiserMessage)
  | bootDiagnostics (fields : PacketFields) (apdu : PyDict String Int)
  | neighborDiagnostics (fields : PacketFields) (neighbor : PyDict Nat (PyDict String Int))
  | nodeDiagnostics (fields : PacketFields) (apdu : PyDict String Int)
  | testNW (fields : PacketFields) (test : TestNWFields)
  | trafficDiagnostics (fields : PacketFields) (apdu : PyDict String Int)
  | generic (fields : PacketFields)
  /-- A message of none of these classes. -/
  | other

/-- A row of `received_packets`, by its columns after `id`. -/
structure ReceivedPacketRow where
  loggedTime : ℚ
  launchTime : ℚ
  pathDelayMs : Int
  networkAddress : Int
  sinkAddress : Int
  sourceAddress : Int
  destAddress : Int
  sourceEndpoint : Int
  destEndpoint : Int
  qos : Int
  numBytes : Nat
  hopCount : Int
  deriving DecidableEq

/-- The tables whose rows reference a row of `received_packets` by their `received_packet`
column. -/
inductive Table where
  | diagnosticTraffic
  | diagnosticNeighbor
  | diagnosticBoot
  | diagnosticNode
  | diagnosticEvent
  /-- `TestData_ID_<id>`. -/
  | testData (name : String)
  deriving DecidableEq

/-- An SQL statement of the `put_*` methods, by what it inserts. -/
inductive Statement where
  /-- `INSERT INTO received_packets (...) VALUES (...)`. -/
  | insertReceivedPacket (row : ReceivedPacketRow)
  /-- `INSERT INTO <table> (received_packet, ...) VALUES (LAST_INSERT_ID(), ...), ...`, by the
  values after `received_packet` of each row. -/
  | insertDiagnostics (table : Table) (rows : List (List ℚ))
  /-- `INSERT INTO diagnostic_event (received_packet, position, event) VALUES
  (last_received_packet, i, event), ...`, by the position and event of each row. -/
  | insertEvents (events : List (Nat × Int))
  /-- `CREATE TABLE IF NOT EXISTS <name> (...)`, with the data columns `DataCol_1` to
  `DataCol_30`. -/
  | createTestTable (name : String)
  /-- `INSERT INTO <name> (received_packet, logged_time, launch_time, field_count, ID_ctrl,
  DataCol_1, ..., DataCol_<columns>) VALUES (LAST_INSERT_ID(), ...)`, by the values after
  `received_packet`. -/
  | insertTestData (name : String) (columns : Nat) (values : List ℚ)
  /-- `executemany("INSERT INTO advertiser ...", values)`. -/
  | insertAdvertiser (rows : List MySQL.AdvertiserRow)
  deriving DecidableEq

/-- What a call of a `put_*` method does next. -/
inductive Action where
  | execute (statement : Statement)
  /-- `last_received_packet = self.cursor.lastrowid`. -/
  | readLastRowId
  /-- The call raises. -/
  | raise (e : PyExc)
  deriving DecidableEq

namespace MySQL

/-- The call goes on with `next` on what `r` computes, or raises what `r` raises. Nothing
these methods compute loops, so no fuel runs out. -/
def orRaise {α : Type} (r : Result α) (next : α → List Action) : List Action :=
  match r with
  | .ok a => next a
  | .raise e => [.raise e]
  | .outOfFuel => []

/-- `message.apdu[key]`. -/
def apduGet (apdu : PyDict String Int) (key : String) : Result Int :=
  Result.ofOption key (apdu.get? key)

/-- The arguments `message.apdu[key]` of a `format` call, evaluated in order. -/
def readKeys (apdu : PyDict String Int) (keys : List String) : Result (List Int) :=
  keys.mapM (apduGet apdu)

theorem length_readKeys {apdu : PyDict String Int} :
    ∀ {keys : List String} {values : List Int}, readKeys apdu keys = .ok values →
      values.length = keys.length
  | [], _, h => by cases h; rfl
  | k :: keys, _, h => by
    simp only [readKeys, List.mapM_cons] at h
    obtain ⟨v, -, h⟩ := Result.bind_eq_ok.1 h
    obtain ⟨values, hvs, h⟩ := Result.bind_eq_ok.1 h
    cases h
    simp [length_readKeys hvs]

/-! ## `put_to_received_packets` -/

/-- The row `put_to_received_packets` inserts; `hop_count` is 0 when the message has no such
attribute. Both `sink_address` and `dest_address` are the destination address. -/
def receivedPacketRow (f : PacketFields) : ReceivedPacketRow where
  loggedTime := (f.rxTimeMsEpoch : ℚ) / 1000
  launchTime := ((f.rxTimeMsEpoch - f.travelTimeMs : Int) : ℚ) / 1000
  pathDelayMs := f.travelTimeMs
  networkAddress := f.networkId
  sinkAddress := f.destinationAddress
  sourceAddress := f.sourceAddress
  destAddress := f.destinationAddress
  sourceEndpoint := f.sourceEndpoint
  destEndpoint := f.destinationEndpoint
  qos := f.qos
  numBytes := f.dataPayload.length
  hopCount := f.hopCount.getD 0

/-- `put_to_received_packets(message)`. -/
def putToReceivedPackets (f : PacketFields) : List Action :=
  [.execute (.insertReceivedPacket (receivedPacketRow f))]

/-! ## The diagnostics -/

/-- The `apdu` keys of a `diagnostic_traffic` row, in the order of the statement. -/
def trafficKeys : List String :=
  ["access_cycles", "cluster_channel", "channel_reliability", "rx_amount", "tx_amount",
    "aloha_rx_ratio", "reserved_rx_success_ratio", "data_rx_ratio", "rx_duplicate_ratio",
    "cca_success_ratio", "broadcast_ratio", "failed_unicast_ratio", "max_reserved_slot_usage",
    "average_reserved_slot_usage", "max_aloha_slot_usage"]

/-- `put_traffic_diagnostics(message)`. -/
def putTrafficDiagnostics (f : PacketFields) (apdu : PyDict String Int) : List Action :=
  putToReceivedPackets f ++ orRaise (readKeys apdu trafficKeys) fun values =>
    [.execute (.insertDiagnostics .diagnosticTraffic [values.map (↑)])]

/-- The keys of a neighbor that a `diagnostic_neighbor` row reads, in order. -/
def neighborKeys : List String := ["address", "cluster_channel", "radio_power", "node_info", "rssi"]

/-- `message.neighbor[i]["address"]`, `none` where it raises `KeyError`. -/
def neighborAddress (neighbor : PyDict Nat (PyDict String Int)) (i : Nat) : Option Int :=
  (neighbor.get? i).bind (·.get? "address")

/-- The loop `for i in range(0, 14)` of `put_neighbor_diagnostics`, over the positions left:
a missing neighbor or address (`except KeyError: break`) or a zero address ends it; the fields
of a row are read outside the `try`. -/
def neighborRows (neighbor : PyDict Nat (PyDict String Int)) : List Nat → Result (List (List Int))
  | [] => pure []
  | i :: positions =>
    match neighbor.get? i with
    | none => pure []
    | some entry =>
      match entry.get? "address" with
      | none => pure []
      | some address =>
        if address = 0 then pure []
        else do
          let row ← readKeys entry neighborKeys
          let rows ← neighborRows neighbor positions
          pure (row :: rows)

/-- A loop that starts at a neighbor with a non-zero address reads its row: it returns rows,
never none. -/
theorem neighborRows_ne_nil {neighbor : PyDict Nat (PyDict String Int)} {i : Nat} {address : Int}
    {positions : List Nat} {rows : List (List Int)} (ha : neighborAddress neighbor i = some address)
    (h0 : address ≠ 0) (h : neighborRows neighbor (i :: positions) = .ok rows) : rows ≠ [] := by
  obtain ⟨entry, he, ha⟩ := Option.bind_eq_some.1 ha
  rw [neighborRows, he] at h
  simp only [ha, h0, if_false] at h
  obtain ⟨row, -, h⟩ := Result.bind_eq_ok.1 h
  obtain ⟨rows', -, h⟩ := Result.bind_eq_ok.1 h
  cases h
  exact List.cons_ne_nil _ _

/-- Whether the loop of `put_neighbor_diagnostics` reads position `i`: the neighbor and its
address exist, and the address is not 0. -/
def neighborPresent (neighbor : PyDict Nat (PyDict String Int)) (i : Nat) : Bool :=
  (neighborAddress neighbor i).any (· != 0)

/-- **The neighbor loop is a map over the neighbors present.** With its two `break`s, the loop
reads the row of every neighbor up to the first one missing or with address 0, in order, and
raises at the first row that lacks a field. -/
theorem neighborRows_eq (neighbor : PyDict Nat (PyDict String Int)) (positions : List Nat) :
    neighborRows neighbor positions = (positions.takeWhile (neighborPresent neighbor)).mapM
      fun i => readKeys ((neighbor.get? i).getD PyDict.empty) neighborKeys := by
  induction positions with
  | nil => rfl
  | cons i positions ih =>
    rw [neighborRows]
    cases he : neighbor.get? i with
    | none => rw [List.takeWhile_cons_of_neg (by simp [neighborPresent, neighborAddress, he])]; rfl
    | some entry =>
      dsimp only
      cases ha : entry.get? "address" with
      | none =>
        rw [List.takeWhile_cons_of_neg (by simp [neighborPresent, neighborAddress, he, ha])]; rfl
      | some address =>
        dsimp only
        by_cases h0 : address = 0
        · rw [if_pos h0, List.takeWhile_cons_of_neg
            (by simp [neighborPresent, neighborAddress, he, ha, h0])]; rfl
        · rw [if_neg h0, List.takeWhile_cons_of_pos
            (by simp [neighborPresent, neighborAddress, he, ha, h0]), List.mapM_cons, ← ih, he,
            Option.getD_some]

/-- `put_neighbor_diagnostics(message)`: nothing more when the first neighbor is missing or
has address 0. -/
def putNeighborDiagnostics (f : PacketFields) (neighbor : PyDict Nat (PyDict String Int)) :
    List Action :=
  putToReceivedPackets f ++
    match neighborAddress neighbor 0 with
    | none => []
    | some address =>
      if address = 0 then []
      else orRaise (neighborRows neighbor (List.range 14)) fun rows =>
        [.execute (.insertDiagnostics .diagnosticNeighbor (rows.map (·.map (↑))))]

/-- The `diagnostic_boot` row: `firmware_version` packs the four version fields, a byte each,
major first. -/
def bootRow (apdu : PyDict String Int) : Result (List Int) := do
  let firmwareVersion ← apduGet apdu "sw_major_version"
  let firmwareVersion := firmwareVersion * 256 + (← apduGet apdu "sw_minor_version")
  let firmwareVersion := firmwareVersion * 256 + (← apduGet apdu "sw_maint_version")
  let firmwareVersion := firmwareVersion * 256 + (← apduGet apdu "sw_dev_version")
  let before ← readKeys apdu ["boot_count", "node_role"]
  let after ← readKeys apdu ["scratchpad_sequence", "hw_magic", "stack_profile", "otap_enabled",
    "boot_line_number", "file_hash", "stack_trace_0", "stack_trace_1", "stack_trace_2",
    "cur_seq"]
  pure (before ++ firmwareVersion :: after)

/-- The four version fields a `firmware_version` packs, major first. -/
def unpackVersion (v : Int) : Int × Int × Int × Int :=
  (v / 16777216, v / 65536 % 256, v / 256 % 256, v % 256)

/-- **`firmware_version` loses nothing.** When the minor, maintenance and development versions
are bytes, the number `put_boot_diagnostics` packs into the row gives the four versions back. -/
theorem bootRow_firmwareVersion {apdu : PyDict String Int} {row : List Int}
    (h : bootRow apdu = .ok row) {major minor maint dev : Int}
    (hmajor : apdu.get? "sw_major_version" = some major)
    (hminor : apdu.get? "sw_minor_version" = some minor)
    (hmaint : apdu.get? "sw_maint_version" = some maint)
    (hdev : apdu.get? "sw_dev_version" = some dev)
    (hbytes : 0 ≤ minor ∧ minor < 256 ∧ 0 ≤ maint ∧ maint < 256 ∧ 0 ≤ dev ∧ dev < 256) :
    ∃ v, row[2]? = some v ∧ unpackVersion v = (major, minor, maint, dev) := by
  simp only [bootRow, apduGet, hmajor, hminor, hmaint, hdev, Result.ofOption_some,
    Result.ok_bind] at h
  obtain ⟨before, hb, h⟩ := Result.bind_eq_ok.1 h
  obtain ⟨after, -, h⟩ := Result.bind_eq_ok.1 h
  cases h
  refine ⟨((major * 256 + minor) * 256 + maint) * 256 + dev, ?_, ?_⟩
  · rw [List.getElem?_append_right (by simp [length_readKeys hb]), length_readKeys hb]; simp
  · simp only [unpackVersion, Prod.mk.injEq]; omega

/-- The `apdu` of a boot message of firmware 5.1.2.3. -/
def bootApdu : PyDict String Int :=
  ⟨[("sw_major_version", 5), ("sw_minor_version", 1), ("sw_maint_version", 2),
    ("sw_dev_version", 3), ("boot_count", 1), ("node_role", 1), ("scratchpad_sequence", 0),
    ("hw_magic", 0), ("stack_profile", 0), ("otap_enabled", 0), ("boot_line_number", 0),
    ("file_hash", 0), ("stack_trace_0", 0), ("stack_trace_1", 0), ("stack_trace_2", 0),
    ("cur_seq", 0)], by decide⟩

theorem bootRow_firmwareVersion_five :
    ∃ v, ([1, 1, 83952131, 0, 0, 0, 0, 0, 0, 0, 0, 0, 0] : List Int)[2]? = some v ∧
      unpackVersion v = (5, 1, 2, 3) :=
  @bootRow_firmwareVersion bootApdu _ (by decide) _ _ _ _ rfl rfl rfl rfl (by decide)

/-- `put_boot_diagnostics(message)`. -/
def putBootDiagnostics (f : PacketFields) (apdu : PyDict String Int) : List Action :=
  putToReceivedPackets f ++ orRaise (bootRow apdu) fun row =>
    [.execute (.insertDiagnostics .diagnosticBoot [row.map (↑)])]

/-- The `diagnostic_node` row: `voltage` is read first and scaled. -/
def nodeRow (apdu : PyDict String Int) : Result (List ℚ) := do
  let voltage := ((← apduGet apdu "voltage") : ℚ) / 100 + 2
  let before ← readKeys apdu ["access_cycle", "role"]
  let after ← readKeys apdu ["max_buffer_usage", "average_buffer_usage", "mem_alloc_fails",
    "normal_priority_buf_delay", "high_priority_buf_delay", "scans", "dl_delay_avg_0",
    "dl_delay_min_0", "dl_delay_max_0", "dl_delay_samples_0", "dl_delay_avg_1",
    "dl_delay_min_1", "dl_delay_max_1", "dl_delay_samples_1", "dropped_packets_0",
    "dropped_packets_1", "route_address", "cost_info_next_hop_0", "cost_info_cost_0",
    "cost_info_link_quality_0", "cost_info_next_hop_1", "cost_info_cost_1",
    "cost_info_link_quality_1"]
  pure (before.map (↑) ++ voltage :: after.map (↑))

/-- `"events_{}".format(i)`. -/
def eventKey (i : Nat) : String := "events_" ++ toString i

/-- The loop `for i in range(0, 15)` of `put_node_diagnostics`, over the positions left: the
position and value of every non-zero event. -/
def nodeEvents (apdu : PyDict String Int) : List Nat → Result (List (Nat × Int))
  | [] => pure []
  | i :: positions => do
    let event ← apduGet apdu (eventKey i)
    let events ← nodeEvents apdu positions
    pure (if event ≠ 0 then (i, event) :: events else events)

/-- The events are in the order of their positions, each position at most once. -/
theorem nodeEvents_sublist {apdu : PyDict String Int} :
    ∀ {positions : List Nat} {events : List (Nat × Int)}, nodeEvents apdu positions = .ok events →
      (events.map Prod.fst).Sublist positions
  | [], _, h => by cases h; exact List.Sublist.slnil
  | i :: positions, _, h => by
    rw [nodeEvents] at h
    obtain ⟨event, -, h⟩ := Result.bind_eq_ok.1 h
    obtain ⟨events, he, h⟩ := Result.bind_eq_ok.1 h
    cases h
    have ih := nodeEvents_sublist he
    split_ifs
    · exact ih.cons₂ i
    · exact ih.cons i

/-- **The event loop is a filter.** The loop of `put_node_diagnostics` reads the events of the
positions in order, raising `KeyError` at the first one missing, and keeps the position and
value of each non-zero one. -/
theorem nodeEvents_eq (apdu : PyDict String Int) (positions : List Nat) :
    nodeEvents apdu positions = (fun events => events.filter (·.2 ≠ 0)) <$>
      positions.mapM fun i => (i, ·) <$> apduGet apdu (eventKey i) := by
  induction positions with
  | nil => rfl
  | cons i positions ih =>
    rw [nodeEvents, ih, List.mapM_cons]
    generalize apduGet apdu (eventKey i) = r
    generalize positions.mapM (fun i => (i, ·) <$> apduGet apdu (eventKey i)) = rs
    rcases r with event | e | _ <;> rcases rs with events | e' | _ <;>
      simp [Result.map_ok, Result.map_raise, Result.map_outOfFuel, List.filter_cons]

/-- `put_node_diagnostics(message)`: the events reference the row of `received_packets`
through the `lastrowid` read just after it, and are inserted only if there is one. -/
def putNodeDiagnostics (f : PacketFields) (apdu : PyDict String Int) : List Action :=
  putToReceivedPackets f ++ .readLastRowId :: orRaise (nodeRow apdu) fun row =>
    .execute (.insertDiagnostics .diagnosticNode [row]) :: orRaise (nodeEvents apdu (List.range 15))
      fun events => if events.length > 0 then [.execute (.insertEvents events)] else []

/-- `default_column_count` of `_create_testnw_mysql_table`. -/
def defaultColumnCount : Nat := 30

/-- One pass of the loop of `put_testnw_measurements`, followed by `next`: the table is created
before the other lists are read. -/
def testRow (f : PacketFields) (t : TestNWFields) (row : Nat) (next : List Action) :
    List Action :=
  orRaise (getIndex t.testdataId row) fun testdataId =>
    let tableName := "TestData_ID_" ++ toString testdataId
    .execute (.createTestTable tableName) ::
      orRaise (do
        let columns ← getIndex t.numberOfFields row
        let data ← getIndex t.datafields row
        let idCtrl ← getIndex t.idCtrl row
        pure (columns, data, idCtrl)) fun (columns, data, idCtrl) =>
        .execute (.insertTestData tableName columns
          ([(receivedPacketRow f).loggedTime, (receivedPacketRow f).launchTime, (columns : ℚ),
            (idCtrl : ℚ)] ++ data.map (↑))) :: next

/-- The loop `for row in range(message.row_count)` over the rows left. -/
def testRows (f : PacketFields) (t : TestNWFields) : List Nat → List Action
  | [] => []
  | row :: rows => testRow f t row (testRows f t rows)

/-- `put_testnw_measurements(message)`. -/
def putTestnwMeasurements (f : PacketFields) (t : TestNWFields) : List Action :=
  putToReceivedPackets f ++ testRows f t (List.range t.rowCount)

end MySQL

namespace MySQLObserver

open MySQL

/-- `_map_message(mysql, message)`: the `put_*` method of the message's class. -/
def mapMessage : StoredMessage → List Action
  | .advertiser m => orRaise (putAdvertiser [m]) fun rows => [.execute (.insertAdvertiser rows)]
  | .bootDiagnostics f apdu => putBootDiagnostics f apdu
  | .neighborDiagnostics f neighbor => putNeighborDiagnostics f neighbor
  | .nodeDiagnostics f apdu => putNodeDiagnostics f apdu
  | .testNW f t => putTestnwMeasurements f t
  | .trafficDiagnostics f apdu => putTrafficDiagnostics f apdu
  | .generic f => putToReceivedPackets f
  | .other => []

end MySQLObserver

end BackendClient
