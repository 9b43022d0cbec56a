import BackendClient.Api.MySql.Statements

/-!
# The storage workers

`MySQLObserver.pool_on_data_received` submits `work` to `n_workers` processes; each opens its
own connection, takes a message from the storage queue, calls `_map_message` on it and takes
the next, until an exception ends it for good. The model is the pool as a state machine whose
events are a message put on the queue, a worker taking one, and a worker doing the next
`Action` of its call: any interleaving is a list of events. The database follows the MySQL
semantics the statements rely on: `received_packets.id` is `AUTO_INCREMENT`; per connection,
`LAST_INSERT_ID()` is the first id of its last such insert (0 before any) and
`cursor.lastrowid` that id after such an insert, else 0; the `MyISAM` tables ignore
`FOREIGN KEY` clauses and enforce `UNIQUE INDEX event_id`; an empty or comma-terminated list,
an unknown table or column, or a wrong number of values is rejected. A rejected statement
raises in the worker, which stops, and changes nothing. The exit signal and `create_tables`
are left out: the tables exist, with the rows an earlier run left, and every value fits.
-/

namespace BackendClient

namespace MySQLObserver

open MySQL

/-- A row of a table that references `received_packets`: its `received_packet` column and
the values after it. -/
structure Row where
  table : Table
  receivedPacket : Nat
  values : List ℚ
  deriving DecidableEq

/-- The tables the workers write. -/
structure Database where
  /-- `received_packets`, each row with its `id`. -/
  receivedPackets : List (Nat × ReceivedPacketRow)
  /-- The next value of the `AUTO_INCREMENT` counter of `received_packets`. -/
  autoIncrement : Nat
  /-- The rows of the tables that reference `received_packets`. -/
  rows : List Row
  /-- `advertiser`, each row with its `id`. -/
  advertiser : List (Nat × AdvertiserRow)
  /-- The next value of the `AUTO_INCREMENT` counter of `advertiser`. -/
  advertiserAutoIncrement : Nat
  /-- The `TestData_ID_*` tables created. -/
  testTables : List String

/-- The ids of `received_packets`. -/
def Database.ids (db : Database) : List Nat := db.receivedPackets.map Prod.fst

/-- Why the server rejects a statement. -/
inductive DbError where
  /-- `ER_PARSE_ERROR`. -/
  | parseError
  /-- `ER_NO_SUCH_TABLE`. -/
  | noSuchTable (name : String)
  /-- `ER_BAD_FIELD_ERROR`. -/
  | unknownColumn
  /-- `ER_WRONG_VALUE_COUNT_ON_ROW`. -/
  | columnCount
  /-- `ER_DUP_ENTRY`. -/
  | duplicateEntry
  deriving DecidableEq

/-- What a connection keeps between statements. -/
structure Connection where
  /-- `LAST_INSERT_ID()`. -/
  lastInsertId : Nat
  /-- `cursor.lastrowid`. -/
  lastRowId : Nat

/-- The keys `(received_packet, position)` of the rows of `diagnostic_event`. -/
def eventKeys (rows : List Row) : List (Nat × List ℚ) :=
  (rows.filter fun r => r.table = .diagnosticEvent).map fun r => (r.receivedPacket, r.values.take 1)

/-- What the server does with a statement of a connection; `lastReceivedPacket` is the value
`put_node_diagnostics` formats into its events. -/
def execute (db : Database) (conn : Connection) (lastReceivedPacket : Nat) :
    Statement → Except DbError (Database × Connection)
  | .insertReceivedPacket row =>
    let id := db.autoIncrement
    .ok ({ db with receivedPackets := db.receivedPackets ++ [(id, row)], autoIncrement := id + 1 },
      ⟨id, id⟩)
  | .insertDiagnostics table rows =>
    if rows = [] then .error .parseError
    else .ok ({ db with rows := db.rows ++ rows.map (⟨table, conn.lastInsertId, ·⟩) },
      { conn with lastRowId := 0 })
  | .insertEvents events =>
    if events = [] then .error .parseError
    else
      let rows := db.rows ++ events.map fun e => ⟨.diagnosticEvent, lastReceivedPacket, [e.1, e.2]⟩
      if (eventKeys rows).Nodup then .ok ({ db with rows }, { conn with lastRowId := 0 })
      else .error .duplicateEntry
  | .createTestTable name =>
    .ok ({ db with testTables := if name ∈ db.testTables then db.testTables
      else db.testTables ++ [name] }, { conn with lastRowId := 0 })
  | .insertTestData name columns values =>
    if columns = 0 ∨ values.length ≤ 4 then .error .parseError
    else if name ∉ db.testTables then .error (.noSuchTable name)
    else if defaultColumnCount < columns then .error .unknownColumn
    else if values.length ≠ 4 + columns then .error .columnCount
    else .ok ({ db with rows := db.rows ++ [⟨.testData name, conn.lastInsertId, values⟩] },
      { conn with lastRowId := 0 })
  | .insertAdvertiser rows =>
    if rows = [] then .ok (db, conn)
    else
      let id := db.advertiserAutoIncrement
      .ok ({ db with
        advertiser := db.advertiser ++ (List.range rows.length).zip rows |>.map
          fun e => (id + e.1, e.2)
        advertiserAutoIncrement := id + rows.length }, ⟨id, id⟩)

/-- Why a worker stopped. -/
inductive Stop where
  | exception (e : PyExc)
  | database (e : DbError)
  deriving DecidableEq

/-- One worker: its connection, the local `last_received_packet`, what is left of the call of
`_map_message` it is in, and whether it has stopped. -/
structure Worker where
  conn : Connection
  lastReceivedPacket : Nat
  program : List Action
  stopped : Option Stop

/-- A worker before its first message: a fresh connection. -/
def Worker.init : Worker := ⟨⟨0, 0⟩, 0, [], none⟩

/-- The database, the storage queue and the workers. -/
structure Storage where
  db : Database
  queue : List StoredMessage
  workers : List Worker

/-- What can happen next. -/
inductive Event where
  /-- A producer puts a message on the storage queue. -/
  | put (m : StoredMessage)
  /-- Worker `i`'s `storage_q.get` returns the head of the queue. -/
  | take (i : Nat)
  /-- Worker `i` does the next thing of its call. -/
  | act (i : Nat)

/-- The message an event puts on the queue, if it puts one. -/
def Event.putMessage : Event → Option StoredMessage
  | .put m => some m
  | _ => none

/-- The pool as `pool_on_data_received` starts it, on a database an earlier run left. -/
def init (db : Database) (nWorkers : Nat) : Storage := ⟨db, [], List.replicate nWorkers Worker.init⟩

/-- Worker `w` does `a`; an exception or a rejected statement stops it. -/
def runAction (db : Database) (w : Worker) : Action → Database × Worker
  | .raise e => (db, { w with program := [], stopped := some (.exception e) })
  | .readLastRowId => (db, { w with lastReceivedPacket := w.conn.lastRowId })
  | .execute statement =>
    match execute db w.conn w.lastReceivedPacket statement with
    | .ok (db', conn) => (db', { w with conn })
    | .error err => (db, { w with program := [], stopped := some (.database err) })

/-- The effect of one event, `none` when it cannot happen now. -/
def step (s : Storage) : Event → Option Storage
  | .put m => some { s with queue := s.queue ++ [m] }
  | .take i =>
    match s.workers[i]?, s.queue with
    | some w, m :: rest =>
      match w.stopped, w.program with
      | none, [] =>
        some { s with
          queue := rest
          workers := s.workers.set i { w with program := mapMessage m } }
      | _, _ => none
    | _, _ => none
  | .act i =>
    match s.workers[i]? with
    | some w =>
      match w.stopped, w.program with
      | none, a :: rest =>
        let (db, w) := runAction s.db { w with program := rest } a
        some { s with db, workers := s.workers.set i w }
      | _, _ => none
    | none => none

/-- The states some interleaving reaches from a database and a number of workers. -/
inductive Reachable (db : Database) (nWorkers : Nat) : Storage → Prop where
  | init : Reachable db nWorkers (init db nWorkers)
  | step {s s' : Storage} {e : Event} :
      Reachable db nWorkers s → step s e = some s' → Reachable db nWorkers s'

/-- The events of a list, in order. -/
def run : Storage → List Event → Option Storage
  | s, [] => some s
  | s, e :: es => (step s e).bind fun s' => run s' es

theorem reachable_of_run {db : Database} {nWorkers : Nat} :
    ∀ {s s' : Storage} {es : List Event}, Reachable db nWorkers s → run s es = some s' →
      Reachable db nWorkers s'
  | _, _, [], hs, h => by cases h; exact hs
  | s, _, e :: es, hs, h => by
    simp only [run] at h
    cases he : step s e with
    | none => simp [he] at h
    | some s1 => exact reachable_of_run (Reachable.step hs he) (by simpa [he] using h)

/-- A list of events from the start that ends in a state where `p` holds. -/
theorem exists_reachable_of_run (db : Database) (nWorkers : Nat) (es : List Event)
    (p : Storage → Bool) (h : (run (init db nWorkers) es).map p = some true) :
    ∃ s, Reachable db nWorkers s ∧ p s = true := by
  cases hr : run (init db nWorkers) es with
  | none => simp [hr] at h
  | some s =>
    simp only [hr, Option.map_some', Option.some.injEq] at h
    exact ⟨s, reachable_of_run Reachable.init hr, h⟩

/-- **Inversion lemma**: what one event can do to the workers. The database changes only when
a worker acts. -/
theorem step_cases {s s' : Storage} {e : Event} (h : step s e = some s') :
    (s'.db = s.db ∧ s'.workers = s.workers ∧ s'.queue = s.queue ++ e.putMessage.toList) ∨
    (∃ i w m, s.workers[i]? = some w ∧ w.stopped = none ∧ w.program = [] ∧ s'.db = s.db ∧
      s'.workers = s.workers.set i { w with program := mapMessage m } ∧
      s.queue = m :: s'.queue ∧ e.putMessage = none) ∨
    (∃ i w a rest, s.workers[i]? = some w ∧ w.stopped = none ∧ w.program = a :: rest ∧
      s'.db = (runAction s.db { w with program := rest } a).1 ∧
      s'.workers = s.workers.set i (runAction s.db { w with program := rest } a).2 ∧
      s'.queue = s.queue ∧ e.putMessage = none) := by
  cases e with
  | put m => cases h; exact .inl ⟨rfl, rfl, rfl⟩
  | take i =>
    simp only [step] at h
    split at h
    · next w m rest hw hq =>
      split at h
      · next hs hp =>
        cases h
        exact .inr (.inl ⟨i, w, m, hw, hs, hp, rfl, rfl, hq, rfl⟩)
      · cases h
    · cases h
  | act i =>
    simp only [step] at h
    split at h
    · next w hw =>
      split at h
      · next a rest hs hp =>
        cases h
        exact .inr (.inr ⟨i, w, a, rest, hw, hs, hp, rfl, rfl, rfl, rfl⟩)
      · cases h
    · cases h

/-! ## Every reference resolves

A `put_*` call references `received_packets` through `LAST_INSERT_ID()` and `lastrowid`, which
belong to its connection: another worker's insert between two statements of the call changes
neither. `Resolves lid rid loc p` says that each reference of what is left of a call, `p`,
names a row of `received_packets`, given whether `LAST_INSERT_ID()`, `lastrowid` and the local
`last_received_packet` already do. -/

/-- The references of the actions `p` name rows of `received_packets`, given whether
`LAST_INSERT_ID()` (`lid`), `lastrowid` (`rid`) and `last_received_packet` (`loc`) do. -/
def Resolves (lid rid loc : Prop) : List Action → Prop
  | [] => True
  | .raise _ :: _ => True
  | .readLastRowId :: p => Resolves lid rid rid p
  | .execute (.insertReceivedPacket _) :: p => Resolves True True loc p
  | .execute (.insertDiagnostics _ _) :: p => lid ∧ Resolves lid False loc p
  | .execute (.insertEvents _) :: p => loc ∧ Resolves lid False loc p
  | .execute (.createTestTable _) :: p => Resolves lid False loc p
  | .execute (.insertTestData _ _ _) :: p => lid ∧ Resolves lid False loc p
  | .execute (.insertAdvertiser _) :: p => Resolves False False loc p

theorem Resolves.mono {p : List Action} :
    ∀ {lid rid loc lid' rid' loc' : Prop}, (lid → lid') → (rid → rid') → (loc → loc') →
      Resolves lid rid loc p → Resolves lid' rid' loc' p := by
  induction p with
  | nil => intros; trivial
  | cons a p ih =>
    intro lid rid loc lid' rid' loc' hl hr hc h
    rcases a with ((_ | _ | _ | _ | _ | _) | _ | _)
    · exact ih id id hc h
    · exact ⟨hl h.1, ih hl id hc h.2⟩
    · exact ⟨hc h.1, ih hl id hc h.2⟩
    · exact ih hl id hc h
    · exact ⟨hl h.1, ih hl id hc h.2⟩
    · exact ih id id hc h
    · exact ih hl hr hr h
    · trivial

theorem resolves_orRaise {α : Type} {lid rid loc : Prop} (r : Result α) {next : α → List Action}
    (h : ∀ a, Resolves lid rid loc (next a)) : Resolves lid rid loc (orRaise r next) := by
  cases r with
  | ok a => exact h a
  | _ => trivial

theorem resolves_testRows (f : PacketFields) (t : TestNWFields) :
    ∀ (rows : List Nat) {rid loc : Prop}, Resolves True rid loc (testRows f t rows)
  | [], _, _ => trivial
  | _ :: rows, _, _ => resolves_orRaise _ fun _ => resolves_orRaise _ fun _ =>
      ⟨trivial, resolves_testRows f t rows⟩

/-- **Every call starts with its packet.** In each call of `_map_message`, every statement
that references `received_packets` comes after the call's own insert into it, and the
`lastrowid` it reads is that insert's. -/
theorem resolves_mapMessage (m : StoredMessage) : Resolves False False False (mapMessage m) := by
  cases m with
  | advertiser m =>
    unfold mapMessage
    exact resolves_orRaise _ fun _ => trivial
  | bootDiagnostics f apdu => exact resolves_orRaise _ fun _ => ⟨trivial, trivial⟩
  | neighborDiagnostics f neighbor =>
    show Resolves True True False _
    split
    · trivial
    · split_ifs
      · trivial
      · exact resolves_orRaise _ fun _ => ⟨trivial, trivial⟩
  | nodeDiagnostics f apdu =>
    exact resolves_orRaise _ fun _ => ⟨trivial, resolves_orRaise _ fun _ => by
      split_ifs
      · exact ⟨trivial, trivial⟩
      · trivial⟩
  | testNW f t => exact resolves_testRows f t _
  | trafficDiagnostics f apdu => exact resolves_orRaise _ fun _ => ⟨trivial, trivial⟩
  | generic f => trivial
  | other => trivial

/-- **Referential integrity**: every row that references `received_packets` names one of its
ids. -/
def Integrity (db : Database) : Prop := ∀ r ∈ db.rows, r.receivedPacket ∈ db.ids

/-- What a running worker has left to do references rows that exist by the time it does it. -/
def WorkerResolves (db : Database) (w : Worker) : Prop :=
  w.stopped = none → Resolves (w.conn.lastInsertId ∈ db.ids) (w.conn.lastRowId ∈ db.ids)
    (w.lastReceivedPacket ∈ db.ids) w.program

/-- The invariant of every interleaving. -/
structure Inv (s : Storage) : Prop where
  integrity : Integrity s.db
  workers : ∀ w ∈ s.workers, WorkerResolves s.db w

theorem WorkerResolves.mono {db db' : Database} (hids : ∀ x ∈ db.ids, x ∈ db'.ids) {w : Worker}
    (h : WorkerResolves db w) : WorkerResolves db' w := fun hs =>
  (h hs).mono (hids _) (hids _) (hids _)

/-- **Step lemma for a statement**: a statement whose references resolve keeps integrity, and
what follows it still resolves. -/
theorem execute_inv {db db' : Database} {conn conn' : Connection} {loc : Nat}
    {statement : Statement} {p : List Action} (hi : Integrity db)
    (hr : Resolves (conn.lastInsertId ∈ db.ids) (conn.lastRowId ∈ db.ids) (loc ∈ db.ids)
      (.execute statement :: p))
    (h : execute db conn loc statement = .ok (db', conn')) :
    (∀ x ∈ db.ids, x ∈ db'.ids) ∧ Integrity db' ∧
      Resolves (conn'.lastInsertId ∈ db'.ids) (conn'.lastRowId ∈ db'.ids) (loc ∈ db'.ids) p := by
  cases statement with
  | insertReceivedPacket row =>
    cases h
    have hids : ∀ x ∈ db.ids, x ∈ db.ids ++ [db.autoIncrement] := fun x hx =>
      List.mem_append_left _ hx
    refine ⟨by simpa [Database.ids] using hids, fun r hr' => ?_, ?_⟩
    · simpa [Database.ids] using hids _ (hi r hr')
    · exact hr.mono (fun _ => by simp [Database.ids]) (fun _ => by simp [Database.ids])
        (fun hx => by simpa [Database.ids] using hids _ hx)
  | insertDiagnostics | insertEvents =>
    simp only [execute] at h
    split_ifs at h
    cases h
    refine ⟨fun _ hx => hx, fun r hr' => ?_, hr.2.mono id False.elim id⟩
    rcases List.mem_append.1 hr' with hr' | hr'
    · exact hi r hr'
    · obtain ⟨_, -, rfl⟩ := List.mem_map.1 hr'
      exact hr.1
  | createTestTable name =>
    cases h
    exact ⟨fun _ hx => hx, hi, hr.mono id False.elim id⟩
  | insertTestData name columns values =>
    simp only [execute] at h
    split_ifs at h
    cases h
    refine ⟨fun _ hx => hx, fun r hr' => ?_, hr.2.mono id False.elim id⟩
    rcases List.mem_append.1 hr' with hr' | hr'
    · exact hi r hr'
    · rw [List.mem_singleton.1 hr']
      exact hr.1
  | insertAdvertiser rows =>
    simp only [execute] at h
    split_ifs at h <;> cases h <;> exact ⟨fun _ hx => hx, hi, hr.mono False.elim False.elim id⟩

/-- **Step lemma for a worker**: what a running worker does keeps integrity, adds ids only,
and leaves it with references that resolve. -/
theorem runAction_inv {db : Database} {w : Worker} {a : Action} (hi : Integrity db)
    (hr : Resolves (w.conn.lastInsertId ∈ db.ids) (w.conn.lastRowId ∈ db.ids)
      (w.lastReceivedPacket ∈ db.ids) (a :: w.program)) :
    (∀ x ∈ db.ids, x ∈ (runAction db w a).1.ids) ∧ Integrity (runAction db w a).1 ∧
      WorkerResolves (runAction db w a).1 (runAction db w a).2 := by
  cases a with
  | raise e => exact ⟨fun _ hx => hx, hi, fun h => by cases h⟩
  | readLastRowId => exact ⟨fun _ hx => hx, hi, fun _ => hr⟩
  | execute statement =>
    simp only [runAction]
    split
    · next db' conn h =>
      obtain ⟨hids, hi', hr'⟩ := execute_inv hi hr h
      exact ⟨hids, hi', fun _ => hr'⟩
    · exact ⟨fun _ hx => hx, hi, fun h => by cases h⟩

/-- **Step lemma**: every event keeps the invariant. -/
theorem inv_step {s s' : Storage} (h : Inv s) {e : Event} (he : step s e = some s') : Inv s' := by
  rcases step_cases he with ⟨hdb, hws, -⟩ | ⟨i, w, m, -, -, -, hdb, hws, -⟩ |
    ⟨i, w, a, rest, hw, hs, hp, hdb, hws, -⟩
  · exact ⟨hdb ▸ h.integrity, hdb ▸ hws ▸ h.workers⟩
  · refine ⟨hdb ▸ h.integrity, fun w' hw' => ?_⟩
    rw [hws] at hw'
    rcases List.mem_or_eq_of_mem_set hw' with hw' | rfl
    · exact hdb ▸ h.workers w' hw'
    · exact fun _ => (resolves_mapMessage m).mono False.elim False.elim False.elim
  · have hr := h.workers w (List.getElem?_mem hw) hs
    rw [hp] at hr
    obtain ⟨hids, hi', hw''⟩ := runAction_inv (w := { w with program := rest }) h.integrity hr
    refine ⟨hdb ▸ hi', fun w' hw' => ?_⟩
    rw [hws] at hw'
    rw [hdb]
    rcases List.mem_or_eq_of_mem_set hw' with hw' | rfl
    · exact (h.workers w' hw').mono hids
    · exact hw''

theorem inv_init {db : Database} (h : Integrity db) (nWorkers : Nat) : Inv (init db nWorkers) :=
  ⟨h, fun w hw => by
    rw [List.eq_of_mem_replicate hw]
    intro _
    trivial⟩

/-- **Referential integrity under every interleaving.** Whatever the number of workers and
however their statements interleave, every row of `diagnostic_traffic`, `diagnostic_neighbor`,
`diagnostic_boot`, `diagnostic_node`, `diagnostic_event` and the `TestData_ID_*` tables
references a row of `received_packets`, provided the database the run starts from does. It
rests on `LAST_INSERT_ID()` and `lastrowid` belonging to the connection: the foreign keys are
not enforced. -/
theorem integrity_of_reachable {db : Database} {nWorkers : Nat} {s : Storage}
    (h : Reachable db nWorkers s) (hdb : Integrity db) : Integrity s.db := by
  suffices Inv s from this.integrity
  induction h with
  | init => exact inv_init hdb nWorkers
  | step _ he ih => exact inv_step ih he

/-- The database of a first run: every table empty, every counter at 1. -/
def Database.empty : Database := ⟨[], 1, [], [], 1, []⟩

/-- A `NeighborDiagnosticsMessage` from node 5 with one neighbor, of address 5. -/
def oneNeighbor : StoredMessage :=
  .neighborDiagnostics ⟨0, 0, 0, 0, 5, 1, 1, 0, [], none⟩
    ⟨[(0, ⟨[("address", 5), ("cluster_channel", 1), ("radio_power", 2), ("node_info", 3),
      ("rssi", 4)], by decide⟩)], by decide⟩

/-- One worker stores a neighbor message on an empty database: a row references
`received_packets`, and it resolves. -/
theorem integrity_of_reachable_oneNeighbor : Integrity Database.empty ∧
    ∃ s, Reachable Database.empty 1 s ∧ s.db.rows ≠ [] ∧ Integrity s.db := by
  have hdb : Integrity Database.empty := fun _ h => absurd h (List.not_mem_nil _)
  obtain ⟨s, hs, hp⟩ := exists_reachable_of_run Database.empty 1
    [.put oneNeighbor, .take 0, .act 0, .act 0] (fun s => !s.db.rows.isEmpty) (by decide)
  exact ⟨hdb, s, hs, by simpa using hp, integrity_of_reachable hs hdb⟩

end MySQLObserver

end BackendClient
