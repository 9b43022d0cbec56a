import BackendClient.Api.MySql.Workers

/-!
# Which statements the server rejects

A storage worker stops at the first statement the server rejects. Of the statements the
`put_*` methods execute, only the inserts into the `TestData_ID_*` tables can be rejected:
their column count and values come from the message. Every other statement is accepted, in
every interleaving of every number of workers, from a database whose `diagnostic_event` rows
keep the unique index and reference ids below the `AUTO_INCREMENT` counter.

The hard case is the unique index `event_id (received_packet, position)` of
`diagnostic_event`, which MyISAM enforces. `put_node_diagnostics` inserts its events with the
`lastrowid` of its own insert into `received_packets`: an id no event references yet, since the
counter only grows, and that no other worker's events will reference, since each id is issued
once. The proof gives each running worker the id its next events will reference, if it has one
(`own`), and keeps these ids distinct, below the counter, and referenced by no event.
-/

namespace BackendClient

namespace MySQLObserver

open MySQL

/-- What the rest of a call needs for its statements other than `TestData_ID_*` inserts to be
accepted, given whether `lastrowid` (`rid`) and `last_received_packet` (`loc`) hold the
worker's own id: a diagnostics insert has rows and is not into `diagnostic_event`, an events
insert has events at distinct positions and references the worker's own id. -/
def Accepts (rid loc : Prop) : List Action → Prop
  | [] => True
  | .raise _ :: _ => True
  | .readLastRowId :: p => Accepts rid rid p
  | .execute (.insertReceivedPacket _) :: p => Accepts True False p
  | .execute (.insertDiagnostics table rows) :: p =>
    table ≠ .diagnosticEvent ∧ rows ≠ [] ∧ Accepts False loc p
  | .execute (.insertEvents events) :: p =>
    loc ∧ events ≠ [] ∧ (events.map Prod.fst).Nodup ∧ Accepts False False p
  | .execute (.createTestTable _) :: p => Accepts False loc p
  | .execute (.insertTestData ..) :: p => Accepts False loc p
  | .execute (.insertAdvertiser _) :: p => Accepts False loc p

theorem Accepts.mono {p : List Action} :
    ∀ {rid loc rid' loc' : Prop}, (rid → rid') → (loc → loc') →
      Accepts rid loc p → Accepts rid' loc' p := by
  induction p with
  | nil => intros; trivial
  | cons a p ih =>
    intro rid loc rid' loc' hr hl h
    rcases a with ((_ | _ | _ | _ | _ | _) | _ | _)
    · exact ih id False.elim h
    · exact ⟨h.1, h.2.1, ih id hl h.2.2⟩
    · exact ⟨hl h.1, h.2.1, h.2.2.1, ih id id h.2.2.2⟩
    · exact ih id hl h
    · exact ih id hl h
    · exact ih id hl h
    · exact ih hr hr h
    · trivial

theorem accepts_orRaise {α : Type} {rid loc : Prop} (r : Result α) {next : α → List Action}
    (h : ∀ a, Accepts rid loc (next a)) : Accepts rid loc (orRaise r next) := by
  cases r with
  | ok a => exact h a
  | _ => trivial

theorem accepts_testRows (f : PacketFields) (t : TestNWFields) :
    ∀ (rows : List Nat) {rid loc : Prop}, Accepts rid loc (testRows f t rows)
  | [], _, _ => trivial
  | _ :: rows, _, _ => accepts_orRaise _ fun _ => accepts_orRaise _ fun _ => accepts_testRows f t rows

/-- **Every call meets its needs itself.** Each call of `_map_message` inserts rows only with
values, and events only at distinct positions and with the `lastrowid` of its own insert into
`received_packets`, whatever the connection held before it. -/
theorem accepts_mapMessage (m : StoredMessage) : Accepts False False (mapMessage m) := by
  cases m with
  | advertiser m =>
    unfold mapMessage
    exact accepts_orRaise _ fun _ => trivial
  | bootDiagnostics f apdu =>
    exact accepts_orRaise _ fun _ => ⟨nofun, List.cons_ne_nil _ _, trivial⟩
  | neighborDiagnostics f neighbor =>
    show Accepts True False _
    split
    · trivial
    · next address ha =>
      split_ifs with h0
      · trivial
      · cases hr : neighborRows neighbor (List.range 14) with
        | ok rows =>
          have hne := neighborRows_ne_nil ha h0 (by rwa [List.range_succ_eq_map] at hr)
          exact ⟨nofun, by simpa using hne, trivial⟩
        | _ => trivial
  | nodeDiagnostics f apdu =>
    refine accepts_orRaise _ fun _ => ⟨nofun, List.cons_ne_nil _ _, ?_⟩
    cases he : nodeEvents apdu (List.range 15) with
    | ok events =>
      show Accepts False True (if events.length > 0 then _ else _)
      split_ifs with hl
      · exact ⟨trivial, List.ne_nil_of_length_pos hl,
          (nodeEvents_sublist he).nodup (List.nodup_range 15), trivial⟩
      · trivial
    | _ => trivial
  | testNW f t => exact accepts_testRows f t _
  | trafficDiagnostics f apdu =>
    exact accepts_orRaise _ fun _ => ⟨nofun, List.cons_ne_nil _ _, trivial⟩
  | generic f => trivial
  | other => trivial

/-! ## The invariant -/

/-- The rows of `diagnostic_event` keep the unique index and reference ids below the
`AUTO_INCREMENT` counter of `received_packets`. -/
structure EventTable (db : Database) : Prop where
  lt : ∀ r ∈ db.rows, r.table = .diagnosticEvent → r.receivedPacket < db.autoIncrement
  unique : (eventKeys db.rows).Nodup

/-- `own i` is the id worker `i`'s next events will reference, if it has one: each is held by
one worker, is below the counter, and is referenced by no event yet; what is left of each
running worker's call needs no more than that. -/
structure Owners (db : Database) (workers : List Worker) (own : Nat → Option Nat) : Prop where
  inj : ∀ i j x, own i = some x → own j = some x → i = j
  lt : ∀ i x, own i = some x → x < db.autoIncrement
  fresh : ∀ i x, own i = some x → ∀ r ∈ db.rows, r.table = .diagnosticEvent → r.receivedPacket ≠ x
  workers : ∀ i w, workers[i]? = some w → w.stopped = none →
    Accepts (own i = some w.conn.lastRowId) (own i = some w.lastReceivedPacket) w.program

/-- The invariant of every interleaving. -/
structure AcceptInv (s : Storage) : Prop where
  events : EventTable s.db
  owners : ∃ own, Owners s.db s.workers own

theorem eventKeys_append (rows rows' : List Row) :
    eventKeys (rows ++ rows') = eventKeys rows ++ eventKeys rows' := by
  simp [eventKeys]

theorem eventKeys_eq_nil {rows : List Row} (h : ∀ r ∈ rows, r.table ≠ .diagnosticEvent) :
    eventKeys rows = [] := by
  simpa [eventKeys, List.filter_eq_nil_iff] using h

/-- **Frame lemma**: worker `i` ends as `w'` and holds `o`; the others keep their ids. The
new id is below the counter, referenced by no event and held by no other worker; the
counter only grows; and an event row is old or references the id worker `i` held. -/
theorem Owners.update {db db' : Database} {workers : List Worker} {own : Nat → Option Nat}
    (h : Owners db workers own) {i : Nat} {w' : Worker} {o : Option Nat}
    (hlt : ∀ x, o = some x → x < db'.autoIncrement)
    (hfresh : ∀ x, o = some x → ∀ r ∈ db'.rows, r.table = .diagnosticEvent → r.receivedPacket ≠ x)
    (hinj : ∀ j x, j ≠ i → own j = some x → o ≠ some x)
    (hcounter : db.autoIncrement ≤ db'.autoIncrement)
    (hrows : ∀ r ∈ db'.rows, r.table = .diagnosticEvent → r ∈ db.rows ∨ own i = some r.receivedPacket)
    (hw : w'.stopped = none →
      Accepts (o = some w'.conn.lastRowId) (o = some w'.lastReceivedPacket) w'.program) :
    Owners db' (workers.set i w') (Function.update own i o) := by
  have upd : ∀ j x, Function.update own i o j = some x →
      j = i ∧ o = some x ∨ j ≠ i ∧ own j = some x := fun j x hj => by
    by_cases hji : j = i
    · subst hji; exact .inl ⟨rfl, by rwa [Function.update_same] at hj⟩
    · exact .inr ⟨hji, by rwa [Function.update_noteq hji] at hj⟩
  refine ⟨fun j k x hj hk => ?_, fun j x hj => ?_, fun j x hj r hr he => ?_, fun j w hj hs => ?_⟩
  · rcases upd j x hj with ⟨rfl, hoj⟩ | ⟨hji, hoj⟩ <;>
      rcases upd k x hk with ⟨rfl, hok⟩ | ⟨hki, hok⟩
    · rfl
    · exact absurd hoj (hinj k x hki hok)
    · exact absurd hok (hinj j x hji hoj)
    · exact h.inj j k x hoj hok
  · rcases upd j x hj with ⟨-, hj⟩ | ⟨-, hj⟩
    · exact hlt x hj
    · exact Nat.lt_of_lt_of_le (h.lt j x hj) hcounter
  · rcases upd j x hj with ⟨-, hj⟩ | ⟨hji, hj⟩
    · exact hfresh x hj r hr he
    · rcases hrows r hr he with hr | hi
      · exact h.fresh j x hj r hr he
      · exact fun hx => hji (h.inj j i x hj (hx ▸ hi))
  · by_cases hji : i = j
    · subst hji
      rw [List.getElem?_set, if_pos rfl] at hj
      split_ifs at hj
      cases hj
      rw [Function.update_same]
      exact hw hs
    · rw [List.getElem?_set_ne hji] at hj
      rw [Function.update_noteq (Ne.symm hji)]
      exact h.workers j w hj hs

/-- The new table keeps the invariant when its event rows are old ones, or reference the id
worker `i` held, and its keys are unique. -/
theorem EventTable.update {db db' : Database} {workers : List Worker} {own : Nat → Option Nat}
    (ht : EventTable db) (h : Owners db workers own) {i : Nat}
    (hcounter : db.autoIncrement ≤ db'.autoIncrement)
    (hrows : ∀ r ∈ db'.rows, r.table = .diagnosticEvent → r ∈ db.rows ∨ own i = some r.receivedPacket)
    (hunique : (eventKeys db'.rows).Nodup) : EventTable db' :=
  ⟨fun r hr he => by
    rcases hrows r hr he with hr | hi
    · exact Nat.lt_of_lt_of_le (ht.lt r hr he) hcounter
    · exact Nat.lt_of_lt_of_le (h.lt i _ hi) hcounter, hunique⟩

/-- A step that keeps every worker's id: no event row is added, and the counter stays. -/
theorem acceptInv_keep {db db' : Database} {workers : List Worker} {own : Nat → Option Nat}
    (ht : EventTable db) (h : Owners db workers own) {i : Nat} (w' : Worker)
    (hcounter : db'.autoIncrement = db.autoIncrement) (new : List Row)
    (hnew : ∀ r ∈ new, r.table ≠ .diagnosticEvent) (hrows : db'.rows = db.rows ++ new)
    (hw : w'.stopped = none →
      Accepts (own i = some w'.conn.lastRowId) (own i = some w'.lastReceivedPacket) w'.program) :
    EventTable db' ∧ ∃ own', Owners db' (workers.set i w') own' := by
  have hold : ∀ r ∈ db'.rows, r.table = .diagnosticEvent → r ∈ db.rows := fun r hr he => by
    rw [hrows] at hr
    exact (List.mem_append.1 hr).resolve_right fun hn => hnew r hn he
  have hunique : (eventKeys db'.rows).Nodup := by
    rw [hrows, eventKeys_append, eventKeys_eq_nil hnew, List.append_nil]
    exact ht.unique
  exact ⟨ht.update h (i := i) hcounter.ge (fun r hr he => .inl (hold r hr he)) hunique, _,
    h.update (fun x hx => hcounter ▸ h.lt i x hx) (fun x hx r hr he => h.fresh i x hx r (hold r hr he) he)
      (fun j x hj hjx hix => hj (h.inj j i x hjx hix)) hcounter.ge
      (fun r hr he => .inl (hold r hr he)) hw⟩

/-- Events at distinct positions, referencing an id no event references, keep the unique
index. -/
theorem eventKeys_insertEvents {rows : List Row} (hu : (eventKeys rows).Nodup) {loc : Nat}
    (hfresh : ∀ r ∈ rows, r.table = .diagnosticEvent → r.receivedPacket ≠ loc)
    {events : List (Nat × Int)} (hnodup : (events.map Prod.fst).Nodup) :
    (eventKeys (rows ++ events.map fun e => ⟨.diagnosticEvent, loc, [e.1, e.2]⟩)).Nodup := by
  have hnew : eventKeys (events.map fun e => ⟨.diagnosticEvent, loc, [e.1, e.2]⟩) =
      (events.map Prod.fst).map fun p : Nat => (loc, [(p : ℚ)]) := by
    simp [eventKeys, List.filter_map, Function.comp_def]
  rw [eventKeys_append, hnew]
  refine List.nodup_append.2 ⟨hu, hnodup.map fun a b hab => by simpa using hab, ?_⟩
  intro k hk hk'
  obtain ⟨r, hr, rfl⟩ := List.mem_map.1 hk
  obtain ⟨hr, he⟩ := List.mem_filter.1 hr
  obtain ⟨p, -, hp⟩ := List.mem_map.1 hk'
  exact hfresh r hr (by simpa using he) (congrArg Prod.fst hp).symm

/-- **Step lemma for a statement**: a statement the call's needs allow keeps the invariant.
An insert into `received_packets` gives the worker the new id; its events take it back. -/
theorem execute_acceptInv {db db' : Database} {workers : List Worker} {own : Nat → Option Nat}
    (ht : EventTable db) (h : Owners db workers own) {i : Nat} {w : Worker} {statement : Statement}
    {rest : List Action} {conn : Connection}
    (hacc : Accepts (own i = some w.conn.lastRowId) (own i = some w.lastReceivedPacket)
      (.execute statement :: rest))
    (hex : execute db w.conn w.lastReceivedPacket statement = .ok (db', conn)) :
    EventTable db' ∧ ∃ own', Owners db' (workers.set i { w with program := rest, conn }) own' := by
  cases statement with
  | insertReceivedPacket row =>
    cases hex
    refine ⟨⟨fun r hr he => Nat.lt_succ_of_lt (ht.lt r hr he), ht.unique⟩, _,
      h.update (o := some db.autoIncrement) (fun x hx => ?_) (fun x hx r hr he => ?_)
        (fun j x _ hj hx => ?_) (Nat.le_succ _) (fun r hr _ => .inl hr)
        (fun _ => hacc.mono (fun _ => rfl) False.elim)⟩
    · cases hx; exact Nat.lt_succ_self _
    · cases hx; exact Nat.ne_of_lt (ht.lt r hr he)
    · cases hx; exact Nat.lt_irrefl _ (h.lt j _ hj)
  | insertDiagnostics table rows =>
    simp only [execute] at hex
    split_ifs at hex
    cases hex
    refine acceptInv_keep ht h _ rfl _ (fun r hr => ?_) rfl fun _ => hacc.2.2.mono False.elim id
    obtain ⟨_, -, rfl⟩ := List.mem_map.1 hr
    exact hacc.1
  | insertEvents events =>
    simp only [execute] at hex
    split_ifs at hex with _ hnodup
    cases hex
    have hrows : ∀ r ∈ db.rows ++ events.map fun e => ⟨.diagnosticEvent, w.lastReceivedPacket, [e.1, e.2]⟩,
        r.table = .diagnosticEvent → r ∈ db.rows ∨ own i = some r.receivedPacket := fun r hr _ => by
      rcases List.mem_append.1 hr with hr | hr
      · exact .inl hr
      · obtain ⟨_, -, rfl⟩ := List.mem_map.1 hr
        exact .inr hacc.1
    exact ⟨ht.update h le_rfl hrows hnodup, _,
      h.update (o := none) nofun nofun (fun _ _ _ _ => nofun) le_rfl hrows
        fun _ => hacc.2.2.2.mono False.elim False.elim⟩
  | createTestTable name =>
    cases hex
    exact acceptInv_keep ht h _ rfl [] nofun (List.append_nil _).symm fun _ => hacc.mono False.elim id
  | insertTestData name columns values =>
    simp only [execute] at hex
    split_ifs at hex
    cases hex
    exact acceptInv_keep ht h _ rfl _ (by simp) rfl fun _ => hacc.mono False.elim id
  | insertAdvertiser rows =>
    simp only [execute] at hex
    split_ifs at hex <;> cases hex <;>
      exact acceptInv_keep ht h _ rfl [] nofun (List.append_nil _).symm fun _ => hacc.mono False.elim id

/-- **Step lemma for a worker**: what a running worker does next keeps the invariant. -/
theorem runAction_acceptInv {db : Database} {workers : List Worker} {own : Nat → Option Nat}
    (ht : EventTable db) (h : Owners db workers own) {i : Nat} {w : Worker} {a : Action}
    {rest : List Action}
    (hacc : Accepts (own i = some w.conn.lastRowId) (own i = some w.lastReceivedPacket) (a :: rest)) :
    EventTable (runAction db { w with program := rest } a).1 ∧
      ∃ own', Owners (runAction db { w with program := rest } a).1
        (workers.set i (runAction db { w with program := rest } a).2) own' := by
  cases a with
  | raise e => exact acceptInv_keep ht h _ rfl [] nofun (List.append_nil _).symm nofun
  | readLastRowId => exact acceptInv_keep ht h _ rfl [] nofun (List.append_nil _).symm fun _ => hacc
  | execute statement =>
    simp only [runAction]
    split
    · next db' conn hex => exact execute_acceptInv ht h hacc hex
    · exact acceptInv_keep ht h _ rfl [] nofun (List.append_nil _).symm nofun

/-- **Step lemma**: every event keeps the invariant. -/
theorem acceptInv_step {s s' : Storage} (h : AcceptInv s) {e : Event} (he : step s e = some s') :
    AcceptInv s' := by
  obtain ⟨ht, own, ho⟩ := h
  rcases step_cases he with ⟨hdb, hws, -⟩ | ⟨i, w, m, -, -, -, hdb, hws, -⟩ |
    ⟨i, w, a, rest, hw, hs, hp, hdb, hws, -⟩
  · exact ⟨hdb ▸ ht, own, hdb ▸ hws ▸ ho⟩
  · obtain ⟨ht', own', ho'⟩ :=
      acceptInv_keep ht ho { w with program := mapMessage m } rfl []
        nofun (List.append_nil _).symm fun _ => (accepts_mapMessage m).mono False.elim False.elim
    exact ⟨hdb ▸ ht', own', hdb ▸ hws ▸ ho'⟩
  · have hacc := ho.workers i w hw hs
    rw [hp] at hacc
    obtain ⟨ht', own', ho'⟩ := runAction_acceptInv ht ho hacc
    exact ⟨hdb ▸ ht', own', hdb ▸ hws ▸ ho'⟩

theorem acceptInv_init {db : Database} (h : EventTable db) (nWorkers : Nat) :
    AcceptInv (init db nWorkers) :=
  ⟨h, fun _ => none, nofun, nofun, nofun, fun _ w hw _ => by
    rw [List.eq_of_mem_replicate (List.getElem?_mem hw)]
    trivial⟩

theorem acceptInv_of_reachable {db : Database} {nWorkers : Nat} {s : Storage}
    (h : Reachable db nWorkers s) (hdb : EventTable db) : AcceptInv s := by
  induction h with
  | init => exact acceptInv_init hdb nWorkers
  | step _ he ih => exact acceptInv_step ih he

/-- **Only `TestData_ID_*` inserts are ever rejected.** In every interleaving of any number
of workers, the next statement of a running worker is accepted unless it inserts into a
`TestData_ID_*` table: in particular the unique index of `diagnostic_event` never rejects an
event. It rests on `lastrowid` belonging to the connection, and on the database the run
starts from keeping the index, with its events below the counter. -/
theorem execute_ok_of_reachable {db : Database} {nWorkers : Nat} {s : Storage}
    (h : Reachable db nWorkers s) (hdb : EventTable db) {w : Worker} (hw : w ∈ s.workers)
    (hs : w.stopped = none) {statement : Statement} {rest : List Action}
    (hp : w.program = .execute statement :: rest)
    (ht : ∀ name columns values, statement ≠ .insertTestData name columns values) :
    ∃ r, execute s.db w.conn w.lastReceivedPacket statement = .ok r := by
  obtain ⟨htab, own, ho⟩ := acceptInv_of_reachable h hdb
  obtain ⟨i, hi⟩ := List.mem_iff_getElem?.1 hw
  have hacc := ho.workers i w hi hs
  rw [hp] at hacc
  cases statement with
  | insertDiagnostics table rows => exact ⟨_, if_neg hacc.2.1⟩
  | insertEvents events =>
    obtain ⟨hloc, hne, hnodup, -⟩ := hacc
    exact ⟨_, by rw [execute, if_neg hne, if_pos (eventKeys_insertEvents htab.unique
      (ho.fresh i _ hloc) hnodup)]⟩
  | insertTestData name columns values => exact absurd rfl (ht name columns values)
  | insertAdvertiser rows => by_cases hr : rows = [] <;> simp [execute, hr]
  | insertReceivedPacket | createTestTable => exact ⟨_, rfl⟩

/-- One worker stores a neighbor message on an empty database: its insert into
`diagnostic_neighbor` comes next, and is accepted. -/
theorem execute_ok_of_reachable_oneNeighbor : EventTable Database.empty ∧
    ∃ s, Reachable Database.empty 1 s ∧ ∃ w ∈ s.workers, ∃ table rows rest,
      w.stopped = none ∧ w.program = .execute (.insertDiagnostics table rows) :: rest ∧
      ∃ r, execute s.db w.conn w.lastReceivedPacket (.insertDiagnostics table rows) = .ok r := by
  have hdb : EventTable Database.empty := ⟨nofun, List.nodup_nil⟩
  obtain ⟨s, hs, hp⟩ := exists_reachable_of_run Database.empty 1 [.put oneNeighbor, .take 0, .act 0]
    (fun s => s.workers.any fun w => w.stopped.isNone && match w.program with
      | .execute (.insertDiagnostics ..) :: _ => true
      | _ => false) (by decide)
  simp only [List.any_eq_true, Bool.and_eq_true, Option.isNone_iff_eq_none] at hp
  obtain ⟨w, hw, hstop, hprog⟩ := hp
  split at hprog
  · next table rows rest hp =>
    exact ⟨hdb, s, hs, w, hw, table, rows, rest, hstop, hp,
      execute_ok_of_reachable hs hdb hw hstop hp nofun⟩
  · cases hprog

/-! ## `TestData_ID_*` inserts

`put_testnw_measurements` creates the table of each row just before it inserts the row, and no
statement drops a table. An insert into a `TestData_ID_*` table is therefore rejected exactly
when its row is wrong: no data field, a `number_of_fields` of 0 or above the 30 columns of the
table, or a number of data fields other than `number_of_fields`. -/

/-- Each `TestData_ID_*` insert of the actions `p` is into a table that exists by then, given
which tables exist now (`made`). -/
def TablesMade (made : String → Prop) : List Action → Prop
  | [] => True
  | .raise _ :: _ => True
  | .execute (.createTestTable name) :: p => TablesMade (fun n => n = name ∨ made n) p
  | .execute (.insertTestData name _ _) :: p => made name ∧ TablesMade made p
  | _ :: p => TablesMade made p

theorem TablesMade.mono {p : List Action} :
    ∀ {made made' : String → Prop}, (∀ n, made n → made' n) → TablesMade made p →
      TablesMade made' p := by
  induction p with
  | nil => intros; trivial
  | cons a p ih =>
    intro made made' hm h
    rcases a with ((_ | _ | _ | _ | _ | _) | _ | _)
    · exact ih hm h
    · exact ih hm h
    · exact ih hm h
    · exact ih (fun n => Or.imp_right (hm n)) h
    · exact ⟨hm _ h.1, ih hm h.2⟩
    · exact ih hm h
    · exact ih hm h
    · trivial

theorem tablesMade_orRaise {α : Type} {made : String → Prop} (r : Result α)
    {next : α → List Action} (h : ∀ a, TablesMade made (next a)) :
    TablesMade made (orRaise r next) := by
  cases r with
  | ok a => exact h a
  | _ => trivial

theorem tablesMade_testRows (f : PacketFields) (t : TestNWFields) :
    ∀ (rows : List Nat) {made : String → Prop}, TablesMade made (testRows f t rows)
  | [], _ => trivial
  | _ :: rows, _ => tablesMade_orRaise _ fun _ => tablesMade_orRaise _ fun _ =>
      ⟨.inl rfl, tablesMade_testRows f t rows⟩

/-- Every call of `_map_message` creates each `TestData_ID_*` table before it inserts into it. -/
theorem tablesMade_mapMessage (m : StoredMessage) {made : String → Prop} :
    TablesMade made (mapMessage m) := by
  cases m with
  | advertiser m =>
    unfold mapMessage
    exact tablesMade_orRaise _ fun _ => trivial
  | neighborDiagnostics f neighbor =>
    show TablesMade made (_ :: _)
    split
    · trivial
    · split_ifs
      · trivial
      · exact tablesMade_orRaise _ fun _ => trivial
  | nodeDiagnostics f apdu =>
    exact tablesMade_orRaise _ fun _ => tablesMade_orRaise _ fun _ => by split_ifs <;> trivial
  | testNW f t => exact tablesMade_testRows f t _
  | bootDiagnostics | trafficDiagnostics => exact tablesMade_orRaise _ fun _ => trivial
  | generic | other => trivial

/-- A statement the server accepts adds the table it creates, and no other. -/
theorem mem_testTables_execute {db db' : Database} {conn conn' : Connection} {loc : Nat}
    {statement : Statement} (h : execute db conn loc statement = .ok (db', conn')) (n : String) :
    n ∈ db'.testTables ↔ n ∈ db.testTables ∨ statement = .createTestTable n := by
  cases statement with
  | createTestTable name =>
    cases h
    by_cases hn : name ∈ db.testTables
    · simp only [if_pos hn, Statement.createTestTable.injEq]
      exact ⟨.inl, fun h => h.elim id fun e => e ▸ hn⟩
    · simp [if_neg hn, eq_comm]
  | insertReceivedPacket => cases h; simp
  | insertDiagnostics | insertEvents | insertTestData =>
    simp only [execute] at h
    split_ifs at h
    cases h
    simp
  | insertAdvertiser =>
    simp only [execute] at h
    split_ifs at h <;> cases h <;> simp

/-- **Step lemma for a worker**: what a running worker does keeps the tables, and its next
inserts still find theirs. -/
theorem runAction_tablesMade {db : Database} {w : Worker} {a : Action} {rest : List Action}
    (h : TablesMade (· ∈ db.testTables) (a :: rest)) :
    (∀ n ∈ db.testTables, n ∈ (runAction db { w with program := rest } a).1.testTables) ∧
      ((runAction db { w with program := rest } a).2.stopped = none →
        TablesMade (· ∈ (runAction db { w with program := rest } a).1.testTables)
          (runAction db { w with program := rest } a).2.program) := by
  cases a with
  | raise e => exact ⟨fun _ hn => hn, nofun⟩
  | readLastRowId => exact ⟨fun _ hn => hn, fun _ => h⟩
  | execute statement =>
    simp only [runAction]
    split
    · next db' conn hex =>
      have ht := mem_testTables_execute hex
      refine ⟨fun n hn => (ht n).2 (.inl hn), fun _ => ?_⟩
      cases statement with
      | createTestTable name =>
        exact TablesMade.mono (fun n hn => (ht n).2 (hn.elim (fun e => .inr (e ▸ rfl)) .inl)) h
      | insertTestData => exact h.2.mono fun n hn => (ht n).2 (.inl hn)
      | _ => exact TablesMade.mono (fun n hn => (ht n).2 (.inl hn)) h
    · exact ⟨fun _ hn => hn, nofun⟩

/-- Every running worker's next `TestData_ID_*` inserts find their tables. -/
def TablesInv (s : Storage) : Prop :=
  ∀ w ∈ s.workers, w.stopped = none → TablesMade (· ∈ s.db.testTables) w.program

/-- **Step lemma**: every event keeps the tables' invariant. -/
theorem tablesInv_step {s s' : Storage} (h : TablesInv s) {e : Event} (he : step s e = some s') :
    TablesInv s' := by
  intro w' hw' hs'
  rcases step_cases he with ⟨hdb, hws, -⟩ | ⟨i, w, m, -, -, -, hdb, hws, -⟩ |
    ⟨i, w, a, rest, hw, hs, hp, hdb, hws, -⟩ <;> rw [hws] at hw' <;> rw [hdb]
  · exact h w' hw' hs'
  · rcases List.mem_or_eq_of_mem_set hw' with hw' | rfl
    · exact h w' hw' hs'
    · exact tablesMade_mapMessage m
  · have hr := h w (List.getElem?_mem hw) hs
    rw [hp] at hr
    obtain ⟨hgrow, hworker⟩ := runAction_tablesMade (w := w) hr
    rcases List.mem_or_eq_of_mem_set hw' with hw' | rfl
    · exact (h w' hw' hs').mono hgrow
    · exact hworker hs'

theorem tablesInv_of_reachable {db : Database} {nWorkers : Nat} {s : Storage}
    (h : Reachable db nWorkers s) : TablesInv s := by
  induction h with
  | init => exact fun w hw _ => by rw [List.eq_of_mem_replicate hw]; trivial
  | step _ he ih => exact tablesInv_step ih he

/-- **Which `TestData_ID_*` inserts are rejected.** In every interleaving, from any database,
a running worker's insert into a `TestData_ID_*` table is accepted exactly when its
`number_of_fields` is between 1 and the 30 columns of the table and its row has that many
values after the first four: the table always exists, since the call created it just before. -/
theorem insertTestData_ok_iff_of_reachable {db : Database} {nWorkers : Nat} {s : Storage}
    (h : Reachable db nWorkers s) {w : Worker} (hw : w ∈ s.workers) (hs : w.stopped = none)
    {name : String} {columns : Nat} {values : List ℚ} {rest : List Action}
    (hp : w.program = .execute (.insertTestData name columns values) :: rest) :
    (∃ r, execute s.db w.conn w.lastReceivedPacket (.insertTestData name columns values) = .ok r) ↔
      0 < columns ∧ columns ≤ defaultColumnCount ∧ values.length = 4 + columns := by
  have hname : name ∈ s.db.testTables := by
    have hr := tablesInv_of_reachable h w hw hs
    rw [hp] at hr
    exact hr.1
  simp only [execute, hname, not_true_eq_false, if_false, defaultColumnCount]
  split_ifs <;> simp <;> omega

/-- A `TestNWMessage` with one row of two data fields, for the table `TestData_ID_7`. -/
def oneTestRow : StoredMessage :=
  .testNW ⟨0, 0, 0, 0, 5, 1, 1, 0, [], none⟩ ⟨1, [7], [2], [[10, 20]], [0]⟩

/-- One worker stores a test row on an empty database: its insert into `TestData_ID_7` comes
next. -/
theorem insertTestData_ok_iff_of_reachable_oneTestRow :
    ∃ s, Reachable Database.empty 1 s ∧ ∃ w ∈ s.workers, ∃ name columns values rest,
      w.stopped = none ∧ w.program = .execute (.insertTestData name columns values) :: rest ∧
      ((∃ r, execute s.db w.conn w.lastReceivedPacket (.insertTestData name columns values) =
        .ok r) ↔ 0 < columns ∧ columns ≤ defaultColumnCount ∧ values.length = 4 + columns) := by
  obtain ⟨s, hs, hp⟩ := exists_reachable_of_run Database.empty 1
    [.put oneTestRow, .take 0, .act 0, .act 0]
    (fun s => s.workers.any fun w => w.stopped.isNone && match w.program with
      | .execute (.insertTestData ..) :: _ => true
      | _ => false) (by decide)
  simp only [List.any_eq_true, Bool.and_eq_true, Option.isNone_iff_eq_none] at hp
  obtain ⟨w, hw, hstop, hprog⟩ := hp
  split at hprog
  · next name columns values rest hp =>
    exact ⟨s, hs, w, hw, name, columns, values, rest, hstop, hp,
      insertTestData_ok_iff_of_reachable hs hw hstop hp⟩
  · cases hprog

end MySQLObserver

end BackendClient
