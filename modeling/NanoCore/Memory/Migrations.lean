import NanoCore.Foundation.KeyedTable
import NanoCore.Foundation.PythonText
import NanoCore.Foundation.Transactions

namespace NanoCore.Memory.Migrations

open NanoCore.Foundation.Effects
open NanoCore.Foundation.KeyedTable
open NanoCore.Foundation.PythonText
open NanoCore.Foundation.Transactions

/-- A row of `PRAGMA table_info`. -/
structure Column where
  name : String
  notnull : Bool
  deriving DecidableEq, Repr

/-- A row, with nulls for the columns that its table lacks. -/
structure TimerRow where
  id : Int
  kind : Option String := none
  label : Text
  dueAt : Option Int
  createdAt : Int
  durationSeconds : Option Int := none
  deriving DecidableEq, Repr

structure TimerTable where
  columns : List Column
  rows : Table Int TimerRow TimerRow.id
  indexes : List String
  deriving DecidableEq

structure Tables where
  schemaMigrations : Option (List Int)
  timer : Option TimerTable
  timerNew : Option TimerTable
  deriving DecidableEq

inductive SqlError where
  | tableExists (name : String)
  | noSuchTable (name : String)
  | noSuchColumn (name : String)
  | duplicateColumn (name : String)
  | indexExists (name : String)
  | uniqueFailed (column : String)
  deriving DecidableEq, Repr

def TimerTable.columnNames (table : TimerTable) : List String := table.columns.map Column.name

/-- The first of the columns that the table lacks. -/
def TimerTable.requireColumns (table : TimerTable) (names : List String) : Except SqlError Unit :=
  match names.find? fun name => name ∉ table.columnNames with
  | some name => .error (.noSuchColumn name)
  | none => .ok ()

def requireTable (name : String) (table : Option TimerTable) : Except SqlError TimerTable :=
  match table with
  | some table => .ok table
  | none => .error (.noSuchTable name)

def createVersionTable (db : Tables) : Except SqlError Tables :=
  .ok { db with schemaMigrations := some (db.schemaMigrations.getD []) }

def selectMaxVersion (db : Tables) : Except SqlError (Option Int) :=
  match db.schemaMigrations with
  | none => .error (.noSuchTable "schema_migrations")
  | some versions => .ok versions.max?

def insertVersion (version : Int) (db : Tables) : Except SqlError Tables :=
  match db.schemaMigrations with
  | none => .error (.noSuchTable "schema_migrations")
  | some versions =>
      if version ∈ versions then .error (.uniqueFailed "schema_migrations.version")
      else .ok { db with schemaMigrations := some (versions ++ [version]) }

/-- No columns for a table that does not exist. -/
def tableInfoTimer (db : Tables) : Except SqlError (List Column) :=
  .ok (db.timer.elim [] TimerTable.columns)

def newTimerTable : TimerTable where
  columns := [⟨"id", false⟩, ⟨"kind", true⟩, ⟨"label", true⟩, ⟨"due_at", false⟩,
    ⟨"created_at", true⟩]
  rows := .empty
  indexes := []

def createTimerNew (db : Tables) : Except SqlError Tables :=
  if db.timerNew.isSome then .error (.tableExists "timer_new")
  else .ok { db with timerNew := some newTimerTable }

/-- `SELECT id, 'countdown', label, due_at, created_at`. -/
def asCountdown (row : TimerRow) : TimerRow where
  id := row.id
  kind := some "countdown"
  label := row.label
  dueAt := row.dueAt
  createdAt := row.createdAt

def insertAll (rows : Table Int TimerRow TimerRow.id) (new : List TimerRow) :
    Except SqlError (Table Int TimerRow TimerRow.id) :=
  if hunique : ((rows.rows ++ new).map TimerRow.id).Nodup then .ok ⟨rows.rows ++ new, hunique⟩
  else .error (.uniqueFailed "timer_new.id")

def copyTimers (db : Tables) : Except SqlError Tables := do
  let timerNew ← requireTable "timer_new" db.timerNew
  let timer ← requireTable "timer" db.timer
  timer.requireColumns ["id", "label", "due_at", "created_at"]
  let rows ← insertAll timerNew.rows (timer.rows.rows.map asCountdown)
  return { db with timerNew := some { timerNew with rows } }

def dropTimer (db : Tables) : Except SqlError Tables := do
  let _ ← requireTable "timer" db.timer
  return { db with timer := none }

def renameTimerNew (db : Tables) : Except SqlError Tables := do
  let timerNew ← requireTable "timer_new" db.timerNew
  if db.timer.isSome then .error (.tableExists "timer")
  else return { db with timer := some timerNew, timerNew := none }

def createTimerIndex (name column : String) (db : Tables) : Except SqlError Tables := do
  let timer ← requireTable "timer" db.timer
  if name ∈ timer.indexes ++ db.timerNew.elim [] TimerTable.indexes then
    .error (.indexExists name)
  else
    timer.requireColumns [column]
    return { db with timer := some { timer with indexes := timer.indexes ++ [name] } }

def addDurationSeconds (db : Tables) : Except SqlError Tables := do
  let timer ← requireTable "timer" db.timer
  if "duration_seconds" ∈ timer.columnNames then .error (.duplicateColumn "duration_seconds")
  else
    return { db with
      timer := some { timer with columns := timer.columns ++ [⟨"duration_seconds", false⟩] } }

section Migrations

-- `CAST((julianday(due_at) - julianday(created_at)) * 86400 AS INTEGER)`
variable (elapsed : Int → Int → Option Int)

/-- `MAX` of two arguments is null if one of them is. -/
def withDuration (row : TimerRow) : TimerRow :=
  match row.dueAt with
  | none => row
  | some dueAt =>
      if row.kind = some "countdown" ∧ (row.durationSeconds = none ∨ row.durationSeconds = some 0)
      then { row with durationSeconds := (elapsed dueAt row.createdAt).map (max 1) }
      else row

theorem withDuration_id (row : TimerRow) : (withDuration elapsed row).id = row.id := by
  unfold withDuration
  split
  · rfl
  · split <;> rfl

def mapRows (f : TimerRow → TimerRow) (hf : ∀ row, (f row).id = row.id)
    (rows : Table Int TimerRow TimerRow.id) : Table Int TimerRow TimerRow.id where
  rows := rows.rows.map f
  keys_nodup := by
    have hids : (rows.rows.map f).map TimerRow.id = rows.rows.map TimerRow.id := by
      rw [List.map_map]
      exact List.map_congr_left fun row _ => hf row
    rw [hids]
    exact rows.keys_nodup

def updateDurations (db : Tables) : Except SqlError Tables := do
  let timer ← requireTable "timer" db.timer
  timer.requireColumns ["kind", "due_at", "created_at", "duration_seconds"]
  return { db with
    timer := some
      { timer with rows := mapRows (withDuration elapsed) (withDuration_id elapsed) timer.rows } }

def sqlitePrefix : Text := "sqlite:///".toList

def sqlitePath (databaseUrl : Text) : Option Text :=
  if sqlitePrefix.isPrefixOf databaseUrl then some (databaseUrl.drop sqlitePrefix.length) else none

variable (databaseUrl : Text)

def migrateTimerStopwatch : Session Tables SqlError Unit :=
  if (sqlitePath databaseUrl).isNone then pure ()
  else do
    let rows ← Session.query tableInfoTimer
    let columnNames := rows.map Column.name
    let dueAtNullable := rows.any fun row => row.name = "due_at" ∧ row.notnull = false
    if rows = [] ∨ ("kind" ∈ columnNames ∧ dueAtNullable) then pure ()
    else do
      Session.define createTimerNew
      Session.modify copyTimers
      Session.define dropTimer
      Session.define renameTimerNew
      Session.define (createTimerIndex "ix_timer_kind" "kind")
      Session.define (createTimerIndex "ix_timer_due_at" "due_at")

def migrateTimerDurationSeconds : Session Tables SqlError Unit :=
  if (sqlitePath databaseUrl).isNone then pure ()
  else do
    let rows ← Session.query tableInfoTimer
    if rows = [] then pure ()
    else do
      Effect.onlyIf ("duration_seconds" ∉ rows.map Column.name)
        (Session.define addDurationSeconds)
      Session.modify (updateDurations elapsed)

/-- `run_migrations` within its transaction. -/
def migrations : Session Tables SqlError Unit := do
  Session.define createVersionTable
  let currentVersion ← Session.query selectMaxVersion
  let version := currentVersion.getD 0
  Effect.onlyIf (version < 1) do
    migrateTimerStopwatch databaseUrl
    Session.modify (insertVersion 1)
  let version := if version < 1 then 1 else version
  Effect.onlyIf (version < 2) do
    migrateTimerDurationSeconds elapsed databaseUrl
    Session.modify (insertVersion 2)

def runMigrations (db : Tables) : Outcome Tables SqlError :=
  runSession (migrations elapsed databaseUrl) db

/-- A database as it was before the migrations: its timer table has no kinds, and
every timer is due at some time. -/
structure Legacy (db : Tables) (table : TimerTable) : Prop where
  timer : db.timer = some table
  columns : ∀ name ∈ ["id", "label", "due_at", "created_at"], name ∈ table.columnNames
  kind : "kind" ∉ table.columnNames
  dueAt : ∀ column ∈ table.columns, column.name = "due_at" → column.notnull = true
  unversioned : db.schemaMigrations.getD [] = []
  timerNew : db.timerNew = none

structure Migrated (rows : List TimerRow) (db : Tables) : Prop where
  table : ∃ table, db.timer = some table ∧ "kind" ∈ table.columnNames ∧
    ⟨"due_at", false⟩ ∈ table.columns ∧ "duration_seconds" ∈ table.columnNames ∧
    ∀ row ∈ rows, ∃ row' ∈ table.rows, row'.id = row.id ∧ row'.label = row.label ∧
      row'.dueAt = row.dueAt ∧ row'.createdAt = row.createdAt

/-- The next run of the migrations completes and keeps the rows, and another one
changes nothing. -/
structure Survives (rows : List TimerRow) (left : Tables) : Prop where
  completes : (runMigrations elapsed databaseUrl left).result = .ok ()
  migrated : Migrated rows (runMigrations elapsed databaseUrl left).file
  again : (runMigrations elapsed databaseUrl (runMigrations elapsed databaseUrl left).file).result =
    .ok ()
  unchanged : (runMigrations elapsed databaseUrl
    (runMigrations elapsed databaseUrl left).file).file =
      (runMigrations elapsed databaseUrl left).file

/-- A legacy database with the table of versions, which is empty yet. -/
def versioned (table : TimerTable) : Tables := ⟨some [], some table, none⟩

/-- A legacy database in which a migration has made the new table and no more. -/
def started (table : TimerTable) : Tables := ⟨some [], some table, some newTimerTable⟩

def copied (table : TimerTable) : Table Int TimerRow TimerRow.id :=
  mapRows asCountdown (fun _ => rfl) table.rows

def migratedTable (table : TimerTable) : TimerTable where
  columns := newTimerTable.columns ++ [⟨"duration_seconds", false⟩]
  rows := mapRows (withDuration elapsed) (withDuration_id elapsed) (copied table)
  indexes := ["ix_timer_kind", "ix_timer_due_at"]

def migratedTables (table : TimerTable) : Tables where
  schemaMigrations := some [1, 2]
  timer := some (migratedTable elapsed table)
  timerNew := none

variable {elapsed databaseUrl} {db : Tables} {table : TimerTable}

theorem requireColumns_of_forall {names : List String}
    (h : ∀ name ∈ names, name ∈ table.columnNames) : table.requireColumns names = .ok () := by
  have hnone : (names.find? fun name => name ∉ table.columnNames) = none := by
    rw [List.find?_eq_none]
    intro name hname
    simpa using h name hname
  rw [TimerTable.requireColumns, hnone]

theorem insertAll_copied (table : TimerTable) :
    insertAll .empty (table.rows.rows.map asCountdown) = .ok (copied table) :=
  dif_pos (copied table).keys_nodup

theorem Legacy.versioned (h : Legacy db table) : Legacy (versioned table) table where
  timer := rfl
  columns := h.columns
  kind := h.kind
  dueAt := h.dueAt
  unversioned := rfl
  timerNew := rfl

theorem Legacy.needsRebuild (h : Legacy db table) :
    ¬ (table.columns = [] ∨ ("kind" ∈ table.columns.map Column.name ∧
      (table.columns.any fun row => row.name = "due_at" ∧ row.notnull = false) = true)) := by
  rintro (hempty | ⟨hkind, -⟩)
  · have hid := h.columns "id" List.mem_cons_self
    rw [TimerTable.columnNames, hempty] at hid
    exact absurd hid List.not_mem_nil
  · exact h.kind hkind

theorem createVersionTable_legacy (h : Legacy db table) :
    createVersionTable db = .ok (versioned table) := by
  obtain ⟨schemaMigrations, timer, timerNew⟩ := db
  obtain rfl : timer = some table := h.timer
  obtain rfl : timerNew = none := h.timerNew
  have hversions : schemaMigrations.getD [] = [] := h.unversioned
  rw [createVersionTable, hversions]
  rfl

theorem copyTimers_started (h : Legacy db table) :
    copyTimers (started table) =
      .ok ⟨some [], some table, some { newTimerTable with rows := copied table }⟩ := by
  have hinsert := insertAll_copied table
  simp only [copyTimers, started, requireTable, bind, Except.bind,
    requireColumns_of_forall h.columns, newTimerTable, hinsert]
  rfl

/-- The timer table after the first migration. -/
def rebuiltTable (table : TimerTable) : TimerTable :=
  { newTimerTable with rows := copied table, indexes := ["ix_timer_kind", "ix_timer_due_at"] }

/-- The first migration does all in a transaction but the making of the new
table. -/
theorem migrateTimerStopwatch_legacy (hurl : (sqlitePath databaseUrl).isNone = false)
    (h : Legacy db table) (held : List Tables) :
    migrateTimerStopwatch databaseUrl ⟨versioned table, versioned table, false, held⟩ =
      (⟨started table, ⟨some [], some (rebuiltTable table), none⟩, true,
        List.replicate 6 (started table) ++ versioned table :: held⟩, .ok ()) := by
  have hkind := h.needsRebuild
  have hinfo : tableInfoTimer (versioned table) = .ok table.columns := rfl
  have hcreate : createTimerNew (versioned table) = .ok (started table) := rfl
  rw [migrateTimerStopwatch, hurl, if_neg Bool.false_ne_true, Session.query_bind hinfo,
    if_neg hkind, Session.define_bind hcreate, Session.modify_bind (copyTimers_started h)]
  rfl

theorem migrateTimerStopwatch_started (hurl : (sqlitePath databaseUrl).isNone = false)
    (h : Legacy db table) (held : List Tables) :
    migrateTimerStopwatch databaseUrl ⟨started table, started table, false, held⟩ =
      (⟨started table, started table, false, started table :: started table :: held⟩,
        .error (.tableExists "timer_new")) := by
  have hinfo : tableInfoTimer (started table) = .ok table.columns := rfl
  rw [migrateTimerStopwatch, hurl, if_neg Bool.false_ne_true, Session.query_bind hinfo,
    if_neg h.needsRebuild]
  exact Session.define_bind_of_error rfl

theorem migrateTimerDurationSeconds_rebuilt (hurl : (sqlitePath databaseUrl).isNone = false)
    (committed : Tables) (versions : List Int) (held : List Tables) :
    migrateTimerDurationSeconds elapsed databaseUrl
        ⟨committed, ⟨some versions, some (rebuiltTable table), none⟩, true, held⟩ =
      (⟨committed, ⟨some versions, some (migratedTable elapsed table), none⟩, true,
        List.replicate 3 committed ++ held⟩, .ok ()) := by
  rw [migrateTimerDurationSeconds, hurl, if_neg Bool.false_ne_true]
  rfl

theorem runMigrations_legacy (hurl : (sqlitePath databaseUrl).isNone = false)
    (h : Legacy db table) :
    runMigrations elapsed databaseUrl db =
      ⟨migratedTables elapsed table, .ok (),
        db :: List.replicate 3 (versioned table) ++ List.replicate 11 (started table) ++
          [migratedTables elapsed table]⟩ := by
  have hfirst (held : List Tables) :
      (do
        migrateTimerStopwatch databaseUrl
        Session.modify (insertVersion 1) : Session Tables SqlError Unit)
        ⟨versioned table, versioned table, false, held⟩ =
      (⟨started table, ⟨some [1], some (rebuiltTable table), none⟩, true,
        List.replicate 7 (started table) ++ versioned table :: held⟩, .ok ()) :=
    Effect.bind_of_ok (migrateTimerStopwatch_legacy hurl h held)
  have hsecond (held : List Tables) :
      (do
        migrateTimerDurationSeconds elapsed databaseUrl
        Session.modify (insertVersion 2) : Session Tables SqlError Unit)
        ⟨started table, ⟨some [1], some (rebuiltTable table), none⟩, true, held⟩ =
      (⟨started table, migratedTables elapsed table, true,
        List.replicate 4 (started table) ++ held⟩, .ok ()) :=
    Effect.bind_of_ok (migrateTimerDurationSeconds_rebuilt hurl (started table) [1] held)
  have hrun : migrations elapsed databaseUrl (.opened db) =
      (⟨started table, migratedTables elapsed table, true,
        List.replicate 11 (started table) ++ List.replicate 3 (versioned table) ++ [db]⟩,
          .ok ()) := by
    rw [migrations, Session.define_bind (createVersionTable_legacy h)]
    refine (Session.query_bind (a := none) rfl).trans ?_
    exact (Effect.bind_of_ok (hfirst [versioned table, versioned table, db])).trans (hsecond _)
  rw [runMigrations, runSession, hrun]
  rfl

/-- The new table of an interrupted migration is in the way of the next one. -/
theorem runMigrations_started (hurl : (sqlitePath databaseUrl).isNone = false)
    (h : Legacy db table) :
    (runMigrations elapsed databaseUrl (started table)).result =
      .error (.tableExists "timer_new") := by
  have hfirst (held : List Tables) :
      (do
        migrateTimerStopwatch databaseUrl
        Session.modify (insertVersion 1) : Session Tables SqlError Unit)
        ⟨started table, started table, false, held⟩ =
      (⟨started table, started table, false, started table :: started table :: held⟩,
        .error (.tableExists "timer_new")) :=
    Effect.bind_of_error (migrateTimerStopwatch_started hurl h held)
  have hrun : migrations elapsed databaseUrl (.opened (started table)) =
      (⟨started table, started table, false, List.replicate 5 (started table)⟩,
        .error (.tableExists "timer_new")) := by
    have hcreate : createVersionTable (started table) = .ok (started table) := rfl
    rw [migrations, Session.define_bind hcreate]
    refine (Session.query_bind (a := none) rfl).trans ?_
    exact Effect.bind_of_error (hfirst [started table, started table, started table])
  rw [runMigrations, runSession, hrun]

theorem runMigrations_migrated :
    runMigrations elapsed databaseUrl (migratedTables elapsed table) =
      ⟨migratedTables elapsed table, .ok (),
        List.replicate 4 (migratedTables elapsed table)⟩ := rfl

theorem withDuration_fields (row : TimerRow) :
    (withDuration elapsed row).label = row.label ∧ (withDuration elapsed row).dueAt = row.dueAt ∧
      (withDuration elapsed row).createdAt = row.createdAt := by
  unfold withDuration
  split
  · exact ⟨rfl, rfl, rfl⟩
  · split <;> exact ⟨rfl, rfl, rfl⟩

theorem migrated_migratedTables (table : TimerTable) :
    Migrated table.rows.rows (migratedTables elapsed table) := by
  have hnames : (migratedTable elapsed table).columnNames =
      ["id", "kind", "label", "due_at", "created_at", "duration_seconds"] := rfl
  refine ⟨migratedTable elapsed table, rfl, ?_, ?_, ?_, fun row hrow => ?_⟩
  · rw [hnames]
    decide
  · simp [migratedTable, newTimerTable]
  · rw [hnames]
    decide
  · exact ⟨withDuration elapsed (asCountdown row),
      List.mem_map_of_mem (List.mem_map_of_mem hrow), withDuration_id elapsed (asCountdown row),
      withDuration_fields (asCountdown row)⟩

theorem survives_legacy (hurl : (sqlitePath databaseUrl).isNone = false) (h : Legacy db table) :
    Survives elapsed databaseUrl table.rows.rows db := by
  have hrun : runMigrations elapsed databaseUrl db = _ := runMigrations_legacy hurl h
  constructor
  · rw [hrun]
  · rw [hrun]
    exact migrated_migratedTables table
  · rw [hrun, runMigrations_migrated]
  · rw [hrun, runMigrations_migrated]

theorem survives_migrated :
    Survives elapsed databaseUrl table.rows.rows (migratedTables elapsed table) where
  completes := rfl
  migrated := migrated_migratedTables table
  again := rfl
  unchanged := rfl

theorem not_survives_started (hurl : (sqlitePath databaseUrl).isNone = false)
    (h : Legacy db table) :
    ¬ Survives elapsed databaseUrl table.rows.rows (started table) := by
  intro hsurvives
  have hresult := hsurvives.completes
  rw [runMigrations_started hurl h] at hresult
  cases hresult

/-- Steps of a run on a legacy database up to the statement before the creation
of the new table, and up to the commit. -/
def stepsBeforeNewTable : Nat := 3

def stepsToCommit : Nat := 15

/-- An interruption between the creation of the new table and the commit is all
that the next run does not survive. -/
theorem survives_iff (hurl : sqlitePath databaseUrl ≠ none) (h : Legacy db table) {k : Nat}
    {left : Tables}
    (hleft : (runMigrations elapsed databaseUrl db).interruptions[k]? = some left) :
    Survives elapsed databaseUrl table.rows.rows left ↔
      k ≤ stepsBeforeNewTable ∨ stepsToCommit ≤ k := by
  have hsqlite : (sqlitePath databaseUrl).isNone = false := by
    rwa [Option.isNone_eq_false_iff, Option.isSome_iff_ne_none]
  rw [runMigrations_legacy hsqlite h] at hleft
  rcases k with _ | k
  · obtain rfl : db = left := Option.some.inj hleft
    exact iff_of_true (survives_legacy hsqlite h) (Or.inl (Nat.zero_le _))
  rw [List.cons_append, List.cons_append, List.getElem?_cons_succ, List.getElem?_append,
    List.getElem?_append, List.length_append, List.length_replicate, List.length_replicate] at hleft
  by_cases hbefore : k < 3
  · rw [if_pos (by omega), if_pos hbefore, List.getElem?_replicate, if_pos hbefore] at hleft
    obtain rfl := Option.some.inj hleft
    exact iff_of_true (survives_legacy hsqlite h.versioned) (Or.inl (Nat.succ_le_of_lt hbefore))
  by_cases hduring : k < 14
  · rw [if_pos hduring, if_neg hbefore, List.getElem?_replicate, if_pos (by omega)] at hleft
    obtain rfl := Option.some.inj hleft
    refine iff_of_false (not_survives_started hsqlite h) ?_
    unfold stepsBeforeNewTable stepsToCommit
    omega
  · rw [if_neg hduring, List.getElem?_singleton] at hleft
    split at hleft
    · obtain rfl := Option.some.inj hleft
      refine iff_of_true survives_migrated (Or.inr ?_)
      unfold stepsToCommit
      omega
    · cases hleft

/-- A database of the first version, with one timer. -/
def legacyTable : TimerTable where
  columns := [⟨"id", false⟩, ⟨"label", true⟩, ⟨"due_at", true⟩, ⟨"created_at", true⟩]
  rows := ⟨[{ id := 1, label := "Tea".toList, dueAt := some 60000000, createdAt := 0 }],
    List.nodup_singleton _⟩
  indexes := ["ix_timer_due_at"]

def legacyTables : Tables := ⟨none, some legacyTable, none⟩

theorem legacy_legacyTables : Legacy legacyTables legacyTable where
  timer := rfl
  columns := by simp [legacyTable, TimerTable.columnNames]
  kind := by simp [legacyTable, TimerTable.columnNames]
  dueAt := by simp [legacyTable]
  unversioned := rfl
  timerNew := rfl

theorem survives_iff_second_statement :
    Survives (fun dueAt createdAt => some ((dueAt - createdAt) / 1000000))
        "sqlite:///./nano.db".toList legacyTable.rows.rows (versioned legacyTable) ↔
      2 ≤ stepsBeforeNewTable ∨ stepsToCommit ≤ 2 :=
  survives_iff (by decide) legacy_legacyTables (by decide +kernel)

/-- The process stops after the creation of the new table. -/
theorem not_survives_after_create :
    ¬ ∀ (elapsed : Int → Int → Option Int) (databaseUrl : Text) (db : Tables)
      (table : TimerTable) (k : Nat) (left : Tables), sqlitePath databaseUrl ≠ none →
      Legacy db table →
      (runMigrations elapsed databaseUrl db).interruptions[k]? = some left →
      Survives elapsed databaseUrl table.rows.rows left := by
  intro h
  have hcompletes := (h (fun dueAt createdAt => some ((dueAt - createdAt) / 1000000))
    "sqlite:///./nano.db".toList legacyTables legacyTable 4 (started legacyTable) (by decide)
    legacy_legacyTables (by decide +kernel)).completes
  exact absurd hcompletes (by decide +kernel)

end Migrations

end NanoCore.Memory.Migrations
