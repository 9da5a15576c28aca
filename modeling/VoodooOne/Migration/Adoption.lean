import VoodooOne.Checkpoint.Manifest
import VoodooOne.Evidence.Chain
import VoodooOne.Library.Sorting
import VoodooOne.Library.Transaction

/-!
# Adoption of migrations

The runner succeeds on a database whose history is a prefix of the known migrations, and leaves
every other database as it was.
-/

namespace VoodooOne.Migration

structure SQLiteMigration where
  version : Nat
  (name checksum sql : String)
deriving DecidableEq, Repr

/-- A `DatabaseMigrationError`. -/
def migrationError (message : String) : Raised := ⟨.databaseMigrationError, message⟩

/-- The version of a full match of `MIGRATION_PATTERN`. -/
def migrationVersion? (name : String) : Option Nat :=
  let digits := name.toList.take 4
  let rest := name.toList.drop 4
  let body := rest.tail.take (rest.tail.length - 4)
  if digits.length = 4 ∧ digits.all Char.isDigit ∧ rest.head? = some '_' ∧ body ≠ [] ∧
      (body.all fun character => character.isLower || character.isDigit || character == '_') ∧
      rest.tail.drop (rest.tail.length - 4) = ".sql".toList then
    some (Nat.ofDigitChars 10 digits 0)
  else none

/-- The migration of a file, given its name and its text. -/
def loadMigration (sha256 : Sha256) (file : String × String) : Except Raised SQLiteMigration := do
  let version ← orRaise (migrationError ("invalid SQLite migration filename: " ++ file.1))
    (migrationVersion? file.1)
  raiseIf (strip file.2 = "") (migrationError ("SQLite migration is empty: " ++ file.1))
  return ⟨version, file.1, sha256.hexdigest file.2, file.2⟩

def checkContiguous : Nat → List SQLiteMigration → Except Raised Unit
  | _, [] => .ok ()
  | expected, migration :: migrations => do
      raiseIf (migration.version ≠ expected) (migrationError
        ("SQLite migration sequence must be contiguous at version " ++ toString expected))
      checkContiguous (expected + 1) migrations

/-- `load_sqlite_migrations` of the files of a directory. -/
def loadSqliteMigrations (sha256 : Sha256) (files : List (String × String)) :
    Except Raised (List SQLiteMigration) := do
  let scripts := (files.filter fun file => ".sql".toList <:+ file.1.toList).insertionSort
    fun left right => left.1 ≤ right.1
  let migrations ← scripts.mapM (loadMigration sha256)
  raiseIf (migrations = []) (migrationError "no SQLite migrations were found")
  checkContiguous 1 migrations
  return migrations

/-- `str.splitlines` with the endings kept. -/
def splitLines : List Char → List (List Char)
  | [] => []
  | '\r' :: '\n' :: text => ['\r', '\n'] :: splitLines text
  | character :: text =>
      if Checkpoint.isLineBreak character then [character] :: splitLines text
      else match splitLines text with
        | [] => [[character]]
        | line :: lines => (character :: line) :: lines

/-- The loop of `iter_sqlite_statements`: the statements, and whether nothing is left over. -/
def statementsOf (completeStatement : String → Bool) :
    List Char → List (List Char) → List String × Bool
  | buffer, [] => ([], strip (String.ofList buffer) = "")
  | buffer, line :: lines =>
      let candidate := String.ofList (buffer ++ line)
      if completeStatement candidate then
        let (statements, whole) := statementsOf completeStatement [] lines
        (if strip candidate = "" then statements else strip candidate :: statements, whole)
      else statementsOf completeStatement (buffer ++ line) lines

/-- SQLite, on what a database holds besides the history of its migrations and its user version. -/
structure Sqlite (σ : Type) where
  /-- `sqlite3.complete_statement`. -/
  completeStatement : String → Bool
  /-- The effect of a statement, `none` for a `sqlite3.Error`. -/
  execute : String → σ → Option σ
  /-- The columns of `PRAGMA table_info`. -/
  tableColumns : σ → String → List String
  (indexNames triggerNames : σ → List String)
  /-- The first row of `PRAGMA integrity_check`. -/
  integrityCheck : σ → Option String

/-- `REQUIRED_SCHEMA`, `REQUIRED_INDEXES` and `REQUIRED_TRIGGERS`. -/
structure SchemaRequirements where
  tables : List (String × List String)
  (indexes triggers : List String)

namespace Sqlite

variable {σ : Type} (sqlite : Sqlite σ)

/-- The statements of a migration, one after the other. -/
def executeScript (sql : String) (contents : σ) : Except Raised σ := do
  let (statements, whole) := statementsOf sqlite.completeStatement [] (splitLines sql.toList)
  let next ← statements.foldlM (fun contents statement =>
    orRaise (migrationError "SQLite migration execution failed")
      (sqlite.execute statement contents))
    contents
  raiseIf (whole = false) (migrationError "SQLite migration contains an incomplete statement")
  return next

def executeScripts (migrations : List SQLiteMigration) (contents : σ) : Except Raised σ :=
  migrations.foldlM (fun contents migration => sqlite.executeScript migration.sql contents) contents

def validateSchema (requirements : SchemaRequirements) (contents : σ) : Except Raised Unit := do
  forEach (fun (table : String × List String) =>
    raiseIf (¬(sqlite.tableColumns contents table.1 ⊆ table.2 ∧
        table.2 ⊆ sqlite.tableColumns contents table.1))
      (migrationError ("SQLite schema validation failed for " ++ table.1))) requirements.tables
  raiseIf (¬requirements.indexes ⊆ sqlite.indexNames contents)
    (migrationError "SQLite schema validation failed: missing indexes")
  raiseIf (¬requirements.triggers ⊆ sqlite.triggerNames contents)
    (migrationError "SQLite schema validation failed: missing triggers")
  raiseIf (sqlite.integrityCheck contents ≠ some "ok")
    (migrationError "SQLite integrity check failed")

end Sqlite

/-- A row of `schema_migrations`. -/
structure HistoryRow where
  version : Int
  (name checksum appliedAt : String)
deriving DecidableEq, Repr

/-- A database: the rows of `schema_migrations` if there is the table, the user version, and what
else it holds. -/
structure MigrationDatabase (σ : Type) where
  history : Option (List HistoryRow)
  userVersion : Int
  contents : σ

/-- The history that is read, ordered by version. -/
def applied (rows : List HistoryRow) : List HistoryRow :=
  rows.insertionSort fun left right => left.version ≤ right.version

/-- The version of the last applied migration. -/
def recordedVersion (rows : List HistoryRow) : Int := (rows.getLast?.map (·.version)).getD 0

abbrev Records (row : HistoryRow) (migration : SQLiteMigration) : Prop :=
  row.version = migration.version ∧ row.name = migration.name ∧ row.checksum = migration.checksum

def checkHistory : List HistoryRow → List SQLiteMigration → Except Raised Unit
  | row :: rows, expected :: migrations => do
      raiseIf (row.version ≠ expected.version)
        (migrationError "SQLite migration history is not a valid prefix")
      raiseIf (row.name ≠ expected.name ∨ row.checksum ≠ expected.checksum) (migrationError
        ("SQLite migration history drift detected at version " ++ toString expected.version))
      checkHistory rows migrations
  | _, _ => .ok ()

/-- `INSERT INTO schema_migrations`, under its keys and its column check. -/
def insertHistory (row : HistoryRow) (rows : List HistoryRow) :
    Except Raised (List HistoryRow) := do
  raiseIf (¬((∀ other ∈ rows, other.version ≠ row.version ∧ other.name ≠ row.name) ∧
    row.checksum.length = 64)) (migrationError "SQLite migration execution failed")
  return rows ++ [row]

section Run

variable {σ : Type} (sqlite : Sqlite σ) (clock : SQLiteMigration → String)

def historyRow (migration : SQLiteMigration) : HistoryRow :=
  ⟨migration.version, migration.name, migration.checksum, clock migration⟩

/-- The loop over the migrations that remain. -/
def migrate : List SQLiteMigration → List HistoryRow → Int → σ → Except Raised (MigrationDatabase σ)
  | [], rows, userVersion, contents => .ok ⟨some rows, userVersion, contents⟩
  | migration :: migrations, rows, _, contents => do
      let next ← sqlite.executeScript migration.sql contents
      let recorded ← insertHistory (historyRow clock migration) rows
      migrate migrations recorded migration.version next

/-- The transaction of `initialize`. -/
def initializeDatabase (sha256 : Sha256) (requirements : SchemaRequirements)
    (files : List (String × String)) (db : MigrationDatabase σ) :
    Except Raised (Unit × MigrationDatabase σ) := do
  let migrations ← loadSqliteMigrations sha256 files
  raiseIf (db.history = none ∧ db.userVersion ≠ 0)
    (migrationError "SQLite user_version is set but migration history is missing")
  let rows := db.history.getD []
  raiseIf (db.history ≠ none ∧ db.userVersion ≠ recordedVersion (applied rows))
    (migrationError "SQLite user_version does not match migration history")
  raiseIf (migrations.length < (applied rows).length)
    (migrationError "database schema is newer than this application")
  checkHistory (applied rows) migrations
  let next ← migrate sqlite clock (migrations.drop (applied rows).length) rows db.userVersion
    db.contents
  sqlite.validateSchema requirements next.contents
  return ((), next)

end Run

theorem checkContiguous_eq_ok {expected : Nat} {migrations : List SQLiteMigration} :
    checkContiguous expected migrations = .ok () ↔
      migrations.map (·.version) = List.range' expected migrations.length := by
  induction migrations generalizing expected with
  | nil => simp [checkContiguous]
  | cons migration migrations induction =>
      simp only [checkContiguous, bind_eq_ok, raiseIf_eq_ok, not_not, induction, List.map_cons,
        List.length_cons, List.range'_succ, List.cons.injEq, exists_const]

/-- Known migrations: numbered from one on, under different names, with digests of their texts. -/
structure Known (migrations : List SQLiteMigration) : Prop where
  nonempty : migrations ≠ []
  versions : migrations.map (·.version) = List.range' 1 migrations.length
  names : (migrations.map (·.name)).Nodup
  checksums : ∀ migration ∈ migrations, migration.checksum.length = 64

theorem exists_of_mapM {ε α β : Type} {read : α → Except ε β} {items : List α} {found : List β}
    (reads : items.mapM read = .ok found) : ∀ value ∈ found, ∃ item, read item = .ok value := by
  induction items generalizing found with
  | nil =>
      rw [List.mapM_nil, pure_eq_ok] at reads
      exact reads ▸ List.forall_mem_nil _
  | cons item items induction =>
      simp only [List.mapM_cons, bind_eq_ok, pure_eq_ok] at reads
      obtain ⟨value, first, values, later, rfl⟩ := reads
      exact List.forall_mem_cons.mpr ⟨⟨item, first⟩, induction later⟩

theorem known_of_load {sha256 : Sha256} {files : List (String × String)}
    {migrations : List SQLiteMigration}
    (loaded : loadSqliteMigrations sha256 files = .ok migrations) : Known migrations := by
  simp only [loadSqliteMigrations, bind_eq_ok, raiseIf_eq_ok, pure_eq_ok] at loaded
  obtain ⟨found, reads, _, nonempty, _, contiguous, rfl⟩ := loaded
  have each : ∀ migration ∈ found, migrationVersion? migration.name = some migration.version ∧
      migration.checksum.length = 64 := by
    intro migration member
    obtain ⟨file, read⟩ := exists_of_mapM reads migration member
    simp only [loadMigration, bind_eq_ok, orRaise_eq_ok, raiseIf_eq_ok, pure_eq_ok] at read
    obtain ⟨version, named, _, _, rfl⟩ := read
    exact ⟨named, (sha256.isDigest _).1⟩
  have versions := checkContiguous_eq_ok.mp contiguous
  refine ⟨nonempty, versions, ?_, fun migration member => (each migration member).2⟩
  have numbered : (found.map (·.name)).map migrationVersion? = (found.map (·.version)).map
    some := by
    rw [List.map_map, List.map_map]
    exact List.map_congr_left fun migration member => (each migration member).1
  have distinct : ((found.map (·.version)).map some).Nodup :=
    (versions ▸ List.nodup_range').map (Option.some_injective _)
  exact List.Nodup.of_map _ (numbered ▸ distinct)

theorem checkHistory_eq_ok {rows : List HistoryRow} {migrations : List SQLiteMigration}
    (short : rows.length ≤ migrations.length) : checkHistory rows migrations = .ok () ↔
      List.Forall₂ Records rows (migrations.take rows.length) := by
  induction rows generalizing migrations with
  | nil => simp [checkHistory]
  | cons row rows induction =>
      cases migrations with
      | nil => cases short
      | cons expected migrations =>
          simp only [checkHistory, bind_eq_ok, raiseIf_eq_ok, not_not, not_or, exists_const,
            List.length_cons, List.take_succ_cons, List.forall₂_cons,
            induction (Nat.le_of_succ_le_succ short), Records]
          tauto

section Run

variable {σ : Type} {sqlite : Sqlite σ} {clock : SQLiteMigration → String}

def lastVersion : Int → List SQLiteMigration → Int
  | userVersion, [] => userVersion
  | _, migration :: migrations => lastVersion migration.version migrations

theorem recordedVersion_append (rows : List HistoryRow) (migrations : List SQLiteMigration) :
    recordedVersion (rows ++ migrations.map (historyRow clock)) =
      lastVersion (recordedVersion rows) migrations := by
  induction migrations generalizing rows with
  | nil => rw [List.map_nil, List.append_nil, lastVersion]
  | cons migration migrations induction =>
      have last : recordedVersion (rows ++ [historyRow clock migration]) = migration.version := by
        rw [recordedVersion, List.getLast?_concat]
        rfl
      rw [List.map_cons, ← List.singleton_append, ← List.append_assoc, induction, last, lastVersion]

/-- New migrations are all recorded when their scripts succeed. -/
theorem migrate_eq_ok {migrations : List SQLiteMigration} {rows : List HistoryRow}
    {userVersion : Int} {contents : σ} {next : MigrationDatabase σ}
    (fresh : ∀ migration ∈ migrations, ∀ row ∈ rows,
      row.version ≠ migration.version ∧ row.name ≠ migration.name)
    (versions : (migrations.map (·.version)).Nodup) (names : (migrations.map (·.name)).Nodup)
    (checksums : ∀ migration ∈ migrations, migration.checksum.length = 64) :
    migrate sqlite clock migrations rows userVersion contents = .ok next ↔
      ∃ final, sqlite.executeScripts migrations contents = .ok final ∧
        next = ⟨some (rows ++ migrations.map (historyRow clock)),
          lastVersion userVersion migrations, final⟩ := by
  induction migrations generalizing rows userVersion contents with
  | nil =>
      simp only [migrate, Sqlite.executeScripts, List.foldlM_nil, pure_eq_ok, exists_eq_left',
        Except.ok.injEq, List.map_nil, List.append_nil]
      exact eq_comm
  | cons migration migrations induction =>
      rw [List.forall_mem_cons] at fresh checksums
      rw [List.map_cons, List.nodup_cons] at versions names
      have recorded : insertHistory (historyRow clock migration) rows =
          .ok (rows ++ [historyRow clock migration]) := by
        rw [insertHistory, raiseIf_of_not (not_not.mpr ⟨fresh.1, checksums.1⟩)]
        rfl
      have later : ∀ other ∈ migrations, ∀ row ∈ rows ++ [historyRow clock migration],
          row.version ≠ other.version ∧ row.name ≠ other.name := by
        intro other member row stored
        rcases List.mem_append.mp stored with old | new
        · exact fresh.2 other member row old
        · obtain rfl := List.mem_singleton.mp new
          refine ⟨fun same => versions.1 ?_, fun same => names.1 ?_⟩
          · exact Int.ofNat.inj same ▸ List.mem_map_of_mem member
          · have equal : migration.name = other.name := same
            exact equal ▸ List.mem_map_of_mem member
      have rest (middle : σ) :
          migrate sqlite clock migrations (rows ++ [historyRow clock migration]) migration.version
              middle = .ok next ↔
            ∃ final, sqlite.executeScripts migrations middle = .ok final ∧
              next = ⟨some (rows ++ [historyRow clock migration] ++
                migrations.map (historyRow clock)),
                lastVersion migration.version migrations, final⟩ :=
        induction later versions.2 names.2 checksums.2
      simp only [migrate, recorded, ok_bind, bind_eq_ok, rest, Sqlite.executeScripts,
        List.foldlM_cons, lastVersion, List.map_cons, List.append_assoc, List.singleton_append]
      constructor
      · rintro ⟨middle, first, final, scripts, rfl⟩
        exact ⟨final, ⟨middle, first, scripts⟩, rfl⟩
      · rintro ⟨final, ⟨middle, first, scripts⟩, rfl⟩
        exact ⟨middle, first, final, scripts, rfl⟩

/-- The checks of `_validate_schema` hold. -/
structure Valid (sqlite : Sqlite σ) (requirements : SchemaRequirements) (contents : σ) : Prop where
  tables : ∀ table ∈ requirements.tables, sqlite.tableColumns contents table.1 ⊆ table.2 ∧
    table.2 ⊆ sqlite.tableColumns contents table.1
  indexes : requirements.indexes ⊆ sqlite.indexNames contents
  triggers : requirements.triggers ⊆ sqlite.triggerNames contents
  integrity : sqlite.integrityCheck contents = some "ok"

theorem validateSchema_eq_ok {requirements : SchemaRequirements} {contents : σ} :
    sqlite.validateSchema requirements contents = .ok () ↔ Valid sqlite requirements contents := by
  simp only [Sqlite.validateSchema, bind_eq_ok, forEach_eq_ok, raiseIf_eq_ok, not_not, exists_const]
  constructor
  · rintro ⟨tables, indexes, triggers, integrity⟩
    exact ⟨tables, indexes, triggers, integrity⟩
  · intro valid
    exact ⟨valid.tables, valid.indexes, valid.triggers, valid.integrity⟩

/-- The rows of the history, none if there is no table. -/
def MigrationDatabase.rows (db : MigrationDatabase σ) : List HistoryRow := db.history.getD []

/-- The history records the first of the known migrations, and the user version agrees with it. -/
structure Consistent (done : List SQLiteMigration) (db : MigrationDatabase σ) : Prop where
  history : List.Forall₂ Records (applied db.rows) done
  userVersion : db.userVersion = recordedVersion (applied db.rows)

/-- The user version is checked against the history, whether or not its table is there. -/
theorem userVersion_checks {db : MigrationDatabase σ} : ¬(db.history = none ∧ db.userVersion ≠ 0) ∧
    ¬(db.history ≠ none ∧ db.userVersion ≠ recordedVersion (applied (db.history.getD []))) ↔
      db.userVersion = recordedVersion (applied db.rows) := by
  rw [MigrationDatabase.rows]
  cases db.history with
  | none => simp [applied, recordedVersion]
  | some rows => simp

theorem versions_of_records {rows : List HistoryRow} {migrations : List SQLiteMigration}
    (recorded : List.Forall₂ Records rows migrations) :
    rows.map (·.version) = migrations.map fun migration => (migration.version : Int) := by
  induction recorded with
  | nil => rfl
  | cons first _ induction => rw [List.map_cons, List.map_cons, first.1, induction]

theorem names_of_records {rows : List HistoryRow} {migrations : List SQLiteMigration}
    (recorded : List.Forall₂ Records rows migrations) :
    rows.map (·.name) = migrations.map (·.name) := by
  induction recorded with
  | nil => rfl
  | cons first _ induction => rw [List.map_cons, List.map_cons, first.2.1, induction]

theorem records_historyRows (migrations : List SQLiteMigration) :
    List.Forall₂ Records (migrations.map (historyRow clock)) migrations := by
  induction migrations with
  | nil => exact .nil
  | cons migration migrations induction => exact .cons ⟨rfl, rfl, rfl⟩ induction

theorem records_append {rows : List HistoryRow} {done : List SQLiteMigration}
    (recorded : List.Forall₂ Records rows done) (remaining : List SQLiteMigration) :
    List.Forall₂ Records (rows ++ remaining.map (historyRow clock)) (done ++ remaining) :=
  List.rel_append recorded (records_historyRows remaining)

theorem Known.strict {migrations : List SQLiteMigration} (known : Known migrations) :
    (migrations.map fun migration => (migration.version : Int)).Pairwise (· < ·) := by
  have naturals : (migrations.map (·.version)).Pairwise (· < ·) :=
    known.versions ▸ List.pairwise_lt_range'
  rw [List.pairwise_map] at naturals ⊢
  exact naturals.imp Int.ofNat_lt.mpr

theorem applied_append {rows : List HistoryRow} {done remaining : List SQLiteMigration}
    (known : Known (done ++ remaining)) (recorded : List.Forall₂ Records (applied rows) done) :
    applied (rows ++ remaining.map (historyRow clock)) =
      applied rows ++ remaining.map (historyRow clock) := by
  have perm : (rows ++ remaining.map (historyRow clock)).Perm
      (applied rows ++ remaining.map (historyRow clock)) :=
    (List.perm_insertionSort _ rows).symm.append_right _
  refine Sorting.insertionSort_eq_of_strict perm ?_
  rw [versions_of_records (records_append recorded remaining)]
  exact known.strict

theorem fresh_of_records {rows : List HistoryRow} {done remaining : List SQLiteMigration}
    (known : Known (done ++ remaining)) (recorded : List.Forall₂ Records (applied rows) done) :
    ∀ migration ∈ remaining, ∀ row ∈ rows,
      row.version ≠ migration.version ∧ row.name ≠ migration.name := by
  intro migration member row stored
  have found : row ∈ applied rows := (List.mem_insertionSort _).mpr stored
  have version : row.version ∈ done.map fun migration => (migration.version : Int) :=
    versions_of_records recorded ▸ List.mem_map_of_mem found
  have name : row.name ∈ done.map (·.name) := names_of_records recorded ▸ List.mem_map_of_mem found
  have versions := known.strict
  have names := known.names
  rw [List.map_append, List.pairwise_append] at versions
  rw [List.map_append, List.nodup_append] at names
  exact ⟨ne_of_lt (versions.2.2 _ version _ (List.mem_map_of_mem member)),
    names.2.2 _ name _ (List.mem_map_of_mem member)⟩

theorem migrate_remaining {done remaining : List SQLiteMigration} {db next : MigrationDatabase σ}
    (known : Known (done ++ remaining)) (consistent : Consistent done db) :
    migrate sqlite clock remaining db.rows db.userVersion db.contents = .ok next ↔
      ∃ final, sqlite.executeScripts remaining db.contents = .ok final ∧
        next = ⟨some (db.rows ++ remaining.map (historyRow clock)),
          lastVersion db.userVersion remaining, final⟩ := by
  have versions := known.strict
  have names := known.names
  rw [List.map_append, List.pairwise_append] at versions
  rw [List.map_append, List.nodup_append] at names
  refine migrate_eq_ok (fresh_of_records known consistent.history) ?_ names.2.1
    fun migration member => known.checksums migration (List.mem_append_right _ member)
  refine List.Nodup.of_map (fun version : Nat => (version : Int)) ?_
  rw [List.map_map]
  exact versions.2.1.imp ne_of_lt

theorem historyChecks {migrations : List SQLiteMigration} {db : MigrationDatabase σ} :
    (¬(db.history = none ∧ db.userVersion ≠ 0) ∧
      ¬(db.history ≠ none ∧ db.userVersion ≠ recordedVersion (applied db.rows)) ∧
      ¬migrations.length < (applied db.rows).length ∧
      checkHistory (applied db.rows) migrations = .ok ()) ↔
    ∃ done, done <+: migrations ∧ done.length = (applied db.rows).length ∧ Consistent done db := by
  rw [← and_assoc, MigrationDatabase.rows, userVersion_checks, not_lt]
  constructor
  · rintro ⟨userVersion, short, matching⟩
    exact ⟨migrations.take _, List.take_prefix _ _, List.length_take_of_le short,
      (checkHistory_eq_ok short).mp matching, userVersion⟩
  · rintro ⟨done, ⟨remaining, rfl⟩, counted, consistent⟩
    have short : (applied (db.history.getD [])).length ≤ (done ++ remaining).length := by
      rw [← counted, List.length_append]
      exact Nat.le_add_right _ _
    refine ⟨consistent.userVersion, short, (checkHistory_eq_ok short).mpr ?_⟩
    rw [← counted, List.take_left]
    exact consistent.history

theorem initializeDatabase_eq_ok {sha256 : Sha256} {requirements : SchemaRequirements}
    {files : List (String × String)} {db next : MigrationDatabase σ} :
    initializeDatabase sqlite clock sha256 requirements files db = .ok ((), next) ↔
      ∃ done remaining contents, loadSqliteMigrations sha256 files = .ok (done ++ remaining) ∧
        Consistent done db ∧ sqlite.executeScripts remaining db.contents = .ok contents ∧
        Valid sqlite requirements contents ∧
        next = ⟨some (db.rows ++ remaining.map (historyRow clock)),
          lastVersion db.userVersion remaining, contents⟩ := by
  simp only [initializeDatabase, bind_eq_ok, raiseIf_eq_ok, pure_eq_ok, exists_const,
    Prod.mk.injEq, true_and]
  constructor
  · rintro ⟨migrations, loaded, missing, version, short, _, matching, final, migrated, _, valid,
      rfl⟩
    obtain ⟨done, ⟨remaining, rfl⟩, counted, consistent⟩ :=
      historyChecks.mp ⟨missing, version, short, matching⟩
    have known := known_of_load loaded
    rw [← MigrationDatabase.rows, ← counted, List.drop_left] at migrated
    obtain ⟨contents, scripts, rfl⟩ := (migrate_remaining known consistent).mp migrated
    exact ⟨done, remaining, contents, loaded, consistent, scripts,
      validateSchema_eq_ok.mp valid, rfl⟩
  · rintro ⟨done, remaining, contents, loaded, consistent, scripts, valid, rfl⟩
    have known := known_of_load loaded
    have counted : done.length = (applied db.rows).length := consistent.history.length_eq.symm
    obtain ⟨missing, version, short, matching⟩ :=
      historyChecks.mpr ⟨done, List.prefix_append done remaining, counted, consistent⟩
    refine ⟨_, loaded, missing, version, short, (), matching, _, ?_, (),
      validateSchema_eq_ok.mpr valid, rfl⟩
    rw [← MigrationDatabase.rows, ← counted, List.drop_left]
    exact (migrate_remaining known consistent).mpr ⟨contents, scripts, rfl⟩

/-- The runner can bring the database to the known migrations: those that its history does not
record apply, and what they leave passes validation. -/
structure Adopts (sqlite : Sqlite σ) (sha256 : Sha256) (requirements : SchemaRequirements)
    (files : List (String × String)) (db : MigrationDatabase σ)
    (done remaining : List SQLiteMigration) (contents : σ) : Prop where
  known : loadSqliteMigrations sha256 files = .ok (done ++ remaining)
  consistent : Consistent done db
  scripts : sqlite.executeScripts remaining db.contents = .ok contents
  valid : Valid sqlite requirements contents

def MigrationDatabase.adopted (clock : SQLiteMigration → String) (db : MigrationDatabase σ)
    (remaining : List SQLiteMigration) (contents : σ) : MigrationDatabase σ :=
  ⟨some (db.rows ++ remaining.map (historyRow clock)), lastVersion db.userVersion remaining,
    contents⟩

variable {sha256 : Sha256} {requirements : SchemaRequirements} {files : List (String × String)}
  {db : MigrationDatabase σ} {done remaining : List SQLiteMigration} {contents : σ}

theorem Adopts.history
    (adopts : Adopts sqlite sha256 requirements files db done remaining contents) :
    Consistent (done ++ remaining) (db.adopted clock remaining contents) := by
  have recorded := adopts.consistent.history
  have read : applied (db.adopted clock remaining contents).rows =
      applied db.rows ++ remaining.map (historyRow clock) :=
    applied_append (known_of_load adopts.known) recorded
  refine ⟨read ▸ records_append recorded remaining, ?_⟩
  calc lastVersion db.userVersion remaining
      = lastVersion (recordedVersion (applied db.rows)) remaining := by
        rw [adopts.consistent.userVersion]
    _ = recordedVersion (applied db.rows ++ remaining.map (historyRow clock)) :=
        (recordedVersion_append _ _).symm
    _ = recordedVersion (applied (db.adopted clock remaining contents).rows) := by rw [read]

theorem Adopts.again (adopts : Adopts sqlite sha256 requirements files db done remaining contents) :
    Adopts sqlite sha256 requirements files (db.adopted clock remaining contents)
      (done ++ remaining) [] contents :=
  ⟨(List.append_nil _).symm ▸ adopts.known, adopts.history, rfl, adopts.valid⟩

theorem Adopts.commit (adopts : Adopts sqlite sha256 requirements files db done remaining contents)
    (clock : SQLiteMigration → String) :
    Transaction.commit (initializeDatabase sqlite clock sha256 requirements files) db =
      (.ok (), db.adopted clock remaining contents) :=
  Transaction.commit_of_ok (initializeDatabase_eq_ok.mpr ⟨done, remaining, contents, adopts.known,
    adopts.consistent, adopts.scripts, adopts.valid, rfl⟩)

theorem adopts_of_commit
    (ok : (Transaction.commit (initializeDatabase sqlite clock sha256 requirements files) db).1 =
      .ok ()) :
    ∃ done remaining contents, Adopts sqlite sha256 requirements files db done remaining
      contents := by
  unfold Transaction.commit at ok
  split at ok
  · next result next returned =>
      obtain ⟨done, remaining, contents, known, consistent, scripts, valid, -⟩ :=
        initializeDatabase_eq_ok.mp returned
      exact ⟨done, remaining, contents, known, consistent, scripts, valid⟩
  · cases ok

/-- The runner succeeds exactly when it can bring the database to the known migrations.  Then the
history records all of them, the user version agrees with it, and a later run changes nothing.
Otherwise it raises and the database is as before. -/
theorem initializeDatabase_adopts (sqlite : Sqlite σ) (clock : SQLiteMigration → String)
    (sha256 : Sha256) (requirements : SchemaRequirements) (files : List (String × String))
    (db : MigrationDatabase σ) :
    let outcome := Transaction.commit (initializeDatabase sqlite clock sha256 requirements files) db
    (outcome.1 = .ok () ↔ ∃ done remaining contents,
      Adopts sqlite sha256 requirements files db done remaining contents) ∧
    (∀ done remaining contents, Adopts sqlite sha256 requirements files db done remaining contents →
      outcome.2.contents = contents ∧ Consistent (done ++ remaining) outcome.2 ∧
        ∀ later, Transaction.commit (initializeDatabase sqlite later sha256 requirements files)
          outcome.2 = (.ok (), outcome.2)) ∧
    ((¬∃ done remaining contents, Adopts sqlite sha256 requirements files db done remaining
      contents) → ∃ error, outcome = (.error error, db)) := by
  refine ⟨⟨adopts_of_commit, ?_⟩, ?_, ?_⟩
  · rintro ⟨done, remaining, contents, adopts⟩
    rw [adopts.commit]
  · intro done remaining contents adopts
    rw [adopts.commit]
    refine ⟨rfl, adopts.history, fun later => ?_⟩
    rw [adopts.again.commit]
    congr 1
    rw [MigrationDatabase.adopted, List.map_nil, List.append_nil]
    rfl
  · intro unable
    cases returned : initializeDatabase sqlite clock sha256 requirements files db with
    | error error => exact ⟨error, Transaction.commit_of_error returned⟩
    | ok result =>
        have ok : Transaction.commit (initializeDatabase sqlite clock sha256 requirements files) db
          = (.ok result.1, result.2) := Transaction.commit_of_ok returned
        exact absurd (adopts_of_commit (congrArg Prod.fst ok)) unable

end Run

namespace ChangedTable

/-- SQLite as far as a run without remaining migrations asks it, on tables with their columns. -/
def sqlite : Sqlite (List (String × List String)) where
  completeStatement text := text.toList.getLast? = some ';'
  execute _ tables := some tables
  tableColumns tables name := (tables.lookup name).getD []
  indexNames _ := []
  triggerNames _ := []
  integrityCheck _ := some "ok"

def requirements : SchemaRequirements := ⟨[("active_sessions", ["session_id", "user_id"])], [], []⟩

def sql : String := "CREATE TABLE active_sessions(session_id TEXT, user_id TEXT);"

def files : List (String × String) := [("0001_core_schema.sql", sql)]

def migration : SQLiteMigration := ⟨1, "0001_core_schema.sql", sampleDigest.hexdigest sql, sql⟩

/-- The migration is recorded, and the table has a column more than it should have. -/
def db : MigrationDatabase (List (String × List String)) :=
  ⟨some [⟨1, "0001_core_schema.sql", sampleDigest.hexdigest sql, "2026-01-01T00:00:00.000+00:00"⟩],
    1, [("active_sessions", ["session_id", "user_id", "note"])]⟩

theorem loaded : loadSqliteMigrations sampleDigest files = .ok ([migration] ++ []) := by
  have version : migrationVersion? "0001_core_schema.sql" = some 1 := by decide
  have text : strip sql ≠ "" := by decide
  have read : loadMigration sampleDigest ("0001_core_schema.sql", sql) = .ok migration := by
    rw [loadMigration, version, raiseIf_of_not text]
    rfl
  simp only [loadSqliteMigrations, bind_eq_ok, raiseIf_eq_ok, pure_eq_ok]
  refine ⟨[migration], ?_, (), List.cons_ne_nil _ _, (), checkContiguous_eq_ok.mpr rfl, rfl⟩
  have scripts : files.filter (fun file => ".sql".toList <:+ file.1.toList) = files := by decide
  rw [scripts]
  change [("0001_core_schema.sql", sql)].mapM (loadMigration sampleDigest) = _
  rw [List.mapM_cons, read]
  rfl

theorem consistent : Consistent [migration] db := ⟨.cons ⟨rfl, rfl, rfl⟩ .nil, rfl⟩

theorem invalid : ¬Valid sqlite requirements db.contents := by
  intro valid
  have columns : sqlite.tableColumns db.contents "active_sessions" =
    ["session_id", "user_id", "note"] := by decide
  have covered := (valid.tables _ (List.mem_singleton_self _)).1
  rw [columns] at covered
  have known : "note" ∈ ["session_id", "user_id"] := covered (by decide)
  exact absurd known (by decide)

end ChangedTable

/-- A consistent history with nothing that remains is not enough. -/
theorem initializeDatabase_refuses : ¬∀ (sqlite : Sqlite (List (String × List String)))
    (clock : SQLiteMigration → String) (sha256 : Sha256) (requirements : SchemaRequirements)
    (files : List (String × String)) (db : MigrationDatabase (List (String × List String))),
    (Transaction.commit (initializeDatabase sqlite clock sha256 requirements files) db).1 = .ok () ↔
      ∃ done remaining contents, loadSqliteMigrations sha256 files = .ok (done ++ remaining) ∧
        Consistent done db ∧ sqlite.executeScripts remaining db.contents = .ok contents := by
  intro claimed
  have ok := (claimed ChangedTable.sqlite (fun _ => "") sampleDigest ChangedTable.requirements
    ChangedTable.files ChangedTable.db).mpr
      ⟨[ChangedTable.migration], [], _, ChangedTable.loaded, ChangedTable.consistent, rfl⟩
  obtain ⟨done, remaining, contents, adopts⟩ := adopts_of_commit ok
  have known := adopts.known
  rw [ChangedTable.loaded, Except.ok.injEq] at known
  have counted : 1 = done.length := adopts.consistent.history.length_eq
  have total := congrArg List.length known
  rw [List.length_append, List.length_append, ← counted] at total
  obtain rfl : remaining = [] := List.length_eq_zero_iff.mp (Nat.add_left_cancel total).symm
  obtain rfl : ChangedTable.db.contents = contents := Except.ok.inj adopts.scripts
  exact ChangedTable.invalid adopts.valid

end VoodooOne.Migration
