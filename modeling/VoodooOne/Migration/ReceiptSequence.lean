import VoodooOne.Evidence.ReceiptLedger
import VoodooOne.Library.LinkedRecords
import VoodooOne.Migration.Adoption

/-!
# Receipt sequence

Migration `0003_receipt_sequence` numbers the receipts in the order of their chain.  Its query
follows
the chain from the genesis hash on, and its constraints refuse everything that is not one chain.
-/

namespace VoodooOne.Migration

open LinkedRecords (successors Follows OneChain)

/-- A row of `receipts` of version 2; its text key may be NULL. -/
structure ReceiptRow where
  id : Option String
  (executionId payloadJson previousHash receiptHash createdAt : String)
deriving DecidableEq

/-- `receipts` of version 2, with its unique columns. -/
structure ReceiptRows where
  rows : List ReceiptRow
  ids : (rows.filterMap (·.id)).Nodup
  executions : (rows.map (·.executionId)).Nodup
  hashes : (rows.map (·.receiptHash)).Nodup

def ReceiptRow.ofRecord (record : ReceiptRecord) : ReceiptRow :=
  ⟨record.id, record.executionId, record.payloadJson, record.previousHash, record.receiptHash,
    record.createdAt⟩

/-- A row with a number, unless its key is NULL. -/
def ReceiptRow.record (sequence : Nat) (row : ReceiptRow) : Option ReceiptRecord :=
  row.id.map fun id => ⟨sequence, id, row.executionId, row.payloadJson, row.previousHash,
    row.receiptHash, row.createdAt⟩

abbrev following (rows : List ReceiptRow) (hash : String) : List ReceiptRow :=
  successors (·.previousHash) rows hash

/-- Each row is the only one that names the hash before it. -/
abbrev InChainOrder (rows : List ReceiptRow) (hash : String) (order : List ReceiptRow) : Prop :=
  Follows (·.previousHash) (·.receiptHash) rows hash order

/-- The exception of a statement that SQLite refuses. -/
def executionFailed : Raised := migrationError "SQLite migration execution failed"

/-- Receipts that differ in every unique column of `receipts_v3`. -/
def Apart (left right : ReceiptRecord) : Prop :=
  left.sequence ≠ right.sequence ∧ left.id ≠ right.id ∧ left.executionId ≠ right.executionId ∧
    left.receiptHash ≠ right.receiptHash

instance (left right : ReceiptRecord) : Decidable (Apart left right) :=
  inferInstanceAs (Decidable (_ ∧ _))

/-- A row of the query is inserted into `receipts_v3`. -/
def insertReceipt (executions : List String) (sequence : Nat) (row : ReceiptRow)
    (table : List ReceiptRecord) : Except Raised (List ReceiptRecord) := do
  let record ← orRaise executionFailed (row.record sequence)
  raiseIf (∃ other ∈ table, ¬Apart other record) executionFailed
  raiseIf (record.executionId ∉ executions) executionFailed
  return table ++ [record]

/-- The recursive query, whose rows are inserted one after the other. -/
def insertChain (executions : List String) (rows : List ReceiptRow) :
    Nat → List (Nat × ReceiptRow) → List ReceiptRecord → Except Raised (List ReceiptRecord)
  | _, [], table => .ok table
  -- there are no more rows, so the next one is in the table already
  | 0, _ :: _, _ => .error executionFailed
  | rest + 1, (sequence, row) :: queue, table => do
      let table ← insertReceipt executions sequence row table
      let next := (following rows row.receiptHash).map fun next => (sequence + 1, next)
      insertChain executions rows rest (queue ++ next) table

/-- `0003_receipt_sequence.sql`, on the executions and the receipts. -/
def receiptSequence (executions : List String) (rows : List ReceiptRow) :
    Except Raised (List ReceiptRecord) := do
  let first := (following rows genesis).map fun row => (1, row)
  let table ← insertChain executions rows rows.length first []
  raiseIf (rows.length ≠ table.length) executionFailed
  return table

variable {executions : List String} {rows order : List ReceiptRow} {row : ReceiptRow}
  {table final records : List ReceiptRecord} {sequence rest : Nat} {hash : String}

theorem insertReceipt_eq_ok : insertReceipt executions sequence row table = .ok final ↔
    ∃ record, row.record sequence = some record ∧ (∀ other ∈ table, Apart other record) ∧
      record.executionId ∈ executions ∧ final = table ++ [record] := by
  simp only [insertReceipt, bind_eq_ok, orRaise_eq_ok, raiseIf_eq_ok, not_exists, not_and, not_not,
    pure_eq_ok, exists_const]
  constructor
  · rintro ⟨record, isRecord, apart, known, rfl⟩
    exact ⟨record, isRecord, apart, known, rfl⟩
  · rintro ⟨record, isRecord, apart, known, rfl⟩
    exact ⟨record, isRecord, apart, known, rfl⟩

theorem record_eq_some {record : ReceiptRecord} : row.record sequence = some record ↔
    record.sequence = sequence ∧ .ofRecord record = row := by
  rw [ReceiptRow.record, Option.map_eq_some_iff]
  constructor
  · rintro ⟨id, isId, rfl⟩
    exact ⟨rfl, by rw [ReceiptRow.ofRecord, ← isId]⟩
  · rintro ⟨numbered, rfl⟩
    refine ⟨record.id, rfl, ?_⟩
    rw [← numbered]
    rfl

theorem insertChain_of_taken {queue : List (Nat × ReceiptRow)} (queued : (sequence, row) ∈ queue)
    (taken : ∃ other ∈ table, other.sequence = sequence) :
    ∃ error, insertChain executions rows rest queue table = .error error := by
  induction rest generalizing queue table with
  | zero =>
      cases queue with
      | nil => cases queued
      | cons _ _ => exact ⟨_, rfl⟩
  | succ rest induction =>
      cases queue with
      | nil => cases queued
      | cons head queue =>
          obtain ⟨number, first⟩ := head
          rw [insertChain]
          cases inserted : insertReceipt executions number first table with
          | error error => exact ⟨error, rfl⟩
          | ok next =>
              obtain ⟨record, isRecord, apart, -, rfl⟩ := insertReceipt_eq_ok.mp inserted
              obtain ⟨other, stored, same⟩ := taken
              rcases List.mem_cons.mp queued with here | later
              · obtain ⟨rfl, rfl⟩ := Prod.mk.inj here
                exact absurd (same.trans (record_eq_some.mp isRecord).1.symm) (apart other stored).1
              · exact induction (List.mem_append_left _ later)
                  ⟨other, List.mem_append_left _ stored, same⟩

theorem insertChain_of_repeated {queue : List (Nat × ReceiptRow)}
    (repeated : ¬(queue.map Prod.fst).Nodup) :
    ∃ error, insertChain executions rows rest queue table = .error error := by
  induction rest generalizing queue table with
  | zero =>
      cases queue with
      | nil => exact absurd List.nodup_nil repeated
      | cons _ _ => exact ⟨_, rfl⟩
  | succ rest induction =>
      cases queue with
      | nil => exact absurd List.nodup_nil repeated
      | cons head queue =>
          obtain ⟨number, first⟩ := head
          rw [insertChain]
          cases inserted : insertReceipt executions number first table with
          | error error => exact ⟨error, rfl⟩
          | ok next =>
              obtain ⟨record, isRecord, -, -, rfl⟩ := insertReceipt_eq_ok.mp inserted
              rw [List.map_cons, List.nodup_cons, not_and_or, not_not] at repeated
              rcases repeated with again | later
              · obtain ⟨entry, queued, rfl⟩ := List.mem_map.mp again
                exact insertChain_of_taken (List.mem_append_left _ queued)
                  ⟨record, List.mem_append_right _ (List.mem_singleton_self _),
                    (record_eq_some.mp isRecord).1⟩
              · refine induction fun distinct => later ?_
                rw [List.map_append] at distinct
                exact (List.nodup_append.mp distinct).1

/-- Rows in their order, under numbers that count up. -/
def insertAll (executions : List String) :
    Nat → List ReceiptRow → List ReceiptRecord → Except Raised (List ReceiptRecord)
  | _, [], table => .ok table
  | sequence, row :: order, table => do
      let table ← insertReceipt executions sequence row table
      insertAll executions (sequence + 1) order table

theorem insertChain_eq_ok :
    insertChain executions rows rest ((following rows hash).map fun row => (sequence, row)) table =
        .ok final ↔
      ∃ order, InChainOrder rows hash order ∧ order.length ≤ rest ∧
        insertAll executions sequence order table = .ok final := by
  induction rest generalizing hash sequence table with
  | zero =>
      constructor
      · intro inserted
        cases found : following rows hash with
        | nil =>
            rw [found] at inserted
            exact ⟨[], found, le_rfl, inserted⟩
        | cons row others =>
            rw [found] at inserted
            cases inserted
      · rintro ⟨order, follows, short, inserted⟩
        obtain rfl := List.length_eq_zero_iff.mp (Nat.le_zero.mp short)
        rw [show following rows hash = [] from follows]
        exact inserted
  | succ rest induction =>
      cases found : following rows hash with
      | nil =>
          constructor
          · intro inserted
            exact ⟨[], found, Nat.zero_le _, inserted⟩
          · rintro ⟨order, follows, -, inserted⟩
            cases order with
            | nil => exact inserted
            | cons row order => exact absurd (found.symm.trans follows.1) (by simp)
      | cons row others =>
          cases others with
          | nil =>
              simp only [List.map_cons, List.map_nil, insertChain, List.nil_append, bind_eq_ok,
                induction]
              constructor
              · rintro ⟨next, first, order, follows, short, inserted⟩
                refine ⟨row :: order, ⟨found, follows⟩, Nat.succ_le_succ short, ?_⟩
                rw [insertAll, first]
                exact inserted
              · rintro ⟨order, follows, short, inserted⟩
                cases order with
                | nil => exact absurd (found.symm.trans follows) (by simp)
                | cons first order =>
                    obtain ⟨only, later⟩ := follows
                    obtain rfl : row = first := List.singleton_injective (found.symm.trans only)
                    rw [insertAll, bind_eq_ok] at inserted
                    obtain ⟨next, first, inserted⟩ := inserted
                    exact ⟨next, first, order, later, Nat.le_of_succ_le_succ short, inserted⟩
          | cons other others =>
              have repeated : ¬(((row :: other :: others).map
                  fun row => (sequence, row)).map Prod.fst).Nodup := by simp
              constructor
              · intro inserted
                obtain ⟨error, raised⟩ : ∃ error, insertChain executions rows (rest + 1)
                    ((row :: other :: others).map fun row => (sequence, row)) table =
                      .error error :=
                  insertChain_of_repeated repeated
                rw [raised] at inserted
                cases inserted
              · rintro ⟨order, follows, -⟩
                cases order with
                | nil => exact absurd (found.symm.trans follows) (by simp)
                | cons first order => exact absurd (found.symm.trans follows.1) (by simp)

/-- Rows with numbers that count up, unless a key is NULL. -/
def number : Nat → List ReceiptRow → Option (List ReceiptRecord)
  | _, [] => some []
  | sequence, row :: order => do
      return (← row.record sequence) :: (← number (sequence + 1) order)

theorem number_eq_some : number sequence order = some records ↔
    ReceiptLedger.Numbered sequence records ∧ records.map .ofRecord = order := by
  induction order generalizing sequence records with
  | nil =>
      rw [number, Option.some.injEq, List.map_eq_nil_iff]
      constructor
      · rintro rfl
        exact ⟨trivial, rfl⟩
      · rintro ⟨-, rfl⟩
        rfl
  | cons row order induction =>
      simp only [number, bind, Option.bind_eq_some_iff, pure, Option.some.injEq, record_eq_some,
        induction]
      constructor
      · rintro ⟨record, ⟨numbered, rfl⟩, later, ⟨rest, rfl⟩, rfl⟩
        exact ⟨⟨numbered, rest⟩, rfl⟩
      · rintro ⟨numbered, same⟩
        cases records with
        | nil => cases same
        | cons record later =>
            obtain ⟨rfl, rfl⟩ := List.cons.inj same
            exact ⟨record, ⟨numbered.1, rfl⟩, later, ⟨numbered.2, rfl⟩, rfl⟩

theorem exists_number (keys : ∀ row ∈ order, row.id ≠ none) :
    ∃ records, number sequence order = some records := by
  induction order generalizing sequence with
  | nil => exact ⟨[], rfl⟩
  | cons row order induction =>
      obtain ⟨first, rest⟩ := List.forall_mem_cons.mp keys
      obtain ⟨id, isId⟩ := Option.ne_none_iff_exists'.mp first
      have later : ∃ records, number (sequence + 1) order = some records := induction rest
      obtain ⟨records, numbered⟩ := later
      exact ⟨_, by rw [number, numbered, ReceiptRow.record, isId]; rfl⟩

/-- Rows are inserted when they differ in every unique column and their executions are there. -/
theorem insertAll_eq_ok : insertAll executions sequence order table = .ok final ↔
    ∃ records, number sequence order = some records ∧
      (∀ record ∈ records, record.executionId ∈ executions) ∧ records.Pairwise Apart ∧
      (∀ other ∈ table, ∀ record ∈ records, Apart other record) ∧ final = table ++ records := by
  induction order generalizing sequence table with
  | nil =>
      simp only [insertAll, number, Except.ok.injEq, Option.some.injEq, exists_eq_left']
      constructor
      · rintro rfl
        exact ⟨List.forall_mem_nil _, .nil, fun _ _ => List.forall_mem_nil _,
          (List.append_nil _).symm⟩
      · rintro ⟨-, -, -, rfl⟩
        rw [List.append_nil]
  | cons row order induction =>
      simp only [insertAll, bind_eq_ok, insertReceipt_eq_ok, induction]
      simp only [number, bind, Option.bind_eq_some_iff, pure, Option.some.injEq]
      constructor
      · rintro ⟨_, ⟨record, isRecord, apart, known, rfl⟩, later, numbered, executions, pairwise,
          cross, rfl⟩
        refine ⟨record :: later, ⟨record, isRecord, later, numbered, rfl⟩,
          List.forall_mem_cons.mpr ⟨known, executions⟩, List.pairwise_cons.mpr ⟨?_, pairwise⟩,
          fun other stored => List.forall_mem_cons.mpr ⟨apart other stored, ?_⟩, ?_⟩
        · exact cross record (List.mem_append_right _ (List.mem_singleton_self _))
        · exact cross other (List.mem_append_left _ stored)
        · rw [List.append_assoc, List.singleton_append]
      · rintro ⟨_, ⟨record, isRecord, later, numbered, rfl⟩, executions, pairwise, cross, rfl⟩
        obtain ⟨known, executions⟩ := List.forall_mem_cons.mp executions
        obtain ⟨first, pairwise⟩ := List.pairwise_cons.mp pairwise
        refine ⟨_, ⟨record, isRecord, fun other stored => cross other stored record
          (List.mem_cons_self ..), known, rfl⟩, later, numbered, executions, pairwise,
          fun other stored => ?_, ?_⟩
        · rcases List.mem_append.mp stored with old | new
          · exact fun record member => cross other old record (List.mem_cons_of_mem _ member)
          · rw [List.mem_singleton.mp new]
            exact first
        · rw [List.append_assoc, List.singleton_append]

theorem nodup_sequences {expected : Nat} (numbered : ReceiptLedger.Numbered expected records) :
    (records.map (·.sequence)).Nodup := by
  rw [ReceiptLedger.numbered_iff.mp numbered]
  exact List.Nodup.map (fun _ _ => Int.ofNat.inj) List.nodup_range'

theorem pairwise_apart (sequences : (records.map (·.sequence)).Nodup)
    (ids : (records.map (·.id)).Nodup) (executions : (records.map (·.executionId)).Nodup)
    (hashes : (records.map (·.receiptHash)).Nodup) : records.Pairwise Apart := by
  rw [List.Nodup, List.pairwise_map] at sequences ids executions hashes
  exact (sequences.and (ids.and (executions.and hashes))).imp id

theorem nodup_of_apart {β : Type} {column : ReceiptRow → β}
    (differs : ∀ left right, Apart left right → column (.ofRecord left) ≠ column (.ofRecord right))
    (apart : records.Pairwise Apart) : ((records.map ReceiptRow.ofRecord).map column).Nodup := by
  rw [List.map_map, List.Nodup, List.pairwise_map]
  exact apart.imp (differs _ _)

theorem subperm_of_insertAll (follows : InChainOrder rows genesis order)
    (inserted : insertAll executions sequence order [] = .ok final) : order.Subperm rows := by
  obtain ⟨records, numbered, -, apart, -⟩ := insertAll_eq_ok.mp inserted
  obtain ⟨-, rfl⟩ := number_eq_some.mp numbered
  have distinct : (records.map ReceiptRow.ofRecord).Nodup :=
    (nodup_of_apart (fun _ _ apart => apart.2.2.2) apart).of_map (·.receiptHash)
  exact List.subperm_of_subset distinct fun row member => (follows.mem row member).1

/-- The migration succeeds exactly when all rows can be put in one order of their chain. -/
theorem receiptSequence_eq_ok (table : ReceiptRows) :
    receiptSequence executions table.rows = .ok records ↔
      ∃ order, InChainOrder table.rows genesis order ∧ order.Perm table.rows ∧
        number 1 order = some records ∧ ∀ row ∈ table.rows, row.executionId ∈ executions := by
  simp only [receiptSequence, bind_eq_ok, raiseIf_eq_ok, not_not, pure_eq_ok, exists_const,
    insertChain_eq_ok]
  constructor
  · rintro ⟨found, ⟨order, follows, -, inserted⟩, counted, rfl⟩
    have inside := subperm_of_insertAll follows inserted
    obtain ⟨_, numbered, known, -, -, rfl⟩ := insertAll_eq_ok.mp inserted
    obtain ⟨-, rfl⟩ := number_eq_some.mp numbered
    have perm : (found.map ReceiptRow.ofRecord).Perm table.rows := by
      refine inside.perm_of_length_le ?_
      rw [List.length_map, counted]
    refine ⟨_, follows, perm, numbered, fun row stored => ?_⟩
    obtain ⟨record, member, rfl⟩ := List.mem_map.mp (perm.mem_iff.mpr stored)
    exact known record member
  · rintro ⟨order, follows, perm, numbered, known⟩
    obtain ⟨counts, rfl⟩ := number_eq_some.mp numbered
    have counted : table.rows.length = records.length := by
      rw [← perm.length_eq, List.length_map]
    have keys : (records.map ReceiptRow.ofRecord).filterMap (·.id) = records.map (·.id) := by
      rw [List.filterMap_map]
      exact congrFun List.filterMap_eq_map records
    refine ⟨records, ⟨_, follows, by rw [List.length_map, counted],
      insertAll_eq_ok.mpr ⟨records, numbered, ?_, ?_, by simp, rfl⟩⟩, counted, rfl⟩
    · exact fun record member => known _ (perm.mem_iff.mp (List.mem_map_of_mem member))
    · have executions := (perm.map (·.executionId)).nodup_iff.mpr table.executions
      have hashes := (perm.map (·.receiptHash)).nodup_iff.mpr table.hashes
      have ids := (perm.filterMap (·.id)).nodup_iff.mpr table.ids
      rw [keys] at ids
      rw [List.map_map] at executions hashes
      exact pairwise_apart (nodup_sequences counts) ids executions hashes

structure Acceptable (executions : List String) (rows : List ReceiptRow) : Prop where
  chain : OneChain (·.previousHash) (·.receiptHash) rows genesis
  keys : ∀ row ∈ rows, row.id ≠ none
  executions : ∀ row ∈ rows, row.executionId ∈ executions

theorem receiptSequence_acceptable (executions : List String) (table : ReceiptRows) :
    (∃ records, receiptSequence executions table.rows = .ok records) ↔
      Acceptable executions table.rows := by
  simp only [receiptSequence_eq_ok]
  constructor
  · rintro ⟨records, order, follows, perm, numbered, known⟩
    refine ⟨(LinkedRecords.oneChain_iff table.hashes).mpr ⟨order, follows, perm⟩, ?_, known⟩
    obtain ⟨-, rfl⟩ := number_eq_some.mp numbered
    intro row stored
    obtain ⟨record, -, rfl⟩ := List.mem_map.mp (perm.mem_iff.mpr stored)
    exact Option.some_ne_none _
  · rintro ⟨chain, keys, known⟩
    obtain ⟨order, follows, perm⟩ := (LinkedRecords.oneChain_iff table.hashes).mp chain
    obtain ⟨records, numbered⟩ : ∃ records, number 1 order = some records :=
      exists_number fun row member => keys row (perm.mem_iff.mp member)
    exact ⟨records, order, follows, perm, numbered, known⟩

/-- The receipts of version 2, verified from hash to hash along their chain. -/
def walk (sha256 : Sha256) (floats : FloatRepr) (rows : List ReceiptRow) (count : Nat) :
    Nat → Nat → String → Except Raised ReceiptReport
  | 0, _, previousHash => .ok (.valid count previousHash)
  | rest + 1, position, previousHash =>
      match rows.find? (·.previousHash = previousHash) with
      | none => .ok (.valid count previousHash)
      | some row => do
          let payload ← orRaise jsonDecodeError (loads floats row.payloadJson)
          if row.receiptHash ≠ chainedHash sha256.hexdigest previousHash payload then
            return .broken count position position (row.id.getD "")
          else walk sha256 floats rows count rest (position + 1) row.receiptHash

theorem verifyRows_eq_walk (sha256 : Sha256) (floats : FloatRepr) (count : Nat)
    (follows : InChainOrder rows hash (records.map .ofRecord))
    (numbered : ReceiptLedger.Numbered sequence records) :
    ReceiptLedger.verifyRows sha256 floats count sequence hash records =
      walk sha256 floats rows count records.length sequence hash := by
  induction records generalizing hash sequence with
  | nil => rfl
  | cons record records induction =>
      obtain ⟨only, later⟩ := follows
      obtain ⟨number, numbered⟩ := numbered
      have found : rows.find? (·.previousHash = hash) = some (.ofRecord record) := by
        rw [← List.head?_filter]
        exact congrArg List.head? only
      have named : (ReceiptRow.ofRecord record).previousHash = hash := by
        simpa using List.find?_some found
      have same : record.previousHash = hash := named
      rw [ReceiptLedger.verifyRows, List.length_cons, walk, found]
      refine congrArg (orRaise jsonDecodeError (loads floats record.payloadJson) >>= ·) ?_
      funext payload
      simp only [number, same, ne_eq, not_true_eq_false, false_or]
      by_cases own : record.receiptHash = chainedHash sha256.hexdigest hash payload
      · exact (if_neg (not_not.mpr own)).trans
          ((induction later numbered).trans (if_neg (not_not.mpr own)).symm)
      · exact (if_pos own).trans (if_pos own).symm

theorem ordered_of_numbered (numbered : ReceiptLedger.Numbered sequence records) :
    ReceiptLedger.ordered records = records := by
  refine List.Pairwise.insertionSort_eq ?_
  have ascending : (records.map (·.sequence)).Pairwise (· ≤ ·) := by
    rw [ReceiptLedger.numbered_iff.mp numbered, List.pairwise_map]
    exact List.pairwise_le_range'.imp Int.ofNat_le.mpr
  exact List.pairwise_map.mp ascending

section Database

variable {σ : Type} {sqlite : Sqlite σ}

/-- Where a database holds its executions and receipts. -/
structure ReceiptStore (σ : Type) where
  executions : σ → List String
  receipts : σ → ReceiptRows
  replaced : List ReceiptRecord → σ → σ

/-- The script of the migration does to the receipts of a database what the model does. -/
def Performs (sqlite : Sqlite σ) (store : ReceiptStore σ) (migration : SQLiteMigration) : Prop :=
  ∀ contents next, sqlite.executeScript migration.sql contents = .ok next ↔
    ∃ records, receiptSequence (store.executions contents) (store.receipts contents).rows =
      .ok records ∧ next = store.replaced records contents

/-- The receipts of a database that holds nothing else. -/
structure ReceiptContents where
  executions : List String
  receipts : ReceiptRows
  numbered : Option (List ReceiptRecord)

def receiptStore : ReceiptStore ReceiptContents :=
  ⟨(·.executions), (·.receipts), fun records contents => { contents with numbered := some records }⟩

/-- SQLite as far as it runs the text of a migration as a whole. -/
def wholeScript (sql : String) : Sqlite ReceiptContents where
  completeStatement text := text = sql
  execute _ contents := do
    let records ← (receiptSequence contents.executions contents.receipts.rows).toOption
    return receiptStore.replaced records contents
  tableColumns _ _ := []
  indexNames _ := []
  triggerNames _ := []
  integrityCheck _ := some "ok"

theorem splitLines_spec (text : List Char) :
    (splitLines text).flatten = text ∧ ∀ line ∈ splitLines text, line ≠ [] := by
  fun_induction splitLines text with
  | case1 => exact ⟨rfl, List.forall_mem_nil _⟩
  | case2 text induction =>
      refine ⟨?_, List.forall_mem_cons.mpr ⟨by simp, induction.2⟩⟩
      rw [List.flatten_cons, induction.1]
      rfl
  | case3 character text _ _ induction =>
      refine ⟨?_, List.forall_mem_cons.mpr ⟨by simp, induction.2⟩⟩
      rw [List.flatten_cons, induction.1]
      rfl
  | case4 character text _ _ none induction =>
      rw [none] at induction
      refine ⟨?_, List.forall_mem_cons.mpr ⟨by simp, List.forall_mem_nil _⟩⟩
      rw [List.flatten_cons, ← induction.1]
      rfl
  | case5 character text _ _ line lines some_ induction =>
      rw [some_] at induction
      refine ⟨?_, List.forall_mem_cons.mpr ⟨by simp, (List.forall_mem_cons.mp induction.2).2⟩⟩
      rw [← induction.1]
      rfl

theorem statementsOf_whole {sql : String} (nonblank : strip sql ≠ "") {buffer : List Char}
    {lines : List (List Char)} (joined : buffer ++ lines.flatten = sql.toList)
    (nonempty : ∀ line ∈ lines, line ≠ []) (remaining : lines ≠ []) :
    statementsOf (fun text => text = sql) buffer lines = ([strip sql], true) := by
  induction lines generalizing buffer with
  | nil => exact absurd rfl remaining
  | cons line lines induction =>
      rw [List.flatten_cons, ← List.append_assoc] at joined
      obtain ⟨-, nonempty⟩ := List.forall_mem_cons.mp nonempty
      by_cases last : lines = []
      · subst last
        have whole : String.ofList (buffer ++ line) = sql := by
          rw [List.flatten_nil, List.append_nil] at joined
          rw [joined, String.ofList_toList]
        have blank : strip (String.ofList []) = "" := by decide
        simp only [statementsOf, whole, decide_true, if_true, if_neg nonblank, blank]
      · have unfinished : String.ofList (buffer ++ line) ≠ sql := by
          intro same
          rw [← same, String.toList_ofList] at joined
          have nothing : lines.flatten = [] := List.append_right_eq_self.mp joined
          obtain ⟨line, member⟩ := List.exists_mem_of_ne_nil lines last
          exact nonempty line member (List.flatten_eq_nil_iff.mp nothing line member)
        simp only [statementsOf, unfinished, decide_false, Bool.false_eq_true, if_false]
        exact induction joined nonempty last

theorem performs_wholeScript (migration : SQLiteMigration) (nonblank : strip migration.sql ≠ "") :
    Performs (wholeScript migration.sql) receiptStore migration := by
  intro contents next
  obtain ⟨joined, nonempty⟩ := splitLines_spec migration.sql.toList
  have remaining : splitLines migration.sql.toList ≠ [] := by
    intro none
    rw [none] at joined
    have empty : migration.sql = "" := String.toList_eq_nil_iff.mp joined.symm
    rw [empty] at nonblank
    exact nonblank (by decide)
  have statements : statementsOf (wholeScript migration.sql).completeStatement []
      (splitLines migration.sql.toList) = ([strip migration.sql], true) :=
    statementsOf_whole nonblank joined nonempty remaining
  have executed (statement : String) (next : ReceiptContents) :
      (wholeScript migration.sql).execute statement contents = some next ↔
        ∃ records, receiptSequence contents.executions contents.receipts.rows = .ok records ∧
          next = receiptStore.replaced records contents := by
    cases sequenced : receiptSequence contents.executions contents.receipts.rows with
    | error error => simp [wholeScript, sequenced, Except.toOption]
    | ok records => simp [wholeScript, sequenced, Except.toOption, eq_comm]
  rw [Sqlite.executeScript, statements]
  simp only [bind_eq_ok, raiseIf_eq_ok, List.foldlM_cons, List.foldlM_nil, pure_eq_ok,
    orRaise_eq_ok, executed, Bool.true_eq_false, not_false_eq_true, exists_const, true_and,
    exists_eq_right]
  rfl

theorem initializeDatabase_performs {clock : SQLiteMigration → String} {sha256 : Sha256}
    {requirements : SchemaRequirements} {files : List (String × String)}
    {db next : MigrationDatabase σ} {store : ReceiptStore σ} {first second third : SQLiteMigration}
    {later : List SQLiteMigration} (performs : Performs sqlite store third)
    (loaded : loadSqliteMigrations sha256 files = .ok (first :: second :: third :: later))
    (consistent : Consistent [first, second] db)
    (ok : initializeDatabase sqlite clock sha256 requirements files db = .ok ((), next)) :
    ∃ records, receiptSequence (store.executions db.contents) (store.receipts db.contents).rows =
        .ok records ∧
      sqlite.executeScripts later (store.replaced records db.contents) = .ok next.contents := by
  obtain ⟨done, remaining, contents, known, consistent', scripts, -, rfl⟩ :=
    initializeDatabase_eq_ok.mp ok
  have counted : done.length = 2 :=
    consistent'.history.length_eq.symm.trans consistent.history.length_eq
  obtain rfl : remaining = third :: later := by
    have same := Except.ok.inj (loaded.symm.trans known)
    have rest := congrArg (List.drop 2) same
    rw [← counted, List.drop_left] at rest
    rw [← rest, counted]
    rfl
  rw [Sqlite.executeScripts, List.foldlM_cons, bind_eq_ok] at scripts
  obtain ⟨middle, executed, rest⟩ := scripts
  obtain ⟨records, sequenced, rfl⟩ := (performs _ _).mp executed
  exact ⟨records, sequenced, rest⟩

end Database

/-- The migration takes the tables whose rows are one chain, have keys and name executions.  It
keeps
every column of every row, numbers them in the order of the chain, and verification reports what a
walk along the chain reported.  Any other table stays as it was. -/
theorem receiptSequence_keepsChain : (∀ (executions : List String) (table : ReceiptRows),
      (∃ records, receiptSequence executions table.rows = .ok records) ↔
        Acceptable executions table.rows) ∧
    (∀ (executions : List String) (table : ReceiptRows) (records : List ReceiptRecord),
      receiptSequence executions table.rows = .ok records →
        (records.map ReceiptRow.ofRecord).Perm table.rows ∧
        ReceiptLedger.Numbered 1 records ∧
        InChainOrder table.rows genesis (records.map .ofRecord) ∧
        ∀ sha256 floats, ReceiptLedger.verify sha256 floats records =
          walk sha256 floats table.rows table.rows.length table.rows.length 1 genesis) ∧
    ∀ (σ : Type) (sqlite : Sqlite σ) (store : ReceiptStore σ) (clock : SQLiteMigration → String)
      (sha256 : Sha256) (requirements : SchemaRequirements) (files : List (String × String))
      (db : MigrationDatabase σ) (first second third : SQLiteMigration)
      (later : List SQLiteMigration),
      Performs sqlite store third →
      loadSqliteMigrations sha256 files = .ok (first :: second :: third :: later) →
      Consistent [first, second] db →
      ¬Acceptable (store.executions db.contents) (store.receipts db.contents).rows →
        ∃ error, Transaction.commit (initializeDatabase sqlite clock sha256 requirements files) db =
          (.error error, db) := by
  refine ⟨receiptSequence_acceptable, ?_, ?_⟩
  · intro executions table records sequenced
    obtain ⟨order, follows, perm, numbered, -⟩ := (receiptSequence_eq_ok table).mp sequenced
    obtain ⟨counts, rfl⟩ := number_eq_some.mp numbered
    refine ⟨perm, counts, follows, fun sha256 floats => ?_⟩
    have length : records.length = table.rows.length := by
      rw [← perm.length_eq, List.length_map]
    rw [ReceiptLedger.verify, ordered_of_numbered counts, length,
      ← length, verifyRows_eq_walk sha256 floats _ follows counts]
  · intro σ sqlite store clock sha256 requirements files db first second third later performs loaded
      consistent unacceptable
    cases returned : initializeDatabase sqlite clock sha256 requirements files db with
    | error error => exact ⟨error, Transaction.commit_of_error returned⟩
    | ok result =>
        obtain ⟨records, sequenced, -⟩ := initializeDatabase_performs performs loaded consistent
          returned
        exact absurd ((receiptSequence_acceptable _ _).mp ⟨records, sequenced⟩) unacceptable

/-- A table without receipts is taken as well. -/
theorem receiptSequence_empty : ¬∀ (executions : List String) (table : ReceiptRows),
    (∃ records, receiptSequence executions table.rows = .ok records) ↔
      (∃ row ∈ table.rows, row.previousHash = genesis) ∧
        OneChain (·.previousHash) (·.receiptHash) table.rows genesis := by
  intro claim
  have taken : ∃ records, receiptSequence [] [] = .ok records := ⟨[], rfl⟩
  obtain ⟨⟨row, stored, -⟩, -⟩ :=
    (claim [] ⟨[], List.nodup_nil, List.nodup_nil, List.nodup_nil⟩).mp taken
  cases stored

end VoodooOne.Migration
