import VoodooOne.Evidence.Chain
import VoodooOne.Library.Transaction

/-!
# Audit ledger

The ledger appends events inside the transactions of its callers and verifies the whole log.  After
any run of transactions, rolled back or not, the log verifies with the number of committed events;
and a head commits to the log that verifies with it.
-/

namespace VoodooOne

/-- A row of `audit_events` as it is stored. -/
structure AuditRecord where
  sequence : Int
  (id actorId action targetType targetId payloadJson : String)
  (previousHash eventHash createdAt : String)
deriving DecidableEq, Repr

/-- The exception of a text that `json.loads` refuses. -/
def jsonDecodeError : Raised := ⟨.valueError, "invalid JSON document"⟩

namespace AuditRecord

/-- The row with its payload decoded.  Dictionaries are equal in any order of their keys, so the
payload is taken in normal form. -/
def decode (floats : FloatRepr) (record : AuditRecord) : Option AuditEventRow :=
  (loads floats record.payloadJson).map fun payload =>
    ⟨record.id, record.actorId, record.action, record.targetType, record.targetId, payload.normal,
      record.previousHash, record.eventHash, record.createdAt⟩

/-- Keys of `audit_events`. -/
abbrev Fresh (record : AuditRecord) (table : List AuditRecord) : Prop :=
  ∀ other ∈ table, other.id ≠ record.id ∧ other.eventHash ≠ record.eventHash

end AuditRecord

namespace AuditEventRow

def stored (sequence : Int) (row : AuditEventRow) : AuditRecord :=
  ⟨sequence, row.id, row.actorId, row.action, row.targetType, row.targetId,
    canonicalJson row.payload, row.previousHash, row.eventHash, row.createdAt⟩

def link (row : AuditEventRow) : HashChain.Link String String :=
  ⟨row.previousHash, canonicalJson row.event, row.eventHash⟩

end AuditEventRow

/-- What `AuditLedger.verify` reports. -/
inductive AuditReport where
  | valid (count : Nat) (head : String)
  | broken (sequence : Int) (eventId : String)
deriving DecidableEq, Repr

namespace AuditLedger

/-- `ORDER BY sequence`. -/
def ordered (table : List AuditRecord) : List AuditRecord :=
  table.insertionSort fun left right => left.sequence ≤ right.sequence

/-- `sequence INTEGER PRIMARY KEY AUTOINCREMENT`. -/
def nextSequence (table : List AuditRecord) : Int := (table.map (·.sequence)).foldl max 0 + 1

def selectHead (table : List AuditRecord) : String :=
  ((ordered table).getLast?.map (·.eventHash)).getD genesis

def eventRow (sha256 : Sha256) (previousHash : String) (stamp : Stamp) (entry : AuditEntry) :
    AuditEventRow :=
  let draft : AuditEventRow := ⟨stamp.id, entry.actorId, entry.action, entry.targetType,
    entry.targetId, entry.payload, previousHash, "", stamp.createdAt⟩
  { draft with eventHash := chainedHash sha256.hexdigest previousHash draft.event }

def append (sha256 : Sha256) (stamp : Stamp) (entry : AuditEntry) (table : List AuditRecord) :
    Except Raised (List AuditRecord) := do
  let record := (eventRow sha256 (selectHead table) stamp entry).stored (nextSequence table)
  raiseIf (¬record.Fresh table) integrityError
  return table ++ [record]

/-- The loop of `AuditLedger.verify` over the remaining rows. -/
def verifyRows (sha256 : Sha256) (floats : FloatRepr) (count : Nat) (previousHash : String) :
    List AuditRecord → Except Raised AuditReport
  | [] => return .valid count previousHash
  | record :: records => do
      let row ← orRaise jsonDecodeError (record.decode floats)
      let expected := chainedHash sha256.hexdigest previousHash row.event
      if row.previousHash ≠ previousHash ∨ row.eventHash ≠ expected then
        return .broken record.sequence record.id
      else verifyRows sha256 floats count row.eventHash records

def verify (sha256 : Sha256) (floats : FloatRepr) (table : List AuditRecord) :
    Except Raised AuditReport :=
  verifyRows sha256 floats (ordered table).length genesis (ordered table)

variable {sha256 : Sha256} {floats : FloatRepr}

/-- Rows verify when they all decode to rows that form a chain. -/
theorem verifyRows_eq_valid {count found : Nat} {previousHash head : String}
    {records : List AuditRecord} :
    verifyRows sha256 floats count previousHash records = .ok (.valid found head) ↔
      found = count ∧ ∃ rows : List AuditEventRow,
        records.map (·.decode floats) = rows.map some ∧
        HashChain.Valid sha256.chain previousHash (rows.map (·.link)) ∧
        HashChain.head previousHash (rows.map (·.link)) = head := by
  induction records generalizing previousHash with
  | nil =>
      simp only [verifyRows, pure_eq_ok, AuditReport.valid.injEq, List.map_nil]
      constructor
      · rintro ⟨rfl, rfl⟩
        exact ⟨rfl, [], rfl, trivial, rfl⟩
      · rintro ⟨rfl, rows, empty, -, rfl⟩
        obtain rfl := List.map_eq_nil_iff.mp empty.symm
        exact ⟨rfl, rfl⟩
  | cons record records induction =>
      simp only [verifyRows, bind_eq_ok, orRaise_eq_ok]
      constructor
      · rintro ⟨row, decoded, later⟩
        split at later
        · simp at later
        · next linked =>
          rw [not_or, not_not, not_not] at linked
          obtain ⟨rfl, rows, decodes, valid, last⟩ := induction.mp later
          refine ⟨rfl, row :: rows, by simp [decoded, decodes], ⟨linked.1, ?_, valid⟩, last⟩
          exact linked.2
      · rintro ⟨rfl, rows, decodes, valid, last⟩
        cases rows with
        | nil => simp at decodes
        | cons row rows =>
            rw [List.map_cons, List.map_cons, List.cons.injEq] at decodes
            obtain ⟨names, own, valid⟩ := valid
            refine ⟨row, decodes.1, ?_⟩
            rw [if_neg]
            · exact induction.mpr ⟨rfl, rows, decodes.2, valid, last⟩
            · rw [not_or, not_not, not_not]
              exact ⟨names, own⟩

end AuditLedger

namespace AuditEventRow

def eventFields (row : AuditEventRow) : List (String × Json) :=
  [("id", .str row.id), ("actor_id", .str row.actorId), ("action", .str row.action),
    ("target_type", .str row.targetType), ("target_id", .str row.targetId),
    ("payload", row.payload), ("created_at", .str row.createdAt)]

theorem event_eq (row : AuditEventRow) : row.event = .object row.eventFields := rfl

theorem eventFields_distinct (row : AuditEventRow) : (row.eventFields.map Prod.fst).Nodup := by
  simp [eventFields]

theorem eventFields_wellFormed {floats : FloatRepr} {row : AuditEventRow}
    (wellFormed : row.payload.WellFormed floats) :
    ∀ field ∈ row.eventFields, field.2.WellFormed floats := by
  have texts (text : String) : (Json.str text).WellFormed floats := .str text
  simp [eventFields, texts, wellFormed]

theorem canonicalJson_event_normal (row : AuditEventRow) :
    canonicalJson { row with payload := row.payload.normal }.event = canonicalJson row.event := by
  simp only [event_eq, canonicalJson, render_object_eq, render, eventFields, renderFields,
    render_normal]

theorem eq_of_link {floats : FloatRepr} {left right : AuditEventRow}
    (leftWellFormed : left.payload.WellFormed floats)
    (leftNormal : left.payload.normal = left.payload)
    (rightWellFormed : right.payload.WellFormed floats)
    (rightNormal : right.payload.normal = right.payload) (same : left.link = right.link) :
    left = right := by
  simp only [link, HashChain.Link.mk.injEq] at same
  obtain ⟨previous, texts, own⟩ := same
  rw [event_eq, event_eq] at texts
  have keys : left.eventFields.map Prod.fst = right.eventFields.map Prod.fst := rfl
  have fields := fields_of_canonicalJson keys left.eventFields_distinct
    (eventFields_wellFormed leftWellFormed) (eventFields_wellFormed rightWellFormed) texts
  simp only [eventFields, Json.normalFields, Json.normal, leftNormal, rightNormal, List.cons.injEq,
    Prod.mk.injEq, Json.str.injEq, true_and, and_true] at fields
  obtain ⟨id, actorId, action, targetType, targetId, payload, createdAt⟩ := fields
  cases left
  cases right
  simp_all

end AuditEventRow

theorem AuditRecord.decode_normal {floats : FloatRepr} {record : AuditRecord} {row : AuditEventRow}
    (decoded : record.decode floats = some row) :
    row.payload.WellFormed floats ∧ row.payload.normal = row.payload := by
  rw [decode, Option.map_eq_some_iff] at decoded
  obtain ⟨payload, read, rfl⟩ := decoded
  exact (wellFormed_of_loads read).normal

theorem AuditEventRow.decode_stored {floats : FloatRepr} {row : AuditEventRow} (sequence : Int)
    (wellFormed : row.payload.WellFormed floats) :
    (row.stored sequence).decode floats = some { row with payload := row.payload.normal } := by
  rw [AuditRecord.decode, stored, loads_canonicalJson wellFormed, Option.map_some,
    wellFormed.normal.2]

namespace AuditLedger

variable {sha256 : Sha256} {floats : FloatRepr}

/-- The events of a log, in their order. -/
def events (floats : FloatRepr) (table : List AuditRecord) : List (Option AuditEventRow) :=
  (ordered table).map (·.decode floats)

/-- The chain that the events of a log are to form. -/
def links (floats : FloatRepr) (table : List AuditRecord) : List (HashChain.Link String String) :=
  (events floats table).filterMap fun event => event.map (·.link)

theorem links_of_events {table : List AuditRecord} {rows : List AuditEventRow}
    (decodes : events floats table = rows.map some) : links floats table = rows.map (·.link) := by
  rw [links, decodes, List.filterMap_map]
  simp

theorem verify_eq_valid {table : List AuditRecord} {count : Nat} {head : String} :
    verify sha256 floats table = .ok (.valid count head) ↔
      count = table.length ∧ (∃ rows : List AuditEventRow, events floats table = rows.map some) ∧
        HashChain.Valid sha256.chain genesis (links floats table) ∧
        HashChain.head genesis (links floats table) = head := by
  have length : (ordered table).length = table.length := List.length_insertionSort _ _
  rw [verify, verifyRows_eq_valid, length]
  refine and_congr_right fun _ => ?_
  constructor
  · rintro ⟨rows, decodes, valid, last⟩
    have chain := links_of_events decodes
    exact ⟨⟨rows, decodes⟩, chain ▸ valid, chain ▸ last⟩
  · rintro ⟨⟨rows, decodes⟩, valid, last⟩
    have chain := links_of_events decodes
    exact ⟨rows, decodes, chain ▸ valid, chain ▸ last⟩

/-- Two logs that verify with one head have the same events, unless two of their texts collide. -/
theorem events_of_head {left right : List AuditRecord} {leftCount rightCount : Nat} {head : String}
    (leftVerifies : verify sha256 floats left = .ok (.valid leftCount head))
    (rightVerifies : verify sha256 floats right = .ok (.valid rightCount head)) :
    events floats left = events floats right ∨
      ChainCollision sha256 (links floats left) (links floats right) := by
  rw [verify_eq_valid] at leftVerifies rightVerifies
  obtain ⟨-, ⟨leftRows, leftDecodes⟩, leftValid, leftHead⟩ := leftVerifies
  obtain ⟨-, ⟨rightRows, rightDecodes⟩, rightValid, rightHead⟩ := rightVerifies
  rcases links_eq_or_collision leftValid rightValid (leftHead.trans rightHead.symm) with same
    | clash
  · left
    have normal {table : List AuditRecord} {rows : List AuditEventRow}
        (decodes : events floats table = rows.map some) :
        ∀ row ∈ rows, row.payload.WellFormed floats ∧ row.payload.normal = row.payload := by
      intro row member
      have decoded : some row ∈ events floats table := decodes ▸ List.mem_map_of_mem member
      obtain ⟨record, -, decoded⟩ := List.mem_map.mp decoded
      exact AuditRecord.decode_normal decoded
    rw [links_of_events leftDecodes, links_of_events rightDecodes] at same
    rw [leftDecodes, rightDecodes]
    congr 1
    have leftNormal := normal leftDecodes
    have rightNormal := normal rightDecodes
    clear leftDecodes rightDecodes leftValid rightValid leftHead rightHead
    induction leftRows generalizing rightRows with
    | nil => exact (List.map_eq_nil_iff.mp same.symm).symm
    | cons one leftRows induction =>
        cases rightRows with
        | nil => simp at same
        | cons two rightRows =>
            rw [List.map_cons, List.map_cons, List.cons.injEq] at same
            rw [List.forall_mem_cons] at leftNormal rightNormal
            have heads := AuditEventRow.eq_of_link leftNormal.1.1 leftNormal.1.2 rightNormal.1.1
              rightNormal.1.2 same.1
            rw [heads, induction rightRows same.2 leftNormal.2 rightNormal.2]
  · exact .inr clash

/-- A log as appends leave it: in order, decodable and chained. -/
structure Chained (sha256 : Sha256) (floats : FloatRepr) (table : List AuditRecord) : Prop where
  increasing : table.Pairwise fun left right => left.sequence < right.sequence
  decodes : ∃ rows : List AuditEventRow, events floats table = rows.map some
  valid : HashChain.Valid sha256.chain genesis (links floats table)

theorem ordered_of_increasing {table : List AuditRecord}
    (increasing : table.Pairwise fun left right => left.sequence < right.sequence) :
    ordered table = table :=
  (increasing.imp fun less => less.le).insertionSort_eq

theorem Chained.ordered {table : List AuditRecord} (chained : Chained sha256 floats table) :
    ordered table = table := ordered_of_increasing chained.increasing

theorem chained_nil (sha256 : Sha256) (floats : FloatRepr) : Chained sha256 floats [] :=
  ⟨.nil, ⟨[], rfl⟩, trivial⟩

/-- The next sequence number is greater than every other. -/
theorem lt_nextSequence {table : List AuditRecord} :
    ∀ record ∈ table, record.sequence < nextSequence table := by
  have bounded (numbers : List Int) (start : Int) :
      start ≤ numbers.foldl max start ∧ ∀ number ∈ numbers, number ≤ numbers.foldl max start := by
    induction numbers generalizing start with
    | nil => simp
    | cons number numbers induction =>
        obtain ⟨first, later⟩ := induction (max start number)
        rw [List.foldl_cons, List.forall_mem_cons]
        exact ⟨(le_max_left _ _).trans first, (le_max_right _ _).trans first, later⟩
  intro record member
  have least := (bounded (table.map (·.sequence)) 0).2 _ (List.mem_map_of_mem member)
  rw [nextSequence]
  omega

theorem Chained.selectHead {table : List AuditRecord} (chained : Chained sha256 floats table) :
    selectHead table = HashChain.head genesis (links floats table) := by
  obtain ⟨rows, decodes⟩ := chained.decodes
  rw [AuditLedger.selectHead, chained.ordered, links_of_events decodes]
  rw [events, chained.ordered] at decodes
  rcases List.eq_nil_or_concat rows with rfl | ⟨front, last, rfl⟩
  · obtain rfl := List.map_eq_nil_iff.mp decodes
    rfl
  · rw [List.concat_eq_append] at decodes ⊢
    rw [List.map_append, List.map_singleton, HashChain.head_concat]
    rw [List.map_append, List.map_singleton, List.map_eq_append_iff] at decodes
    obtain ⟨records, lasts, rfl, -, lastDecodes⟩ := decodes
    obtain ⟨record, rfl, decoded⟩ := List.map_eq_singleton_iff.mp lastDecodes
    rw [List.getLast?_concat]
    rw [AuditRecord.decode, Option.map_eq_some_iff] at decoded
    obtain ⟨payload, -, rfl⟩ := decoded
    rfl

theorem Chained.append {stamp : Stamp} {entry : AuditEntry} {table next : List AuditRecord}
    (chained : Chained sha256 floats table) (wellFormed : entry.payload.WellFormed floats)
    (appended : append sha256 stamp entry table = .ok next) :
    Chained sha256 floats next ∧ next.length = table.length + 1 := by
  simp only [AuditLedger.append, bind_eq_ok, raiseIf_eq_ok, pure_eq_ok] at appended
  obtain ⟨_, -, rfl⟩ := appended
  set row := eventRow sha256 (AuditLedger.selectHead table) stamp entry with written
  have increasing : (table ++ [row.stored (nextSequence table)]).Pairwise
      fun left right => left.sequence < right.sequence := by
    rw [List.pairwise_append]
    refine ⟨chained.increasing, List.pairwise_singleton _ _, fun left old right new => ?_⟩
    rw [List.mem_singleton.mp new]
    exact lt_nextSequence left old
  obtain ⟨rows, decodes⟩ := chained.decodes
  have decoded : (row.stored (nextSequence table)).decode floats =
      some { row with payload := row.payload.normal } := row.decode_stored _ wellFormed
  have after : events floats (table ++ [row.stored (nextSequence table)]) =
      (rows ++ [{ row with payload := row.payload.normal }]).map some := by
    rw [events, chained.ordered] at decodes
    rw [events, ordered_of_increasing increasing, List.map_append, decodes, List.map_append,
      List.map_singleton, decoded, List.map_singleton]
  refine ⟨⟨increasing, ⟨_, after⟩, ?_⟩, by simp⟩
  rw [links_of_events after, List.map_append, List.map_singleton, HashChain.valid_concat,
    ← links_of_events decodes, ← chained.selectHead]
  refine ⟨chained.valid, rfl, ?_⟩
  rw [AuditEventRow.link, AuditEventRow.canonicalJson_event_normal, written]
  rfl

end AuditLedger

/-- A call of `append`, with a payload that `json.dumps` can write. -/
structure AuditAppend (floats : FloatRepr) where
  stamp : Stamp
  entry : AuditEntry
  serializable : entry.payload.WellFormed floats

/-- A transaction of a caller: its appends, and the exception that its body raises if it does. -/
structure AuditTransaction (floats : FloatRepr) where
  appends : List (AuditAppend floats)
  raised : Option Raised

namespace AuditLedger

variable {sha256 : Sha256} {floats : FloatRepr}

/-- The appends of a transaction, one after the other. -/
def appendAll (sha256 : Sha256) (appends : List (AuditAppend floats)) (table : List AuditRecord) :
    Except Raised (List AuditRecord) :=
  appends.foldlM (fun table call => append sha256 call.stamp call.entry table) table

def transact (sha256 : Sha256) (transaction : AuditTransaction floats) (table : List AuditRecord) :
    Except Raised (Unit × List AuditRecord) := do
  let table ← appendAll sha256 transaction.appends table
  match transaction.raised with
  | some error => .error error
  | none => return ((), table)

/-- The log after a transaction has committed or was rolled back. -/
def step (sha256 : Sha256) (table : List AuditRecord) (transaction : AuditTransaction floats) :
    List AuditRecord :=
  (Transaction.commit (transact sha256 transaction) table).2

def committed (sha256 : Sha256) : List AuditRecord → List (AuditTransaction floats) →
    List (AuditAppend floats)
  | _, [] => []
  | table, transaction :: transactions =>
      match transact sha256 transaction table with
      | .ok (_, next) => transaction.appends ++ committed sha256 next transactions
      | .error _ => committed sha256 table transactions

theorem Chained.appendAll {appends : List (AuditAppend floats)} {table next : List AuditRecord}
    (chained : Chained sha256 floats table) (appended : appendAll sha256 appends table = .ok next) :
    Chained sha256 floats next ∧ next.length = table.length + appends.length := by
  induction appends generalizing table with
  | nil =>
      obtain rfl : table = next := by simpa [AuditLedger.appendAll] using appended
      exact ⟨chained, rfl⟩
  | cons call appends induction =>
      rw [AuditLedger.appendAll, List.foldlM_cons, bind_eq_ok] at appended
      obtain ⟨middle, first, later⟩ := appended
      obtain ⟨chainedMiddle, grown⟩ := chained.append call.serializable first
      obtain ⟨chainedNext, length⟩ := induction chainedMiddle later
      refine ⟨chainedNext, ?_⟩
      rw [length, grown, List.length_cons]
      omega

/-- A run keeps the log chained and adds the committed events to it. -/
theorem Chained.run {table : List AuditRecord} (chained : Chained sha256 floats table)
    (transactions : List (AuditTransaction floats)) :
    Chained sha256 floats (Transaction.run (step sha256) table transactions) ∧
      (Transaction.run (step sha256) table transactions).length =
        table.length + (committed sha256 table transactions).length := by
  induction transactions generalizing table with
  | nil => exact ⟨chained, rfl⟩
  | cons transaction transactions induction =>
      rw [Transaction.run_cons, committed]
      cases body : transact sha256 transaction table with
      | ok outcome =>
          obtain ⟨_, next⟩ := outcome
          have committed_next : step sha256 table transaction = next := by
            rw [step, Transaction.commit_of_ok body]
          simp only [transact, bind_eq_ok] at body
          obtain ⟨appended, appends, ends⟩ := body
          split at ends
          · cases ends
          · simp only [pure_eq_ok, Prod.mk.injEq] at ends
            obtain ⟨-, rfl⟩ := ends
            obtain ⟨chainedNext, length⟩ := chained.appendAll appends
            obtain ⟨chainedEnd, grown⟩ := induction chainedNext
            rw [committed_next]
            refine ⟨chainedEnd, ?_⟩
            rw [grown, length, List.length_append]
            omega
      | error error =>
          have kept : step sha256 table transaction = table := by
            rw [step, Transaction.commit_of_error body]
          rw [kept]
          exact induction chained

end AuditLedger

/-- The audit log after every run of transactions on an empty log verifies, with the number of
committed events and the hash of the last one; and two logs that verify with one head have the same
events, unless two texts hashed in them have one digest. -/
theorem auditChain_evident (sha256 : Sha256) (floats : FloatRepr) :
    (∀ transactions : List (AuditTransaction floats),
      let table := Transaction.run (AuditLedger.step sha256) [] transactions
      AuditLedger.verify sha256 floats table = .ok (.valid
        (AuditLedger.committed sha256 [] transactions).length (AuditLedger.selectHead table))) ∧
    ∀ (left right : List AuditRecord) (leftCount rightCount : Nat) (head : String),
      AuditLedger.verify sha256 floats left = .ok (.valid leftCount head) →
      AuditLedger.verify sha256 floats right = .ok (.valid rightCount head) →
      AuditLedger.events floats left = AuditLedger.events floats right ∨
        ChainCollision sha256 (AuditLedger.links floats left) (AuditLedger.links floats right) := by
  refine ⟨fun transactions => ?_, fun left right leftCount rightCount head => ?_⟩
  · obtain ⟨chained, length⟩ := (AuditLedger.chained_nil sha256 floats).run transactions
    rw [AuditLedger.verify_eq_valid, chained.selectHead, length]
    exact ⟨by simp, chained.decodes, chained.valid, rfl⟩
  · exact AuditLedger.events_of_head

end VoodooOne
