import VoodooOne.Foundation.JsonRoundTrip
import VoodooOne.Library.HashChain
import VoodooOne.Schema.Tables

/-!
# Evidence chains

The two ledgers chain the canonical texts of their records: a hash covers the hash before it, a line
break and the text.  The digest function yields digests; what it does not do is assumed nowhere, so
a chain that is changed unnoticed shows two texts with one digest.
-/

namespace VoodooOne

/-- The identifier and the time that a new record receives. -/
structure Stamp where
  (id createdAt : String)
deriving DecidableEq, Repr

/-- The hash that the first record of a chain names. -/
def genesis : String := "GENESIS"

namespace AuditEventRow

/-- The content of an event under its hash. -/
def event (row : AuditEventRow) : Json :=
  .object [("id", .str row.id), ("actor_id", .str row.actorId), ("action", .str row.action),
    ("target_type", .str row.targetType), ("target_id", .str row.targetId),
    ("payload", row.payload), ("created_at", .str row.createdAt)]

/-- Keys of `audit_events`. -/
abbrev Fresh (row : AuditEventRow) (db : Database) : Prop :=
  ∀ other ∈ db.auditEvents, other.id ≠ row.id ∧ other.eventHash ≠ row.eventHash

def field (event : AuditEventRow) (name : String) : String :=
  Attributes.text event.payload.get name

theorem field_of_object {event : AuditEventRow} {fields : List (String × Json)}
    {name text : String} (payload : event.payload = .object fields)
    (distinct : (fields.map Prod.fst).Nodup) (member : (name, Json.str text) ∈ fields) :
    event.field name = text := by
  apply Attributes.text_of_str
  rw [payload]
  exact Json.get_object_of_mem distinct member

end AuditEventRow

structure AuditEntry where
  (actorId action targetType targetId : String)
  payload : Json

structure AuditEventRow.Shows (row : AuditEventRow) (entry : AuditEntry) : Prop where
  actor : row.actorId = entry.actorId
  action : row.action = entry.action
  target : row.targetId = entry.targetId
  payload : row.payload = entry.payload

namespace Database

/-- `audit_events.select_head`. -/
def auditHead (db : Database) : String := (db.auditEvents.getLast?.map (·.eventHash)).getD genesis

/-- The row that `AuditLedger.append` writes. -/
def auditRow (db : Database) (sha256 : String → String) (stamp : Stamp) (entry : AuditEntry) :
    AuditEventRow :=
  let draft : AuditEventRow := ⟨stamp.id, entry.actorId, entry.action, entry.targetType,
    entry.targetId, entry.payload, db.auditHead, "", stamp.createdAt⟩
  { draft with eventHash := chainedHash sha256 db.auditHead draft.event }

theorem auditRow_shows (db : Database) (sha256 : String → String) (stamp : Stamp)
    (entry : AuditEntry) : (db.auditRow sha256 stamp entry).Shows entry := ⟨rfl, rfl, rfl, rfl⟩

/-- `AuditLedger.append`. -/
def appendAudit (db : Database) (sha256 : String → String) (stamp : Stamp) (entry : AuditEntry) :
    Except Raised Database := do
  let row := db.auditRow sha256 stamp entry
  raiseIf (¬row.Fresh db) integrityError
  return db.setAuditEvents (db.auditEvents ++ [row])

theorem appendAudit_eq_ok {db next : Database} {sha256 : String → String} {stamp : Stamp}
    {entry : AuditEntry} (appended : db.appendAudit sha256 stamp entry = .ok next) :
    next = db.setAuditEvents (db.auditEvents ++ [db.auditRow sha256 stamp entry]) ∧
      (db.auditRow sha256 stamp entry).Fresh db := by
  simp only [appendAudit, bind_eq_ok, raiseIf_eq_ok, not_not, pure_eq_ok] at appended
  obtain ⟨_, fresh, rfl⟩ := appended
  exact ⟨rfl, fresh⟩

theorem appendAudit_ok {db : Database} {sha256 : String → String} {stamp : Stamp}
    {entry : AuditEntry} (fresh : (db.auditRow sha256 stamp entry).Fresh db) :
    db.appendAudit sha256 stamp entry =
      .ok (db.setAuditEvents (db.auditEvents ++ [db.auditRow sha256 stamp entry])) := by
  rw [appendAudit, raiseIf, if_neg (not_not.mpr fresh)]
  rfl

end Database

/-- Keys and reference of `receipts`. -/
abbrev ReceiptRow.Fresh (row : ReceiptRow) (db : Database) : Prop :=
  ∀ other ∈ db.receipts, other.id ≠ row.id ∧ other.executionId ≠ row.executionId ∧
    other.receiptHash ≠ row.receiptHash

namespace Database

/-- `receipts.select_head`. -/
def receiptHead (db : Database) : String := (db.receipts.getLast?.map (·.receiptHash)).getD genesis

/-- The row that `ReceiptLedger.append` writes. -/
def receiptRow (db : Database) (sha256 : String → String) (stamp : Stamp) (executionId : String)
    (payload : Json) : ReceiptRow where
  id := stamp.id
  executionId
  payload
  previousHash := db.receiptHead
  receiptHash := chainedHash sha256 db.receiptHead payload
  createdAt := stamp.createdAt

/-- `ReceiptLedger.append`. -/
def appendReceipt (db : Database) (sha256 : String → String) (stamp : Stamp)
    (executionId : String) (payload : Json) : Except Raised (ReceiptRow × Database) := do
  let row := db.receiptRow sha256 stamp executionId payload
  raiseIf (¬row.Fresh db) integrityError
  raiseIf (¬∃ execution ∈ db.executions, execution.id = executionId) integrityError
  return (row, db.setReceipts (db.receipts ++ [row]))

theorem appendReceipt_eq_ok {db next : Database} {sha256 : String → String} {stamp : Stamp}
    {executionId : String} {payload : Json} {row : ReceiptRow}
    (appended : db.appendReceipt sha256 stamp executionId payload = .ok (row, next)) :
    next = db.setReceipts (db.receipts ++ [row]) ∧ row.executionId = executionId ∧
      row.payload = payload ∧ row.Fresh db := by
  simp only [appendReceipt, bind_eq_ok, raiseIf_eq_ok, not_not, pure_eq_ok, Prod.mk.injEq]
    at appended
  obtain ⟨_, fresh, _, _, rfl, rfl⟩ := appended
  exact ⟨rfl, rfl, rfl, fresh⟩

end Database

/-- `hashlib.sha256(text.encode()).hexdigest()`. -/
structure Sha256 where
  hexdigest : String → String
  isDigest (text : String) : IsDigest (hexdigest text)

/-- A digest function that does not look at its text. -/
def sampleDigest : Sha256 where
  hexdigest _ := String.ofList (List.replicate 64 '0')
  isDigest _ := by
    refine ⟨by decide, fun character member => ?_⟩
    rw [String.toList_ofList] at member
    rw [List.eq_of_mem_replicate member]
    decide

theorem sampleTime_inRange : 63902822400000 < 315537897600000 := by decide

def sampleTime : Calendar.Instant := ⟨63902822400000, sampleTime_inRange⟩

theorem validText_sampleTime : ValidText sampleTime.isoformat := by decide

theorem minuteLater_inRange : 63902822460000 < 315537897600000 := by decide

def minuteLater : Calendar.Instant := ⟨63902822460000, minuteLater_inRange⟩

theorem validText_minuteLater : ValidText minuteLater.isoformat := by decide

theorem twoMinutesLater_inRange : 63902822520000 < 315537897600000 := by decide

def twoMinutesLater : Calendar.Instant := ⟨63902822520000, twoMinutesLater_inRange⟩

theorem validText_twoMinutesLater : ValidText twoMinutesLater.isoformat := by decide

namespace Sha256

variable (sha256 : Sha256)

def someDigest : String := sha256.hexdigest ""

theorem passes (text : String) :
    ValidText (sha256.hexdigest text) ∧ IsDigest (sha256.hexdigest text) :=
  ⟨validText_of_isDigest (sha256.isDigest _), sha256.isDigest _⟩

def finish {α : Type} (contract : Contract α) (draft : α) : α :=
  contract.withDigest draft (digestOf sha256.hexdigest (contract.claimsWithoutDigest draft))

end Sha256

def chainText (link : HashChain.Link String String) : String :=
  link.previous ++ "\n" ++ link.content

/-- The hash of a canonical text after another hash. -/
def Sha256.chain (sha256 : Sha256) (previousHash text : String) : String :=
  sha256.hexdigest (previousHash ++ "\n" ++ text)

theorem Sha256.chain_ne_genesis (sha256 : Sha256) (previousHash text : String) :
    sha256.chain previousHash text ≠ genesis := by
  intro same
  have digest := sha256.isDigest (previousHash ++ "\n" ++ text)
  rw [chain] at same
  rw [same] at digest
  exact absurd digest.1 (by decide)

/-- What a record of a chain names has no line break. -/
def Named (text : String) : Prop := '\n' ∉ text.toList

theorem named_genesis : Named genesis := by
  rw [Named, genesis]
  decide

theorem named_of_isDigest {text : String} (digest : IsDigest text) : Named text := by
  intro broken
  exact absurd (digest.2 '\n' broken) (by decide)

/-- A text is split at its first line break in one way. -/
theorem split_inj {α : Type} {separator : α} {left right leftRest rightRest : List α}
    (leftNamed : separator ∉ left) (rightNamed : separator ∉ right)
    (same : left ++ separator :: leftRest = right ++ separator :: rightRest) :
    left = right ∧ leftRest = rightRest := by
  induction left generalizing right with
  | nil =>
      cases right with
      | nil => simpa using same
      | cons first right =>
          obtain ⟨rfl, -⟩ := List.cons.inj same
          exact absurd List.mem_cons_self rightNamed
  | cons first left induction =>
      cases right with
      | nil =>
          obtain ⟨rfl, -⟩ := List.cons.inj same
          exact absurd List.mem_cons_self leftNamed
      | cons other right =>
          obtain ⟨rfl, later⟩ := List.cons.inj same
          rw [List.mem_cons, not_or] at leftNamed rightNamed
          obtain ⟨rfl, rests⟩ := induction leftNamed.2 rightNamed.2 later
          exact ⟨rfl, rests⟩

theorem chainText_inj {left right : HashChain.Link String String} (leftNamed : Named left.previous)
    (rightNamed : Named right.previous) (same : chainText left = chainText right) :
    left.previous = right.previous ∧ left.content = right.content := by
  have characters := congrArg String.toList same
  simp only [chainText, String.toList_append, List.append_assoc] at characters
  have broken : "\n".toList = ['\n'] := rfl
  rw [broken, List.singleton_append, List.singleton_append] at characters
  obtain ⟨names, contents⟩ := split_inj leftNamed rightNamed characters
  exact ⟨String.toList_inj.mp names, String.toList_inj.mp contents⟩

theorem named_of_valid {sha256 : Sha256} {links : List (HashChain.Link String String)}
    (valid : HashChain.Valid sha256.chain genesis links) : ∀ link ∈ links, Named link.previous := by
  have hashes {start : String} {links : List (HashChain.Link String String)}
      (valid : HashChain.Valid sha256.chain start links) : ∀ link ∈ links, Named link.own := by
    induction links generalizing start with
    | nil => exact List.forall_mem_nil _
    | cons link links induction =>
        obtain ⟨-, own, later⟩ := valid
        rw [List.forall_mem_cons, own]
        exact ⟨named_of_isDigest (sha256.isDigest _), induction later⟩
  intro link member
  rcases List.mem_cons.mp (valid.previous_mem link member) with first | later
  · rw [first]
    exact named_genesis
  · obtain ⟨other, stored, same⟩ := List.mem_map.mp later
    rw [← same]
    exact hashes valid other stored

/-- Two different texts with one digest, each under the hash of a record of its chain. -/
def ChainCollision (sha256 : Sha256) (lefts rights : List (HashChain.Link String String)) : Prop :=
  ∃ left ∈ lefts, ∃ right ∈ rights, Collision sha256.hexdigest (chainText left) (chainText right)

/-- Valid chains with one last hash are the same, unless two of their texts collide. -/
theorem links_eq_or_collision {sha256 : Sha256} {left right : List (HashChain.Link String String)}
    (leftValid : HashChain.Valid sha256.chain genesis left)
    (rightValid : HashChain.Valid sha256.chain genesis right)
    (heads : HashChain.head genesis left = HashChain.head genesis right) :
    left = right ∨ ChainCollision sha256 left right := by
  rcases HashChain.eq_or_clashes sha256.chain_ne_genesis leftValid rightValid heads with
    same | ⟨one, oneMember, two, twoMember, different, digests⟩
  · exact .inl same
  · have oneNamed := named_of_valid leftValid one oneMember
    have twoNamed := named_of_valid rightValid two twoMember
    exact .inr ⟨one, oneMember, two, twoMember,
      fun texts => different (chainText_inj oneNamed twoNamed texts), digests⟩

end VoodooOne
