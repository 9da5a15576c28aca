import VoodooOne.Evidence.AuditLedger

/-!
# Receipt ledger

The hash of a receipt covers the payload and the hash before it, and verification also counts the
sequence numbers.  So a changed link, another payload, other sequence numbers and a missing receipt
are reported, while the identifier, the execution and the time of a receipt are no part of its
chain.
-/

namespace VoodooOne

/-- A row of `receipts` as it is stored. -/
structure ReceiptRecord where
  sequence : Int
  (id executionId payloadJson previousHash receiptHash createdAt : String)
deriving DecidableEq, Repr

/-- The place of a row in its chain, when its payload can be decoded. -/
def ReceiptRecord.link? (floats : FloatRepr) (record : ReceiptRecord) :
    Option (HashChain.Link String String) :=
  (loads floats record.payloadJson).map fun payload =>
    ⟨record.previousHash, canonicalJson payload, record.receiptHash⟩

/-- What `ReceiptLedger.verify` reports. -/
inductive ReceiptReport where
  | valid (count : Nat) (head : String)
  | broken (count brokenAt : Nat) (sequence : Int) (receiptId : String)
deriving DecidableEq, Repr

namespace ReceiptLedger

/-- `ORDER BY sequence`. -/
def ordered (table : List ReceiptRecord) : List ReceiptRecord :=
  table.insertionSort fun left right => left.sequence ≤ right.sequence

/-- The loop of `ReceiptLedger.verify` over the remaining rows. -/
def verifyRows (sha256 : Sha256) (floats : FloatRepr) (count expectedSequence : Nat)
    (previousHash : String) : List ReceiptRecord → Except Raised ReceiptReport
  | [] => return .valid count previousHash
  | record :: records => do
      let payload ← orRaise jsonDecodeError (loads floats record.payloadJson)
      let expected := chainedHash sha256.hexdigest previousHash payload
      if record.sequence ≠ expectedSequence ∨ record.previousHash ≠ previousHash ∨
          record.receiptHash ≠ expected then
        return .broken count expectedSequence record.sequence record.id
      else verifyRows sha256 floats count (expectedSequence + 1) record.receiptHash records

def verify (sha256 : Sha256) (floats : FloatRepr) (table : List ReceiptRecord) :
    Except Raised ReceiptReport :=
  verifyRows sha256 floats (ordered table).length 1 genesis (ordered table)

variable {sha256 : Sha256} {floats : FloatRepr}

def Numbered : Nat → List ReceiptRecord → Prop
  | _, [] => True
  | expected, record :: records => record.sequence = expected ∧ Numbered (expected + 1) records

theorem verifyRows_append (count : Nat) {expected : Nat} {previousHash : String}
    {front : List ReceiptRecord} (back : List ReceiptRecord)
    {links : List (HashChain.Link String String)}
    (numbered : Numbered expected front) (decodes : front.map (·.link? floats) = links.map some)
    (valid : HashChain.Valid sha256.chain previousHash links) :
    verifyRows sha256 floats count expected previousHash (front ++ back) =
      verifyRows sha256 floats count (expected + front.length)
        (HashChain.head previousHash links) back := by
  induction front generalizing expected previousHash links with
  | nil =>
      obtain rfl := List.map_eq_nil_iff.mp decodes.symm
      rfl
  | cons record front induction =>
      cases links with
      | nil => simp at decodes
      | cons link links =>
          rw [List.map_cons, List.map_cons, List.cons.injEq] at decodes
          obtain ⟨decoded, decodes⟩ := decodes
          obtain ⟨names, own, valid⟩ := valid
          obtain ⟨sequence, numbered⟩ := numbered
          rw [ReceiptRecord.link?, Option.map_eq_some_iff] at decoded
          obtain ⟨payload, read, rfl⟩ := decoded
          have passes : ¬(record.sequence ≠ expected ∨ record.previousHash ≠ previousHash ∨
              record.receiptHash ≠ chainedHash sha256.hexdigest previousHash payload) := by
            rw [not_or, not_or, not_not, not_not, not_not]
            exact ⟨sequence, names, own⟩
          rw [List.cons_append, verifyRows, read, orRaise, ok_bind, if_neg passes,
            induction numbered decodes valid, List.length_cons, HashChain.head]
          congr 1
          omega

/-- Rows verify when their numbers count up and they decode to the links of a chain. -/
theorem verifyRows_eq_valid {count expected found : Nat} {previousHash head : String}
    {records : List ReceiptRecord} :
    verifyRows sha256 floats count expected previousHash records = .ok (.valid found head) ↔
      found = count ∧ Numbered expected records ∧ ∃ links : List (HashChain.Link String String),
        records.map (·.link? floats) = links.map some ∧
        HashChain.Valid sha256.chain previousHash links ∧
        HashChain.head previousHash links = head := by
  constructor
  · intro verifies
    induction records generalizing expected previousHash with
    | nil =>
        simp only [verifyRows, pure_eq_ok, ReceiptReport.valid.injEq] at verifies
        obtain ⟨rfl, rfl⟩ := verifies
        exact ⟨rfl, trivial, [], rfl, trivial, rfl⟩
    | cons record records induction =>
        simp only [verifyRows, bind_eq_ok, orRaise_eq_ok] at verifies
        obtain ⟨payload, read, later⟩ := verifies
        split at later
        · simp at later
        · next passes =>
          rw [not_or, not_or, not_not, not_not, not_not] at passes
          obtain ⟨sequence, names, own⟩ := passes
          obtain ⟨rfl, numbered, links, decodes, valid, last⟩ := induction later
          refine ⟨rfl, ⟨sequence, numbered⟩,
            ⟨record.previousHash, canonicalJson payload, record.receiptHash⟩ :: links, ?_,
            ⟨names, own, valid⟩, last⟩
          rw [List.map_cons, List.map_cons, decodes, ReceiptRecord.link?, read, Option.map_some]
  · rintro ⟨rfl, numbered, links, decodes, valid, rfl⟩
    have passed := verifyRows_append found [] numbered decodes valid
    rw [List.append_nil] at passed
    rw [passed]
    rfl

theorem verifyRows_reports (sha256 : Sha256) (count expected : Nat) (previousHash : String)
    {records : List ReceiptRecord}
    (decodes : ∀ record ∈ records, ∃ payload, loads floats record.payloadJson = some payload) :
    ∃ report, verifyRows sha256 floats count expected previousHash records = .ok report := by
  induction records generalizing expected previousHash with
  | nil => exact ⟨_, rfl⟩
  | cons record records induction =>
      rw [List.forall_mem_cons] at decodes
      obtain ⟨⟨payload, read⟩, later⟩ := decodes
      rw [verifyRows, read, orRaise, ok_bind]
      dsimp only
      split
      · exact ⟨_, rfl⟩
      · exact induction _ _ later

def links (floats : FloatRepr) (table : List ReceiptRecord) : List (HashChain.Link String String) :=
  (ordered table).filterMap (·.link? floats)

theorem links_of_decodes {table : List ReceiptRecord} {found : List (HashChain.Link String String)}
    (decodes : (ordered table).map (·.link? floats) = found.map some) :
    links floats table = found := by
  have each := congrArg (List.filterMap id) decodes
  rw [List.filterMap_map, List.filterMap_map] at each
  rw [links]
  simpa using each

theorem verify_eq_valid {table : List ReceiptRecord} {count : Nat} {head : String} :
    verify sha256 floats table = .ok (.valid count head) ↔
      count = table.length ∧ Numbered 1 (ordered table) ∧
        (ordered table).map (·.link? floats) = (links floats table).map some ∧
        HashChain.Valid sha256.chain genesis (links floats table) ∧
        HashChain.head genesis (links floats table) = head := by
  have length : (ordered table).length = table.length := List.length_insertionSort _ _
  rw [verify, verifyRows_eq_valid, length]
  refine and_congr_right fun _ => and_congr_right fun _ => ?_
  constructor
  · rintro ⟨found, decodes, valid, last⟩
    obtain rfl := links_of_decodes decodes
    exact ⟨decodes, valid, last⟩
  · rintro ⟨decodes, valid, last⟩
    exact ⟨_, decodes, valid, last⟩

theorem numbered_iff {expected : Nat} {records : List ReceiptRecord} : Numbered expected records ↔
      records.map (·.sequence) = (List.range' expected records.length).map Nat.cast := by
  induction records generalizing expected with
  | nil => simp [Numbered]
  | cons record records induction =>
      rw [Numbered, List.map_cons, List.length_cons, List.range'_succ, List.map_cons,
        List.cons.injEq, induction]

theorem mem_ordered {table : List ReceiptRecord} {record : ReceiptRecord} :
    record ∈ ordered table ↔ record ∈ table := List.mem_insertionSort _

theorem sequences_of_valid {table : List ReceiptRecord} (numbered : Numbered 1 (ordered table)) :
    ∀ number : Int, (∃ record ∈ table, record.sequence = number) ↔
      1 ≤ number ∧ number ≤ table.length := by
  intro number
  have length : (ordered table).length = table.length := List.length_insertionSort _ _
  have listed : (∃ record ∈ table, record.sequence = number) ↔
      number ∈ (ordered table).map (·.sequence) := by
    simp only [List.mem_map, mem_ordered]
  rw [listed, numbered_iff.mp numbered, length]
  simp only [List.mem_map, List.mem_range'_1]
  constructor
  · rintro ⟨index, ⟨low, high⟩, rfl⟩
    omega
  · rintro ⟨low, high⟩
    exact ⟨number.toNat, by omega, by omega⟩

end ReceiptLedger

/-- The table of receipts: sequence numbers and hashes are unique in it. -/
structure ReceiptTable where
  records : List ReceiptRecord
  sequences : (records.map (·.sequence)).Nodup
  hashes : (records.map (·.receiptHash)).Nodup

/-- Another value for a text column of a receipt. -/
inductive ReceiptColumn where
  | id (value : String)
  | executionId (value : String)
  | payloadJson (value : String)
  | previousHash (value : String)
  | receiptHash (value : String)
  | createdAt (value : String)
deriving DecidableEq, Repr

/-- The row with the other value. -/
def ReceiptColumn.write (column : ReceiptColumn) (record : ReceiptRecord) : ReceiptRecord :=
  match column with
  | .id value => { record with id := value }
  | .executionId value => { record with executionId := value }
  | .payloadJson value => { record with payloadJson := value }
  | .previousHash value => { record with previousHash := value }
  | .receiptHash value => { record with receiptHash := value }
  | .createdAt value => { record with createdAt := value }

/-- What is done to a table behind the back of the ledger: a column of one row is overwritten, rows
get other sequence numbers (one row, or all of them in another order), or rows are deleted. -/
inductive Tampering where
  | overwrite (sequence : Int) (column : ReceiptColumn)
  | renumber (number : ReceiptRecord → Int)
  | delete (kept : ReceiptRecord → Bool)

namespace Tampering

def apply (records : List ReceiptRecord) : Tampering → List ReceiptRecord
  | .overwrite sequence column =>
      records.map fun record => if record.sequence = sequence then column.write record else record
  | .renumber number => records.map fun record => { record with sequence := number record }
  | .delete kept => records.filter kept

/-- Something is changed, and not only the newest rows are deleted. -/
def Genuine (records : List ReceiptRecord) : Tampering → Prop
  | .overwrite sequence column =>
      ∃ record ∈ records, record.sequence = sequence ∧ column.write record ≠ record
  | .renumber number => ∃ record ∈ records, number record ≠ record.sequence
  | .delete kept => ∃ gone ∈ records, ∃ left ∈ records, kept gone = false ∧ kept left = true ∧
      gone.sequence < left.sequence

/-- What the chain covers: all but the identifier, the execution and the time of a row, and all but
another spelling of its payload. -/
def Covered (floats : FloatRepr) (records : List ReceiptRecord) : Tampering → Prop
  | .overwrite _ (.id _) | .overwrite _ (.executionId _) | .overwrite _ (.createdAt _) => False
  | .overwrite sequence (.payloadJson text) =>
      ∃ payload, loads floats text = some payload ∧ ∀ record ∈ records,
        record.sequence = sequence → ∀ before, loads floats record.payloadJson = some before →
          payload.normal ≠ before.normal
  | _ => True

end Tampering

def ReportedBroken (outcome : Except Raised ReceiptReport) : Prop :=
  ∃ count brokenAt sequence receiptId, outcome = .ok (.broken count brokenAt sequence receiptId)

namespace ReceiptLedger

variable {sha256 : Sha256} {floats : FloatRepr} {table : ReceiptTable} {count : Nat} {head : String}

def Passes (sha256 : Sha256) (floats : FloatRepr) (records : List ReceiptRecord) : Prop :=
  ∃ count head, verify sha256 floats records = .ok (.valid count head)

theorem Passes.not_broken {records : List ReceiptRecord} (passes : Passes sha256 floats records) :
    ¬ReportedBroken (verify sha256 floats records) := by
  obtain ⟨count, head, verifies⟩ := passes
  rintro ⟨_, _, _, _, broken⟩
  rw [verifies] at broken
  cases broken

theorem broken_of_decodes {records : List ReceiptRecord}
    (decodes : ∀ record ∈ records, ∃ link, record.link? floats = some link)
    (fails : ¬Passes sha256 floats records) : ReportedBroken (verify sha256 floats records) := by
  have reads : ∀ record ∈ ordered records, ∃ payload, loads floats record.payloadJson =
    some payload := by
    intro record member
    obtain ⟨link, decoded⟩ := decodes record (mem_ordered.mp member)
    rw [ReceiptRecord.link?, Option.map_eq_some_iff] at decoded
    exact ⟨decoded.choose, decoded.choose_spec.1⟩
  obtain ⟨report, verifies⟩ :=
    verifyRows_reports sha256 (ordered records).length 1 genesis reads
  rw [← verify] at verifies
  cases report with
  | valid count head => exact absurd ⟨count, head, verifies⟩ fails
  | broken count brokenAt sequence receiptId => exact ⟨_, _, _, _, verifies⟩

theorem decodes_of_passes {records : List ReceiptRecord} (passes : Passes sha256 floats records) :
    ∀ record ∈ records, ∃ link, record.link? floats = some link := by
  obtain ⟨count, head, verifies⟩ := passes
  obtain ⟨-, -, decodes, -⟩ := verify_eq_valid.mp verifies
  intro record member
  have decoded : record.link? floats ∈ (ordered records).map (·.link? floats) :=
    List.mem_map_of_mem (mem_ordered.mpr member)
  rw [decodes] at decoded
  obtain ⟨link, -, same⟩ := List.mem_map.mp decoded
  exact ⟨link, same.symm⟩

theorem ReceiptColumn.write_sequence (column : ReceiptColumn) (record : ReceiptRecord) :
    (column.write record).sequence = record.sequence := by
  cases column <;> rfl

theorem ordered_overwrite {record : ReceiptRecord} (member : record ∈ table.records)
    (column : ReceiptColumn) : ∃ front back, ordered table.records = front ++ record :: back ∧
      ordered (Tampering.apply table.records (.overwrite record.sequence column)) =
        front ++ column.write record :: back := by
  obtain ⟨front, back, split⟩ := List.append_of_mem (mem_ordered.mpr member)
  have sequences : ((ordered table.records).map (·.sequence)).Nodup :=
    ((List.perm_insertionSort _ table.records).map _).nodup_iff.mpr table.sequences
  have sorted := List.map_insertionSort
    (fun left right : ReceiptRecord => left.sequence ≤ right.sequence)
    (fun left right : ReceiptRecord => left.sequence ≤ right.sequence)
    (fun other => if other.sequence = record.sequence then column.write other else other)
    table.records (by
      have kept (other : ReceiptRecord) : (if other.sequence = record.sequence then
          column.write other else other).sequence = other.sequence := by
        split
        · exact ReceiptColumn.write_sequence column other
        · rfl
      intro left _ right _
      rw [kept, kept])
  refine ⟨front, back, split, ?_⟩
  rw [Tampering.apply, ordered, ← sorted, ← ordered, split, List.map_append, List.map_cons,
    if_pos rfl]
  rw [split, List.map_append, List.map_cons, List.nodup_append, List.nodup_cons] at sequences
  obtain ⟨-, ⟨later, -⟩, earlier⟩ := sequences
  have others {rows : List ReceiptRecord}
    (apart : ∀ other ∈ rows, other.sequence ≠ record.sequence) :
      rows.map (fun other => if other.sequence = record.sequence then column.write other else other)
        = rows := by
    rw [List.map_congr_left fun other member => if_neg (apart other member), List.map_id']
  rw [others, others]
  · intro other member same
    exact later (same ▸ List.mem_map_of_mem member)
  · intro other member
    exact earlier _ (List.mem_map_of_mem member) _ List.mem_cons_self

/-- An overwritten table passes only if the overwritten row still names its hash and carries its
own, and it passes if that row has the link that it had. -/
theorem overwrite_passes (passes : Passes sha256 floats table.records) {record : ReceiptRecord}
    (member : record ∈ table.records) {column : ReceiptColumn}
    {other : HashChain.Link String String}
    (decoded : (column.write record).link? floats = some other) :
    ∃ link ∈ links floats table.records, record.link? floats = some link ∧
      link.own = sha256.chain link.previous link.content ∧
      (other ∈ links floats (Tampering.apply table.records (.overwrite record.sequence column))) ∧
      (Passes sha256 floats (Tampering.apply table.records (.overwrite record.sequence column)) →
        other.previous = link.previous ∧ other.own = sha256.chain link.previous other.content) ∧
      (other = link → Passes sha256 floats (Tampering.apply table.records
          (.overwrite record.sequence column))) := by
  obtain ⟨count, head, verifies⟩ := passes
  obtain ⟨-, numbered, decodes, valid, -⟩ := verify_eq_valid.mp verifies
  obtain ⟨front, back, before, after⟩ := ordered_overwrite member column
  generalize links floats table.records = chain at decodes valid ⊢
  rw [before, List.map_append, List.map_cons, eq_comm, List.map_eq_append_iff] at decodes
  obtain ⟨frontLinks, rest, rfl, frontDecodes, decodes⟩ := decodes
  obtain ⟨link, backLinks, rfl, linkDecodes, backDecodes⟩ := List.map_eq_cons_iff.mp decodes
  have afterDecodes : (ordered (Tampering.apply table.records
      (.overwrite record.sequence column))).map (·.link? floats) =
      (frontLinks ++ other :: backLinks).map some := by
    rw [after, List.map_append, List.map_cons, decoded, List.map_append, List.map_cons,
      frontDecodes, backDecodes]
  have afterLinks := links_of_decodes afterDecodes
  have afterNumbered : Numbered 1 (ordered (Tampering.apply table.records
      (.overwrite record.sequence column))) := by
    rw [numbered_iff, before] at numbered
    rw [numbered_iff, after]
    simpa [ReceiptColumn.write_sequence] using numbered
  have replaced := HashChain.valid_replaced other valid
  have own := ((HashChain.valid_append _ _).mp valid).2
  refine ⟨link, by simp, linkDecodes.symm, own.1 ▸ own.2.1, afterLinks ▸ by simp, ?_, ?_⟩
  · rintro ⟨_, _, verifies⟩
    obtain ⟨-, -, -, afterValid, -⟩ := verify_eq_valid.mp verifies
    rw [afterLinks, replaced] at afterValid
    exact ⟨afterValid.1, afterValid.2.1⟩
  · rintro rfl
    refine ⟨_, _, verify_eq_valid.mpr ⟨rfl, afterNumbered, ?_, ?_, rfl⟩⟩
    · rw [afterLinks]
      exact afterDecodes
    · rw [afterLinks]
      exact valid

/-- A payload that is overwritten by no JSON document makes verification raise. -/
theorem overwrite_raises (passes : Passes sha256 floats table.records) {record : ReceiptRecord}
    (member : record ∈ table.records) {text : String} (unreadable : loads floats text = none) :
    verify sha256 floats (Tampering.apply table.records
      (.overwrite record.sequence (.payloadJson text))) = .error jsonDecodeError := by
  obtain ⟨count, head, verifies⟩ := passes
  obtain ⟨-, numbered, decodes, valid, -⟩ := verify_eq_valid.mp verifies
  obtain ⟨front, back, before, after⟩ := ordered_overwrite member (.payloadJson text)
  generalize links floats table.records = chain at decodes valid
  rw [before, List.map_append, List.map_cons, eq_comm, List.map_eq_append_iff] at decodes
  obtain ⟨frontLinks, rest, rfl, frontDecodes, -⟩ := decodes
  have frontNumbered : Numbered 1 front := by
    rw [numbered_iff, before, List.length_append, List.range'_append_1.symm, List.map_append,
      List.map_append] at numbered
    rw [numbered_iff]
    exact List.append_inj_left numbered (by simp)
  have frontValid := ((HashChain.valid_append _ _).mp valid).1
  rw [verify, after, verifyRows_append _ _ frontNumbered frontDecodes.symm frontValid, verifyRows,
    ReceiptColumn.write, unreadable]
  rfl

/-- An overwritten table passes or is reported as broken when the overwritten row can be decoded. -/
theorem overwrite_broken (passes : Passes sha256 floats table.records) {record : ReceiptRecord}
    (member : record ∈ table.records) {column : ReceiptColumn}
    {other : HashChain.Link String String}
    (decoded : (column.write record).link? floats = some other)
    (fails : ¬Passes sha256 floats
      (Tampering.apply table.records (.overwrite record.sequence column))) :
    ReportedBroken (verify sha256 floats
      (Tampering.apply table.records (.overwrite record.sequence column))) := by
  refine broken_of_decodes (fun row written => ?_) fails
  obtain ⟨before, stored, rfl⟩ := List.mem_map.mp written
  by_cases same : before.sequence = record.sequence
  · obtain rfl : before = record := List.inj_on_of_nodup_map table.sequences stored member same
    rw [if_pos rfl]
    exact ⟨other, decoded⟩
  · rw [if_neg same]
    exact decodes_of_passes passes before stored

/-- Another payload is reported as broken, unless its text and the old one have one digest. -/
theorem overwrite_payload (passes : Passes sha256 floats table.records) {record : ReceiptRecord}
    (member : record ∈ table.records) {text : String} {before payload : Json}
    (read : loads floats record.payloadJson = some before)
    (written : loads floats text = some payload)
    (different : payload.normal ≠ before.normal) :
    ReportedBroken (verify sha256 floats (Tampering.apply table.records
        (.overwrite record.sequence (.payloadJson text)))) ∨
      ChainCollision sha256 (links floats table.records) (links floats
        (Tampering.apply table.records (.overwrite record.sequence (.payloadJson text)))) := by
  have decoded : (ReceiptColumn.write (.payloadJson text) record).link? floats =
      some ⟨record.previousHash, canonicalJson payload, record.receiptHash⟩ := by
    rw [ReceiptRecord.link?, ReceiptColumn.write, written]
    rfl
  obtain ⟨link, linked, linkDecoded, own, otherLinked, only, -⟩ :=
    overwrite_passes passes member decoded
  by_cases after : Passes sha256 floats (Tampering.apply table.records
      (.overwrite record.sequence (.payloadJson text)))
  · right
    obtain ⟨-, otherOwn⟩ := only after
    rw [ReceiptRecord.link?, read, Option.map_some, Option.some.injEq] at linkDecoded
    subst linkDecoded
    refine ⟨_, linked, _, otherLinked, fun texts => different ?_, ?_⟩
    · have contents : canonicalJson before = canonicalJson payload :=
        String.append_right_inj _ |>.mp texts
      exact (normal_eq_of_canonicalJson (wellFormed_of_loads read) (wellFormed_of_loads written)
        contents).symm
    · exact own.symm.trans otherOwn
  · exact .inl (overwrite_broken passes member decoded after)

theorem hashes_of_decodes {records : List ReceiptRecord}
    {chain : List (HashChain.Link String String)}
    (decodes : records.map (·.link? floats) = chain.map some) :
    chain.map (·.own) = records.map (·.receiptHash) := by
  induction records generalizing chain with
  | nil =>
      obtain rfl := List.map_eq_nil_iff.mp decodes.symm
      rfl
  | cons record records induction =>
      cases chain with
      | nil => simp at decodes
      | cons link chain =>
          rw [List.map_cons, List.map_cons, List.cons.injEq] at decodes
          obtain ⟨decoded, decodes⟩ := decodes
          rw [ReceiptRecord.link?, Option.map_eq_some_iff] at decoded
          obtain ⟨payload, -, rfl⟩ := decoded
          rw [List.map_cons, List.map_cons, induction decodes]

/-- Rows that are told apart by a value are in one order if those values are. -/
theorem eq_of_perm_of_map {α β : Type} {value : α → β} {left right : List α}
    (perm : left.Perm right) (same : left.map value = right.map value)
    (distinct : (left.map value).Nodup) : left = right := by
  induction left generalizing right with
  | nil => exact (List.nil_perm.mp perm).symm
  | cons first left induction =>
      cases right with
      | nil => simp at same
      | cons other right =>
          rw [List.map_cons, List.map_cons, List.cons.injEq] at same
          rw [List.map_cons, List.nodup_cons, same.2, same.1] at distinct
          rcases List.mem_cons.mp (perm.mem_iff.mp List.mem_cons_self) with rfl | moved
          · rw [induction (perm.cons_inv) same.2 (same.2 ▸ distinct.2)]
          · exact absurd (same.1 ▸ List.mem_map_of_mem moved) distinct.1

/-- A table whose rows have got other sequence numbers passes only if none has. -/
theorem renumber_fails (passes : Passes sha256 floats table.records) {number : ReceiptRecord → Int}
    (after : Passes sha256 floats (Tampering.apply table.records (.renumber number))) :
    ∀ record ∈ table.records, number record = record.sequence := by
  obtain ⟨_, _, verifies⟩ := passes
  obtain ⟨_, _, afterVerifies⟩ := after
  obtain ⟨-, numbered, decodes, valid, -⟩ := verify_eq_valid.mp verifies
  obtain ⟨-, afterNumbered, afterDecodes, afterValid, -⟩ := verify_eq_valid.mp afterVerifies
  rw [Tampering.apply] at afterNumbered afterDecodes afterValid
  set renumber : ReceiptRecord → ReceiptRecord :=
    fun record => { record with sequence := number record }
  have perm : ((ordered table.records).map renumber).Perm
      (ordered (table.records.map renumber)) :=
    ((List.perm_insertionSort _ _).map renumber).trans (List.perm_insertionSort _ _).symm
  -- the links do not move, as the hash that each names has only one place
  have linkPerm : (links floats table.records).Perm
    (links floats (table.records.map renumber)) := by
    have moved := perm.filterMap (·.link? floats)
    rw [List.filterMap_map] at moved
    exact moved
  have hashes : ((ordered table.records).map (·.receiptHash)).Nodup :=
    ((List.perm_insertionSort _ table.records).map _).nodup_iff.mpr table.hashes
  have distinct : (genesis :: (links floats table.records).map (·.own)).Nodup := by
    rw [List.nodup_cons, hashes_of_decodes decodes]
    refine ⟨?_, hashes⟩
    rw [← hashes_of_decodes decodes]
    intro first
    obtain ⟨link, member, same⟩ := List.mem_map.mp first
    obtain ⟨digest, own⟩ := valid.own_eq link member
    exact sha256.chain_ne_genesis _ _ (own.symm.trans same)
  have sameLinks := HashChain.eq_of_perm linkPerm distinct valid afterValid
  -- so the rows do not move either, and their numbers count up as before
  have sameHashes : ((ordered table.records).map renumber).map (·.receiptHash) =
      (ordered (table.records.map renumber)).map (·.receiptHash) := by
    rw [← hashes_of_decodes afterDecodes, ← sameLinks, hashes_of_decodes decodes, List.map_map]
    rfl
  have sameRows := eq_of_perm_of_map perm sameHashes (by rw [List.map_map]; exact hashes)
  have numbers : (ordered table.records).map number = (ordered table.records).map (·.sequence) := by
    have counted := numbered_iff.mp afterNumbered
    rw [← sameRows, List.length_map, ← numbered_iff.mp numbered, List.map_map] at counted
    exact counted
  intro record member
  exact List.map_inj_left.mp numbers record (mem_ordered.mpr member)

/-- A table from which rows are deleted passes only if no older row than a kept one is. -/
theorem delete_fails (passes : Passes sha256 floats table.records) {kept : ReceiptRecord → Bool}
    (after : Passes sha256 floats (Tampering.apply table.records (.delete kept)))
    {gone left : ReceiptRecord} (goneMember : gone ∈ table.records)
    (leftMember : left ∈ table.records) (isKept : kept left = true)
    (older : gone.sequence < left.sequence) : kept gone = true := by
  obtain ⟨_, _, verifies⟩ := passes
  obtain ⟨_, _, afterVerifies⟩ := after
  obtain ⟨-, numbered, -⟩ := verify_eq_valid.mp verifies
  obtain ⟨-, afterNumbered, -⟩ := verify_eq_valid.mp afterVerifies
  rw [Tampering.apply] at afterNumbered
  have before := (sequences_of_valid numbered gone.sequence).mp ⟨gone, goneMember, rfl⟩
  have last := (sequences_of_valid afterNumbered left.sequence).mp
    ⟨left, List.mem_filter.mpr ⟨leftMember, isKept⟩, rfl⟩
  obtain ⟨record, member, same⟩ := (sequences_of_valid afterNumbered gone.sequence).mpr
    ⟨before.1, by omega⟩
  obtain ⟨stored, isKept⟩ := List.mem_filter.mp member
  obtain rfl : record = gone := List.inj_on_of_nodup_map table.sequences stored goneMember same
  exact isKept

end ReceiptLedger

open ReceiptLedger in
/-- Whatever genuine tampering a table that verifies suffers, verification reports it as broken
exactly when the chain covers what was changed, unless two texts hashed before and after have one
digest. -/
theorem receiptChain_evident (sha256 : Sha256) (floats : FloatRepr) (table : ReceiptTable)
    (tampering : Tampering) (passes : Passes sha256 floats table.records)
    (genuine : tampering.Genuine table.records) :
    (ReportedBroken (verify sha256 floats (tampering.apply table.records)) ↔
        tampering.Covered floats table.records) ∨
      ChainCollision sha256 (links floats table.records)
        (links floats (tampering.apply table.records)) := by
  have decodes := decodes_of_passes passes
  cases tampering with
  | renumber number =>
      refine .inl (iff_of_true (broken_of_decodes ?_ ?_) trivial)
      · intro record member
        obtain ⟨before, stored, rfl⟩ := List.mem_map.mp member
        exact decodes before stored
      · intro after
        obtain ⟨record, member, changed⟩ := genuine
        exact changed (renumber_fails passes after record member)
  | delete kept =>
      refine .inl (iff_of_true (broken_of_decodes ?_ ?_) trivial)
      · intro record member
        exact decodes record (List.mem_filter.mp member).1
      · intro after
        obtain ⟨gone, goneMember, left, leftMember, deleted, isKept, older⟩ := genuine
        rw [delete_fails passes after goneMember leftMember isKept older] at deleted
        cases deleted
  | overwrite sequence column =>
      obtain ⟨record, member, rfl, changed⟩ := genuine
      obtain ⟨link, decoded⟩ := decodes record member
      have unnoticed (same : (column.write record).link? floats = record.link? floats) :
          ¬ReportedBroken (verify sha256 floats (Tampering.apply table.records
            (.overwrite record.sequence column))) := by
        obtain ⟨_, -, linkDecoded, -, -, -, kept⟩ :=
          overwrite_passes passes member (same.trans decoded)
        exact (kept (Option.some.inj (decoded.symm.trans linkDecoded))).not_broken
      rw [ReceiptRecord.link?, Option.map_eq_some_iff] at decoded
      obtain ⟨before, read, rfl⟩ := decoded
      cases column with
      | id value => exact .inl (iff_of_false (unnoticed rfl) id)
      | executionId value => exact .inl (iff_of_false (unnoticed rfl) id)
      | createdAt value => exact .inl (iff_of_false (unnoticed rfl) id)
      | previousHash value =>
          have written : (ReceiptColumn.write (.previousHash value) record).link? floats =
              some ⟨value, canonicalJson before, record.receiptHash⟩ := by
            rw [ReceiptRecord.link?, ReceiptColumn.write, read]
            rfl
          refine .inl (iff_of_true (overwrite_broken passes member written fun after => ?_) trivial)
          obtain ⟨link, -, linkDecoded, -, -, only, -⟩ := overwrite_passes passes member written
          rw [ReceiptRecord.link?, read, Option.map_some, Option.some.injEq] at linkDecoded
          subst linkDecoded
          obtain rfl : value = record.previousHash := (only after).1
          exact changed rfl
      | receiptHash value =>
          have written : (ReceiptColumn.write (.receiptHash value) record).link? floats =
              some ⟨record.previousHash, canonicalJson before, value⟩ := by
            rw [ReceiptRecord.link?, ReceiptColumn.write, read]
            rfl
          refine .inl (iff_of_true (overwrite_broken passes member written fun after => ?_) trivial)
          obtain ⟨link, -, linkDecoded, own, -, only, -⟩ := overwrite_passes passes member written
          rw [ReceiptRecord.link?, read, Option.map_some, Option.some.injEq] at linkDecoded
          subst linkDecoded
          obtain rfl : value = record.receiptHash := (only after).2.trans own.symm
          exact changed rfl
      | payloadJson text =>
          cases written : loads floats text with
          | none =>
              refine .inl (iff_of_false ?_ ?_)
              · rintro ⟨_, _, _, _, broken⟩
                rw [overwrite_raises passes member written] at broken
                cases broken
              · rintro ⟨payload, read, -⟩
                rw [written] at read
                cases read
          | some payload =>
              by_cases same : payload.normal = before.normal
              · refine .inl (iff_of_false (unnoticed ?_) ?_)
                · have texts : canonicalJson payload = canonicalJson before := by
                    rw [← canonicalJson_normal, same, canonicalJson_normal]
                  rw [ReceiptRecord.link?, ReceiptRecord.link?, ReceiptColumn.write, written, read,
                    Option.map_some, Option.map_some, texts]
                · rintro ⟨found, foundRead, different⟩
                  obtain rfl := Option.some.inj (written.symm.trans foundRead)
                  exact different record member rfl before read same
              · rcases overwrite_payload passes member read written same with broken | collision
                · refine .inl (iff_of_true broken ⟨payload, written, ?_⟩)
                  intro other stored sameSequence found foundRead
                  obtain rfl : other = record :=
                    List.inj_on_of_nodup_map table.sequences stored member sameSequence
                  obtain rfl := Option.some.inj (read.symm.trans foundRead)
                  exact same
                · exact .inr collision

def firstPayload : Json := .obj [("execution_id", .str "exec_1")]

def firstLink (sha256 : Sha256) : HashChain.Link String String :=
  ⟨genesis, canonicalJson firstPayload, sha256.chain genesis (canonicalJson firstPayload)⟩

def firstRecord (sha256 : Sha256) (executionId : String) : ReceiptRecord :=
  ⟨1, "rcpt_1", executionId, canonicalJson firstPayload, genesis, (firstLink sha256).own,
    "2026-01-01T00:00:00.000+00:00"⟩

def firstReceipt (sha256 : Sha256) : ReceiptTable where
  records := [firstRecord sha256 "exec_1"]
  sequences := List.nodup_singleton _
  hashes := List.nodup_singleton _

/-- Give the receipt to another execution. -/
def reattribution : Tampering := .overwrite 1 (.executionId "exec_2")

theorem reattribution_genuine (sha256 : Sha256) :
    reattribution.Genuine (firstReceipt sha256).records := by
  refine ⟨firstRecord sha256 "exec_1", List.mem_singleton_self _, rfl, fun same => ?_⟩
  have names : "exec_2" = "exec_1" := congrArg ReceiptRecord.executionId same
  exact absurd names (by decide)

theorem firstRecord_decodes (sha256 : Sha256) (floats : FloatRepr) (executionId : String) :
    (ReceiptLedger.ordered [firstRecord sha256 executionId]).map (·.link? floats) =
      [firstLink sha256].map some := by
  have payload : firstPayload.WellFormed floats :=
    .obj _ (List.nodup_singleton _) (List.forall_mem_singleton.mpr (.str _))
  have alone : ReceiptLedger.ordered [firstRecord sha256 executionId] =
      [firstRecord sha256 executionId] := rfl
  rw [alone, List.map_singleton, ReceiptRecord.link?, firstRecord, loads_canonicalJson payload,
    Option.map_some, canonicalJson_normal]
  rfl

theorem firstRecord_passes (sha256 : Sha256) (floats : FloatRepr) (executionId : String) :
    ReceiptLedger.Passes sha256 floats [firstRecord sha256 executionId] := by
  have decodes := firstRecord_decodes sha256 floats executionId
  have chain := ReceiptLedger.links_of_decodes decodes
  refine ⟨_, _, ReceiptLedger.verify_eq_valid.mpr ⟨rfl, ⟨rfl, trivial⟩, ?_, ?_, rfl⟩⟩
  · rw [chain]
    exact decodes
  · rw [chain]
    exact ⟨rfl, rfl, trivial⟩

/-- No digest function makes verification report every genuine tampering: the first receipt can be
given to another execution, and its chain keeps the one text that it has. -/
theorem receipt_reattributed : ¬∃ (sha256 : Sha256) (floats : FloatRepr),
    ∀ (table : ReceiptTable) (tampering : Tampering),
      ReceiptLedger.Passes sha256 floats table.records → tampering.Genuine table.records →
      ReportedBroken (ReceiptLedger.verify sha256 floats (tampering.apply table.records)) ∨
        ChainCollision sha256 (ReceiptLedger.links floats table.records)
          (ReceiptLedger.links floats (tampering.apply table.records)) := by
  rintro ⟨sha256, floats, reported⟩
  rcases reported (firstReceipt sha256) reattribution (firstRecord_passes sha256 floats "exec_1")
    (reattribution_genuine sha256) with broken | ⟨one, oneMember, two, twoMember, different, -⟩
  · exact (firstRecord_passes sha256 floats "exec_2").not_broken broken
  · have before : ReceiptLedger.links floats (firstReceipt sha256).records = [firstLink sha256] :=
      ReceiptLedger.links_of_decodes (firstRecord_decodes sha256 floats "exec_1")
    have after : ReceiptLedger.links floats (reattribution.apply (firstReceipt sha256).records) =
        [firstLink sha256] :=
      ReceiptLedger.links_of_decodes (firstRecord_decodes sha256 floats "exec_2")
    rw [before] at oneMember
    rw [after] at twoMember
    rw [List.mem_singleton.mp oneMember, List.mem_singleton.mp twoMember] at different
    exact different rfl

theorem receiptChain_evident_reattribution :
    (ReportedBroken (ReceiptLedger.verify sampleDigest default
        (reattribution.apply (firstReceipt sampleDigest).records)) ↔
        reattribution.Covered default (firstReceipt sampleDigest).records) ∨
      ChainCollision sampleDigest (ReceiptLedger.links default (firstReceipt sampleDigest).records)
        (ReceiptLedger.links default (reattribution.apply (firstReceipt sampleDigest).records)) :=
  receiptChain_evident sampleDigest default (firstReceipt sampleDigest) reattribution
    (firstRecord_passes sampleDigest default "exec_1") (reattribution_genuine sampleDigest)

end VoodooOne
