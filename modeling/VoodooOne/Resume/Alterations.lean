import VoodooOne.Resume.CheckedRows

/-!
# Altered lineages

A resume denies a lineage in which one column of one row is altered, or in which a row is replaced
by the row of another execution.
-/

namespace VoodooOne

def Denial (error : Raised) : Prop := ∃ reason, error = resumeDenied reason

theorem denial (reason : String) : Denial (resumeDenied reason) := ⟨reason, rfl⟩

theorem Raises.denied {α : Type} {reason : String} {body : Except Raised α}
    (raises : Raises (· = resumeDenied reason) body) : Raises Denial body :=
  fun error raised => ⟨reason, raises error raised⟩

theorem raises_oneRow (table : List StoredRow) (column value artifact : String) :
    Raises Denial (oneRow table column value artifact) := by
  unfold oneRow
  split
  · exact raises_error (denial _)
  · exact raises_ok _
  · exact raises_error (denial _)

theorem LineageTables.raises_rows (tables : LineageTables) (executionId : String) :
    Raises Denial (tables.rows executionId) := by
  have identified (value : Json) (field : String) : Raises (Caught decodeErrors)
      (requireText value field) := raises_requireText caught_value value field
  exact (raises_oneRow _ _ _ _).bind fun _ => (raises_oneRow _ _ _ _).bind fun _ =>
    (raises_caught (identified _ _)).denied.bind fun _ => (raises_oneRow _ _ _ _).bind fun _ =>
      (raises_oneRow _ _ _ _).bind fun _ => (raises_oneRow _ _ _ _).bind fun _ =>
        (raises_oneRow _ _ _ _).bind fun _ => raises_pure _

theorem StoredRow.raises_requireProjection (row : StoredRow)
    (expected : List (String × ExpectedValue)) (reason : String) :
    Raises Denial (row.requireProjection expected (resumeDenied reason)) :=
  raises_forEach fun _ => raises_raiseIf (denial reason)

/-- An envelope and its bindings raise only what their clause catches. -/
theorem LineageDocuments.raises_boundEnvelope (sha256 : String → String)
    (envelopeRevision : String) (documents : LineageDocuments) :
    Raises Denial (documents.boundEnvelope sha256 envelopeRevision) := by
  have value (message : String) :
      Caught [.permissionError, .valueError] (valueError message) := rfl
  have constructed (self : Attributes) : Raises (Caught [.permissionError, .valueError])
      (DispatchEnvelope.contract.construct sha256 self) := by
    refine (AttributeCheck.raises_performAll value (fun field options message member => ?_)
      fun field condition member => ?_).bind fun _ => ?_
    · simp [DispatchEnvelope.contract, requireTexts, requireDigests] at member
    · simp [DispatchEnvelope.contract, requireTexts, requireDigests] at member
    · exact ((raises_dispatchConditions value _ _ _ _ _).bind fun _ =>
        (raises_raiseIf (value _)).bind fun _ => raises_raiseIf (value _)).bind fun _ =>
          (raises_raiseIf (value _)).bind fun _ => raises_pure _
  have envelopeBound (envelope : DispatchEnvelope) (entry : DispatchOutboxEntry) :
      Raises (Caught [.permissionError, .valueError]) (envelope.assertBoundTo sha256 entry) :=
    raises_raiseIf rfl
  have admissionBound (envelope : DispatchEnvelope) :
    Raises (Caught [.permissionError, .valueError])
      (documents.admission.assertBoundTo sha256 envelope documents.outbox) :=
    (envelopeBound envelope documents.outbox).bind fun _ => raises_raiseIf rfl
  have leaseBound : Raises (Caught [.permissionError, .valueError])
      (documents.lease.assertBoundTo documents.admission) := raises_raiseIf rfl
  exact (raises_caught <| ((raises_requireText value _ _).bind fun _ => constructed _).bind fun _ =>
    (admissionBound _).bind fun _ => leaseBound.bind fun _ => raises_pure _).denied

theorem LineageRows.raises_documents (sha256 : String → String) (floats : FloatRepr)
    (rows : LineageRows) : Raises Denial (rows.documents sha256 floats) :=
  have conformance := ExecutionConformanceWitness.lawful_documentKind sha256
  have clock := ClockWitness.lawful_documentKind sha256
  (DocumentKind.raises_decodeValue (ExecutionGrantV2.lawful_documentKind sha256)).denied.bind
    fun _ => (DocumentKind.raises_decodeValue conformance).denied.bind fun _ =>
      (DocumentKind.raises_decodeValue clock).denied.bind fun _ =>
        (DocumentKind.raises_decodeValue
          (GrantConsumptionWitness.lawful_documentKind sha256)).denied.bind fun _ =>
            (DocumentKind.raises_decodeValue conformance).denied.bind fun _ =>
              (DocumentKind.raises_decodeValue clock).denied.bind fun _ =>
                (DocumentKind.raises_decodeValue
                  (DispatchOutboxEntry.lawful_documentKind sha256)).denied.bind fun _ =>
                    (DocumentKind.raises_decodeValue
                      (DispatchInboxAdmission.lawful_documentKind sha256)).denied.bind fun _ =>
                        (DocumentKind.raises_decodeValue
                          (ExecutionLease.lawful_documentKind sha256)).denied.bind fun _ =>
                            (DocumentKind.raises_decodeValue clock).denied.bind fun _ =>
                              raises_pure _

theorem LineageDocuments.raises_validateChain (documents : LineageDocuments)
    (snapshot : AuthorizationSnapshot) : Raises Denial (documents.validateChain snapshot) :=
  (raises_raiseIf (denial _)).bind fun _ => (raises_raiseIf (denial _)).bind fun _ =>
    (raises_raiseIf (denial _)).bind fun _ => (raises_raiseIf (denial _)).bind fun _ =>
      (raises_raiseIf (denial _)).bind fun _ => raises_raiseIf (denial _)

theorem LineageRows.raises_validated (sha256 : String → String) (floats : FloatRepr)
    (envelopeRevision : String) (rows : LineageRows) (snapshot : AuthorizationSnapshot) :
    Raises Denial (rows.validated sha256 floats envelopeRevision snapshot) := by
  refine (rows.raises_documents sha256 floats).bind fun documents =>
    (StoredRow.raises_requireProjection _ _ _).bind fun _ => ?_
  have grantWitnesses : Raises Denial (rows.validateGrantSupportingWitnesses documents.grant
      documents.issuanceConformance documents.storeClock) :=
    (StoredRow.raises_requireProjection _ _ _).bind fun _ =>
      (raises_raiseIf (denial _)).bind fun _ => raises_raiseIf (denial _)
  have consumptionWitnesses : Raises Denial (validateConsumptionSupportingWitnesses
      documents.grant documents.consumption documents.conformance documents.clock) :=
    (raises_raiseIf (denial _)).bind fun _ => raises_raiseIf (denial _)
  have epochState : Raises Denial (rows.validateEpochState documents.admission documents.lease) :=
    (raises_raiseIf (denial _)).bind fun _ => StoredRow.raises_requireProjection _ _ _
  have leaseClock : Raises Denial documents.validateLeaseClock := raises_raiseIf (denial _)
  exact grantWitnesses.bind fun _ => (StoredRow.raises_requireProjection _ _ _).bind fun _ =>
    consumptionWitnesses.bind fun _ => (StoredRow.raises_requireProjection _ _ _).bind fun _ =>
      (StoredRow.raises_requireProjection _ _ _).bind fun _ =>
        (StoredRow.raises_requireProjection _ _ _).bind fun _ => leaseClock.bind fun _ =>
          (documents.raises_validateChain snapshot).bind fun _ =>
            (documents.raises_boundEnvelope sha256 envelopeRevision).bind fun _ =>
              epochState.bind fun _ => raises_pure _

theorem oneRow_replaced {before after : List StoredRow} {row altered found : StoredRow}
    {column value artifact : String}
    (own : oneRow (before ++ row :: after) column value artifact = .ok row)
    (again : oneRow (before ++ altered :: after) column value artifact = .ok found) :
    found = altered := by
  have selected {table : List StoredRow} {one : StoredRow}
      (isOne : oneRow table column value artifact = .ok one) :
      table.filter (·.texts column = value) = [one] := by
    unfold oneRow at isOne
    split at isOne
    · cases isOne
    · next other filtered =>
      rw [filtered, Except.ok.inj isOne]
    · cases isOne
  have alone := selected own
  have foundAlone := selected again
  have matched : row.texts column = value := by
    have member : row ∈ (before ++ row :: after).filter (·.texts column = value) :=
      alone ▸ List.mem_singleton_self row
    simpa using (List.mem_filter.mp member).2
  rw [List.filter_append, List.filter_cons_of_pos (by simpa using matched)] at alone
  have lengths := congrArg List.length alone
  rw [List.length_append, List.length_cons, List.length_singleton] at lengths
  have noneBefore : before.filter (·.texts column = value) = [] :=
    List.length_eq_zero_iff.mp (by omega)
  have noneAfter : after.filter (·.texts column = value) = [] :=
    List.length_eq_zero_iff.mp (by omega)
  rw [List.filter_append, noneBefore, List.filter_cons, noneAfter] at foundAlone
  split at foundAlone
  · simpa using foundAlone.symm
  · simp at foundAlone

structure LineageTables.Finds (tables : LineageTables) (executionId : String)
    (rows : LineageRows) : Prop where
  grant : oneRow tables.grants "execution_id" executionId "GRANT" = .ok rows.grant
  outbox : oneRow tables.outbox "execution_id" executionId "OUTBOX" = .ok rows.outbox
  consumption : oneRow tables.consumptions "consumption_id"
    (rows.outbox.texts "consumption_id") "CONSUMPTION" = .ok rows.consumption
  inbox : oneRow tables.inbox "execution_id" executionId "INBOX" = .ok rows.inbox
  epochState :
    oneRow tables.epochStates "execution_id" executionId "EPOCH_STATE" = .ok rows.epochState
  lease : oneRow tables.leases "lease_id" (rows.epochState.texts "current_lease_id") "LEASE" =
    .ok rows.lease

theorem LineageTables.finds_of_rows {tables : LineageTables} {executionId : String}
    {rows : LineageRows} (read : tables.rows executionId = .ok rows) :
    tables.Finds executionId rows := by
  simp only [LineageTables.rows, bind_eq_ok, catching_eq_ok, requireText_eq_ok, Json.str.injEq,
    pure_eq_ok] at read
  obtain ⟨_, grant, _, outbox, _, ⟨rfl, -⟩, _, consumption, _, inbox, _, epochState, _, lease,
    rfl⟩ := read
  exact ⟨grant, outbox, consumption, inbox, epochState, lease⟩

/-- A row with another value in one of its columns, or the row of another execution. -/
def StoredRow.Alters (statement : SelectStatement) (row altered : StoredRow) : Prop :=
  row.ChangesColumn statement altered ∨ altered.texts "execution_id" ≠ row.texts "execution_id"

inductive LineageTables.Alters (rows : LineageRows) (tables : LineageTables) :
    LineageTables → Prop where
  | grant (before after : List StoredRow) (altered : StoredRow)
      (own : tables.grants = before ++ rows.grant :: after)
      (alters : rows.grant.Alters selectGrantByExecution altered) :
      Alters rows tables { tables with grants := before ++ altered :: after }
  | consumption (before after : List StoredRow) (altered : StoredRow)
      (own : tables.consumptions = before ++ rows.consumption :: after)
      (alters : rows.consumption.Alters selectConsumptionById altered) :
      Alters rows tables { tables with consumptions := before ++ altered :: after }
  | outbox (before after : List StoredRow) (altered : StoredRow)
      (own : tables.outbox = before ++ rows.outbox :: after)
      (alters : rows.outbox.Alters selectOutboxByExecution altered) :
      Alters rows tables { tables with outbox := before ++ altered :: after }
  | inbox (before after : List StoredRow) (altered : StoredRow)
      (own : tables.inbox = before ++ rows.inbox :: after)
      (alters : rows.inbox.Alters selectInboxByExecution altered) :
      Alters rows tables { tables with inbox := before ++ altered :: after }
  | epochState (before after : List StoredRow) (altered : StoredRow)
      (own : tables.epochStates = before ++ rows.epochState :: after)
      (alters : rows.epochState.Alters selectEpochStateByExecution altered) :
      Alters rows tables { tables with epochStates := before ++ altered :: after }
  | lease (before after : List StoredRow) (altered : StoredRow)
      (own : tables.leases = before ++ rows.lease :: after)
      (alters : rows.lease.Alters selectLeaseById altered) :
      Alters rows tables { tables with leases := before ++ altered :: after }

section Alterations

variable {sha256 : String → String} {floats : FloatRepr} {tables altered : LineageTables}
  {execution : String} {rows others : LineageRows} {documents otherDocuments : LineageDocuments}

theorem oneRow_matches {table : List StoredRow} {row : StoredRow}
    {column value artifact : String} (found : oneRow table column value artifact = .ok row) :
    row.texts column = value := by
  unfold oneRow at found
  split at found
  · cases found
  · next other filtered =>
    obtain rfl := Except.ok.inj found
    have member : other ∈ table.filter (·.texts column = value) :=
      filtered ▸ List.mem_singleton_self other
    simpa using (List.mem_filter.mp member).2
  · cases found

theorem LineageTables.Finds.ofExecution (finds : tables.Finds execution rows)
    (checked : rows.Checked sha256 floats documents) :
    ∀ row ∈ [rows.grant, rows.consumption, rows.outbox, rows.inbox, rows.epochState, rows.lease],
      row.texts "execution_id" = execution := by
  intro row member
  rw [checked.executionId row member, ← checked.executionId _ (List.mem_cons_self ..)]
  exact oneRow_matches finds.grant

theorem StoredRow.Alters.changesColumn {statement : SelectStatement} {row other : StoredRow}
    (alters : row.Alters statement other)
    (same : other.texts "execution_id" = row.texts "execution_id") :
    row.ChangesColumn statement other := alters.resolve_right (not_not.mpr same)

theorem LineageTables.Alters.unchecked (alters : tables.Alters rows altered)
    (finds : tables.Finds execution rows) (again : altered.Finds execution others)
    (checked : rows.Checked sha256 floats documents)
    (checkedAgain : others.Checked sha256 floats otherDocuments)
    (free : documents.Apart sha256 otherDocuments) : False := by
  have own := finds.ofExecution checked
  have other := again.ofExecution checkedAgain
  simp only [List.forall_mem_cons] at own other
  obtain ⟨ownGrant, ownConsumption, ownOutbox, ownInbox, ownState, ownLease, -⟩ := own
  obtain ⟨grant, consumption, outbox, inbox, state, lease, -⟩ := other
  cases alters with
  | grant before after row isOwn alters =>
      obtain rfl := oneRow_replaced (isOwn ▸ finds.grant) again.grant
      exact LineageRows.grant_unaltered checked checkedAgain free
        (alters.changesColumn (grant.trans ownGrant.symm))
  | consumption before after row isOwn alters =>
      have sameOutbox : others.outbox = rows.outbox :=
        Except.ok.inj (again.outbox.symm.trans finds.outbox)
      have found := again.consumption
      rw [sameOutbox] at found
      obtain rfl := oneRow_replaced (isOwn ▸ finds.consumption) found
      exact LineageRows.consumption_unaltered checked checkedAgain free
        (alters.changesColumn (consumption.trans ownConsumption.symm))
  | outbox before after row isOwn alters =>
      obtain rfl := oneRow_replaced (isOwn ▸ finds.outbox) again.outbox
      exact LineageRows.outbox_unaltered checked checkedAgain free
        (alters.changesColumn (outbox.trans ownOutbox.symm))
  | inbox before after row isOwn alters =>
      obtain rfl := oneRow_replaced (isOwn ▸ finds.inbox) again.inbox
      exact LineageRows.inbox_unaltered checked checkedAgain free
        (alters.changesColumn (inbox.trans ownInbox.symm))
  | epochState before after row isOwn alters =>
      obtain rfl := oneRow_replaced (isOwn ▸ finds.epochState) again.epochState
      refine LineageRows.epochState_unaltered checked checkedAgain free
        (Except.ok.inj (again.inbox.symm.trans finds.inbox)) (fun sameId => ?_)
        (alters.changesColumn (state.trans ownState.symm))
      have found := again.lease
      rw [sameId] at found
      exact Except.ok.inj (found.symm.trans finds.lease)
  | lease before after row isOwn alters =>
      have sameState : others.epochState = rows.epochState :=
        Except.ok.inj (again.epochState.symm.trans finds.epochState)
      have found := again.lease
      rw [sameState] at found
      obtain rfl := oneRow_replaced (isOwn ▸ finds.lease) found
      exact LineageRows.lease_unaltered checked checkedAgain free
        (alters.changesColumn (lease.trans ownLease.symm))

end Alterations

/-- An operation that was resumed, and an alteration of one row of its lineage. -/
structure AlteredOperation (sha256 : String → String) (floats : FloatRepr) where
  service : CanonicalOperationResumeService
  db : Database
  (tables altered : LineageTables)
  rows : LineageRows
  reading : ClockReading
  (actorId executionId : String)
  prepared : CanonicalPreparedExecution
  resumed :
    service.resume sha256 floats db tables reading actorId executionId = .ok prepared
  found : tables.rows executionId = .ok rows
  alters : tables.Alters rows altered

/-- Two different digested texts of the lineage and of the altered one have the same digest. -/
def AlteredOperation.Collides {sha256 : String → String} {floats : FloatRepr}
    (operation : AlteredOperation sha256 floats) : Prop :=
  ∃ others documents otherDocuments,
    operation.rows.documents sha256 floats = .ok documents ∧
      operation.altered.rows operation.executionId = .ok others ∧
        others.documents sha256 floats = .ok otherDocuments ∧ ¬documents.Apart sha256 otherDocuments

end VoodooOne
