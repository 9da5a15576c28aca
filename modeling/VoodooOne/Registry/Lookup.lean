import VoodooOne.Registry.Projects
import VoodooOne.Registry.Reconciliation

/-!
# Lookups of shared state

The pointer of a project is stored under the identifier of the project.  A lookup accepts every
identity of a project, and reads the key of the identity that it was given.
-/

namespace VoodooOne

open DurableControlPlaneRegistry

def DurableControlPlaneRegistry.sharedState (interpreter : Interpreter) (identity : String)
    (db : Database) : Except Raised SharedStatePointer := do
  let projects ← projectRegistry interpreter db
  let _ ← projects.resolve identity
  currentPointer interpreter db identity

namespace RegistryWorld

variable {interpreter : Interpreter}

/-- The pointer that a call returns, if it commits a transition of the project. -/
def committedPointer (projectId : String) (world : RegistryWorld) :
    RegistryCall interpreter → Option SharedStatePointer
  | .write (.reconcile now stamp event built) =>
      if world.Enabled (.reconcile now stamp event built) ∧ event.project.projectId = projectId ∧
          event.stateTransition.isSome then
        (appendAndReconcile interpreter now stamp event world.db).toOption.map Prod.fst
      else none
  | _ => none

/-- The pointers of the transitions of a project that a run commits, in order. -/
def committedPointers (projectId : String) :
    RegistryWorld → List (RegistryCall interpreter) → List SharedStatePointer
  | _, [] => []
  | world, call :: calls =>
      (world.committedPointer projectId call).toList ++ committedPointers projectId
        (world.step call) calls

end RegistryWorld

theorem requireNonemptyAll_mem {field : String} {values normalized : List String}
    (first : requireNonemptyAll field values = .ok normalized) {text : String}
    (member : text ∈ normalized) (other : String) : requireNonempty text other = .ok text := by
  induction values generalizing normalized with
  | nil =>
      cases first
      cases member
  | cons value values induction =>
      simp only [requireNonemptyAll, bind_eq_ok, pure_eq_ok] at first
      obtain ⟨own, isOwn, texts, areTexts, rfl⟩ := first
      rcases List.mem_cons.mp member with rfl | later
      · exact requireNonempty_again isOwn other
      · exact induction areTexts later

theorem ProjectDescriptor.Built.identity_normalized {project : ProjectDescriptor}
    (built : project.Built) {identity : String} (own : identity ∈ project.identities)
    (field : String) : requireNonempty identity field = .ok identity := by
  rcases List.mem_cons.mp own with rfl | listed
  · exact built.normalized field
  · obtain ⟨_, _, _, _, constructed⟩ := built
    simp only [construct, bind_eq_ok, pure_eq_ok] at constructed
    obtain ⟨_, -, _, -, _, -, _, -, _, -, _, normalized, _, -, _, -, rfl⟩ := constructed
    exact requireNonemptyAll_mem normalized listed field

theorem SharedStatePointer.Built.nonneg {interpreter : Interpreter} {pointer : SharedStatePointer}
    (built : pointer.Built interpreter) : 0 ≤ pointer.revision := by
  simp only [Built, construct, bind_eq_ok, raiseIf_eq_ok] at built
  obtain ⟨_, -, _, nonneg, -⟩ := built
  exact not_lt.mp nonneg

section Stored

variable {interpreter : Interpreter} {db next : Database} {projectId : String}

theorem currentPointer_congr
    (value : next.registryValue (.sharedState projectId) =
      db.registryValue (.sharedState projectId)) :
    currentPointer interpreter next projectId = currentPointer interpreter db projectId := by
  rw [currentPointer, value, currentPointer]

variable {pointer : SharedStatePointer} {event : ControlPlaneEvent}

theorem currentPointer_stored (built : pointer.Built interpreter)
    (stored : db.registryValue (.sharedState projectId) = some (.record pointer.asDict)) :
    currentPointer interpreter db projectId = .ok pointer := by
  have read := built.fromDict_asDict
  rw [SharedStatePointer.asDict] at stored read
  rw [currentPointer, stored]
  simp only [decodeObject_object, ok_bind, read]

theorem currentPointer_absent (normalized : requireNonempty projectId "project_id" = .ok projectId)
    (absent : db.registryValue (.sharedState projectId) = none) :
    currentPointer interpreter db projectId = .ok (SharedStatePointer.initial projectId) := by
  rw [currentPointer, absent]
  exact SharedStatePointer.genesis_eq_initial normalized

theorem currentPointer_nonneg (found : currentPointer interpreter db projectId = .ok pointer) :
    0 ≤ pointer.revision := by
  rw [currentPointer] at found
  split at found
  · exact (SharedStatePointer.construct_eq_ok found).built.nonneg
  · simp only [bind_eq_ok, SharedStatePointer.fromDict, catching_eq_ok] at found
    obtain ⟨_, -, _, -, _, -, constructed⟩ := found
    exact (SharedStatePointer.construct_eq_ok constructed).built.nonneg

theorem storePointer_absent {now : String}
    (absent : db.registryValue (.sharedState event.project.projectId) = none) :
    ∃ after, storePointer now event pointer db = .ok after := by
  have noRow : ¬∃ other ∈ db.runtimeFlags,
      other.key = (RegistryKey.sharedState event.project.projectId).text := by
    rw [Database.registryValue, Option.map_eq_none_iff, Table.lookup_eq_none] at absent
    rintro ⟨other, member, same⟩
    exact absent other member same
  have inserted (row : RuntimeFlagRow)
      (names : row.key = (RegistryKey.sharedState event.project.projectId).text) :
      db.insertFlag row = .ok (db.setRuntimeFlags (db.runtimeFlags ++ [row])) := by
    rw [Database.insertFlag, names, raiseIf, if_neg noRow]
    rfl
  unfold storePointer
  simp only [absent, catching_eq_ok]
  exact ⟨_, inserted _ rfl⟩

/-- A pointer that a transition produced is the stored one afterwards, and not at genesis. -/
theorem currentPointer_committed {now : String} {stamp : Stamp}
    (keyed : Table.Keyed (·.key) db.runtimeFlags) (carries : event.stateTransition.isSome)
    (returned : appendAndReconcile interpreter now stamp event db = .ok (pointer, next)) :
    currentPointer interpreter next event.project.projectId = .ok pointer ∧
      0 < pointer.revision := by
  simp only [appendAndReconcile, bind_eq_ok, conflicting_eq_ok] at returned
  obtain ⟨current, found, after, applied, logged, appended, settled⟩ := returned
  obtain ⟨rfl, -⟩ := Database.appendAudit_eq_ok appended
  obtain ⟨-, ⟨noTransition, -⟩ | ⟨transition, -, -, constructed⟩⟩ :=
    ControlPlaneReconciler.apply_eq_ok applied
  · rw [noTransition] at carries
    cases carries
  · have result := SharedStatePointer.construct_eq_ok constructed
    have changed : after ≠ current := by
      rintro rfl
      have advanced := result.revision
      omega
    rw [if_neg changed] at settled
    simp only [bind_eq_ok, pure_eq_ok, Prod.mk.injEq] at settled
    obtain ⟨_, stored, rfl, rfl⟩ := settled
    have nonneg := currentPointer_nonneg found
    have advanced := result.revision
    refine ⟨?_, by omega⟩
    rw [storePointer_eq_ok (by exact keyed) stored]
    exact currentPointer_stored result.built (Database.registryValue_written _ _ _ _ _)

theorem registryValue_kept {now : String} {stamp : Stamp} (carries : ¬event.stateTransition.isSome)
    (returned : appendAndReconcile interpreter now stamp event db = .ok (pointer, next))
    (key : RegistryKey) : next.registryValue key = db.registryValue key := by
  simp only [appendAndReconcile, bind_eq_ok, conflicting_eq_ok] at returned
  obtain ⟨current, found, after, applied, logged, appended, settled⟩ := returned
  obtain ⟨rfl, -⟩ := Database.appendAudit_eq_ok appended
  obtain ⟨-, ⟨-, rfl⟩ | ⟨transition, isTransition, -⟩⟩ := ControlPlaneReconciler.apply_eq_ok applied
  · rw [if_pos rfl] at settled
    cases settled
    rfl
  · rw [isTransition] at carries
    exact absurd rfl carries

end Stored

theorem ControlPlaneReconciler.apply_transition {sha256 : String → String}
    {current : SharedStatePointer} {event : ControlPlaneEvent} {transition : StateTransition}
    (project : event.project.projectId = current.projectId)
    (carried : event.stateTransition = some transition)
    (extending : transition.previousStateHash = current.stateHash) :
    apply sha256 current event = SharedStatePointer.construct sha256 current.projectId
      (current.revision + 1) transition.nextStateHash transition.nextState (some event.eventId)
      (some event.correlation.correlationId) (some event.occurredAt) := by
  rw [apply, raiseIf, if_neg (not_not.mpr project), ok_bind, carried]
  dsimp only
  rw [raiseIf, if_neg (not_not.mpr extending), ok_bind]

section Runs

variable {interpreter : Interpreter} {world : RegistryWorld} {projectId : String}

theorem currentPointer_step (keyed : Table.Keyed (·.key) world.db.runtimeFlags)
    (call : RegistryCall interpreter) :
    currentPointer interpreter (world.step call).db projectId =
      ((world.committedPointer projectId call).map Except.ok).getD
        (currentPointer interpreter world.db projectId) := by
  have other (about : ∀ write, call = .write write → write.key ≠ some (.sharedState projectId)) :
      currentPointer interpreter (world.step call).db projectId =
        currentPointer interpreter world.db projectId := by
    have move := world.step_cases keyed call
    generalize world.step call = next at move
    cases move with
    | kept => rfl
    | committed write next checked enabled step =>
        exact currentPointer_congr (step.kept (about write rfl))
  cases call with
  | check check => exact other fun _ isWrite => by cases isWrite
  | write write =>
      cases write with
      | reconcile now stamp event built =>
          rw [RegistryWorld.committedPointer]
          by_cases same : event.project.projectId = projectId
          · subst same
            rw [RegistryWorld.step]
            by_cases enabled : world.Enabled (.reconcile now stamp event built)
            · rw [if_pos enabled, RegistryWorld.commit]
              cases returned : appendAndReconcile interpreter now stamp event world.db with
              | error error =>
                  rw [Transaction.commit_of_error (by rw [RegistryWrite.body, returned]; rfl)]
                  split <;> rfl
              | ok outcome =>
                  obtain ⟨pointer, next⟩ := outcome
                  rw [Transaction.commit_of_ok (by rw [RegistryWrite.body, returned]; rfl)]
                  by_cases carries : event.stateTransition.isSome
                  · rw [if_pos ⟨enabled, rfl, carries⟩]
                    exact (currentPointer_committed keyed carries returned).1
                  · rw [if_neg fun both => carries both.2.2]
                    exact currentPointer_congr (registryValue_kept carries returned _)
            · rw [if_neg enabled, if_neg fun both => enabled both.1]
              rfl
          · rw [if_neg fun both => same both.2.1]
            refine other fun write isWrite => ?_
            cases isWrite
            exact fun key => same (RegistryKey.sharedState.inj (Option.some.inj key))
      | _ =>
          refine other fun write isWrite => ?_
          cases isWrite
          exact fun key => by cases key

theorem committedPointer_pos (keyed : Table.Keyed (·.key) world.db.runtimeFlags)
    {call : RegistryCall interpreter} {pointer : SharedStatePointer}
    (committed : world.committedPointer projectId call = some pointer) : 0 < pointer.revision := by
  unfold RegistryWorld.committedPointer at committed
  split at committed
  · next now stamp event built =>
    split at committed
    · next both =>
      obtain ⟨-, -, carries⟩ := both
      cases returned : appendAndReconcile interpreter now stamp event world.db with
      | error error =>
          rw [returned] at committed
          cases committed
      | ok outcome =>
          rw [returned] at committed
          cases committed
          exact (currentPointer_committed keyed carries returned).2
    · cases committed
  · cases committed

theorem committedPointers_pos (invariant : ReconciliationInvariant interpreter world)
    (calls : List (RegistryCall interpreter)) :
    ∀ pointer ∈ world.committedPointers projectId calls, 0 < pointer.revision := by
  induction calls generalizing world with
  | nil => exact List.forall_mem_nil _
  | cons call calls induction =>
      intro pointer member
      rcases List.mem_append.mp member with own | later
      · exact committedPointer_pos invariant.keyed (Option.mem_toList.mp own)
      · exact induction (invariant.step call) pointer later

theorem currentPointer_run (invariant : ReconciliationInvariant interpreter world)
    (calls : List (RegistryCall interpreter)) :
    currentPointer interpreter (Transaction.run RegistryWorld.step world calls).db projectId =
      ((world.committedPointers projectId calls).getLast?.map Except.ok).getD
        (currentPointer interpreter world.db projectId) := by
  induction calls generalizing world with
  | nil => rfl
  | cons call calls induction =>
      rw [Transaction.run_cons, induction (invariant.step call), RegistryWorld.committedPointers,
        List.getLast?_append, currentPointer_step invariant.keyed]
      cases (RegistryWorld.committedPointers projectId (world.step call) calls).getLast? with
      | some last => rfl
      | none => cases world.committedPointer projectId call <;> rfl

end Runs

/-- Pointers are stored under identifiers of registered projects. -/
structure LookupInvariant (interpreter : Interpreter) (world : RegistryWorld) : Prop where
  projects : ProjectsInvariant interpreter world.db
  checked : ∀ event, .event event ∈ world.checked → world.db.Registers event.project
  stored : ∀ projectId, world.db.registryValue (.sharedState projectId) ≠ none →
    ∃ project, world.db.Registers project ∧ project.projectId = projectId

theorem checkProject_eq_ok {interpreter : Interpreter} {db : Database}
    (invariant : ProjectsInvariant interpreter db) {event : ControlPlaneEvent} :
    checkProject interpreter event db = .ok () ↔ db.Registers event.project := by
  obtain ⟨registry, rebuilt, resolves, -⟩ := invariant.registry
  simp only [checkProject, rebuilt, ok_bind, bind_eq_ok, raiseIf_eq_ok, not_not, resolves]
  constructor
  · rintro ⟨registered, ⟨registers, -⟩, same⟩
    rwa [← ProjectDescriptor.asDict_inj.mp same]
  · exact fun registers => ⟨event.project, ⟨registers, List.mem_cons_self ..⟩, rfl⟩

namespace LookupInvariant

variable {interpreter : Interpreter} {world : RegistryWorld}

theorem start (store : Database) (migratedAt : String) :
    LookupInvariant interpreter (RegistryWorld.start store migratedAt) where
  projects := .start store migratedAt
  checked _ member := absurd member List.not_mem_nil
  stored _ stored := absurd (RegistryWorld.registryValue_start store migratedAt _) stored

theorem step (invariant : LookupInvariant interpreter world) (call : RegistryCall interpreter) :
    LookupInvariant interpreter (world.step call) := by
  obtain ⟨projects, kept⟩ := invariant.projects.step call
  refine ⟨projects, fun event member => ?_, fun projectId stored => ?_⟩
  · -- a checked call was checked before, or by this step
    refine kept _ ?_
    cases call with
    | check check =>
        rw [RegistryWorld.step] at member
        split at member
        · next passed =>
          rcases List.mem_append.mp member with earlier | now
          · exact invariant.checked event earlier
          · obtain rfl := List.mem_singleton.mp now
            exact (checkProject_eq_ok invariant.projects).mp passed
        · exact invariant.checked event member
    | write write =>
        rw [RegistryWorld.step] at member
        split at member
        · refine invariant.checked event ?_
          cases needed : write.needs with
          | none =>
              rw [needed] at member
              exact member
          | some check =>
              rw [needed] at member
              exact List.mem_of_mem_erase member
        · exact invariant.checked event member
  · have move := world.step_cases invariant.projects.keyed call
    generalize world.step call = next at move kept stored
    have earlier (value : world.db.registryValue (.sharedState projectId) ≠ none) :
        ∃ project, next.db.Registers project ∧ project.projectId = projectId := by
      obtain ⟨project, registers, named⟩ := invariant.stored projectId value
      exact ⟨project, kept project registers, named⟩
    cases move with
    | kept call checked => exact earlier stored
    | committed write next checked enabled step =>
        by_cases about : write.key = some (.sharedState projectId)
        · cases write with
          | reconcile now stamp event built =>
              cases about
              exact ⟨event.project, kept _ (invariant.checked event (enabled _ rfl)), rfl⟩
          | _ => cases about
        · rw [step.kept about] at stored
          exact earlier stored

theorem run (calls : List (RegistryCall interpreter))
    (invariant : LookupInvariant interpreter world) :
    LookupInvariant interpreter (Transaction.run RegistryWorld.step world calls) :=
  Transaction.run_invariant (fun _ call held => held.step call) invariant calls

end LookupInvariant

/-- A run, and an identity that the registry resolves after it. -/
structure ResolvedIdentity (interpreter : Interpreter) where
  store : Database
  migratedAt : String
  calls : List (RegistryCall interpreter)
  identity : String
  project : ProjectDescriptor
  registry : ImmutableProjectRegistry
  rebuilt : projectRegistry interpreter
    (Transaction.run RegistryWorld.step (RegistryWorld.start store migratedAt) calls).db =
      .ok registry
  resolved : registry.resolve identity = .ok project

namespace ResolvedIdentity

variable {interpreter : Interpreter} (found : ResolvedIdentity interpreter)

def world : RegistryWorld :=
  Transaction.run RegistryWorld.step (RegistryWorld.start found.store found.migratedAt) found.calls

/-- The pointers of the transitions of the project that the run commits. -/
def committed : List SharedStatePointer :=
  (RegistryWorld.start found.store found.migratedAt).committedPointers found.project.projectId
    found.calls

/-- The lookup returns the pointer of the last transition, or a genesis pointer where there is none.
-/
def Agrees : Prop :=
  ∃ pointer, sharedState interpreter found.identity found.world.db = .ok pointer ∧
    match found.committed.getLast? with
    | some last => pointer = last
    | none => ∃ projectId, SharedStatePointer.genesis interpreter.sha256 projectId = .ok pointer

theorem invariant : LookupInvariant interpreter found.world :=
  (LookupInvariant.start found.store found.migratedAt).run found.calls

theorem registers : found.world.db.Registers found.project ∧
    found.identity ∈ found.project.identities := by
  obtain ⟨registry, rebuilt, resolves, -⟩ := found.invariant.projects.registry
  obtain rfl := Except.ok.inj (rebuilt.symm.trans found.rebuilt)
  exact (resolves _ _).mp found.resolved

theorem built : found.project.Built := by
  obtain ⟨row, -, built, -⟩ := found.registers.1
  exact built

theorem sharedState_eq : sharedState interpreter found.identity found.world.db =
    currentPointer interpreter found.world.db found.identity := by
  have rebuilt : projectRegistry interpreter found.world.db = .ok found.registry := found.rebuilt
  rw [sharedState, rebuilt, ok_bind, found.resolved, ok_bind]

theorem currentPointer_project : currentPointer interpreter found.world.db found.project.projectId =
      .ok (found.committed.getLast?.getD (SharedStatePointer.initial found.project.projectId)) := by
  have start := RegistryWorld.registryValue_start found.store found.migratedAt
    (.sharedState found.project.projectId)
  have absent : currentPointer interpreter (RegistryWorld.start found.store found.migratedAt).db
      found.project.projectId = .ok (SharedStatePointer.initial found.project.projectId) :=
    currentPointer_absent (found.built.normalized _) start
  rw [world, currentPointer_run (ReconciliationInvariant.start found.store found.migratedAt),
    absent, committed]
  generalize (RegistryWorld.committedPointers _ _ found.calls).getLast? = last
  cases last <;> rfl

theorem currentPointer_alias (isAlias : found.identity ≠ found.project.projectId) :
    currentPointer interpreter found.world.db found.identity =
      .ok (SharedStatePointer.initial found.identity) := by
  obtain ⟨registers, own⟩ := found.registers
  refine currentPointer_absent (found.built.identity_normalized own _) ?_
  by_contra stored
  -- a pointer under the alias would be that of another project with this identifier
  obtain ⟨other, otherRegisters, named⟩ := found.invariant.stored _ stored
  obtain ⟨registry, -, resolves, -⟩ := found.invariant.projects.registry
  have resolved := (resolves found.identity found.project).mpr ⟨registers, own⟩
  have otherResolved := (resolves found.identity other).mpr
    ⟨otherRegisters, named ▸ List.mem_cons_self ..⟩
  obtain rfl := Except.ok.inj (resolved.symm.trans otherResolved)
  exact isAlias named.symm

/-- The identifier of the project finds the pointer of the last transition. -/
theorem agrees_of_projectId (isId : found.identity = found.project.projectId) : found.Agrees := by
  rw [Agrees, sharedState_eq, isId]
  refine ⟨_, found.currentPointer_project, ?_⟩
  cases found.committed.getLast? with
  | some last => rfl
  | none =>
      have normalized := found.built.normalized "project_id"
      exact ⟨found.project.projectId, SharedStatePointer.genesis_eq_initial normalized⟩

/-- An alias finds a genesis pointer, which is no pointer of a transition. -/
theorem agrees_alias (isAlias : found.identity ≠ found.project.projectId) :
    found.Agrees ↔ found.committed = [] := by
  rw [Agrees, sharedState_eq, found.currentPointer_alias isAlias, ← List.getLast?_eq_none_iff]
  cases isLast : found.committed.getLast? with
  | some last =>
      refine iff_of_false ?_ (Option.some_ne_none last)
      rintro ⟨pointer, same, isPointer⟩
      have positive := committedPointers_pos
        (ReconciliationInvariant.start found.store found.migratedAt) found.calls last
        (List.mem_of_getLast? isLast)
      have atGenesis : (SharedStatePointer.initial found.identity).revision = 0 := rfl
      rw [← isPointer, ← Except.ok.inj same, atGenesis] at positive
      exact absurd positive (lt_irrefl 0)
  | none =>
      have normalized := found.built.identity_normalized found.registers.2 "project_id"
      exact iff_of_true
        ⟨_, rfl, found.identity, SharedStatePointer.genesis_eq_initial normalized⟩ rfl

end ResolvedIdentity

/-- The lookup of an identity agrees with reconciliation exactly when the identity is the identifier
of the project, or no transition of the project was committed. -/
theorem sharedState_agrees_iff {interpreter : Interpreter} (found : ResolvedIdentity interpreter) :
    found.Agrees ↔ found.identity = found.project.projectId ∨ found.committed = [] := by
  by_cases isId : found.identity = found.project.projectId
  · exact iff_of_true (found.agrees_of_projectId isId) (.inl isId)
  · rw [found.agrees_alias isId, or_iff_right isId]

namespace AliasedProject

def project : ProjectDescriptor :=
  ⟨"voodoo-one", "acme/voodoo-one", "refs/heads/main", ["voodoo"]⟩

/-- The interpreter of the run.  Its digest tells the first text of a chain from other texts. -/
def interpreter : Interpreter where
  sha256 text := if genesis.toList <+: text.toList then repeatedDigit '1' else repeatedDigit '2'
  casefold text := text
  repr _ := ""

def transition : StateTransition :=
  ⟨genesisStateHash, .obj [("phase", .str "active")], repeatedDigit '2'⟩

def event : ControlPlaneEvent where
  eventId := "evt_1"
  eventType := "project.updated"
  occurredAt := "2026-01-01T00:00:00.000+00:00"
  actorId := "usr_1"
  component := "control-plane"
  action := "update"
  resource := "project"
  status := .observed
  correlation := ⟨"run_1", "corr_1", none⟩
  project := project
  payload := .obj []
  evidenceRefs := []
  decisionRefs := []
  stateTransition := some transition

def context : RecordingContext where
  actorId := "usr_1"
  now := "2026-01-01T00:00:00.000+00:00"
  stamp := ⟨"audit_1", "2026-01-01T00:00:00.000+00:00"⟩

theorem project_built : project.Built :=
  ⟨"voodoo-one", "acme/voodoo-one", "refs/heads/main", ["voodoo"], by rfl⟩

theorem sha256_first {text : String} (first : genesis.toList <+: text.toList) :
    interpreter.sha256 text = repeatedDigit '1' := if_pos first

theorem sha256_later {text : String} (later : ¬genesis.toList <+: text.toList) :
    interpreter.sha256 text = repeatedDigit '2' := if_neg later

theorem transition_digest :
    digestOf interpreter.sha256 transition.nextState = repeatedDigit '2' := sha256_later (by decide)

theorem isDigest_two : IsDigest (repeatedDigit '2') := isDigest_repeatedDigit (by decide)

theorem transition_built : transition.Built interpreter.sha256 := by
  refine ⟨genesisStateHash, transition.nextState, repeatedDigit '2', ?_⟩
  have previous : requireStateHash genesisStateHash "previous_state_hash" = .ok genesisStateHash :=
    if_pos rfl
  rw [StateTransition.construct, previous, ok_bind, requireStateHash_of_isDigest isDigest_two]
  simp only [bind_eq_ok, raiseIf_eq_ok, pure_eq_ok]
  refine ⟨(), rfl, _, rfl, (), ?_, rfl⟩
  rw [transition_digest, not_or, not_not]
  exact ⟨by decide, rfl⟩

theorem event_built : event.Built interpreter.sha256 where
  constructed := ⟨"evt_1", "project.updated", "2026-01-01T00:00:00.000+00:00", "usr_1",
    "control-plane", "update", "project", "OBSERVED", .obj [], [], [], by rfl⟩
  correlation := ⟨"run_1", "corr_1", none, by rfl⟩
  project := project_built
  stateTransition _ isTransition := Option.some.inj isTransition ▸ transition_built

def pointer : SharedStatePointer :=
  ⟨"voodoo-one", 1, repeatedDigit '2', transition.nextState, some "evt_1", some "corr_1",
    some "2026-01-01T00:00:00.000+00:00"⟩

theorem applied : ControlPlaneReconciler.apply interpreter.sha256
    (SharedStatePointer.initial "voodoo-one") event = .ok pointer := by
  have normalized : requireNonempty "voodoo-one" "project_id" = .ok "voodoo-one" :=
    project_built.normalized _
  have hash := requireStateHash_of_isDigest isDigest_two "state_hash"
  have constructed : SharedStatePointer.construct interpreter.sha256 "voodoo-one" 1
      (repeatedDigit '2') transition.nextState (some "evt_1") (some "corr_1")
      (some "2026-01-01T00:00:00.000+00:00") = .ok pointer := by
    simp only [SharedStatePointer.construct, normalized, hash, transition_digest, ok_bind]
    rfl
  rw [ControlPlaneReconciler.apply_transition rfl (rfl : event.stateTransition = some transition)
    rfl]
  exact constructed

/-- The registration, the check of the event and its reconciliation. -/
def calls : List (RegistryCall interpreter) :=
  [.write (.registerProject context project project_built), .check (.event event),
    .write (.reconcile "2026-01-01T00:00:01.000+00:00" ⟨"audit_2", "2026-01-01T00:00:01.000+00:00"⟩
      event event_built)]

/-- The database before the run. -/
def start : RegistryWorld := RegistryWorld.start Database.empty "2026-01-01T00:00:00.000+00:00"

theorem registration : ∃ (next : Database) (row : AuditEventRow),
    registerProject interpreter context project start.db = .ok next ∧
      next.auditEvents = [row] ∧ row.id = "audit_1" ∧ row.eventHash = repeatedDigit '1' := by
  have none := RegistryWorld.listedRows_start Database.empty "2026-01-01T00:00:00.000+00:00"
  have projects : ProjectsInvariant interpreter start.db := .start _ _
  have accepted := projects.accepts project_built
    (fun _ ⟨_, member, _⟩ => absurd (none ▸ member) List.not_mem_nil) context
    (List.forall_mem_nil _)
  refine ⟨_, _, accepted, rfl, rfl, ?_⟩
  have head : start.db.auditHead = genesis := rfl
  have first (rest : String) : genesis.toList <+: (genesis ++ "\n" ++ rest).toList := by
    rw [String.toList_append, String.toList_append, List.append_assoc]
    exact List.prefix_append _ _
  simp only [Database.auditRow, chainedHash, head, sha256_first (first _)]

theorem reconciled : ∃ (next : Database) (after : Database),
    start.step (.write (.registerProject context project project_built) :
      RegistryCall interpreter) = ⟨next, []⟩ ∧ next.Registers project ∧
    appendAndReconcile interpreter "2026-01-01T00:00:01.000+00:00"
      ⟨"audit_2", "2026-01-01T00:00:01.000+00:00"⟩ event next = .ok (pointer, after) := by
  obtain ⟨next, row, accepted, events, id, hash⟩ := registration
  obtain ⟨-, flags⟩ := registerProject_eq_ok accepted
  have projects : ProjectsInvariant interpreter start.db := .start _ _
  have listed := (projects.registered_of_ok project_built accepted).2
  have absent : next.registryValue (.sharedState "voodoo-one") = none := by
    rw [Database.registryValue, flags]
    decide
  have current : currentPointer interpreter next "voodoo-one" =
      .ok (SharedStatePointer.initial "voodoo-one") :=
    currentPointer_absent (project_built.normalized _) absent
  have fresh : (next.auditRow interpreter.sha256 ⟨"audit_2", "2026-01-01T00:00:01.000+00:00"⟩
      (eventEntry event)).Fresh next := by
    intro other member
    rw [events] at member
    obtain rfl := List.mem_singleton.mp member
    have head : next.auditHead = repeatedDigit '1' := by
      rw [Database.auditHead, events, ← hash]
      rfl
    have later (rest : String) : ¬genesis.toList <+: (repeatedDigit '1' ++ "\n" ++
      rest).toList := by
      rw [String.toList_append, String.toList_append, repeatedDigit, String.toList_ofList]
      rintro ⟨tail, same⟩
      exact absurd (congrArg List.head? same) (by simp [genesis])
    refine ⟨?_, ?_⟩
    · rw [id]
      exact (by decide : "audit_1" ≠ "audit_2")
    · simp only [Database.auditRow, chainedHash, head, sha256_later (later _), hash]
      decide
  have stored : ∃ after, storePointer "2026-01-01T00:00:01.000+00:00" event pointer
      (next.setAuditEvents (next.auditEvents ++ [next.auditRow interpreter.sha256
        ⟨"audit_2", "2026-01-01T00:00:01.000+00:00"⟩ (eventEntry event)])) = .ok after :=
    storePointer_absent absent
  obtain ⟨after, stored⟩ := stored
  refine ⟨next, after, RegistryWorld.step_of_registered project_built accepted, ?_, ?_⟩
  · exact ⟨_, by rw [listed]; exact List.mem_append_right _ (List.mem_singleton_self _),
      project_built, rfl, rfl⟩
  · have changed : pointer ≠ SharedStatePointer.initial "voodoo-one" := by decide
    have isProject : event.project.projectId = "voodoo-one" := rfl
    rw [appendAndReconcile, isProject, current, ok_bind, applied, conflicting, ok_bind,
      Database.appendAudit_ok fresh, ok_bind, if_neg changed, stored]
    rfl

end AliasedProject

/-- After a transition of a project is committed, the lookup of its alias returns a genesis pointer.
-/
theorem alias_not_reconciled : ∃ found : ResolvedIdentity AliasedProject.interpreter,
    found.calls = AliasedProject.calls ∧ found.identity = "voodoo" ∧
      found.project = AliasedProject.project ∧ found.committed = [AliasedProject.pointer] ∧
      ¬found.Agrees := by
  obtain ⟨next, after, moved, registers, returned⟩ := AliasedProject.reconciled
  have invariant : LookupInvariant AliasedProject.interpreter (⟨next, []⟩ : RegistryWorld) :=
    moved ▸ (LookupInvariant.start Database.empty "2026-01-01T00:00:00.000+00:00").step _
  have checked : (⟨next, []⟩ : RegistryWorld).step (.check (.event AliasedProject.event) :
      RegistryCall AliasedProject.interpreter) = ⟨next, [.event AliasedProject.event]⟩ := by
    have passed : RegistryCheck.perform AliasedProject.interpreter next
        (.event AliasedProject.event) = .ok () :=
      (checkProject_eq_ok invariant.projects).mpr registers
    rw [RegistryWorld.step, passed]
    rfl
  have committed : AliasedProject.start.committedPointers "voodoo-one" AliasedProject.calls =
      [AliasedProject.pointer] := by
    have enabled : (⟨next, [.event AliasedProject.event]⟩ : RegistryWorld).Enabled
        (.reconcile "2026-01-01T00:00:01.000+00:00" ⟨"audit_2", "2026-01-01T00:00:01.000+00:00"⟩
          AliasedProject.event AliasedProject.event_built) := by
      rintro check ⟨⟩
      exact List.mem_singleton_self _
    rw [AliasedProject.calls, RegistryWorld.committedPointers, moved,
      RegistryWorld.committedPointers, checked, RegistryWorld.committedPointers]
    simp only [RegistryWorld.committedPointer, returned]
    rw [if_pos ⟨enabled, rfl, rfl⟩]
    rfl
  have ran : LookupInvariant AliasedProject.interpreter
      (Transaction.run RegistryWorld.step AliasedProject.start AliasedProject.calls) :=
    (LookupInvariant.start Database.empty "2026-01-01T00:00:00.000+00:00").run _
  obtain ⟨registry, rebuilt, resolves, -⟩ := ran.projects.registry
  have kept : (Transaction.run RegistryWorld.step AliasedProject.start
      AliasedProject.calls).db.Registers AliasedProject.project := by
    rw [AliasedProject.calls, Transaction.run_cons, moved]
    exact invariant.projects.registers_run _ _ registers
  let found : ResolvedIdentity AliasedProject.interpreter :=
    ⟨Database.empty, "2026-01-01T00:00:00.000+00:00", AliasedProject.calls, "voodoo",
      AliasedProject.project, registry, rebuilt,
      (resolves _ _).mpr ⟨kept, List.mem_cons_of_mem _ (List.mem_singleton_self _)⟩⟩
  refine ⟨found, rfl, rfl, rfl, committed, fun agrees => ?_⟩
  have isAlias : found.identity ≠ found.project.projectId :=
    (by decide : "voodoo" ≠ "voodoo-one")
  have none : found.committed = [] := (found.agrees_alias isAlias).mp agrees
  exact absurd (committed.symm.trans none) (List.cons_ne_nil _ _)

end VoodooOne
