import Mathlib.Data.List.Infix
import Mathlib.Data.List.Perm.Basic
import VoodooOne.Foundation.Raises
import VoodooOne.Registry.Runs

/-!
# Registered projects

The registry is rebuilt from the stored rows by every call.  In every run it can be rebuilt, and an
identity or a repository resolves to one project, the same one forever.
-/

namespace VoodooOne

open DurableControlPlaneRegistry

namespace ProjectDescriptor

def identities (project : ProjectDescriptor) : List String := project.projectId :: project.aliases

def repositoryKey (interpreter : Interpreter) (project : ProjectDescriptor) : String :=
  interpreter.casefold project.canonicalRepository

def entries (project : ProjectDescriptor) : List (String × ProjectDescriptor) :=
  project.identities.map (·, project)

end ProjectDescriptor

theorem entries_names (projects : List ProjectDescriptor) :
    (projects.flatMap (·.entries)).map Prod.fst = projects.flatMap (·.identities) := by
  rw [List.map_flatMap]
  refine List.flatMap_congr fun project _ => ?_
  rw [ProjectDescriptor.entries, List.map_map]
  exact List.map_id _

namespace ImmutableProjectRegistry

variable {interpreter : Interpreter} {project : ProjectDescriptor}
  {registry next : ImmutableProjectRegistry}

theorem addIdentities_eq_ok {identities : List String}
    (distinct : (registry.byIdentity.map Prod.fst).Nodup) :
    addIdentities project identities registry = .ok next ↔
      ((registry.byIdentity ++ identities.map (·, project)).map Prod.fst).Nodup ∧
        next = ⟨registry.byIdentity ++ identities.map (·, project), registry.byRepository⟩ := by
  induction identities generalizing registry with
  | nil =>
      rw [addIdentities, List.map_nil, List.append_nil, and_iff_right distinct, Except.ok.injEq]
      exact eq_comm
  | cons identity identities induction =>
      rw [addIdentities, bind_eq_ok]
      simp only [raiseIf_eq_ok, exists_const]
      by_cases taken : identity ∈ registry.byIdentity.map Prod.fst
      · simp only [taken, not_true, false_and, false_iff, not_and]
        intro fresh
        rw [List.map_append, List.nodup_append'] at fresh
        exact absurd (List.mem_map_of_mem (List.mem_cons_self ..)) (fresh.2.2 taken)
      · have own : ((registry.byIdentity ++ [(identity, project)]).map Prod.fst).Nodup := by
          rw [List.map_append, List.map_singleton, ← List.concat_eq_append]
          exact distinct.concat taken
        simp only [taken, not_false_eq_true, true_and]
        rw [@induction ⟨registry.byIdentity ++ [(identity, project)], registry.byRepository⟩ own]
        rw [List.append_assoc, List.singleton_append, List.map_cons]

theorem addProjects_eq_ok {projects : List ProjectDescriptor}
    (identities : (registry.byIdentity.map Prod.fst).Nodup)
    (repositories : (registry.byRepository.map Prod.fst).Nodup) :
    addProjects interpreter projects registry = .ok next ↔
      ((registry.byIdentity ++ projects.flatMap (·.entries)).map Prod.fst).Nodup ∧
        ((registry.byRepository ++ projects.map fun project =>
          (project.repositoryKey interpreter, project)).map Prod.fst).Nodup ∧
        next = ⟨registry.byIdentity ++ projects.flatMap (·.entries), registry.byRepository ++
          projects.map fun project => (project.repositoryKey interpreter, project)⟩ := by
  induction projects generalizing registry with
  | nil =>
      rw [addProjects, List.flatMap_nil, List.map_nil, List.append_nil, List.append_nil,
        and_iff_right identities, and_iff_right repositories, Except.ok.injEq]
      exact eq_comm
  | cons project projects induction =>
      have regroup : (registry.byIdentity ++ project.entries) ++ projects.flatMap (·.entries) =
          registry.byIdentity ++ (project :: projects).flatMap (·.entries) := by
        rw [List.flatMap_cons, List.append_assoc]
      have repository (later : List (String × ProjectDescriptor)) :
          (registry.byRepository ++ [(project.repositoryKey interpreter, project)]) ++ later =
            registry.byRepository ++ (project.repositoryKey interpreter, project) :: later := by
        rw [List.append_assoc, List.singleton_append]
      have extended (fresh : project.repositoryKey interpreter ∉
          registry.byRepository.map Prod.fst) : ((registry.byRepository ++
            [(project.repositoryKey interpreter, project)]).map Prod.fst).Nodup := by
        rw [List.map_append, List.map_singleton, ← List.concat_eq_append]
        exact repositories.concat fresh
      rw [addProjects]
      simp only [bind_eq_ok, raiseIf_eq_ok]
      constructor
      · rintro ⟨first, added, _, fresh, later⟩
        obtain ⟨own, rfl⟩ := (addIdentities_eq_ok identities).mp added
        obtain ⟨allIdentities, allRepositories, rfl⟩ :=
          (@induction ⟨registry.byIdentity ++ project.entries, registry.byRepository ++
            [(project.repositoryKey interpreter, project)]⟩ own (extended fresh)).mp later
        rw [regroup] at allIdentities
        rw [repository] at allRepositories
        exact ⟨allIdentities, allRepositories, by rw [regroup, repository]; rfl⟩
      · rintro ⟨allIdentities, allRepositories, rfl⟩
        rw [List.map_cons] at allRepositories
        rw [← regroup] at allIdentities
        rw [← repository] at allRepositories
        have own : ((registry.byIdentity ++ project.entries).map Prod.fst).Nodup :=
          allIdentities.sublist ((List.sublist_append_left _ _).map _)
        have fresh : project.repositoryKey interpreter ∉ registry.byRepository.map Prod.fst := by
          have both := allRepositories.sublist ((List.sublist_append_left _ _).map _)
          rw [List.map_append, List.nodup_append'] at both
          exact fun taken => both.2.2 taken (List.mem_singleton_self _)
        refine ⟨_, (addIdentities_eq_ok identities).mpr ⟨own, rfl⟩, (), fresh, ?_⟩
        refine (@induction ⟨registry.byIdentity ++ project.entries,
          registry.byRepository ++ [(project.repositoryKey interpreter, project)]⟩ own
          (extended fresh)).mpr ⟨allIdentities, allRepositories, ?_⟩
        rw [regroup, repository]
        rfl

theorem construct_eq_ok {projects : List ProjectDescriptor} :
    construct interpreter projects = .ok registry ↔ (projects.flatMap (·.identities)).Nodup ∧
        (projects.map (·.repositoryKey interpreter)).Nodup ∧
        registry = ⟨projects.flatMap (·.entries),
          projects.map fun project => (project.repositoryKey interpreter, project)⟩ := by
  have added := @addProjects_eq_ok interpreter ⟨[], []⟩ registry projects List.nodup_nil
    List.nodup_nil
  rw [List.nil_append, List.nil_append, entries_names, List.map_map] at added
  exact added

/-- A `ValueError`. -/
def IsValueError (error : Raised) : Prop := error.cls = .valueError

/-- A registry that cannot be built raises a `ValueError`. -/
theorem construct_raises (projects : List ProjectDescriptor) :
    Raises IsValueError (construct interpreter projects) := by
  have own (message : String) : IsValueError (valueError message) := rfl
  have values {condition : Prop} [Decidable condition] (message : String) :
      Raises IsValueError (raiseIf condition (valueError message)) := raises_raiseIf (own message)
  have identities (project : ProjectDescriptor) (names : List String)
      (registry : ImmutableProjectRegistry) :
      Raises IsValueError (addIdentities project names registry) := by
    induction names generalizing registry with
    | nil => exact raises_ok _
    | cons name names induction => exact (values _).bind fun _ => induction _
  unfold construct
  generalize (⟨[], []⟩ : ImmutableProjectRegistry) = registry
  induction projects generalizing registry with
  | nil => exact raises_ok _
  | cons project projects induction =>
      exact (identities _ _ _).bind fun _ => (values _).bind fun _ => induction _

variable {α : Type} {entries : List (String × α)} {key : String} {value : α}

/-- In a table without repeated keys, a key finds the values listed under it. -/
theorem lookup_eq_some_iff (distinct : (entries.map Prod.fst).Nodup) :
    entries.lookup key = some value ↔ (key, value) ∈ entries := by
  induction entries with
  | nil => simp
  | cons entry entries induction =>
      obtain ⟨first, other⟩ := entry
      rw [List.map_cons, List.nodup_cons] at distinct
      rw [List.lookup_cons, List.mem_cons, Prod.mk.injEq]
      by_cases same : key = first
      · subst same
        have absent : (key, value) ∉ entries := by
          intro listed
          have named := List.mem_map_of_mem (f := Prod.fst) listed
          exact distinct.1 named
        simp [absent, eq_comm]
      · have apart : (key == first) = false := beq_false_of_ne same
        simp [same, apart, induction distinct.2]

end ImmutableProjectRegistry

namespace ProjectDescriptor

variable {project other : ProjectDescriptor}

theorem requireNonemptyAll_again {field : String} {values normalized : List String}
    (first : requireNonemptyAll field values = .ok normalized) :
    requireNonemptyAll field normalized = .ok normalized := by
  induction values generalizing normalized with
  | nil =>
      cases first
      rfl
  | cons value values induction =>
      simp only [requireNonemptyAll, bind_eq_ok, pure_eq_ok] at first ⊢
      obtain ⟨text, isText, texts, areTexts, rfl⟩ := first
      simp only [requireNonemptyAll, bind_eq_ok, pure_eq_ok]
      exact ⟨text, requireNonempty_again isText field, texts, induction areTexts, rfl⟩

theorem Built.again (built : project.Built) :
    construct project.projectId project.canonicalRepository project.canonicalRef project.aliases =
      .ok project := by
  obtain ⟨_, _, _, _, constructed⟩ := built
  simp only [construct, bind_eq_ok, raiseIf_eq_ok, pure_eq_ok] at constructed ⊢
  obtain ⟨projectId, isId, repository, isRepository, ref, isRef, _, form, _, explicit, aliases,
    areAliases, _, distinct, _, apart, rfl⟩ := constructed
  exact ⟨_, requireNonempty_again isId _, _, requireNonempty_again isRepository _, _,
    requireNonempty_again isRef _, (), form, (), explicit, _, requireNonemptyAll_again areAliases,
    (), distinct, (), apart, rfl⟩

theorem Built.identities_nodup (built : project.Built) : project.identities.Nodup := by
  obtain ⟨_, _, _, _, constructed⟩ := built
  simp only [construct, bind_eq_ok, raiseIf_eq_ok, not_not, pure_eq_ok] at constructed
  obtain ⟨_, -, _, -, _, -, _, -, _, -, _, -, _, distinct, _, apart, rfl⟩ := constructed
  exact List.nodup_cons.mpr ⟨apart, distinct⟩

theorem asDict_get? (project : ProjectDescriptor) :
    project.asDict.get? "schema" = some (.str "voodoo.project-descriptor.v1") ∧
      project.asDict.get? "project_id" = some (.str project.projectId) ∧
      project.asDict.get? "canonical_repository" = some (.str project.canonicalRepository) ∧
      project.asDict.get? "canonical_ref" = some (.str project.canonicalRef) ∧
      project.asDict.get? "aliases" = some (.texts project.aliases) := by
  have read : ∀ entry ∈ [("schema", Json.str "voodoo.project-descriptor.v1"),
      ("project_id", .str project.projectId),
      ("canonical_repository", .str project.canonicalRepository),
      ("canonical_ref", .str project.canonicalRef), ("aliases", .texts project.aliases)],
      project.asDict.get? entry.1 = some entry.2 := by
    intro entry member
    rw [asDict, Json.get?_object _ _ (by simp), Json.lookup_of_mem (by simp) member]
  simpa only [List.forall_mem_cons, List.not_mem_nil, false_imp_iff, implies_true, and_true]
    using read

theorem asDict_inj : project.asDict = other.asDict ↔ project = other := by
  refine ⟨fun same => ?_, congrArg asDict⟩
  obtain ⟨-, id, repository, ref, aliases⟩ := project.asDict_get?
  obtain ⟨-, otherId, otherRepository, otherRef, otherAliases⟩ := other.asDict_get?
  rw [same, otherId, Option.some.injEq, Json.str.injEq] at id
  rw [same, otherRepository, Option.some.injEq, Json.str.injEq] at repository
  rw [same, otherRef, Option.some.injEq, Json.str.injEq] at ref
  rw [same, otherAliases, Option.some.injEq] at aliases
  have texts := congrArg Json.texts? aliases
  rw [Json.texts?_texts, Json.texts?_texts, Option.some.injEq] at texts
  cases project
  cases other
  simp only [mk.injEq]
  exact ⟨id.symm, repository.symm, ref.symm, texts.symm⟩

theorem Built.fromDict_asDict {interpreter : Interpreter} (built : project.Built) :
    fromDict interpreter project.asDict = .ok project := by
  obtain ⟨schema, id, repository, ref, aliases⟩ := project.asDict_get?
  simp only [fromDict, Json.get, Interpreter.strField, schema, id, repository, ref, aliases,
    Option.getD_some, Json.texts?_texts, Interpreter.str, ne_eq, not_true_eq_false, raiseIf,
    if_false, orRaise, ok_bind, catching_eq_ok]
  exact built.again

end ProjectDescriptor

def RuntimeFlagRow.Shows (row : RuntimeFlagRow) (project : ProjectDescriptor) : Prop :=
  project.Built ∧ row.key = (RegistryKey.project project.projectId).text ∧
    row.value = .record project.asDict

theorem RegistryKey.listed_iff (key : RegistryKey) :
    like "control_plane.project.v1:%".toList key.text.toList = true ↔ ∃ id, key = .project id := by
  cases key <;>
    simp [RegistryKey.text, RegistryKey.heading, like, List.mem_tails, List.nil_suffix]

theorem emergencyStop_not_listed :
    like "control_plane.project.v1:%".toList "emergency_stop".toList = false := by decide

theorem storedProjects_of_shows {interpreter : Interpreter} {rows : List RuntimeFlagRow}
    {projects : List ProjectDescriptor}
    (shows : List.Forall₂ RuntimeFlagRow.Shows rows projects) :
    storedProjects interpreter rows = .ok projects := by
  induction shows with
  | nil => rfl
  | cons shown rest induction =>
      obtain ⟨built, -, value⟩ := shown
      rw [storedProjects, value, ProjectDescriptor.asDict, decodeObject_object, ok_bind,
        ← ProjectDescriptor.asDict, built.fromDict_asDict, ok_bind, induction]
      rfl

/-- The rows of projects, as they were registered. -/
def Database.listedRows (db : Database) : List RuntimeFlagRow :=
  db.runtimeFlags.filter fun row =>
    like "control_plane.project.v1:%".toList row.key.toList

def Database.Registers (db : Database) (project : ProjectDescriptor) : Prop :=
  ∃ row ∈ db.listedRows, row.Shows project

/-- The registered projects have distinct identities and repositories. -/
structure ProjectsInvariant (interpreter : Interpreter) (db : Database) : Prop where
  keyed : Table.Keyed (·.key) db.runtimeFlags
  registered : ∃ projects, List.Forall₂ RuntimeFlagRow.Shows db.listedRows projects ∧
    (projects.flatMap (·.identities)).Nodup ∧
    (projects.map (·.repositoryKey interpreter)).Nodup

theorem RuntimeFlagRow.Shows.unique {row : RuntimeFlagRow} {project other : ProjectDescriptor}
    (left : row.Shows project) (right : row.Shows other) : project = other := by
  obtain ⟨-, -, value⟩ := left
  obtain ⟨-, -, otherValue⟩ := right
  exact ProjectDescriptor.asDict_inj.mp (FlagValue.record.inj (value.symm.trans otherValue))

theorem registers_iff_mem {db : Database} {projects : List ProjectDescriptor}
    (shows : List.Forall₂ RuntimeFlagRow.Shows db.listedRows projects)
    {project : ProjectDescriptor} : db.Registers project ↔ project ∈ projects := by
  rw [Database.Registers]
  generalize db.listedRows = rows at shows
  induction shows with
  | nil => simp
  | cons shown rest induction =>
      rw [List.mem_cons, ← induction]
      simp only [List.mem_cons, exists_eq_or_imp]
      refine or_congr_left ⟨fun shows => shows.unique shown, ?_⟩
      rintro rfl
      exact shown

theorem sorted_projects {db : Database} {projects : List ProjectDescriptor}
    (shows : List.Forall₂ RuntimeFlagRow.Shows db.listedRows projects) :
    ∃ sorted, List.Forall₂ RuntimeFlagRow.Shows db.projectRows sorted ∧ sorted.Perm projects := by
  have rows : db.projectRows.Perm db.listedRows := List.perm_insertionSort _ db.listedRows
  obtain ⟨sorted, inOrder, permuted⟩ := List.perm_comp_forall₂ rows shows
  exact ⟨sorted, inOrder, permuted⟩

theorem shown_of_mem {rows : List RuntimeFlagRow} {projects : List ProjectDescriptor}
    (shows : List.Forall₂ RuntimeFlagRow.Shows rows projects) {row : RuntimeFlagRow}
    (member : row ∈ rows) : ∃ project ∈ projects, row.Shows project := by
  induction shows with
  | nil => cases member
  | cons shown rest induction =>
      rcases List.mem_cons.mp member with rfl | later
      · exact ⟨_, List.mem_cons_self .., shown⟩
      · obtain ⟨project, there, shows⟩ := induction later
        exact ⟨project, List.mem_cons_of_mem _ there, shows⟩

/-- Two projects share an identity or a repository. -/
def ProjectDescriptor.Conflicts (interpreter : Interpreter) (project other : ProjectDescriptor) :
    Prop :=
  (∃ identity ∈ project.identities, identity ∈ other.identities) ∨
    project.repositoryKey interpreter = other.repositoryKey interpreter

namespace ProjectsInvariant

variable {interpreter : Interpreter} {db next : Database}

theorem registry (invariant : ProjectsInvariant interpreter db) :
    ∃ registry, projectRegistry interpreter db = .ok registry ∧
      (∀ identity project, registry.resolve identity = .ok project ↔
        db.Registers project ∧ identity ∈ project.identities) ∧
      ∀ repository project, registry.resolveRepository interpreter repository = .ok project ↔
        db.Registers project ∧
          interpreter.casefold repository = project.repositoryKey interpreter := by
  obtain ⟨projects, shows, identities, repositories⟩ := invariant.registered
  obtain ⟨sorted, inOrder, permuted⟩ := sorted_projects shows
  have sortedIdentities : (sorted.flatMap (·.identities)).Nodup :=
    (permuted.flatMap_right _).nodup_iff.mpr identities
  have sortedRepositories : (sorted.map (·.repositoryKey interpreter)).Nodup :=
    (permuted.map _).nodup_iff.mpr repositories
  refine ⟨⟨sorted.flatMap (·.entries),
    sorted.map fun project => (project.repositoryKey interpreter, project)⟩, ?_,
    fun identity project => ?_, fun repository project => ?_⟩
  · rw [projectRegistry, storedProjects_of_shows inOrder, ok_bind]
    exact ImmutableProjectRegistry.construct_eq_ok.mpr ⟨sortedIdentities, sortedRepositories, rfl⟩
  · have names : ((sorted.flatMap (·.entries)).map Prod.fst).Nodup := by
      rwa [entries_names]
    rw [ImmutableProjectRegistry.resolve, orRaise_eq_ok,
      ImmutableProjectRegistry.lookup_eq_some_iff names, registers_iff_mem shows,
      ← permuted.mem_iff, List.mem_flatMap]
    simp [ProjectDescriptor.entries]
  · have names : ((sorted.map fun project =>
        (project.repositoryKey interpreter, project)).map Prod.fst).Nodup := by
      rwa [List.map_map]
    rw [ImmutableProjectRegistry.resolveRepository, orRaise_eq_ok,
      ImmutableProjectRegistry.lookup_eq_some_iff names, registers_iff_mem shows,
      ← permuted.mem_iff, List.mem_map]
    simp only [Prod.mk.injEq]
    constructor
    · rintro ⟨_, member, same, rfl⟩
      exact ⟨member, same.symm⟩
    · rintro ⟨member, same⟩
      exact ⟨project, member, same.symm, rfl⟩

end ProjectsInvariant

theorem Database.listedRows_upsertFlag {db : Database} {row : RuntimeFlagRow}
    (other : like "control_plane.project.v1:%".toList row.key.toList = false) :
    (db.upsertFlag row).listedRows = db.listedRows := by
  rw [listedRows, upsertFlag, setRuntimeFlags_runtimeFlags, listedRows]
  cases Table.lookup (·.key) db.runtimeFlags row.key with
  | none =>
      dsimp only
      rw [List.filter_append, List.filter_singleton, other]
      exact List.append_nil _
  | some old =>
      dsimp only [Table.replace]
      rw [List.filter_map]
      have same : ((fun row : RuntimeFlagRow =>
          like "control_plane.project.v1:%".toList row.key.toList) ∘
            fun stored : RuntimeFlagRow => if stored.key = row.key then row else stored) =
          fun stored => like "control_plane.project.v1:%".toList stored.key.toList := by
        funext stored
        dsimp only [Function.comp]
        split
        · next key => rw [other, key, other]
        · rfl
      rw [same]
      refine (List.map_congr_left fun stored member => ?_).trans (List.map_id _)
      have listed := (List.mem_filter.mp member).2
      rw [if_neg]
      · rfl
      · intro key
        rw [key, other] at listed
        cases listed

theorem RegistryKey.not_listed {key : RegistryKey} (other : ∀ id, key ≠ .project id) :
    like "control_plane.project.v1:%".toList key.text.toList = false := by
  rw [← Bool.not_eq_true, listed_iff]
  rintro ⟨id, same⟩
  exact other id same

theorem registerProject_eq_ok {interpreter : Interpreter} {context : RecordingContext}
    {project : ProjectDescriptor} {db next : Database}
    (registered : registerProject interpreter context project db = .ok next) :
    (∃ existing registry, storedProjects interpreter db.projectRows = .ok existing ∧
      ImmutableProjectRegistry.construct interpreter (existing ++ [project]) = .ok registry) ∧
    next.runtimeFlags = db.runtimeFlags ++ [⟨(RegistryKey.project project.projectId).text,
      .record project.asDict, context.actorId, context.now⟩] := by
  simp only [registerProject, bind_eq_ok, conflicting_eq_ok, catching_eq_ok] at registered
  obtain ⟨existing, stored, registry, constructed, _, inserted, appended⟩ := registered
  obtain ⟨rfl, -⟩ := Database.appendAudit_eq_ok appended
  simp only [Database.insertFlag, bind_eq_ok, pure_eq_ok] at inserted
  obtain ⟨_, -, rfl⟩ := inserted
  exact ⟨⟨existing, registry, stored, constructed⟩, rfl⟩

def registrationEntry (interpreter : Interpreter) (context : RecordingContext)
    (project : ProjectDescriptor) : AuditEntry where
  actorId := context.actorId
  action := "control_plane.registry.project.registered"
  targetType := "control_plane_project"
  targetId := project.projectId
  payload := .object [("project", project.asDict),
    ("record_digest", .str (digestOf interpreter.sha256 project.asDict))]

namespace ProjectsInvariant

variable {interpreter : Interpreter} {db next : Database}

theorem start (store : Database) (migratedAt : String) :
    ProjectsInvariant interpreter (RegistryWorld.start store migratedAt).db where
  keyed := List.nodup_singleton _
  registered := by
    refine ⟨[], ?_, List.nodup_nil, List.nodup_nil⟩
    have none : (RegistryWorld.start store migratedAt).db.listedRows = [] := by
      rw [Database.listedRows, RegistryWorld.start]
      exact List.filter_cons_of_neg fun listed =>
        Bool.noConfusion (emergencyStop_not_listed.symm.trans listed)
    rw [none]
    exact .nil

theorem congr (invariant : ProjectsInvariant interpreter db)
    (keyed : Table.Keyed (·.key) next.runtimeFlags) (rows : next.listedRows = db.listedRows) :
    ProjectsInvariant interpreter next := ⟨keyed, by rw [rows]; exact invariant.registered⟩

theorem register (invariant : ProjectsInvariant interpreter db) {context : RecordingContext}
    {project : ProjectDescriptor} (built : project.Built)
    (keyed : Table.Keyed (·.key) next.runtimeFlags)
    (registered : registerProject interpreter context project db = .ok next) :
    ProjectsInvariant interpreter next ∧
      next.listedRows = db.listedRows ++ [⟨(RegistryKey.project project.projectId).text,
        .record project.asDict, context.actorId, context.now⟩] := by
  obtain ⟨⟨existing, registry, stored, constructed⟩, flags⟩ := registerProject_eq_ok registered
  obtain ⟨projects, shows, -⟩ := invariant.registered
  obtain ⟨sorted, inOrder, permuted⟩ := sorted_projects shows
  obtain rfl := Except.ok.inj ((storedProjects_of_shows inOrder).symm.trans stored)
  obtain ⟨identities, repositories, -⟩ := ImmutableProjectRegistry.construct_eq_ok.mp constructed
  have more := permuted.append_right [project]
  have listed := (RegistryKey.listed_iff (.project project.projectId)).mpr ⟨_, rfl⟩
  have rows : next.listedRows = db.listedRows ++ [⟨(RegistryKey.project project.projectId).text,
      .record project.asDict, context.actorId, context.now⟩] := by
    rw [Database.listedRows, flags, List.filter_append, List.filter_singleton, listed]
    rfl
  refine ⟨⟨keyed, projects ++ [project], ?_, (more.flatMap_right _).nodup_iff.mp identities,
    (more.map _).nodup_iff.mp repositories⟩, rows⟩
  rw [rows]
  exact List.rel_append shows (.cons ⟨built, rfl, rfl⟩ .nil)

theorem write (invariant : ProjectsInvariant interpreter db) {write : RegistryWrite interpreter}
    (returned : write.body db = .ok ((), next)) :
    ProjectsInvariant interpreter next ∧ ∀ project, db.Registers project →
      next.Registers project := by
  have step := RegistryWrite.step_of_ok invariant.keyed returned
  have keyed := step.keyed invariant.keyed
  have kept (rows : next.listedRows = db.listedRows) : ProjectsInvariant interpreter next ∧
      ∀ project, db.Registers project → next.Registers project := by
    refine ⟨invariant.congr keyed rows, fun project registers => ?_⟩
    rwa [Database.Registers, rows]
  have other {key : RegistryKey} (different : ∀ id, key ≠ .project id) (value : FlagValue)
      (updatedBy updatedAt : String) :
      (db.upsertFlag ⟨key.text, value, updatedBy, updatedAt⟩).listedRows = db.listedRows :=
    Database.listedRows_upsertFlag (RegistryKey.not_listed different)
  cases step with
  | project context project built entry action target =>
      simp only [RegistryWrite.body, bind_eq_ok, pure_eq_ok, Prod.mk.injEq, true_and] at returned
      obtain ⟨_, registered, rfl⟩ := returned
      obtain ⟨registeredInvariant, rows⟩ := invariant.register built keyed registered
      refine ⟨registeredInvariant, ?_⟩
      rintro project ⟨row, member, shows⟩
      exact ⟨row, rows ▸ List.mem_append_left _ member, shows⟩
  | logged => exact kept rfl
  | emergencyStop => exact kept (Database.listedRows_upsertFlag emergencyStop_not_listed)
  | connector => exact kept (other (fun _ => RegistryKey.noConfusion) _ _ _)
  | server => exact kept (other (fun _ => RegistryKey.noConfusion) _ _ _)
  | reconciled => exact kept (other (fun _ => RegistryKey.noConfusion) _ _ _)

theorem registered_of_ok (invariant : ProjectsInvariant interpreter db) {context : RecordingContext}
    {project : ProjectDescriptor} (built : project.Built)
    (registered : registerProject interpreter context project db = .ok next) :
    ProjectsInvariant interpreter next ∧
      next.listedRows = db.listedRows ++ [⟨(RegistryKey.project project.projectId).text,
        .record project.asDict, context.actorId, context.now⟩] := by
  have returned : (RegistryWrite.registerProject context project built :
      RegistryWrite interpreter).body db = .ok ((), next) := by
    rw [RegistryWrite.body, registered]
    rfl
  exact invariant.register built (invariant.write returned).1.keyed registered

theorem refuses (invariant : ProjectsInvariant interpreter db) {project other : ProjectDescriptor}
    (registered : db.Registers other) (conflicts : other.Conflicts interpreter project)
    (context : RecordingContext) :
    ∃ message, registerProject interpreter context project db =
      .error (registryConflict message) := by
  obtain ⟨projects, shows, -⟩ := invariant.registered
  obtain ⟨sorted, inOrder, permuted⟩ := sorted_projects shows
  have listed : other ∈ sorted := permuted.mem_iff.mpr ((registers_iff_mem shows).mp registered)
  rw [registerProject, storedProjects_of_shows inOrder, ok_bind]
  cases constructed : ImmutableProjectRegistry.construct interpreter (sorted ++ [project]) with
  | ok registry =>
      obtain ⟨identities, repositories, -⟩ :=
        ImmutableProjectRegistry.construct_eq_ok.mp constructed
      rw [List.flatMap_append, List.flatMap_singleton, List.nodup_append'] at identities
      rw [List.map_append, List.map_singleton, List.nodup_append'] at repositories
      rcases conflicts with ⟨identity, own, shared⟩ | same
      · exact absurd shared (identities.2.2 (List.mem_flatMap.mpr ⟨other, listed, own⟩))
      · exact absurd (List.mem_singleton.mpr same)
          (repositories.2.2 (List.mem_map_of_mem listed))
  | error error =>
      refine ⟨error.message, ?_⟩
      have cls : error.cls = .valueError :=
        ImmutableProjectRegistry.construct_raises _ _ constructed
      rw [conflicting, cls]
      rfl

theorem accepts (invariant : ProjectsInvariant interpreter db) {project : ProjectDescriptor}
    (built : project.Built)
    (apart : ∀ other, db.Registers other → ¬other.Conflicts interpreter project)
    (context : RecordingContext)
    (fresh : (db.auditRow interpreter.sha256 context.stamp
      (registrationEntry interpreter context project)).Fresh db) :
    registerProject interpreter context project db = .ok
      ((db.setRuntimeFlags (db.runtimeFlags ++ [⟨(RegistryKey.project project.projectId).text,
        .record project.asDict, context.actorId, context.now⟩])).setAuditEvents
          (db.auditEvents ++ [db.auditRow interpreter.sha256 context.stamp
            (registrationEntry interpreter context project)])) := by
  obtain ⟨projects, shows, identities, repositories⟩ := invariant.registered
  obtain ⟨sorted, inOrder, permuted⟩ := sorted_projects shows
  have other (candidate : ProjectDescriptor) (member : candidate ∈ sorted) :
      ¬candidate.Conflicts interpreter project :=
    apart candidate ((registers_iff_mem shows).mpr (permuted.mem_iff.mp member))
  have constructed := (@ImmutableProjectRegistry.construct_eq_ok interpreter _
    (sorted ++ [project])).mpr ⟨?_, ?_, rfl⟩
  · have unused : ∀ row ∈ db.runtimeFlags,
        row.key ≠ (RegistryKey.project project.projectId).text := by
      intro row member same
      have listed : row ∈ db.listedRows := by
        refine List.mem_filter.mpr ⟨member, ?_⟩
        rw [same]
        exact (RegistryKey.listed_iff _).mpr ⟨_, rfl⟩
      obtain ⟨candidate, there, shown⟩ := shown_of_mem shows listed
      obtain ⟨-, key, -⟩ := shown
      have id : candidate.projectId = project.projectId :=
        RegistryKey.project.inj (RegistryKey.text_inj.mp (key.symm.trans same))
      exact apart candidate ((registers_iff_mem shows).mpr there)
        (.inl ⟨candidate.projectId, List.mem_cons_self .., id ▸ List.mem_cons_self ..⟩)
    have noRow : ¬∃ row ∈ db.runtimeFlags,
        row.key = (RegistryKey.project project.projectId).text := by
      rintro ⟨row, member, same⟩
      exact unused row member same
    rw [registerProject, storedProjects_of_shows inOrder, ok_bind, constructed, conflicting,
      ok_bind, Database.insertFlag, raiseIf, if_neg noRow]
    rw [ok_bind]
    exact Database.appendAudit_ok fresh
  · rw [List.flatMap_append, List.flatMap_singleton, List.nodup_append']
    refine ⟨(permuted.flatMap_right _).nodup_iff.mpr identities, built.identities_nodup, ?_⟩
    intro identity listed own
    obtain ⟨candidate, member, shared⟩ := List.mem_flatMap.mp listed
    exact other candidate member (.inl ⟨identity, shared, own⟩)
  · rw [List.map_append, List.map_singleton, List.nodup_append']
    refine ⟨(permuted.map _).nodup_iff.mpr repositories, List.nodup_singleton _, ?_⟩
    intro key listed own
    obtain ⟨candidate, member, rfl⟩ := List.mem_map.mp listed
    exact other candidate member (.inr (List.mem_singleton.mp own))

theorem step {world : RegistryWorld} (invariant : ProjectsInvariant interpreter world.db)
    (call : RegistryCall interpreter) : ProjectsInvariant interpreter (world.step call).db ∧
      ∀ project, world.db.Registers project → (world.step call).db.Registers project := by
  have kept : ProjectsInvariant interpreter world.db ∧
      ∀ project, world.db.Registers project → world.db.Registers project :=
    ⟨invariant, fun _ => id⟩
  cases call with
  | check check =>
      rw [RegistryWorld.step]
      split
      · exact kept
      · exact kept
  | write write =>
      rw [RegistryWorld.step]
      split
      · exact Transaction.commit_cases (motive := fun next => ProjectsInvariant interpreter next ∧
          ∀ project, world.db.Registers project → next.Registers project) _ _ kept
          fun _ _ returned => invariant.write returned
      · exact kept

theorem run {world : RegistryWorld} (invariant : ProjectsInvariant interpreter world.db)
    (calls : List (RegistryCall interpreter)) :
    ProjectsInvariant interpreter (Transaction.run RegistryWorld.step world calls).db :=
  Transaction.run_invariant
    (fun (world : RegistryWorld) call (held : ProjectsInvariant interpreter world.db) =>
      (held.step call).1) invariant calls

theorem registers_run {world : RegistryWorld} (invariant : ProjectsInvariant interpreter world.db)
    (calls : List (RegistryCall interpreter)) :
    ∀ project, world.db.Registers project →
      (Transaction.run RegistryWorld.step world calls).db.Registers project :=
  Transaction.run_relation
    (fun first second : RegistryWorld =>
      ∀ project, first.db.Registers project → second.db.Registers project)
    (fun (world : RegistryWorld) call (held : ProjectsInvariant interpreter world.db) =>
      (held.step call).1) (fun _ _ => id)
    (fun early late project registers => late project (early project registers))
    (fun _ call held => (held.step call).2) invariant calls

end ProjectsInvariant

/-- In every run the registry can be rebuilt.  An identity, taken as it is, and a repository, up to
case, resolve to one project, and to the same one forever; a project that shares one with a
registered project is refused and changes nothing. -/
theorem projectIdentities_stable (interpreter : Interpreter) (store : Database)
    (migratedAt : String) (calls : List (RegistryCall interpreter)) :
    let world := Transaction.run RegistryWorld.step (RegistryWorld.start store migratedAt) calls
    ∃ registry, projectRegistry interpreter world.db = .ok registry ∧
      (∀ identity project, registry.resolve identity = .ok project ↔
        world.db.Registers project ∧ identity ∈ project.identities) ∧
      (∀ repository project, registry.resolveRepository interpreter repository = .ok project ↔
        world.db.Registers project ∧
          interpreter.casefold repository = interpreter.casefold project.canonicalRepository) ∧
      (∀ more : List (RegistryCall interpreter),
        let later := Transaction.run RegistryWorld.step world more
        ∃ next, projectRegistry interpreter later.db = .ok next ∧
          (∀ identity project, registry.resolve identity = .ok project →
            next.resolve identity = .ok project) ∧
          ∀ repository project, registry.resolveRepository interpreter repository = .ok project →
            next.resolveRepository interpreter repository = .ok project) ∧
      ∀ (context : RecordingContext) (project : ProjectDescriptor) (built : project.Built),
        (∃ other, world.db.Registers other ∧ other.Conflicts interpreter project) →
        ∃ message, world.commit
          (RegistryWrite.registerProject context project built : RegistryWrite interpreter) =
            (.error (registryConflict message), world.db) := by
  intro world
  have invariant : ProjectsInvariant interpreter world.db :=
    (ProjectsInvariant.start store migratedAt).run calls
  obtain ⟨registry, isRegistry, byIdentity, byRepository⟩ := invariant.registry
  refine ⟨registry, isRegistry, byIdentity, byRepository, fun more => ?_,
    fun context project built => ?_⟩
  · obtain ⟨next, isNext, nextIdentity, nextRepository⟩ := (invariant.run more).registry
    have kept := invariant.registers_run more
    refine ⟨next, isNext, fun identity project resolved => ?_,
      fun repository project resolved => ?_⟩
    · obtain ⟨registers, own⟩ := (byIdentity identity project).mp resolved
      exact (nextIdentity identity project).mpr ⟨kept project registers, own⟩
    · obtain ⟨registers, own⟩ := (byRepository repository project).mp resolved
      exact (nextRepository repository project).mpr ⟨kept project registers, own⟩
  · rintro ⟨other, registered, conflicts⟩
    obtain ⟨message, refused⟩ := invariant.refuses registered conflicts context
    refine ⟨message, Transaction.commit_of_error ?_⟩
    rw [RegistryWrite.body, refused]
    rfl

theorem RegistryWorld.step_of_registered {interpreter : Interpreter} {world : RegistryWorld}
    {context : RecordingContext} {project : ProjectDescriptor} (built : project.Built)
    {next : Database}
    (registered : registerProject interpreter context project world.db = .ok next) :
    world.step (RegistryCall.write (.registerProject context project built) :
      RegistryCall interpreter) = ⟨next, world.checked⟩ := by
  have enabled : world.Enabled
      (RegistryWrite.registerProject context project built : RegistryWrite interpreter) :=
    fun _ needed => absurd needed (Option.not_mem_none _)
  rw [RegistryWorld.step, if_pos enabled, RegistryWorld.commit, Transaction.commit_of_ok (by
    rw [RegistryWrite.body, registered]
    rfl)]
  rfl

/-- No project is registered before a run. -/
theorem RegistryWorld.listedRows_start (store : Database) (migratedAt : String) :
    (RegistryWorld.start store migratedAt).db.listedRows = [] := by
  rw [Database.listedRows, RegistryWorld.start]
  exact List.filter_cons_of_neg fun listed =>
    Bool.noConfusion (emergencyStop_not_listed.symm.trans listed)

namespace SpelledProjects

def spelled (projectId canonicalRepository : String) : ProjectDescriptor :=
  ⟨projectId, canonicalRepository, "refs/heads/main", []⟩

def interpreter : Interpreter where
  sha256 text := text
  casefold text := String.ofList (text.toList.map Char.toLower)
  repr _ := ""

def context (number : String) : RecordingContext where
  actorId := "usr_1"
  now := "2026-01-01T00:00:00.000+00:00"
  stamp := ⟨"audit_" ++ number, "2026-01-01T00:00:00.000+00:00"⟩

theorem upper_built : (spelled "Alpha" "acme/one").Built :=
  ⟨"Alpha", "acme/one", "refs/heads/main", [], by rfl⟩

theorem lower_built : (spelled "alpha" "acme/two").Built :=
  ⟨"alpha", "acme/two", "refs/heads/main", [], by rfl⟩

/-- Both registrations, one after the other. -/
def calls : List (RegistryCall interpreter) :=
  [.write (.registerProject (context "1") (spelled "Alpha" "acme/one") upper_built),
    .write (.registerProject (context "2") (spelled "alpha" "acme/two") lower_built)]

theorem eventHash_ne (db : Database) (stamp : Stamp) (entry : AuditEntry) :
    (db.auditRow interpreter.sha256 stamp entry).eventHash ≠ db.auditHead := by
  intro same
  have lengths := congrArg String.length same
  simp only [Database.auditRow, chainedHash, interpreter, String.length_append] at lengths
  have line : "\n".length = 1 := by decide
  omega

theorem apart : ¬(spelled "Alpha" "acme/one").Conflicts interpreter
    (spelled "alpha" "acme/two") := by
  rintro (⟨identity, own, shared⟩ | same)
  · obtain rfl := List.mem_singleton.mp own
    exact absurd (List.mem_singleton.mp shared) (by decide)
  · exact absurd same (by decide)

/-- Two projects whose identifiers differ in case only are both registered. -/
theorem both_registered : let db := (Transaction.run RegistryWorld.step
      (RegistryWorld.start Database.empty "2026-01-01T00:00:00.000+00:00") calls).db
    db.Registers (spelled "Alpha" "acme/one") ∧ db.Registers (spelled "alpha" "acme/two") := by
  have start : ProjectsInvariant interpreter (RegistryWorld.start Database.empty
    "2026-01-01T00:00:00.000+00:00").db := ProjectsInvariant.start _ _
  have noRows := RegistryWorld.listedRows_start Database.empty "2026-01-01T00:00:00.000+00:00"
  obtain ⟨middle, first, event, events, id⟩ : ∃ next,
      registerProject interpreter (context "1") (spelled "Alpha" "acme/one")
        (RegistryWorld.start Database.empty "2026-01-01T00:00:00.000+00:00").db = .ok next ∧
      ∃ event, next.auditEvents = [event] ∧ event.id = "audit_1" :=
    ⟨_, start.accepts upper_built
      (fun other ⟨_, member, _⟩ => absurd (noRows ▸ member) List.not_mem_nil)
      (context "1") (fun _ member => absurd member List.not_mem_nil), _, rfl, rfl⟩
  obtain ⟨afterFirst, rows⟩ := start.registered_of_ok upper_built first
  rw [noRows, List.nil_append] at rows
  have others : ∀ other, middle.Registers other →
      ¬other.Conflicts interpreter (spelled "alpha" "acme/two") := by
    rintro other ⟨row, member, shows⟩
    rw [rows] at member
    obtain rfl := List.mem_singleton.mp member
    obtain rfl := shows.unique ⟨upper_built, rfl, rfl⟩
    exact apart
  have fresh (entry : AuditEntry) :
      (middle.auditRow interpreter.sha256 (context "2").stamp entry).Fresh middle := by
    intro row member
    rw [events] at member
    obtain rfl := List.mem_singleton.mp member
    have head : middle.auditHead = row.eventHash := by rw [Database.auditHead, events]; rfl
    refine ⟨?_, fun same => eventHash_ne _ _ _ (same.symm.trans head.symm)⟩
    rw [id]
    show "audit_1" ≠ "audit_2"
    decide
  obtain ⟨last, second⟩ : ∃ next, registerProject interpreter (context "2")
      (spelled "alpha" "acme/two") middle = .ok next :=
    ⟨_, afterFirst.accepts lower_built others (context "2") (fresh _)⟩
  obtain ⟨-, both⟩ := afterFirst.registered_of_ok lower_built second
  rw [rows] at both
  rw [calls, Transaction.run, List.foldl_cons,
    RegistryWorld.step_of_registered upper_built first, List.foldl_cons,
    RegistryWorld.step_of_registered lower_built second, List.foldl_nil]
  constructor
  · exact ⟨_, by rw [both]; exact List.mem_cons_self .., upper_built, rfl, rfl⟩
  · exact ⟨_, by rw [both]; exact List.mem_cons_of_mem _ (List.mem_cons_self ..),
      lower_built, rfl, rfl⟩

/-- The two spellings of one identifier resolve to different projects. -/
theorem spellings_resolve_apart : let db := (Transaction.run RegistryWorld.step
      (RegistryWorld.start Database.empty "2026-01-01T00:00:00.000+00:00") calls).db
    interpreter.casefold "Alpha" = interpreter.casefold "alpha" ∧
      ∃ registry, projectRegistry interpreter db = .ok registry ∧
        registry.resolve "Alpha" = .ok (spelled "Alpha" "acme/one") ∧
        registry.resolve "alpha" = .ok (spelled "alpha" "acme/two") := by
  intro db
  have invariant : ProjectsInvariant interpreter db := (ProjectsInvariant.start _ _).run calls
  obtain ⟨registry, isRegistry, byIdentity, -⟩ := invariant.registry
  obtain ⟨upper, lower⟩ := both_registered
  exact ⟨by decide, registry, isRegistry, (byIdentity _ _).mpr ⟨upper, List.mem_cons_self ..⟩,
    (byIdentity _ _).mpr ⟨lower, List.mem_cons_self ..⟩⟩

end SpelledProjects

end VoodooOne
