import VoodooOne.Rollback.Lineage
import VoodooOne.Write.Boundary

/-!
# The approved runtime

A capsule pins the runtime of an execution.  The boundaries of a reader and of the first writer make
the runner have it; the boundary of a rollback leaves that to whoever chooses the runner.
-/

namespace VoodooOne

/-- A runner under a lease, with what it is to run. -/
structure RunnerUse where
  identity : RunnerIdentity
  lease : ExecutionLease
  capsule : ExecutionCapsule
  definition : CapabilityDefinition
  boundaryRevision : String

/-- What a boundary is made of, on each of the three paths. -/
inductive RuntimeUse where
  | read (use : RunnerUse)
  | createRef (use : RunnerUse) (evidence : HandlerConformanceEvidence)
      (condition : GitHubCreateRefConditionContract) (requirementRevision : String)
  | rollback (use : RunnerUse) (evidence : HandlerConformanceEvidence)
      (condition : GitHubDeleteRefConditionContract) (requirementRevision : String)

structure RunnerIdentity.RunsOn (identity : RunnerIdentity) (capsule : ExecutionCapsule) :
    Prop where
  runnerClass : identity.runnerClass = capsule.runnerClass
  rootfs : identity.rootfsDigest = capsule.rootfsDigest
  resources : identity.resourceLimitProfileDigest = capsule.resourceLimitProfileDigest
  network : identity.networkPolicyDigest = capsule.networkPolicyDigest

/-- The runner runs the approved executable, on its runtime. -/
structure RunnerUse.Approved (use : RunnerUse) : Prop where
  capsule : use.capsule.capsuleDigest = use.lease.executionCapsuleDigest
  runnerClass : use.capsule.runnerClass = use.lease.runnerClass
  runtime : use.identity.RunsOn use.capsule
  definition : use.definition.definitionIdentity = use.capsule.capabilityDefinitionIdentity
  targetKind : use.definition.targetKind = use.capsule.targetKind
  handlerId : use.definition.handlerId = use.capsule.handlerId
  environment : use.lease.environment ∈ use.definition.supportedEnvironments

namespace RuntimeUse

variable (sha256 : String → String)

def Created : RuntimeUse → Prop
  | read use => ∃ boundary, RunnerBoundary.create sha256 use.identity use.lease use.capsule
      use.definition use.boundaryRevision = .ok boundary
  | createRef use evidence condition requirementRevision => ∃ requirement boundary,
      ControlledWriteRequirement.create sha256 use.definition use.capsule evidence condition
        requirementRevision = .ok requirement ∧
      RunnerBoundaryV2.create sha256 use.identity use.lease use.capsule use.definition evidence
        condition requirement use.boundaryRevision = .ok boundary
  | rollback use evidence condition requirementRevision => ∃ requirement boundary,
      RollbackWriteRequirement.create sha256 use.definition use.capsule evidence condition
        requirementRevision = .ok requirement ∧
      RunnerBoundaryV3.create sha256 use.identity use.lease use.capsule use.definition requirement
        condition use.boundaryRevision = .ok boundary

/-- The runner runs the approved executable; on the paths of a writer, with the handler of the
capsule. -/
def Approved : RuntimeUse → Prop
  | read use => use.Approved
  | createRef use evidence _ _ => use.Approved ∧ evidence.Binds use.capsule
  | rollback use evidence _ _ => use.Approved ∧ evidence.Binds use.capsule

/-- What neither constructor of a rollback compares. -/
structure Unchecked (use : RunnerUse) (evidence : HandlerConformanceEvidence) : Prop where
  /-- The class of the capsule, which is not compared with the one of the lease. -/
  runnerClass : use.capsule.runnerClass = use.lease.runnerClass
  /-- The runtime of the runner. -/
  rootfs : use.identity.rootfsDigest = use.capsule.rootfsDigest
  resources : use.identity.resourceLimitProfileDigest = use.capsule.resourceLimitProfileDigest
  network : use.identity.networkPolicyDigest = use.capsule.networkPolicyDigest
  /-- The fields of the evidence other than its capsule digest and its enforcement. -/
  definition : evidence.capabilityDefinitionIdentity = use.capsule.capabilityDefinitionIdentity
  handlerId : evidence.handlerId = use.capsule.handlerId
  handlerDigest : evidence.handlerDigest = use.capsule.handlerDigest
  evidenceClass : evidence.runnerClass = use.capsule.runnerClass
  credentialClass : evidence.credentialClass = use.capsule.credentialClass
  verification : evidence.verificationContractIdentity = use.capsule.verificationContractIdentity

/-- A rollback is made of parts that agree in what is not compared. -/
def Agrees : RuntimeUse → Prop
  | read _ => True
  | createRef _ _ _ _ => True
  | rollback use evidence _ _ => Unchecked use evidence

variable {sha256}

variable {use : RunnerUse} {evidence : HandlerConformanceEvidence}

theorem approved_of_read (created : (read use).Created sha256) : use.Approved := by
  obtain ⟨boundary, created⟩ := created
  simp only [RunnerBoundary.create, RunnerIdentity.assertBoundToLease, bind_eq_ok, raiseIf_eq_ok,
    not_not] at created
  obtain ⟨_, _, _, ⟨_, identityClass, _⟩, _, capsule, _, leaseClass, _, rootfs, _, resources, _,
    network, _, definition, _, targetKind, _, handlerId, _, _, _, environment, _⟩ := created
  exact
    { capsule
      runnerClass := leaseClass
      runtime := ⟨identityClass.symm.trans leaseClass.symm, rootfs, resources, network⟩
      definition
      targetKind
      handlerId
      environment }

theorem approved_of_createRef {condition : GitHubCreateRefConditionContract}
    {requirementRevision : String}
    (created : (createRef use evidence condition requirementRevision).Created sha256) :
    use.Approved ∧ evidence.Binds use.capsule := by
  obtain ⟨requirement, boundary, required, created⟩ := created
  simp only [ControlledWriteRequirement.create, bind_eq_ok, raiseIf_eq_ok, not_not] at required
  obtain ⟨_, _, _, _, _, _, _, _, _, _, _, _, _, _, _, _, _, capsuleBinding, _, evidenceBinding,
    _⟩ := required
  simp only [List.cons.injEq, and_true] at capsuleBinding
  obtain ⟨-, targetKind, handlerId, -⟩ := capsuleBinding
  simp only [RunnerBoundaryV2.create, RunnerIdentity.assertBoundToLease, bind_eq_ok, raiseIf_eq_ok,
    not_or, not_not] at created
  obtain ⟨_, _, _, ⟨_, identityClass, _⟩, _, _, _, staging, _, capsule, _, leaseClass, _, rootfs, _,
    resources, _, network, _, _, _, definition, _, _, _, _, _, ⟨_, environments⟩, _⟩ := created
  refine ⟨?_, HandlerConformanceEvidence.binds_of_bound evidenceBinding⟩
  exact
    { capsule
      runnerClass := leaseClass
      runtime := ⟨identityClass.symm.trans leaseClass.symm, rootfs, resources, network⟩
      definition
      targetKind := targetKind.symm
      handlerId := handlerId.symm
      environment := by
        rw [environments, staging]
        exact List.mem_cons_self }

/-- On the path of a rollback, everything rests on what is not compared. -/
theorem approved_rollback_iff {condition : GitHubDeleteRefConditionContract}
    {requirementRevision : String}
    (created : (rollback use evidence condition requirementRevision).Created sha256) :
    (use.Approved ∧ evidence.Binds use.capsule) ↔ Unchecked use evidence := by
  obtain ⟨requirement, boundary, required, created⟩ := created
  simp only [RollbackWriteRequirement.create, bind_eq_ok, raiseIf_eq_ok, not_or, not_not]
    at required
  obtain ⟨_, _, _, _, _, _, _, _, _, _, _, ⟨_, environments⟩, _, _, _, ⟨handlerId, targetKind⟩, _,
    capsuleCompares, _, evidenceDigest, _, evidenceCompares, _⟩ := required
  simp only [RunnerBoundaryV3.create, RunnerIdentity.assertBoundToLease, bind_eq_ok, raiseIf_eq_ok,
    not_or, not_not] at created
  obtain ⟨_, ⟨_, identityClass, _⟩, _, _, _, ⟨staging, capsule⟩, _, _, _, definition, _⟩ := created
  constructor
  · rintro ⟨approved, binds⟩
    exact
      { runnerClass := approved.runnerClass
        rootfs := approved.runtime.rootfs
        resources := approved.runtime.resources
        network := approved.runtime.network
        definition := binds.definition
        handlerId := binds.handlerId
        handlerDigest := binds.handlerDigest
        evidenceClass := binds.runnerClass
        credentialClass := binds.credentialClass
        verification := binds.verification }
  · intro agrees
    refine ⟨?_, ?_⟩
    · exact
        { capsule
          runnerClass := agrees.runnerClass
          runtime := ⟨identityClass.symm.trans agrees.runnerClass.symm, agrees.rootfs,
            agrees.resources, agrees.network⟩
          definition
          targetKind := targetKind.symm
          handlerId := handlerId.symm
          environment := by
            rw [environments, staging]
            exact List.mem_cons_self }
    · exact
        { definition := agrees.definition
          digest := evidenceDigest
          handlerId := agrees.handlerId
          handlerDigest := agrees.handlerDigest
          runnerClass := agrees.evidenceClass
          credentialClass := agrees.credentialClass
          enforcement := evidenceCompares.trans capsuleCompares.symm
          verification := agrees.verification }

end RuntimeUse

structure A09RollbackRuntimeProfile.Describes (profile : A09RollbackRuntimeProfile)
    (capsule : ExecutionCapsule) : Prop where
  runnerClass : writeRunnerClass = capsule.runnerClass
  rootfs : profile.rootfsDigest = capsule.rootfsDigest
  resources : profile.resourceLimitProfileDigest = capsule.resourceLimitProfileDigest
  network : profile.networkPolicyDigest = capsule.networkPolicyDigest

/-- The registered capsule whose digest the prepared execution holds. -/
structure A09RollbackPreparer.Approves (preparer : A09RollbackPreparer)
    (prepared : CanonicalPreparedExecution) (capsule : ExecutionCapsule) : Prop where
  registered : capsule ∈ preparer.handlerRegistry.capsules.capsules
  digest : capsule.capsuleDigest = prepared.executionCapsuleDigest

namespace A09RollbackPreparer

variable {sha256 : String → String} {preparer : A09RollbackPreparer}
  {surroundings : RollbackSurroundings} {prepared : CanonicalPreparedExecution}
  {observedRefSha predeleteObservationDigest : String} {rollback : A09PreparedRollback}

theorem of_prepare (returned : preparer.prepare sha256 surroundings prepared observedRefSha
      predeleteObservationDigest = .ok rollback) :
    (∃ capsule, preparer.Approves prepared capsule) ∧
      RunnerIdentity.create sha256 (preparer.runtimeProfile.identityDraft prepared.environment) =
        .ok rollback.identity := by
  simp only [prepare, bind_eq_ok, raiseIf_eq_ok, not_not, pure_eq_ok] at returned
  obtain ⟨_, _, _, _, _, _, _, _, _, _, capsule, found, _, digest, _, _, _, _, _, _, _, _, identity,
    made, _, _, _, _, _, _, _, _, _, _, _, _, _, _, _, _, _, _, _, _, _, _, _, _, _, _, rfl⟩ :=
    returned
  exact ⟨⟨capsule, (ExecutionCapsuleRegistry.capsuleForDefinition_eq_ok found).1, digest⟩, made⟩

theorem approves_unique {left right : ExecutionCapsule} (ofLeft : preparer.Approves prepared left)
    (ofRight : preparer.Approves prepared right) : left = right :=
  ExecutionCapsuleRegistry.eq_of_digest ofLeft.registered ofRight.registered
    (ofLeft.digest.trans ofRight.digest.symm)

theorem runsOn_iff (returned : preparer.prepare sha256 surroundings prepared observedRefSha
      predeleteObservationDigest = .ok rollback) (capsule : ExecutionCapsule) :
    rollback.identity.RunsOn capsule ↔ preparer.runtimeProfile.Describes capsule := by
  have made := (of_prepare returned).2
  rw [RunnerIdentity.create] at made
  rw [Contract.eq_of_create RunnerIdentity.lawful made]
  exact ⟨fun runs => ⟨runs.runnerClass, runs.rootfs, runs.resources, runs.network⟩,
    fun describes => ⟨describes.runnerClass, describes.rootfs, describes.resources,
      describes.network⟩⟩

end A09RollbackPreparer

/-- The boundaries of a reader and of the first writer bind the approved executable and its runtime.
That of a rollback does so exactly when the parts agree in what it does not compare, and a prepared
rollback runs on the approved runtime exactly when the profile of the preparer describes it. -/
theorem boundaries_approve_iff (sha256 : String → String) :
    (∀ request : RuntimeUse, request.Created sha256 → (request.Approved ↔ request.Agrees)) ∧
    ∀ (preparer : A09RollbackPreparer) (surroundings : RollbackSurroundings)
      (prepared : CanonicalPreparedExecution) (observedRefSha predeleteObservationDigest : String)
      (rollback : A09PreparedRollback),
      preparer.prepare sha256 surroundings prepared observedRefSha predeleteObservationDigest =
        .ok rollback →
      ∃! capsule, preparer.Approves prepared capsule ∧
        (rollback.identity.RunsOn capsule ↔ preparer.runtimeProfile.Describes capsule) := by
  refine ⟨fun request created => ?_, fun preparer surroundings prepared observed digest rollback
    returned => ?_⟩
  · cases request with
    | read use => exact iff_of_true (RuntimeUse.approved_of_read created) trivial
    | createRef use evidence condition revision =>
        exact iff_of_true (RuntimeUse.approved_of_createRef created) trivial
    | rollback use evidence condition revision =>
        exact RuntimeUse.approved_rollback_iff created
  · obtain ⟨⟨capsule, approves⟩, -⟩ := A09RollbackPreparer.of_prepare returned
    exact ⟨capsule, ⟨approves, A09RollbackPreparer.runsOn_iff returned capsule⟩,
      fun other ofOther => A09RollbackPreparer.approves_unique ofOther.1 approves⟩

namespace OtherRootfs

variable (sha256 : Sha256)

/-- A digest other than the one that the capsule pins. -/
def rootfs : String :=
  if sha256.someDigest = repeatedDigit '1' then repeatedDigit '2' else repeatedDigit '1'

theorem rootfs_ne : rootfs sha256 ≠ sha256.someDigest := by
  rw [rootfs]
  split
  · next same =>
      rw [same]
      decide
  · next other => exact fun same => other same.symm

def identityDraft : RunnerIdentity :=
  { LatePreflight.identityDraft sha256 with rootfsDigest := rootfs sha256 }

def identity : RunnerIdentity :=
  sha256.finish RunnerIdentity.contract { identityDraft sha256 with
    runnerId := (identityDraft sha256).logicalIdentity sha256.hexdigest }

theorem identity_rootfs : (identity sha256).rootfsDigest = rootfs sha256 := rfl

theorem capsule_rootfs : (LatePreflight.capsule sha256).rootfsDigest = sha256.someDigest := rfl

/-- The runner under the lease of a rollback, whose capsule pins another file system. -/
def use : RunnerUse where
  identity := identity sha256
  lease := LatePreflight.lease sha256
  capsule := LatePreflight.capsule sha256
  definition := LatePreflight.definition sha256
  boundaryRevision := "r1"

/-- The boundary is asked for with evidence of the handler of the capsule. -/
def request : RuntimeUse :=
  .rollback (use sha256) (LatePreflight.conformance sha256) (LatePreflight.condition sha256) "r1"

theorem request_created : (request sha256).Created sha256.hexdigest :=
  ⟨_, _, LatePreflight.requirement_returned sha256,
    LatePreflight.boundaryOf_created (LatePreflight.oneMinute sha256) (sha256.isDigest _)
      (sha256.isDigest _) rfl rfl⟩

end OtherRootfs

/-- Whatever the digest function, a boundary of a rollback is made for a runner whose file system is
not the one that the capsule pins. -/
theorem rollbackBoundary_not_approved : ¬∃ sha256 : Sha256, ∀ request : RuntimeUse,
      request.Created sha256.hexdigest → request.Approved := by
  rintro ⟨sha256, approves⟩
  obtain ⟨approved, -⟩ : (OtherRootfs.use sha256).Approved ∧
      (LatePreflight.conformance sha256).Binds (OtherRootfs.use sha256).capsule :=
    approves (OtherRootfs.request sha256) (OtherRootfs.request_created sha256)
  have same : (OtherRootfs.identity sha256).rootfsDigest =
      (LatePreflight.capsule sha256).rootfsDigest := approved.runtime.rootfs
  rw [OtherRootfs.identity_rootfs, OtherRootfs.capsule_rootfs] at same
  exact OtherRootfs.rootfs_ne sha256 same

end VoodooOne
