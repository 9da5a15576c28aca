import VoodooOne.Library.Sorting
import VoodooOne.SecurityIntelligence.Manifests

/-!
# Normalization of external skills

The metadata of an external skill becomes manifests.  What is not recognised, not evidenced or not
constrained is marked as unknown.
-/

namespace VoodooOne.SecurityIntelligence

inductive MappingStatus where
  | normalized
  | unknown
deriving DecidableEq, Repr

inductive DiscoveryLevel where
  | index
  | metadata
  | content
deriving DecidableEq, Repr

inductive NormalizationStatus where
  | normalized
  | unknown
deriving DecidableEq, Repr

def MappingStatus.value : MappingStatus → String
  | normalized => "NORMALIZED"
  | unknown => "UNKNOWN"

def DiscoveryLevel.value : DiscoveryLevel → String
  | index => "INDEX"
  | metadata => "METADATA"
  | content => "CONTENT"

def NormalizationStatus.value : NormalizationStatus → String
  | normalized => "NORMALIZED"
  | unknown => "UNKNOWN"

/-- `_RISK_ORDER`. -/
def RiskClass.order : RiskClass → Nat
  | low => 1
  | medium => 2
  | high => 3
  | critical => 4
  | unknown => 5

def parseRisk (value : String) : RiskClass :=
  ([.low, .medium, .high, .critical].find? fun risk : RiskClass => risk.value = upper value).getD
    .unknown

def parseEffect (value : String) : EffectClass :=
  ([.read, .compute, .network, .write, .execute].find? fun effect : EffectClass =>
    effect.value = upper value).getD .unknown

def supportedFrameworks : List String :=
  ["MITRE ATT&CK", "MITRE ATLAS", "MITRE D3FEND", "MITRE F3", "NIST AI RMF", "NIST CSF 2.0"]

structure FrameworkMapping where
  (framework externalId : String)
  evidenceRefs : List String
  status : MappingStatus
  mappingIdentity : String
deriving DecidableEq, Repr

namespace FrameworkMapping

def claimsWithoutIdentity (mapping : FrameworkMapping) : Json :=
  .object [("mapping_type", .str "security-intelligence-framework-mapping/v1"),
    ("framework", .str mapping.framework), ("external_id", .str mapping.externalId),
    ("evidence_refs", textItems mapping.evidenceRefs), ("status", .str mapping.status.value)]

def postInit (sha256 : Sha256) (mapping : FrameworkMapping) : Except Raised Unit := do
  requireTextFields [("framework", mapping.framework), ("external_id", mapping.externalId)]
  requireEachText (sortedUnique mapping.evidenceRefs) "evidence_ref"
  raiseIf (mapping.evidenceRefs ≠ sortedUnique mapping.evidenceRefs)
    (valueError "evidence_refs must be sorted and unique")
  raiseIf (mapping.framework ∉ supportedFrameworks ∧ mapping.status ≠ .unknown)
    (valueError "unknown framework must remain UNKNOWN")
  raiseIf (mapping.evidenceRefs = [] ∧ mapping.status ≠ .unknown)
    (valueError "evidence-less mapping must remain UNKNOWN")
  raiseIf (mapping.mappingIdentity ≠ digestOf sha256.hexdigest mapping.claimsWithoutIdentity)
    (valueError "mapping_identity does not match claims")

def toReference (mapping : FrameworkMapping) : String :=
  (if mapping.status = .normalized then mapping.framework else "UNKNOWN") ++ ":" ++
    mapping.externalId

def sortKey (mapping : FrameworkMapping) : List String :=
  [mapping.framework, mapping.externalId, mapping.mappingIdentity]

end FrameworkMapping

structure ProgressiveDiscovery where
  (source sourceSkillRef indexRef : String)
  (metadataRef contentRef : Option String)
  level : DiscoveryLevel
  discoveryIdentity : String
deriving DecidableEq, Repr

namespace ProgressiveDiscovery

def optionalText : Option String → Json
  | some text => .str text
  | none => .null

def claimsWithoutIdentity (discovery : ProgressiveDiscovery) : Json :=
  .object [("discovery_type", .str "security-intelligence-progressive-discovery/v1"),
    ("source", .str discovery.source), ("source_skill_ref", .str discovery.sourceSkillRef),
    ("index_ref", .str discovery.indexRef), ("metadata_ref", optionalText discovery.metadataRef),
    ("content_ref", optionalText discovery.contentRef), ("level", .str discovery.level.value)]

def postInit (sha256 : Sha256) (discovery : ProgressiveDiscovery) : Except Raised Unit := do
  requireTextFields [("source", discovery.source), ("source_skill_ref", discovery.sourceSkillRef),
    ("index_ref", discovery.indexRef)]
  requireEachText discovery.metadataRef.toList "metadata_ref"
  requireEachText discovery.contentRef.toList "content_ref"
  raiseIf (discovery.level ∈ [.metadata, .content] ∧ discovery.metadataRef = none)
    (valueError "metadata discovery requires metadata_ref")
  raiseIf (discovery.level = .content ∧ discovery.contentRef = none)
    (valueError "content discovery requires content_ref")
  raiseIf (discovery.level = .index ∧ (discovery.metadataRef ≠ none ∨ discovery.contentRef ≠ none))
    (valueError "INDEX discovery cannot claim deeper refs")
  raiseIf (discovery.level = .metadata ∧ discovery.contentRef ≠ none)
    (valueError "METADATA discovery cannot claim content_ref")
  raiseIf (discovery.discoveryIdentity ≠ digestOf sha256.hexdigest discovery.claimsWithoutIdentity)
    (valueError "discovery_identity does not match claims")

end ProgressiveDiscovery

structure ExternalCapability where
  (capabilityId sourceCapability effectClass riskClass resourceScope : String)
  (sandboxConstraints evidenceRefs : List String)
deriving DecidableEq, Repr

structure ExternalSkill where
  (source skillId version domain contentRef : String)
  discovery : ProgressiveDiscovery
  capabilities : List ExternalCapability
  frameworkMappings : List FrameworkMapping
  evidenceRefs : List String
deriving DecidableEq, Repr

structure NormalizationResult where
  skillManifest : SkillManifest
  capabilityManifests : List CapabilityManifest
  frameworkMappings : List FrameworkMapping
  discovery : ProgressiveDiscovery
  status : NormalizationStatus
  (requiresVopEvaluation createsExecutionAuthority createsRuntimeBinding : Bool)
  resultIdentity : String
deriving DecidableEq, Repr

namespace NormalizationResult

def claimsWithoutIdentity (result : NormalizationResult) : Json :=
  .object [("result_type", .str "security-intelligence-normalization-result/v1"),
    ("skill_manifest_identity", .str result.skillManifest.manifestIdentity),
    ("capability_manifest_identities",
      textItems (result.capabilityManifests.map (·.manifestIdentity))),
    ("framework_mapping_identities",
      textItems (result.frameworkMappings.map (·.mappingIdentity))),
    ("discovery_identity", .str result.discovery.discoveryIdentity),
    ("status", .str result.status.value),
    ("requires_vop_evaluation", .bool result.requiresVopEvaluation),
    ("creates_execution_authority", .bool result.createsExecutionAuthority),
    ("creates_runtime_binding", .bool result.createsRuntimeBinding)]

def postInit (sha256 : Sha256) (result : NormalizationResult) : Except Raised Unit := do
  raiseIf (result.skillManifest.status ≠ .proposed)
    (valueError "external skill must remain PROPOSED")
  raiseIf (result.requiresVopEvaluation = false)
    (valueError "normalization must require VOP evaluation")
  raiseIf (result.createsExecutionAuthority = true)
    (valueError "normalization cannot create execution authority")
  raiseIf (result.createsRuntimeBinding = true)
    (valueError "normalization cannot create runtime binding")
  raiseIf (result.resultIdentity ≠ digestOf sha256.hexdigest result.claimsWithoutIdentity)
    (valueError "result_identity does not match claims")

end NormalizationResult

namespace ExternalCapability

/-- Whether a capability is normalized: recognised, evidenced and, where active, constrained. -/
def normalized (item : ExternalCapability) : Bool :=
  decide (parseRisk item.riskClass ≠ .unknown) && decide (parseEffect item.effectClass ≠ .unknown)
    && decide (sortedUnique item.evidenceRefs ≠ []) &&
    decide (parseEffect item.effectClass ∉ activeEffects ∨
      sortedUnique item.sandboxConstraints ≠ [])

/-- The effect that the manifest states: an active effect without constraints is unknown. -/
def manifestEffect (item : ExternalCapability) : EffectClass :=
  if parseEffect item.effectClass ∈ activeEffects ∧ sortedUnique item.sandboxConstraints = [] then
    .unknown
  else parseEffect item.effectClass

/-- The body of the loop over the capabilities. -/
def normalize (sha256 : Sha256) (skillId : String) (item : ExternalCapability) :
    Except Raised CapabilityManifest := do
  requireEachText (sortedUnique item.sandboxConstraints) "sandbox_constraint"
  requireEachText (sortedUnique item.evidenceRefs) "evidence_ref"
  let status : NormalizationStatus := if item.normalized then .normalized else .unknown
  CapabilityManifest.create sha256 item.capabilityId skillId item.sourceCapability
    item.manifestEffect item.resourceScope (parseRisk item.riskClass)
    (sortedUnique item.sandboxConstraints) (sortedUnique item.evidenceRefs) status.value

end ExternalCapability

/-- `max(risks, key=_RISK_ORDER.__getitem__)`. -/
def maxRisk (risks : List RiskClass) : RiskClass :=
  risks.foldl (fun best risk => if best.order < risk.order then risk else best)
    (risks.headD .unknown)

namespace ExternalSkill

/-- The mappings in the order of their keys. -/
def sortedMappings (external : ExternalSkill) : List FrameworkMapping :=
  external.frameworkMappings.insertionSort fun left right => left.sortKey ≤ right.sortKey

/-- The capabilities in the order of their ids. -/
def sortedCapabilities (external : ExternalSkill) : List ExternalCapability :=
  external.capabilities.insertionSort fun left right => left.capabilityId ≤ right.capabilityId

def status (external : ExternalSkill) : NormalizationStatus :=
  if sortedUnique external.evidenceRefs ≠ [] ∧
      (external.sortedCapabilities.all fun item => item.normalized) = true ∧
      (external.sortedMappings.all fun mapping => mapping.status = .normalized) = true ∧
      external.discovery.level ∈ [.metadata, .content] then .normalized
  else .unknown

/-- The manifest of the skill, before it is sorted and identified. -/
def draftManifest (external : ExternalSkill) (capabilityIds : List String) : SkillManifest where
  skillId := external.skillId
  version := external.version
  source := external.source
  domain := external.domain
  capabilityIds := capabilityIds
  riskClass := maxRisk (external.sortedCapabilities.map fun item => parseRisk item.riskClass)
  authorityRequirements := ["vop-policy-evaluation"]
  frameworkMappings := sortedNames (external.sortedMappings.map (·.toReference))
  evidenceRequirements := ["source-evidence"]
  verificationRequirements := ["independent-verification-before-activation"]
  contentRef := external.contentRef
  status := .proposed
  manifestIdentity := ""

def normalize (sha256 : Sha256) (external : ExternalSkill) : Except Raised NormalizationResult := do
  raiseIf (external.discovery.source ≠ external.source) (valueError "discovery source mismatch")
  raiseIf (external.capabilities = [])
    (valueError "external skill requires at least one capability")
  requireEachText (sortedUnique external.evidenceRefs) "evidence_ref"
  let manifests ← external.sortedCapabilities.mapM (·.normalize sha256 external.skillId)
  let skillManifest ← SkillManifest.create sha256
    (external.draftManifest (manifests.map (·.capabilityId)))
  let draft : NormalizationResult := ⟨skillManifest, manifests, external.sortedMappings,
    external.discovery, external.status, true, false, false, ""⟩
  let result := { draft with
    resultIdentity := digestOf sha256.hexdigest draft.claimsWithoutIdentity }
  result.postInit sha256
  return result

end ExternalSkill

end VoodooOne.SecurityIntelligence
