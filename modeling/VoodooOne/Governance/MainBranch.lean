import VoodooOne.Foundation.Interpreter

/-!
# Governance of the main branch

The verifier compares what GitHub reports about the main branch with a baseline of controls.  The
evidence consists of JSON objects as they come from the provider.
-/

namespace VoodooOne.Governance

abbrev Dictionary := List (String × Json)

/-- `value.get(key)`. -/
def field (value : Dictionary) (key : String) : Json := (value.lookup key).getD .null

/-- `bool(value)`. -/
def truthy : Json → Bool
  | .null => false
  | .bool value => value
  | .int value => value ≠ 0
  | .float repr => repr ≠ "0.0" ∧ repr ≠ "-0.0"
  | .str text => text ≠ ""
  | .arr items => items ≠ []
  | .obj fields => fields ≠ []

/-- `(value or {})`, of which a field is read. -/
def mappingOr (value : Json) : Except Raised Dictionary :=
  if truthy value then
    match value with
    | .obj fields => .ok fields
    | _ => .error ⟨.attributeError, "object has no attribute 'get'"⟩
  else .ok []

/-- `(value or [])`, over which a loop runs. -/
def itemsOr (value : Json) : Except Raised (List Json) :=
  if truthy value then
    match value with
    | .arr items => .ok items
    | .str text => .ok (text.toList.map fun character => .str (String.singleton character))
    | .obj fields => .ok (fields.map fun entry => .str entry.1)
    | _ => .error ⟨.typeError, "object is not iterable"⟩
  else .ok []

/-- Lists and objects cannot be members of a set. -/
def hashable : Json → Bool
  | .arr _ => false
  | .obj _ => false
  | _ => true

/-- What a rule, or all rules, require of status checks. -/
structure StatusBindings where
  strict : Bool
  /-- The required contexts, each with the integration that must report it. -/
  required : List (String × Option Int)

/-- One entry of `required_status_checks`. -/
def statusBinding (interpreter : Interpreter) : Json → Option (String × Option Int)
  | .obj item =>
      if truthy (field item "context") then
        some (interpreter.str (field item "context"), (field item "integration_id").asInt)
      else none
  | _ => none

def ruleBindings (interpreter : Interpreter) (rule : Dictionary) : Except Raised StatusBindings :=
  if field rule "type" ≠ .str "required_status_checks" then .ok ⟨false, []⟩
  else do
    let parameters ← mappingOr (field rule "parameters")
    let items ← itemsOr (field parameters "required_status_checks")
    return ⟨truthy (field parameters "strict_required_status_checks_policy"),
      items.filterMap (statusBinding interpreter)⟩

def requiredStatusBindings (interpreter : Interpreter) (activeRules : List Dictionary) :
    Except Raised StatusBindings := do
  let bindings ← activeRules.mapM (ruleBindings interpreter)
  return ⟨bindings.any (·.strict), bindings.flatMap (·.required)⟩

def pullRequestThreadResolution : List Dictionary → Except Raised Bool
  | [] => .ok false
  | rule :: rules =>
      if field rule "type" ≠ .str "pull_request" then pullRequestThreadResolution rules
      else do
        let parameters ← mappingOr (field rule "parameters")
        if field parameters "required_review_thread_resolution" = .bool true then .ok true
        else pullRequestThreadResolution rules

/-- What the loop over the ruleset details finds in one of them. -/
structure RulesetFindings where
  inactive : Option Int
  bypassActors : List Dictionary

def object? : Json → Option Dictionary
  | .obj fields => some fields
  | _ => none

def rulesetFindings (ruleset : Dictionary) : Except Raised RulesetFindings := do
  raiseIf (hashable (field ruleset "enforcement") = false) ⟨.typeError, "unhashable type"⟩
  let actors ← itemsOr (field ruleset "bypass_actors")
  let active := field ruleset "enforcement" = .str "active" ∨
    field ruleset "enforcement" = .str "enabled"
  return ⟨if active then none else (field ruleset "id").asInt, actors.filterMap object?⟩

abbrev Observations := List (String × List Dictionary)

/-- `provider_observations.get(context, [])`. -/
def observationsFor (observations : Observations) : Json → List Dictionary
  | .str context => (observations.lookup context).getD []
  | _ => []

def providerObservationsComplete (contexts : List Json) (observations : Observations) : Bool :=
  contexts.all fun context => observationsFor observations context ≠ []

def workflowObservationComplete (observation : Dictionary) : Bool :=
  (field observation "app_id").asInt.isSome && (field observation "workflow").text?.isSome &&
    (field observation "workflow_path").text?.isSome && (field observation "head_sha").text?.isSome

def observedApps (observations : Observations) (context : Json) : List Int :=
  (observationsFor observations context).filterMap fun observation =>
    (field observation "app_id").asInt

structure Observed where
  activeRuleTypes : List String
  requiredStatusChecks : List String
  requiredStatusCheckIntegrationIds : List (String × List Int)
  providerObservations : Observations
  branchHeadSha : Option String
  strictRequiredStatusChecksPolicy : Bool
  bypassEvidenceComplete : Bool
  bypassActors : List Dictionary
  inactiveRulesetIds : List Int

structure Evaluation where
  checks : List (String × Bool)
  observed : Observed
  unknownReasons : List String
  ok : Bool

structure Evidence where
  activeRules : List Dictionary
  rulesetDetails : List Dictionary
  providerObservations : Observations
  branchHeadSha : Option String
  expectedSourceSha : Option String
  sources : List String
  error : Option String

variable (interpreter : Interpreter)

def ruleTypes (activeRules : List Dictionary) : List String :=
  ((activeRules.map fun rule => field rule "type").filter truthy).map interpreter.str

/-- The texts of a set in their order. -/
def sortedTexts (texts : List String) : List String := texts.dedup.insertionSort (· ≤ ·)

def expectedContexts (desired : Dictionary) : Except Raised (List Json) := do
  let contexts ← itemsOr (field desired "required_status_checks")
  raiseIf (contexts.all hashable = false) ⟨.typeError, "unhashable type"⟩
  return contexts

/-- The check of thread resolution, where the baseline asks for it. -/
def conversationResolution (desired : Dictionary) (activeRules : List Dictionary) :
    Except Raised Bool :=
  if truthy (field desired "require_conversation_resolution") then
    pullRequestThreadResolution activeRules
  else .ok true

def workflowEvidenceComplete (desired : Dictionary) (contexts : List Json) (evidence : Evidence) :
    Bool :=
  !truthy (field desired "workflow") ||
    (evidence.branchHeadSha ≠ none ∧ evidence.branchHeadSha ≠ some "") &&
      contexts.all fun context =>
        observationsFor evidence.providerObservations context ≠ [] &&
          (observationsFor evidence.providerObservations context).all workflowObservationComplete

def workflowIdentityOk (desired : Dictionary) (contexts : List Json) (evidence : Evidence) : Bool :=
  !truthy (field desired "workflow") ||
    workflowEvidenceComplete desired contexts evidence &&
      contexts.all fun context =>
        (observationsFor evidence.providerObservations context).all fun observation =>
          field observation "workflow" = field desired "workflow" ∧
            field observation "workflow_path" = field desired "workflow_path" ∧
            some (field observation "head_sha") = evidence.branchHeadSha.map .str

def providerBindingOk (desired : Dictionary) (contexts : List Json) (bindings : StatusBindings)
    (observations : Observations) : Bool :=
  !truthy (field desired "required_check_provider") ||
    contexts.all fun context => bindings.required.any fun binding =>
      .str binding.1 = context &&
        (observedApps observations context).any fun app => binding.2 = some app

def evaluateRulesetState (desired : Dictionary) (evidence : Evidence) :
    Except Raised Evaluation := do
  let bindings ← requiredStatusBindings interpreter evidence.activeRules
  let contexts ← expectedContexts desired
  let findings ← evidence.rulesetDetails.mapM rulesetFindings
  let resolution ← conversationResolution desired evidence.activeRules
  let types := ruleTypes interpreter evidence.activeRules
  let required := bindings.required.map Prod.fst
  let bypassComplete := evidence.rulesetDetails.all fun ruleset =>
    (ruleset.lookup "bypass_actors").isSome
  let bypassActors := findings.flatMap (·.bypassActors)
  let inactive := findings.filterMap (·.inactive)
  let providerComplete := !truthy (field desired "required_check_provider") ||
    providerObservationsComplete contexts evidence.providerObservations
  let workflowComplete := workflowEvidenceComplete desired contexts evidence
  let unknownReasons :=
    (if evidence.rulesetDetails ≠ [] ∧ bypassComplete = false then
      ["RULESET_BYPASS_EVIDENCE_INCOMPLETE"] else []) ++
    (if providerComplete = false then ["REQUIRED_CHECK_PROVIDER_EVIDENCE_INCOMPLETE"] else []) ++
    (if workflowComplete = false then ["REQUIRED_CHECK_WORKFLOW_EVIDENCE_INCOMPLETE"] else [])
  let checks := [
    ("pull_request_required",
      !truthy (field desired "pull_request_required") || types.contains "pull_request"),
    ("required_status_checks", contexts.all fun context => required.any fun name =>
      .str name = context),
    ("required_check_provider",
      providerBindingOk desired contexts bindings evidence.providerObservations),
    ("required_check_workflow_identity", workflowIdentityOk desired contexts evidence),
    ("require_latest_head_checks",
      !truthy (field desired "require_latest_head_checks") || bindings.strict),
    ("force_push_disabled",
      field desired "allow_force_pushes" ≠ .bool false || types.contains "non_fast_forward"),
    ("branch_delete_disabled",
      field desired "allow_deletions" ≠ .bool false || types.contains "deletion"),
    ("conversation_resolution_required", resolution),
    ("ordinary_admin_bypass_disabled", bypassComplete &&
      (field desired "ordinary_admin_bypass" ≠ .bool false || bypassActors.isEmpty)),
    ("rulesets_active", inactive.isEmpty)]
  let observed : Observed := {
    activeRuleTypes := sortedTexts types
    requiredStatusChecks := sortedTexts required
    requiredStatusCheckIntegrationIds := (sortedTexts required).map fun context =>
      (context, ((bindings.required.filter (·.1 = context)).filterMap (·.2)).dedup.insertionSort
        (· ≤ ·))
    providerObservations := evidence.providerObservations.insertionSort (·.1 ≤ ·.1)
    branchHeadSha := evidence.branchHeadSha
    strictRequiredStatusChecksPolicy := bindings.strict
    bypassEvidenceComplete := bypassComplete
    bypassActors := bypassActors
    inactiveRulesetIds := inactive }
  return ⟨checks, observed, unknownReasons, unknownReasons.isEmpty && checks.all (·.2)⟩

inductive Verdict where
  | verified
  | blocked
  | unknown
deriving DecidableEq

structure Baseline where
  repository : Json
  branch : Json
  desired : Dictionary

/-- `load_baseline`, on the parsed document. -/
def loadBaseline (document : Dictionary) : Except Raised Baseline := do
  raiseIf (field document "schema" ≠ .str "vone.github-main-governance/v1")
    (valueError "unsupported governance baseline schema")
  raiseIf (truthy (field document "repository") = false ∨ truthy (field document "branch") = false)
    (valueError "baseline repository/branch is required")
  let desired ← orRaise (valueError "baseline desired controls are required")
    (object? (field document "desired"))
  raiseIf (truthy (field desired "workflow") = true ∧ truthy (field desired "workflow_path") =
    false) (valueError "workflow_path is required when workflow identity is required")
  return ⟨field document "repository", field document "branch", desired⟩

structure Report where
  verifiedAt : String
  repository : Json
  branch : Json
  source : List String
  verdict : Verdict
  checks : List (String × Bool)
  /-- Nothing is observed where the evidence could not be collected. -/
  observed : Option Observed
  verifierSourceSha : Option String
  unknownReasons : List String
  error : Option String

def buildReport (now : String) (baseline : Baseline) (evidence : Evidence) : Except Raised Report :=
  match evidence.error with
  | some error => .ok ⟨now, baseline.repository, baseline.branch, evidence.sources, .unknown, [],
      none, evidence.expectedSourceSha, ["LIVE_EVIDENCE_UNAVAILABLE"], some error⟩
  | none => do
      let evaluation ← evaluateRulesetState interpreter baseline.desired evidence
      let sourceComplete := evidence.expectedSourceSha ≠ none ∧ evidence.expectedSourceSha ≠ some ""
      let sourceIsCurrent := decide sourceComplete &&
        evidence.expectedSourceSha = evidence.branchHeadSha
      let unknownReasons := evaluation.unknownReasons ++
        if sourceComplete then [] else ["VERIFIER_SOURCE_EVIDENCE_INCOMPLETE"]
      let verdict : Verdict :=
        if unknownReasons ≠ [] then .unknown
        else if evaluation.ok && sourceIsCurrent then .verified
        else .blocked
      return ⟨now, baseline.repository, baseline.branch, evidence.sources, verdict,
        evaluation.checks ++ [("verifier_source_is_current_main", sourceIsCurrent)],
        some evaluation.observed, evidence.expectedSourceSha, unknownReasons, none⟩

end VoodooOne.Governance
