import VoodooOne.Governance.MainBranch

/-!
# Verdicts on the main branch

The evidence passes where some rule is strict and some rule binds each required context; that it is
one rule, and that every active rule's own ruleset is among the details, is not looked at.
-/

namespace VoodooOne.Governance

/-- An accepted baseline that requires all its controls. -/
structure FullBaseline where
  document : Dictionary
  baseline : Baseline
  loaded : loadBaseline document = .ok baseline
  contexts : List String
  workflow : String
  workflowPath : String
  pullRequest : truthy (field baseline.desired "pull_request_required") = true
  statusChecks : field baseline.desired "required_status_checks" = .arr (contexts.map .str)
  provider : truthy (field baseline.desired "required_check_provider") = true
  workflowNamed : field baseline.desired "workflow" = .str workflow ∧ workflow ≠ ""
  pathNamed : field baseline.desired "workflow_path" = .str workflowPath ∧ workflowPath ≠ ""
  latestHead : truthy (field baseline.desired "require_latest_head_checks") = true
  forcePushes : field baseline.desired "allow_force_pushes" = .bool false
  deletions : field baseline.desired "allow_deletions" = .bool false
  conversation : truthy (field baseline.desired "require_conversation_resolution") = true
  adminBypass : field baseline.desired "ordinary_admin_bypass" = .bool false

def Requires (rule : Dictionary) (context : String) (app : Int) : Prop :=
  field rule "type" = .str "required_status_checks" ∧
    ∃ parameters items item, field rule "parameters" = .obj parameters ∧
      field parameters "strict_required_status_checks_policy" = .bool true ∧
      field parameters "required_status_checks" = .arr items ∧ .obj item ∈ items ∧
      field item "context" = .str context ∧ field item "integration_id" = .int app

def Observes (evidence : Evidence) (context : String) (app : Int) : Prop :=
  ∃ observation ∈ observationsFor evidence.providerObservations (.str context),
    field observation "app_id" = .int app

/-- One strict rule binds each required context to an observed app. -/
def JointlyBound (baseline : FullBaseline) (evidence : Evidence) : Prop :=
  ∀ context ∈ baseline.contexts, ∃ rule ∈ evidence.activeRules, ∃ app,
    Requires rule context app ∧ Observes evidence context app

/-- The observation is of the expected workflow on the branch head. -/
structure Current (baseline : FullBaseline) (evidence : Evidence) (observation : Dictionary) :
    Prop where
  workflow : field observation "workflow" = .str baseline.workflow
  workflowPath : field observation "workflow_path" = .str baseline.workflowPath
  head : some (field observation "head_sha") = evidence.branchHeadSha.map .str

/-- Every control is shown by the evidence. -/
structure Established (baseline : FullBaseline) (evidence : Evidence) : Prop where
  rulesets : ∀ rule ∈ evidence.activeRules, ∃ number, ∃ ruleset ∈ evidence.rulesetDetails,
    field rule "ruleset_id" = .int number ∧ field ruleset "id" = .int number ∧
      field ruleset "enforcement" = .str "active" ∧ field ruleset "bypass_actors" = .arr []
  bound : JointlyBound baseline evidence
  observations : ∀ context ∈ baseline.contexts,
    ∀ observation ∈ observationsFor evidence.providerObservations (.str context),
      Current baseline evidence observation
  source : ∃ sha, evidence.expectedSourceSha = some sha ∧ evidence.branchHeadSha = some sha

/-- There is a report, which says verified only where every control is shown. -/
def Sound (interpreter : Interpreter) (now : String) (baseline : FullBaseline)
    (evidence : Evidence) : Prop :=
  ∃ report, buildReport interpreter now baseline.baseline evidence = .ok report ∧
    (report.verdict = .verified → Established baseline evidence)

def IsMapping : Json → Prop
  | .obj _ => True
  | other => truthy other = false

/-- Nothing, or something to loop over. -/
def IsIterable : Json → Prop
  | .arr _ => True
  | .str _ => True
  | .obj _ => True
  | other => truthy other = false

def mappingValue : Json → Dictionary
  | .obj fields => fields
  | _ => []

def itemsValue : Json → List Json
  | .arr items => items
  | .str text => text.toList.map fun character => .str (String.singleton character)
  | .obj fields => fields.map fun entry => .str entry.1
  | _ => []

def parameters (rule : Dictionary) : Dictionary := mappingValue (field rule "parameters")

def bindingsOf (interpreter : Interpreter) (rule : Dictionary) : StatusBindings :=
  if field rule "type" = .str "required_status_checks" then
    ⟨truthy (field (parameters rule) "strict_required_status_checks_policy"),
      (itemsValue (field (parameters rule) "required_status_checks")).filterMap
        (statusBinding interpreter)⟩
  else ⟨false, []⟩

/-- The rule makes pull requests resolve their threads. -/
def Resolves (rule : Dictionary) : Prop :=
  field rule "type" = .str "pull_request" ∧
    field (parameters rule) "required_review_thread_resolution" = .bool true

/-- The evidence has no value on which the evaluation raises an exception. -/
structure Readable (evidence : Evidence) : Prop where
  statusRules : ∀ rule ∈ evidence.activeRules, field rule "type" = .str "required_status_checks" →
    IsMapping (field rule "parameters") ∧
      IsIterable (field (parameters rule) "required_status_checks")
  /-- Pull request rules after the first that resolves threads are not read. -/
  pullRequestRules : ∀ before rule after, evidence.activeRules = before ++ rule :: after →
    (∀ earlier ∈ before, ¬Resolves earlier) → field rule "type" = .str "pull_request" →
      IsMapping (field rule "parameters")
  rulesets : ∀ ruleset ∈ evidence.rulesetDetails,
    hashable (field ruleset "enforcement") = true ∧ IsIterable (field ruleset "bypass_actors")

/-- A ruleset that the evaluation has nothing against. -/
structure RulesetPasses (ruleset : Dictionary) : Prop where
  disclosed : (ruleset.lookup "bypass_actors").isSome = true
  bypassActors : (itemsValue (field ruleset "bypass_actors")).filterMap object? = []
  active : field ruleset "enforcement" = .str "active" ∨
    field ruleset "enforcement" = .str "enabled" ∨ (field ruleset "id").asInt = none

/-- The evidence that the evaluation has nothing against. -/
structure Passes (interpreter : Interpreter) (baseline : FullBaseline) (evidence : Evidence) :
    Prop where
  types : ∀ type ∈ ["pull_request", "non_fast_forward", "deletion"],
    type ∈ ruleTypes interpreter evidence.activeRules
  strict : ∃ rule ∈ evidence.activeRules, (bindingsOf interpreter rule).strict = true
  bound : ∀ context ∈ baseline.contexts, ∃ rule ∈ evidence.activeRules,
    ∃ app ∈ observedApps evidence.providerObservations (.str context),
      (context, some app) ∈ (bindingsOf interpreter rule).required
  resolves : ∃ rule ∈ evidence.activeRules, Resolves rule
  observations : ∀ context ∈ baseline.contexts,
    observationsFor evidence.providerObservations (.str context) ≠ [] ∧
      ∀ observation ∈ observationsFor evidence.providerObservations (.str context),
        (field observation "app_id").asInt.isSome = true ∧ Current baseline evidence observation
  rulesets : ∀ ruleset ∈ evidence.rulesetDetails, RulesetPasses ruleset
  source : ∃ sha, sha ≠ "" ∧ evidence.expectedSourceSha = some sha ∧
    evidence.branchHeadSha = some sha

/-- Every active rule's own ruleset is among the details, is not called enabled, and its bypass
actors are a list of objects. -/
def Detailed (evidence : Evidence) : Prop :=
  ∀ rule ∈ evidence.activeRules, ∃ number, ∃ ruleset ∈ evidence.rulesetDetails,
    field rule "ruleset_id" = .int number ∧ field ruleset "id" = .int number ∧
      field ruleset "enforcement" ≠ .str "enabled" ∧
      ∃ actors, field ruleset "bypass_actors" = .arr actors ∧
        ∀ actor ∈ actors, (object? actor).isSome = true

theorem mappingOr_eq_ok {value : Json} {fields : Dictionary} :
    mappingOr value = .ok fields ↔ IsMapping value ∧ fields = mappingValue value := by
  cases value with
  | obj entries =>
    cases entries with
    | nil => simp [mappingOr, truthy, IsMapping, mappingValue, eq_comm]
    | cons entry entries => simp [mappingOr, truthy, IsMapping, mappingValue, eq_comm]
  | _ =>
    unfold mappingOr
    split
    · next true =>
      refine ⟨fun raised => (by cases raised), ?_⟩
      rintro ⟨mapping, -⟩
      exact absurd (mapping.symm.trans true) Bool.false_ne_true
    · next false =>
      refine ⟨fun returned => ⟨Bool.eq_false_of_not_eq_true false, (by cases returned; rfl)⟩, ?_⟩
      rintro ⟨-, rfl⟩
      rfl

theorem itemsOr_eq_ok {value : Json} {items : List Json} :
    itemsOr value = .ok items ↔ IsIterable value ∧ items = itemsValue value := by
  cases value with
  | arr entries =>
    cases entries with
    | nil => simp [itemsOr, truthy, IsIterable, itemsValue, eq_comm]
    | cons entry entries => simp [itemsOr, truthy, IsIterable, itemsValue, eq_comm]
  | str text =>
    by_cases empty : text = ""
    · subst empty
      simp [itemsOr, truthy, IsIterable, itemsValue, eq_comm]
    · simp [itemsOr, truthy, IsIterable, itemsValue, empty, eq_comm]
  | obj entries =>
    cases entries with
    | nil => simp [itemsOr, truthy, IsIterable, itemsValue, eq_comm]
    | cons entry entries => simp [itemsOr, truthy, IsIterable, itemsValue, eq_comm]
  | _ =>
    unfold itemsOr
    split
    · next true =>
      refine ⟨fun raised => (by cases raised), ?_⟩
      rintro ⟨iterable, -⟩
      exact absurd (iterable.symm.trans true) Bool.false_ne_true
    · next false =>
      refine ⟨fun returned => ⟨Bool.eq_false_of_not_eq_true false, (by cases returned; rfl)⟩, ?_⟩
      rintro ⟨-, rfl⟩
      rfl

theorem ruleBindings_eq_ok (interpreter : Interpreter) (rule : Dictionary)
    (bindings : StatusBindings) : ruleBindings interpreter rule = .ok bindings ↔
      (field rule "type" = .str "required_status_checks" → IsMapping (field rule "parameters") ∧
        IsIterable (field (parameters rule) "required_status_checks")) ∧
      bindings = bindingsOf interpreter rule := by
  unfold ruleBindings bindingsOf parameters
  split
  · next other => simp [other, eq_comm]
  · next same =>
    rw [not_not] at same
    simp only [bind_eq_ok, mappingOr_eq_ok, itemsOr_eq_ok, pure_eq_ok, same, if_true, forall_const]
    constructor
    · rintro ⟨_, ⟨mapping, rfl⟩, _, ⟨iterable, rfl⟩, rfl⟩
      exact ⟨⟨mapping, iterable⟩, rfl⟩
    · rintro ⟨⟨mapping, iterable⟩, rfl⟩
      exact ⟨_, ⟨mapping, rfl⟩, _, ⟨iterable, rfl⟩, rfl⟩

variable {rules : List Dictionary}

theorem requiredStatusBindings_eq_ok {interpreter : Interpreter} {bindings : StatusBindings} :
    requiredStatusBindings interpreter rules = .ok bindings ↔
      (∀ rule ∈ rules, field rule "type" = .str "required_status_checks" →
        IsMapping (field rule "parameters") ∧
          IsIterable (field (parameters rule) "required_status_checks")) ∧
      bindings = ⟨(rules.map (bindingsOf interpreter)).any (·.strict),
        (rules.map (bindingsOf interpreter)).flatMap (·.required)⟩ := by
  simp only [requiredStatusBindings, bind_eq_ok, pure_eq_ok,
    mapM_eq_ok (ruleBindings_eq_ok interpreter)]
  constructor
  · rintro ⟨_, ⟨readable, rfl⟩, rfl⟩
    exact ⟨readable, rfl⟩
  · rintro ⟨readable, rfl⟩
    exact ⟨_, ⟨readable, rfl⟩, rfl⟩

instance : DecidablePred Resolves := fun _ =>
  inferInstanceAs (Decidable (_ ∧ _))

/-- Pull request rules are readable up to the first that resolves threads. -/
def ThreadsReadable (rules : List Dictionary) : Prop :=
  ∀ before rule after, rules = before ++ rule :: after →
    (∀ earlier ∈ before, ¬Resolves earlier) → field rule "type" = .str "pull_request" →
      IsMapping (field rule "parameters")

theorem threadsReadable_cons {rule : Dictionary} : ThreadsReadable (rule :: rules) ↔
      (field rule "type" = .str "pull_request" → IsMapping (field rule "parameters")) ∧
        (¬Resolves rule → ThreadsReadable rules) := by
  constructor
  · intro readable
    refine ⟨readable [] rule rules rfl fun _ none => absurd none List.not_mem_nil, ?_⟩
    rintro unresolved before other after rfl earlier
    exact readable (rule :: before) other after rfl
      (List.forall_mem_cons.mpr ⟨unresolved, earlier⟩)
  · rintro ⟨first, later⟩ before other after same earlier pull
    cases before with
    | nil =>
      obtain ⟨rfl, -⟩ := List.cons.inj same
      exact first pull
    | cons head before =>
      obtain ⟨rfl, rfl⟩ := List.cons.inj same
      obtain ⟨unresolved, rest⟩ := List.forall_mem_cons.mp earlier
      exact later unresolved before other after rfl rest pull

theorem pullRequestThreadResolution_eq_ok {result : Bool} :
    pullRequestThreadResolution rules = .ok result ↔
      ThreadsReadable rules ∧ result = decide (∃ rule ∈ rules, Resolves rule) := by
  induction rules with
  | nil => simp [pullRequestThreadResolution, ThreadsReadable, eq_comm]
  | cons rule rules induction =>
    rw [pullRequestThreadResolution, threadsReadable_cons]
    split
    · next other =>
      have unresolved : ¬Resolves rule := fun resolves => other resolves.1
      simp [induction, other, unresolved]
    · next pull =>
      rw [not_not] at pull
      simp only [bind_eq_ok, mappingOr_eq_ok, pull, forall_const]
      by_cases resolves : Resolves rule
      · have found : field (mappingValue (field rule "parameters"))
            "required_review_thread_resolution" = .bool true := resolves.2
        constructor
        · rintro ⟨_, ⟨mapping, rfl⟩, ended⟩
          rw [if_pos found] at ended
          exact ⟨⟨mapping, fun unresolved => absurd resolves unresolved⟩, by simp_all⟩
        · rintro ⟨⟨mapping, -⟩, rfl⟩
          refine ⟨_, ⟨mapping, rfl⟩, ?_⟩
          rw [if_pos found]
          simp [resolves]
      · have missing : field (mappingValue (field rule "parameters"))
            "required_review_thread_resolution" ≠ .bool true := fun found => resolves ⟨pull, found⟩
        constructor
        · rintro ⟨_, ⟨mapping, rfl⟩, ended⟩
          rw [if_neg missing, induction] at ended
          exact ⟨⟨mapping, fun _ => ended.1⟩, by simpa [resolves] using ended.2⟩
        · rintro ⟨⟨mapping, later⟩, rfl⟩
          refine ⟨_, ⟨mapping, rfl⟩, ?_⟩
          rw [if_neg missing, induction]
          exact ⟨later resolves, by simp [resolves]⟩

def findingsOf (ruleset : Dictionary) : RulesetFindings :=
  ⟨if field ruleset "enforcement" = .str "active" ∨ field ruleset "enforcement" =
    .str "enabled" then
      none else (field ruleset "id").asInt,
    (itemsValue (field ruleset "bypass_actors")).filterMap object?⟩

theorem rulesetFindings_eq_ok (ruleset : Dictionary) (findings : RulesetFindings) :
    rulesetFindings ruleset = .ok findings ↔
      (hashable (field ruleset "enforcement") = true ∧ IsIterable (field ruleset "bypass_actors")) ∧
        findings = findingsOf ruleset := by
  simp only [rulesetFindings, bind_eq_ok, raiseIf_eq_ok, itemsOr_eq_ok, pure_eq_ok,
    Bool.not_eq_false, exists_const]
  constructor
  · rintro ⟨hashes, _, ⟨iterable, rfl⟩, rfl⟩
    exact ⟨⟨hashes, iterable⟩, rfl⟩
  · rintro ⟨⟨hashes, iterable⟩, rfl⟩
    exact ⟨hashes, _, ⟨iterable, rfl⟩, rfl⟩

theorem expectedContexts_full (baseline : FullBaseline) :
    expectedContexts baseline.baseline.desired = .ok (baseline.contexts.map .str) := by
  have texts : itemsOr (field baseline.baseline.desired "required_status_checks") =
      .ok (baseline.contexts.map .str) := by
    rw [itemsOr_eq_ok, baseline.statusChecks]
    exact ⟨trivial, rfl⟩
  have hashes : (baseline.contexts.map Json.str).all hashable = true := by
    simp [List.all_eq_true, hashable]
  rw [expectedContexts, texts, ok_bind, raiseIf_of_not (by rw [hashes]; decide)]
  rfl

theorem conversationResolution_eq_ok {baseline : FullBaseline} {result : Bool} :
    conversationResolution baseline.baseline.desired rules = .ok result ↔
      ThreadsReadable rules ∧ result = decide (∃ rule ∈ rules, Resolves rule) := by
  rw [conversationResolution, if_pos baseline.conversation]
  exact pullRequestThreadResolution_eq_ok

theorem readable_of_evaluation {interpreter : Interpreter} {baseline : FullBaseline}
    {evidence : Evidence} {evaluation : Evaluation}
    (evaluated : evaluateRulesetState interpreter baseline.baseline.desired evidence =
      .ok evaluation) : Readable evidence := by
  rw [evaluateRulesetState] at evaluated
  obtain ⟨_, bindings, evaluated⟩ := bind_eq_ok.mp evaluated
  obtain ⟨_, -, evaluated⟩ := bind_eq_ok.mp evaluated
  obtain ⟨_, findings, evaluated⟩ := bind_eq_ok.mp evaluated
  obtain ⟨_, resolution, -⟩ := bind_eq_ok.mp evaluated
  exact ⟨(requiredStatusBindings_eq_ok.mp bindings).1,
    (conversationResolution_eq_ok.mp resolution).1,
    ((mapM_eq_ok rulesetFindings_eq_ok).mp findings).1⟩

section Checks

variable {interpreter : Interpreter} {baseline : FullBaseline} {evidence : Evidence}

theorem workflow_required (baseline : FullBaseline) :
    truthy (field baseline.baseline.desired "workflow") = true := by
  rw [baseline.workflowNamed.1]
  exact decide_eq_true baseline.workflowNamed.2

theorem workflowEvidenceComplete_iff :
    workflowEvidenceComplete baseline.baseline.desired (baseline.contexts.map .str) evidence =
      true ↔ (evidence.branchHeadSha ≠ none ∧ evidence.branchHeadSha ≠ some "") ∧
        ∀ context ∈ baseline.contexts,
          observationsFor evidence.providerObservations (.str context) ≠ [] ∧
            ∀ observation ∈ observationsFor evidence.providerObservations (.str context),
              workflowObservationComplete observation = true := by
  rw [workflowEvidenceComplete, workflow_required]
  simp

theorem workflowIdentityOk_iff :
    workflowIdentityOk baseline.baseline.desired (baseline.contexts.map .str) evidence = true ↔
      workflowEvidenceComplete baseline.baseline.desired (baseline.contexts.map .str) evidence =
          true ∧
        ∀ context ∈ baseline.contexts,
          ∀ observation ∈ observationsFor evidence.providerObservations (.str context),
            Current baseline evidence observation := by
  have current (observation : Dictionary) : Current baseline evidence observation ↔
      field observation "workflow" = .str baseline.workflow ∧
        field observation "workflow_path" = .str baseline.workflowPath ∧
          some (field observation "head_sha") = evidence.branchHeadSha.map .str :=
    ⟨fun current => ⟨current.workflow, current.workflowPath, current.head⟩,
      fun same => ⟨same.1, same.2.1, same.2.2⟩⟩
  rw [workflowIdentityOk, workflow_required, baseline.workflowNamed.1, baseline.pathNamed.1]
  simp [current]

theorem Current.complete {observation : Dictionary}
    (current : Current baseline evidence observation)
    (app : (field observation "app_id").asInt.isSome = true) :
    workflowObservationComplete observation = true := by
  have head : (field observation "head_sha").text?.isSome = true := by
    have same := current.head
    cases known : evidence.branchHeadSha with
    | none => simp [known] at same
    | some sha =>
      rw [known, Option.map_some, Option.some.injEq] at same
      rw [same]
      rfl
  have workflow : (field observation "workflow").text?.isSome = true := by
    rw [current.workflow]
    rfl
  have path : (field observation "workflow_path").text?.isSome = true := by
    rw [current.workflowPath]
    rfl
  simp only [workflowObservationComplete, app, head, workflow, path, Bool.and_self]

theorem providerBindingOk_iff :
    providerBindingOk baseline.baseline.desired (baseline.contexts.map .str)
        ⟨(evidence.activeRules.map (bindingsOf interpreter)).any (·.strict),
          (evidence.activeRules.map (bindingsOf interpreter)).flatMap (·.required)⟩
        evidence.providerObservations = true ↔
      ∀ context ∈ baseline.contexts, ∃ rule ∈ evidence.activeRules,
        ∃ app ∈ observedApps evidence.providerObservations (.str context),
          (context, some app) ∈ (bindingsOf interpreter rule).required := by
  rw [providerBindingOk, baseline.provider]
  simp only [Bool.not_true, Bool.false_or, List.all_eq_true, List.any_eq_true, List.mem_map,
    List.mem_flatMap, Bool.and_eq_true, decide_eq_true_eq, forall_exists_index, and_imp,
    forall_apply_eq_imp_iff₂, Json.str.injEq]
  refine forall₂_congr fun context member => ?_
  constructor
  · rintro ⟨⟨name, app⟩, ⟨_, ⟨rule, active, rfl⟩, required⟩, rfl, number, observed, rfl⟩
    exact ⟨rule, active, number, observed, required⟩
  · rintro ⟨rule, active, number, observed, required⟩
    exact ⟨⟨context, some number⟩, ⟨_, ⟨rule, active, rfl⟩, required⟩, rfl, number, observed, rfl⟩

theorem rulesets_iff :
    ((evidence.rulesetDetails.all fun ruleset => (ruleset.lookup "bypass_actors").isSome) = true ∧
      ((evidence.rulesetDetails.map findingsOf).flatMap (·.bypassActors)).isEmpty = true ∧
      ((evidence.rulesetDetails.map findingsOf).filterMap (·.inactive)).isEmpty = true) ↔
      ∀ ruleset ∈ evidence.rulesetDetails, RulesetPasses ruleset := by
  simp only [List.all_eq_true, List.isEmpty_iff, List.flatMap_eq_nil_iff, List.filterMap_eq_nil_iff,
    List.mem_map, forall_exists_index, and_imp, forall_apply_eq_imp_iff₂]
  have inactive (ruleset : Dictionary) : (findingsOf ruleset).inactive = none ↔
      field ruleset "enforcement" = .str "active" ∨ field ruleset "enforcement" = .str "enabled" ∨
        (field ruleset "id").asInt = none := by
    rw [findingsOf, ite_eq_left_iff, not_or, ← or_assoc]
    tauto
  constructor
  · rintro ⟨disclosed, actors, active⟩ ruleset member
    exact ⟨disclosed ruleset member, actors ruleset member,
      (inactive ruleset).mp (active ruleset member)⟩
  · intro passes
    exact ⟨fun ruleset member => (passes ruleset member).disclosed,
      fun ruleset member => (passes ruleset member).bypassActors,
      fun ruleset member => (inactive ruleset).mpr (passes ruleset member).active⟩

theorem strict_iff : ((evidence.activeRules.map (bindingsOf interpreter)).any (·.strict)) = true ↔
    ∃ rule ∈ evidence.activeRules, (bindingsOf interpreter rule).strict = true := by
  simp

theorem required_of_bound (bound : ∀ context ∈ baseline.contexts, ∃ rule ∈ evidence.activeRules,
      ∃ app ∈ observedApps evidence.providerObservations (.str context),
        (context, some app) ∈ (bindingsOf interpreter rule).required) :
    ((baseline.contexts.map Json.str).all fun context =>
      (((evidence.activeRules.map (bindingsOf interpreter)).flatMap (·.required)).map
        Prod.fst).any fun name => .str name = context) = true := by
  rw [List.all_map, List.all_eq_true]
  intro context member
  obtain ⟨rule, active, app, -, required⟩ := bound context member
  rw [Function.comp_apply, List.any_eq_true]
  refine ⟨context, List.mem_map.mpr ⟨(context, some app), ?_, rfl⟩, by simp⟩
  exact List.mem_flatMap.mpr ⟨_, List.mem_map_of_mem active, required⟩

variable (interpreter baseline) in
/-- An evaluation of readable evidence has no reasons and is in order where nothing speaks against
it. -/
theorem exists_evaluation (readable : Readable evidence) :
    ∃ evaluation, evaluateRulesetState interpreter baseline.baseline.desired evidence =
        .ok evaluation ∧
      (evidence.branchHeadSha ≠ none ∧ evidence.branchHeadSha ≠ some "" →
        (evaluation.unknownReasons = [] ∧ evaluation.ok = true ↔
          (∀ type ∈ ["pull_request", "non_fast_forward", "deletion"],
            type ∈ ruleTypes interpreter evidence.activeRules) ∧
          (∃ rule ∈ evidence.activeRules, (bindingsOf interpreter rule).strict = true) ∧
          (∀ context ∈ baseline.contexts, ∃ rule ∈ evidence.activeRules,
            ∃ app ∈ observedApps evidence.providerObservations (.str context),
              (context, some app) ∈ (bindingsOf interpreter rule).required) ∧
          (∃ rule ∈ evidence.activeRules, Resolves rule) ∧
          (∀ context ∈ baseline.contexts,
            observationsFor evidence.providerObservations (.str context) ≠ [] ∧
              ∀ observation ∈ observationsFor evidence.providerObservations (.str context),
                (field observation "app_id").asInt.isSome = true ∧
                  Current baseline evidence observation) ∧
          ∀ ruleset ∈ evidence.rulesetDetails, RulesetPasses ruleset)) := by
  have bindings : requiredStatusBindings interpreter evidence.activeRules = .ok _ :=
    requiredStatusBindings_eq_ok.mpr ⟨readable.statusRules, rfl⟩
  have findings := (mapM_eq_ok rulesetFindings_eq_ok).mpr ⟨readable.rulesets, rfl⟩
  have resolution : conversationResolution baseline.baseline.desired evidence.activeRules = .ok _ :=
    conversationResolution_eq_ok.mpr ⟨readable.pullRequestRules, rfl⟩
  simp only [evaluateRulesetState, bindings, ok_bind, expectedContexts_full, findings, resolution,
    pure]
  refine ⟨_, rfl, fun head => ?_⟩
  simp only [baseline.pullRequest, baseline.provider, baseline.latestHead, baseline.forcePushes,
    baseline.deletions, baseline.adminBypass, Bool.not_true, Bool.false_or, List.all_cons,
    List.all_nil, Bool.and_true, Bool.and_eq_true, workflowIdentityOk_iff, providerBindingOk_iff,
    strict_iff, decide_eq_true_eq, ne_eq, not_true_eq_false, decide_false, List.isEmpty_iff,
    and_self_left]
  constructor
  · rintro ⟨-, pull, -, bound, ⟨complete, current⟩, strict, force, deletion, resolves,
      ⟨disclosed, actors⟩, active⟩
    have observed := (workflowEvidenceComplete_iff.mp complete).2
    refine ⟨?_, strict, bound, by simpa using resolves, fun context member =>
      ⟨(observed context member).1, fun observation seen => ⟨?_, current context member observation
        seen⟩⟩, rulesets_iff.mp ⟨disclosed, List.isEmpty_iff.mpr actors,
          List.isEmpty_iff.mpr active⟩⟩
    · simp_all
    · have whole := (observed context member).2 observation seen
      simp only [workflowObservationComplete, Bool.and_eq_true] at whole
      exact whole.1.1.1
  · rintro ⟨types, strict, bound, resolves, observed, rulesets⟩
    obtain ⟨disclosed, actors, active⟩ := rulesets_iff.mpr rulesets
    have complete : workflowEvidenceComplete baseline.baseline.desired
        (baseline.contexts.map .str) evidence = true :=
      workflowEvidenceComplete_iff.mpr ⟨head, fun context member => ⟨(observed context member).1,
        fun observation seen => ((observed context member).2 observation seen).2.complete
          ((observed context member).2 observation seen).1⟩⟩
    have provider : providerObservationsComplete (baseline.contexts.map .str)
        evidence.providerObservations = true := by
      rw [providerObservationsComplete, List.all_map, List.all_eq_true]
      exact fun context member => decide_eq_true (observed context member).1
    refine ⟨?_, ?_, required_of_bound bound, bound, ⟨complete, fun context member
      observation seen => ((observed context member).2 observation seen).2⟩, strict, ?_, ?_,
      by simpa using resolves, ⟨disclosed, List.isEmpty_iff.mp actors⟩, List.isEmpty_iff.mp active⟩
    · rw [if_neg (by simp [disclosed]), if_neg (by simp [provider]), if_neg (by simp [complete])]
      rfl
    · exact List.contains_iff_mem.mpr (types _ (by simp))
    · exact List.contains_iff_mem.mpr (types _ (by simp))
    · exact List.contains_iff_mem.mpr (types _ (by simp))

end Checks

section Verdicts

variable {interpreter : Interpreter} {now : String} {baseline : FullBaseline} {evidence : Evidence}

theorem readable_of_report {report : Report} (collected : evidence.error = none)
    (built : buildReport interpreter now baseline.baseline evidence = .ok report) :
    Readable evidence := by
  rw [buildReport, collected] at built
  obtain ⟨evaluation, evaluated, -⟩ := bind_eq_ok.mp built
  exact readable_of_evaluation evaluated

theorem verdict_verified_iff {reasons : List String} {ok current : Bool} :
    (if reasons ≠ [] then Verdict.unknown else if (ok && current) = true then .verified
      else .blocked) = .verified ↔ reasons = [] ∧ ok = true ∧ current = true := by
  by_cases none : reasons = []
  · cases ok <;> cases current <;> simp [none]
  · simp [none]

theorem exists_report (collected : evidence.error = none) (readable : Readable evidence) :
    ∃ report, buildReport interpreter now baseline.baseline evidence = .ok report ∧
      (report.verdict = .verified ↔ Passes interpreter baseline evidence) := by
  obtain ⟨evaluation, evaluated, clean⟩ :=
    exists_evaluation interpreter baseline readable
  rw [buildReport, collected]
  simp only [evaluated, ok_bind, pure]
  refine ⟨_, rfl, ?_⟩
  refine verdict_verified_iff.trans ?_
  simp only [List.append_eq_nil_iff, Bool.and_eq_true, decide_eq_true_eq, ite_eq_left_iff]
  constructor
  · rintro ⟨⟨noReasons, -⟩, ok, known, same⟩
    obtain ⟨sha, source⟩ := Option.ne_none_iff_exists'.mp known.1
    have nonempty : sha ≠ "" := fun empty => known.2 (by rw [source, empty])
    have head : evidence.branchHeadSha = some sha := same.symm.trans source
    obtain ⟨types, strict, bound, resolves, observed, rulesets⟩ :=
      (clean ⟨by simp [head], by simp [head, nonempty]⟩).mp ⟨noReasons, ok⟩
    exact ⟨types, strict, bound, resolves, observed, rulesets, sha, nonempty, source, head⟩
  · rintro ⟨types, strict, bound, resolves, observed, rulesets, sha, nonempty, source, head⟩
    obtain ⟨noReasons, ok⟩ := (clean ⟨by simp [head], by simp [head, nonempty]⟩).mpr
      ⟨types, strict, bound, resolves, observed, rulesets⟩
    have known : evidence.expectedSourceSha ≠ none ∧ evidence.expectedSourceSha ≠ some "" :=
      ⟨by simp [source], by simp [source, nonempty]⟩
    exact ⟨⟨noReasons, fun unknown => absurd known unknown⟩, ok, known, source.trans head.symm⟩

/-- Evidence against which nothing speaks shows every control where the two gaps are closed. -/
theorem established_iff (passes : Passes interpreter baseline evidence) :
    Established baseline evidence ↔ Detailed evidence ∧ JointlyBound baseline evidence := by
  constructor
  · intro established
    refine ⟨fun rule active => ?_, established.bound⟩
    obtain ⟨number, ruleset, member, own, same, enforced, actors⟩ :=
      established.rulesets rule active
    exact ⟨number, ruleset, member, own, same, by simp [enforced], [], actors, by simp⟩
  · rintro ⟨detailed, bound⟩
    refine ⟨fun rule active => ?_, bound, fun context member observation seen =>
      ((passes.observations context member).2 observation seen).2, ?_⟩
    · obtain ⟨number, ruleset, member, own, same, enforced, actors, listed, objects⟩ :=
        detailed rule active
      have passed := passes.rulesets ruleset member
      refine ⟨number, ruleset, member, own, same, ?_, ?_⟩
      · rcases passed.active with known | known | unnumbered
        · exact known
        · exact absurd known enforced
        · simp [same, Json.asInt] at unnumbered
      · have none := passed.bypassActors
        rw [listed, itemsValue, List.filterMap_eq_nil_iff] at none
        cases actors with
        | nil => exact listed
        | cons actor actors =>
          have object := objects actor List.mem_cons_self
          rw [none actor List.mem_cons_self] at object
          cases object
    · obtain ⟨sha, -, source, head⟩ := passes.source
      exact ⟨sha, source, head⟩

def repositoryBaseline : FullBaseline where
  document := [("schema", .str "vone.github-main-governance/v1"),
    ("repository", .str "eimyroot/Voodoo-One"), ("branch", .str "main"),
    ("desired", .obj [("pull_request_required", .bool true),
      ("required_status_checks", .arr [.str "verify"]),
      ("required_check_provider", .str "github-actions"), ("workflow", .str "ci"),
      ("workflow_path", .str ".github/workflows/ci.yml"),
      ("require_latest_head_checks", .bool true), ("allow_force_pushes", .bool false),
      ("allow_deletions", .bool false), ("require_conversation_resolution", .bool true),
      ("ordinary_admin_bypass", .bool false)])]
  baseline := ⟨.str "eimyroot/Voodoo-One", .str "main",
    [("pull_request_required", .bool true), ("required_status_checks", .arr [.str "verify"]),
      ("required_check_provider", .str "github-actions"), ("workflow", .str "ci"),
      ("workflow_path", .str ".github/workflows/ci.yml"),
      ("require_latest_head_checks", .bool true), ("allow_force_pushes", .bool false),
      ("allow_deletions", .bool false), ("require_conversation_resolution", .bool true),
      ("ordinary_admin_bypass", .bool false)]⟩
  loaded := rfl
  contexts := ["verify"]
  workflow := "ci"
  workflowPath := ".github/workflows/ci.yml"
  pullRequest := rfl
  statusChecks := rfl
  provider := rfl
  workflowNamed := ⟨rfl, by decide⟩
  pathNamed := ⟨rfl, by decide⟩
  latestHead := rfl
  forcePushes := rfl
  deletions := rfl
  conversation := rfl
  adminBypass := rfl

/-- Rules that require everything, with no details of their ruleset. -/
def undetailedEvidence : Evidence where
  activeRules := [
    [("type", .str "pull_request"), ("ruleset_id", .int 17),
      ("parameters", .obj [("required_review_thread_resolution", .bool true)])],
    [("type", .str "required_status_checks"), ("ruleset_id", .int 17),
      ("parameters", .obj [("strict_required_status_checks_policy", .bool true),
        ("required_status_checks", .arr [.obj [("context", .str "verify"),
          ("integration_id", .int 15368)]])])],
    [("type", .str "non_fast_forward"), ("ruleset_id", .int 17)],
    [("type", .str "deletion"), ("ruleset_id", .int 17)]]
  rulesetDetails := []
  providerObservations := [("verify", [[("app_id", .int 15368), ("workflow", .str "ci"),
    ("workflow_path", .str ".github/workflows/ci.yml"), ("head_sha", .str "a"),
    ("run_id", .int 42)]])]
  branchHeadSha := some "a"
  expectedSourceSha := some "a"
  sources := []
  error := none

/-- A verified report on rules whose ruleset nobody has looked at. -/
theorem undetailed_verified : ¬∀ (interpreter : Interpreter) (now : String)
    (baseline : FullBaseline) (evidence : Evidence), Sound interpreter now baseline evidence := by
  intro sound
  obtain ⟨report, built, shows⟩ := sound ⟨id, id, fun _ => ""⟩ "" repositoryBaseline
    undetailedEvidence
  have verified : (buildReport ⟨id, id, fun _ => ""⟩ "" repositoryBaseline.baseline
      undetailedEvidence).map Report.verdict = .ok .verified := by decide
  rw [built] at verified
  obtain ⟨number, ruleset, member, -⟩ := (shows (Except.ok.inj verified)).rulesets _
    List.mem_cons_self
  cases member

/-- The report is sound where the evidence could not be collected, and where it is readable and,
unless something else speaks against it, every rule has its own ruleset and each required context is
bound by one strict rule. -/
theorem report_sound_iff (interpreter : Interpreter) (now : String) (baseline : FullBaseline)
    (evidence : Evidence) : Sound interpreter now baseline evidence ↔
      evidence.error ≠ none ∨ Readable evidence ∧ (Passes interpreter baseline evidence →
          Detailed evidence ∧ JointlyBound baseline evidence) := by
  by_cases collected : evidence.error = none
  · rw [or_iff_right (not_not.mpr collected)]
    constructor
    · rintro ⟨report, built, shows⟩
      have readable := readable_of_report collected built
      obtain ⟨_, same, verified⟩ := exists_report collected readable
      obtain rfl := Except.ok.inj (built.symm.trans same)
      exact ⟨readable, fun passes => (established_iff passes).mp (shows (verified.mpr passes))⟩
    · rintro ⟨readable, closes⟩
      obtain ⟨report, built, verified⟩ := exists_report collected readable
      refine ⟨report, built, fun isVerified => ?_⟩
      have passes := verified.mp isVerified
      exact (established_iff passes).mpr (closes passes)
  · refine iff_of_true ?_ (.inl collected)
    obtain ⟨error, failed⟩ := Option.ne_none_iff_exists'.mp collected
    rw [Sound, buildReport, failed]
    exact ⟨_, rfl, fun verified => by cases verified⟩

end Verdicts

end VoodooOne.Governance
