import VoodooOne.Library.Transaction
import VoodooOne.ReadRuntime.PairTransport

/-!
# Independence of the read credentials

Each role reads with the token that its source held at the assembly, after both sources have shown
again what was pinned there.  The provider may answer anything at any time.
-/

namespace VoodooOne

open Dialogue

/-- `G8ReadRuntimePack`: the two sources, the credential classes of the policies and of the Verifier
profile, and the other checks of its constructor. -/
structure G8ReadRuntimePack where
  (runnerTransport verifierTransport : Nat)
  (runnerPolicyClass verifierPolicyClass verifierProfileClass : String)
  (types revisions : Except Raised Unit)

namespace G8ReadRuntimePack

variable (interpreter : Interpreter) (bindings : CredentialBindings) (pack : G8ReadRuntimePack)

def postInit : GitHub Unit := do
  pack.types
  raiseIf (pack.runnerTransport = pack.verifierTransport)
    (valueError "runner and verifier transports must be distinct instances")
  let shared ← bindings.sharesCredentialMaterial interpreter pack.runnerTransport
    pack.verifierTransport
  raiseIf (shared = true) (valueError "runner and verifier credential material must be distinct")
  let runner ← bindings.validatedBinding interpreter pack.runnerTransport
  let verifier ← bindings.validatedBinding interpreter pack.verifierTransport
  raiseIf (runner.attestedPrincipal = verifier.attestedPrincipal)
    (valueError "runner and verifier provider principals must be distinct")
  pack.revisions

end G8ReadRuntimePack

/-- `_G8AssemblyAnchors`: the sources and the pins. -/
structure G8AssemblyAnchors where
  (runnerSource verifierSource : Nat)
  (runnerPin verifierPin : CredentialPin)

def G8AssemblyAnchors.transport (anchors : G8AssemblyAnchors) (role : ReadRole) : PairTransport :=
  ⟨anchors.runnerSource, anchors.verifierSource, role, anchors.runnerPin, anchors.verifierPin⟩

/-- `str.title` of a role. -/
def ReadRole.title : ReadRole → String
  | runner => "Runner"
  | verifier => "Verifier"

/-- `_assert_g8_transport_matches_assembly`. -/
def PairTransport.assertMatchesAssembly (transport : PairTransport) (role : ReadRole)
    (anchors : G8AssemblyAnchors) : Except Raised Unit := do
  raiseIf (transport.role ≠ role)
    (permissionFailure ("G8 " ++ role.title ++ " handler credential role mismatch"))
  raiseIf (transport.runnerTransport ≠ anchors.runnerSource)
    (permissionFailure "G8 Runner credential source is not assembly-bound")
  raiseIf (transport.verifierTransport ≠ anchors.verifierSource)
    (permissionFailure "G8 Verifier credential source is not assembly-bound")
  raiseIf (transport.runnerPin ≠ anchors.runnerPin)
    (permissionFailure "G8 Runner credential pin is not assembly-bound")
  raiseIf (transport.verifierPin ≠ anchors.verifierPin)
    (permissionFailure "G8 Verifier credential pin is not assembly-bound")

theorem PairTransport.assertMatchesAssembly_eq_ok {transport : PairTransport} {role : ReadRole}
    {anchors : G8AssemblyAnchors} {result : Unit} :
    transport.assertMatchesAssembly role anchors = .ok result ↔
      transport = anchors.transport role := by
  obtain ⟨runnerTransport, verifierTransport, own, runnerPin, verifierPin⟩ := transport
  simp only [assertMatchesAssembly, G8AssemblyAnchors.transport, bind_eq_ok, raiseIf_eq_ok, not_not,
    PairTransport.mk.injEq]
  constructor
  · rintro ⟨_, rfl, _, rfl, _, rfl, _, rfl, rfl⟩
    exact ⟨rfl, rfl, rfl, rfl, rfl⟩
  · rintro ⟨rfl, rfl, rfl, rfl, rfl⟩
    exact ⟨(), rfl, (), rfl, (), rfl, (), rfl, rfl⟩

/-- What the runtime keeps: the anchors, the transports of its handlers, and the credential classes
of the Verifier profile and policy. -/
structure G8ReadRuntime where
  anchors : G8AssemblyAnchors
  (runnerTransport verifierTransport : PairTransport)
  (verifierProfileClass verifierPolicyClass : String)

/-- The checks of an assembly that read no credential source, at the places where they are made,
with the credential class of the capsule. -/
structure AssemblyChecks where
  (product canonical ceiling result : Except Raised Unit)
  capsuleClass : String

namespace G8ReadRuntimePack

variable (interpreter : Interpreter) (bindings : CredentialBindings) (pack : G8ReadRuntimePack)
  (checks : AssemblyChecks)

/-- The credential classes in `_validate_runtime_ceiling`. -/
def validateCredentialClasses : Except Raised Unit := do
  let runner ← bindings.bindingFor pack.runnerTransport
  raiseIf (runner.credentialClass ≠ pack.runnerPolicyClass)
    (permissionFailure "G8 Runner transport is not bound to Runner credential class")
  raiseIf (pack.verifierProfileClass ≠ pack.verifierPolicyClass)
    (permissionFailure "G8 Verifier profile/policy credential class mismatch")
  let verifier ← bindings.bindingFor pack.verifierTransport
  raiseIf (verifier.credentialClass ≠ pack.verifierPolicyClass)
    (permissionFailure "G8 Verifier transport is not bound to Verifier credential class")
  raiseIf (pack.verifierProfileClass = pack.runnerPolicyClass)
    (permissionFailure "G8 Runner and Verifier credential classes must be distinct")

/-- `build_runtime` of the first assembly: the transports of the two handlers. -/
def buildFirst : GitHub (PairTransport × PairTransport) := do
  checks.canonical
  raiseIf (checks.capsuleClass ≠ pack.runnerPolicyClass)
    (permissionFailure "G8 Runner credential class does not match execution capsule")
  pack.validateCredentialClasses bindings
  checks.ceiling
  let runnerPin ← bindings.pinSnapshot interpreter pack.runnerTransport
  let verifierPin ← bindings.pinSnapshot interpreter pack.verifierTransport
  raiseIf (runnerPin.credentialClass ≠ pack.runnerPolicyClass)
    (permissionFailure "G8 Runner runtime pin credential class mismatch")
  raiseIf (verifierPin.credentialClass ≠ pack.verifierPolicyClass)
    (permissionFailure "G8 Verifier runtime pin credential class mismatch")
  let runner ← bindings.validatedBinding interpreter pack.runnerTransport
  raiseIf (runner.attestationKind ≠ githubUserAttestation)
    (permissionFailure "G8 Runner credential must use GitHub user attestation")
  let verifier ← bindings.validatedBinding interpreter pack.verifierTransport
  raiseIf (verifier.attestationKind ≠ githubAppInstallationAttestation)
    (permissionFailure "G8 Verifier credential must use GitHub App installation attestation")
  let verifier ← bindings.validatedBinding interpreter pack.verifierTransport
  raiseIf (verifier.repositoryScope = none)
    (permissionFailure "G8 Verifier GitHub App repository scope is missing")
  raiseIf (runnerPin.tokenFingerprint = verifierPin.tokenFingerprint)
    (permissionFailure "G8 Runner and Verifier runtime pin material collapsed")
  raiseIf (runnerPin.attestedPrincipal = verifierPin.attestedPrincipal)
    (permissionFailure "G8 Runner and Verifier runtime pin principals collapsed")
  let transport (role : ReadRole) : PairTransport :=
    ⟨pack.runnerTransport, pack.verifierTransport, role, runnerPin, verifierPin⟩
  return (transport .runner, transport .verifier)

/-- `build_runtime`: the second assembly around the first. -/
def buildRuntime : GitHub G8ReadRuntime := do
  checks.product
  let runnerPin ← bindings.pinSnapshot interpreter pack.runnerTransport
  let verifierPin ← bindings.pinSnapshot interpreter pack.verifierTransport
  let anchors : G8AssemblyAnchors :=
    ⟨pack.runnerTransport, pack.verifierTransport, runnerPin, verifierPin⟩
  let (runnerTransport, verifierTransport) ← pack.buildFirst interpreter bindings checks
  PairTransport.assertParity runnerTransport verifierTransport
  runnerTransport.assertMatchesAssembly .runner anchors
  verifierTransport.assertMatchesAssembly .verifier anchors
  checks.result
  return ⟨anchors, runnerTransport, verifierTransport, pack.verifierProfileClass,
    pack.verifierPolicyClass⟩

end G8ReadRuntimePack

/-- What the Verifier handler is given, and what it does with the object id: it may raise before
and after its read. -/
structure VerifierRequest where
  (identityClass decisionClass : String)
  target : Except Raised (String × String)
  conclude : String → Except Raised Unit

/-- What the Runner handler is given, and what its observation leads to: the completion, and then
what the Verifier handler is given. -/
structure RunnerRequest where
  decisionClass : String
  target : Except Raised (String × String)
  complete : String → Except Raised VerifierRequest

namespace G8ReadRuntime

variable (interpreter : Interpreter) (bindings : CredentialBindings) (runtime : G8ReadRuntime)

/-- `observe_ref` of the Runner handler, up to the object id. -/
def observeRunner (reading : RunnerRequest) : GitHub String := do
  runtime.runnerTransport.assertMatchesAssembly .runner runtime.anchors
  raiseIf (reading.decisionClass ≠ runtime.anchors.runnerPin.credentialClass)
    (permissionFailure "G8 Runner handler credential decision mismatch")
  let (repository, ref) ← reading.target
  runtime.runnerTransport.readRef interpreter bindings repository ref

/-- `observe_ref` of the Verifier handler, up to the object id. -/
def observeVerifier (reading : VerifierRequest) : GitHub String := do
  runtime.verifierTransport.assertMatchesAssembly .verifier runtime.anchors
  raiseIf (reading.identityClass ≠ runtime.anchors.verifierPin.credentialClass)
    (permissionFailure "G8 Verifier handler identity credential class mismatch")
  raiseIf (reading.decisionClass ≠ runtime.anchors.verifierPin.credentialClass)
    (permissionFailure "G8 Verifier handler credential decision mismatch")
  let (repository, ref) ← reading.target
  runtime.verifierTransport.readRef interpreter bindings repository ref

/-- The checks of the terminal before it runs. -/
def assertTerminal : Except Raised Unit := do
  PairTransport.assertParity runtime.runnerTransport runtime.verifierTransport
  runtime.runnerTransport.assertMatchesAssembly .runner runtime.anchors
  runtime.verifierTransport.assertMatchesAssembly .verifier runtime.anchors
  raiseIf (runtime.verifierProfileClass ≠ runtime.anchors.verifierPin.credentialClass)
    (permissionFailure "G8 READ terminal Verifier profile credential mismatch")
  raiseIf (runtime.verifierPolicyClass ≠ runtime.anchors.verifierPin.credentialClass)
    (permissionFailure "G8 READ terminal Verifier policy credential mismatch")
  raiseIf (runtime.anchors.runnerPin.credentialClass = runtime.anchors.verifierPin.credentialClass)
    (permissionFailure "G8 READ terminal credential roles collapsed")

/-- `run` of the terminal, where `prepare` is what it does before the Runner reads. -/
def run (prepare : Except Raised RunnerRequest) : GitHub Unit := do
  runtime.assertTerminal
  let runnerReading ← prepare
  let runnerObject ← runtime.observeRunner interpreter bindings runnerReading
  let verifierReading ← runnerReading.complete runnerObject
  let verifierObject ← runtime.observeVerifier interpreter bindings verifierReading
  verifierReading.conclude verifierObject

end G8ReadRuntime

namespace CredentialBindings

variable {interpreter : Interpreter} {bindings next later : CredentialBindings} {source : Nat}
  {exchanges : List (GitHubRequest × GitHubAnswer)}

/-- A later registry holds the bindings of the earlier one. -/
def Keeps (bindings later : CredentialBindings) : Prop :=
  ∀ source binding, bindings.bindingFor source = .ok binding → later.bindingFor source = .ok binding

theorem Keeps.trans (first : bindings.Keeps next) (second : next.Keeps later) :
    bindings.Keeps later := fun source binding held =>
      second source binding (first source binding held)

variable {arguments : SourceArguments}

theorem construct_ok
    (leads : (bindings.construct interpreter source arguments).Leads exchanges (.ok next)) :
    Table.lookup (·.source) bindings source = none ∧
      ∃ binding, next = bindings ++ [⟨source, binding⟩] := by
  unfold construct at leads
  simp only [leads_lift_bind_ok, raiseIf_eq_ok, Option.not_isSome_iff_eq_none] at leads
  obtain ⟨_, fresh, token, _, credentialClass, _, kind, _, leads⟩ := leads
  obtain ⟨principal, _, _, _, _, leads⟩ := leads_bind_ok.mp leads
  rw [leads_pure] at leads
  exact ⟨fresh, _, Except.ok.inj leads.2⟩

theorem construct_keeps
    (leads : (bindings.construct interpreter source arguments).Leads exchanges (.ok next)) :
    bindings.Keeps next := by
  obtain ⟨fresh, binding, rfl⟩ := construct_ok leads
  intro other held isHeld
  simp only [bindingFor, orRaise_eq_ok, Option.map_eq_some_iff] at isHeld ⊢
  obtain ⟨entry, found, same⟩ := isHeld
  exact ⟨entry, by rw [Table.lookup_append, found, Option.some_or], same⟩

theorem construct_sends :
    (bindings.construct interpreter source arguments).Sends (·.isRead = false) := by
  refine .lift_bind fun _ => .lift_bind fun token => .lift_bind fun _ => .lift_bind fun _ => ?_
  refine Sends.bind ?_ fun _ => sends_done _
  unfold SourceArguments.principal
  split_ifs
  · exact .lift_bind fun _ => (sends_send (by rfl)).bind fun _ => sends_done _
  · split
    · exact .lift_bind fun _ => .lift_bind fun _ => .lift_bind fun _ => .lift_bind fun _ =>
        (sends_send (by rfl)).bind fun _ => sends_done _
    · exact sends_done _
  · exact sends_done _

end CredentialBindings

/-- A runtime that `build_runtime` returned for a pack that was constructed before. -/
structure AssembledRuntime (interpreter : Interpreter) where
  pack : G8ReadRuntimePack
  (earlier bindings : CredentialBindings)
  (packAnswers answers : Nat → GitHubAnswer)
  constructed : ((pack.postInit interpreter earlier).run packAnswers).2 = .ok ()
  checks : AssemblyChecks
  runtime : G8ReadRuntime
  assembled : ((pack.buildRuntime interpreter bindings checks).run answers).2 = .ok runtime

/-- The bindings of the two sources at the assembly, and what was pinned of them. -/
structure AssembledRuntime.Pins {interpreter : Interpreter}
    (assembled : AssembledRuntime interpreter) (runner verifier : CredentialBinding) : Prop where
  runnerHeld : assembled.bindings.bindingFor assembled.pack.runnerTransport = .ok runner
  verifierHeld : assembled.bindings.bindingFor assembled.pack.verifierTransport = .ok verifier
  installation : verifier.attestationKind = githubAppInstallationAttestation
  anchored : assembled.runtime.anchors = ⟨assembled.pack.runnerTransport,
    assembled.pack.verifierTransport, runner.pin, verifier.pin⟩

namespace G8ReadRuntimePack

variable {interpreter : Interpreter} {bindings : CredentialBindings} {pack : G8ReadRuntimePack}
  {checks : AssemblyChecks} {exchanges : List (GitHubRequest × GitHubAnswer)}

theorem buildFirst_ok {transports : PairTransport × PairTransport}
    (leads : (pack.buildFirst interpreter bindings checks).Leads exchanges (.ok transports)) :
    ∃ verifier, bindings.bindingFor pack.verifierTransport = .ok verifier ∧
      verifier.attestationKind = githubAppInstallationAttestation := by
  simp only [buildFirst, leads_lift_bind_ok] at leads
  obtain ⟨_, _, _, _, _, _, _, _, leads⟩ := leads
  obtain ⟨runnerPin, _, _, _, _, leads⟩ := leads_bind_ok.mp leads
  obtain ⟨verifierPin, _, _, _, _, leads⟩ := leads_bind_ok.mp leads
  simp only [leads_lift_bind_ok] at leads
  obtain ⟨_, _, _, _, leads⟩ := leads
  obtain ⟨runner, _, _, _, _, leads⟩ := leads_bind_ok.mp leads
  simp only [leads_lift_bind_ok] at leads
  obtain ⟨_, _, leads⟩ := leads
  obtain ⟨verifier, _, _, _, seen, leads⟩ := leads_bind_ok.mp leads
  simp only [leads_lift_bind_ok, raiseIf_eq_ok, not_not] at leads
  obtain ⟨_, installation, -⟩ := leads
  obtain ⟨_, -, validates⟩ := CredentialBindings.validatedBinding_ok seen
  exact ⟨verifier, validates.held, installation⟩

/-- The assembly pins what its two sources hold, and its handlers have its own pins. -/
theorem buildRuntime_ok {runtime : G8ReadRuntime}
    (leads : (pack.buildRuntime interpreter bindings checks).Leads exchanges (.ok runtime)) :
    ∃ runner verifier, bindings.bindingFor pack.runnerTransport = .ok runner ∧
      bindings.bindingFor pack.verifierTransport = .ok verifier ∧
      verifier.attestationKind = githubAppInstallationAttestation ∧
      runtime.anchors =
        ⟨pack.runnerTransport, pack.verifierTransport, runner.pin, verifier.pin⟩ := by
  simp only [buildRuntime, leads_lift_bind_ok] at leads
  obtain ⟨_, _, leads⟩ := leads
  obtain ⟨runnerPin, _, _, _, runnerSeen, leads⟩ := leads_bind_ok.mp leads
  obtain ⟨verifierPin, _, _, _, verifierSeen, leads⟩ := leads_bind_ok.mp leads
  obtain ⟨transports, _, _, _, first, leads⟩ := leads_bind_ok.mp leads
  simp only [leads_lift_bind_ok, leads_pure] at leads
  obtain ⟨_, _, _, _, _, _, _, _, _, same⟩ := leads
  obtain ⟨runner, _, _, runnerValid, rfl⟩ := CredentialBindings.pinSnapshot_ok runnerSeen
  obtain ⟨verifier, _, _, verifierValid, rfl⟩ := CredentialBindings.pinSnapshot_ok verifierSeen
  obtain ⟨other, held, installation⟩ := buildFirst_ok first
  rw [verifierValid.held, Except.ok.injEq] at held
  subst held
  cases same
  exact ⟨runner, verifier, runnerValid.held, verifierValid.held, installation, rfl⟩

end G8ReadRuntimePack

variable {interpreter : Interpreter}

theorem AssembledRuntime.pins (assembled : AssembledRuntime interpreter) :
    ∃ runner verifier, assembled.Pins runner verifier := by
  have leads := run_leads (assembled.pack.buildRuntime interpreter assembled.bindings
    assembled.checks) assembled.answers
  rw [assembled.assembled] at leads
  obtain ⟨runner, verifier, runnerHeld, verifierHeld, installation, anchored⟩ :=
    G8ReadRuntimePack.buildRuntime_ok leads
  exact ⟨runner, verifier, runnerHeld, verifierHeld, installation, anchored⟩

/-- What one read call of a role sends: no read; or the Runner source is observed, the Verifier
source, the own source once more, and then the reference is read with the token that the own
source held at the assembly. -/
inductive IndependentCall (interpreter : Interpreter) (runner verifier : CredentialBinding)
    (role : ReadRole) : List (GitHubRequest × GitHubAnswer) → Prop where
  | unread (exchanges : List (GitHubRequest × GitHubAnswer))
      (observations : ∀ exchange ∈ exchanges, exchange.1.isRead = false) :
      IndependentCall interpreter runner verifier role exchanges
  | read (own : CredentialBinding) (repository ref : String)
      (runnerSees verifierSees ownSees answer : GitHubAnswer)
      (held : own = match role with | .runner => runner | .verifier => verifier)
      (runnerMaterial : interpreter.sha256 runner.token = runner.tokenFingerprint)
      (verifierMaterial : interpreter.sha256 verifier.token = verifier.tokenFingerprint)
      (runnerAttested : runner.Attests interpreter runnerSees)
      (verifierAttested : verifier.Attests interpreter verifierSees)
      (ownAttested : own.Attests interpreter ownSees)
      (apart : runner.pin.Apart verifier.pin)
      (disclosed : role = .verifier → ∃ found, disclosedRepository ownSees = .ok found ∧
        found.get "full_name" = .str repository) :
      IndependentCall interpreter runner verifier role
        [(runner.observation, runnerSees), (verifier.observation, verifierSees),
          (own.observation, ownSees), (.gitRef own.token repository ref, answer)]

theorem CredentialBinding.Attests.discloses {binding : CredentialBinding} {answer : GitHubAnswer}
    {repository : String} (attests : binding.Attests interpreter answer)
    (installation : binding.attestationKind = githubAppInstallationAttestation)
    (inScope : binding.repositoryScope = some repository) :
    ∃ found, disclosedRepository answer = .ok found ∧ found.get "full_name" = .str repository := by
  have app : binding.attestationKind ≠ githubUserAttestation := by
    rw [installation]
    decide
  rw [Attests, if_neg app] at attests
  obtain ⟨_, _, isScope, shown⟩ := attests
  rw [inScope, Option.some.injEq] at isScope
  subst isScope
  simp only [installationPrincipal, bind_eq_ok, raiseIf_eq_ok, not_not] at shown
  obtain ⟨found, discloses, _, named, -⟩ := shown
  exact ⟨found, discloses, named⟩

namespace AssembledRuntime

variable {interpreter : Interpreter} {assembled : AssembledRuntime interpreter}
  {runner verifier : CredentialBinding} {bindings : CredentialBindings}
  {exchanges : List (GitHubRequest × GitHubAnswer)}

theorem Pins.call (pins : assembled.Pins runner verifier) (kept : assembled.bindings.Keeps bindings)
    {role : ReadRole} {repository ref : String}
    (reads : ReadsIndependently interpreter bindings (assembled.runtime.anchors.transport role)
      repository ref exchanges) : IndependentCall interpreter runner verifier role exchanges := by
  cases reads with
  | unread _ observations => exact .unread _ observations
  | read runnerNow verifierNow own runnerSees verifierSees ownSees answer runnerValid verifierValid
      ownValid runnerPinned verifierPinned ownPinned apart inScope =>
    have runnerHeld := runnerValid.held
    have verifierHeld := verifierValid.held
    have ownHeld := ownValid.held
    simp only [G8AssemblyAnchors.transport, pins.anchored] at runnerHeld verifierHeld
    rw [kept _ _ pins.runnerHeld, Except.ok.injEq] at runnerHeld
    rw [kept _ _ pins.verifierHeld, Except.ok.injEq] at verifierHeld
    subst runnerHeld verifierHeld
    rw [G8AssemblyAnchors.transport, pins.anchored] at apart
    cases role with
    | runner =>
        simp only [G8AssemblyAnchors.transport, PairTransport.source, pins.anchored] at ownHeld
        rw [kept _ _ pins.runnerHeld, Except.ok.injEq] at ownHeld
        subst ownHeld
        exact .read runner repository ref runnerSees verifierSees ownSees answer rfl
          runnerValid.material verifierValid.material runnerValid.attests verifierValid.attests
          ownValid.attests apart
          fun verifying => absurd verifying (by decide)
    | verifier =>
        simp only [G8AssemblyAnchors.transport, PairTransport.source, pins.anchored] at ownHeld
        rw [kept _ _ pins.verifierHeld, Except.ok.injEq] at ownHeld
        subst ownHeld
        exact .read verifier repository ref runnerSees verifierSees ownSees answer rfl
          runnerValid.material verifierValid.material runnerValid.attests verifierValid.attests
          ownValid.attests apart fun _ =>
            ownValid.attests.discloses pins.installation (inScope pins.installation)

theorem Pins.observeRunner (pins : assembled.Pins runner verifier)
    (kept : assembled.bindings.Keeps bindings) {reading : RunnerRequest}
    {ended : Except Raised String}
    (leads : (assembled.runtime.observeRunner interpreter bindings reading).Leads exchanges ended) :
    IndependentCall interpreter runner verifier .runner exchanges := by
  simp only [G8ReadRuntime.observeRunner, leads_lift_bind] at leads
  rcases leads with ⟨_, _, rfl, _⟩ | ⟨_, matched, ⟨_, _, rfl, _⟩ | ⟨_, _, ⟨_, _, rfl, _⟩ |
    ⟨target, _, leads⟩⟩⟩
  · exact .unread _ (List.forall_mem_nil _)
  · exact .unread _ (List.forall_mem_nil _)
  · exact .unread _ (List.forall_mem_nil _)
  · rw [PairTransport.assertMatchesAssembly_eq_ok.mp matched] at leads
    exact pins.call kept (PairTransport.readRef_leads leads)

theorem Pins.observeVerifier (pins : assembled.Pins runner verifier)
    (kept : assembled.bindings.Keeps bindings) {reading : VerifierRequest}
    {ended : Except Raised String}
    (leads : (assembled.runtime.observeVerifier interpreter bindings reading).Leads exchanges
      ended) :
    IndependentCall interpreter runner verifier .verifier exchanges := by
  simp only [G8ReadRuntime.observeVerifier, leads_lift_bind] at leads
  rcases leads with ⟨_, _, rfl, _⟩ | ⟨_, matched, ⟨_, _, rfl, _⟩ | ⟨_, _, ⟨_, _, rfl, _⟩ |
    ⟨_, _, ⟨_, _, rfl, _⟩ | ⟨target, _, leads⟩⟩⟩⟩
  · exact .unread _ (List.forall_mem_nil _)
  · exact .unread _ (List.forall_mem_nil _)
  · exact .unread _ (List.forall_mem_nil _)
  · exact .unread _ (List.forall_mem_nil _)
  · rw [PairTransport.assertMatchesAssembly_eq_ok.mp matched] at leads
    exact pins.call kept (PairTransport.readRef_leads leads)

end AssembledRuntime

/-- What an execution sends: one call of the Runner, and then one of the Verifier. -/
def IndependentExecution (interpreter : Interpreter) (runner verifier : CredentialBinding)
    (exchanges : List (GitHubRequest × GitHubAnswer)) : Prop :=
  ∃ runnerCall verifierCall, exchanges = runnerCall ++ verifierCall ∧
    IndependentCall interpreter runner verifier .runner runnerCall ∧
    IndependentCall interpreter runner verifier .verifier verifierCall

theorem AssembledRuntime.Pins.run {assembled : AssembledRuntime interpreter}
    {runner verifier : CredentialBinding} {bindings : CredentialBindings}
    {exchanges : List (GitHubRequest × GitHubAnswer)} (pins : assembled.Pins runner verifier)
    (kept : assembled.bindings.Keeps bindings) {prepare : Except Raised RunnerRequest}
    {ended : Except Raised Unit}
    (leads : (assembled.runtime.run interpreter bindings prepare).Leads exchanges ended) :
    IndependentExecution interpreter runner verifier exchanges := by
  have silent {role : ReadRole} : IndependentCall interpreter runner verifier role [] :=
    .unread _ (List.forall_mem_nil _)
  simp only [G8ReadRuntime.run, leads_lift_bind] at leads
  rcases leads with ⟨_, _, rfl, _⟩ | ⟨_, _, ⟨_, _, rfl, _⟩ | ⟨reading, _, leads⟩⟩
  · exact ⟨[], [], rfl, silent, silent⟩
  · exact ⟨[], [], rfl, silent, silent⟩
  rcases leads_bind.mp leads with ⟨_, raised, _⟩ | ⟨observed, runnerCall, rest, rfl, runs, later⟩
  · exact ⟨exchanges, [], (List.append_nil _).symm, pins.observeRunner kept raised, silent⟩
  have runnerIndependent := pins.observeRunner kept runs
  rcases leads_lift_bind.mp later with ⟨_, _, rfl, _⟩ | ⟨verifierReading, _, later⟩
  · exact ⟨runnerCall, [], rfl, runnerIndependent, silent⟩
  rcases leads_bind.mp later with ⟨_, raised, _⟩ | ⟨_, verifierCall, last, rfl, verifies, concludes⟩
  · exact ⟨runnerCall, rest, rfl, runnerIndependent, pins.observeVerifier kept raised⟩
  · rw [(leads_lift.mp concludes).1, List.append_nil]
    exact ⟨runnerCall, verifierCall, rfl, runnerIndependent, pins.observeVerifier kept verifies⟩

/-- What happens after an assembly: the constructor of a source is called, or the runtime executes
a read, with the answers that the provider gives meanwhile. -/
inductive ReadEvent where
  | construct (source : Nat) (arguments : CredentialBindings.SourceArguments)
      (answers : Nat → GitHubAnswer)
  | execute (prepare : Except Raised RunnerRequest) (answers : Nat → GitHubAnswer)

namespace ReadEvent

variable (interpreter : Interpreter)

def step (bindings : CredentialBindings) : ReadEvent → CredentialBindings
  | construct source arguments answers =>
      match ((bindings.construct interpreter source arguments).run answers).2 with
      | .ok next => next
      | .error _ => bindings
  | execute _ _ => bindings

/-- What an event sends is independent; a constructor reads no reference. -/
def Independent (runtime : G8ReadRuntime) (runner verifier : CredentialBinding)
    (bindings : CredentialBindings) : ReadEvent → Prop
  | construct source arguments answers =>
      ∀ exchange ∈ ((bindings.construct interpreter source arguments).run answers).1,
        exchange.1.isRead = false
  | execute prepare answers => IndependentExecution interpreter runner verifier
      ((runtime.run interpreter bindings prepare).run answers).1

variable {interpreter}

theorem step_keeps (bindings : CredentialBindings) (event : ReadEvent) :
    bindings.Keeps (step interpreter bindings event) := by
  cases event with
  | execute prepare answers => exact fun _ _ held => held
  | construct source arguments answers =>
      have leads := run_leads (bindings.construct interpreter source arguments) answers
      simp only [step]
      cases returned : ((bindings.construct interpreter source arguments).run answers).2 with
      | error error => exact fun _ _ held => held
      | ok next =>
          rw [returned] at leads
          exact CredentialBindings.construct_keeps leads

theorem independent {assembled : AssembledRuntime interpreter} {runner verifier : CredentialBinding}
    {bindings : CredentialBindings} (pins : assembled.Pins runner verifier)
    (kept : assembled.bindings.Keeps bindings) (event : ReadEvent) :
    event.Independent interpreter assembled.runtime runner verifier bindings := by
  cases event with
  | construct source arguments answers =>
      exact CredentialBindings.construct_sends _ _ (run_leads _ answers)
  | execute prepare answers => exact pins.run kept (run_leads _ answers)

end ReadEvent

/-- Over every run of executions after an assembly, whatever the provider answers, and whatever
sources are constructed in between, each read of a role carries the token that its source held at
the assembly, directly after both sources have shown again what was pinned there. -/
theorem reads_independent {interpreter : Interpreter} (assembled : AssembledRuntime interpreter) :
    ∃ runner verifier, assembled.Pins runner verifier ∧ ∀ events : List ReadEvent,
      Transaction.Along (ReadEvent.step interpreter)
        (fun bindings event =>
          event.Independent interpreter assembled.runtime runner verifier bindings)
        assembled.bindings events := by
  obtain ⟨runner, verifier, pins⟩ := assembled.pins
  exact ⟨runner, verifier, pins, fun events => Transaction.along_of_invariant
    (fun _ event kept => event.independent pins kept)
    (fun bindings event kept => kept.trans (ReadEvent.step_keeps bindings event))
    (fun _ _ held => held) events⟩

/-- A response that shows a user and an installation with one repository. -/
def sampleResponse : GitHubAnswer :=
  .response 200 (.json (.obj [("id", .int 1), ("type", .str "User"), ("total_count", .int 1),
    ("repositories", .arr [.obj [("full_name", .str "owner/repository")]])]))

/-- A Runner source with a user token, and a Verifier source with an installation token. -/
def sampleSources : CredentialBindings :=
  [⟨0, ⟨"user token", "user token", "runner", "github-principal/User/1", githubUserAttestation,
      none, none⟩⟩,
    ⟨1, ⟨"ghs_token", "ghs_token", "verifier", "github-principal/app-installation/7",
      githubAppInstallationAttestation, some (.int 7), some "owner/repository"⟩⟩]

-- an assembly that returns, so that the theorem is about some runtime
example : AssembledRuntime ⟨id, id, fun _ => "[]"⟩ where
  pack := ⟨0, 1, "runner", "verifier", "verifier", .ok (), .ok ()⟩
  earlier := sampleSources
  bindings := sampleSources
  packAnswers _ := sampleResponse
  answers _ := sampleResponse
  constructed := rfl
  checks := ⟨.ok (), .ok (), .ok (), .ok (), "runner"⟩
  runtime :=
    let anchors : G8AssemblyAnchors :=
      ⟨0, 1, ⟨"user token", "runner", "github-principal/User/1"⟩,
        ⟨"ghs_token", "verifier", "github-principal/app-installation/7"⟩⟩
    ⟨anchors, anchors.transport .runner, anchors.transport .verifier, "verifier", "verifier"⟩
  assembled := rfl

end VoodooOne
