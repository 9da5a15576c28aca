import VoodooOne.Foundation.Interpreter
import VoodooOne.Library.Dialogue
import VoodooOne.Library.Table

/-!
# The credential pair

The pair transport of a role observes both sources again before it lets the source of its role read.
-/

namespace VoodooOne

open Dialogue

/-- A request to the provider, with the token that it carries. -/
inductive GitHubRequest where
  | user (token : String)
  | installationRepositories (token : String)
  | gitRef (token repository ref : String)
deriving DecidableEq

def GitHubRequest.isRead : GitHubRequest → Bool
  | gitRef _ _ _ => true
  | _ => false

/-- The body of a response: no text, no JSON, or a JSON value. -/
inductive ResponseBody where
  | undecodable
  | malformed
  | json (value : Json)
deriving DecidableEq

/-- What becomes of a request: a failed connection, or a response. -/
inductive GitHubAnswer where
  | failed
  | response (status : Int) (body : ResponseBody)
deriving DecidableEq

/-- A computation that asks the provider. -/
abbrev GitHub := Dialogue GitHubRequest GitHubAnswer Raised

/-- A `RuntimeError`. -/
def runtimeFailure (message : String) : Raised := ⟨.runtimeError, message⟩

/-- A `PermissionError`. -/
def permissionFailure (message : String) : Raised := ⟨.permissionError, message⟩

def observedObject (subject : String) : GitHubAnswer → Except Raised Json
  | .failed => .error (runtimeFailure (subject ++ " observation failed"))
  | .response status body => do
      raiseIf (status ≠ 200)
        (runtimeFailure (subject ++ " observation failed with HTTP " ++ toString status))
      match body with
      | .json value => do
          raiseIf (value.keys = none) (runtimeFailure (subject ++ " response is invalid"))
          return value
      | _ => .error (runtimeFailure (subject ++ " response is invalid"))

def positiveInteger (error : Raised) : Json → Except Raised Int
  | .int value => if value < 1 then .error error else .ok value
  | _ => .error error

/-- The principal in the response to `GET /user`. -/
def userPrincipal (interpreter : Interpreter) (answer : GitHubAnswer) : Except Raised String := do
  let payload ← observedObject "G8 GitHub credential principal" answer
  let principalId ← positiveInteger
    (runtimeFailure "G8 GitHub credential principal id is invalid") (payload.get "id")
  let principalType ← orRaise (runtimeFailure "G8 GitHub credential principal type is invalid")
    (payload.get "type").text?
  raiseIf (principalType = "" ∨ principalType ≠ strip principalType)
    (runtimeFailure "G8 GitHub credential principal type is invalid")
  return "github-principal/" ++ interpreter.casefold principalType ++ "/" ++ toString principalId

def observeGithubCredentialPrincipal (interpreter : Interpreter) (token : String) :
    GitHub String := do
  let answer ← send (.user token)
  userPrincipal interpreter answer

/-- The one repository that a response to `GET /installation/repositories` discloses. -/
def disclosedRepository (answer : GitHubAnswer) : Except Raised Json := do
  let payload ← observedObject "G8 Verifier GitHub App installation" answer
  match payload.get "repositories" with
  | .arr [repository] => do
      raiseIf ((payload.get "total_count").equalsInt 1 = false) (permissionFailure
        "G8 Verifier GitHub App credential must be scoped to exactly one repository")
      return repository
  | _ => .error (permissionFailure
      "G8 Verifier GitHub App credential must be scoped to exactly one repository")

/-- The principal in the response to `GET /installation/repositories`. -/
def installationPrincipal (installationId : Int) (repositoryScope : String)
    (answer : GitHubAnswer) : Except Raised String := do
  let repository ← disclosedRepository answer
  raiseIf (repository.get "full_name" ≠ .str repositoryScope)
    (permissionFailure "G8 Verifier GitHub App repository scope mismatch")
  return "github-principal/app-installation/" ++ toString installationId

def observeGithubAppInstallationPrincipal (token : String) (installationId : Json)
    (repositoryScope : String) : GitHub String := do
  raiseIf (¬"ghs_".toList <+: token.toList)
    (runtimeFailure "G8 Verifier credential is not a GitHub App installation token")
  let installationId ← positiveInteger
    (runtimeFailure "G8 Verifier GitHub App installation id is invalid") installationId
  let repositoryScope ← requireText (.str repositoryScope) "repository_scope"
  raiseIf (¬(repositoryScope.toList.count '/' = 1 ∧
      ∀ part ∈ repositoryScope.toList.splitOn '/', part ≠ []))
    (runtimeFailure "G8 Verifier GitHub App repository scope is invalid")
  let answer ← send (.installationRepositories token)
  installationPrincipal installationId repositoryScope answer

/-- `G8_GITHUB_USER_ATTESTATION`. -/
def githubUserAttestation : String := "github-user/v1"

/-- `G8_GITHUB_APP_INSTALLATION_ATTESTATION`. -/
def githubAppInstallationAttestation : String := "github-app-installation/v1"

structure CredentialBinding where
  (token tokenFingerprint credentialClass attestedPrincipal attestationKind : String)
  installationId : Option Json
  repositoryScope : Option String

structure CredentialPin where
  (tokenFingerprint credentialClass attestedPrincipal : String)
deriving DecidableEq

def CredentialBinding.pin (binding : CredentialBinding) : CredentialPin :=
  ⟨binding.tokenFingerprint, binding.credentialClass, binding.attestedPrincipal⟩

/-- The principal that the provider sees now. -/
def CredentialBinding.currentPrincipal (interpreter : Interpreter) (binding : CredentialBinding) :
    GitHub String :=
  if binding.attestationKind = githubUserAttestation then
    observeGithubCredentialPrincipal interpreter binding.token
  else if binding.attestationKind = githubAppInstallationAttestation then
    match binding.installationId, binding.repositoryScope with
    | some installationId, some repositoryScope =>
        observeGithubAppInstallationPrincipal binding.token installationId repositoryScope
    | _, _ => done (.error
        (permissionFailure "G8 Verifier GitHub App attestation binding is incomplete"))
  else done (.error (permissionFailure "G8 credential attestation kind is invalid"))

/-- The bindings of the sources that were initialized. -/
structure SourceEntry where
  source : Nat
  binding : CredentialBinding

/-- The registry in the closure of the transport type. -/
abbrev CredentialBindings := List SourceEntry

namespace CredentialBindings

variable (interpreter : Interpreter) (bindings : CredentialBindings)

def bindingFor (source : Nat) : Except Raised CredentialBinding :=
  orRaise (runtimeFailure "G8 credential binding is unavailable")
    ((Table.lookup (·.source) bindings source).map (·.binding))

def validatedBinding (source : Nat) : GitHub CredentialBinding := do
  let binding ← bindings.bindingFor source
  raiseIf (interpreter.sha256 binding.token ≠ binding.tokenFingerprint)
    (permissionFailure "G8 credential material changed after attestation")
  let currentPrincipal ← binding.currentPrincipal interpreter
  raiseIf (currentPrincipal ≠ binding.attestedPrincipal)
    (permissionFailure "G8 credential principal changed after attestation")
  return binding

def pinSnapshot (source : Nat) : GitHub CredentialPin := do
  let binding ← bindings.validatedBinding interpreter source
  return binding.pin

/-- `secrets.compare_digest` of two texts, which must be ASCII. -/
def compareDigest (left right : String) : Except Raised Bool := do
  raiseIf ((left.toList ++ right.toList).all (·.toNat < 128) = false) ⟨.typeError,
    "comparing strings with non-ASCII characters is not supported"⟩
  return left = right

def sharesCredentialMaterial (source other : Nat) : GitHub Bool := do
  let own ← bindings.validatedBinding interpreter source
  let others ← bindings.validatedBinding interpreter other
  compareDigest own.token others.token

structure SourceArguments where
  (token credentialClass attestationKind : String)
  installationId : Option Json
  repositoryScope : Option String

def SourceArguments.principal (arguments : SourceArguments) : GitHub String :=
  if arguments.attestationKind = githubUserAttestation then do
    raiseIf (arguments.installationId.isSome ∨ arguments.repositoryScope.isSome)
      (valueError "G8 user credential cannot carry App installation binding")
    observeGithubCredentialPrincipal interpreter arguments.token
  else if arguments.attestationKind = githubAppInstallationAttestation then
    match arguments.installationId, arguments.repositoryScope with
    | some installationId, some repositoryScope =>
        observeGithubAppInstallationPrincipal arguments.token installationId repositoryScope
    | _, _ => done (.error (valueError "G8 App installation credential binding is incomplete"))
  else done (.error (valueError "G8 credential attestation kind is invalid"))

/-- The constructor of a source.  A source that is initialized already stays as it is, and one
whose constructor raises is not entered. -/
def construct (source : Nat) (arguments : SourceArguments) : GitHub CredentialBindings := do
  raiseIf ((Table.lookup (·.source) bindings source).isSome)
    (runtimeFailure "G8 credential source is already initialized")
  let token ← requireText (.str arguments.token) "token"
  let credentialClass ← requireText (.str arguments.credentialClass) "credential_class"
  let attestationKind ← requireText (.str arguments.attestationKind) "attestation_kind"
  let principal ← arguments.principal interpreter
  let binding : CredentialBinding :=
    { token
      tokenFingerprint := interpreter.sha256 token
      credentialClass
      attestedPrincipal := principal
      attestationKind
      installationId := arguments.installationId
      repositoryScope := arguments.repositoryScope }
  return bindings ++ [⟨source, binding⟩]

def objectId : GitHubAnswer → Except Raised String
  | .failed => .error (runtimeFailure "GitHub READ transport failed")
  | .response status body => do
      raiseIf (status ≠ 200) (runtimeFailure ("GitHub READ failed with HTTP " ++ toString status))
      match body with
      | .undecodable => .error (valueError "response is not UTF-8")
      | .malformed => .error (runtimeFailure "GitHub READ transport failed")
      | .json value => do
          raiseIf (value.keys = none) (runtimeFailure "GitHub READ response is invalid")
          raiseIf ((value.get "object").keys = none)
            (runtimeFailure "GitHub READ response object is invalid")
          orRaise (runtimeFailure "GitHub READ response is missing object sha")
            ((value.get "object").get "sha").text?

/-- `GitHubApiRefReadTransport.read_ref`, on a transport with the token. -/
def providerRead (token repository ref : String) : GitHub String := do
  let repository ← requireText (.str repository) "repository"
  let ref ← requireText (.str ref) "ref"
  raiseIf (¬"refs/".toList <+: ref.toList) (valueError "ref must be fully qualified")
  let answer ← send (.gitRef token repository ref)
  objectId answer

def readRefWithPin (source : Nat) (pin : CredentialPin) (repository ref : String) :
    GitHub String := do
  let binding ← bindings.validatedBinding interpreter source
  raiseIf (binding.pin ≠ pin)
    (permissionFailure "G8 credential binding changed after runtime pinning")
  raiseIf (binding.attestationKind = githubAppInstallationAttestation ∧
      binding.repositoryScope ≠ some repository)
    (permissionFailure "G8 Verifier GitHub App repository target is outside credential scope")
  providerRead binding.token repository ref

end CredentialBindings

inductive ReadRole where
  | runner
  | verifier
deriving DecidableEq

/-- `_G8IndependentCredentialPairTransport`, apart from the pins of implementations. -/
structure PairTransport where
  (runnerTransport verifierTransport : Nat)
  role : ReadRole
  (runnerPin verifierPin : CredentialPin)
deriving DecidableEq

namespace PairTransport

def source (transport : PairTransport) : Nat :=
  match transport.role with
  | .runner => transport.runnerTransport
  | .verifier => transport.verifierTransport

def pin (transport : PairTransport) : CredentialPin :=
  match transport.role with
  | .runner => transport.runnerPin
  | .verifier => transport.verifierPin

/-- The three comparisons between the pins of the roles. -/
def requireApart (runner verifier : CredentialPin) : Except Raised Unit := do
  raiseIf (runner.tokenFingerprint = verifier.tokenFingerprint)
    (permissionFailure "G8 Runner and Verifier credential material collapsed")
  raiseIf (runner.attestedPrincipal = verifier.attestedPrincipal)
    (permissionFailure "G8 Runner and Verifier provider principals collapsed")
  raiseIf (runner.credentialClass = verifier.credentialClass)
    (permissionFailure "G8 Runner and Verifier credential classes collapsed")

def readRef (interpreter : Interpreter) (bindings : CredentialBindings)
    (transport : PairTransport) (repository ref : String) : GitHub String := do
  let runnerNow ← bindings.pinSnapshot interpreter transport.runnerTransport
  let verifierNow ← bindings.pinSnapshot interpreter transport.verifierTransport
  raiseIf (runnerNow ≠ transport.runnerPin)
    (permissionFailure "G8 Runner credential changed after runtime pinning")
  raiseIf (verifierNow ≠ transport.verifierPin)
    (permissionFailure "G8 Verifier credential changed after runtime pinning")
  requireApart runnerNow verifierNow
  bindings.readRefWithPin interpreter transport.source transport.pin repository ref

/-- `_assert_pair_transport_parity`. -/
def assertParity (runner verifier : PairTransport) : Except Raised Unit := do
  raiseIf (runner.role ≠ .runner)
    (permissionFailure "G8 Runner handler credential role mismatch")
  raiseIf (verifier.role ≠ .verifier)
    (permissionFailure "G8 Verifier handler credential role mismatch")
  raiseIf (runner.runnerTransport ≠ verifier.runnerTransport)
    (permissionFailure "G8 credential-pair Runner source mismatch")
  raiseIf (runner.verifierTransport ≠ verifier.verifierTransport)
    (permissionFailure "G8 credential-pair Verifier source mismatch")
  raiseIf (runner.runnerPin ≠ verifier.runnerPin)
    (permissionFailure "G8 credential-pair Runner pin mismatch")
  raiseIf (runner.verifierPin ≠ verifier.verifierPin)
    (permissionFailure "G8 credential-pair Verifier pin mismatch")

end PairTransport

namespace CredentialBinding

variable (interpreter : Interpreter) (binding : CredentialBinding)

def observation : GitHubRequest :=
  if binding.attestationKind = githubUserAttestation then .user binding.token
  else .installationRepositories binding.token

/-- The answer shows the principal of the binding, and for an installation its one repository. -/
def Attests (answer : GitHubAnswer) : Prop :=
  if binding.attestationKind = githubUserAttestation then
    userPrincipal interpreter answer = .ok binding.attestedPrincipal
  else
    ∃ installationId repositoryScope, binding.repositoryScope = some repositoryScope ∧
      installationPrincipal installationId repositoryScope answer = .ok binding.attestedPrincipal

variable {interpreter binding} {exchanges : List (GitHubRequest × GitHubAnswer)}

theorem currentPrincipal_ok
    (leads : (binding.currentPrincipal interpreter).Leads exchanges
      (.ok binding.attestedPrincipal)) :
    ∃ answer, exchanges = [(binding.observation, answer)] ∧ binding.Attests interpreter answer := by
  unfold currentPrincipal at leads
  unfold observation Attests
  split_ifs at leads ⊢ with user installation
  · simp only [observeGithubCredentialPrincipal, leads_send_bind, leads_lift] at leads
    obtain ⟨answer, _, rfl, rfl, shown⟩ := leads
    exact ⟨answer, rfl, shown.symm⟩
  · split at leads
    · next installationId repositoryScope isInstallation isScope =>
      simp only [observeGithubAppInstallationPrincipal, leads_lift_bind_ok, leads_send_bind,
        leads_lift] at leads
      obtain ⟨_, _, id, _, _, isText, _, _, answer, _, rfl, rfl, shown⟩ := leads
      obtain ⟨same, -⟩ := requireText_eq_ok.mp isText
      cases same
      exact ⟨answer, rfl, id, repositoryScope, isScope, shown.symm⟩
    · cases (leads_done.mp leads).2
  · cases (leads_done.mp leads).2

theorem currentPrincipal_sends : (binding.currentPrincipal interpreter).Sends
    (·.isRead = false) := by
  unfold currentPrincipal
  split_ifs
  · exact (sends_send (by rfl)).bind fun _ => sends_done _
  · split
    · exact .lift_bind fun _ => .lift_bind fun _ => .lift_bind fun _ => .lift_bind fun _ =>
        (sends_send (by rfl)).bind fun _ => sends_done _
    · exact sends_done _
  · exact sends_done _

end CredentialBinding

namespace CredentialBindings

variable {interpreter : Interpreter} {bindings : CredentialBindings} {source : Nat}
  {exchanges : List (GitHubRequest × GitHubAnswer)}

theorem validatedBinding_sends :
    (bindings.validatedBinding interpreter source).Sends (·.isRead = false) :=
  .lift_bind fun _ => .lift_bind fun _ => CredentialBinding.currentPrincipal_sends.bind fun _ =>
    .lift_bind fun _ => sends_done _

/-- The source holds the binding, whose token has its fingerprint, and the answer shows its
principal. -/
structure Validates (interpreter : Interpreter) (bindings : CredentialBindings) (source : Nat)
    (binding : CredentialBinding) (answer : GitHubAnswer) : Prop where
  held : bindings.bindingFor source = .ok binding
  material : interpreter.sha256 binding.token = binding.tokenFingerprint
  attests : binding.Attests interpreter answer

theorem validatedBinding_ok {binding : CredentialBinding}
    (leads : (bindings.validatedBinding interpreter source).Leads exchanges (.ok binding)) :
    ∃ answer, exchanges = [(binding.observation, answer)] ∧
      bindings.Validates interpreter source binding answer := by
  simp only [validatedBinding, leads_lift_bind_ok, raiseIf_eq_ok, not_not] at leads
  obtain ⟨held, isHeld, _, material, leads⟩ := leads
  obtain ⟨principal, observed, _, rfl, observes, leads⟩ := leads_bind_ok.mp leads
  simp only [leads_lift_bind_ok, raiseIf_eq_ok, not_not, leads_pure] at leads
  obtain ⟨_, rfl, rfl, same⟩ := leads
  cases same
  obtain ⟨answer, rfl, attests⟩ := CredentialBinding.currentPrincipal_ok observes
  exact ⟨answer, List.append_nil _, isHeld, material, attests⟩

theorem pinSnapshot_ok {pin : CredentialPin}
    (leads : (bindings.pinSnapshot interpreter source).Leads exchanges (.ok pin)) :
    ∃ binding answer, exchanges = [(binding.observation, answer)] ∧
      bindings.Validates interpreter source binding answer ∧ pin = binding.pin := by
  simp only [pinSnapshot, leads_bind_ok, leads_pure] at leads
  obtain ⟨binding, early, _, rfl, validated, rfl, same⟩ := leads
  cases same
  obtain ⟨answer, rfl, validates⟩ := validatedBinding_ok validated
  exact ⟨binding, answer, List.append_nil _, validates, rfl⟩

theorem pinSnapshot_sends : (bindings.pinSnapshot interpreter source).Sends (·.isRead = false) :=
  validatedBinding_sends.bind fun _ => sends_done _

/-- A read under a pin sends the read last, after an observation of its source, or not at all. -/
theorem readRefWithPin_leads {pin : CredentialPin} {repository ref : String}
    {ended : Except Raised String}
    (leads : (bindings.readRefWithPin interpreter source pin repository ref).Leads exchanges
      ended) :
    (∀ exchange ∈ exchanges, exchange.1.isRead = false) ∨ ∃ binding sees answer,
        exchanges = [(binding.observation, sees), (.gitRef binding.token repository ref, answer)] ∧
        bindings.Validates interpreter source binding sees ∧ binding.pin = pin ∧
        (binding.attestationKind = githubAppInstallationAttestation →
          binding.repositoryScope = some repository) := by
  rcases leads_bind.mp leads with ⟨error, raised, -⟩ | ⟨binding, early, late, rfl, validated, later⟩
  · exact .inl (validatedBinding_sends _ _ raised)
  · obtain ⟨sees, rfl, validates⟩ := validatedBinding_ok validated
    -- whatever raises before the read leaves the observation alone
    have unread : late = [] → ∀ exchange ∈ [(binding.observation, sees)] ++ late,
        exchange.1.isRead = false := by
      rintro rfl
      exact validatedBinding_sends _ _ validated
    simp only [leads_lift_bind, providerRead, leads_send_bind, leads_lift, raiseIf_eq_ok,
      not_not, not_and] at later
    rcases later with ⟨_, _, none, _⟩ | ⟨_, pinned, ⟨_, _, none, _⟩ | ⟨_, inScope, ⟨_, _, none, _⟩ |
      ⟨_, isRepository, ⟨_, _, none, _⟩ | ⟨_, isRef, ⟨_, _, none, _⟩ | ⟨_, _, answer, _, rfl, rfl,
        _⟩⟩⟩⟩⟩
    · exact .inl (unread none)
    · exact .inl (unread none)
    · exact .inl (unread none)
    · exact .inl (unread none)
    · exact .inl (unread none)
    · obtain ⟨sameRepository, -⟩ := requireText_eq_ok.mp isRepository
      obtain ⟨sameRef, -⟩ := requireText_eq_ok.mp isRef
      cases sameRepository
      cases sameRef
      exact .inr ⟨binding, sees, answer, rfl, validates, pinned, inScope⟩

end CredentialBindings

/-- The pins of the roles differ in material, principal and class. -/
structure CredentialPin.Apart (runner verifier : CredentialPin) : Prop where
  material : runner.tokenFingerprint ≠ verifier.tokenFingerprint
  principals : runner.attestedPrincipal ≠ verifier.attestedPrincipal
  classes : runner.credentialClass ≠ verifier.credentialClass

/-- What a call of a pair transport sends: no read; or, in this order, an observation of the Runner
source, one of the Verifier source, one more of the source of the role, and then the read under the
token of that source. -/
inductive ReadsIndependently (interpreter : Interpreter) (bindings : CredentialBindings)
    (transport : PairTransport) (repository ref : String) :
    List (GitHubRequest × GitHubAnswer) → Prop where
  | unread (exchanges : List (GitHubRequest × GitHubAnswer))
      (observations : ∀ exchange ∈ exchanges, exchange.1.isRead = false) :
      ReadsIndependently interpreter bindings transport repository ref exchanges
  | read (runner verifier own : CredentialBinding)
      (runnerSees verifierSees ownSees answer : GitHubAnswer)
      (runnerValid : bindings.Validates interpreter transport.runnerTransport runner runnerSees)
      (verifierValid :
        bindings.Validates interpreter transport.verifierTransport verifier verifierSees)
      (ownValid : bindings.Validates interpreter transport.source own ownSees)
      (runnerPinned : runner.pin = transport.runnerPin)
      (verifierPinned : verifier.pin = transport.verifierPin)
      (ownPinned : own.pin = transport.pin)
      (apart : transport.runnerPin.Apart transport.verifierPin)
      (inScope : own.attestationKind = githubAppInstallationAttestation →
        own.repositoryScope = some repository) :
      ReadsIndependently interpreter bindings transport repository ref
        [(runner.observation, runnerSees), (verifier.observation, verifierSees),
          (own.observation, ownSees), (.gitRef own.token repository ref, answer)]

namespace PairTransport

variable {interpreter : Interpreter} {bindings : CredentialBindings} {transport : PairTransport}
  {repository ref : String} {exchanges : List (GitHubRequest × GitHubAnswer)}
  {ended : Except Raised String}

theorem requireApart_eq_ok {runner verifier : CredentialPin} {result : Unit}
    (passed : requireApart runner verifier = .ok result) : runner.Apart verifier := by
  simp only [requireApart, bind_eq_ok, raiseIf_eq_ok] at passed
  obtain ⟨_, material, _, principals, classes⟩ := passed
  exact ⟨material, principals, classes⟩

theorem readRef_leads
    (leads : (readRef interpreter bindings transport repository ref).Leads exchanges ended) :
    ReadsIndependently interpreter bindings transport repository ref exchanges := by
  rcases leads_bind.mp leads with ⟨_, raised, -⟩ | ⟨runnerNow, first, rest, rfl, runnerSeen, later⟩
  · exact .unread _ (CredentialBindings.pinSnapshot_sends _ _ raised)
  have firstUnread := CredentialBindings.pinSnapshot_sends _ _ runnerSeen
  rcases leads_bind.mp later with ⟨_, raised, -⟩ | ⟨verifierNow, second, last, rfl, verifierSeen,
    reading⟩
  · refine .unread _ fun exchange member => ?_
    rcases List.mem_append.mp member with early | late
    · exact firstUnread exchange early
    · exact CredentialBindings.pinSnapshot_sends _ _ raised exchange late
  have secondUnread := CredentialBindings.pinSnapshot_sends _ _ verifierSeen
  -- whatever does not read after the two observations
  have unread (lastUnread : ∀ exchange ∈ last, exchange.1.isRead = false) :
      ReadsIndependently interpreter bindings transport repository ref
        (first ++ (second ++ last)) := by
    refine .unread _ fun exchange member => ?_
    simp only [List.mem_append] at member
    rcases member with early | middle | late
    · exact firstUnread exchange early
    · exact secondUnread exchange middle
    · exact lastUnread exchange late
  simp only [leads_lift_bind, raiseIf_eq_ok, not_not] at reading
  rcases reading with ⟨_, _, rfl, _⟩ | ⟨_, runnerSame, ⟨_, _, rfl, _⟩ | ⟨_, verifierSame,
    ⟨_, _, rfl, _⟩ | ⟨_, isApart, reading⟩⟩⟩
  · exact unread (List.forall_mem_nil _)
  · exact unread (List.forall_mem_nil _)
  · exact unread (List.forall_mem_nil _)
  rcases CredentialBindings.readRefWithPin_leads reading with lastUnread | ⟨own, ownSees, answer,
    rfl, ownValid, ownPinned, inScope⟩
  · exact unread lastUnread
  obtain ⟨runner, runnerSees, rfl, runnerValid, rfl⟩ := CredentialBindings.pinSnapshot_ok runnerSeen
  obtain ⟨verifier, verifierSees, rfl, verifierValid, rfl⟩ :=
    CredentialBindings.pinSnapshot_ok verifierSeen
  have apart := requireApart_eq_ok isApart
  rw [runnerSame, verifierSame] at apart
  exact .read runner verifier own runnerSees verifierSees ownSees answer runnerValid verifierValid
    ownValid runnerSame verifierSame ownPinned apart inScope

end PairTransport

end VoodooOne
