import VoodooOne.Foundation.TextDecoder
import VoodooOne.Identity.Tokens
import VoodooOne.Library.PercentEncoding
import VoodooOne.Rollback.Control

/-!
# Create-ref transport

The transport sends one request to create a reference.  What the provider answers is a response of
its contract, which is either a rejection or a created reference, or an ambiguous outcome.
-/

namespace VoodooOne

/-- `_require_text`, of a Python string. -/
abbrev ValidTextUnits (text : Text) : Prop :=
  text ≠ [] ∧ text = text.strip ∧ .char (Char.ofNat 0) ∉ text

/-- What may follow the prefix of a canary reference. -/
abbrev CanarySuffix (suffix : Text) : Prop :=
  suffix ≠ [] ∧ ¬Text.ofString "/" <+: suffix ∧ ¬Text.ofString "/" <:+ suffix ∧
    (∀ part ∈ ["//", "..", "@\x7b", "\\"], ¬Text.ofString part <:+: suffix) ∧
    ∀ unit ∈ suffix, unit.isSpace = false ∧ 32 ≤ unit.point ∧ unit ∉ Text.ofString "~^:?*["

/-- The prefix of canary references, as a Python string. -/
def canaryPrefix : Text := .ofString vOneCanaryRefPrefix

/-- `_require_canary_ref`. -/
def requireCreatedRef (ref : Text) : Except Raised Unit := do
  raiseIf (¬ValidTextUnits ref) (valueError "ref is invalid")
  raiseIf (¬canaryPrefix <+: ref) (valueError "ref must be inside the V-One canary namespace")
  raiseIf (¬CanarySuffix (ref.drop canaryPrefix.length)) (valueError "ref is invalid")

abbrev Sha1Pattern (text : Text) : Prop :=
  text.length = 40 ∧ ∀ unit ∈ text, unit ∈ Text.ofString "0123456789abcdef"

/-- `_require_sha1`. -/
def requireCreatedSha (sha : Text) (field : String) : Except Raised Unit := do
  raiseIf (¬ValidTextUnits sha) (valueError (field ++ " is invalid"))
  raiseIf (¬Sha1Pattern sha) (valueError (field ++ " must be a lowercase 40-character Git SHA-1"))

structure GitHubCreateRefProviderResponse where
  statusCode : Nat
  (ref objectType objectSha : Option String)
  (sourceIdentity responseRevision responseDigest : String)
deriving DecidableEq, Repr

namespace GitHubCreateRefProviderResponse

def optionalJson : Option String → Json
  | some text => .str text
  | none => .null

def claimsWithoutDigest (response : GitHubCreateRefProviderResponse) : Json :=
  .object [("schema_version", .int 1),
    ("response_type", .str "github-create-ref-provider-response/v1"),
    ("status_code", .int response.statusCode), ("ref", optionalJson response.ref),
    ("object_type", optionalJson response.objectType),
    ("object_sha", optionalJson response.objectSha),
    ("source_identity", .str response.sourceIdentity),
    ("response_revision", .str response.responseRevision)]

/-- The claims about a reference that a status of 201 asks for. -/
def requireCreated (response : GitHubCreateRefProviderResponse) : Except Raised Unit := do
  requireCreatedRef (← orRaise (valueError "ref is invalid") (response.ref.map .ofString))
  raiseIf (response.objectType ≠ some "commit")
    (valueError "created Git reference must point to a commit")
  requireCreatedSha (← orRaise (valueError "object_sha is invalid")
    (response.objectSha.map .ofString)) "object_sha"

def requireClaims (response : GitHubCreateRefProviderResponse) : Except Raised Unit :=
  if response.statusCode = 201 then response.requireCreated
  else raiseIf (∃ claim ∈ [response.ref, response.objectType, response.objectSha], claim ≠ none)
    (valueError "rejected provider responses cannot claim a created ref")

def postInit (sha256 : Sha256) (response : GitHubCreateRefProviderResponse) :
    Except Raised Unit := do
  raiseIf (response.statusCode < 100 ∨ 599 < response.statusCode)
    (valueError "status_code is invalid")
  let _ ← requireText (.str response.sourceIdentity) "source_identity"
  let _ ← requireText (.str response.responseRevision) "response_revision"
  response.requireClaims
  raiseIf (response.responseDigest ≠ digestOf sha256.hexdigest response.claimsWithoutDigest)
    (valueError "response_digest does not match github-create-ref-provider-response/v1")

def digested (sha256 : Sha256) (draft : GitHubCreateRefProviderResponse) :
    GitHubCreateRefProviderResponse :=
  { draft with responseDigest := digestOf sha256.hexdigest draft.claimsWithoutDigest }

def encoded (text : Text) : Except Raised String :=
  orRaise ⟨.unicodeEncodeError, "surrogates not allowed"⟩ (TextUnit.encode? text)

def created (sha256 : Sha256) (ref objectSha : Text) (sourceIdentity responseRevision : String) :
    Except Raised GitHubCreateRefProviderResponse := do
  requireCreatedRef ref
  requireCreatedSha objectSha "object_sha"
  let _ ← requireText (.str sourceIdentity) "source_identity"
  let _ ← requireText (.str responseRevision) "response_revision"
  let ref ← encoded ref
  let objectSha ← encoded objectSha
  let draft : GitHubCreateRefProviderResponse :=
    ⟨201, some ref, some "commit", some objectSha, sourceIdentity, responseRevision, ""⟩
  (draft.digested sha256).postInit sha256
  return draft.digested sha256

def rejected (sha256 : Sha256) (statusCode : Nat) (sourceIdentity responseRevision : String) :
    Except Raised GitHubCreateRefProviderResponse := do
  raiseIf (statusCode = 201) (valueError "use created() for a 201 response")
  let _ ← requireText (.str sourceIdentity) "source_identity"
  let _ ← requireText (.str responseRevision) "response_revision"
  let draft : GitHubCreateRefProviderResponse :=
    ⟨statusCode, none, none, none, sourceIdentity, responseRevision, ""⟩
  (draft.digested sha256).postInit sha256
  return draft.digested sha256

end GitHubCreateRefProviderResponse

/-- What the transport reads of a `GitHubCreateRefRequest`. -/
structure GitHubCreateRefRequest where
  (repository ref sha : String)
  repositoryForm : matchesRepository repository = true

structure HttpRequest where
  (method path : String)
  body : List Char
  headers : List (String × String)

def githubCreateRefSourceIdentity : String := "github-rest/git-create-ref/v1"

/-- `RESPONSE_REVISION`. -/
def createRefResponseRevision : String := "github-create-ref-provider-response/f4b-live-r1"

/-- What the network makes of a request. -/
inductive ProviderOutcome where
  /-- `HTTPException`, `TimeoutError` or `OSError`. -/
  | failed
  /-- A status, and the bytes of the body. -/
  | answered (status : Nat) (range : 100 ≤ status ∧ status ≤ 999) (body : ByteArray)

/-- A call, what the network makes of its request, and how deep a value the stack has room for. -/
structure CreateRefCall where
  request : GitHubCreateRefRequest
  outcome : ProviderOutcome
  room : Nat

/-- What a call sent, and how it ended. -/
structure CreateRefExchange where
  call : CreateRefCall
  sent : Option HttpRequest
  answer : Except Raised GitHubCreateRefProviderResponse

structure GitHubApiCreateRefTransport where
  token : String
  used : Bool

namespace GitHubApiCreateRefTransport

/-- `GitHubCreateRefTransportAmbiguous`. -/
def ambiguous (message : String) : Raised := ⟨.gitHubCreateRefTransportAmbiguous, message⟩

def pathPart (characters : List Char) : String :=
  String.ofList (PercentEncoding.quote [] characters)

def message (transport : GitHubApiCreateRefTransport) (request : GitHubCreateRefRequest) :
    HttpRequest where
  method := "POST"
  path := "/repos/" ++ pathPart (request.repository.toList.takeWhile (· ≠ '/')) ++ "/" ++
    pathPart (request.repository.toList.dropWhile (· ≠ '/')).tail ++ "/git/refs"
  body := "\x7b\"ref\":".toList ++ asciiQuote request.ref ++ ",\"sha\":".toList ++
    asciiQuote request.sha ++ ['\x7d']
  headers := [("Accept", "application/vnd.github+json"),
    ("Authorization", "Bearer " ++ transport.token), ("X-GitHub-Api-Version", "2022-11-28"),
    ("User-Agent", "v-one-f4b-create-ref/1"), ("Content-Type", "application/json")]

/-- The exception of a text that cannot be read. -/
def decodeError : DecodeFailure → Raised
  | .malformed => ⟨.jsonDecodeError, "Expecting value"⟩
  | .digits => valueError "Exceeds the limit (4300 digits) for integer string conversion"
  | .nesting => ⟨.recursionError, "maximum recursion depth exceeded"⟩

/-- `json.loads(body.decode("utf-8"))`. -/
def loadsBody (room : Nat) (body : ByteArray) : Except Raised TextValue := do
  let text ← orRaise ⟨.unicodeDecodeError, "invalid utf-8"⟩ (String.fromUTF8? body)
  (TextDecoder.loadsText room text).mapError decodeError

def parseJsonObject (room : Nat) (body : ByteArray) : Except Raised (List (Text × TextValue)) := do
  let value ← catching [.unicodeDecodeError, .jsonDecodeError]
    (ambiguous "F4B_CREATE_REF_PROVIDER_RESPONSE_INVALID_JSON") (loadsBody room body)
  orRaise (ambiguous "F4B_CREATE_REF_PROVIDER_RESPONSE_NOT_OBJECT") value.fields?

/-- The reference and the commit that two objects of a body state. -/
def commitOf (parsed object : List (Text × TextValue)) : Option (Text × Text) := do
  let ref ← (TextValue.get parsed "ref").text?
  let kind ← (TextValue.get object "type").text?
  let sha ← (TextValue.get object "sha").text?
  if kind = .ofString "commit" then some (ref, sha) else none

def statedCommit (room : Nat) (body : ByteArray) : Except Raised (Text × Text) := do
  let parsed ← parseJsonObject room body
  let object ← orRaise (ambiguous "F4B_CREATE_REF_201_RESPONSE_OBJECT_INVALID")
    (TextValue.get parsed "object").fields?
  orRaise (ambiguous "F4B_CREATE_REF_201_RESPONSE_INVALID") (commitOf parsed object)

/-- The answer to a body that came with a status of 201. -/
def accept (sha256 : Sha256) (room : Nat) (body : ByteArray) :
    Except Raised GitHubCreateRefProviderResponse := do
  let stated ← statedCommit room body
  GitHubCreateRefProviderResponse.created sha256 stated.1 stated.2 githubCreateRefSourceIdentity
    createRefResponseRevision

def settle (sha256 : Sha256) (room : Nat) :
    ProviderOutcome → Except Raised GitHubCreateRefProviderResponse
  | .failed => .error (ambiguous "F4B_CREATE_REF_PROVIDER_OUTCOME_AMBIGUOUS_NO_RETRY")
  | .answered status _ body =>
      if status ≠ 201 then
        GitHubCreateRefProviderResponse.rejected sha256 status githubCreateRefSourceIdentity
          createRefResponseRevision
      else accept sha256 room body

def createRef (sha256 : Sha256) (transport : GitHubApiCreateRefTransport) (call : CreateRefCall) :
    GitHubApiCreateRefTransport × CreateRefExchange :=
  if transport.used then
    (transport, ⟨call, none,
      .error ⟨.gitHubCreateRefDenied, "F4B_CREATE_REF_TRANSPORT_ALREADY_USED"⟩⟩)
  else ({ transport with used := true },
    ⟨call, some (transport.message call.request), settle sha256 call.room call.outcome⟩)

def life (sha256 : Sha256) : GitHubApiCreateRefTransport → List CreateRefCall →
    List CreateRefExchange
  | _, [] => []
  | transport, call :: calls =>
      (transport.createRef sha256 call).2 :: life sha256 (transport.createRef sha256 call).1 calls

end GitHubApiCreateRefTransport

end VoodooOne
