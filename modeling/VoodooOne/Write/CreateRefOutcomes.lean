import VoodooOne.Foundation.Raises
import VoodooOne.Write.CreateRefTransport

/-!
# Outcomes of the create-ref transport

A transport sends one request at most.  The call that sends it ends in one of three classes, as long
as the provider answers with a status and a body that the response contract knows.
-/

namespace VoodooOne

open GitHubApiCreateRefTransport

variable {sha256 : Sha256}

/-- A reference inside the canary namespace. -/
def CanaryRef (ref : Text) : Prop :=
  ValidTextUnits ref ∧ canaryPrefix <+: ref ∧ CanarySuffix (ref.drop canaryPrefix.length)

theorem requireCreatedRef_eq_ok {ref : Text} {result : Unit} :
    requireCreatedRef ref = .ok result ↔ CanaryRef ref := by
  simp only [requireCreatedRef, bind_eq_ok, raiseIf_eq_ok, not_not, exists_const, CanaryRef]

theorem Sha1Pattern.valid {sha : Text} (pattern : Sha1Pattern sha) : ValidTextUnits sha := by
  have plain : ∀ unit ∈ Text.ofString "0123456789abcdef",
      unit.isSpace = false ∧ unit ≠ .char (Char.ofNat 0) := by decide
  have kept (text : Text) (inside : ∀ unit ∈ text, unit ∈ sha) :
      text.dropWhile TextUnit.isSpace = text := by
    rw [List.dropWhile_eq_self_iff]
    intro nonempty space
    have first := (plain _ (pattern.2 _ (inside _ (text.getElem_mem nonempty)))).1
    rw [first] at space
    exact Bool.false_ne_true space
  have front := kept sha fun unit member => member
  have back := kept sha.reverse fun unit member => List.mem_reverse.mp member
  refine ⟨?_, ?_, fun zero => (plain _ (pattern.2 _ zero)).2 rfl⟩
  · intro empty
    have length := pattern.1
    rw [empty] at length
    exact absurd length (by decide)
  · rw [Text.strip, front, back, List.reverse_reverse]

theorem requireCreatedSha_eq_ok {sha : Text} {field : String} {result : Unit} :
    requireCreatedSha sha field = .ok result ↔ Sha1Pattern sha := by
  simp only [requireCreatedSha, bind_eq_ok, raiseIf_eq_ok, not_not, exists_const]
  exact ⟨And.right, fun pattern => ⟨pattern.valid, pattern⟩⟩

theorem Sha1Pattern.stored {sha : Text} (pattern : Sha1Pattern sha) :
    ∃ stored, sha = .ofString stored := by
  have plain : TextUnit.Plain sha := by
    intro offset member
    obtain ⟨character, -, same⟩ := List.mem_map.mp (pattern.2 _ member)
    cases same
  obtain ⟨stored, encoded⟩ := Option.isSome_iff_exists.mp (TextUnit.encode?_isSome.mpr plain)
  exact ⟨stored, Text.encode?_eq_some.mp encoded⟩

namespace GitHubCreateRefProviderResponse

def ofStatus (sha256 : Sha256) (status : Nat) : GitHubCreateRefProviderResponse :=
  digested sha256
    ⟨status, none, none, none, githubCreateRefSourceIdentity, createRefResponseRevision, ""⟩

/-- The response that a created reference stands for. -/
def ofCommit (sha256 : Sha256) (ref sha : String) : GitHubCreateRefProviderResponse :=
  digested sha256 ⟨201, some ref, some "commit", some sha, githubCreateRefSourceIdentity,
    createRefResponseRevision, ""⟩

theorem validText_sourceIdentity : ValidText githubCreateRefSourceIdentity := by decide

theorem validText_responseRevision : ValidText createRefResponseRevision := by decide

/-- A response with its digest passes its own checks exactly when its status and its claims do. -/
theorem postInit_eq_ok {draft : GitHubCreateRefProviderResponse} {result : Unit}
    (source : draft.sourceIdentity = githubCreateRefSourceIdentity)
    (revision : draft.responseRevision = createRefResponseRevision) :
    (draft.digested sha256).postInit sha256 = .ok result ↔
      (100 ≤ draft.statusCode ∧ draft.statusCode ≤ 599) ∧ draft.requireClaims = .ok () := by
  have claims : (draft.digested sha256).requireClaims = draft.requireClaims := rfl
  have digest : (draft.digested sha256).responseDigest =
      digestOf sha256.hexdigest (draft.digested sha256).claimsWithoutDigest := rfl
  have status : (draft.digested sha256).statusCode = draft.statusCode := rfl
  have ownSource : (draft.digested sha256).sourceIdentity = githubCreateRefSourceIdentity := source
  have ownRevision : (draft.digested sha256).responseRevision = createRefResponseRevision :=
    revision
  simp only [postInit, bind_eq_ok, raiseIf_eq_ok, requireText_eq_ok, claims, not_not, status,
    ownSource, ownRevision, not_or, not_lt]
  constructor
  · rintro ⟨_, range, _, -, _, -, _, passed, -⟩
    exact ⟨range, passed⟩
  · rintro ⟨range, passed⟩
    exact ⟨(), range, _, ⟨rfl, validText_sourceIdentity⟩, _, ⟨rfl, validText_responseRevision⟩, (),
      passed, digest⟩

theorem rejected_eq_ok {status : Nat} {response : GitHubCreateRefProviderResponse} :
    rejected sha256 status githubCreateRefSourceIdentity createRefResponseRevision = .ok response ↔
      (status ≠ 201 ∧ 100 ≤ status ∧ status ≤ 599) ∧ response = ofStatus sha256 status := by
  have claims (other : status ≠ 201) :
      requireClaims ⟨status, none, none, none, githubCreateRefSourceIdentity,
        createRefResponseRevision, ""⟩ = .ok () := by
    rw [requireClaims, if_neg other]
    exact raiseIf_of_not (by simp)
  have passes (result : Unit) : (ofStatus sha256 status).postInit sha256 = .ok result ↔ _ :=
    postInit_eq_ok rfl rfl
  rw [ofStatus] at passes
  simp only [rejected, bind_eq_ok, raiseIf_eq_ok, requireText_eq_ok, pure_eq_ok, passes]
  constructor
  · rintro ⟨_, other, _, -, _, -, _, ⟨range, -⟩, rfl⟩
    exact ⟨⟨other, range⟩, rfl⟩
  · rintro ⟨⟨other, range⟩, rfl⟩
    exact ⟨(), other, _, ⟨rfl, validText_sourceIdentity⟩, _, ⟨rfl, validText_responseRevision⟩, (),
      ⟨range, claims other⟩, rfl⟩

theorem created_eq_ok {ref sha : Text} {response : GitHubCreateRefProviderResponse} :
    created sha256 ref sha githubCreateRefSourceIdentity createRefResponseRevision = .ok response ↔
      ∃ refText shaText, (ref = .ofString refText ∧ sha = .ofString shaText) ∧
        (CanaryRef ref ∧ Sha1Pattern sha) ∧ response = ofCommit sha256 refText shaText := by
  have claims {refText shaText : String} (canary : CanaryRef (.ofString refText))
      (pattern : Sha1Pattern (.ofString shaText)) :
      requireClaims ⟨201, some refText, some "commit", some shaText, githubCreateRefSourceIdentity,
        createRefResponseRevision, ""⟩ = .ok () := by
    simp only [requireClaims, if_pos, requireCreated, Option.map_some, bind_eq_ok, orRaise_eq_ok,
      requireCreatedRef_eq_ok, requireCreatedSha_eq_ok, raiseIf_eq_ok]
    exact ⟨_, rfl, (), canary, (), not_not.mpr rfl, _, rfl, pattern⟩
  have passes (refText shaText : String) (result : Unit) :
      (ofCommit sha256 refText shaText).postInit sha256 = .ok result ↔ _ := postInit_eq_ok rfl rfl
  simp only [ofCommit] at passes
  simp only [created, encoded, bind_eq_ok, requireCreatedRef_eq_ok, requireCreatedSha_eq_ok,
    requireText_eq_ok, orRaise_eq_ok, Text.encode?_eq_some, pure_eq_ok, passes]
  constructor
  · rintro ⟨_, canary, _, pattern, _, -, _, -, refText, refSame, shaText, shaSame, _, -, rfl⟩
    exact ⟨refText, shaText, ⟨refSame, shaSame⟩, ⟨canary, pattern⟩, rfl⟩
  · rintro ⟨refText, shaText, ⟨rfl, rfl⟩, ⟨canary, pattern⟩, rfl⟩
    exact ⟨(), canary, (), pattern, _, ⟨rfl, validText_sourceIdentity⟩, _,
      ⟨rfl, validText_responseRevision⟩, refText, rfl, shaText, rfl, (),
      ⟨by decide, claims canary pattern⟩, rfl⟩

end GitHubCreateRefProviderResponse

/-- An error that leaves the outcome unclassified. -/
def Unclassified (raised : Raised) : Prop := raised.cls ≠ .gitHubCreateRefTransportAmbiguous

theorem unclassified_valueError (message : String) : Unclassified (valueError message) := by
  have other : ExceptionClass.valueError ≠ .gitHubCreateRefTransportAmbiguous := by decide
  exact other

theorem raises_requireCreatedRef (ref : Text) : Raises Unclassified (requireCreatedRef ref) :=
  (raises_raiseIf (unclassified_valueError _)).bind fun _ =>
    (raises_raiseIf (unclassified_valueError _)).bind fun _ =>
      raises_raiseIf (unclassified_valueError _)

theorem raises_requireCreatedSha (sha : Text) (field : String) :
    Raises Unclassified (requireCreatedSha sha field) :=
  (raises_raiseIf (unclassified_valueError _)).bind fun _ =>
    raises_raiseIf (unclassified_valueError _)

namespace GitHubCreateRefProviderResponse

theorem raises_requireClaims (response : GitHubCreateRefProviderResponse) :
    Raises Unclassified response.requireClaims := by
  unfold requireClaims
  split
  · exact (raises_orRaise (unclassified_valueError _) _).bind fun _ =>
      (raises_requireCreatedRef _).bind fun _ =>
        (raises_raiseIf (unclassified_valueError _)).bind fun _ =>
          (raises_orRaise (unclassified_valueError _) _).bind fun _ => raises_requireCreatedSha _ _
  · exact raises_raiseIf (unclassified_valueError _)

theorem raises_postInit (response : GitHubCreateRefProviderResponse) :
    Raises Unclassified (response.postInit sha256) :=
  (raises_raiseIf (unclassified_valueError _)).bind fun _ =>
    (raises_requireText unclassified_valueError _ _).bind fun _ =>
      (raises_requireText unclassified_valueError _ _).bind fun _ =>
        (raises_requireClaims response).bind fun _ => raises_raiseIf (unclassified_valueError _)

theorem raises_rejected (status : Nat) (source revision : String) :
    Raises Unclassified (rejected sha256 status source revision) :=
  (raises_raiseIf (unclassified_valueError _)).bind fun _ =>
    (raises_requireText unclassified_valueError _ _).bind fun _ =>
      (raises_requireText unclassified_valueError _ _).bind fun _ =>
        (raises_postInit _).bind fun _ => raises_pure _

theorem raises_created (ref sha : Text) (source revision : String) :
    Raises Unclassified (created sha256 ref sha source revision) := by
  have encoding (text : Text) : Raises Unclassified (encoded text) :=
    raises_orRaise (fun same => absurd same (by decide)) _
  exact (raises_requireCreatedRef ref).bind fun _ =>
    (raises_requireCreatedSha sha _).bind fun _ =>
      (raises_requireText unclassified_valueError _ _).bind fun _ =>
        (raises_requireText unclassified_valueError _ _).bind fun _ =>
          (encoding ref).bind fun _ => (encoding sha).bind fun _ =>
            (raises_postInit _).bind fun _ => raises_pure _

end GitHubCreateRefProviderResponse

def States (room : Nat) (body : ByteArray) (ref sha : Text) : Prop :=
  ∃ text parsed object, String.fromUTF8? body = some text ∧
    TextDecoder.loadsText room text = .ok (.obj parsed) ∧
    TextValue.get parsed "object" = .obj object ∧ commitOf parsed object = some (ref, sha)

/-- A body is JSON, or it is not, but it meets neither an integer with too many digits nor a level
that the stack has no room for before that is known. -/
def Readable (room : Nat) (body : ByteArray) : Prop :=
  ∀ text, String.fromUTF8? body = some text →
    ∀ failure, TextDecoder.loadsText room text = .error failure → failure = .malformed

theorem TextValue.fields?_eq_some {value : TextValue} {fields : List (Text × TextValue)} :
    value.fields? = some fields ↔ value = .obj fields := by
  cases value <;> simp [TextValue.fields?]

variable {body : ByteArray} {room : Nat} {call : CreateRefCall}

theorem loadsBody_eq_ok {value : TextValue} : loadsBody room body = .ok value ↔
      ∃ text, String.fromUTF8? body = some text ∧ TextDecoder.loadsText room text = .ok value := by
  simp only [loadsBody, bind_eq_ok, orRaise_eq_ok]
  refine exists_congr fun text => and_congr_right fun _ => ?_
  cases TextDecoder.loadsText room text <;> simp [Except.mapError]

theorem statedCommit_eq_ok {ref sha : Text} :
    statedCommit room body = .ok (ref, sha) ↔ States room body ref sha := by
  simp only [statedCommit, parseJsonObject, bind_eq_ok, catching_eq_ok, orRaise_eq_ok,
    loadsBody_eq_ok, TextValue.fields?_eq_some, States]
  constructor
  · rintro ⟨parsed, ⟨_, ⟨text, decoded, read⟩, rfl⟩, object, found, stated⟩
    exact ⟨text, parsed, object, decoded, read, found, stated⟩
  · rintro ⟨text, parsed, object, decoded, read, found, stated⟩
    exact ⟨parsed, ⟨_, ⟨text, decoded, read⟩, rfl⟩, object, found, stated⟩

theorem statedCommit_ambiguous (readable : Readable room body) :
    Raises (fun raised => ∃ message, raised = ambiguous message) (statedCommit room body) := by
  have parsed : Raises (fun raised => ∃ message, raised = ambiguous message)
      (catching [.unicodeDecodeError, .jsonDecodeError]
        (ambiguous "F4B_CREATE_REF_PROVIDER_RESPONSE_INVALID_JSON") (loadsBody room body)) := by
    unfold loadsBody
    cases decoded : String.fromUTF8? body with
    | none => exact raises_error ⟨_, rfl⟩
    | some text =>
        rw [orRaise, ok_bind]
        cases read : TextDecoder.loadsText room text with
        | ok value => exact raises_ok value
        | error failure =>
            obtain rfl := readable text decoded failure read
            exact raises_error ⟨_, rfl⟩
  exact (parsed.bind fun _ => raises_orRaise ⟨_, rfl⟩ _).bind fun _ =>
    (raises_orRaise ⟨_, rfl⟩ _).bind fun _ => raises_orRaise ⟨_, rfl⟩ _

theorem statedCommit_unclassified (unreadable : ¬Readable room body) :
    ∃ raised, statedCommit room body = .error raised ∧ Unclassified raised := by
  simp only [Readable, not_forall] at unreadable
  obtain ⟨text, decoded, failure, read, other⟩ := unreadable
  refine ⟨decodeError failure, ?_, ?_⟩
  · rw [statedCommit, parseJsonObject, loadsBody, decoded, orRaise, ok_bind, read]
    cases failure with
    | malformed => exact absurd rfl other
    | digits => rfl
    | nesting => rfl
  · cases failure with
    | malformed => exact absurd rfl other
    | digits => exact unclassified_valueError _
    | nesting => exact fun same => absurd same (by decide)

inductive CreateRefClass where
  | rejected
  | created
  | ambiguous

/-- How an outcome ends in a class: with a rejection that carries the provider's status, with the
reference and the commit that the provider returned, or as ambiguous. -/
def EndsIn (call : CreateRefCall) (answer : Except Raised GitHubCreateRefProviderResponse) :
    CreateRefClass → Prop
  | .rejected => ∃ status range body response, call.outcome = .answered status range body ∧
      status ≠ 201 ∧ answer = .ok response ∧ response.statusCode = status ∧
      response.ref = none ∧ response.objectType = none ∧ response.objectSha = none
  | .created => ∃ range body ref sha response, call.outcome = .answered 201 range body ∧
      States call.room body (.ofString ref) (.ofString sha) ∧ answer = .ok response ∧
      response.statusCode = 201 ∧ response.ref = some ref ∧ response.objectType = some "commit" ∧
      response.objectSha = some sha
  | .ambiguous => ∃ message, answer = .error (ambiguous message)

/-- The outcomes that the response contract knows: no status beyond 599, and a status of 201 with a
readable body that states no reference but one of the canary namespace to a SHA-1. -/
def Classifiable (call : CreateRefCall) : Prop :=
  match call.outcome with
  | .failed => True
  | .answered status _ body =>
      if status ≠ 201 then status ≤ 599
      else Readable call.room body ∧ ∀ ref sha, States call.room body ref sha →
        CanaryRef ref ∧ TextUnit.Plain ref ∧ Sha1Pattern sha

theorem EndsIn.unique {answer : Except Raised GitHubCreateRefProviderResponse}
    {one other : CreateRefClass} (first : EndsIn call answer one)
    (second : EndsIn call answer other) : one = other := by
  cases one <;> cases other <;> try rfl
  all_goals exfalso
  · obtain ⟨status, range, body, _, outcome, notCreated, -⟩ := first
    obtain ⟨_, _, _, _, _, created, -⟩ := second
    rw [outcome] at created
    cases created
    exact notCreated rfl
  · obtain ⟨_, _, _, _, -, -, ended, -⟩ := first
    obtain ⟨_, failed⟩ := second
    rw [ended] at failed
    cases failed
  · obtain ⟨_, _, _, _, _, created, -⟩ := first
    obtain ⟨status, range, body, _, outcome, notCreated, -⟩ := second
    rw [outcome] at created
    cases created
    exact notCreated rfl
  · obtain ⟨_, _, _, _, _, -, -, ended, -⟩ := first
    obtain ⟨_, failed⟩ := second
    rw [ended] at failed
    cases failed
  · obtain ⟨_, failed⟩ := first
    obtain ⟨_, _, _, _, -, -, ended, -⟩ := second
    rw [ended] at failed
    cases failed
  · obtain ⟨_, failed⟩ := first
    obtain ⟨_, _, _, _, _, -, -, ended, -⟩ := second
    rw [ended] at failed
    cases failed

theorem not_endsIn_of_unclassified {raised : Raised} (unclassified : Unclassified raised)
    (cls : CreateRefClass) :
    ¬EndsIn call (.error raised) cls := by
  intro ends
  cases cls with
  | rejected =>
      obtain ⟨_, _, _, _, -, -, ended, -⟩ := ends
      cases ended
  | created =>
      obtain ⟨_, _, _, _, _, -, -, ended, -⟩ := ends
      cases ended
  | ambiguous =>
      obtain ⟨_, ended⟩ := ends
      cases ended
      exact unclassified rfl

/-- A status other than 201 ends in a rejection exactly when the contract knows it. -/
theorem endsIn_of_status {status : Nat} {range : 100 ≤ status ∧ status ≤ 999}
    (outcome : call.outcome = .answered status range body) (other : status ≠ 201) :
    (∃ cls, EndsIn call (settle sha256 call.room call.outcome) cls) ↔ status ≤ 599 := by
  have settled : settle sha256 call.room call.outcome =
      GitHubCreateRefProviderResponse.rejected sha256 status githubCreateRefSourceIdentity
        createRefResponseRevision := by
    rw [outcome, settle, if_pos other]
  rw [settled]
  constructor
  · rintro ⟨cls, ends⟩
    cases answered : GitHubCreateRefProviderResponse.rejected sha256 status
        githubCreateRefSourceIdentity createRefResponseRevision with
    | ok response =>
        exact (GitHubCreateRefProviderResponse.rejected_eq_ok.mp answered).1.2.2
    | error raised =>
        rw [answered] at ends
        exact absurd ends (not_endsIn_of_unclassified
          (GitHubCreateRefProviderResponse.raises_rejected _ _ _ raised answered) cls)
  · intro known
    exact ⟨.rejected, status, range, body, _, outcome, other,
      GitHubCreateRefProviderResponse.rejected_eq_ok.mpr ⟨⟨other, range.1, known⟩, rfl⟩,
      rfl, rfl, rfl, rfl⟩

/-- A status of 201 ends in a class exactly when its body is readable and states no reference that
the contract refuses. -/
theorem endsIn_of_created {range : 100 ≤ 201 ∧ 201 ≤ 999}
    (outcome : call.outcome = .answered 201 range body) :
    (∃ cls, EndsIn call (settle sha256 call.room call.outcome) cls) ↔
      Readable call.room body ∧ ∀ ref sha, States call.room body ref sha →
        CanaryRef ref ∧ TextUnit.Plain ref ∧ Sha1Pattern sha := by
  have settled : settle sha256 call.room call.outcome = accept sha256 call.room body := by
    rw [outcome, settle, if_neg (not_not.mpr rfl)]
  rw [settled, accept]
  cases read : statedCommit call.room body with
  | error raised =>
      have unstated (ref sha : Text) : ¬States call.room body ref sha := by
        rw [← statedCommit_eq_ok, read]
        rintro ⟨⟩
      constructor
      · rintro ⟨cls, ends⟩
        refine ⟨by_contra fun unreadable => ?_, fun ref sha stated => absurd stated (unstated _ _)⟩
        obtain ⟨_, failed, unclassified⟩ := statedCommit_unclassified unreadable
        cases read.symm.trans failed
        exact not_endsIn_of_unclassified unclassified cls ends
      · rintro ⟨readable, -⟩
        obtain ⟨message, rfl⟩ := statedCommit_ambiguous readable raised read
        exact ⟨.ambiguous, message, rfl⟩
  | ok stated =>
      obtain ⟨ref, sha⟩ := stated
      have own := statedCommit_eq_ok.mp read
      rw [ok_bind]
      constructor
      · rintro ⟨cls, ends⟩
        refine ⟨by_contra fun unreadable => ?_, fun other otherSha stated => ?_⟩
        · obtain ⟨_, failed, -⟩ := statedCommit_unclassified unreadable
          cases read.symm.trans failed
        · cases read.symm.trans (statedCommit_eq_ok.mpr stated)
          cases answered : GitHubCreateRefProviderResponse.created sha256 ref sha
              githubCreateRefSourceIdentity createRefResponseRevision with
          | ok response =>
              obtain ⟨_, _, ⟨rfl, rfl⟩, ⟨canary, pattern⟩, -⟩ :=
                GitHubCreateRefProviderResponse.created_eq_ok.mp answered
              exact ⟨canary, TextUnit.plain_ofString _, pattern⟩
          | error raised =>
              rw [answered] at ends
              exact absurd ends (not_endsIn_of_unclassified
                (GitHubCreateRefProviderResponse.raises_created _ _ _ _ raised answered) cls)
      · rintro ⟨-, allowed⟩
        obtain ⟨canary, plain, pattern⟩ := allowed ref sha own
        obtain ⟨refText, encoded⟩ :=
          Option.isSome_iff_exists.mp (TextUnit.encode?_isSome.mpr plain)
        obtain rfl := Text.encode?_eq_some.mp encoded
        obtain ⟨shaText, rfl⟩ := pattern.stored
        exact ⟨.created, range, body, refText, shaText, _, outcome, own,
          GitHubCreateRefProviderResponse.created_eq_ok.mpr
            ⟨refText, shaText, ⟨rfl, rfl⟩, ⟨canary, pattern⟩, rfl⟩, rfl, rfl, rfl, rfl⟩

theorem endsIn_iff (sha256 : Sha256) (call : CreateRefCall) :
    (∃ cls, EndsIn call (settle sha256 call.room call.outcome) cls) ↔ Classifiable call := by
  unfold Classifiable
  cases outcome : call.outcome with
  | failed => exact iff_of_true ⟨.ambiguous, _, rfl⟩ trivial
  | answered status range body =>
      rw [← outcome]
      by_cases created : status = 201
      · subst created
        simp only [outcome, ne_eq, not_true_eq_false, if_false]
        rw [← outcome]
        exact endsIn_of_created outcome
      · simp only [outcome, ne_eq, created, not_false_eq_true, if_true]
        rw [← outcome]
        exact endsIn_of_status outcome created

namespace GitHubApiCreateRefTransport

/-- The answer to a call of a transport that is used. -/
def alreadyUsed : Raised :=
  ⟨.gitHubCreateRefDenied, "F4B_CREATE_REF_TRANSPORT_ALREADY_USED"⟩

theorem life_used (sha256 : Sha256) (transport : GitHubApiCreateRefTransport)
    (used : transport.used = true) (calls : List CreateRefCall) :
    ∀ exchange ∈ life sha256 transport calls, exchange.sent = none ∧
      exchange.answer = .error alreadyUsed := by
  induction calls with
  | nil => exact List.forall_mem_nil _
  | cons call calls induction =>
      have refused : transport.createRef sha256 call =
          (transport, ⟨call, none, .error alreadyUsed⟩) := if_pos used
      rw [life, refused]
      exact List.forall_mem_cons.mpr ⟨⟨rfl, rfl⟩, induction⟩

/-- A transport that is not used sends the request of its first call and no other. -/
theorem life_unused (sha256 : Sha256) (transport : GitHubApiCreateRefTransport)
    (unused : transport.used = false) (call : CreateRefCall) (calls : List CreateRefCall) :
    ∃ later, life sha256 transport (call :: calls) = ⟨call, some (transport.message call.request),
        settle sha256 call.room call.outcome⟩ :: later ∧
      ∀ exchange ∈ later, exchange.sent = none ∧ exchange.answer = .error alreadyUsed := by
  have sent : transport.createRef sha256 call = ({ transport with used := true },
      ⟨call, some (transport.message call.request), settle sha256 call.room call.outcome⟩) :=
    if_neg (Bool.eq_false_iff.mp unused)
  rw [life, sent]
  exact ⟨_, rfl, life_used sha256 _ rfl calls⟩

end GitHubApiCreateRefTransport

/-- Over the life of a transport one request is sent at most.  The call that sends it ends in
exactly one class if and only if its outcome is classifiable; every other call is refused. -/
theorem createRef_classified (sha256 : Sha256) (transport : GitHubApiCreateRefTransport)
    (calls : List CreateRefCall) :
    (life sha256 transport calls).countP (·.sent.isSome) ≤ 1 ∧
      ∀ exchange ∈ life sha256 transport calls,
        (exchange.sent.isSome → ((∃! cls, EndsIn exchange.call exchange.answer cls) ↔
          Classifiable exchange.call)) ∧
        (exchange.sent = none → exchange.answer = .error alreadyUsed) := by
  have silent {exchanges : List CreateRefExchange} (refused : ∀ exchange ∈ exchanges,
      exchange.sent = none ∧ exchange.answer = .error alreadyUsed) :
      exchanges.countP (·.sent.isSome) = 0 ∧ ∀ exchange ∈ exchanges,
        (exchange.sent.isSome → ((∃! cls, EndsIn exchange.call exchange.answer cls) ↔
          Classifiable exchange.call)) ∧
        (exchange.sent = none → exchange.answer = .error alreadyUsed) := by
    refine ⟨List.countP_eq_zero.mpr fun exchange member => ?_, fun exchange member => ⟨?_, ?_⟩⟩
    · rw [(refused exchange member).1]
      exact Bool.false_ne_true
    · intro sent
      rw [(refused exchange member).1] at sent
      exact absurd sent Bool.false_ne_true
    · exact fun _ => (refused exchange member).2
  cases used : transport.used with
  | true =>
      have all := silent (life_used sha256 transport used calls)
      exact ⟨all.1.trans_le (Nat.zero_le 1), all.2⟩
  | false =>
      cases calls with
      | nil => exact ⟨Nat.zero_le 1, List.forall_mem_nil _⟩
      | cons call calls =>
          obtain ⟨later, lived, refused⟩ := life_unused sha256 transport used call calls
          rw [lived]
          refine ⟨?_, List.forall_mem_cons.mpr ⟨⟨fun _ => ?_, ?_⟩, (silent refused).2⟩⟩
          · rw [List.countP_cons, (silent refused).1]
            exact Nat.le_refl 1
          · rw [← endsIn_iff sha256 call]
            refine ⟨ExistsUnique.exists, ?_⟩
            rintro ⟨cls, ends⟩
            exact ⟨cls, ends, fun _ other => other.unique ends⟩
          · rintro ⟨⟩

theorem matchesRepository_ownerName : matchesRepository "owner/name" = true := by decide

theorem unknownStatus_inRange : 100 ≤ 600 ∧ 600 ≤ 999 := by decide

def unknownStatusCall : CreateRefCall where
  request := ⟨"owner/name", "refs/heads/vone-canary/one", String.ofList (List.replicate 40 'a'),
    matchesRepository_ownerName⟩
  outcome := .answered 600 unknownStatus_inRange .empty
  room := 0

/-- An outcome can stay unclassified. -/
theorem createRef_unclassified : ¬∀ (sha256 : Sha256) (transport : GitHubApiCreateRefTransport)
    (calls : List CreateRefCall), ∀ exchange ∈ life sha256 transport calls,
      exchange.sent.isSome → ∃! cls, EndsIn exchange.call exchange.answer cls := by
  intro claim
  obtain ⟨later, lived, -⟩ :=
    life_unused sampleDigest ⟨"token", false⟩ rfl unknownStatusCall []
  have ends := claim sampleDigest ⟨"token", false⟩ [unknownStatusCall] _
    (lived ▸ List.mem_cons_self) rfl
  have outcome : unknownStatusCall.outcome = .answered 600 unknownStatus_inRange .empty := rfl
  have known := (endsIn_of_status outcome (by decide)).mp ends.exists
  exact absurd known (by decide)

end VoodooOne
