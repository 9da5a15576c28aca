import VoodooOne.Foundation.JsonRoundTrip

/-!
# Targets and approvals

An execution target and the approvals of a request are values under digests of their own.  A value
that was created is written as a payload and read back unchanged.
-/

namespace VoodooOne

open Calendar

/-- A letter, followed by up to 255 letters, digits and characters of `punctuation`. -/
def matchesName (punctuation : String) (text : String) : Bool :=
  match text.toList with
  | [] => false
  | first :: rest => first.isAlpha && decide (rest.length ≤ 255) &&
      rest.all fun character => character.isAlphanum || punctuation.toList.contains character

/-- A lowercase letter or a digit. -/
def isLowerAlphanum (character : Char) : Bool := character.isLower || character.isDigit

/-- `_CAPABILITY_PATTERN`: parts between `.`, `_` and `-`, then a version from 1 on. -/
def matchesCapability (text : String) : Bool :=
  match text.toList.splitOn '/' with
  | [name, 'v' :: first :: rest] =>
      (name.head?.any Char.isLower) &&
        (name.splitOnP fun character => ['.', '_', '-'].contains character).all
          (fun part => !part.isEmpty && part.all isLowerAlphanum) &&
        first.isDigit && first != '0' && rest.all Char.isDigit
  | _ => false

def requireMatch (pattern : String → Bool) (value : Json) (field : String) :
    Except Raised String := do
  let text ← requireText value field
  raiseIf (pattern text = false) (valueError (field ++ " is invalid"))
  return text

def requireIdentifier (value : Json) (field : String) : Except Raised String :=
  requireMatch (matchesName "._:-") value field

def requirePolicyVersion (value : Json) : Except Raised String :=
  requireMatch (matchesName "._:/-") value "policy_version"

def requireCapability (value : Json) : Except Raised String :=
  requireMatch matchesCapability value "capability"

/-- `_require_digest`, on a value that need not be a text field. -/
def requireHexDigest (value : Json) (field : String) : Except Raised String :=
  match value with
  | .str text =>
      if IsDigest text then .ok text
      else .error (valueError (field ++ " must be a lowercase SHA-256 digest"))
  | _ => .error (valueError (field ++ " must be a lowercase SHA-256 digest"))

theorem requireMatch_eq_ok {pattern : String → Bool} {value : Json} {field text : String} :
    requireMatch pattern value field = .ok text ↔
      value = .str text ∧ ValidText text ∧ pattern text = true := by
  simp only [requireMatch, bind_eq_ok, requireText_eq_ok, raiseIf_eq_ok, pure_eq_ok,
    Bool.not_eq_false]
  constructor
  · rintro ⟨_, ⟨rfl, valid⟩, _, matched, rfl⟩
    exact ⟨rfl, valid, matched⟩
  · rintro ⟨rfl, valid, matched⟩
    exact ⟨text, ⟨rfl, valid⟩, (), matched, rfl⟩

theorem requireHexDigest_eq_ok {value : Json} {field text : String} :
    requireHexDigest value field = .ok text ↔ value = .str text ∧ IsDigest text := by
  unfold requireHexDigest
  split
  · next found =>
    by_cases digest : IsDigest found
    · simp only [digest, if_true, Except.ok.injEq, Json.str.injEq]
      constructor
      · rintro rfl
        exact ⟨rfl, digest⟩
      · exact fun same => same.1
    · simp only [digest, if_false, reduceCtorEq, Json.str.injEq, false_iff, not_and]
      rintro rfl
      exact digest
  · next other =>
    simp only [reduceCtorEq, false_iff, not_and]
    rintro rfl
    exact absurd rfl (other text)

/-- `_require_json_value`, with the number of levels that are still allowed. -/
def requireJsonValue (field : String) : Nat → Json → Except Raised Unit
  | 0, _ => .error (valueError (field ++ " exceeds the nesting limit"))
  | remaining + 1, .arr items => forEach (requireJsonValue field remaining) items
  | remaining + 1, .obj fields =>
      forEach (fun entry => requireJsonValue field remaining entry.2) fields
  | _ + 1, .float _ => .error (valueError (field ++ " contains an unsupported JSON value"))
  | _ + 1, _ => .ok ()

/-- A value at the top has 32 levels below it. -/
def jsonLevels : Nat := 33

theorem requireJsonValue_normal {field : String} {remaining : Nat} {value : Json}
    (passed : requireJsonValue field remaining value = .ok ()) :
    requireJsonValue field remaining value.normal = .ok () := by
  induction remaining generalizing value with
  | zero => cases passed
  | succ remaining induction =>
      cases value with
      | arr items =>
          rw [requireJsonValue, forEach_eq_ok] at passed
          rw [Json.normal, Json.normalItems_eq_map, requireJsonValue, forEach_eq_ok]
          intro item member
          obtain ⟨item, there, rfl⟩ := List.mem_map.mp member
          exact induction (passed item there)
      | obj fields =>
          rw [requireJsonValue, forEach_eq_ok] at passed
          rw [Json.normal, Json.normalFields_eq_map, Json.object, requireJsonValue, forEach_eq_ok]
          intro entry member
          obtain ⟨entry, there, rfl⟩ := List.mem_map.mp
            ((List.mem_insertionSort Json.keyLe).mp member)
          exact induction (passed entry there)
      | _ => exact passed

theorem Json.sorted_again (fields : List (String × Json)) :
    (fields.insertionSort keyLe).insertionSort keyLe = fields.insertionSort keyLe := by
  have total : Std.Total keyLe := ⟨fun left right => le_total left.1 right.1⟩
  have trans : IsTrans (String × Json) keyLe := ⟨fun _ _ _ first second => le_trans first second⟩
  exact (List.pairwise_insertionSort keyLe fields).insertionSort_eq

theorem Json.normal_of_levels {field : String} {remaining : Nat} {value : Json}
    (passed : requireJsonValue field remaining value = .ok ()) :
    value.normal.normal = value.normal := by
  induction remaining generalizing value with
  | zero => cases passed
  | succ remaining induction =>
      cases value with
      | arr items =>
          rw [requireJsonValue, forEach_eq_ok] at passed
          rw [normal, normalItems_eq_map, normal, normalItems_eq_map, List.map_map]
          exact congrArg Json.arr (List.map_congr_left fun item member =>
            induction (passed item member))
      | obj fields =>
          rw [requireJsonValue, forEach_eq_ok] at passed
          have again : ((fields.insertionSort keyLe).map fun entry => (entry.1, entry.2.normal)).map
              (fun entry => (entry.1, entry.2.normal)) =
                (fields.insertionSort keyLe).map fun entry => (entry.1, entry.2.normal) := by
            rw [List.map_map]
            refine List.map_congr_left fun entry member => ?_
            have same := induction (passed entry ((List.mem_insertionSort keyLe).mp member))
            exact congrArg (Prod.mk entry.1) same
          rw [normal, normalFields_eq_map, object, sort_map_fields, normal, normalFields_eq_map,
            again, object, sort_map_fields, sorted_again]
      | _ => rfl

theorem Json.normal_object_of_texts {fields : List (String × Json)}
    (texts : ∀ field ∈ fields, ∃ text, field.2 = .str text) :
    (object fields).normal = object fields := by
  have kept : (fields.insertionSort keyLe).map (fun entry => (entry.1, entry.2.normal)) =
      fields.insertionSort keyLe := by
    refine (List.map_congr_left fun entry member => ?_).trans (List.map_id _)
    obtain ⟨text, isText⟩ := texts entry ((List.mem_insertionSort keyLe).mp member)
    have same : entry.2.normal = entry.2 := by
      rw [isText]
      simp only [normal]
    exact congrArg (Prod.mk entry.1) same
  rw [object, normal, normalFields_eq_map, kept, object, sorted_again]

/-- `ExecutionTarget`; the claims are kept as the value that their canonical text is read as. -/
structure ExecutionTarget where
  targetKind : String
  targetClaims : Json
  targetDigest : String
deriving DecidableEq

namespace ExecutionTarget

def claimFields (target : ExecutionTarget) : List (String × Json) :=
  [("schema_version", .int 1), ("target_type", .str "execution-target/v1"),
    ("target_kind", .str target.targetKind), ("target_claims", target.targetClaims)]

def fields (target : ExecutionTarget) : List (String × Json) :=
  target.claimFields ++ [("target_digest", .str target.targetDigest)]

def toDict (target : ExecutionTarget) : Json := .object target.fields

def create (sha256 : String → String) (targetKind : String) (targetClaims : Json) :
    Except Raised ExecutionTarget := do
  let targetKind ← requireIdentifier (.str targetKind) "target_kind"
  let _ ← orRaise (valueError "target_claims must be an object") targetClaims.keys
  requireJsonValue "target_claims" jsonLevels targetClaims
  let draft : ExecutionTarget := ⟨targetKind, targetClaims.normal, ""⟩
  let targetDigest ← requireHexDigest (.str (digestOf sha256 (.object draft.claimFields)))
    "target_digest"
  return { draft with targetDigest }

def fromDict (sha256 : String → String) (value : Json) : Except Raised ExecutionTarget := do
  requireExactFields value
    ["schema_version", "target_type", "target_kind", "target_claims", "target_digest"]
    "execution-target/v1"
  raiseIf (value.get "schema_version" ≠ .int 1) (valueError "schema_version is unsupported")
  raiseIf (value.get "target_type" ≠ .str "execution-target/v1")
    (valueError "target_type is unsupported")
  let targetKind ← requireIdentifier (value.get "target_kind") "target_kind"
  let target ← create sha256 targetKind (value.get "target_claims")
  let suppliedDigest ← requireHexDigest (value.get "target_digest") "target_digest"
  raiseIf (suppliedDigest ≠ target.targetDigest)
    (valueError "target_digest does not match target claims")
  return target

variable {sha256 : String → String} {targetKind : String} {targetClaims : Json}
  {target : ExecutionTarget}

def Created (sha256 : String → String) (target : ExecutionTarget) : Prop :=
  ∃ targetKind targetClaims, create sha256 targetKind targetClaims = .ok target

theorem create_eq_ok : create sha256 targetKind targetClaims = .ok target ↔
    (ValidText targetKind ∧ matchesName "._:-" targetKind = true) ∧
      (∃ keys, targetClaims.keys = some keys) ∧
      requireJsonValue "target_claims" jsonLevels targetClaims = .ok () ∧
      ∃ digest, digest = digestOf sha256
          (.object (claimFields ⟨targetKind, targetClaims.normal, ""⟩)) ∧ IsDigest digest ∧
        target = ⟨targetKind, targetClaims.normal, digest⟩ := by
  simp only [create, requireIdentifier, bind_eq_ok, requireMatch_eq_ok, Json.str.injEq,
    orRaise_eq_ok, requireHexDigest_eq_ok, pure_eq_ok]
  constructor
  · rintro ⟨_, ⟨rfl, valid⟩, keys, isObject, _, passed, digest, ⟨rfl, isDigest⟩, rfl⟩
    exact ⟨valid, ⟨keys, isObject⟩, passed, _, rfl, isDigest, rfl⟩
  · rintro ⟨valid, ⟨keys, isObject⟩, passed, digest, rfl, isDigest, rfl⟩
    exact ⟨targetKind, ⟨rfl, valid⟩, keys, isObject, (), passed, _, ⟨rfl, isDigest⟩, rfl⟩

theorem Created.again (created : target.Created sha256) :
    create sha256 target.targetKind target.targetClaims = .ok target := by
  obtain ⟨targetKind, targetClaims, created⟩ := created
  obtain ⟨valid, ⟨keys, isObject⟩, passed, digest, rfl, isDigest, rfl⟩ := create_eq_ok.mp created
  have same := Json.normal_of_levels passed
  refine create_eq_ok.mpr ⟨valid, ?_, requireJsonValue_normal passed, _, ?_, isDigest, ?_⟩
  · cases targetClaims with
    | obj fields => exact ⟨_, rfl⟩
    | _ => cases isObject
  · rw [same]
  · rw [same]

theorem Created.fromDict_toDict (created : target.Created sha256) :
    fromDict sha256 target.toDict = .ok target := by
  have again := created.again
  obtain ⟨⟨valid, matched⟩, -, -, digest, same, isDigest, whole⟩ := create_eq_ok.mp again
  have distinct : (target.fields.map Prod.fst).Nodup := by
    rw [show target.fields.map Prod.fst = ["schema_version", "target_type", "target_kind",
      "target_claims", "target_digest"] from rfl]
    decide
  have get (entry : String × Json) (member : entry ∈ target.fields) :
      target.toDict.get entry.1 = entry.2 := Json.get_object_of_mem distinct member
  have version := get ("schema_version", .int 1) (by simp [fields, claimFields])
  have type := get ("target_type", .str "execution-target/v1") (by simp [fields, claimFields])
  have kind := get ("target_kind", .str target.targetKind) (by simp [fields, claimFields])
  have claims := get ("target_claims", target.targetClaims) (by simp [fields, claimFields])
  have stored := get ("target_digest", .str target.targetDigest) (by simp [fields])
  simp only [fromDict, requireIdentifier, bind_eq_ok, raiseIf_eq_ok, not_not, requireMatch_eq_ok,
    requireHexDigest_eq_ok, pure_eq_ok]
  refine ⟨(), requireExactFields_object, (), version, (), type, target.targetKind,
    ⟨kind, valid, matched⟩, target, claims ▸ again, target.targetDigest, ⟨stored, ?_⟩, (), rfl, rfl⟩
  rw [whole]
  exact isDigest

end ExecutionTarget

end VoodooOne
