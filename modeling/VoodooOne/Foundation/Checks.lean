import Mathlib.Data.List.DropRight
import VoodooOne.Foundation.Exceptions
import VoodooOne.Foundation.Json
import VoodooOne.Library.Calendar

/-!
# Field checks

Contract objects check each of their attributes when they are built.  An attribute is a JSON
value, because contracts are also read back from stored payloads whose fields may have any type.
-/

namespace VoodooOne

open Calendar

/-- White space as `str.strip` removes it. -/
def isSpace (character : Char) : Bool :=
  let code := character.toNat
  (9 ≤ code && code ≤ 13) || (28 ≤ code && code ≤ 32) || code == 0x85 || code == 0xa0 ||
    code == 0x1680 || (0x2000 ≤ code && code ≤ 0x200a) || code == 0x2028 || code == 0x2029 ||
    code == 0x202f || code == 0x205f || code == 0x3000

/-- The text without white space at its ends. -/
def strip (text : String) : String :=
  String.ofList ((text.toList.dropWhile isSpace).reverse.dropWhile isSpace).reverse

theorem toList_toLower (text : String) : text.toLower.toList = text.toList.map Char.toLower :=
  String.toList_map

/-- A text field is nonempty, has no white space at its ends and no NUL character. -/
def ValidText (text : String) : Prop :=
  text ≠ "" ∧ text = strip text ∧ Char.ofNat 0 ∉ text.toList

instance : DecidablePred ValidText := fun text =>
  inferInstanceAs (Decidable (text ≠ "" ∧ text = strip text ∧ Char.ofNat 0 ∉ text.toList))

/-- A digest is 64 lowercase hexadecimal characters. -/
def IsDigest (text : String) : Prop :=
  text.length = 64 ∧ ∀ character ∈ text.toList, character ∈ "0123456789abcdef".toList

instance : DecidablePred IsDigest := fun text =>
  @instDecidableAnd _ _ (instDecidableEqNat text.length 64)
    (List.decidableBAll (· ∈ "0123456789abcdef".toList) text.toList)

/-- The `ValueError` of a failed check. -/
def valueError (message : String) : Raised := ⟨.valueError, message⟩

def requireText (value : Json) (field : String) : Except Raised String :=
  match value with
  | .str text => if ValidText text then .ok text else .error (valueError (field ++ " is invalid"))
  | _ => .error (valueError (field ++ " is invalid"))

/-- `_require_digest`; hexadecimal characters are their own case folding. -/
def requireDigest (value : Json) (field : String) : Except Raised String := do
  let text ← requireText value field
  raiseIf (¬IsDigest text) (valueError (field ++ " must be a lowercase SHA-256 digest"))
  return text

/-- `_require_timestamp`: the text must be the canonical rendering of a moment. -/
def requireTimestamp (value : Json) (field : String) : Except Raised Instant := do
  let text ← requireText value field
  orRaise (valueError (field ++ " must use canonical UTC millisecond form"))
    (Instant.ofIsoformat? text)

/-- `_require_epoch`: a truth value is not an integer. -/
def requireEpoch (value : Json) (field : String) : Except Raised Int :=
  match value with
  | .int number =>
      if number < 1 then .error (valueError (field ++ " must be an integer >= 1")) else .ok number
  | _ => .error (valueError (field ++ " must be an integer >= 1"))

variable {value : Json} {fields : List (String × String)}

theorem requireText_eq_ok {field text : String} :
    requireText value field = .ok text ↔ value = .str text ∧ ValidText text := by
  unfold requireText
  split
  · rename_i found
    by_cases valid : ValidText found
    · simp only [valid, if_true, Except.ok.injEq, Json.str.injEq]
      constructor
      · rintro rfl
        exact ⟨rfl, valid⟩
      · exact fun same => same.1
    · simp only [valid, if_false, reduceCtorEq, Json.str.injEq, false_iff, not_and]
      rintro rfl
      exact valid
  · rename_i other
    simp only [reduceCtorEq, false_iff, not_and]
    rintro rfl
    exact absurd rfl (other text)

/-- A digest has no white space and no NUL character. -/
theorem validText_of_isDigest {text : String} (digest : IsDigest text) : ValidText text := by
  have plain : ("0123456789abcdef".toList.all fun character =>
      !isSpace character && character != Char.ofNat 0) = true := by decide
  have characters : ∀ character ∈ text.toList,
      isSpace character = false ∧ character ≠ Char.ofNat 0 := by
    intro character member
    simpa using List.all_eq_true.mp plain character (digest.2 character member)
  have kept : ∀ remaining : List Char, (∀ character ∈ remaining, isSpace character = false) →
      remaining.dropWhile isSpace = remaining := by
    intro remaining noSpace
    rw [List.dropWhile_eq_self_iff]
    intro nonempty
    simp [noSpace _ (List.getElem_mem nonempty)]
  refine ⟨?_, ?_, fun nul => (characters _ nul).2 rfl⟩
  · rintro rfl
    exact absurd digest.1 (by decide)
  · rw [strip, kept _ fun character member => (characters character member).1,
      kept _ fun character member => (characters character (List.mem_reverse.mp member)).1,
      List.reverse_reverse, String.ofList_toList]

def repeatedDigit (digit : Char) : String := String.ofList (List.replicate 64 digit)

theorem isDigest_repeatedDigit {digit : Char}
    (hexadecimal : digit ∈ "0123456789abcdef".toList) : IsDigest (repeatedDigit digit) := by
  refine ⟨?_, fun character member => ?_⟩
  · rw [repeatedDigit, String.length_ofList, List.length_replicate]
  · rw [repeatedDigit, String.toList_ofList] at member
    rw [List.eq_of_mem_replicate member]
    exact hexadecimal

theorem requireDigest_eq_ok {field text : String} : requireDigest value field = .ok text ↔
      value = .str text ∧ ValidText text ∧ IsDigest text := by
  simp only [requireDigest, bind_eq_ok, requireText_eq_ok, raiseIf_eq_ok, pure_eq_ok, not_not]
  constructor
  · rintro ⟨_, ⟨rfl, valid⟩, _, digest, rfl⟩
    exact ⟨rfl, valid, digest⟩
  · rintro ⟨rfl, valid, digest⟩
    exact ⟨text, ⟨rfl, valid⟩, (), digest, rfl⟩

theorem requireTimestamp_eq_ok {field : String} {instant : Instant} :
    requireTimestamp value field = .ok instant ↔
      value = .str instant.isoformat ∧ ValidText instant.isoformat := by
  simp only [requireTimestamp, bind_eq_ok, requireText_eq_ok, orRaise_eq_ok,
    Instant.ofIsoformat?_eq_some]
  constructor
  · rintro ⟨_, ⟨rfl, valid⟩, rfl⟩
    exact ⟨rfl, valid⟩
  · rintro ⟨rfl, valid⟩
    exact ⟨_, ⟨rfl, valid⟩, rfl⟩

theorem requireEpoch_eq_ok {field : String} {epoch : Int} :
    requireEpoch value field = .ok epoch ↔ value = .int epoch ∧ 1 ≤ epoch := by
  unfold requireEpoch
  split
  · split
    · simp only [reduceCtorEq, Json.int.injEq, false_iff, not_and]
      omega
    · simp only [Except.ok.injEq, Json.int.injEq]
      omega
  · rename_i other
    simp only [reduceCtorEq, false_iff, not_and]
    rintro rfl
    exact absurd rfl (other epoch)

/-- The loop of `_require_digest` over the fields of an object. -/
def requireDigestFields (fields : List (String × String)) : Except Raised Unit :=
  forEach (fun named => do let _ ← requireDigest (.str named.2) named.1) fields

/-- The loop of `_require_text` over the fields of an object. -/
def requireTextFields (fields : List (String × String)) : Except Raised Unit :=
  forEach (fun named => do let _ ← requireText (.str named.2) named.1) fields

theorem requireDigestFields_eq_ok {result : Unit} :
    requireDigestFields fields = .ok result ↔ ∀ named ∈ fields, IsDigest named.2 := by
  simp only [requireDigestFields, forEach_eq_ok, bind_eq_ok, requireDigest_eq_ok, pure_eq_ok,
    Json.str.injEq]
  constructor
  · rintro passed named member
    obtain ⟨text, ⟨rfl, -, digest⟩, -⟩ := passed named member
    exact digest
  · exact fun digests named member =>
      ⟨_, ⟨rfl, validText_of_isDigest (digests named member), digests named member⟩, trivial⟩

theorem requireTextFields_eq_ok {result : Unit} :
    requireTextFields fields = .ok result ↔ ∀ named ∈ fields, ValidText named.2 := by
  simp only [requireTextFields, forEach_eq_ok, bind_eq_ok, requireText_eq_ok, pure_eq_ok,
    Json.str.injEq]
  constructor
  · rintro passed named member
    obtain ⟨text, ⟨rfl, valid⟩, -⟩ := passed named member
    exact valid
  · exact fun valid named member => ⟨_, ⟨rfl, valid named member⟩, trivial⟩

theorem requireTextFields_eq_error {raised : Raised} : requireTextFields fields = .error raised ↔
      ∃ named, fields.find? (fun named => ¬ValidText named.2) = some named ∧
        raised = valueError (named.1 ++ " is invalid") := by
  induction fields with
  | nil => simp [requireTextFields, forEach]
  | cons first rest induction =>
      by_cases valid : ValidText first.2
      · have read : requireText (.str first.2) first.1 = .ok first.2 := if_pos valid
        have passed : requireTextFields (first :: rest) = requireTextFields rest := by
          rw [requireTextFields, forEach, read]
          rfl
        rw [passed, induction]
        simp [valid]
      · have read : requireText (.str first.2) first.1 =
            .error (valueError (first.1 ++ " is invalid")) := if_neg valid
        have refused : requireTextFields (first :: rest) =
            .error (valueError (first.1 ++ " is invalid")) := by
          rw [requireTextFields, forEach, read]
          rfl
        simp [refused, valid, eq_comm]

abbrev Attributes := String → Json

namespace Attributes

/-- The text of an attribute that has been checked to be one. -/
def text (self : Attributes) (field : String) : String := ((self field).text?).getD ""

/-- The integer of an attribute that has been checked to be one. -/
def int (self : Attributes) (field : String) : Int :=
  match self field with
  | .int value => value
  | _ => 0

@[simp] theorem text_of_str {self : Attributes} {field value : String}
    (same : self field = .str value) : self.text field = value := by
  simp [text, same, Json.text?]

@[simp] theorem int_of_int {self : Attributes} {field : String} {value : Int}
    (same : self field = .int value) : self.int field = value := by
  simp [int, same]

end Attributes

/-- A list of names as `repr` shows it. -/
def reprNames (names : List String) : String :=
  "[" ++ String.intercalate ", " (names.map fun name => "'" ++ name ++ "'") ++ "]"

/-- Names in the order of `sorted`. -/
def sortedNames (names : List String) : List String := names.insertionSort (· ≤ ·)

/-- `_require_exact_fields`: a payload is an object with exactly the expected keys. -/
def requireExactFields (value : Json) (expected : List String) (contract : String) :
    Except Raised Unit := do
  let actual ← orRaise (valueError (contract ++ " must be an object")) value.keys
  raiseIf (¬((∀ key ∈ actual, key ∈ expected) ∧ ∀ key ∈ expected, key ∈ actual))
    (valueError (contract ++ " fields are invalid; missing=" ++
      reprNames (sortedNames (expected.filter (· ∉ actual))) ++ ", unknown=" ++
      reprNames (sortedNames (actual.filter (· ∉ expected)))))

theorem requireExactFields_object {fields : List (String × Json)} {contract : String} :
    requireExactFields (Json.object fields) (fields.map Prod.fst) contract = .ok () := by
  obtain ⟨keys, found, perm⟩ := Json.keys_object fields
  simp only [requireExactFields, bind_eq_ok, orRaise_eq_ok, raiseIf_eq_ok, not_not]
  exact ⟨keys, found, fun key member => perm.mem_iff.mp member,
    fun key member => perm.mem_iff.mpr member⟩

end VoodooOne
