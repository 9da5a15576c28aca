import VoodooOne.Dependency.LockPins
import VoodooOne.Library.Merging
import VoodooOne.Library.Sorting

/-!
# Requirement manifests

A manifest pins packages, and includes other manifests.  It is parsed file by file, with one set of
the files that are being parsed; the pins of a lock must repeat its pins.
-/

namespace VoodooOne.Requirements

open Dependency (isNameCharacter normalizeName isSeparator lowerCharacter)

/-- `RequirementLockDriftError`. -/
def driftError (message : String) : Raised := ⟨.requirementLockDriftError, message⟩

/-- `[A-Za-z0-9._,-]`. -/
def isExtrasCharacter (character : Char) : Bool := isNameCharacter character || character == ','

/-- `[^\s\\]`. -/
def isVersionCharacter (character : Char) : Bool := !isSpace character && character != '\\'

/-- The groups of a match; the extras are without their brackets. -/
structure Match where
  name : List Char
  extras : Option (List Char)
  version : List Char
deriving DecidableEq

/-- The optional extras, and what follows them. -/
def matchExtras : List Char → Option (Option (List Char) × List Char)
  | '[' :: text =>
      match text.dropWhile isExtrasCharacter with
      | ']' :: rest =>
          if text.takeWhile isExtrasCharacter = [] then none
          else some (some (text.takeWhile isExtrasCharacter), rest)
      | _ => none
  | text => some (none, text)

/-- `==` and the version, and what follows it. -/
def matchVersion : List Char → Option (List Char × List Char)
  | '=' :: '=' :: text =>
      if text.takeWhile isVersionCharacter = [] then none
      else some (text.takeWhile isVersionCharacter, text.dropWhile isVersionCharacter)
  | _ => none

/-- `LOCK_PIN.match`: the pin that a line starts with, and what follows it. -/
def matchPin (line : List Char) : Option (Match × List Char) :=
  if (line.head?.any Char.isAlphanum) = false then none
  else
    (matchExtras (line.dropWhile isNameCharacter)).bind fun extras =>
      (matchVersion extras.2).map fun version =>
        (⟨line.takeWhile isNameCharacter, extras.1, version.1⟩, version.2)

/-- `EXACT_PIN.fullmatch`. -/
def matchExact (line : List Char) : Option Match :=
  match matchPin line with
  | some (found, []) => some found
  | _ => none

def extraItems (value : List Char) : List (List Char) :=
  (value.splitOn ',').map fun item => normalizeName (strip (String.ofList item)).toList

local instance charsLawful : LawfulBEq (List Char) := inferInstance

def normalizeExtras : Option (List Char) → Except Raised (List Char)
  | none => .ok []
  | some value =>
      let items := extraItems value
      if [] ∈ items then .error (driftError "requirement extras contain an empty value")
      else .ok ('[' :: List.intercalate [','] (items.insertionSort (· ≤ ·)) ++ [']'])

def requirementKey (found : Match) : Except Raised String := do
  let extras ← normalizeExtras found.extras
  return String.ofList (normalizeName found.name ++ extras)

namespace Match

/-- The groups are what the pattern allows. -/
structure WellFormed (found : Match) : Prop where
  name_head : (found.name.head?.any Char.isAlphanum) = true
  name_all : ∀ character ∈ found.name, isNameCharacter character = true
  extras_ne : found.extras ≠ some []
  extras_all : ∀ extras, found.extras = some extras →
    ∀ character ∈ extras, isExtrasCharacter character = true
  version_ne : found.version ≠ []
  version_all : ∀ character ∈ found.version, isVersionCharacter character = true

def text (found : Match) : List Char :=
  found.name ++ (found.extras.elim [] fun extras => '[' :: (extras ++ [']'])) ++
    '=' :: '=' :: found.version

end Match

theorem mem_collapse {inside : Bool} {text : List Char} {character : Char}
    (member : character ∈ Dependency.collapse inside text) :
    character = '-' ∨ character ∈ text := by
  induction text generalizing inside with
  | nil => cases member
  | cons first text induction =>
      rw [Dependency.collapse] at member
      split at member
      · split at member
        · exact (induction member).imp_right (List.mem_cons_of_mem _)
        · rcases List.mem_cons.mp member with rfl | later
          · exact .inl rfl
          · exact (induction later).imp_right (List.mem_cons_of_mem _)
      · rcases List.mem_cons.mp member with rfl | later
        · exact .inr List.mem_cons_self
        · exact (induction later).imp_right (List.mem_cons_of_mem _)

/-- A character that no lowercase letter is appears in a name if it appears in the normalized one.
-/
theorem mem_of_mem_normalizeName {special : Char} (separator : special ≠ '-')
    (letter : ∀ offset < 26, Char.ofNat (97 + offset) ≠ special) {value : List Char}
    (member : special ∈ normalizeName value) : special ∈ value := by
  obtain ⟨character, inside, lower⟩ := List.mem_map.mp member
  have same : character = special := by
    by_cases upper : 'A' ≤ character ∧ character ≤ 'Z'
    · obtain ⟨offset, small, -, known⟩ := Dependency.lowerCharacter_upper upper
      exact absurd (known.symm.trans lower) (letter offset small)
    · by_cases kelvin : character.toNat = 0x212a
      · rw [lowerCharacter, if_neg upper, if_pos kelvin] at lower
        exact absurd lower (letter 10 (by decide))
      · rwa [lowerCharacter, if_neg upper, if_neg kelvin] at lower
  subst same
  exact (mem_collapse inside).resolve_left separator

theorem mem_of_mem_strip {text : String} {character : Char}
    (member : character ∈ (strip text).toList) : character ∈ text.toList := by
  rw [strip, String.toList_ofList, List.mem_reverse] at member
  have kept := (List.dropWhile_suffix isSpace).subset member
  exact (List.dropWhile_suffix isSpace).subset (List.mem_reverse.mp kept)

theorem comma_not_mem_extraItems {value item : List Char} (member : item ∈ extraItems value) :
    ',' ∉ item := by
  obtain ⟨part, found, rfl⟩ := List.mem_map.mp member
  intro comma
  have plain := mem_of_mem_strip (mem_of_mem_normalizeName (by decide) (by decide) comma)
  rw [String.toList_ofList] at plain
  exact Lines.not_mem_of_mem_splitOn found plain

theorem bracket_not_mem_normalizeName {found : Match} (wellFormed : found.WellFormed) :
    '[' ∉ normalizeName found.name := by
  intro bracket
  have inside := mem_of_mem_normalizeName (by decide) (by decide) bracket
  have impossible := wellFormed.name_all _ inside
  exact absurd impossible (by decide)

/-- The normalized extras of a pin. -/
def Match.items (found : Match) : List (List Char) := found.extras.elim [] extraItems

def bracketed (items : List (List Char)) : List Char :=
  if items = [] then []
  else '[' :: List.intercalate [','] (items.insertionSort (· ≤ ·)) ++ [']']

theorem extraItems_ne_nil (value : List Char) : extraItems value ≠ [] :=
  mt List.map_eq_nil_iff.mp (List.splitOnP_ne_nil _ _)

theorem requirementKey_eq_ok {found : Match} {key : String} :
    requirementKey found = .ok key ↔ [] ∉ found.items ∧
      key = String.ofList (normalizeName found.name ++ bracketed found.items) := by
  obtain ⟨name, extras, version⟩ := found
  cases extras with
  | none =>
      simp only [requirementKey, normalizeExtras, ok_bind, pure_eq_ok, Match.items,
        Option.elim_none, List.not_mem_nil, not_false_eq_true, true_and, bracketed, if_true]
      exact eq_comm
  | some value =>
      rw [requirementKey, normalizeExtras, Match.items, Option.elim_some, bracketed,
        if_neg (extraItems_ne_nil value)]
      split
      · next empty => simp [empty]
      · next proper =>
        simp only [ok_bind, pure_eq_ok, proper, not_false_eq_true, true_and]
        exact eq_comm

theorem bracketed_perm {left right : List (List Char)} (perm : left.Perm right) :
    bracketed left = bracketed right := by
  by_cases none : left = []
  · subst none
    rw [perm.nil_eq]
  · have some : right ≠ [] := by
      rintro rfl
      exact none perm.eq_nil
    have sorted : left.insertionSort (· ≤ ·) = right.insertionSort (· ≤ ·) :=
      Sorting.insertionSort_eq_of_perm Function.injective_id perm
    rw [bracketed, bracketed, if_neg none, if_neg some, sorted]

theorem perm_of_bracketed {left right : List (List Char)}
    (plainLeft : ∀ item ∈ left, ',' ∉ item) (plainRight : ∀ item ∈ right, ',' ∉ item)
    (same : bracketed left = bracketed right) : left.Perm right := by
  unfold bracketed at same
  by_cases noneLeft : left = []
  · by_cases noneRight : right = []
    · rw [noneLeft, noneRight]
    · rw [if_pos noneLeft, if_neg noneRight] at same
      cases same
  · by_cases noneRight : right = []
    · rw [if_neg noneLeft, if_pos noneRight] at same
      cases same
    · rw [if_neg noneLeft, if_neg noneRight] at same
      have joined := List.append_cancel_right (List.cons.inj same).2
      have sortedLeft := List.perm_insertionSort (· ≤ ·) left
      have sortedRight := List.perm_insertionSort (· ≤ ·) right
      have split {items : List (List Char)} (nonempty : items ≠ [])
          (plain : ∀ item ∈ items, ',' ∉ item) :
          (List.intercalate [','] (items.insertionSort (· ≤ ·))).splitOn ',' =
            items.insertionSort (· ≤ ·) := by
        refine List.splitOn_intercalate ',' (fun item member => plain item ?_) fun none => ?_
        · exact (List.perm_insertionSort _ _).mem_iff.mp member
        · have perm := List.perm_insertionSort (· ≤ ·) items
          rw [none] at perm
          exact nonempty perm.nil_eq.symm
      have sorted : left.insertionSort (· ≤ ·) = right.insertionSort (· ≤ ·) := by
        rw [← split noneLeft plainLeft, ← split noneRight plainRight, joined]
      exact sortedLeft.symm.trans (sorted ▸ sortedRight)

/-- Two pins have one key exactly when their normalized names are the same and their normalized
extras are the same in some order. -/
theorem requirementKey_eq_iff {left right : Match} {leftKey rightKey : String}
    (leftForm : left.WellFormed) (rightForm : right.WellFormed)
    (leftKeyed : requirementKey left = .ok leftKey)
    (rightKeyed : requirementKey right = .ok rightKey) :
    leftKey = rightKey ↔
      normalizeName left.name = normalizeName right.name ∧ left.items.Perm right.items := by
  have plain (found : Match) : ∀ item ∈ found.items, ',' ∉ item := by
    obtain ⟨name, extras, version⟩ := found
    cases extras with
    | none => exact fun _ member => by cases member
    | some value => exact fun _ member => comma_not_mem_extraItems member
  obtain ⟨-, rfl⟩ := requirementKey_eq_ok.mp leftKeyed
  obtain ⟨-, rfl⟩ := requirementKey_eq_ok.mp rightKeyed
  constructor
  · intro same
    have texts := String.ofList_injective same
    have ends (items : List (List Char)) : ∀ character, (bracketed items).head? = some character →
        decide (character ≠ '[') = false := by
      intro character head
      unfold bracketed at head
      split at head
      · cases head
      · cases head
        rfl
    have all {found : Match} (wellFormed : found.WellFormed) :
        ∀ character ∈ normalizeName found.name, decide (character ≠ '[') = true := by
      intro character member
      refine decide_eq_true ?_
      rintro rfl
      exact bracket_not_mem_normalizeName wellFormed member
    have leftParts := Dependency.takeWhile_append_of_all (all leftForm) (ends left.items)
    have rightParts := Dependency.takeWhile_append_of_all (all rightForm) (ends right.items)
    refine ⟨?_, perm_of_bracketed (plain left) (plain right) ?_⟩
    · rw [← leftParts.1, ← rightParts.1, texts]
    · rw [← leftParts.2, ← rightParts.2, texts]
  · rintro ⟨names, perm⟩
    rw [names, bracketed_perm perm]

open Checkpoint (isLineBreak universalNewlines)

/-- A pure path: what it starts with (nothing, one slash or two) and its parts. -/
structure Path where
  anchor : String
  parts : List String
deriving DecidableEq

namespace Path

/-- `str(path)`. -/
def str (path : Path) : String :=
  if path.anchor = "" ∧ path.parts = [] then "." else path.anchor ++ "/".intercalate path.parts

def parent (path : Path) : Path := ⟨path.anchor, path.parts.dropLast⟩

/-- The parts of a text; empty ones and single dots are dropped. -/
def partsOf (text : List Char) : List String :=
  ((text.splitOn '/').filter fun part => part ≠ [] ∧ part ≠ ['.']).map String.ofList

/-- `path / text`. -/
def join (path : Path) : List Char → Path
  | '/' :: '/' :: '/' :: text => ⟨"/", partsOf text⟩
  | '/' :: '/' :: text => ⟨"//", partsOf text⟩
  | '/' :: text => ⟨"/", partsOf text⟩
  | text => ⟨path.anchor, path.parts ++ partsOf text⟩

def Below (path root : Path) : Prop := path.anchor = root.anchor ∧ root.parts <+: path.parts

instance (path root : Path) : Decidable (path.Below root) :=
  inferInstanceAs (Decidable (path.anchor = root.anchor ∧ root.parts <+: path.parts))

/-- `path.relative_to(root)`. -/
def relativeTo (path root : Path) : Except Raised Path :=
  if path.Below root then .ok ⟨"", path.parts.drop root.parts.length⟩
  else .error (valueError (path.str ++ " is not in the subpath of " ++ root.str))

end Path

/-- A file system with finitely many files that can be read. -/
structure FileSystem where
  /-- `path.resolve()`. -/
  resolve : Path → Except Raised Path
  /-- The bytes of a file. -/
  readBytes : Path → Except Raised ByteArray
  files : List Path
  finite : ∀ path content, readBytes path = .ok content → path ∈ files

namespace FileSystem

variable (fs : FileSystem)

/-- `path.read_text(encoding="utf-8").splitlines()`. -/
def readLines (path : Path) : Except Raised (List (List Char)) := do
  let content ← fs.readBytes path
  let text ← orRaise ⟨.unicodeDecodeError, "'utf-8' codec can't decode"⟩ (String.fromUTF8? content)
  return Lines.split isLineBreak (universalNewlines text.toList)

def confinedPath (root candidate : Path) : Except Raised Path := do
  let resolvedRoot ← fs.resolve root
  let resolved ← fs.resolve candidate
  raiseIf (¬resolved.Below resolvedRoot)
    (driftError ("requirements include escapes repository root: " ++ candidate.str))
  return resolved

end FileSystem

/-- The pins of a manifest or a lock: keys and versions. -/
abbrev Pins := List (String × String)

def place (file : Path) (number : Nat) (problem : String) : Raised :=
  driftError (file.str ++ ":" ++ toString number ++ ": " ++ problem)

/-- The text of a line that includes a file. -/
def includeOf (line : List Char) : Option (List Char) :=
  if "-r ".toList <+: line then
    some (strip (String.ofList (line.drop 3))).toList
  else if "--requirement ".toList <+: line then
    some (strip (String.ofList (line.drop 14))).toList
  else none

/-- Why a parser stops without a result. -/
inductive Halt where
  | exhausted
  | raised (error : Raised)

def step {α : Type} (body : Except Raised α) : Except Halt α := body.mapError .raised

section Parser

-- `repr` of a line
variable (repr : List Char → String)

/-- The pins of a line that includes a file; the parser of files also returns the active set. -/
def parseInclude (parse : Path → List Path → Except Halt (Pins × List Path)) (file : Path)
    (number : Nat) (text : List Char) (pins : Pins) (active : List Path) :
    Except Halt (Pins × List Path) := do
  step (raiseIf (text = []) (place file number "empty requirements include"))
  let nested ← parse (file.parent.join text) active
  let pins ← step (Merging.merge (fun key => place file number ("conflicting pin for " ++ key))
    pins nested.1)
  return (pins, nested.2)

def parsePin (file : Path) (number : Nat) (line : List Char) (pins : Pins) :
    Except Raised Pins := do
  let found ← orRaise (place file number ("unsupported requirement syntax: " ++ repr line))
    (matchExact line)
  let key ← requirementKey found
  Merging.assign (fun key => place file number ("conflicting pin for " ++ key)) pins key
    (String.ofList found.version)

/-- One line of `_parse_manifest`. -/
def parseLine (parse : Path → List Path → Except Halt (Pins × List Path)) (file : Path)
    (number : Nat) (line : List Char) (pins : Pins) (active : List Path) :
    Except Halt (Pins × List Path) :=
  if line = [] ∨ line.head? = some '#' then .ok (pins, active)
  else
    match includeOf line with
    | some text => parseInclude parse file number text pins active
    | none => (step (parsePin repr file number line pins)).map fun pins => (pins, active)

/-- The loop of `_parse_manifest`. -/
def parseLines (parse : Path → List Path → Except Halt (Pins × List Path)) (file : Path) :
    Nat → List (List Char) → Pins → List Path → Except Halt (Pins × List Path)
  | _, [], pins, active => .ok (pins, active)
  | number, raw :: lines, pins, active => do
      let state ← parseLine repr parse file number (strip (String.ofList raw)).toList pins active
      parseLines parse file (number + 1) lines state.1 state.2

/-- `_parse_manifest`, with the active set before and after; the number bounds the nested calls. -/
def parseManifest (fs : FileSystem) (root : Path) :
    Nat → Path → List Path → Except Halt (Pins × List Path)
  | 0, _, _ => .error .exhausted
  | fuel + 1, path, active => do
      let resolved ← step (fs.confinedPath root path)
      step (raiseIf (resolved ∈ active)
        (driftError ("requirements include cycle: " ++ resolved.str)))
      let lines ← step (fs.readLines resolved)
      let result ← parseLines repr (parseManifest fs root fuel) resolved 1 lines []
        (resolved :: active)
      step (raiseIf (resolved ∉ result.2) ⟨.keyError, resolved.str⟩)
      return (result.1, result.2.erase resolved)

end Parser

/-- A line of a lock that is neither blank nor indented nor a comment. -/
def isTopLevel (raw : List Char) : Bool :=
  match raw with
  | [] => false
  | first :: _ => !isSpace first && first != '#'

/-- The loop of `_parse_lock`. -/
def parseLockLines (file : Path) : Nat → List (List Char) → Pins → Except Raised Pins
  | _, [], pins => .ok pins
  | number, raw :: lines, pins =>
      match (if isTopLevel raw then matchPin raw else none) with
      | none => parseLockLines file (number + 1) lines pins
      | some found => do
          let key ← requirementKey found.1
          let pins ← Merging.assign
            (fun key => place file number ("duplicate lock pin for " ++ key)) pins key
            (String.ofList found.1.version)
          parseLockLines file (number + 1) lines pins

def parseLock (fs : FileSystem) (root path : Path) : Except Raised Pins := do
  let resolved ← fs.confinedPath root path
  let lines ← fs.readLines resolved
  parseLockLines resolved 1 lines []

/-- A requirement whose versions differ. -/
structure Mismatch where
  (requirement manifestVersion lockVersion : String)

/-- What `check_pair` reports. -/
structure Report where
  (manifest lock : String)
  requiredPinCount : Nat
  missing : List String
  mismatched : List Mismatch
  ok : Bool

def sortedKeys (pins : Pins) : List String := (pins.map Prod.fst).insertionSort (· ≤ ·)

def missing (required locked : Pins) : List String :=
  sortedKeys (required.filter fun pin => (locked.lookup pin.1).isNone)

/-- The requirements that a lock has with another version. -/
def mismatched (required locked : Pins) : List Mismatch :=
  (sortedKeys required).filterMap fun key =>
    (required.lookup key).bind fun version =>
      (locked.lookup key).bind fun other =>
        if version = other then none else some ⟨key, version, other⟩

def reportOf (manifest lock : Path) (required locked : Pins) : Report where
  manifest := manifest.str
  lock := lock.str
  requiredPinCount := required.length
  missing := missing required locked
  mismatched := mismatched required locked
  ok := (missing required locked).isEmpty && (mismatched required locked).isEmpty

def checkPair (repr : List Char → String) (fs : FileSystem) (fuel : Nat)
    (manifest lock root : Path) : Except Halt Report := do
  let required ← parseManifest repr fs root fuel manifest []
  let locked ← step (parseLock fs root lock)
  let manifestName ← step (manifest.relativeTo root)
  let lockName ← step (lock.relativeTo root)
  return reportOf manifestName lockName required.1 locked

end VoodooOne.Requirements
