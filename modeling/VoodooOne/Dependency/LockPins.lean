import VoodooOne.Dependency.Snapshot

/-!
# Pins of a lock

A lock is parsed when the pattern finds pins in it that do not conflict.  Its pins are the ones that
it states as long as no line is misread and every skipped line repeats a pin of another line.
-/

namespace VoodooOne.Dependency

open Checkpoint (isLineBreak universalNewlines)

/-- White space inside a line. -/
def isGap (character : Char) : Bool := character == ' ' || character == '\t'

def isVersionCharacter (character : Char) : Bool :=
  character.isAlphanum || ['.', '+', '!', '-', '_', '*'].contains character

/-- A line that pins a package: white space before the name, extras, white space around `==`, the
version, and what follows, which is white space, a marker or a continuation. -/
structure Requirement where
  (indent name : List Char)
  extras : Option (List Char)
  (before after version tail : List Char)
  named : (∃ first rest, name = first :: rest ∧ first.isAlphanum = true) ∧
    ∀ character ∈ name, isNameCharacter character = true
  gaps : ∀ character ∈ indent ++ (before ++ after), isGap character = true
  versioned : version ≠ [] ∧ ∀ character ∈ version, isVersionCharacter character = true
  followed : tail.head? ∈ [none, some ' ', some '\t', some ';', some '\\']

/-- An option: its name, and a value after a blank or an equals sign. -/
def IsOption (body : List Char) : Prop :=
  ∃ name rest, body = '-' :: name ++ rest ∧ (∀ character ∈ name, isNameCharacter character = true) ∧
    (rest.head? ∈ [none, some ' '] ∨ ∃ value, rest = '=' :: value ∧ value.head? ≠ some '=')

/-- A line that pins nothing: it is blank, a comment, the marker that continues another line, or an
option such as a hash. -/
def Filler (line : List Char) : Prop :=
  ∃ indent body, line = indent ++ body ∧ (∀ character ∈ indent, isGap character = true) ∧
    (body.head? ∈ [none, some '#', some ';', some '\\'] ∨ IsOption body)

inductive LockLine where
  | requirement (requirement : Requirement)
  | filler (line : List Char) (fills : Filler line)

namespace Requirement

def remainder (requirement : Requirement) : List Char :=
  (requirement.extras.elim [] fun extras => '[' :: (extras ++ [']'])) ++ (requirement.before ++
    '=' :: '=' :: (requirement.after ++ requirement.version ++ requirement.tail))

def text (requirement : Requirement) : List Char :=
  requirement.indent ++ (requirement.name ++ requirement.remainder)

/-- The package and the version that the line pins. -/
def pin (requirement : Requirement) : String × String :=
  (String.ofList (normalizeName requirement.name), String.ofList requirement.version)

/-- The pattern does not match the line: white space stands before the name or `==`, a blank stands
after it, or the name has extras. -/
def Skipped (requirement : Requirement) : Prop :=
  requirement.indent ≠ [] ∨ requirement.extras ≠ none ∨ requirement.before ≠ [] ∨
    requirement.after.head? = some ' '

/-- The pattern matches more than the version: a tab before it, or a tab or a marker right after. -/
def Misread (requirement : Requirement) : Prop :=
  ¬requirement.Skipped ∧ (requirement.after ≠ [] ∨ requirement.tail.head? ∈ [some '\t', some ';'])

end Requirement

def LockLine.text : LockLine → List Char
  | requirement pinned => pinned.text
  | filler line _ => line

def LockLine.requirement? : LockLine → Option Requirement
  | requirement pinned => some pinned
  | filler _ _ => none

/-- A lock file: a text, and the lines that it consists of. -/
structure LockFile where
  content : List Char
  lines : List LockLine
  split : Lines.split isLineBreak (universalNewlines content) = lines.map LockLine.text

/-- The lines of a lock that pin a package. -/
def LockFile.requirements (lock : LockFile) : List Requirement :=
  lock.lines.filterMap LockLine.requirement?

theorem takeWhile_append_of_all {front rest : List Char} {inside : Char → Bool}
    (all : ∀ character ∈ front, inside character = true)
    (ends : ∀ character, rest.head? = some character → inside character = false) :
    (front ++ rest).takeWhile inside = front ∧ (front ++ rest).dropWhile inside = rest := by
  induction front with
  | nil =>
      cases rest with
      | nil => exact ⟨rfl, rfl⟩
      | cons first rest =>
          have outside := ends first rfl
          simp [outside]
  | cons first front induction =>
      obtain ⟨own, later⟩ := List.forall_mem_cons.mp all
      simp [own, induction later]

theorem not_nameCharacter_of_isGap {character : Char} (gap : isGap character = true) :
    isNameCharacter character = false ∧ character ≠ '=' := by
  rcases (Bool.or_eq_true _ _).mp gap with space | tab
  · rw [eq_of_beq space]
    decide
  · rw [eq_of_beq tab]
    decide

theorem endsNoVersion_of_isVersionCharacter {character : Char}
    (inside : isVersionCharacter character = true) :
    endsNoVersion character = true ∧ character ≠ '\t' ∧ character ≠ ';' := by
  have outside : isVersionCharacter ' ' = false ∧ isVersionCharacter '\\' = false ∧
      isVersionCharacter '\t' = false ∧ isVersionCharacter ';' = false := by decide
  have other {excluded : Char} (never : isVersionCharacter excluded = false) :
      character ≠ excluded := by
    rintro rfl
    rw [never] at inside
    exact Bool.false_ne_true inside
  obtain ⟨space, backslash, tab, semicolon⟩ := outside
  refine ⟨?_, other tab, other semicolon⟩
  rw [endsNoVersion, Bool.and_eq_true, bne_iff_ne, bne_iff_ne]
  exact ⟨other space, other backslash⟩

theorem matchPin_nameless {line : List Char}
    (nameless : ∀ character, line.head? = some character → isNameCharacter character = false) :
    matchPin line = none := by
  have untaken : line.takeWhile isNameCharacter = [] := by
    cases line with
    | nil => rfl
    | cons first line => simp [nameless first rfl]
  unfold matchPin
  split
  · rw [if_pos (.inl untaken)]
  · rfl

theorem matchPin_indented {gap : Char} (isGap : isGap gap = true) (line : List Char) :
    matchPin (gap :: line) = none := by
  refine matchPin_nameless ?_
  rintro _ ⟨⟩
  exact (not_nameCharacter_of_isGap isGap).1

theorem matchPin_filler {line : List Char} (fills : Filler line) : matchPin line = none := by
  obtain ⟨indent, body, rfl, gaps, fills⟩ := fills
  cases indent with
  | cons gap indent => exact matchPin_indented (gaps gap List.mem_cons_self) _
  | nil =>
  rw [List.nil_append]
  rcases fills with nameless | ⟨name, rest, rfl, named, follows⟩
  · refine matchPin_nameless fun character head => ?_
    simp only [head, List.mem_cons, List.not_mem_nil, or_false, reduceCtorEq, false_or,
      Option.some.injEq] at nameless
    rcases nameless with rfl | rfl | rfl <;> decide
  · have ends : ∀ character, rest.head? = some character → isNameCharacter character = false := by
      intro character head
      rcases follows with blank | ⟨value, rfl, -⟩
      · simp only [head, List.mem_cons, List.not_mem_nil, or_false, reduceCtorEq, false_or,
          Option.some.injEq] at blank
        rw [blank]
        decide
      · cases head
        decide
    have all : ∀ character ∈ '-' :: name, isNameCharacter character = true :=
      List.forall_mem_cons.mpr ⟨by decide, named⟩
    rw [matchPin, (takeWhile_append_of_all all ends).2]
    split
    · rcases follows with blank | ⟨value, same, single⟩
      · simp at blank
      · cases same
        exact absurd rfl single
    · rfl

namespace Requirement

variable (requirement : Requirement)

theorem not_isNil_name : requirement.name ≠ [] := by
  obtain ⟨⟨first, rest, same, -⟩, -⟩ := requirement.named
  rw [same]
  exact List.cons_ne_nil _ _

theorem gaps_around :
    ∀ character ∈ requirement.before ++ requirement.after, isGap character = true :=
  fun _ member => requirement.gaps _ (List.mem_append_right _ member)

/-- What the pattern finds in a line that it does not skip. -/
theorem found_ne_nil (read : ¬requirement.Skipped) :
    (requirement.after ++ requirement.version ++ requirement.tail).takeWhile endsNoVersion ≠
      [] := by
  simp only [Skipped, not_or] at read
  have start (first : Char) (rest : List Char) (taken : endsNoVersion first = true) :
      (first :: rest).takeWhile endsNoVersion ≠ [] := by
    rw [List.takeWhile_cons_of_pos taken]
    exact List.cons_ne_nil _ _
  have gaps := requirement.gaps_around
  have noSpace := read.2.2.2
  revert gaps noSpace
  cases requirement.after with
  | nil =>
      intro _ _
      obtain ⟨nonempty, characters⟩ := requirement.versioned
      obtain ⟨first, rest, same⟩ := List.exists_cons_of_ne_nil nonempty
      rw [same] at characters ⊢
      exact start first _ (endsNoVersion_of_isVersionCharacter
        (characters first List.mem_cons_self)).1
  | cons first rest =>
      intro gaps noSpace
      have gap := gaps first (List.mem_append_right _ List.mem_cons_self)
      rcases (Bool.or_eq_true _ _).mp gap with space | tab
      · exact absurd (congrArg some (eq_of_beq space)) noSpace
      · rw [eq_of_beq tab]
        exact start _ _ (by decide)

theorem head_remainder {character : Char} (first : requirement.remainder.head? = some character) :
    isNameCharacter character = false := by
  have gaps := requirement.gaps_around
  rw [remainder] at first
  revert gaps first
  cases requirement.extras with
  | some extras =>
      rintro ⟨⟩ _
      decide
  | none =>
      cases requirement.before with
      | nil =>
          rintro ⟨⟩ _
          decide
      | cons gap rest =>
          rintro ⟨⟩ gaps
          exact (not_nameCharacter_of_isGap (gaps _ List.mem_cons_self)).1

/-- A line that is not skipped yields its name, and the version as far as no blank and no backslash
ends it. -/
theorem matchPin_text_of_read (read : ¬requirement.Skipped) :
    matchPin requirement.text = some (requirement.name,
      (requirement.after ++ requirement.version ++ requirement.tail).takeWhile endsNoVersion) := by
  obtain ⟨taken, dropped⟩ :=
    takeWhile_append_of_all requirement.named.2 fun _ => requirement.head_remainder
  have found := requirement.found_ne_nil read
  simp only [Skipped, not_or, not_not] at read
  have rest : requirement.remainder =
      '=' :: '=' :: (requirement.after ++ requirement.version ++ requirement.tail) := by
    rw [remainder, read.2.1, read.2.2.1]
    rfl
  rw [matchPin, text, read.1, List.nil_append, taken, dropped, rest]
  exact if_neg (not_or.mpr ⟨requirement.not_isNil_name, found⟩)

theorem matchPin_text_of_skipped (skipped : requirement.Skipped) :
    matchPin requirement.text = none := by
  obtain ⟨-, dropped⟩ :=
    takeWhile_append_of_all requirement.named.2 fun _ => requirement.head_remainder
  cases indent : requirement.indent with
  | cons gap rest =>
      rw [text, indent]
      exact matchPin_indented (requirement.gaps gap (by simp [indent])) _
  | nil =>
  rw [matchPin, text, indent, List.nil_append, dropped, remainder]
  have skipped := skipped.resolve_left (not_not.mpr indent)
  have gaps := requirement.gaps_around
  revert gaps skipped
  cases requirement.extras with
  | some extras =>
      intro _ _
      rfl
  | none =>
      cases requirement.before with
      | cons gap rest =>
          intro _ gaps
          have other := (not_nameCharacter_of_isGap (gaps _ List.mem_cons_self)).2
          simp [other]
      | nil =>
          intro skipped _
          have space := (skipped.resolve_left (not_not.mpr rfl)).resolve_left (not_not.mpr rfl)
          obtain ⟨rest, same⟩ : ∃ rest, requirement.after = ' ' :: rest := by
            revert space
            cases requirement.after with
            | nil => rintro ⟨⟩
            | cons first rest =>
                rintro ⟨⟩
                exact ⟨rest, rfl⟩
          rw [same]
          exact if_pos (.inr rfl)

theorem matchPin_text_of_exact (read : ¬requirement.Skipped) (exact : ¬requirement.Misread) :
    matchPin requirement.text = some (requirement.name, requirement.version) := by
  rw [requirement.matchPin_text_of_read read]
  have plain : requirement.after = [] ∧ requirement.tail.head? ∉ [some '\t', some ';'] := by
    by_contra other
    exact exact ⟨read, by tauto⟩
  have all : ∀ character ∈ requirement.version, endsNoVersion character = true := fun _ member =>
    (endsNoVersion_of_isVersionCharacter (requirement.versioned.2 _ member)).1
  have ends : ∀ character, requirement.tail.head? = some character →
      endsNoVersion character = false := by
    intro character first
    have followed := requirement.followed
    rw [first] at followed plain
    simp only [List.mem_cons, List.not_mem_nil, or_false, reduceCtorEq, false_or,
      Option.some.injEq, not_or] at followed plain
    rcases followed with rfl | tab | semicolon | rfl
    · decide
    · exact absurd tab plain.2.1
    · exact absurd semicolon plain.2.2
    · decide
  rw [plain.1, List.nil_append, (takeWhile_append_of_all all ends).1]

theorem matchPin_text_of_misread (misread : requirement.Misread) :
    ∃ version, matchPin requirement.text = some (requirement.name, version) ∧
      ∃ character ∈ version, isVersionCharacter character = false := by
  obtain ⟨read, more⟩ := misread
  refine ⟨_, requirement.matchPin_text_of_read read, ?_⟩
  have gaps := requirement.gaps_around
  have tab : endsNoVersion '\t' = true ∧ isVersionCharacter '\t' = false := by decide
  have semicolon : endsNoVersion ';' = true ∧ isVersionCharacter ';' = false := by decide
  simp only [Skipped, not_or] at read
  cases after : requirement.after with
  | cons first rest =>
      rw [after] at gaps read
      have gap := gaps first (List.mem_append_right _ List.mem_cons_self)
      rcases (Bool.or_eq_true _ _).mp gap with space | isTab
      · exact absurd (congrArg some (eq_of_beq space)) read.2.2.2
      · rw [eq_of_beq isTab, List.cons_append, List.cons_append,
          List.takeWhile_cons_of_pos tab.1]
        exact ⟨'\t', List.mem_cons_self, tab.2⟩
  | nil =>
      have beyond := more.resolve_left (not_not.mpr after)
      have all : ∀ character ∈ requirement.version, endsNoVersion character = true :=
        fun _ member => (endsNoVersion_of_isVersionCharacter (requirement.versioned.2 _ member)).1
      obtain ⟨first, rest, same, own⟩ : ∃ first rest, requirement.tail = first :: rest ∧
          endsNoVersion first = true ∧ isVersionCharacter first = false := by
        revert beyond
        cases requirement.tail with
        | nil => simp
        | cons first rest =>
            intro beyond
            simp only [List.head?_cons, List.mem_cons, List.not_mem_nil, or_false,
              Option.some.injEq] at beyond
            rcases beyond with rfl | rfl
            · exact ⟨_, _, rfl, tab⟩
            · exact ⟨_, _, rfl, semicolon⟩
      refine ⟨first, ?_, own.2⟩
      rw [List.nil_append, same, List.takeWhile_append_of_pos all, List.takeWhile_cons_of_pos own.1]
      exact List.mem_append_right _ List.mem_cons_self

end Requirement

/-- No name is pinned to two versions. -/
def Functional (pins : Pins) : Prop :=
  ∀ one ∈ pins, ∀ other ∈ pins, one.1 = other.1 → one.2 = other.2

variable {pins : Pins} {number : Nat} {lines : List (List Char)} {file : String}

theorem Functional.of_keyed (keyed : Table.Keyed Prod.fst pins) : Functional pins :=
  fun _ found _ there same => congrArg Prod.snd (keyed.unique found there same)

theorem Functional.congr {left right : Pins} (same : ∀ pin, pin ∈ left ↔ pin ∈ right) :
    Functional left ↔ Functional right := by
  simp only [Functional, same]

theorem lookup_eq_some (keyed : Table.Keyed Prod.fst pins) {name version : String} :
    pins.lookup name = some version ↔ (name, version) ∈ pins := by
  constructor
  · intro found
    obtain ⟨front, back, rfl, -⟩ := List.lookup_eq_some_iff.mp found
    exact List.mem_append_right _ List.mem_cons_self
  · intro member
    cases found : pins.lookup name with
    | none =>
        have absent := List.lookup_eq_none_iff.mp found (name, version) member
        simp at absent
    | some other =>
        obtain ⟨front, back, rfl, -⟩ := List.lookup_eq_some_iff.mp found
        have same := keyed.unique member (List.mem_append_right _ List.mem_cons_self) rfl
        exact congrArg some (congrArg Prod.snd same).symm

theorem ne_of_lookup_eq_none {name : String} (fresh : pins.lookup name = none) :
    ∀ pin ∈ pins, pin.1 ≠ name := by
  intro pin member same
  have absent := List.lookup_eq_none_iff.mp fresh pin member
  simp [same] at absent

theorem addPin_eq_ok {file name version : String} {pins result : Pins} :
    addPin file number pins name version = .ok result ↔
      (pins.lookup name = none ∧ result = pins ++ [(name, version)]) ∨
      (pins.lookup name = some version ∧ result = pins) := by
  unfold addPin
  cases pins.lookup name with
  | none => simp [eq_comm]
  | some existing =>
      simp only [bind_eq_ok, raiseIf_eq_ok, not_not, pure_eq_ok, exists_const, reduceCtorEq,
        false_and, false_or, Option.some.injEq]
      tauto

def pinOf (found : List Char × List Char) : String × String :=
  (String.ofList (normalizeName found.1), String.ofList found.2)

def foundPins (lines : List (List Char)) : Pins :=
  lines.filterMap fun line => (matchPin line).map pinOf

theorem foundPins_cons (line : List Char) (lines : List (List Char)) :
    foundPins (line :: lines) = ((matchPin line).map pinOf).toList ++ foundPins lines := by
  cases found : matchPin line with
  | none => exact List.filterMap_cons_none (by rw [found]; rfl)
  | some pin => exact List.filterMap_cons_some (by rw [found]; rfl)

theorem parsePins_cons {line : List Char} {pin : List Char × List Char}
    (found : matchPin line = some pin) :
    parsePins file number (line :: lines) pins =
      addPin file number pins (pinOf pin).1 (pinOf pin).2 >>=
        parsePins file (number + 1) lines := by
  rw [parsePins]
  simp only [found]
  rfl

theorem parsePins_cons_none {line : List Char} (found : matchPin line = none) :
    parsePins file number (line :: lines) pins = parsePins file (number + 1) lines pins := by
  rw [parsePins]
  simp only [found]

/-- The loop keeps the pins that it has and adds those it finds. -/
theorem parsePins_spec {pins result : Pins} (keyed : Table.Keyed Prod.fst pins)
    (parsed : parsePins file number lines pins = .ok result) :
    Table.Keyed Prod.fst result ∧ ∀ pin, pin ∈ result ↔ pin ∈ pins ∨ pin ∈ foundPins lines := by
  induction lines generalizing number pins with
  | nil =>
      cases parsed
      exact ⟨keyed, fun pin => by simp [foundPins]⟩
  | cons line lines induction =>
      rw [foundPins_cons]
      cases found : matchPin line with
      | none =>
          rw [parsePins_cons_none found] at parsed
          exact induction keyed parsed
      | some pin =>
          rw [parsePins_cons found, bind_eq_ok] at parsed
          obtain ⟨next, added, parsed⟩ := parsed
          rcases addPin_eq_ok.mp added with ⟨fresh, rfl⟩ | ⟨known, rfl⟩
          · obtain ⟨distinct, members⟩ :=
              induction (keyed.append (ne_of_lookup_eq_none fresh)) parsed
            refine ⟨distinct, fun other => (members other).trans ?_⟩
            simp [or_assoc]
          · obtain ⟨distinct, members⟩ := induction keyed parsed
            have own : pinOf pin ∈ next := (lookup_eq_some keyed).mp known
            refine ⟨distinct, fun other => (members other).trans ?_⟩
            simp only [Option.map_some, Option.toList_some, List.singleton_append, List.mem_cons]
            constructor
            · exact Or.imp_right .inr
            · rintro (old | rfl | later)
              · exact .inl old
              · exact .inl own
              · exact .inr later

/-- The loop ends exactly when no pins conflict. -/
theorem parsePins_ok_iff (keyed : Table.Keyed Prod.fst pins) :
    (∃ result, parsePins file number lines pins = .ok result) ↔
      Functional (pins ++ foundPins lines) := by
  constructor
  · rintro ⟨result, parsed⟩
    obtain ⟨distinct, members⟩ := parsePins_spec keyed parsed
    refine (Functional.congr fun pin => ?_).mp (Functional.of_keyed distinct)
    rw [members, List.mem_append]
  · intro functional
    induction lines generalizing number pins with
    | nil => exact ⟨pins, rfl⟩
    | cons line lines induction =>
        rw [foundPins_cons] at functional
        cases found : matchPin line with
        | none =>
            rw [found] at functional
            rw [parsePins_cons_none found]
            exact induction keyed functional
        | some pin =>
            rw [found, Option.map_some, Option.toList_some] at functional
            rw [parsePins_cons found]
            have here : pinOf pin ∈ pins ++ ([pinOf pin] ++ foundPins lines) :=
              List.mem_append_right _ List.mem_cons_self
            cases known : pins.lookup (pinOf pin).1 with
            | none =>
                rw [addPin_eq_ok.mpr (.inl ⟨known, rfl⟩), ok_bind]
                rw [← List.append_assoc] at functional
                exact induction (keyed.append (ne_of_lookup_eq_none known)) functional
            | some version =>
                have member := (lookup_eq_some keyed).mp known
                have same : version = (pinOf pin).2 := functional _
                  (List.mem_append_left _ member) _ here rfl
                rw [addPin_eq_ok.mpr (.inr ⟨same ▸ known, rfl⟩), ok_bind]
                refine induction keyed fun one oneFound other otherFound => ?_
                have kept {row : String × String} (found : row ∈ pins ++ foundPins lines) :
                    row ∈ pins ++ ([pinOf pin] ++ foundPins lines) :=
                  (List.mem_append.mp found).elim (List.mem_append_left _) fun later =>
                    List.mem_append_right _ (List.mem_append_right _ later)
                exact functional one (kept oneFound) other (kept otherFound)

/-- A version with a character that no version has. -/
def Improper (pin : String × String) : Prop :=
  ∃ character ∈ pin.2.toList, isVersionCharacter character = false

namespace LockFile

/-- The pins that the pattern finds in the lines of a lock. -/
def read (lock : LockFile) : Pins :=
  lock.requirements.filterMap fun requirement => (matchPin requirement.text).map pinOf

def pinned (lock : LockFile) : Pins := lock.requirements.map Requirement.pin

/-- A line that is not skipped states a pin. -/
def States (lock : LockFile) (pin : String × String) : Prop :=
  ∃ requirement ∈ lock.requirements, ¬requirement.Skipped ∧ requirement.pin = pin

/-- No line is misread. -/
def Clear (lock : LockFile) : Prop := ∀ requirement ∈ lock.requirements, ¬requirement.Misread

variable {lock : LockFile} {file : String} {pins : Pins} {pin : String × String}

theorem foundPins_content :
    foundPins (Lines.split isLineBreak (universalNewlines lock.content)) = lock.read := by
  have lines (lines : List LockLine) : foundPins (lines.map LockLine.text) =
      (lines.filterMap LockLine.requirement?).filterMap fun requirement =>
        (matchPin requirement.text).map pinOf := by
    induction lines with
    | nil => rfl
    | cons line lines induction =>
        rw [List.map_cons, foundPins_cons, induction]
        cases line with
        | requirement pinned =>
            cases found : matchPin pinned.text with
            | none => simp [LockLine.text, LockLine.requirement?, found]
            | some pin => simp [LockLine.text, LockLine.requirement?, found]
        | filler text fills =>
            rw [List.filterMap_cons_none (by rfl), LockLine.text, matchPin_filler fills]
            rfl
  rw [lock.split, lines]
  rfl

theorem parseLock_spec (parsed : parseLock file lock.content = .ok pins) :
    Table.Keyed Prod.fst pins ∧ ∀ pin, pin ∈ pins ↔ pin ∈ lock.read := by
  simp only [parseLock, bind_eq_ok, raiseIf_eq_ok, pure_eq_ok] at parsed
  obtain ⟨_, looped, _, -, rfl⟩ := parsed
  obtain ⟨keyed, members⟩ := parsePins_spec Table.keyed_nil looped
  refine ⟨keyed, fun pin => (members pin).trans ?_⟩
  rw [foundPins_content]
  simp

/-- A lock is parsed when pins are found and do not conflict. -/
theorem parseLock_ok_iff : (∃ pins, parseLock file lock.content = .ok pins) ↔
    Functional lock.read ∧ lock.read ≠ [] := by
  have loop : (∃ pins, parsePins file 1
      (Lines.split isLineBreak (universalNewlines lock.content)) [] = .ok pins) ↔
      Functional lock.read := by
    rw [parsePins_ok_iff Table.keyed_nil, foundPins_content, List.nil_append]
  have empty {pins : Pins} (looped : parsePins file 1
      (Lines.split isLineBreak (universalNewlines lock.content)) [] = .ok pins) :
      pins = [] ↔ lock.read = [] := by
    have members := (parsePins_spec Table.keyed_nil looped).2
    simp only [foundPins_content, List.not_mem_nil, false_or] at members
    simp only [List.eq_nil_iff_forall_not_mem, members]
  simp only [parseLock, bind_eq_ok, raiseIf_eq_ok, pure_eq_ok]
  constructor
  · rintro ⟨_, pins, looped, _, nonempty, -⟩
    exact ⟨loop.mp ⟨pins, looped⟩, mt (empty looped).mpr nonempty⟩
  · rintro ⟨functional, nonempty⟩
    obtain ⟨pins, looped⟩ := loop.mpr functional
    exact ⟨pins, pins, looped, (), mt (empty looped).mp nonempty, rfl⟩

theorem mem_read : pin ∈ lock.read ↔ ∃ requirement ∈ lock.requirements, ∃ found,
    matchPin requirement.text = some found ∧ pinOf found = pin := by
  simp only [read, List.mem_filterMap, Option.map_eq_some_iff]

theorem mem_read_of_states (states : lock.States pin) (clear : lock.Clear) : pin ∈ lock.read := by
  obtain ⟨requirement, listed, read, rfl⟩ := states
  exact mem_read.mpr ⟨requirement, listed, _,
    requirement.matchPin_text_of_exact read (clear requirement listed), rfl⟩

/-- The pattern finds what the lines state that it does not skip. -/
theorem mem_read_iff_states (clear : lock.Clear) : pin ∈ lock.read ↔ lock.States pin := by
  refine ⟨fun found => ?_, fun states => mem_read_of_states states clear⟩
  obtain ⟨requirement, listed, match', matched, rfl⟩ := mem_read.mp found
  have read : ¬requirement.Skipped := by
    intro skipped
    rw [requirement.matchPin_text_of_skipped skipped] at matched
    cases matched
  rw [requirement.matchPin_text_of_exact read (clear requirement listed)] at matched
  cases matched
  exact ⟨requirement, listed, read, rfl⟩

/-- The pattern finds an improper version exactly when a line is misread. -/
theorem clear_iff : lock.Clear ↔ ∀ pin ∈ lock.read, ¬Improper pin := by
  constructor
  · rintro clear pin found ⟨character, inside, improper⟩
    obtain ⟨requirement, -, -, rfl⟩ := (mem_read_iff_states clear).mp found
    rw [Requirement.pin, String.toList_ofList] at inside
    rw [requirement.versioned.2 character inside] at improper
    exact Bool.false_ne_true improper.symm
  · intro proper requirement listed misread
    obtain ⟨version, matched, character, inside, improper⟩ :=
      requirement.matchPin_text_of_misread misread
    refine proper _ (mem_read.mpr ⟨requirement, listed, _, matched, rfl⟩) ⟨character, ?_, improper⟩
    rw [pinOf, String.toList_ofList]
    exact inside

theorem not_improper_of_pinned (pinned : pin ∈ lock.pinned) : ¬Improper pin := by
  obtain ⟨requirement, -, rfl⟩ := List.mem_map.mp pinned
  rintro ⟨character, inside, improper⟩
  rw [Requirement.pin, String.toList_ofList] at inside
  rw [requirement.versioned.2 character inside] at improper
  exact Bool.false_ne_true improper.symm

theorem States.pinned (states : lock.States pin) : pin ∈ lock.pinned := by
  obtain ⟨requirement, listed, -, rfl⟩ := states
  exact List.mem_map_of_mem listed

/-- The pattern finds exactly the pins of a lock when no line is misread and every skipped line
repeats a pin of a line that is not skipped. -/
theorem read_exact_iff : (∀ pin, pin ∈ lock.read ↔ pin ∈ lock.pinned) ↔
    lock.Clear ∧ ∀ pin ∈ lock.pinned, lock.States pin := by
  constructor
  · intro same
    have clear : lock.Clear :=
      clear_iff.mpr fun pin found => not_improper_of_pinned ((same pin).mp found)
    exact ⟨clear, fun pin pinned => (mem_read_iff_states clear).mp ((same pin).mpr pinned)⟩
  · rintro ⟨clear, stated⟩ pin
    rw [mem_read_iff_states clear]
    exact ⟨States.pinned, stated pin⟩

end LockFile

end VoodooOne.Dependency
