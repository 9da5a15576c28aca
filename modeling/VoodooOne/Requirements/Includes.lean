import Mathlib.Logic.Relation
import VoodooOne.Requirements.Manifest

/-!
# Includes

The files that a manifest includes, directly or through others, and what they contain.  The parser
of
a manifest returns exactly when these files can be read, no file includes itself and their pins do
not conflict; the set of files that are being parsed only guards against cycles.
-/

namespace VoodooOne.Requirements

open Relation (ReflTransGen TransGen)
open Merging (Functional)

section Step

variable {α : Type} {body : Except Raised α} {value : α}

@[simp] theorem step_eq_ok : step body = .ok value ↔ body = .ok value := by
  cases body <;> simp [step, Except.mapError]

theorem step_ne_exhausted : step body ≠ .error .exhausted := by
  cases body <;> simp [step, Except.mapError]

theorem bind_ne_exhausted {β : Type} {first : Except Halt α} {next : α → Except Halt β}
    (ends : first ≠ .error .exhausted)
    (later : ∀ value, first = .ok value → next value ≠ .error .exhausted) :
    (first >>= next) ≠ .error .exhausted := by
  cases first with
  | ok value => exact later value rfl
  | error halt =>
      cases halt with
      | exhausted => exact absurd rfl ends
      | raised error => exact fun absurd => by cases absurd

end Step

inductive Entry where
  | filler
  | includes (text : List Char)
  | pin (pin : String × String)

/-- A blank line, a comment, an include or an exact pin. -/
def entry? (line : List Char) : Option Entry :=
  if line = [] ∨ line.head? = some '#' then some .filler
  else
    match includeOf line with
    | some text => if text = [] then none else some (.includes text)
    | none =>
        match matchExact line with
        | some found =>
            match requirementKey found with
            | .ok key => some (.pin (key, String.ofList found.version))
            | .error _ => none
        | none => none

namespace FileSystem

variable (fs : FileSystem) (root : Path)

/-- A line of a file, without the white space around it. -/
def HasLine (file : Path) (line : List Char) : Prop :=
  ∃ lines, fs.readLines file = .ok lines ∧ ∃ raw ∈ lines, (strip (String.ofList raw)).toList = line

def Includes (file target : Path) : Prop :=
  ∃ text, (∃ line, fs.HasLine file line ∧ entry? line = some (.includes text)) ∧
    fs.confinedPath root (file.parent.join text) = .ok target

def States (file : Path) (pin : String × String) : Prop :=
  ∃ line, fs.HasLine file line ∧ entry? line = some (.pin pin)

/-- A file can be read and contains only blank lines, comments, exact pins, and includes of paths
below the root. -/
def Lawful (file : Path) : Prop :=
  (∃ lines, fs.readLines file = .ok lines) ∧ ∀ line, fs.HasLine file line →
    ∃ entry, entry? line = some entry ∧ ∀ text, entry = .includes text →
      ∃ target, fs.confinedPath root (file.parent.join text) = .ok target

/-- A file is included, directly or through others. -/
def Reaches (start file : Path) : Prop := ReflTransGen (fs.Includes root) start file

def Gathers (start : Path) (pin : String × String) : Prop :=
  ∃ file, fs.Reaches root start file ∧ fs.States file pin

/-- The files that are not being parsed. -/
def idle (active : List Path) : Nat := (fs.files.filter fun file => file ∉ active).length

variable {fs root} {active : List Path} {start file target : Path}

theorem idle_lt {lines : List (List Char)} (read : fs.readLines file = .ok lines)
    (fresh : file ∉ active) : fs.idle (file :: active) < fs.idle active := by
  have listed : file ∈ fs.files := by
    simp only [readLines, bind_eq_ok] at read
    obtain ⟨content, bytes, -⟩ := read
    exact fs.finite _ _ bytes
  have narrowed : (fs.files.filter fun other => other ∉ file :: active) =
      (fs.files.filter fun other => other ∉ active).filter fun other => other ≠ file := by
    rw [List.filter_filter]
    refine List.filter_congr fun other _ => ?_
    simp [not_or]
  rw [idle, idle, narrowed, List.length_filter_lt_length_iff_exists]
  exact ⟨file, List.mem_filter.mpr ⟨listed, by simpa using fresh⟩, by simp⟩

theorem idle_le : fs.idle active ≤ fs.files.length := List.length_filter_le _ _

theorem Reaches.head_cases (reached : fs.Reaches root start file) :
    file = start ∨ ∃ child, fs.Includes root start child ∧ fs.Reaches root child file :=
  (Relation.ReflTransGen.cases_head reached).imp_left Eq.symm

theorem gathers_iff {pin : String × String} : fs.Gathers root start pin ↔
    fs.States start pin ∨ ∃ child, fs.Includes root start child ∧ fs.Gathers root child pin := by
  constructor
  · rintro ⟨file, reached, states⟩
    rcases reached.head_cases with rfl | ⟨child, includes, reached⟩
    · exact .inl states
    · exact .inr ⟨child, includes, file, reached, states⟩
  · rintro (states | ⟨child, includes, file, reached, states⟩)
    · exact ⟨start, ReflTransGen.refl, states⟩
    · exact ⟨file, ReflTransGen.head includes reached, states⟩

end FileSystem

section Loop

variable {repr : List Char → String} {parse : Path → List Path → Except Halt (Pins × List Path)}
  {file : Path} {number : Nat} {line : List Char} {lines : List (List Char)}
  {pins result after : Pins} {active left : List Path}

def contribution (parse : Path → List Path → Except Halt (Pins × List Path)) (file : Path)
    (active : List Path) (line : List Char) : Option Pins :=
  match entry? line with
  | some .filler => some []
  | some (.includes text) =>
      match parse (file.parent.join text) active with
      | .ok nested => some nested.1
      | .error _ => none
  | some (.pin pin) => some [pin]
  | none => none

def conflict (file : Path) (number : Nat) (key : String) : Raised :=
  place file number ("conflicting pin for " ++ key)

theorem merge_singleton (pin : String × String) : Merging.merge (conflict file number) pins [pin] =
      Merging.assign (conflict file number) pins pin.1 pin.2 := by
  rw [Merging.merge]
  cases Merging.assign (conflict file number) pins pin.1 pin.2 <;> rfl

theorem parsePin_eq_ok : parsePin repr file number line pins = .ok result ↔
    ∃ found key, matchExact line = some found ∧ requirementKey found = .ok key ∧
      Merging.merge (conflict file number) pins [(key, String.ofList found.version)] =
        .ok result := by
  simp only [parsePin, bind_eq_ok, orRaise_eq_ok, merge_singleton, exists_and_left]
  rfl

/-- A line is parsed exactly when it adds pins that can be merged, if nested parsers restore the
active set. -/
theorem parseLine_eq_ok
    (restores : ∀ path nested, parse path active = .ok nested → nested.2 = active) :
    parseLine repr parse file number line pins active = .ok (result, left) ↔
      left = active ∧ ∃ added, contribution parse file active line = some added ∧
        Merging.merge (conflict file number) pins added = .ok result := by
  by_cases filler : line = [] ∨ line.head? = some '#'
  · have entry : entry? line = some .filler := by rw [ entry?, if_pos filler]
    simp only [parseLine, if_pos filler, contribution, entry, Except.ok.injEq, Prod.mk.injEq,
      Option.some.injEq, exists_eq_left', Merging.merge]
    exact and_comm.trans (and_congr_left' eq_comm)
  · cases included : includeOf line with
    | some text =>
        simp only [parseLine, if_neg filler, included, parseInclude, bind_eq_ok, step_eq_ok,
          raiseIf_eq_ok, pure_eq_ok, contribution, entry?]
        by_cases empty : text = []
        · simp [empty]
        · simp only [if_neg empty]
          constructor
          · rintro ⟨_, -, nested, parsed, merged, kept, same⟩
            cases same
            refine ⟨restores _ _ parsed, nested.1, ?_, kept⟩
            rw [parsed]
          · rintro ⟨rfl, added, contributes, merged⟩
            split at contributes
            · next nested parsed =>
              cases contributes
              have kept := restores _ _ parsed
              exact ⟨(), empty, nested, parsed, result, merged, by rw [kept]⟩
            · cases contributes
    | none =>
        have own : parseLine repr parse file number line pins active = .ok (result, left) ↔
            left = active ∧ parsePin repr file number line pins = .ok result := by
          simp only [parseLine, if_neg filler, included]
          cases parsePin repr file number line pins <;>
            simp [step, Except.mapError, Except.map, and_comm, eq_comm]
        rw [own, parsePin_eq_ok, contribution, entry?, if_neg filler, included]
        refine and_congr_right fun _ => ?_
        constructor
        · rintro ⟨found, key, matched, keyed, merged⟩
          exact ⟨_, by simp only [matched, keyed], merged⟩
        · rintro ⟨added, contributes, merged⟩
          cases matched : matchExact line with
          | none => simp [matched] at contributes
          | some found =>
              cases keyed : requirementKey found with
              | error error => simp [matched, keyed] at contributes
              | ok key =>
                  simp only [matched, keyed, Option.some.injEq] at contributes
                  subst contributes
                  exact ⟨found, key, rfl, keyed, merged⟩

def stripped (raw : List Char) : List Char := (strip (String.ofList raw)).toList

theorem parseLines_spec
    (restores : ∀ path nested, parse path active = .ok nested → nested.2 = active)
    (keyed : Table.Keyed Prod.fst pins)
    (parsed : parseLines repr parse file number lines pins active = .ok (result, left)) :
    left = active ∧ Table.Keyed Prod.fst result ∧
      (∀ raw ∈ lines, ∃ added, contribution parse file active (stripped raw) = some added) ∧
      ∀ pin, pin ∈ result ↔ pin ∈ pins ∨ ∃ raw ∈ lines, ∃ added,
        contribution parse file active (stripped raw) = some added ∧ pin ∈ added := by
  induction lines generalizing number pins with
  | nil =>
      cases parsed
      exact ⟨rfl, keyed, fun _ absent => absurd absent List.not_mem_nil, fun pin => by simp⟩
  | cons raw lines induction =>
      rw [parseLines, bind_eq_ok] at parsed
      obtain ⟨⟨next, kept⟩, line, parsed⟩ := parsed
      obtain ⟨rfl, added, contributes, merged⟩ := (parseLine_eq_ok restores).mp line
      obtain ⟨distinct, members⟩ := Merging.merge_spec keyed merged
      obtain ⟨same, distinct, all, later⟩ := induction distinct parsed
      refine ⟨same, distinct, List.forall_mem_cons.mpr ⟨⟨added, contributes⟩, all⟩, fun pin => ?_⟩
      rw [later, members, or_assoc]
      refine or_congr_right ?_
      simp only [List.exists_mem_cons_iff]
      refine or_congr_left ?_
      constructor
      · exact fun member => ⟨added, contributes, member⟩
      · rintro ⟨other, known, member⟩
        rw [show contribution parse file kept (stripped raw) = some added from contributes] at known
        cases known
        exact member

/-- The loop ends when all lines add pins and no pins conflict. -/
theorem parseLines_ok
    (restores : ∀ path nested, parse path active = .ok nested → nested.2 = active)
    (keyed : Table.Keyed Prod.fst pins)
    (all : ∀ raw ∈ lines, ∃ added, contribution parse file active (stripped raw) = some added)
    (functional : Functional fun pin => pin ∈ pins ∨ ∃ raw ∈ lines, ∃ added,
      contribution parse file active (stripped raw) = some added ∧ pin ∈ added) :
    ∃ result, parseLines repr parse file number lines pins active = .ok (result, active) := by
  induction lines generalizing number pins with
  | nil => exact ⟨pins, rfl⟩
  | cons raw lines induction =>
      obtain ⟨⟨added, contributes⟩, all⟩ := List.forall_mem_cons.mp all
      simp only [List.exists_mem_cons_iff] at functional
      have own : Functional fun pin => pin ∈ pins ∨ pin ∈ added :=
        functional.mono fun pin => Or.imp_right fun member => .inl ⟨added, contributes, member⟩
      obtain ⟨next, merged⟩ := Merging.merge_ok_iff keyed |>.mpr own
      obtain ⟨distinct, members⟩ := Merging.merge_spec keyed merged
      have line : parseLine repr parse file number (stripped raw) pins active =
          .ok (next, active) := (parseLine_eq_ok restores).mpr ⟨rfl, added, contributes, merged⟩
      have later : Functional fun pin => pin ∈ next ∨ ∃ raw ∈ lines, ∃ added,
          contribution parse file active (stripped raw) = some added ∧ pin ∈ added := by
        refine functional.mono fun pin => ?_
        rw [members, or_assoc]
        exact Or.imp_right (Or.imp_left fun member => ⟨added, contributes, member⟩)
      obtain ⟨result, parsed⟩ := induction distinct all later
      exact ⟨result, by rw [parseLines, show (strip (String.ofList raw)).toList = stripped raw
        from rfl, line]; exact parsed⟩

theorem parseLines_ne_exhausted
    (restores : ∀ path nested, parse path active = .ok nested → nested.2 = active)
    (ends : ∀ path, parse path active ≠ .error .exhausted) :
    parseLines repr parse file number lines pins active ≠ .error .exhausted := by
  induction lines generalizing number pins with
  | nil => exact fun absurd => by cases absurd
  | cons raw lines induction =>
      have line : parseLine repr parse file number (stripped raw) pins active ≠
          .error .exhausted := by
        unfold parseLine
        split
        · exact fun absurd => by cases absurd
        · split
          · refine bind_ne_exhausted step_ne_exhausted fun _ _ => ?_
            refine bind_ne_exhausted (ends _) fun _ _ => ?_
            refine bind_ne_exhausted step_ne_exhausted fun _ _ absurd => ?_
            cases absurd
          · cases parsePin repr file number (stripped raw) pins <;>
              exact fun absurd => by cases absurd
      refine bind_ne_exhausted line fun state parsed => ?_
      obtain ⟨kept, -⟩ := (parseLine_eq_ok restores).mp parsed
      rw [kept]
      exact induction

end Loop

namespace FileSystem

variable {repr : List Char → String} {fs : FileSystem} {root path start file target : Path}
  {fuel : Nat} {active : List Path}

/-- What the parser of a manifest returns, and what the files that it reaches satisfy. -/
structure Parsed (fs : FileSystem) (root path : Path) (active : List Path) (pins : Pins)
    (start : Path) : Prop where
  confined : fs.confinedPath root path = .ok start
  keyed : Table.Keyed Prod.fst pins
  lawful : ∀ file, fs.Reaches root start file → fs.Lawful root file
  fresh : ∀ file, fs.Reaches root start file → file ∉ active
  acyclic : ∀ file, fs.Reaches root start file → ¬TransGen (fs.Includes root) file file
  gathered : ∀ pin, pin ∈ pins ↔ fs.Gathers root start pin

variable {parse : Path → List Path → Except Halt (Pins × List Path)}

theorem contribution_includes {line text : List Char} {added : Pins}
    (entry : entry? line = some (.includes text))
    (contributes : contribution parse file active line = some added) :
    ∃ nested, parse (file.parent.join text) active = .ok nested ∧ nested.1 = added := by
  rw [contribution, entry] at contributes
  cases parsed : parse (file.parent.join text) active with
  | error halt => simp [parsed] at contributes
  | ok nested => exact ⟨nested, rfl, by simpa [parsed] using contributes⟩

theorem hasLine_iff {lines : List (List Char)} {line : List Char}
    (read : fs.readLines file = .ok lines) :
    fs.HasLine file line ↔ ∃ raw ∈ lines, stripped raw = line := by
  simp only [HasLine, read, Except.ok.injEq, exists_eq_left']
  rfl

/-- What the parser of an included file returns, when every parser returns as `Parsed` says. -/
theorem gathers_of_contribution {line : List Char} {added : Pins}
    (nested : ∀ path result, parse path active = .ok result →
      ∃ start, fs.Parsed root path active result.1 start)
    (has : fs.HasLine file line) (contributes : contribution parse file active line = some added) :
    ∀ pin ∈ added, fs.Gathers root file pin := by
  intro pin member
  cases entry : entry? line with
  | none => simp [contribution, entry] at contributes
  | some kind =>
      cases kind with
      | filler =>
          simp only [contribution, entry, Option.some.injEq] at contributes
          rw [← contributes] at member
          exact absurd member List.not_mem_nil
      | includes text =>
          obtain ⟨result, parsed, rfl⟩ := contribution_includes entry contributes
          obtain ⟨child, own⟩ := nested _ _ parsed
          exact gathers_iff.mpr (.inr ⟨child, ⟨text, ⟨line, has, entry⟩, own.confined⟩,
            (own.gathered pin).mp member⟩)
      | pin own =>
          simp only [contribution, entry, Option.some.injEq] at contributes
          rw [← contributes, List.mem_singleton] at member
          subst member
          exact gathers_iff.mpr (.inl ⟨line, has, entry⟩)

/-- A parser that returns restores the active set; what it reaches is lawful, and its pins are
returned. -/
theorem parsed_of_ok {result : Pins × List Path}
    (returned : parseManifest repr fs root fuel path active = .ok result) :
    result.2 = active ∧ ∃ start, fs.Parsed root path active result.1 start := by
  induction fuel generalizing path active result with
  | zero => cases returned
  | succ fuel induction =>
      simp only [parseManifest, bind_eq_ok, step_eq_ok, raiseIf_eq_ok, pure_eq_ok] at returned
      obtain ⟨start, confined, _, fresh, lines, read, looped, parsed, _, -, rfl⟩ := returned
      obtain ⟨kept, keyed, all, members⟩ :=
        parseLines_spec (fun _ _ own => (induction own).1) Table.keyed_nil parsed
      -- each included file was parsed by a nested call, with this file in the active set
      have nested {child : Path} (includes : fs.Includes root start child) :
          ∃ raw ∈ lines, ∃ added path, contribution (parseManifest repr fs root fuel) start
            (start :: active) (stripped raw) = some added ∧
            fs.Parsed root path (start :: active) added child := by
        obtain ⟨text, ⟨line, has, entry⟩, target⟩ := includes
        obtain ⟨raw, listed, rfl⟩ := (hasLine_iff read).mp has
        obtain ⟨added, contributes⟩ := all raw listed
        obtain ⟨result, own, rfl⟩ := contribution_includes entry contributes
        obtain ⟨-, child', inner⟩ := induction own
        cases inner.confined.symm.trans target
        exact ⟨raw, listed, result.1, _, contributes, inner⟩
      have below {file : Path} (reached : fs.Reaches root start file) (other : file ≠ start) :
          ∃ child path added, fs.Reaches root child file ∧
            fs.Parsed root path (start :: active) added child := by
        obtain ⟨child, includes, reached⟩ := reached.head_cases.resolve_left other
        obtain ⟨_, -, added, path, -, inner⟩ := nested includes
        exact ⟨child, path, added, reached, inner⟩
      refine ⟨by rw [kept, List.erase_cons_head], start, confined, keyed, ?_, ?_, ?_, ?_⟩
      · intro file reached
        by_cases same : file = start
        · subst same
          refine ⟨⟨lines, read⟩, fun line has => ?_⟩
          obtain ⟨raw, listed, rfl⟩ := (hasLine_iff read).mp has
          obtain ⟨added, contributes⟩ := all raw listed
          cases entry : entry? (stripped raw) with
          | none => simp [contribution, entry] at contributes
          | some kind =>
              refine ⟨kind, rfl, ?_⟩
              rintro text rfl
              obtain ⟨result, own, -⟩ := contribution_includes entry contributes
              obtain ⟨-, child, inner⟩ := induction own
              exact ⟨child, inner.confined⟩
        · obtain ⟨child, path, added, further, inner⟩ := below reached same
          exact inner.lawful file further
      · intro file reached
        by_cases same : file = start
        · rwa [same]
        · obtain ⟨child, path, added, further, inner⟩ := below reached same
          exact fun active => inner.fresh file further (List.mem_cons_of_mem _ active)
      · intro file reached cycle
        by_cases same : file = start
        · subst same
          obtain ⟨child, includes, further⟩ := Relation.TransGen.head'_iff.mp cycle
          obtain ⟨_, -, added, path, -, inner⟩ := nested includes
          exact inner.fresh file further List.mem_cons_self
        · obtain ⟨child, path, added, further, inner⟩ := below reached same
          exact inner.acyclic file further cycle
      · intro pin
        rw [members]
        constructor
        · rintro (absent | ⟨raw, listed, added, contributes, member⟩)
          · exact absurd absent List.not_mem_nil
          · exact gathers_of_contribution (fun _ _ own => (induction own).2)
              ((hasLine_iff read).mpr ⟨raw, listed, rfl⟩) contributes pin member
        · intro gathers
          rcases gathers_iff.mp gathers with ⟨line, has, entry⟩ | ⟨child, includes, further⟩
          · obtain ⟨raw, listed, rfl⟩ := (hasLine_iff read).mp has
            exact .inr ⟨raw, listed, [pin], by rw [contribution, entry], List.mem_singleton_self _⟩
          · obtain ⟨raw, listed, added, path, contributes, inner⟩ := nested includes
            exact .inr ⟨raw, listed, added, contributes, (inner.gathered pin).mpr further⟩

/-- What the files that a manifest reaches must satisfy. -/
structure Sound (fs : FileSystem) (root start : Path) : Prop where
  lawful : ∀ file, fs.Reaches root start file → fs.Lawful root file
  acyclic : ∀ file, fs.Reaches root start file → ¬TransGen (fs.Includes root) file file
  functional : Functional (fs.Gathers root start)

theorem Sound.child (sound : fs.Sound root start) {child : Path}
    (includes : fs.Includes root start child) : fs.Sound root child where
  lawful file reached := sound.lawful file (ReflTransGen.head includes reached)
  acyclic file reached := sound.acyclic file (ReflTransGen.head includes reached)
  functional := sound.functional.mono fun _ gathers =>
    gathers_iff.mpr (.inr ⟨child, includes, gathers⟩)

/-- The parser returns when there is fuel for every idle file. -/
theorem ok_of_sound (enough : fs.idle active < fuel)
    (confined : fs.confinedPath root path = .ok start)
    (sound : fs.Sound root start) (fresh : ∀ file, fs.Reaches root start file → file ∉ active) :
    ∃ pins, parseManifest repr fs root fuel path active = .ok (pins, active) := by
  induction fuel generalizing path active start with
  | zero => exact absurd enough (Nat.not_lt_zero _)
  | succ fuel induction =>
      have idle : start ∉ active := fresh start ReflTransGen.refl
      obtain ⟨⟨lines, read⟩, proper⟩ := sound.lawful start ReflTransGen.refl
      have fewer : fs.idle (start :: active) < fuel := by
        have less := idle_lt read idle
        omega
      have all : ∀ raw ∈ lines, ∃ added, contribution (parseManifest repr fs root fuel) start
          (start :: active) (stripped raw) = some added := by
        intro raw listed
        have has := (hasLine_iff read).mpr ⟨raw, listed, rfl⟩
        obtain ⟨kind, entry, includes⟩ := proper _ has
        cases kind with
        | filler => exact ⟨[], by rw [contribution, entry]⟩
        | pin pin => exact ⟨[pin], by rw [contribution, entry]⟩
        | includes text =>
            obtain ⟨child, target⟩ := includes text rfl
            have child_of : fs.Includes root start child := ⟨text, ⟨_, has, entry⟩, target⟩
            obtain ⟨pins, parsed⟩ := induction fewer target (sound.child child_of)
              fun file reached active => by
                rcases List.mem_cons.mp active with rfl | known
                · exact sound.acyclic file ReflTransGen.refl
                    (Relation.TransGen.head'_iff.mpr ⟨child, child_of, reached⟩)
                · exact fresh file (ReflTransGen.head child_of reached) known
            exact ⟨pins, by rw [contribution, entry]; simp only [parsed]⟩
      have functional : Functional fun pin => pin ∈ ([] : Pins) ∨ ∃ raw ∈ lines, ∃ added,
          contribution (parseManifest repr fs root fuel) start (start :: active) (stripped raw) =
            some added ∧ pin ∈ added := by
        refine sound.functional.mono ?_
        rintro pin (absent | ⟨raw, listed, added, contributes, member⟩)
        · exact absurd absent List.not_mem_nil
        · exact gathers_of_contribution (fun _ _ own => (parsed_of_ok own).2)
            ((hasLine_iff read).mpr ⟨raw, listed, rfl⟩) contributes pin member
      obtain ⟨pins, parsed⟩ :=
        parseLines_ok (fun _ _ own => (parsed_of_ok own).1) Table.keyed_nil all functional
      refine ⟨pins, ?_⟩
      simp only [parseManifest, bind_eq_ok, step_eq_ok, raiseIf_eq_ok, pure_eq_ok]
      refine ⟨start, confined, (), idle, lines, read, _, parsed, (), ?_, ?_⟩
      · exact not_not.mpr List.mem_cons_self
      · rw [List.erase_cons_head]

/-- The parser ends when there is fuel for every idle file. -/
theorem parseManifest_ne_exhausted (enough : fs.idle active < fuel) :
    parseManifest repr fs root fuel path active ≠ .error .exhausted := by
  induction fuel generalizing path active with
  | zero => exact absurd enough (Nat.not_lt_zero _)
  | succ fuel induction =>
      refine bind_ne_exhausted step_ne_exhausted fun file _ => ?_
      refine bind_ne_exhausted step_ne_exhausted fun _ guarded => ?_
      have fresh := raiseIf_eq_ok.mp (step_eq_ok.mp guarded)
      refine bind_ne_exhausted step_ne_exhausted fun lines read => ?_
      have fewer : fs.idle (file :: active) < fuel := by
        have less := idle_lt (step_eq_ok.mp read) fresh
        omega
      refine bind_ne_exhausted (parseLines_ne_exhausted (fun _ _ own => (parsed_of_ok own).1)
        fun path => induction fewer) fun _ _ => ?_
      refine bind_ne_exhausted step_ne_exhausted fun _ _ absurd => ?_
      cases absurd

end FileSystem

end VoodooOne.Requirements
