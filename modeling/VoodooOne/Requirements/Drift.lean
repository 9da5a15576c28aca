import VoodooOne.Checkpoint.ManifestRoundTrip
import VoodooOne.Requirements.Includes

/-!
# Requirement drift

A lock is compared with a manifest when both are parsed.  No drift is reported exactly when the lock
states every pin that the manifest reaches.
-/

namespace VoodooOne.Requirements

open Merging (Functional)
open Dependency (normalizeName)

/-- A line of a lock pins a package. -/
def Pinned (raw : List Char) (found : Match) : Prop :=
  isTopLevel raw = true ∧ ∃ rest, matchPin raw = some (found, rest)

def LineStates (raw : List Char) (pin : String × String) : Prop :=
  ∃ found, Pinned raw found ∧ requirementKey found = .ok pin.1 ∧ String.ofList found.version = pin.2

section LockLines

variable {file : Path} {number : Nat} {raw : List Char} {lines : List (List Char)}
  {pins result : Pins}

theorem parseLockLines_skip (skipped : ∀ found, ¬Pinned raw found) :
    parseLockLines file number (raw :: lines) pins = parseLockLines file (number + 1) lines
      pins := by
  have none : (if isTopLevel raw then matchPin raw else none) = none := by
    split
    · next top =>
      cases matched : matchPin raw with
      | none => rfl
      | some found => exact absurd ⟨top, found.2, matched⟩ (skipped found.1)
    · rfl
  rw [parseLockLines, none]

theorem parseLockLines_pin {found : Match} (pinned : Pinned raw found) :
    parseLockLines file number (raw :: lines) pins = requirementKey found >>= fun key =>
      Merging.assign (fun key => place file number ("duplicate lock pin for " ++ key)) pins key
        (String.ofList found.version) >>= parseLockLines file (number + 1) lines := by
  obtain ⟨top, rest, matched⟩ := pinned
  rw [parseLockLines, if_pos top, matched]

theorem Pinned.unique {first second : Match} (left : Pinned raw first)
    (right : Pinned raw second) : first = second := by
  obtain ⟨-, rest, matched⟩ := left
  obtain ⟨-, rest', matched'⟩ := right
  exact congrArg Prod.fst (Option.some.inj (matched.symm.trans matched'))

/-- The loop returns exactly when every pin has a key and no pins conflict, and then with the pins
of all lines. -/
theorem parseLockLines_spec (keyed : Table.Keyed Prod.fst pins) :
    ((∃ result, parseLockLines file number lines pins = .ok result) ↔
      (∀ raw ∈ lines, ∀ found, Pinned raw found → ∃ key, requirementKey found = .ok key) ∧
        Functional fun pin => pin ∈ pins ∨ ∃ raw ∈ lines, LineStates raw pin) ∧
    ∀ result, parseLockLines file number lines pins = .ok result → Table.Keyed Prod.fst result ∧
      ∀ pin, pin ∈ result ↔ pin ∈ pins ∨ ∃ raw ∈ lines, LineStates raw pin := by
  induction lines generalizing number pins with
  | nil =>
      simp only [List.not_mem_nil, false_and, exists_false, or_false, false_imp_iff, implies_true,
        true_and, parseLockLines, Except.ok.injEq]
      refine ⟨⟨fun _ => Functional.of_keyed keyed, fun _ => ⟨pins, rfl⟩⟩, ?_⟩
      rintro result rfl
      exact ⟨keyed, fun pin => Iff.rfl⟩
  | cons raw lines induction =>
      simp only [List.exists_mem_cons_iff, List.forall_mem_cons]
      by_cases skipped : ∀ found, ¬Pinned raw found
      · have silent (pin : String × String) : ¬LineStates raw pin := by
          rintro ⟨found, pinned, -⟩
          exact skipped found pinned
        have vacuous : ∀ found, Pinned raw found → ∃ key, requirementKey found = .ok key :=
          fun found pinned => absurd pinned (skipped found)
        simp only [parseLockLines_skip skipped, silent, false_or]
        refine ⟨(induction keyed).1.trans ?_, (induction keyed).2⟩
        exact and_congr_left fun _ => ⟨fun all => ⟨vacuous, all⟩, And.right⟩
      · obtain ⟨found, pinned⟩ := not_forall_not.mp skipped
        have own (other : Match) (known : Pinned raw other) : other = found := known.unique pinned
        rw [parseLockLines_pin pinned]
        cases key : requirementKey found with
        | error error =>
            refine ⟨⟨?_, ?_⟩, ?_⟩
            · rintro ⟨result, absurd⟩
              cases absurd
            · rintro ⟨⟨all, -⟩, -⟩
              obtain ⟨key', known⟩ := all found pinned
              rw [key] at known
              cases known
            · intro result absurd
              cases absurd
        | ok key' =>
            have states (pin : String × String) :
                LineStates raw pin ↔ pin = (key', String.ofList found.version) := by
              constructor
              · rintro ⟨other, known, keyed, version⟩
                obtain rfl := own other known
                rw [key] at keyed
                exact Prod.ext (Except.ok.inj keyed).symm version.symm
              · rintro rfl
                exact ⟨found, pinned, key, rfl⟩
            have proper : ∀ other, Pinned raw other → ∃ key, requirementKey other = .ok key := by
              intro other known
              rw [own other known]
              exact ⟨key', key⟩
            simp only [ok_bind, states]
            cases assigned : Merging.assign
                (fun key => place file number ("duplicate lock pin for " ++ key)) pins key'
                (String.ofList found.version) with
            | error error =>
                have conflicts : ¬Functional fun pin => pin ∈ pins ∨
                    pin = (key', String.ofList found.version) := by
                  intro functional
                  obtain ⟨result, known⟩ := (Merging.assign_ok_iff keyed).mpr functional
                  rw [assigned] at known
                  cases known
                refine ⟨⟨?_, ?_⟩, ?_⟩
                · rintro ⟨result, absurd⟩
                  cases absurd
                · rintro ⟨-, functional⟩
                  exact absurd (functional.mono fun pin => Or.imp_right .inl) conflicts
                · intro result absurd
                  cases absurd
            | ok next =>
                obtain ⟨distinct, members⟩ := Merging.assign_spec keyed assigned
                rw [ok_bind]
                refine ⟨(induction distinct).1.trans ?_, fun result parsed => ?_⟩
                · simp only [members, or_assoc]
                  exact and_congr_left fun _ => ⟨fun all => ⟨proper, all⟩, And.right⟩
                · obtain ⟨distinct, listed⟩ := (induction distinct).2 result parsed
                  refine ⟨distinct, fun pin => ?_⟩
                  rw [listed, members, or_assoc]

end LockLines

namespace FileSystem

variable (fs : FileSystem) (root path : Path)

def LockStates (file : Path) (pin : String × String) : Prop :=
  ∃ lines, fs.readLines file = .ok lines ∧ ∃ raw ∈ lines, LineStates raw pin

/-- A lock can be read, its pins have keys and do not conflict. -/
structure LockSound (file : Path) : Prop where
  readable : ∃ lines, fs.readLines file = .ok lines ∧ ∀ raw ∈ lines, ∀ found, Pinned raw found →
    ∃ key, requirementKey found = .ok key
  functional : Functional (fs.LockStates file)

variable {fs root path} {file : Path} {locked : Pins}

theorem parseLock_ok_iff : (∃ locked, parseLock fs root path = .ok locked) ↔
    ∃ file, fs.confinedPath root path = .ok file ∧ fs.LockSound file := by
  constructor
  · rintro ⟨locked, parsed⟩
    simp only [parseLock, bind_eq_ok] at parsed
    obtain ⟨file, confined, lines, read, looped⟩ := parsed
    obtain ⟨proper, functional⟩ := (parseLockLines_spec Table.keyed_nil).1.mp ⟨locked, looped⟩
    refine ⟨file, confined, ⟨lines, read, proper⟩, functional.mono ?_⟩
    rintro pin ⟨lines', read', states⟩
    cases read.symm.trans read'
    exact .inr states
  · rintro ⟨file, confined, ⟨lines, read, proper⟩, functional⟩
    have own : Functional fun pin => pin ∈ ([] : Pins) ∨ ∃ raw ∈ lines, LineStates raw pin := by
      refine functional.mono ?_
      rintro pin (absent | states)
      · exact absurd absent List.not_mem_nil
      · exact ⟨lines, read, states⟩
    obtain ⟨locked, looped⟩ := (parseLockLines_spec Table.keyed_nil).1.mpr ⟨proper, own⟩
    refine ⟨locked, ?_⟩
    simp only [parseLock, bind_eq_ok]
    exact ⟨file, confined, lines, read, looped⟩

theorem parseLock_spec (confined : fs.confinedPath root path = .ok file)
    (parsed : parseLock fs root path = .ok locked) :
    Table.Keyed Prod.fst locked ∧ ∀ pin, pin ∈ locked ↔ fs.LockStates file pin := by
  simp only [parseLock, bind_eq_ok] at parsed
  obtain ⟨file', confined', lines, read, looped⟩ := parsed
  cases confined.symm.trans confined'
  obtain ⟨keyed, members⟩ := (parseLockLines_spec Table.keyed_nil).2 locked looped
  refine ⟨keyed, fun pin => ?_⟩
  rw [members]
  constructor
  · rintro (absent | states)
    · exact absurd absent List.not_mem_nil
    · exact ⟨lines, read, states⟩
  · rintro ⟨lines', read', states⟩
    cases read.symm.trans read'
    exact .inr states

end FileSystem

section Pairs

variable {required locked : Pins}

theorem mem_sortedKeys {pins : Pins} {key : String} :
    key ∈ sortedKeys pins ↔ ∃ pin ∈ pins, pin.1 = key := by
  rw [sortedKeys, List.mem_insertionSort, List.mem_map]

theorem missing_eq_nil : missing required locked = [] ↔
    ∀ pin ∈ required, locked.lookup pin.1 ≠ none := by
  rw [List.eq_nil_iff_forall_not_mem]
  simp only [missing, mem_sortedKeys, List.mem_filter, Option.isNone_iff_eq_none]
  constructor
  · intro absent pin member none
    exact absent pin.1 ⟨pin, ⟨member, none⟩, rfl⟩
  · rintro found _ ⟨pin, ⟨member, none⟩, rfl⟩
    exact found pin member none

theorem mismatched_eq_nil (keyed : Table.Keyed Prod.fst required) :
    mismatched required locked = [] ↔
      ∀ pin ∈ required, ∀ version, locked.lookup pin.1 = some version → version = pin.2 := by
  have own {pin : String × String} (member : pin ∈ required) :
      required.lookup pin.1 = some pin.2 := (Merging.lookup_eq_some_iff_mem keyed).mpr member
  rw [mismatched, List.filterMap_eq_nil_iff]
  constructor
  · intro agree pin member version known
    have same := agree pin.1 (mem_sortedKeys.mpr ⟨pin, member, rfl⟩)
    rw [own member, known, Option.bind_some, Option.bind_some] at same
    split at same
    · next equal => exact equal.symm
    · cases same
  · intro agree key listed
    obtain ⟨pin, member, rfl⟩ := mem_sortedKeys.mp listed
    rw [own member, Option.bind_some]
    cases known : locked.lookup pin.1 with
    | none => rfl
    | some version => rw [Option.bind_some, if_pos (agree pin member version known).symm]

theorem agree_iff (keyed : Table.Keyed Prod.fst required)
    (lockKeyed : Table.Keyed Prod.fst locked) :
    ((missing required locked).isEmpty && (mismatched required locked).isEmpty) = true ↔
      ∀ pin ∈ required, pin ∈ locked := by
  rw [Bool.and_eq_true, List.isEmpty_iff, List.isEmpty_iff, missing_eq_nil, mismatched_eq_nil keyed]
  constructor
  · rintro ⟨present, agree⟩ pin member
    cases known : locked.lookup pin.1 with
    | none => exact absurd known (present pin member)
    | some version =>
        rw [agree pin member version known] at known
        exact (Merging.lookup_eq_some_iff_mem lockKeyed).mp known
  · intro covered
    have own {pin : String × String} (member : pin ∈ required) :
        locked.lookup pin.1 = some pin.2 :=
      (Merging.lookup_eq_some_iff_mem lockKeyed).mpr (covered pin member)
    constructor
    · intro pin member none
      rw [own member] at none
      cases none
    · intro pin member version known
      rw [own member] at known
      exact (Option.some.inj known).symm

end Pairs

section Check

open FileSystem

theorem FileSystem.Parsed.sound {fs : FileSystem} {root path start : Path} {active : List Path}
    {pins : Pins} (parsed : fs.Parsed root path active pins start) : fs.Sound root start where
  lawful := parsed.lawful
  acyclic := parsed.acyclic
  functional := (Functional.congr parsed.gathered).mp (Functional.of_keyed parsed.keyed)

theorem relativeTo_eq_ok {path root result : Path} : path.relativeTo root = .ok result ↔
      path.Below root ∧ (⟨"", path.parts.drop root.parts.length⟩ : Path) = result := by
  unfold Path.relativeTo
  split
  · next below => simp [below]
  · next outside => simp [outside]

/-- A manifest is parsed in the end, exactly when the files that it reaches are sound; the result
has
the pins of these files.  No drift is reported exactly when the lock states all of them, both are
sound, and both are given by paths below the root.  Two pins have one key when their names and, in
some order, their extras are the same. -/
theorem drift_exact (repr : List Char → String) (fs : FileSystem) (root manifest lock : Path)
    (spare : Nat) :
    parseManifest repr fs root (fs.files.length + 1 + spare) manifest [] ≠ .error .exhausted ∧
    ((∃ pins, parseManifest repr fs root (fs.files.length + 1 + spare) manifest [] =
        .ok (pins, [])) ↔
      ∃ start, fs.confinedPath root manifest = .ok start ∧ fs.Sound root start) ∧
    (∀ pins active, parseManifest repr fs root (fs.files.length + 1 + spare) manifest [] =
        .ok (pins, active) →
      active = [] ∧ Table.Keyed Prod.fst pins ∧ ∃ start,
        fs.confinedPath root manifest = .ok start ∧ ∀ pin, pin ∈ pins ↔ fs.Gathers root start pin) ∧
    ((∃ report, checkPair repr fs (fs.files.length + 1 + spare) manifest lock root = .ok report ∧
        report.ok = true) ↔
      manifest.Below root ∧ lock.Below root ∧ ∃ start file,
        fs.confinedPath root manifest = .ok start ∧ fs.Sound root start ∧
        fs.confinedPath root lock = .ok file ∧ fs.LockSound file ∧
        ∀ pin, fs.Gathers root start pin → fs.LockStates file pin) ∧
    (∀ left right : Match, left.WellFormed → right.WellFormed → ∀ key other,
      requirementKey left = .ok key → requirementKey right = .ok other →
        (key = other ↔ normalizeName left.name = normalizeName right.name ∧
          left.items.Perm right.items)) := by
  have enough : fs.idle [] < fs.files.length + 1 + spare := by
    have bound : fs.idle [] ≤ fs.files.length := idle_le
    omega
  have returns : (∃ pins, parseManifest repr fs root (fs.files.length + 1 + spare) manifest [] =
      .ok (pins, [])) ↔
      ∃ start, fs.confinedPath root manifest = .ok start ∧ fs.Sound root start := by
    constructor
    · rintro ⟨pins, returned⟩
      obtain ⟨-, start, parsed⟩ := parsed_of_ok returned
      exact ⟨start, parsed.confined, parsed.sound⟩
    · rintro ⟨start, confined, sound⟩
      exact ok_of_sound enough confined sound fun _ _ => List.not_mem_nil
  refine ⟨parseManifest_ne_exhausted enough, returns, ?_, ?_, ?_⟩
  · intro pins active returned
    obtain ⟨restored, start, parsed⟩ := parsed_of_ok returned
    exact ⟨restored, parsed.keyed, start, parsed.confined, parsed.gathered⟩
  · constructor
    · rintro ⟨report, checked, ok⟩
      simp only [checkPair, bind_eq_ok, step_eq_ok, pure_eq_ok, relativeTo_eq_ok] at checked
      obtain ⟨required, returned, locked, lockParsed, _, ⟨below, -⟩, _, ⟨lockBelow, -⟩, rfl⟩ :=
        checked
      obtain ⟨-, start, parsed⟩ := parsed_of_ok returned
      obtain ⟨file, confined, sound⟩ := parseLock_ok_iff.mp ⟨locked, lockParsed⟩
      obtain ⟨lockKeyed, members⟩ := parseLock_spec confined lockParsed
      refine ⟨below, lockBelow, start, file, parsed.confined, parsed.sound, confined, sound, ?_⟩
      intro pin gathers
      have covered := (agree_iff parsed.keyed lockKeyed).mp ok
      exact (members pin).mp (covered pin ((parsed.gathered pin).mpr gathers))
    · rintro ⟨below, lockBelow, start, file, confined, sound, lockConfined, lockSound, covered⟩
      obtain ⟨pins, returned⟩ := returns.mpr ⟨start, confined, sound⟩
      obtain ⟨-, start', parsed⟩ := parsed_of_ok returned
      cases confined.symm.trans parsed.confined
      obtain ⟨locked, lockParsed⟩ := parseLock_ok_iff.mpr ⟨file, lockConfined, lockSound⟩
      obtain ⟨lockKeyed, members⟩ := parseLock_spec lockConfined lockParsed
      refine ⟨reportOf ⟨"", manifest.parts.drop root.parts.length⟩
        ⟨"", lock.parts.drop root.parts.length⟩ pins locked, ?_, ?_⟩
      · simp only [checkPair, bind_eq_ok, step_eq_ok, pure_eq_ok, relativeTo_eq_ok]
        exact ⟨_, returned, locked, lockParsed, _, ⟨below, rfl⟩, _, ⟨lockBelow, rfl⟩, rfl⟩
      · refine (agree_iff parsed.keyed lockKeyed).mpr fun pin member => ?_
        exact (members pin).mpr (covered pin ((parsed.gathered pin).mp member))
  · intro left right leftForm rightForm key other leftKeyed rightKeyed
    exact requirementKey_eq_iff leftForm rightForm leftKeyed rightKeyed

/-- Two files, `manifest` and `lock`. -/
def sampleSystem (manifest lock : String) : FileSystem where
  resolve path := .ok path
  readBytes path :=
    if path = ⟨"/", ["manifest"]⟩ then .ok manifest.toUTF8
    else if path = ⟨"/", ["lock"]⟩ then .ok lock.toUTF8
    else .error ⟨.fileNotFoundError, path.str⟩
  files := [⟨"/", ["manifest"]⟩, ⟨"/", ["lock"]⟩]
  finite path content read := by
    split at read
    · next same => rw [same]; exact List.mem_cons_self
    · split at read
      · next same => rw [same]; exact List.mem_cons_of_mem _ List.mem_cons_self
      · cases read

/-- A lock that states every required pin, and two versions of another package, is not accepted. -/
theorem unrelated_conflict_denied : ¬∀ (repr : List Char → String) (fs : FileSystem)
    (root manifest lock start file : Path) (spare : Nat),
    manifest.Below root → lock.Below root → fs.confinedPath root manifest = .ok start →
    fs.Sound root start → fs.confinedPath root lock = .ok file →
    (∀ pin, fs.Gathers root start pin → fs.LockStates file pin) →
    ∃ report, checkPair repr fs (fs.files.length + 1 + spare) manifest lock root = .ok report ∧
      report.ok = true := by
  intro claim
  let fs := sampleSystem "a==1" "a==1\nb==1\nb==2"
  have returned : parseManifest String.ofList fs ⟨"/", []⟩ 3 ⟨"/", ["manifest"]⟩ [] =
      .ok ([("a", "1")], []) := rfl
  have denied : parseLock fs ⟨"/", []⟩ ⟨"/", ["lock"]⟩ =
      .error (place ⟨"/", ["lock"]⟩ 3 "duplicate lock pin for b") := rfl
  obtain ⟨-, start, parsed⟩ := parsed_of_ok returned
  have confined : fs.confinedPath ⟨"/", []⟩ ⟨"/", ["lock"]⟩ = .ok ⟨"/", ["lock"]⟩ := rfl
  have covered (pin : String × String) (gathers : fs.Gathers ⟨"/", []⟩ start pin) :
      fs.LockStates ⟨"/", ["lock"]⟩ pin := by
    obtain rfl := List.mem_singleton.mp ((parsed.gathered pin).mpr gathers)
    refine ⟨["a==1".toList, "b==1".toList, "b==2".toList], rfl, "a==1".toList, List.mem_cons_self,
      ⟨['a'], none, ['1']⟩, ⟨rfl, [], rfl⟩, rfl, rfl⟩
  obtain ⟨report, checked, -⟩ := claim String.ofList fs ⟨"/", []⟩ ⟨"/", ["manifest"]⟩
    ⟨"/", ["lock"]⟩
    start ⟨"/", ["lock"]⟩ 0 (by decide) (by decide) parsed.confined parsed.sound confined covered
  simp only [checkPair, bind_eq_ok, step_eq_ok, denied] at checked
  obtain ⟨_, -, _, absurd, -⟩ := checked
  cases absurd

end Check

end VoodooOne.Requirements
