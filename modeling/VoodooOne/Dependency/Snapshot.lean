import Mathlib.Data.Finset.Sort
import VoodooOne.Checkpoint.Manifest
import VoodooOne.Foundation.TextDecoder
import VoodooOne.Library.PercentEncoding

/-!
# Dependency snapshots

The pins of two lock files become a snapshot, and a specification by which the provider's SBOM is
verified later: the package URLs that it must contain, and those of earlier locks that it must not.
-/

namespace VoodooOne.Dependency

/-- `DependencySnapshotError`. -/
def snapshotError (message : String) : Raised := ⟨.dependencySnapshotError, message⟩

/-- `[-_.]`. -/
def isSeparator (character : Char) : Bool := ['-', '_', '.'].contains character

/-- Every run of separators becomes a hyphen; the flag says that one has begun. -/
def collapse : Bool → List Char → List Char
  | _, [] => []
  | inside, character :: rest =>
      if isSeparator character then
        if inside then collapse true rest else '-' :: collapse true rest
      else character :: collapse false rest

/-- The lowercase of a character.  Characters whose lowercase is not ASCII are kept, as no name of a
lock has one. -/
def lowerCharacter (character : Char) : Char :=
  if 'A' ≤ character ∧ character ≤ 'Z' then Char.ofNat (character.toNat + 32)
  else if character.toNat = 0x212a then 'k'
  else character

def normalizeName (value : List Char) : List Char := (collapse false value).map lowerCharacter

def purl (name version : String) : String :=
  "pkg:pypi/" ++ String.ofList
      (PercentEncoding.quote ['-', '.', '_', '~'] (normalizeName name.toList))
    ++ "@" ++ String.ofList (PercentEncoding.quote ['-', '.', '_', '~', '+'] version.toList)

/-- `[A-Za-z0-9_.-]`. -/
def isNameCharacter (character : Char) : Bool :=
  character.isAlphanum || ['_', '.', '-'].contains character

/-- `[^ \\]`. -/
def endsNoVersion (character : Char) : Bool := character != ' ' && character != '\\'

/-- `PIN_RE.match`: the name and the version that a line starts with. -/
def matchPin (line : List Char) : Option (List Char × List Char) :=
  match line.dropWhile isNameCharacter with
  | '=' :: '=' :: rest =>
      if line.takeWhile isNameCharacter = [] ∨ rest.takeWhile endsNoVersion = [] then none
      else some (line.takeWhile isNameCharacter, rest.takeWhile endsNoVersion)
  | _ => none

/-- The pins of a lock: names and versions. -/
abbrev Pins := List (String × String)

/-- Assignment of a pin, unless the name is pinned to another version. -/
def addPin (file : String) (number : Nat) (pins : Pins) (name version : String) :
    Except Raised Pins :=
  match pins.lookup name with
  | none => .ok (pins ++ [(name, version)])
  | some existing => do
      raiseIf (existing ≠ version) (snapshotError
        (file ++ ":" ++ toString number ++ " conflicts with an earlier pin for " ++ name))
      return pins

/-- The loop of `parse_lock`. -/
def parsePins (file : String) : Nat → List (List Char) → Pins → Except Raised Pins
  | _, [], pins => .ok pins
  | number, line :: lines, pins =>
      match matchPin line with
      | none => parsePins file (number + 1) lines pins
      | some found => do
          let pins ← addPin file number pins (String.ofList (normalizeName found.1))
            (String.ofList found.2)
          parsePins file (number + 1) lines pins

def parseLock (file : String) (text : List Char) : Except Raised Pins := do
  let pins ← parsePins file 1
    (Lines.split Checkpoint.isLineBreak (Checkpoint.universalNewlines text)) []
  raiseIf (pins = []) (snapshotError (file ++ " contains no exact package pins"))
  return pins

/-- What a snapshot says of a package. -/
structure ResolvedDependency where
  (packageUrl relationship scope : String)
deriving DecidableEq, Repr

/-- `_resolved`, in the order of the names. -/
def resolved (pins : Pins) (direct : List String) (scope : String) :
    List (String × ResolvedDependency) :=
  (pins.insertionSort fun left right => left.1 ≤ right.1).map fun pin =>
    (pin.1, ⟨purl pin.1 pin.2, if pin.1 ∈ direct then "direct" else "indirect", scope⟩)

def requireSha (value : String) : Except Raised Unit :=
  raiseIf (¬(value.length = 40 ∧
      (value.toList.all fun character => "0123456789abcdef".toList.contains character) = true))
    (snapshotError "sha must be a lowercase 40-character Git SHA")

def requireMainRef (value : String) : Except Raised Unit :=
  raiseIf (value ≠ "refs/heads/main")
    (snapshotError "dependency snapshot ref must be refs/heads/main")

/-- A dependency snapshot: its commit, its time, and what each manifest resolves to. -/
structure DependencySnapshot where
  (sha ref scanned : String)
  manifests : List (String × List (String × ResolvedDependency))

def packageUrls (snapshot : DependencySnapshot) : List String :=
  snapshot.manifests.flatMap fun manifest => manifest.2.map fun entry => entry.2.packageUrl

def expectedPurls (snapshot : DependencySnapshot) : Except Raised (Finset String) := do
  raiseIf (∃ url ∈ packageUrls snapshot, ¬"pkg:pypi/".toList <+: url.toList)
    (snapshotError "snapshot dependency package_url is invalid")
  return (packageUrls snapshot).toFinset

def previousVersions (current : Pins) : Option Pins → Finset String
  | none => ∅
  | some previous =>
      ((previous.filter fun pin => current.lookup pin.1 ≠ some pin.2).map
        fun pin => purl pin.1 pin.2).toFinset

structure VerificationSpec where
  (contract sha ref detectorName correlator snapshotSha256 : String)
  (expectedPurls stalePurls : List String)

def verificationContract : String := "voodoo-one-dependency-verification/v1"

def detectorName : String := "voodoo-one-dependency-reconciliation"

def correlator : String := "voodoo-one-provider-reconciliation"

/-- The inputs of `write_snapshot`: a time that `_require_scanned` accepts, the texts of the locks,
what `parse_direct_requirements` found, and the digest of the bytes of a snapshot. -/
structure SnapshotInputs where
  (sha ref scanned : String)
  (productLock devLock : List Char)
  (productDirect devDirect : List String)
  previousLocks : Option (List Char × List Char)
  snapshotSha256 : DependencySnapshot → String

namespace SnapshotInputs

variable (inputs : SnapshotInputs)

def buildSnapshotAndPins : Except Raised (DependencySnapshot × Pins × Pins) := do
  requireSha inputs.sha
  requireMainRef inputs.ref
  let productPins ← parseLock "requirements-product.lock" inputs.productLock
  let devPins ← parseLock "requirements-dev.lock" inputs.devLock
  return (⟨inputs.sha, inputs.ref, inputs.scanned,
    [("requirements-product.txt", resolved productPins inputs.productDirect "runtime"),
      ("requirements-dev.in", resolved devPins inputs.devDirect "development")]⟩,
    productPins, devPins)

/-- `_build_verification_spec_from_pins`. -/
def buildVerificationSpec (snapshot : DependencySnapshot) (currentProduct currentDev : Pins) :
    Except Raised VerificationSpec := do
  let previousProduct ← inputs.previousLocks.mapM fun locks =>
    parseLock "previous-product.lock" locks.1
  let previousDev ← inputs.previousLocks.mapM fun locks => parseLock "previous-dev.lock" locks.2
  let expected ← expectedPurls snapshot
  let stale := previousVersions currentProduct previousProduct ∪
    previousVersions currentDev previousDev
  return {
    contract := verificationContract
    sha := snapshot.sha
    ref := snapshot.ref
    detectorName := detectorName
    correlator := correlator
    snapshotSha256 := inputs.snapshotSha256 snapshot
    expectedPurls := expected.sort
    stalePurls := (stale \ expected).sort }

/-- `write_snapshot`, without its files. -/
def writeSnapshot : Except Raised (DependencySnapshot × VerificationSpec) := do
  let built ← inputs.buildSnapshotAndPins
  let spec ← inputs.buildVerificationSpec built.1 built.2.1 built.2.2
  return (built.1, spec)

end SnapshotInputs

def quotable (text : Text) : Except Raised String :=
  orRaise ⟨.unicodeEncodeError, "surrogates not allowed"⟩ (TextUnit.encode? text)

/-- The URL that the name and the version of a package make up. -/
def namedPurls (package : List (Text × TextValue)) : Except Raised (List Text) :=
  match (TextValue.get package "name").text?, (TextValue.get package "versionInfo").text? with
  | some name, some version => do
      let name ← quotable name
      let version ← quotable version
      return [.ofString (purl name version)]
  | _, _ => .ok []

def locators (package : List (Text × TextValue)) : List Text :=
  match TextValue.get package "externalRefs" with
  | .arr references => references.filterMap fun reference =>
      reference.fields?.bind fun fields => (TextValue.get fields "referenceLocator").text?
  | _ => []

/-- The prefix of the URLs of PyPI packages. -/
def pypiPrefix : Text := .ofString "pkg:pypi/"

def packagePurls (package : TextValue) : Except Raised (List Text) :=
  match package.fields? with
  | none => .ok []
  | some fields => do
      let named ← namedPurls fields
      return named ++ (locators fields).filter (pypiPrefix <+: ·)

def items? : TextValue → Option (List TextValue)
  | .arr items => some items
  | _ => none

def sbomPurls (sbom : List (Text × TextValue)) : Except Raised (List Text) := do
  let document ← orRaise (snapshotError "GitHub SBOM response is missing sbom")
    (TextValue.get sbom "sbom").fields?
  let packages ← orRaise (snapshotError "GitHub SBOM packages are invalid")
    (items? (TextValue.get document "packages"))
  let found ← packages.mapM packagePurls
  return found.flatten

def verifySbom (verification : VerificationSpec) (sbom : List (Text × TextValue)) :
    Except Raised Unit := do
  raiseIf (verification.contract ≠ verificationContract)
    (snapshotError "verification contract is unsupported")
  requireSha verification.sha
  requireMainRef verification.ref
  raiseIf (verification.detectorName ≠ detectorName)
    (snapshotError "verification detector identity is invalid")
  raiseIf (verification.correlator ≠ correlator)
    (snapshotError "verification correlator identity is invalid")
  let observed ← sbomPurls sbom
  let missing := verification.expectedPurls.filter fun url => Text.ofString url ∉ observed
  let stalePresent := verification.stalePurls.filter fun url => Text.ofString url ∈ observed
  raiseIf (missing ≠ []) (snapshotError
    ("provider SBOM is missing expected dependencies: " ++ ", ".intercalate missing))
  raiseIf (stalePresent ≠ []) (snapshotError
    ("provider SBOM still contains stale dependency versions: " ++ ", ".intercalate stalePresent))

open PercentEncoding (quote_injective mem_quote unreserved)

theorem lowerCharacter_upper {character : Char} (upper : 'A' ≤ character ∧ character ≤ 'Z') :
    ∃ offset < 26, character.toNat = 65 + offset ∧
      lowerCharacter character = Char.ofNat (97 + offset) := by
  have low : 65 ≤ character.toNat := upper.1
  have high : character.toNat ≤ 90 := upper.2
  refine ⟨character.toNat - 65, by omega, by omega, ?_⟩
  rw [lowerCharacter, if_pos upper]
  congr 1
  omega

theorem lowerCharacter_lowercase :
    ∀ offset < 26, lowerCharacter (Char.ofNat (97 + offset)) = Char.ofNat (97 + offset) ∧
      isSeparator (Char.ofNat (97 + offset)) = false ∧
      isSeparator (Char.ofNat (65 + offset)) = false := by
  decide

theorem lowerCharacter_idem (character : Char) :
    lowerCharacter (lowerCharacter character) = lowerCharacter character := by
  by_cases upper : 'A' ≤ character ∧ character ≤ 'Z'
  · obtain ⟨offset, small, -, lower⟩ := lowerCharacter_upper upper
    rw [lower]
    exact (lowerCharacter_lowercase offset small).1
  · by_cases kelvin : character.toNat = 0x212a
    · have lower : lowerCharacter character = 'k' := by
        rw [lowerCharacter, if_neg upper, if_pos kelvin]
      rw [lower]
      rfl
    · have lower : lowerCharacter character = character := by
        rw [lowerCharacter, if_neg upper, if_neg kelvin]
      rw [lower, lower]

theorem isSeparator_lowerCharacter (character : Char) :
    isSeparator (lowerCharacter character) = isSeparator character := by
  by_cases upper : 'A' ≤ character ∧ character ≤ 'Z'
  · obtain ⟨offset, small, same, lower⟩ := lowerCharacter_upper upper
    obtain ⟨-, lowerPlain, upperPlain⟩ := lowerCharacter_lowercase offset small
    rw [lower, lowerPlain, ← upperPlain, ← same, Char.ofNat_toNat]
  · by_cases kelvin : character.toNat = 0x212a
    · have own : character = Char.ofNat 0x212a := by
        rw [← kelvin, Char.ofNat_toNat]
      rw [own]
      decide
    · rw [lowerCharacter, if_neg upper, if_neg kelvin]

theorem collapse_lowercase (value : List Char) (inside : Bool) :
    collapse inside ((collapse inside value).map lowerCharacter) =
      (collapse inside value).map lowerCharacter := by
  have hyphen : lowerCharacter '-' = '-' ∧ isSeparator '-' = true := by decide
  induction value generalizing inside with
  | nil => rfl
  | cons character value induction =>
      rw [collapse]
      by_cases separator : isSeparator character = true
      · rw [if_pos separator]
        cases inside with
        | true => exact induction true
        | false =>
            have later := induction true
            simp only [Bool.false_eq_true, if_false, List.map_cons, hyphen.1]
            rw [collapse, if_pos hyphen.2]
            simp only [Bool.false_eq_true, if_false, later]
      · have lower : ¬isSeparator (lowerCharacter character) = true := by
          rwa [isSeparator_lowerCharacter]
        rw [if_neg separator, List.map_cons, collapse, if_neg lower, induction]

theorem normalizeName_idem (value : List Char) :
    normalizeName (normalizeName value) = normalizeName value := by
  have lower : lowerCharacter ∘ lowerCharacter = lowerCharacter := funext lowerCharacter_idem
  rw [normalizeName, normalizeName, collapse_lowercase, List.map_map, lower]

def Normal (name : String) : Prop := normalizeName name.toList = name.toList

theorem normal_ofList_normalizeName (name : List Char) :
    Normal (String.ofList (normalizeName name)) := by
  rw [Normal, String.toList_ofList, normalizeName_idem]

theorem not_mem_quote_at {safe : List Char}
    (absent : ('%' :: unreserved ++ safe).contains '@' = false) (text : List Char) :
    '@' ∉ PercentEncoding.quote safe text := by
  intro member
  have present := List.contains_iff_mem.mpr (mem_quote member)
  rw [absent] at present
  exact Bool.false_ne_true present

theorem toList_purl (name version : String) : (purl name version).toList = "pkg:pypi/".toList ++
    (PercentEncoding.quote ['-', '.', '_', '~'] (normalizeName name.toList) ++
      '@' :: PercentEncoding.quote ['-', '.', '_', '~', '+'] version.toList) := by
  simp only [purl, String.toList_append, String.toList_ofList, List.append_assoc]
  rfl

theorem pypi_purl (name version : String) : "pkg:pypi/".toList <+: (purl name version).toList := by
  rw [toList_purl]
  exact List.prefix_append _ _

theorem ascii_of_all {safe : List Char}
    (all : (safe.all fun character => character.toNat < 128 ∧ character ≠ '%') = true) :
    ∀ character ∈ safe, character.toNat < 128 ∧ character ≠ '%' := fun character member =>
  of_decide_eq_true (List.all_eq_true.mp all character member)

theorem purl_inj {left right leftVersion rightVersion : String} :
    purl left leftVersion = purl right rightVersion ↔
      normalizeName left.toList = normalizeName right.toList ∧ leftVersion = rightVersion := by
  constructor
  · intro same
    have texts := congrArg String.toList same
    rw [toList_purl, toList_purl] at texts
    obtain ⟨names, -, versions⟩ := (List.append_cons_inj_of_notMem
      (not_mem_quote_at (by decide) _) (not_mem_quote_at (by decide) _)).mp
        (List.append_cancel_left texts)
    exact ⟨quote_injective (ascii_of_all (by decide)) names,
      String.toList_inj.mp (quote_injective (ascii_of_all (by decide)) versions)⟩
  · rintro ⟨names, rfl⟩
    rw [purl, purl, names]

def pinUrl (pin : String × String) : String := purl pin.1 pin.2

theorem pinUrl_inj {left right : String × String} (leftNormal : Normal left.1)
    (rightNormal : Normal right.1) : pinUrl left = pinUrl right ↔ left = right := by
  rw [pinUrl, pinUrl, purl_inj, leftNormal, rightNormal, String.toList_inj, Prod.ext_iff]

end VoodooOne.Dependency
