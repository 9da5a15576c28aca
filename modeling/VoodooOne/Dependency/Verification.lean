import VoodooOne.Dependency.Specification

/-!
# Verification

A snapshot and its specification say exactly what the locks pin, and an SBOM is accepted exactly
when it has that, as long as no pin stands in a form that the line pattern skips or misreads and no
package of another ecosystem bears the name and the version of a pin.
-/

namespace VoodooOne.Dependency

abbrev Package := List (Text × TextValue)

namespace Package

/-- The URL that the name and the version make up. -/
def namedUrl? (package : Package) : Option Text := do
  let name ← (TextValue.get package "name").text?
  let version ← (TextValue.get package "versionInfo").text?
  let name ← TextUnit.encode? name
  let version ← TextUnit.encode? version
  return .ofString (purl name version)

/-- The URLs that a package stands for, whatever its ecosystem. -/
def urls (package : Package) : List Text :=
  (namedUrl? package).toList ++ (locators package).filter (pypiPrefix <+: ·)

/-- A package with a name and a version has no surrogates in them. -/
def Plain (package : Package) : Prop :=
  ∀ name version, (TextValue.get package "name").text? = some name →
    (TextValue.get package "versionInfo").text? = some version →
      TextUnit.Plain name ∧ TextUnit.Plain version

/-- A package of PyPI: a locator says so, or no locator names an ecosystem. -/
def OfPyPI (package : Package) : Prop :=
  (∃ locator ∈ locators package, pypiPrefix <+: locator) ∨
    ∀ locator ∈ locators package, ¬Text.ofString "pkg:" <+: locator

theorem namedPurls_eq_ok {package : Package} {found : List Text} :
    namedPurls package = .ok found ↔ package.Plain ∧ found = (namedUrl? package).toList := by
  unfold namedPurls Plain namedUrl?
  cases (TextValue.get package "name").text? with
  | none => simp [eq_comm]
  | some name =>
      cases (TextValue.get package "versionInfo").text? with
      | none => simp [eq_comm]
      | some version =>
          have both : (∀ left right, some name = some left → some version = some right →
              TextUnit.Plain left ∧ TextUnit.Plain right) ↔
                (TextUnit.encode? name).isSome ∧ (TextUnit.encode? version).isSome := by
            rw [TextUnit.encode?_isSome, TextUnit.encode?_isSome]
            refine ⟨fun all => all name version rfl rfl, ?_⟩
            rintro plain _ _ ⟨⟩ ⟨⟩
            exact plain
          rw [both]
          simp only [bind_eq_ok, quotable, orRaise_eq_ok, pure_eq_ok, Option.bind_eq_bind,
            Option.bind_some]
          cases TextUnit.encode? name with
          | none => simp
          | some name => cases TextUnit.encode? version <;> simp [eq_comm]

theorem packagePurls_eq_ok {package : TextValue} {found : List Text} :
    packagePurls package = .ok found ↔ (∀ fields ∈ package.fields?, Plain fields) ∧
      found = package.fields?.elim [] urls := by
  unfold packagePurls
  cases package.fields? with
  | none => simp [eq_comm]
  | some fields =>
      simp only [bind_eq_ok, namedPurls_eq_ok, pure_eq_ok, Option.mem_some_iff, forall_eq',
        Option.elim_some, urls]
      constructor
      · rintro ⟨_, ⟨plain, rfl⟩, rfl⟩
        exact ⟨plain, rfl⟩
      · rintro ⟨plain, rfl⟩
        exact ⟨_, ⟨plain, rfl⟩, rfl⟩

end Package

abbrev Sbom := List (Text × TextValue)

namespace Sbom

/-- The items of the packages, where the answer has the form of an SBOM. -/
def items (sbom : Sbom) : Option (List TextValue) :=
  (TextValue.get sbom "sbom").fields?.bind fun document =>
    items? (TextValue.get document "packages")

def packages (sbom : Sbom) : List Package :=
  (sbom.items.getD []).filterMap TextValue.fields?

def Observes (sbom : Sbom) (url : String) : Prop :=
  ∃ package ∈ sbom.packages, Text.ofString url ∈ package.urls

/-- Some PyPI package stands for the URL. -/
def Contains (sbom : Sbom) (url : String) : Prop :=
  ∃ package ∈ sbom.packages, package.OfPyPI ∧ Text.ofString url ∈ package.urls

/-- Only packages of other ecosystems stand for the URL. -/
def Foreign (sbom : Sbom) (url : String) : Prop := sbom.Observes url ∧ ¬sbom.Contains url

/-- Every package of PyPI and of other ecosystems has names without surrogates. -/
def Plain (sbom : Sbom) : Prop := ∀ package ∈ sbom.packages, package.Plain

variable {sbom : Sbom} {url : String}

theorem Contains.observes (contains : sbom.Contains url) : sbom.Observes url := by
  obtain ⟨package, listed, -, own⟩ := contains
  exact ⟨package, listed, own⟩

theorem sbomPurls_eq_ok {found : List Text} : sbomPurls sbom = .ok found ↔
    sbom.items ≠ none ∧ sbom.Plain ∧ found = sbom.packages.flatMap Package.urls := by
  have urls (items : List TextValue) :
      (items.map fun item => item.fields?.elim [] Package.urls).flatten =
        (items.filterMap TextValue.fields?).flatMap Package.urls := by
    induction items with
    | nil => rfl
    | cons item items induction =>
        rw [List.map_cons, List.flatten_cons, induction]
        cases fields : item.fields? with
        | none => rw [List.filterMap_cons_none fields]; rfl
        | some own => rw [List.filterMap_cons_some fields]; rfl
  unfold sbomPurls Plain packages items
  cases (TextValue.get sbom "sbom").fields? with
  | none => simp [orRaise]
  | some document =>
      simp only [bind_eq_ok, orRaise_eq_ok, pure_eq_ok, Option.bind_some, Option.some.injEq,
        exists_eq_left']
      cases items? (TextValue.get document "packages") with
      | none => simp
      | some items =>
          simp only [mapM_eq_ok fun _ _ => Package.packagePurls_eq_ok, Option.some.injEq,
            exists_eq_left', Option.getD_some, reduceCtorEq, not_false_eq_true, ne_eq, true_and,
            List.mem_filterMap, Option.mem_def]
          constructor
          · rintro ⟨_, ⟨plain, rfl⟩, rfl⟩
            refine ⟨?_, urls items⟩
            rintro package ⟨item, listed, own⟩
            exact plain item listed package own
          · rintro ⟨plain, rfl⟩
            exact ⟨_, ⟨fun item listed package own => plain package ⟨item, listed, own⟩, rfl⟩,
              urls items⟩

/-- A valid specification accepts an SBOM whose packages stand for every expected URL and no stale
one. -/
theorem verifySbom_eq_ok {verification : VerificationSpec}
    (contract : verification.contract = verificationContract)
    (sha : requireSha verification.sha = .ok ()) (ref : requireMainRef verification.ref = .ok ())
    (detector : verification.detectorName = detectorName)
    (correlated : verification.correlator = correlator) :
    verifySbom verification sbom = .ok () ↔ sbom.items ≠ none ∧ sbom.Plain ∧
      (∀ url ∈ verification.expectedPurls, sbom.Observes url) ∧
      ∀ url ∈ verification.stalePurls, ¬sbom.Observes url := by
  have observed (url : String) :
      Text.ofString url ∈ sbom.packages.flatMap Package.urls ↔ sbom.Observes url :=
    List.mem_flatMap
  simp only [verifySbom, contract, detector, correlated, sha, ref, bind_eq_ok, raiseIf_eq_ok,
    sbomPurls_eq_ok, not_true_eq_false, not_false_eq_true, ne_eq, not_not, exists_const, true_and,
    List.filter_eq_nil_iff, decide_eq_true_eq]
  constructor
  · rintro ⟨_, ⟨formed, plain, rfl⟩, expected, stale⟩
    simp only [observed] at expected stale
    exact ⟨formed, plain, expected, stale⟩
  · rintro ⟨formed, plain, expected, stale⟩
    refine ⟨_, ⟨formed, plain, rfl⟩, ?_⟩
    simp only [observed]
    exact ⟨expected, stale⟩

end Sbom

/-- No line is misread, the lines that are not skipped do not conflict, and there is one. -/
structure LockFile.Regular (lock : LockFile) : Prop where
  clear : lock.Clear
  consistent : ∀ one other, lock.States one → lock.States other → one.1 = other.1 → one.2 = other.2
  pins : ∃ pin, lock.States pin

theorem LockFile.parses_iff_regular {lock : LockFile} (clear : lock.Clear) :
    Functional lock.read ∧ lock.read ≠ [] ↔ lock.Regular := by
  have functional : Functional lock.read ↔ ∀ one other, lock.States one → lock.States other →
      one.1 = other.1 → one.2 = other.2 := by
    simp only [Functional, mem_read_iff_states clear]
    exact ⟨fun all one other here there => all one here other there,
      fun all one here other there => all one other here there⟩
  have nonempty : lock.read ≠ [] ↔ ∃ pin, lock.States pin := by
    simp only [← mem_read_iff_states clear]
    refine ⟨List.exists_mem_of_ne_nil _, ?_⟩
    rintro ⟨_, found⟩
    exact List.ne_nil_of_mem found
  rw [functional, nonempty]
  constructor
  · rintro ⟨consistent, pins⟩
    exact ⟨clear, consistent, pins⟩
  · intro regular
    exact ⟨regular.consistent, regular.pins⟩

namespace Setting

variable (setting : Setting)

def Expected (url : String) : Prop := ∃ pin ∈ setting.locks.pinned, pinUrl pin = url

/-- A URL that must not be: it was pinned before and is pinned nowhere now. -/
def Stale (url : String) : Prop :=
  ∃ pin ∈ setting.previouslyPinned, pin ∉ setting.locks.pinned ∧ pinUrl pin = url

/-- The snapshot covers the locks, the specification names the URLs, and the SBOM is accepted
exactly when it has the expected ones as PyPI packages and none of the stale ones. -/
structure Covered (sbom : Sbom) (snapshot : DependencySnapshot) (spec : VerificationSpec) :
    Prop where
  manifests : ∃ product dev, snapshot.manifests =
    [("requirements-product.txt", product), ("requirements-dev.in", dev)] ∧
      Covers product setting.locks.product.pinned ∧ Covers dev setting.locks.dev.pinned
  expected : ∀ url, url ∈ spec.expectedPurls ↔ setting.Expected url
  stale : ∀ url, url ∈ spec.stalePurls ↔ setting.Stale url
  disjoint : ∀ url ∈ spec.expectedPurls, url ∉ spec.stalePurls
  verified : verifySbom spec sbom = .ok () ↔ (∀ url, setting.Expected url → sbom.Contains url) ∧
      ∀ url, setting.Stale url → ¬sbom.Contains url

/-- The locks are regular, every current pin is stated by a line that is not skipped, and so is
every earlier pin that is gone. -/
structure Exact : Prop where
  regular : ∀ lock ∈ setting.allLocks, lock.Regular
  current : ∀ lock ∈ [setting.locks.product, setting.locks.dev], ∀ pin ∈ lock.pinned,
    lock.States pin
  previous : ∀ pin ∈ setting.previouslyPinned, pin ∈ setting.locks.pinned ∨
    ∃ lock ∈ setting.previousLocks, lock.States pin

/-- An expected URL is nowhere, or a stale one is that of a PyPI package, and the SBOM is refused in
any case; or other ecosystems and surrogates do not matter. -/
def Decided (sbom : Sbom) : Prop :=
  (∃ url, setting.Expected url ∧ ¬sbom.Observes url) ∨
  (∃ url, setting.Stale url ∧ sbom.Contains url) ∨
  ((∃ url, setting.Expected url ∧ sbom.Foreign url) ↔
    ¬sbom.Plain ∨ ∃ url, setting.Stale url ∧ sbom.Foreign url)

variable {setting : Setting} {sbom : Sbom} {snapshot : DependencySnapshot} {spec : VerificationSpec}

/-- A snapshot covers the locks when the pattern finds exactly their pins. -/
theorem manifests_iff (written : Written setting snapshot spec) :
    (∃ product dev, snapshot.manifests =
      [("requirements-product.txt", product), ("requirements-dev.in", dev)] ∧
        Covers product setting.locks.product.pinned ∧ Covers dev setting.locks.dev.pinned) ↔
      ∀ lock ∈ [setting.locks.product, setting.locks.dev],
        ∀ pin, pin ∈ lock.read ↔ pin ∈ lock.pinned := by
  obtain ⟨productPins, devPins, productHolds, devHolds, manifests⟩ := written.manifests
  rw [manifests]
  simp only [List.forall_mem_cons, List.not_mem_nil, false_imp_iff, implies_true, and_true,
    ← productHolds.mem_iff, ← devHolds.mem_iff]
  constructor
  · rintro ⟨product, dev, same, productCovers, devCovers⟩
    obtain ⟨first, later⟩ := List.cons.inj same
    obtain ⟨-, rfl⟩ := Prod.mk.inj first
    obtain ⟨-, rfl⟩ := Prod.mk.inj (List.cons.inj later).1
    exact ⟨(covers_resolved productHolds.keyed).mp productCovers,
      (covers_resolved devHolds.keyed).mp devCovers⟩
  · rintro ⟨product, dev⟩
    exact ⟨_, _, rfl, (covers_resolved productHolds.keyed).mpr product,
      (covers_resolved devHolds.keyed).mpr dev⟩

theorem mem_pinned_of_read (exact : ∀ lock ∈ [setting.locks.product, setting.locks.dev],
    ∀ pin, pin ∈ lock.read ↔ pin ∈ lock.pinned) (pin : String × String) :
    pin ∈ setting.locks.read ↔ pin ∈ setting.locks.pinned := by
  rw [LockPair.read, LockPair.pinned, List.mem_append, List.mem_append,
    exact _ List.mem_cons_self, exact _ (List.mem_cons_of_mem _ List.mem_cons_self)]

theorem normal_of_mem_previouslyPinned {pin : String × String}
    (found : pin ∈ setting.previouslyPinned) : Normal pin.1 := by
  obtain ⟨lock, -, own⟩ := List.mem_flatMap.mp found
  exact normal_of_mem_pinned own

/-- The stale URLs are those of the earlier pins that are gone when no earlier line is misread and
the lines that are not skipped state every such pin. -/
theorem stale_exact_iff (current : ∀ pin, pin ∈ setting.locks.read ↔ pin ∈ setting.locks.pinned) :
    (∀ url, (∃ pin ∈ setting.previouslyRead, pin ∉ setting.locks.read ∧ pinUrl pin = url) ↔
      setting.Stale url) ↔
      (∀ lock ∈ setting.previousLocks, lock.Clear) ∧
        ∀ pin ∈ setting.previouslyPinned, pin ∈ setting.locks.pinned ∨
          ∃ lock ∈ setting.previousLocks, lock.States pin := by
  simp only [Stale, current]
  constructor
  · intro same
    have clear : ∀ lock ∈ setting.previousLocks, lock.Clear := by
      intro lock listed
      refine LockFile.clear_iff.mpr fun pin found improper => ?_
      have earlier : pin ∈ setting.previouslyRead := List.mem_flatMap.mpr ⟨lock, listed, found⟩
      have gone : pin ∉ setting.locks.pinned := fun pinned =>
        (List.mem_append.mp pinned).elim (fun own => LockFile.not_improper_of_pinned own improper)
          fun own => LockFile.not_improper_of_pinned own improper
      obtain ⟨other, stated, -, url⟩ := (same (pinUrl pin)).mp ⟨pin, earlier, gone, rfl⟩
      have equal := (pinUrl_inj (normal_of_mem_previouslyPinned stated)
        (normal_of_mem_previouslyRead earlier)).mp url
      obtain ⟨own, -, pinned⟩ := List.mem_flatMap.mp stated
      exact LockFile.not_improper_of_pinned (equal ▸ pinned) improper
    refine ⟨clear, fun pin stated => ?_⟩
    by_cases kept : pin ∈ setting.locks.pinned
    · exact .inl kept
    · obtain ⟨other, earlier, -, url⟩ := (same (pinUrl pin)).mpr ⟨pin, stated, kept, rfl⟩
      have equal := (pinUrl_inj (normal_of_mem_previouslyRead earlier)
        (normal_of_mem_previouslyPinned stated)).mp url
      obtain ⟨lock, listed, found⟩ := List.mem_flatMap.mp earlier
      exact .inr ⟨lock, listed, equal ▸ (LockFile.mem_read_iff_states (clear lock listed)).mp found⟩
  · rintro ⟨clear, stated⟩ url
    constructor
    · rintro ⟨pin, earlier, gone, rfl⟩
      obtain ⟨lock, listed, found⟩ := List.mem_flatMap.mp earlier
      have states := (LockFile.mem_read_iff_states (clear lock listed)).mp found
      exact ⟨pin, List.mem_flatMap.mpr ⟨lock, listed, states.pinned⟩, gone, rfl⟩
    · rintro ⟨pin, pinned, gone, rfl⟩
      obtain ⟨lock, listed, states⟩ := (stated pin pinned).resolve_left gone
      have found := (LockFile.mem_read_iff_states (clear lock listed)).mpr states
      exact ⟨pin, List.mem_flatMap.mpr ⟨lock, listed, found⟩, gone, rfl⟩

/-- The verdict is right when packages of other ecosystems and surrogates do not decide it. -/
theorem verdict_iff (some : ∃ url, setting.Expected url) : ((sbom.items ≠ none ∧ sbom.Plain ∧
      (∀ url, setting.Expected url → sbom.Observes url) ∧
      ∀ url, setting.Stale url → ¬sbom.Observes url) ↔
    (∀ url, setting.Expected url → sbom.Contains url) ∧
      ∀ url, setting.Stale url → ¬sbom.Contains url) ↔ setting.Decided sbom := by
  by_cases expected : ∀ url, setting.Expected url → sbom.Observes url
  · by_cases stale : ∀ url, setting.Stale url → ¬sbom.Contains url
    · have formed : sbom.items ≠ none := by
        obtain ⟨url, own⟩ := some
        obtain ⟨package, listed, -⟩ := expected url own
        intro unformed
        rw [Sbom.packages, unformed] at listed
        exact absurd listed List.not_mem_nil
      have contained : (∀ url, setting.Expected url → sbom.Contains url) ↔
          ¬∃ url, setting.Expected url ∧ sbom.Foreign url := by
        push Not
        refine forall₂_congr fun url own => ?_
        simp [Sbom.Foreign, expected url own]
      have absent : (∀ url, setting.Stale url → ¬sbom.Observes url) ↔
          ¬∃ url, setting.Stale url ∧ sbom.Foreign url := by
        push Not
        refine forall₂_congr fun url own => ?_
        simp [Sbom.Foreign, stale url own]
      have never : ¬∃ url, setting.Expected url ∧ ¬sbom.Observes url := by
        push Not
        exact expected
      have nowhere : ¬∃ url, setting.Stale url ∧ sbom.Contains url := by
        push Not
        exact stale
      have accepted : (sbom.items ≠ none ∧ sbom.Plain ∧
          (∀ url, setting.Expected url → sbom.Observes url) ∧
          ∀ url, setting.Stale url → ¬sbom.Observes url) ↔
            ¬(¬sbom.Plain ∨ ∃ url, setting.Stale url ∧ sbom.Foreign url) := by
        rw [not_or, not_not, ← absent]
        exact ⟨fun ⟨_, plain, _, gone⟩ => ⟨plain, gone⟩,
          fun ⟨plain, gone⟩ => ⟨formed, plain, expected, gone⟩⟩
      rw [Decided, or_iff_right never, or_iff_right nowhere, accepted, and_iff_left stale,
        contained, not_iff_not]
      exact iff_comm
    · have decided : setting.Decided sbom := by
        push Not at stale
        exact .inr (.inl stale)
      have observed : ¬∀ url, setting.Stale url → ¬sbom.Observes url := fun absent =>
        stale fun url own contains => absent url own contains.observes
      exact iff_of_true (iff_of_false (fun all => observed all.2.2.2) fun all => stale all.2)
        decided
  · have decided : setting.Decided sbom := by
      push Not at expected
      exact .inl expected
    have missing : ¬∀ url, setting.Expected url → sbom.Contains url := fun contained =>
      expected fun url own => (contained url own).observes
    exact iff_of_true (iff_of_false (fun all => expected all.2.2.1) fun all => missing all.1)
      decided

theorem judged (written : Written setting snapshot spec)
    (expected : ∀ url, url ∈ spec.expectedPurls ↔ setting.Expected url)
    (stale : ∀ url, url ∈ spec.stalePurls ↔ setting.Stale url) :
    verifySbom spec sbom = .ok () ↔ sbom.items ≠ none ∧ sbom.Plain ∧
      (∀ url, setting.Expected url → sbom.Observes url) ∧
      ∀ url, setting.Stale url → ¬sbom.Observes url := by
  obtain ⟨contract, sha, ref, detector, correlated⟩ := written.identity
  have commit : requireSha spec.sha = .ok () := by
    rw [sha]
    exact setting.commit
  have main : requireMainRef spec.ref = .ok () := raiseIf_of_not (not_not.mpr ref)
  rw [Sbom.verifySbom_eq_ok contract commit main detector correlated]
  simp only [expected, stale]

theorem exists_expected {lock : LockFile} (regular : lock.Regular)
    (listed : lock ∈ [setting.locks.product, setting.locks.dev]) :
    ∃ url, setting.Expected url := by
  obtain ⟨pin, states⟩ := regular.pins
  refine ⟨pinUrl pin, pin, ?_, rfl⟩
  rcases List.mem_pair.mp listed with rfl | rfl
  · exact List.mem_append_left _ states.pinned
  · exact List.mem_append_right _ states.pinned

theorem mem_allLocks {lock : LockFile} : lock ∈ setting.allLocks ↔
    lock ∈ [setting.locks.product, setting.locks.dev] ∨ lock ∈ setting.previousLocks := by
  rw [← List.mem_append]
  rfl

/-- The code writes a snapshot and a specification that cover the locks, and the SBOM is judged by
them, exactly when the locks are exact and the SBOM is decided. -/
theorem covered_iff (setting : Setting) (sbom : Sbom) :
    (∃ snapshot spec, setting.inputs.writeSnapshot = .ok (snapshot, spec) ∧
      setting.Covered sbom snapshot spec) ↔ setting.Exact ∧ setting.Decided sbom := by
  have first : setting.locks.product ∈ [setting.locks.product, setting.locks.dev] :=
    List.mem_cons_self
  constructor
  · rintro ⟨snapshot, spec, ok, covered⟩
    have written := written_of_ok ok
    have parses := writeSnapshot_ok_iff.mp ⟨snapshot, spec, ok⟩
    have reads := (manifests_iff written).mp covered.manifests
    obtain ⟨clear, previous⟩ := (stale_exact_iff (mem_pinned_of_read reads)).mp fun url =>
      (written.stale url).symm.trans (covered.stale url)
    have regular : ∀ lock ∈ setting.allLocks, lock.Regular := by
      intro lock listed
      refine (LockFile.parses_iff_regular ?_).mp (parses lock listed)
      rcases mem_allLocks.mp listed with current | earlier
      · exact (LockFile.read_exact_iff.mp (reads lock current)).1
      · exact clear lock earlier
    have some := exists_expected (regular _ (mem_allLocks.mpr (.inl first))) first
    refine ⟨⟨regular, fun lock current => (LockFile.read_exact_iff.mp (reads lock current)).2,
      previous⟩, (verdict_iff some).mp ?_⟩
    rw [← judged written covered.expected covered.stale]
    exact covered.verified
  · rintro ⟨exact, decided⟩
    have parses : ∀ lock ∈ setting.allLocks, Functional lock.read ∧ lock.read ≠ [] :=
      fun lock listed => (LockFile.parses_iff_regular (exact.regular lock listed).clear).mpr
        (exact.regular lock listed)
    obtain ⟨snapshot, spec, ok⟩ := writeSnapshot_ok_iff.mpr parses
    have written := written_of_ok ok
    have reads : ∀ lock ∈ [setting.locks.product, setting.locks.dev],
        ∀ pin, pin ∈ lock.read ↔ pin ∈ lock.pinned := fun lock current =>
      LockFile.read_exact_iff.mpr ⟨(exact.regular lock (mem_allLocks.mpr (.inl current))).clear,
        exact.current lock current⟩
    have current := mem_pinned_of_read reads
    have expected (url : String) : url ∈ spec.expectedPurls ↔ setting.Expected url := by
      simp only [written.expected, Expected, current]
    have clear : ∀ lock ∈ setting.previousLocks, lock.Clear := fun lock earlier =>
      (exact.regular lock (mem_allLocks.mpr (.inr earlier))).clear
    have stale (url : String) : url ∈ spec.stalePurls ↔ setting.Stale url :=
      (written.stale url).trans ((stale_exact_iff current).mpr ⟨clear, exact.previous⟩ url)
    have some := exists_expected (exact.regular _ (mem_allLocks.mpr (.inl first))) first
    refine ⟨snapshot, spec, ok, (manifests_iff written).mpr reads, expected, stale,
      written.disjoint, ?_⟩
    rw [judged written expected stale]
    exact (verdict_iff some).mpr decided

end Setting

/-- `uvicorn[standard]==0.52.4 \`. -/
def uvicorn : Requirement where
  indent := []
  name := "uvicorn".toList
  extras := some "standard".toList
  before := []
  after := []
  version := "0.52.4".toList
  tail := " \\".toList
  named := ⟨⟨'u', _, rfl, rfl⟩, List.all_eq_true.mp rfl⟩
  gaps := List.all_eq_true.mp rfl
  versioned := ⟨List.cons_ne_nil _ _, List.all_eq_true.mp rfl⟩
  followed := List.mem_cons_of_mem _ List.mem_cons_self

/-- `h11==0.16.0 \`. -/
def h11 : Requirement where
  indent := []
  name := "h11".toList
  extras := none
  before := []
  after := []
  version := "0.16.0".toList
  tail := " \\".toList
  named := ⟨⟨'h', _, rfl, rfl⟩, List.all_eq_true.mp rfl⟩
  gaps := List.all_eq_true.mp rfl
  versioned := ⟨List.cons_ne_nil _ _, List.all_eq_true.mp rfl⟩
  followed := List.mem_cons_of_mem _ List.mem_cons_self

theorem filler_hash : Filler "    --hash=sha256:63cf".toList :=
  ⟨"    ".toList, "--hash=sha256:63cf".toList, rfl, List.all_eq_true.mp rfl,
    .inr ⟨"-hash".toList, "=sha256:63cf".toList, rfl, List.all_eq_true.mp rfl,
      .inr ⟨"sha256:63cf".toList, rfl, by decide⟩⟩⟩

/-- A lock as pip-compile writes it. -/
def compiledLock : LockFile where
  content := ("h11==0.16.0 \\\n    --hash=sha256:63cf\n" ++
    "uvicorn[standard]==0.52.4 \\\n    --hash=sha256:63cf\n").toList
  lines := [.requirement h11, .filler _ filler_hash, .requirement uvicorn, .filler _ filler_hash]
  split := rfl

theorem requireSha_repeated : requireSha (String.ofList (List.replicate 40 'a')) = .ok () := by
  rw [requireSha, raiseIf_eq_ok, not_not, String.length_ofList, List.length_replicate,
    String.toList_ofList]
  refine ⟨rfl, List.all_eq_true.mpr fun character member => ?_⟩
  rw [List.eq_of_mem_replicate member]
  rfl

def compiledSetting (snapshotSha256 : DependencySnapshot → String) : Setting where
  sha := String.ofList (List.replicate 40 'a')
  scanned := "2026-07-01T00:00:00Z"
  commit := requireSha_repeated
  locks := ⟨compiledLock, compiledLock⟩
  productDirect := ["uvicorn"]
  devDirect := []
  previous := none
  snapshotSha256 := snapshotSha256

/-- The lock of a package with extras is not covered. -/
theorem not_covered_extras : ¬∀ (setting : Setting) (sbom : Sbom), ∃ snapshot spec,
    setting.inputs.writeSnapshot = .ok (snapshot, spec) ∧ setting.Covered sbom snapshot spec := by
  intro always
  obtain ⟨snapshot, spec, ok, covered⟩ := always (compiledSetting fun _ => "") []
  have reads := (Setting.manifests_iff (Setting.written_of_ok ok)).mp covered.manifests
  have stated := (LockFile.read_exact_iff.mp (reads compiledLock List.mem_cons_self)).2
  obtain ⟨requirement, listed, read, same⟩ :=
    stated uvicorn.pin (List.mem_map_of_mem (List.mem_cons_of_mem _ List.mem_cons_self))
  rcases List.mem_pair.mp listed with rfl | rfl
  · have names := String.ofList_inj.mp (congrArg Prod.fst same)
    exact absurd names (by decide)
  · exact read (.inr (.inl (Option.some_ne_none _)))

end VoodooOne.Dependency
