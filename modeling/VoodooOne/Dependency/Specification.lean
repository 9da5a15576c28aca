import VoodooOne.Dependency.LockPins

/-!
# Specifications

What a written snapshot and its specification hold, and when they are written at all.
-/

namespace VoodooOne.Dependency

/-- An entry of a manifest records the package and the version of a pin. -/
def Records (entry : String × ResolvedDependency) (pin : String × String) : Prop :=
  entry.1 = pin.1 ∧ entry.2.packageUrl = pinUrl pin

instance (entry : String × ResolvedDependency) (pin : String × String) :
    Decidable (Records entry pin) := inferInstanceAs (Decidable (_ ∧ _))

structure Covers (entries : List (String × ResolvedDependency)) (pinned : Pins) : Prop where
  once : ∀ pin ∈ pinned, entries.countP (fun entry => Records entry pin) = 1
  only : ∀ entry ∈ entries, ∃ pin ∈ pinned, Records entry pin

section

variable {pins pinned : Pins} {direct : List String} {scope : String}

theorem mem_resolved {entry : String × ResolvedDependency}
    (there : entry ∈ resolved pins direct scope) :
    ∃ pin ∈ pins, Records entry pin := by
  obtain ⟨pin, found, rfl⟩ := List.mem_map.mp there
  exact ⟨pin, (List.mem_insertionSort _).mp found, rfl, rfl⟩

theorem exists_records {pin : String × String} (found : pin ∈ pins) :
    ∃ entry ∈ resolved pins direct scope, Records entry pin :=
  ⟨_, List.mem_map_of_mem ((List.mem_insertionSort _).mpr found), rfl, rfl⟩

theorem Records.unique {entry : String × ResolvedDependency} {left right : String × String}
    (one : Records entry left) (other : Records entry right) : left = right := by
  have versions := (purl_inj.mp (one.2.symm.trans other.2)).2
  exact Prod.ext (one.1.symm.trans other.1) versions

theorem countP_resolved (pin : String × String) :
    (resolved pins direct scope).countP (fun entry => Records entry pin) =
      pins.countP fun other => decide (other = pin) := by
  rw [resolved, List.countP_map, (List.perm_insertionSort _ pins).countP_eq]
  refine List.countP_congr fun other _ => ?_
  simp only [Function.comp_apply, decide_eq_true_eq]
  refine ⟨fun records => Records.unique ⟨rfl, rfl⟩ records, ?_⟩
  rintro rfl
  exact ⟨rfl, rfl⟩

theorem covers_resolved (keyed : Table.Keyed Prod.fst pins) :
    Covers (resolved pins direct scope) pinned ↔ ∀ pin, pin ∈ pins ↔ pin ∈ pinned := by
  constructor
  · intro covers pin
    constructor
    · intro found
      obtain ⟨entry, there, records⟩ := exists_records found
      obtain ⟨other, listed, same⟩ := covers.only entry there
      rwa [records.unique same]
    · intro listed
      have counted := covers.once pin listed
      obtain ⟨entry, there, records⟩ := List.countP_pos_iff.mp (counted ▸ Nat.one_pos)
      obtain ⟨other, found, same⟩ := mem_resolved there
      rwa [(of_decide_eq_true records).unique same]
  · intro same
    refine ⟨fun pin listed => ?_, fun entry there => ?_⟩
    · have found := (same pin).mpr listed
      rw [countP_resolved]
      refine keyed.countP_eq_one found fun other member => ?_
      rw [decide_eq_true_eq]
      exact ⟨congrArg Prod.fst, fun names => keyed.unique member found names⟩
    · obtain ⟨pin, found, records⟩ := mem_resolved there
      exact ⟨pin, (same pin).mp found, records⟩

end

structure LockPair where
  (product dev : LockFile)

def LockPair.pinned (locks : LockPair) : Pins := locks.product.pinned ++ locks.dev.pinned

def LockPair.read (locks : LockPair) : Pins := locks.product.read ++ locks.dev.read

structure Setting where
  (sha scanned : String)
  commit : requireSha sha = .ok ()
  locks : LockPair
  (productDirect devDirect : List String)
  previous : Option LockPair
  snapshotSha256 : DependencySnapshot → String

namespace Setting

variable (setting : Setting)

def inputs : SnapshotInputs where
  sha := setting.sha
  ref := "refs/heads/main"
  scanned := setting.scanned
  productLock := setting.locks.product.content
  devLock := setting.locks.dev.content
  productDirect := setting.productDirect
  devDirect := setting.devDirect
  previousLocks := setting.previous.map fun locks => (locks.product.content, locks.dev.content)
  snapshotSha256 := setting.snapshotSha256

def previousLocks : List LockFile :=
  setting.previous.elim [] fun locks => [locks.product, locks.dev]

/-- The pins that the previous locks state. -/
def previouslyPinned : Pins := setting.previousLocks.flatMap LockFile.pinned

/-- The pins that the pattern finds in the previous locks. -/
def previouslyRead : Pins := setting.previousLocks.flatMap LockFile.read

def allLocks : List LockFile :=
  setting.locks.product :: setting.locks.dev :: setting.previousLocks

end Setting

theorem normal_of_mem_read {lock : LockFile} {pin : String × String} (found : pin ∈ lock.read) :
    Normal pin.1 := by
  obtain ⟨requirement, -, match', -, rfl⟩ := LockFile.mem_read.mp found
  exact normal_ofList_normalizeName _

theorem normal_of_mem_pinned {lock : LockFile} {pin : String × String} (found : pin ∈ lock.pinned) :
    Normal pin.1 := by
  obtain ⟨requirement, -, rfl⟩ := List.mem_map.mp found
  exact normal_ofList_normalizeName _

/-- A dictionary holds the pins that the pattern finds in a lock. -/
structure Holds (pins : Pins) (lock : LockFile) : Prop where
  keyed : Table.Keyed Prod.fst pins
  mem_iff : ∀ pin, pin ∈ pins ↔ pin ∈ lock.read

theorem holds_of_parseLock {file : String} {lock : LockFile} {pins : Pins}
    (parsed : parseLock file lock.content = .ok pins) : Holds pins lock :=
  ⟨(LockFile.parseLock_spec parsed).1, (LockFile.parseLock_spec parsed).2⟩

theorem mem_urls_resolved {pins : Pins} {direct : List String} {scope url : String} :
    url ∈ (resolved pins direct scope).map (fun entry => entry.2.packageUrl) ↔
      ∃ pin ∈ pins, pinUrl pin = url := by
  constructor
  · intro there
    obtain ⟨entry, listed, rfl⟩ := List.mem_map.mp there
    obtain ⟨pin, found, records⟩ := mem_resolved listed
    exact ⟨pin, found, records.2.symm⟩
  · rintro ⟨pin, found, rfl⟩
    obtain ⟨entry, listed, records⟩ := exists_records found
    exact List.mem_map.mpr ⟨entry, listed, records.2⟩

theorem mem_previousVersions {current previous : Pins} (keyed : Table.Keyed Prod.fst current)
    {url : String} : url ∈ previousVersions current (some previous) ↔
      ∃ pin ∈ previous, pin ∉ current ∧ pinUrl pin = url := by
  simp only [previousVersions, List.mem_toFinset, List.mem_map, List.mem_filter,
    decide_eq_true_eq, ne_eq, lookup_eq_some keyed, and_assoc]
  rfl

theorem expectedPurls_eq_ok {snapshot : DependencySnapshot} {pins : Pins}
    (urls : ∀ url, url ∈ packageUrls snapshot ↔ ∃ pin ∈ pins, pinUrl pin = url) :
    expectedPurls snapshot = .ok (packageUrls snapshot).toFinset := by
  simp only [expectedPurls, bind_eq_ok, raiseIf_eq_ok, pure_eq_ok, exists_const, and_true]
  rintro ⟨url, there, foreign⟩
  obtain ⟨pin, -, rfl⟩ := (urls url).mp there
  exact foreign (pypi_purl _ _)

/-- The snapshot and the specification of some pins: those of the locks, and of the locks before. -/
structure Written (setting : Setting) (snapshot : DependencySnapshot) (spec : VerificationSpec) :
    Prop where
  manifests : ∃ productPins devPins, Holds productPins setting.locks.product ∧
    Holds devPins setting.locks.dev ∧ snapshot.manifests =
      [("requirements-product.txt", resolved productPins setting.productDirect "runtime"),
        ("requirements-dev.in", resolved devPins setting.devDirect "development")]
  identity : spec.contract = verificationContract ∧ spec.sha = setting.sha ∧
    spec.ref = "refs/heads/main" ∧ spec.detectorName = detectorName ∧ spec.correlator = correlator
  expected : ∀ url, url ∈ spec.expectedPurls ↔ ∃ pin ∈ setting.locks.read, pinUrl pin = url
  stale : ∀ url, url ∈ spec.stalePurls ↔
    ∃ pin ∈ setting.previouslyRead, pin ∉ setting.locks.read ∧ pinUrl pin = url
  disjoint : ∀ url ∈ spec.expectedPurls, url ∉ spec.stalePurls

namespace Setting

variable {setting : Setting}

theorem normal_of_mem_locks {locks : LockPair} {pin : String × String} (found : pin ∈ locks.read) :
    Normal pin.1 :=
  (List.mem_append.mp found).elim normal_of_mem_read normal_of_mem_read

theorem normal_of_mem_previouslyRead {pin : String × String}
    (found : pin ∈ setting.previouslyRead) : Normal pin.1 := by
  obtain ⟨lock, -, own⟩ := List.mem_flatMap.mp found
  exact normal_of_mem_read own

/-- The earlier pins that either lock no longer has, without the URLs of the current ones. -/
theorem stale_iff {locks previous : LockPair} {product dev oldProduct oldDev : Pins}
    (productHolds : Holds product locks.product) (devHolds : Holds dev locks.dev)
    (oldProductHolds : Holds oldProduct previous.product) (oldDevHolds : Holds oldDev previous.dev)
    (url : String) :
    (url ∈ previousVersions product (some oldProduct) ∪ previousVersions dev (some oldDev) ∧
      ¬∃ pin ∈ locks.read, pinUrl pin = url) ↔
      ∃ pin ∈ previous.read, pin ∉ locks.read ∧ pinUrl pin = url := by
  rw [Finset.mem_union, mem_previousVersions productHolds.keyed,
    mem_previousVersions devHolds.keyed]
  simp only [oldProductHolds.mem_iff, oldDevHolds.mem_iff, productHolds.mem_iff, devHolds.mem_iff]
  constructor
  · rintro ⟨⟨pin, found, -, rfl⟩ | ⟨pin, found, -, rfl⟩, gone⟩
    · exact ⟨pin, List.mem_append_left _ found, fun current => gone ⟨pin, current, rfl⟩, rfl⟩
    · exact ⟨pin, List.mem_append_right _ found, fun current => gone ⟨pin, current, rfl⟩, rfl⟩
  · rintro ⟨pin, found, gone, rfl⟩
    refine ⟨?_, ?_⟩
    · rcases List.mem_append.mp found with own | own
      · exact .inl ⟨pin, own, fun current => gone (List.mem_append_left _ current), rfl⟩
      · exact .inr ⟨pin, own, fun current => gone (List.mem_append_right _ current), rfl⟩
    · rintro ⟨other, current, same⟩
      have equal := (pinUrl_inj (normal_of_mem_locks current) (normal_of_mem_locks found)).mp same
      exact gone (equal ▸ current)

def snapshotOf (setting : Setting) (productPins devPins : Pins) : DependencySnapshot :=
  ⟨setting.sha, "refs/heads/main", setting.scanned,
    [("requirements-product.txt", resolved productPins setting.productDirect "runtime"),
      ("requirements-dev.in", resolved devPins setting.devDirect "development")]⟩

theorem buildSnapshotAndPins_eq_ok {built : DependencySnapshot × Pins × Pins} :
    setting.inputs.buildSnapshotAndPins = .ok built ↔ ∃ productPins devPins,
      parseLock "requirements-product.lock" setting.locks.product.content = .ok productPins ∧
      parseLock "requirements-dev.lock" setting.locks.dev.content = .ok devPins ∧
      (setting.snapshotOf productPins devPins, productPins, devPins) = built := by
  have main : requireMainRef "refs/heads/main" = .ok () := raiseIf_of_not (not_not.mpr rfl)
  simp only [SnapshotInputs.buildSnapshotAndPins, inputs, setting.commit, main, ok_bind,
    bind_eq_ok, pure_eq_ok, exists_and_left, snapshotOf]

theorem mem_packageUrls {productPins devPins : Pins}
    (productHolds : Holds productPins setting.locks.product)
    (devHolds : Holds devPins setting.locks.dev) (url : String) :
    url ∈ packageUrls (setting.snapshotOf productPins devPins) ↔
      ∃ pin ∈ setting.locks.read, pinUrl pin = url := by
  simp only [snapshotOf, packageUrls, List.flatMap_cons, List.flatMap_nil, List.append_nil,
    List.mem_append, mem_urls_resolved, productHolds.mem_iff, devHolds.mem_iff, LockPair.read,
    or_and_right, exists_or]

theorem mapM_option_eq_ok {α β : Type} {body : α → Except Raised β} {found : Option α}
    {result : Option β} : found.mapM body = .ok result ↔ (found = none ∧ result = none) ∨
        ∃ item value, found = some item ∧ body item = .ok value ∧ result = some value := by
  cases found with
  | none =>
      rw [Option.mapM_none, pure_eq_ok]
      simp [eq_comm]
  | some item =>
      cases ran : body item with
      | error error => simp [Option.mapM_some, ran]
      | ok value => simp [Option.mapM_some, ran, eq_comm]

theorem mapM_option_ok_iff {α β : Type} {body : α → Except Raised β} {found : Option α} :
    (∃ result, found.mapM body = .ok result) ↔ ∀ item ∈ found, ∃ value, body item = .ok value := by
  simp only [mapM_option_eq_ok]
  constructor
  · rintro ⟨_, ⟨rfl, -⟩ | ⟨item, value, rfl, ran, -⟩⟩
    · simp
    · rintro _ ⟨⟩
      exact ⟨value, ran⟩
  · intro all
    cases found with
    | none => exact ⟨none, .inl ⟨rfl, rfl⟩⟩
    | some item =>
        obtain ⟨value, ran⟩ := all item rfl
        exact ⟨some value, .inr ⟨item, value, rfl, ran, rfl⟩⟩

/-- The locks before are parsed, and what they add to the stale URLs. -/
theorem previous_of_ok {product dev : Pins} (productHolds : Holds product setting.locks.product)
    (devHolds : Holds dev setting.locks.dev) {oldProduct oldDev : Option Pins}
    (productParsed : (setting.inputs.previousLocks.mapM fun locks =>
      parseLock "previous-product.lock" locks.1) = .ok oldProduct)
    (devParsed : (setting.inputs.previousLocks.mapM fun locks =>
      parseLock "previous-dev.lock" locks.2) = .ok oldDev) (url : String) :
    (url ∈ previousVersions product oldProduct ∪ previousVersions dev oldDev ∧
      ¬∃ pin ∈ setting.locks.read, pinUrl pin = url) ↔
      ∃ pin ∈ setting.previouslyRead, pin ∉ setting.locks.read ∧ pinUrl pin = url := by
  rw [mapM_option_eq_ok, inputs] at productParsed devParsed
  unfold previouslyRead previousLocks
  cases previous : setting.previous with
  | none =>
      simp only [previous, Option.map_none, reduceCtorEq, false_and, exists_false, or_false,
        true_and] at productParsed devParsed
      rw [productParsed, devParsed]
      simp [previousVersions]
  | some locks =>
      simp only [previous, Option.map_some, reduceCtorEq, false_and, false_or, Option.some.injEq,
        exists_and_left, exists_eq_left'] at productParsed devParsed
      obtain ⟨oldProduct, productParsed, rfl⟩ := productParsed
      obtain ⟨oldDev, devParsed, rfl⟩ := devParsed
      rw [Option.elim_some, List.flatMap_cons, List.flatMap_singleton]
      exact stale_iff productHolds devHolds (holds_of_parseLock productParsed)
        (holds_of_parseLock devParsed) url

/-- What `write_snapshot` writes. -/
theorem written_of_ok {snapshot : DependencySnapshot} {spec : VerificationSpec}
    (ok : setting.inputs.writeSnapshot = .ok (snapshot, spec)) : Written setting snapshot spec := by
  simp only [SnapshotInputs.writeSnapshot, bind_eq_ok, buildSnapshotAndPins_eq_ok, pure_eq_ok,
    SnapshotInputs.buildVerificationSpec] at ok
  obtain ⟨_, ⟨productPins, devPins, productParsed, devParsed, rfl⟩, _, ⟨oldProduct, oldParsed,
    oldDev, oldDevParsed, found, expected, rfl⟩, same⟩ := ok
  obtain ⟨rfl, rfl⟩ := Prod.mk.inj same
  have productHolds := holds_of_parseLock productParsed
  have devHolds := holds_of_parseLock devParsed
  have urls := mem_packageUrls productHolds devHolds
  rw [expectedPurls_eq_ok urls] at expected
  cases expected
  refine ⟨⟨productPins, devPins, productHolds, devHolds, rfl⟩, ⟨rfl, rfl, rfl, rfl, rfl⟩,
    fun url => ?_, fun url => ?_, fun url => ?_⟩
  · rw [Finset.mem_sort, List.mem_toFinset, urls]
  · rw [Finset.mem_sort, Finset.mem_sdiff, List.mem_toFinset, urls]
    exact previous_of_ok productHolds devHolds oldParsed oldDevParsed url
  · rw [Finset.mem_sort, Finset.mem_sort, Finset.mem_sdiff]
    exact fun present stale => stale.2 present

theorem writeSnapshot_ok_iff :
    (∃ snapshot spec, setting.inputs.writeSnapshot = .ok (snapshot, spec)) ↔
      ∀ lock ∈ setting.allLocks, Functional lock.read ∧ lock.read ≠ [] := by
  have previous : (∀ lock ∈ setting.previousLocks, Functional lock.read ∧ lock.read ≠ []) ↔
      (∃ old, (setting.inputs.previousLocks.mapM fun locks =>
        parseLock "previous-product.lock" locks.1) = .ok old) ∧
      ∃ old, (setting.inputs.previousLocks.mapM fun locks =>
        parseLock "previous-dev.lock" locks.2) = .ok old := by
    simp only [mapM_option_ok_iff, inputs, previousLocks]
    cases setting.previous with
    | none => simp
    | some locks => simp [LockFile.parseLock_ok_iff]
  rw [allLocks, List.forall_mem_cons, List.forall_mem_cons, previous,
    ← LockFile.parseLock_ok_iff, ← LockFile.parseLock_ok_iff]
  constructor
  · rintro ⟨snapshot, spec, ok⟩
    simp only [SnapshotInputs.writeSnapshot, bind_eq_ok, buildSnapshotAndPins_eq_ok, pure_eq_ok,
      SnapshotInputs.buildVerificationSpec] at ok
    obtain ⟨_, ⟨productPins, devPins, productParsed, devParsed, rfl⟩, _, ⟨oldProduct, oldParsed,
      oldDev, oldDevParsed, -⟩, -⟩ := ok
    exact ⟨⟨_, productParsed⟩, ⟨_, devParsed⟩, ⟨_, oldParsed⟩, ⟨_, oldDevParsed⟩⟩
  · rintro ⟨⟨productPins, productParsed⟩, ⟨devPins, devParsed⟩, ⟨oldProduct, oldParsed⟩,
      ⟨oldDev, oldDevParsed⟩⟩
    have built := buildSnapshotAndPins_eq_ok.mpr ⟨_, _, productParsed, devParsed, rfl⟩
    have expected := expectedPurls_eq_ok
      (mem_packageUrls (holds_of_parseLock productParsed) (holds_of_parseLock devParsed))
    rw [SnapshotInputs.writeSnapshot, built, ok_bind, SnapshotInputs.buildVerificationSpec,
      oldParsed, ok_bind, oldDevParsed, ok_bind, expected, ok_bind]
    exact ⟨_, _, rfl⟩

end Setting

end VoodooOne.Dependency
