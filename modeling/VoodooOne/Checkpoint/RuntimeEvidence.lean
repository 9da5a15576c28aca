import VoodooOne.Checkpoint.Manifest

/-!
# Evidence of the runtime

The health of the application is judged by the smoke gate and by the capture.  The image is judged
by the capture, which derives its platform, and by the verifier, which takes id and platform from
the completion marker.
-/

namespace VoodooOne.Checkpoint

/-- The assertions of `smoke_product_image.sh` about the health that the application reports. -/
def smokeGate (data : Json) : Bool :=
  data.get? "status" = some (.str "HEALTHY") &&
    data.get? "database_backend" = some (.str "sqlite") &&
    (data.get? "schema_version").any (Json.equalsInt 15) &&
    data.get? "production_effects" = some (.str "DISABLED")

/-- `CheckpointCaptureError`, without a path. -/
def captureError (code message : String) : CheckpointError := .capture code message []

/-- `expected_health`, as far as the values differ from those of the health. -/
def healthMismatch (health : Json) : Bool :=
  health.get "status" ≠ .str "HEALTHY" || health.get "database_backend" ≠ .str "sqlite" ||
    !(health.get "schema_version").equalsInt 8 ||
    health.get "production_effects" ≠ .str "DISABLED"

/-- The checks of `_capture_runtime` on the health of the application. -/
def requireHealth (health : Json) : Except CheckpointError Unit :=
  if health.keys.isSome ∧ health.get "production_effects" ≠ .str "DISABLED" then
    .error (captureError "production_effects_not_disabled"
      "runtime health did not report production effects disabled")
  else if health.keys.isNone then
    .error (captureError "smoke_failed" "application health evidence was missing or invalid")
  else if healthMismatch health then
    if health.get "production_effects" ≠ .str "DISABLED" then
      .error (captureError "production_effects_not_disabled"
        "runtime health did not report production effects disabled")
    else
      .error (captureError "smoke_failed"
        "application health evidence did not satisfy the product smoke contract")
  else .ok ()

/-- `_IMAGE_ID_PATTERN`, which is also `_SHA256_PATTERN` of the verifier. -/
def IsImageId (text : String) : Prop :=
  text.toList.take 7 = "sha256:".toList ∧ IsDigest (String.ofList (text.toList.drop 7))

instance (text : String) : Decidable (IsImageId text) := inferInstanceAs (Decidable (_ ∧ _))

def requireImageId (entry : Json) : Except CheckpointError String :=
  match entry.get "Id" with
  | .str imageId =>
      if IsImageId imageId then .ok imageId
      else .error (captureError "image_identity_invalid" "image ID must be sha256")
  | _ => .error (captureError "image_identity_invalid" "image ID must be sha256")

/-- Operating system and architecture of an inspected image. -/
def requirePlatform (entry : Json) : Except CheckpointError (String × String) :=
  match entry.get "Os", entry.get "Architecture" with
  | .str operatingSystem, .str architecture =>
      if operatingSystem = "" ∨ architecture = "" then
        .error (captureError "image_identity_invalid" "image OS and architecture must be present")
      else .ok (operatingSystem, architecture)
  | _, _ =>
      .error (captureError "image_identity_invalid" "image OS and architecture must be present")

/-- Whether the image runs as `voodoo`. -/
def runsAsVoodoo (entry : Json) : Bool :=
  (entry.get "Config").keys.isSome && (entry.get "Config").get "User" = .str "voodoo"

def hasTag (entry : Json) (image : String) : Bool :=
  match entry.get "RepoTags" with
  | .arr repoTags => .str image ∈ repoTags
  | _ => false

/-- `_validate_image_inspect`: the id and the platform of the image. -/
def validateImageInspect (imageInspect : Json) (image : String) :
    Except CheckpointError (String × String) :=
  match imageInspect with
  | .arr [entry] =>
      if entry.keys.isNone then
        .error (captureError "image_identity_invalid"
          "docker image inspect entry must be an object")
      else do
        let imageId ← requireImageId entry
        let (operatingSystem, architecture) ← requirePlatform entry
        if runsAsVoodoo entry = false then
          .error (captureError "image_identity_invalid" "captured image must run as voodoo")
        else if hasTag entry image = false then
          .error (captureError "image_identity_invalid"
            "captured image tag did not match the task-owned image")
        else return (imageId, operatingSystem ++ "/" ++ architecture)
  | _ => .error (captureError "image_identity_invalid"
      "docker image inspect must return exactly one image")

def isPlatformCharacter (character : Char) : Bool :=
  character.isLower || character.isDigit || ['.', '_', '-'].contains character

/-- `_PLATFORM_PATTERN.fullmatch`. -/
def matchesPlatform (platform : List Char) : Bool :=
  match platform.dropWhile isPlatformCharacter with
  | '/' :: architecture => !(platform.takeWhile isPlatformCharacter).isEmpty &&
      !architecture.isEmpty && architecture.all isPlatformCharacter
  | _ => false

/-- `platform.split("/", maxsplit=1)`, where there is a slash. -/
def splitPlatform (platform : List Char) : List Char × List Char :=
  (platform.takeWhile (· ≠ '/'), (platform.dropWhile (· ≠ '/')).tail)

/-- The checks of `_verify_provenance` on the image id and the platform of the marker. -/
def verifyImageClaims (imageId platform : String) : Except CheckpointError Unit :=
  if ¬IsImageId imageId then
    .error (.evidence "invalid_image_id" "IMAGE_ID must be a sha256 digest"
      (ofText "ops/provenance/CHECKPOINT_COMPLETE.txt".toList))
  else if matchesPlatform platform.toList = false then
    .error (.evidence "invalid_image_platform" "IMAGE_PLATFORM must use os/architecture form"
      (ofText "ops/provenance/CHECKPOINT_COMPLETE.txt".toList))
  else .ok ()

/-- `06_IMAGE_INSPECT.json` in a checkpoint. -/
def inspectPath : List PathChar :=
  ofText "ops/evidence/runtime/06_IMAGE_INSPECT.json".toList

/-- `_require_mapping_values`, on texts. -/
def requireMappingValues (mapping : Json) (path : List PathChar) :
    List (String × String) → Except CheckpointError Unit
  | [] => .ok ()
  | (key, value) :: expected =>
      if mapping.get key ≠ .str value then
        .error (.evidence "provenance_mismatch"
          (key ++ " does not match the authoritative completion marker") path)
      else requireMappingValues mapping path expected

/-- The checks of `_verify_runtime_evidence` on the inspected image. -/
def verifyImageInspect (imageInspect : Json) (imageId platform : String) :
    Except CheckpointError Unit :=
  match imageInspect with
  | .arr [image] =>
      if image.keys.isNone then
        .error (.evidence "image_inspect_shape" "image inspect entry must be an object" inspectPath)
      else do
        let parts := splitPlatform platform.toList
        requireMappingValues image inspectPath [("Id", imageId), ("Os", String.ofList parts.1),
          ("Architecture", String.ofList parts.2)]
        if runsAsVoodoo image = false then
          .error (.evidence "image_user_mismatch" "verified image must run as voodoo" inspectPath)
        else .ok ()
  | _ => .error (.evidence "image_inspect_shape"
      "image inspect evidence must contain exactly one image" inspectPath)

/-- The capture accepts the health exactly when the smoke gate does. -/
def HealthAgrees (health : Json) : Prop := requireHealth health = .ok () ↔ smokeGate health = true

/-- What both ask of the health apart from the version of its schema. -/
structure Healthy (health : Json) : Prop where
  status : health.get "status" = .str "HEALTHY"
  backend : health.get "database_backend" = .str "sqlite"
  effects : health.get "production_effects" = .str "DISABLED"

/-- The health is good, and its schema has a version that one of the two asks for. -/
def Drifted (health : Json) : Prop :=
  Healthy health ∧ ((health.get "schema_version").equalsInt 8 = true ∨
    (health.get "schema_version").equalsInt 15 = true)

theorem get?_eq_some_iff {value : Json} {key text : String} :
    value.get? key = some (.str text) ↔ value.get key = .str text := by
  rw [Json.get]
  cases value.get? key <;> simp

theorem any_equalsInt (value : Json) (key : String) (number : Int) :
    (value.get? key).any (Json.equalsInt number) = (value.get key).equalsInt number := by
  rw [Json.get]
  cases value.get? key <;> rfl

variable {health : Json} {operatingSystem architecture : List Char}
  {image imageId platform : String}

theorem smokeGate_iff : smokeGate health = true ↔
    Healthy health ∧ (health.get "schema_version").equalsInt 15 = true := by
  simp only [smokeGate, Bool.and_eq_true, decide_eq_true_eq, get?_eq_some_iff, any_equalsInt]
  constructor
  · rintro ⟨⟨⟨status, backend⟩, version⟩, effects⟩
    exact ⟨⟨status, backend, effects⟩, version⟩
  · rintro ⟨⟨status, backend, effects⟩, version⟩
    exact ⟨⟨⟨status, backend⟩, version⟩, effects⟩

theorem healthMismatch_eq_false : healthMismatch health = false ↔
    Healthy health ∧ (health.get "schema_version").equalsInt 8 = true := by
  simp only [healthMismatch, Bool.or_eq_false_iff, decide_eq_false_iff_not, not_not,
    Bool.not_eq_false']
  constructor
  · rintro ⟨⟨⟨status, backend⟩, version⟩, effects⟩
    exact ⟨⟨status, backend, effects⟩, version⟩
  · rintro ⟨⟨status, backend, effects⟩, version⟩
    exact ⟨⟨⟨status, backend⟩, version⟩, effects⟩

theorem requireHealth_eq_ok : requireHealth health = .ok () ↔
    Healthy health ∧ (health.get "schema_version").equalsInt 8 = true := by
  rw [← healthMismatch_eq_false, requireHealth]
  cases mismatch : healthMismatch health with
  | true =>
      split
      · simp
      · split
        · simp
        · rw [if_pos rfl]
          split <;> simp
  | false =>
      obtain ⟨healthy, -⟩ := healthMismatch_eq_false.mp mismatch
      have object : health.keys.isNone = false := by
        cases health with
        | obj fields => rfl
        | _ => cases healthy.status
      simp [healthy.effects, object]

theorem equalsInt_apart {value : Json} (first : value.equalsInt 8 = true) :
    value.equalsInt 15 = false := by
  cases value with
  | bool value => cases value <;> cases first
  | int value =>
      obtain rfl := beq_iff_eq.mp first
      rfl
  | float repr =>
      obtain rfl := beq_iff_eq.mp first
      rfl
  | _ => cases first

theorem healthAgrees_iff : HealthAgrees health ↔ ¬Drifted health := by
  rw [HealthAgrees, requireHealth_eq_ok, smokeGate_iff, Drifted]
  constructor
  · rintro agrees ⟨healthy, eight | fifteen⟩
    · have never := (agrees.mp ⟨healthy, eight⟩).2
      rw [equalsInt_apart eight] at never
      cases never
    · have eight := (agrees.mpr ⟨healthy, fifteen⟩).2
      rw [equalsInt_apart eight] at fifteen
      cases fifteen
  · intro steady
    constructor
    · rintro ⟨healthy, eight⟩
      exact absurd ⟨healthy, .inl eight⟩ steady
    · rintro ⟨healthy, fifteen⟩
      exact absurd ⟨healthy, .inr fifteen⟩ steady

/-- The verifier accepts whatever image the capture accepts, with the platform that it derives. -/
def VerifierAgrees (imageInspect : Json) (image : String) : Prop :=
  ∀ imageId platform, validateImageInspect imageInspect image = .ok (imageId, platform) →
    verifyImageClaims imageId platform = .ok () ∧
      verifyImageInspect imageInspect imageId platform = .ok ()

/-- What the capture asks of an image apart from its platform. -/
structure Identified (entry : Json) (image : String) : Prop where
  imageId : ∃ imageId, entry.get "Id" = .str imageId ∧ IsImageId imageId
  user : runsAsVoodoo entry = true
  tag : hasTag entry image = true

/-- The names of a platform are words in its characters. -/
def PlainPlatform (imageInspect : Json) (image : String) : Prop :=
  ∀ entry operatingSystem architecture, imageInspect = .arr [entry] → Identified entry image →
    entry.get "Os" = .str operatingSystem → entry.get "Architecture" = .str architecture →
      operatingSystem ≠ "" → architecture ≠ "" →
        operatingSystem.toList.all isPlatformCharacter = true ∧
          architecture.toList.all isPlatformCharacter = true

theorem isPlatformCharacter_slash : isPlatformCharacter '/' = false := by decide

theorem matchesPlatform_append (first : operatingSystem ≠ []) (second : architecture ≠ []) :
    matchesPlatform (operatingSystem ++ '/' :: architecture) = true ↔
      operatingSystem.all isPlatformCharacter = true ∧
        architecture.all isPlatformCharacter = true := by
  cases word : operatingSystem.all isPlatformCharacter with
  | true =>
      have each := List.all_eq_true.mp word
      have taken : (operatingSystem ++ '/' :: architecture).takeWhile isPlatformCharacter =
          operatingSystem := by
        rw [List.takeWhile_append_of_pos each, List.takeWhile_cons_of_neg (by decide),
          List.append_nil]
      have dropped : (operatingSystem ++ '/' :: architecture).dropWhile isPlatformCharacter =
          '/' :: architecture := by
        rw [List.dropWhile_append_of_pos each, List.dropWhile_cons_of_neg (by decide)]
      rw [matchesPlatform, taken, dropped]
      simp [first, second]
  | false =>
      -- the rest begins within the system, so a slash is left over in it
      have rest : operatingSystem.dropWhile isPlatformCharacter ≠ [] := by
        intro none
        rw [List.dropWhile_eq_nil_iff] at none
        rw [List.all_eq_true.mpr none] at word
        cases word
      obtain ⟨character, others, found⟩ := List.exists_cons_of_ne_nil rest
      have dropped : (operatingSystem ++ '/' :: architecture).dropWhile isPlatformCharacter =
          character :: (others ++ '/' :: architecture) := by
        rw [List.dropWhile_append, found]
        rfl
      have never : (others ++ '/' :: architecture).all isPlatformCharacter = false := by
        rw [List.all_append, List.all_cons, isPlatformCharacter_slash, Bool.false_and,
          Bool.and_false]
      simp only [Bool.false_eq_true, false_and, iff_false, Bool.not_eq_true]
      rw [matchesPlatform, dropped]
      split
      case h_1 architecture' same =>
        obtain ⟨-, rfl⟩ := List.cons.inj same
        rw [never, Bool.and_false]
      case h_2 => rfl

theorem splitPlatform_append (word : operatingSystem.all isPlatformCharacter = true) :
    splitPlatform (operatingSystem ++ '/' :: architecture) = (operatingSystem, architecture) := by
  have each : ∀ character ∈ operatingSystem, decide (character ≠ '/') = true := by
    intro character member
    rw [decide_eq_true_eq]
    rintro rfl
    have known := List.all_eq_true.mp word '/' member
    rw [isPlatformCharacter_slash] at known
    cases known
  rw [splitPlatform, List.takeWhile_append_of_pos each, List.dropWhile_append_of_pos each,
    List.takeWhile_cons_of_neg (by decide), List.dropWhile_cons_of_neg (by decide),
    List.append_nil, List.tail_cons]

theorem requireImageId_eq_ok {entry : Json} {imageId : String} :
    requireImageId entry = .ok imageId ↔ entry.get "Id" = .str imageId ∧ IsImageId imageId := by
  rw [requireImageId]
  split
  case h_1 found text =>
    rw [text, Json.str.injEq]
    split
    case isTrue isId =>
      rw [Except.ok.injEq]
      exact ⟨fun same => ⟨same, same ▸ isId⟩, And.left⟩
    case isFalse other =>
      refine iff_of_false (fun never => by cases never) ?_
      rintro ⟨rfl, isId⟩
      exact other isId
  case h_2 other =>
    refine iff_of_false (fun never => by cases never) ?_
    rintro ⟨text, -⟩
    exact other _ text

theorem requirePlatform_eq_ok {entry : Json} {operatingSystem architecture : String} :
    requirePlatform entry = .ok (operatingSystem, architecture) ↔
      entry.get "Os" = .str operatingSystem ∧ entry.get "Architecture" = .str architecture ∧
        operatingSystem ≠ "" ∧ architecture ≠ "" := by
  rw [requirePlatform]
  split
  case h_1 system machine first second =>
    rw [first, second, Json.str.injEq, Json.str.injEq]
    split
    case isTrue empty =>
      refine iff_of_false (fun never => by cases never) ?_
      rintro ⟨rfl, rfl, someSystem, someMachine⟩
      exact empty.elim someSystem someMachine
    case isFalse nonempty =>
      rw [Except.ok.injEq, Prod.mk.injEq]
      constructor
      · rintro ⟨rfl, rfl⟩
        exact ⟨rfl, rfl, fun none => nonempty (.inl none), fun none => nonempty (.inr none)⟩
      · rintro ⟨rfl, rfl, -, -⟩
        exact ⟨rfl, rfl⟩
  case h_2 other =>
    refine iff_of_false (fun never => by cases never) ?_
    rintro ⟨system, machine, -, -⟩
    exact other _ _ system machine

theorem validateImageInspect_eq_ok {imageInspect : Json} :
    validateImageInspect imageInspect image = .ok (imageId, platform) ↔
      ∃ entry operatingSystem architecture, imageInspect = .arr [entry] ∧
        Identified entry image ∧ entry.get "Id" = .str imageId ∧
          entry.get "Os" = .str operatingSystem ∧ entry.get "Architecture" = .str architecture ∧
            operatingSystem ≠ "" ∧ architecture ≠ "" ∧
              platform = operatingSystem ++ "/" ++ architecture := by
  constructor
  · intro accepted
    unfold validateImageInspect at accepted
    split at accepted
    case h_2 => cases accepted
    case h_1 entry =>
      split at accepted
      case isTrue => cases accepted
      case isFalse object =>
        simp only [bind_eq_ok] at accepted
        obtain ⟨ownId, identified, ⟨operatingSystem, architecture⟩, platforms, rest⟩ := accepted
        obtain ⟨idText, isId⟩ := requireImageId_eq_ok.mp identified
        obtain ⟨system, machine, first, second⟩ := requirePlatform_eq_ok.mp platforms
        split at rest
        case isTrue => cases rest
        case isFalse user =>
          split at rest
          case isTrue => cases rest
          case isFalse tag =>
            obtain ⟨rfl, rfl⟩ := Prod.mk.inj (Except.ok.inj rest)
            exact ⟨entry, operatingSystem, architecture, rfl,
              ⟨⟨_, idText, isId⟩, Bool.eq_true_of_not_eq_false user,
                Bool.eq_true_of_not_eq_false tag⟩, idText, system, machine, first, second, rfl⟩
  · rintro ⟨entry, operatingSystem, architecture, rfl, identified, idText, system, machine, first,
      second, rfl⟩
    obtain ⟨⟨ownId, ownText, isId⟩, user, tag⟩ := identified
    obtain rfl := Json.str.inj (idText.symm.trans ownText)
    have object : ¬entry.keys.isNone = true := by
      cases entry with
      | obj fields => exact Bool.false_ne_true
      | _ => cases idText
    rw [validateImageInspect, if_neg object, requireImageId_eq_ok.mpr ⟨idText, isId⟩, ok_bind,
      requirePlatform_eq_ok.mpr ⟨system, machine, first, second⟩, ok_bind]
    dsimp only
    rw [if_neg (ne_false_of_eq_true user), if_neg (ne_false_of_eq_true tag)]
    rfl

theorem requireMappingValues_eq_ok {mapping : Json} {path : List PathChar}
    {expected : List (String × String)} : requireMappingValues mapping path expected = .ok () ↔
      ∀ entry ∈ expected, mapping.get entry.1 = .str entry.2 := by
  induction expected with
  | nil => simp [requireMappingValues]
  | cons entry expected ih =>
      rw [requireMappingValues, List.forall_mem_cons, ← ih]
      split
      case isTrue other => simp [other]
      case isFalse same =>
        rw [not_not] at same
        simp [same]

theorem verifyImageClaims_eq_ok {imageId platform : String} :
    verifyImageClaims imageId platform = .ok () ↔
      IsImageId imageId ∧ matchesPlatform platform.toList = true := by
  rw [verifyImageClaims]
  split
  case isTrue other => simp [other]
  case isFalse isId =>
    rw [not_not] at isId
    split <;> simp_all

theorem verifyImageInspect_of_identified {entry : Json} (identified : Identified entry image)
    (idText : entry.get "Id" = .str imageId)
    (system : entry.get "Os" = .str (String.ofList (splitPlatform platform.toList).1))
    (machine : entry.get "Architecture" = .str (String.ofList (splitPlatform platform.toList).2)) :
    verifyImageInspect (.arr [entry]) imageId platform = .ok () := by
  have object : ¬entry.keys.isNone = true := by
    cases entry with
    | obj fields => exact Bool.false_ne_true
    | _ => cases idText
  have values : requireMappingValues entry inspectPath [("Id", imageId),
      ("Os", String.ofList (splitPlatform platform.toList).1),
      ("Architecture", String.ofList (splitPlatform platform.toList).2)] = .ok () := by
    rw [requireMappingValues_eq_ok]
    simp only [List.forall_mem_cons]
    exact ⟨idText, system, machine, List.forall_mem_nil _⟩
  rw [verifyImageInspect, if_neg object]
  dsimp only
  rw [values, ok_bind, if_neg (ne_false_of_eq_true identified.user)]

theorem verifierAgrees_iff {imageInspect : Json} {image : String} :
    VerifierAgrees imageInspect image ↔ PlainPlatform imageInspect image := by
  constructor
  · rintro agrees entry operatingSystem architecture rfl identified system machine first second
    obtain ⟨imageId, idText, -⟩ := identified.imageId
    obtain ⟨claims, -⟩ := agrees imageId _ (validateImageInspect_eq_ok.mpr ⟨entry, _, _, rfl,
      identified, idText, system, machine, first, second, rfl⟩)
    have matched := (verifyImageClaims_eq_ok.mp claims).2
    rw [String.toList_append, String.toList_append, List.append_assoc] at matched
    exact (matchesPlatform_append (mt String.toList_eq_nil_iff.mp first)
      (mt String.toList_eq_nil_iff.mp second)).mp matched
  · intro plain imageId platform accepted
    obtain ⟨entry, operatingSystem, architecture, rfl, identified, idText, system, machine, first,
      second, rfl⟩ := validateImageInspect_eq_ok.mp accepted
    obtain ⟨systemWord, machineWord⟩ := plain entry operatingSystem architecture rfl identified
      system machine first second
    obtain ⟨ownId, ownText, isId⟩ := identified.imageId
    obtain rfl := Json.str.inj (idText.symm.trans ownText)
    have characters : (operatingSystem ++ "/" ++ architecture).toList =
        operatingSystem.toList ++ '/' :: architecture.toList := by
      rw [String.toList_append, String.toList_append, List.append_assoc]
      rfl
    have parts : splitPlatform (operatingSystem ++ "/" ++ architecture).toList =
        (operatingSystem.toList, architecture.toList) := by
      rw [characters, splitPlatform_append systemWord]
    refine ⟨verifyImageClaims_eq_ok.mpr ⟨isId, ?_⟩, verifyImageInspect_of_identified identified
      idText ?_ ?_⟩
    · rw [characters]
      exact (matchesPlatform_append (mt String.toList_eq_nil_iff.mp first)
        (mt String.toList_eq_nil_iff.mp second)).mpr ⟨systemWord, machineWord⟩
    · rw [parts, String.ofList_toList]
      exact system
    · rw [parts, String.ofList_toList]
      exact machine

/-- Gate and capture agree on a health, and the verifier with the capture on an image, exactly when
the schema version is none of the two that are asked for and the platform is plain. -/
theorem runtimeEvidence_accepted_iff (health imageInspect : Json) (image : String) :
    HealthAgrees health ∧ VerifierAgrees imageInspect image ↔
      ¬Drifted health ∧ PlainPlatform imageInspect image :=
  and_congr healthAgrees_iff verifierAgrees_iff

def productHealth : Json :=
  .obj [("database_backend", .str "sqlite"), ("production_effects", .str "DISABLED"),
    ("schema_version", .int 15), ("status", .str "HEALTHY")]

/-- The smoke gate passes the product, and the capture refuses it. -/
theorem productHealth_refused : ¬∀ (health imageInspect : Json) (image : String),
    HealthAgrees health ∧ VerifierAgrees imageInspect image := by
  intro agree
  have agrees := (agree productHealth .null "").1
  have passed : smokeGate productHealth = true := by decide
  obtain ⟨-, eight⟩ := requireHealth_eq_ok.mp (agrees.mpr passed)
  exact absurd eight (by decide)

end VoodooOne.Checkpoint
