import VoodooOne.Foundation.Checks

/-!
# Content-bound contracts

A contract object holds named attributes and a digest of all of them.  Building one checks each
attribute, then the conditions of the contract, then the digest.  An object that was built is
written as a payload and read back unchanged.
-/

namespace VoodooOne

open Calendar

inductive AttributeKind where
  | text
  | integer
  | any
deriving DecidableEq, Repr

/-- The attribute, as the type that its check gives it. -/
def AttributeKind.read (self : Attributes) (field : String) : AttributeKind → Json
  | .text => .str (self.text field)
  | .integer => .int (self.int field)
  | .any => self field

inductive AttributeCheck where
  | text (field : String)
  | digest (field : String)
  | timestamp (field : String)
  | integer (field : String) (minimum : Int) (message : String)
  | equals (field expected message : String)
  | oneOf (field : String) (allowed : List String) (message : String)
  | satisfies (field : String) (condition : Json → Except Raised Unit)

namespace AttributeCheck

def field : AttributeCheck → String
  | .text field => field
  | .digest field => field
  | .timestamp field => field
  | .integer field _ _ => field
  | .equals field _ _ => field
  | .oneOf field _ _ => field
  | .satisfies field _ => field

def kind : AttributeCheck → AttributeKind
  | .integer _ _ _ => .integer
  | .satisfies _ _ => .any
  | _ => .text

def perform (self : Attributes) : AttributeCheck → Except Raised Unit
  | .text field => do
      let _ ← requireText (self field) field
  | .digest field => do
      let _ ← requireDigest (self field) field
  | .timestamp field => do
      let _ ← requireTimestamp (self field) field
  | .integer field minimum message =>
      match self field with
      | .int value => raiseIf (value < minimum) (valueError message)
      | _ => .error (valueError message)
  | .equals field expected message => raiseIf (self field ≠ .str expected) (valueError message)
  | .oneOf field allowed message =>
      match self field with
      | .str value => raiseIf (value ∉ allowed) (valueError message)
      -- a set of texts cannot be asked about a value that has no hash
      | .arr _ => .error ⟨.typeError, "unhashable type: 'list'"⟩
      | .obj _ => .error ⟨.typeError, "unhashable type: 'dict'"⟩
      | _ => .error (valueError message)
  | .satisfies field condition => condition (self field)

def performAll (self : Attributes) : List AttributeCheck → Except Raised Unit
  | [] => .ok ()
  | check :: checks => do
      check.perform self
      performAll self checks

def Holds (self : Attributes) : AttributeCheck → Prop
  | .text field => self field = .str (self.text field) ∧ ValidText (self.text field)
  | .digest field => self field = .str (self.text field) ∧ ValidText (self.text field) ∧
      IsDigest (self.text field)
  | .timestamp field => self field = .str (self.text field) ∧ ValidText (self.text field) ∧
      ∃ instant : Instant, self.text field = instant.isoformat
  | .integer field minimum _ => self field = .int (self.int field) ∧ minimum ≤ self.int field
  | .equals field expected _ => self field = .str (self.text field) ∧ self.text field = expected
  | .oneOf field allowed _ => self field = .str (self.text field) ∧ self.text field ∈ allowed
  | .satisfies field condition => condition (self field) = .ok ()

theorem perform_eq_ok {self : Attributes} {check : AttributeCheck} {result : Unit} :
    check.perform self = .ok result ↔ check.Holds self := by
  cases check with
  | text field =>
      simp only [perform, bind_eq_ok, requireText_eq_ok, pure_eq_ok, Holds]
      constructor
      · rintro ⟨value, ⟨same, valid⟩, -⟩
        rw [Attributes.text_of_str same]
        exact ⟨same, valid⟩
      · exact fun held => ⟨_, held, trivial⟩
  | digest field =>
      simp only [perform, bind_eq_ok, requireDigest_eq_ok, pure_eq_ok, Holds]
      constructor
      · rintro ⟨value, ⟨same, valid⟩, -⟩
        rw [Attributes.text_of_str same]
        exact ⟨same, valid⟩
      · exact fun held => ⟨_, held, trivial⟩
  | timestamp field =>
      simp only [perform, bind_eq_ok, requireTimestamp_eq_ok, pure_eq_ok, Holds]
      constructor
      · rintro ⟨instant, ⟨same, valid⟩, -⟩
        rw [Attributes.text_of_str same]
        exact ⟨same, valid, instant, rfl⟩
      · rintro ⟨same, valid, instant, canonical⟩
        rw [canonical] at same valid
        exact ⟨instant, ⟨same, valid⟩, trivial⟩
  | integer field minimum message =>
      simp only [perform, Holds]
      split
      · rename_i value same
        rw [raiseIf_eq_ok, Attributes.int_of_int same, same]
        simp
      · rename_i other
        simp only [reduceCtorEq, false_iff, not_and]
        intro same
        exact absurd same (other _)
  | equals field expected message =>
      simp only [perform, raiseIf_eq_ok, not_not, Holds]
      constructor
      · intro same
        rw [Attributes.text_of_str same]
        exact ⟨same, rfl⟩
      · rintro ⟨same, rfl⟩
        exact same
  | oneOf field allowed message =>
      simp only [perform, Holds]
      split
      · next value same =>
        rw [raiseIf_eq_ok, not_not, Attributes.text_of_str same, same]
        simp
      · next same => simp [same]
      · next same => simp [same]
      · next noText _ _ =>
        simp only [reduceCtorEq, false_iff, not_and]
        intro same
        exact absurd same (noText _)
  | satisfies field condition => rfl

theorem performAll_eq_ok {self : Attributes} {checks : List AttributeCheck} {result : Unit} :
    performAll self checks = .ok result ↔ ∀ check ∈ checks, check.Holds self := by
  induction checks with
  | nil => simp [performAll]
  | cons check checks induction =>
      simp [performAll, perform_eq_ok, induction]

theorem Holds.congr {self other : Attributes} {check : AttributeCheck} (held : check.Holds self)
    (same : self check.field = other check.field) : check.Holds other := by
  cases check with
  | satisfies field condition => exact (congrArg condition same).symm.trans held
  | _ =>
      simp only [Holds, field, Attributes.text, Attributes.int] at held same ⊢
      simp only [← same]
      exact held

theorem Holds.read {self : Attributes} {check : AttributeCheck} (held : check.Holds self) :
    self check.field = check.kind.read self check.field := by
  cases check with
  | satisfies field condition => rfl
  | _ => exact held.1

end AttributeCheck

/-- The loop of `_require_text` over attribute names. -/
def requireTexts (fields : List String) : List AttributeCheck := fields.map .text

/-- The loop of `_require_digest` over attribute names. -/
def requireDigests (fields : List String) : List AttributeCheck := fields.map .digest

/-- An attribute that only the check of the whole object looks at. -/
def uncheckedAttribute (field : String) : AttributeCheck := .satisfies field fun _ => .ok ()

/-- `_require_epoch` on an attribute. -/
def requireEpochOf (field : String) : AttributeCheck :=
  .integer field 1 (field ++ " must be an integer >= 1")

structure Contract (α : Type) where
  /-- Version of the payload. -/
  schemaVersion : Int := 1
  /-- Name of the type. -/
  contractType : String
  /-- Field that names the type. -/
  typeField : String
  digestField : String
  /-- Error text of a wrong digest. -/
  mismatch : String
  /-- Names and types of the attributes under the digest. -/
  attributes : List (String × AttributeKind)
  /-- Checks of single attributes, in order. -/
  checks : List AttributeCheck
  /-- The object of checked attributes. -/
  ofAttributes : Attributes → α
  /-- Attributes under the digest. -/
  claims : α → List (String × Json)
  /-- The digest that the object holds. -/
  digest : α → String
  /-- The object with another digest. -/
  withDigest : α → String → α
  /-- Conditions on the whole object. -/
  check : (String → String) → α → Except Raised Unit

namespace Contract

variable {α : Type} (contract : Contract α) (sha256 : String → String)

def claimFields (value : α) : List (String × Json) :=
  ("schema_version", .int contract.schemaVersion) ::
    (contract.typeField, .str contract.contractType) :: contract.claims value

def claimsWithoutDigest (value : α) : Json := .object (contract.claimFields value)

/-- Fields of the stored payload when the digest is `digest`. -/
def fieldsWith (value : α) (digest : String) : List (String × Json) :=
  contract.claimFields value ++ [(contract.digestField, .str digest)]

def toDict (value : α) : Json := .object (contract.fieldsWith value (contract.digest value))

def fieldNames : List String :=
  "schema_version" :: contract.typeField ::
    (contract.attributes.map Prod.fst ++ [contract.digestField])

/-- The constructor: it checks the attributes, the object and the digest. -/
def construct (self : Attributes) : Except Raised α := do
  AttributeCheck.performAll self contract.checks
  contract.check sha256 (contract.ofAttributes self)
  raiseIf (contract.digest (contract.ofAttributes self) ≠
      digestOf sha256 (contract.claimsWithoutDigest (contract.ofAttributes self)))
    (valueError contract.mismatch)
  return contract.ofAttributes self

/-- Some attributes build this object. -/
def Built (value : α) : Prop := ∃ self, contract.construct sha256 self = .ok value

/-- The object with the attributes of `draft` and their digest. -/
def create (draft : α) : Except Raised α :=
  contract.construct sha256 (Json.object (contract.fieldsWith draft
    (digestOf sha256 (contract.claimsWithoutDigest draft)))).get

/-- `cls(**values, digest=_digest(claims))`, from the fields of the claims. -/
def createFrom (fields : List (String × Json)) : Except Raised α :=
  let claims := ("schema_version", .int contract.schemaVersion) ::
    (contract.typeField, .str contract.contractType) :: fields
  contract.construct sha256 (Json.object (claims ++
    [(contract.digestField, .str (digestOf sha256 (.object claims)))])).get

def fromDict (value : Json) : Except Raised α := do
  requireExactFields value contract.fieldNames contract.contractType
  raiseIf ((value.get "schema_version").equalsInt contract.schemaVersion = false ∨
      value.get contract.typeField ≠ .str contract.contractType)
    (valueError (contract.contractType ++ " schema or type is unsupported"))
  contract.construct sha256 value.get

/-- The parts of a contract fit together. -/
structure Lawful : Prop where
  distinct : contract.fieldNames.Nodup := by decide
  /-- Every attribute is checked to have its type. -/
  covered : ∀ named ∈ contract.attributes ++ [(contract.digestField, .text)],
    ∃ check ∈ contract.checks, check.field = named.1 ∧ check.kind = named.2 := by decide
  /-- Only attributes are checked. -/
  checked : ∀ check ∈ contract.checks,
    check.field ∈ contract.attributes.map Prod.fst ++ [contract.digestField] := by decide
  /-- The claims of a built object are its attributes. -/
  claims_ofAttributes : ∀ self, contract.claims (contract.ofAttributes self) =
    contract.attributes.map (fun named => (named.1, named.2.read self named.1)) := by
      intros; rfl
  /-- The digest of a built object is its digest attribute. -/
  digest_ofAttributes : ∀ self,
    contract.digest (contract.ofAttributes self) = self.text contract.digestField := by intros; rfl
  /-- Every object has the same claim names. -/
  names : ∀ value,
    (contract.claims value).map Prod.fst = contract.attributes.map Prod.fst := by intros; rfl
  /-- The claims and a digest determine the object. -/
  ofAttributes_eq : ∀ (self : Attributes) value digest,
    (∀ entry ∈ contract.claims value ++ [(contract.digestField, .str digest)],
      self entry.1 = entry.2) → contract.ofAttributes self = contract.withDigest value digest
  /-- The digest does not cover itself. -/
  claims_withDigest : ∀ value digest,
    contract.claims (contract.withDigest value digest) = contract.claims value := by intros; rfl
  /-- Setting the digest sets it. -/
  digest_withDigest : ∀ value digest,
    contract.digest (contract.withDigest value digest) = digest := by intros; rfl
  /-- Setting the digest that the object holds changes nothing. -/
  withDigest_digest : ∀ value,
    contract.withDigest value (contract.digest value) = value := by intros; rfl

variable {contract} {sha256}

theorem construct_eq_ok {self : Attributes} {value : α} :
    contract.construct sha256 self = .ok value ↔
      value = contract.ofAttributes self ∧ (∀ check ∈ contract.checks, check.Holds self) ∧
        contract.check sha256 value = .ok () ∧
          contract.digest value = digestOf sha256 (contract.claimsWithoutDigest value) := by
  simp only [construct, bind_eq_ok, AttributeCheck.performAll_eq_ok, raiseIf_eq_ok, pure_eq_ok,
    not_not]
  constructor
  · rintro ⟨_, held, _, checked, _, digest, rfl⟩
    exact ⟨rfl, held, checked, digest⟩
  · rintro ⟨rfl, held, checked, digest⟩
    exact ⟨(), held, (), checked, (), digest, rfl⟩

theorem fieldsWith_names (lawful : contract.Lawful) (value : α) (digest : String) :
    (contract.fieldsWith value digest).map Prod.fst = contract.fieldNames := by
  simp [fieldsWith, claimFields, fieldNames, lawful.names value]

theorem get_object_fieldsWith (lawful : contract.Lawful) {value : α} {digest : String}
    {entry : String × Json} (member : entry ∈ contract.fieldsWith value digest) :
    (Json.object (contract.fieldsWith value digest)).get entry.1 = entry.2 := by
  have distinct : ((contract.fieldsWith value digest).map Prod.fst).Nodup := by
    rw [fieldsWith_names lawful]
    exact lawful.distinct
  exact Json.get_object_of_mem distinct member

theorem claims_subset {value : α} {digest : String} {entry : String × Json}
    (member : entry ∈ contract.claims value ++ [(contract.digestField, .str digest)]) :
    entry ∈ contract.fieldsWith value digest := by
  simp only [fieldsWith, claimFields, List.mem_append, List.mem_cons] at member ⊢
  tauto

theorem eq_of_create (lawful : contract.Lawful) {draft value : α}
    (created : contract.create sha256 draft = .ok value) :
    value = contract.withDigest draft (digestOf sha256 (contract.claimsWithoutDigest draft)) := by
  obtain ⟨rfl, -⟩ := construct_eq_ok.mp created
  exact lawful.ofAttributes_eq _ _ _ fun entry member =>
    get_object_fieldsWith lawful (claims_subset member)

theorem create_of_holds (lawful : contract.Lawful) (draft : α) (digest : String)
    (digested : digest = digestOf sha256 (contract.claimsWithoutDigest draft))
    (held : ∀ self : Attributes,
      (∀ entry ∈ contract.fieldsWith draft digest, self entry.1 = entry.2) →
        ∀ check ∈ contract.checks, check.Holds self)
    (checked : contract.check sha256 (contract.withDigest draft digest) = .ok ()) :
    contract.create sha256 draft = .ok (contract.withDigest draft digest) := by
  subst digested
  rw [create, construct_eq_ok]
  refine ⟨?_, held _ fun entry member => get_object_fieldsWith lawful member, checked, ?_⟩
  · exact (lawful.ofAttributes_eq _ _ _ fun entry member =>
      get_object_fieldsWith lawful (claims_subset member)).symm
  · rw [lawful.digest_withDigest, claimsWithoutDigest, claimsWithoutDigest, claimFields,
      claimFields, lawful.claims_withDigest]

theorem reads_of_construct (lawful : contract.Lawful) {self : Attributes} {value : α}
    (built : contract.construct sha256 self = .ok value) {entry : String × Json}
    (member : entry ∈ contract.claims value ++
      [(contract.digestField, .str (contract.digest value))]) : self entry.1 = entry.2 := by
  obtain ⟨rfl, held, -, -⟩ := construct_eq_ok.mp built
  have read : ∀ named ∈ contract.attributes ++ [(contract.digestField, .text)],
      self named.1 = named.2.read self named.1 := by
    intro named member
    obtain ⟨check, checkMember, field, kind⟩ := lawful.covered named member
    have found := (held check checkMember).read
    rwa [field, kind] at found
  rw [lawful.claims_ofAttributes, lawful.digest_ofAttributes] at member
  rcases List.mem_append.mp member with claim | last
  · obtain ⟨named, namedMember, rfl⟩ := List.mem_map.mp claim
    exact read named (List.mem_append_left _ namedMember)
  · obtain rfl := List.mem_singleton.mp last
    exact read _ (List.mem_append_right _ (List.mem_singleton_self _))

theorem claims_of_createFrom (lawful : contract.Lawful) {fields : List (String × Json)} {value : α}
    (names : fields.map Prod.fst = contract.attributes.map Prod.fst)
    (created : contract.createFrom sha256 fields = .ok value) : contract.claims value = fields := by
  let claims := ("schema_version", .int contract.schemaVersion) ::
    (contract.typeField, .str contract.contractType) :: fields
  let payload := claims ++ [(contract.digestField, .str (digestOf sha256 (.object claims)))]
  have distinct : (payload.map Prod.fst).Nodup := by
    have same : payload.map Prod.fst = contract.fieldNames := by
      simp [payload, claims, fieldNames, names]
    exact same ▸ lawful.distinct
  have valueNames : (contract.claims value).map Prod.fst = fields.map Prod.fst :=
    (lawful.names value).trans names.symm
  refine List.ext_getElem (by simpa using congrArg List.length valueNames)
    fun index inClaims inFields => ?_
  have key : (contract.claims value)[index].1 = fields[index].1 := by
    have keys := congrArg (fun names => names[index]?) valueNames
    simpa [inClaims, inFields] using keys
  have read := reads_of_construct lawful created
    (List.mem_append_left _ (List.getElem_mem inClaims))
  have stored : (Json.object payload).get fields[index].1 = fields[index].2 := by
    refine Json.get_object_of_mem distinct ?_
    simp [payload, claims]
  exact Prod.ext key (read.symm.trans (key ▸ stored))

/-- Attributes that agree with the payload of a built object build it again. -/
theorem construct_of_reads (lawful : contract.Lawful) {self other : Attributes} {value : α}
    (built : contract.construct sha256 self = .ok value)
    (reads : ∀ entry ∈ contract.claims value ++
      [(contract.digestField, .str (contract.digest value))], other entry.1 = entry.2) :
    contract.construct sha256 other = .ok value := by
  have agree : ∀ field ∈ contract.attributes.map Prod.fst ++ [contract.digestField],
      self field = other field := by
    intro field member
    have names : (contract.claims value ++
        [(contract.digestField, Json.str (contract.digest value))]).map Prod.fst =
        contract.attributes.map Prod.fst ++ [contract.digestField] := by
      simp [lawful.names value]
    rw [← names] at member
    obtain ⟨entry, entryMember, rfl⟩ := List.mem_map.mp member
    rw [reads_of_construct lawful built entryMember, reads entry entryMember]
  obtain ⟨_, held, checked, digest⟩ := construct_eq_ok.mp built
  rw [construct_eq_ok]
  refine ⟨?_, fun check member => ?_, checked, digest⟩
  · rw [lawful.ofAttributes_eq _ value (contract.digest value) reads, lawful.withDigest_digest]
  · exact (held check member).congr (agree _ (lawful.checked check member))

/-- The fields of a stored payload under another version. -/
def fieldsUnder (contract : Contract α) (version : Json) (value : α) : List (String × Json) :=
  ("schema_version", version) :: (contract.fieldsWith value (contract.digest value)).tail

theorem fromDict_fieldsUnder (lawful : contract.Lawful) {self : Attributes} {value : α}
    (built : contract.construct sha256 self = .ok value) {version : Json}
    (equal : version.equalsInt contract.schemaVersion = true) :
    contract.fromDict sha256 (.object (contract.fieldsUnder version value)) = .ok value := by
  have names : (contract.fieldsUnder version value).map Prod.fst = contract.fieldNames :=
    fieldsWith_names lawful value (contract.digest value)
  have stored (entry : String × Json) (member : entry ∈ contract.fieldsUnder version value) :
      (Json.object (contract.fieldsUnder version value)).get entry.1 = entry.2 :=
    Json.get_object_of_mem (names.symm ▸ lawful.distinct) member
  have versioned := stored ("schema_version", version) (List.mem_cons_self ..)
  have typed := stored (contract.typeField, .str contract.contractType)
    (List.mem_cons_of_mem _ (List.mem_cons_self ..))
  simp only [fromDict, bind_eq_ok, raiseIf_eq_ok]
  refine ⟨(), names ▸ requireExactFields_object, (), ?_, construct_of_reads lawful built
    fun entry member => stored entry (List.mem_cons_of_mem _ (List.mem_cons_of_mem _ member))⟩
  rw [versioned, typed, equal]
  simp

theorem fromDict_toDict (lawful : contract.Lawful) {self : Attributes} {value : α}
    (built : contract.construct sha256 self = .ok value) :
    contract.fromDict sha256 (contract.toDict value) = .ok value :=
  fromDict_fieldsUnder lawful built (beq_self_eq_true contract.schemaVersion)

theorem fromDict_of_create (lawful : contract.Lawful) {draft value : α}
    (created : contract.create sha256 draft = .ok value) :
    contract.fromDict sha256 (contract.toDict value) = .ok value :=
  fromDict_toDict lawful created

theorem construct_of_fromDict {payload : Json} {value : α}
    (read : contract.fromDict sha256 payload = .ok value) :
    contract.construct sha256 payload.get = .ok value := by
  simp only [fromDict, bind_eq_ok] at read
  obtain ⟨_, _, _, _, built⟩ := read
  exact built

namespace Built

variable {value : α}

theorem checked (built : contract.Built sha256 value) : contract.check sha256 value = .ok () := by
  obtain ⟨self, built⟩ := built
  exact (construct_eq_ok.mp built).2.2.1

theorem digest_eq (built : contract.Built sha256 value) :
    contract.digest value = digestOf sha256 (contract.claimsWithoutDigest value) := by
  obtain ⟨self, built⟩ := built
  exact (construct_eq_ok.mp built).2.2.2

theorem held (lawful : contract.Lawful) (built : contract.Built sha256 value) {entry : Json}
    {check : AttributeCheck} (member : check ∈ contract.checks)
    (read : (check.field, entry) ∈ contract.claims value ++
      [(contract.digestField, .str (contract.digest value))]) : check.Holds fun _ => entry := by
  obtain ⟨self, built⟩ := built
  exact ((construct_eq_ok.mp built).2.1 check member).congr (reads_of_construct lawful built read)

theorem validTexts (lawful : contract.Lawful) (built : contract.Built sha256 value)
    (fields : List (String × String)) (covered : ∀ named ∈ fields,
      .text named.1 ∈ contract.checks ∧ (named.1, .str named.2) ∈ contract.claims value ++
        [(contract.digestField, .str (contract.digest value))]) :
    ∀ named ∈ fields, ValidText named.2 := by
  intro named member
  obtain ⟨checked, read⟩ := covered named member
  exact (held lawful built checked read).2

theorem isDigests (lawful : contract.Lawful) (built : contract.Built sha256 value)
    (fields : List (String × String)) (covered : ∀ named ∈ fields,
      .digest named.1 ∈ contract.checks ∧ (named.1, .str named.2) ∈ contract.claims value ++
        [(contract.digestField, .str (contract.digest value))]) :
    ∀ named ∈ fields, IsDigest named.2 := by
  intro named member
  obtain ⟨checked, read⟩ := covered named member
  exact (held lawful built checked read).2.2

theorem timestamp (lawful : contract.Lawful) (built : contract.Built sha256 value)
    (field : String) {text : String} (member : .timestamp field ∈ contract.checks)
    (read : (field, .str text) ∈ contract.claims value ++
      [(contract.digestField, .str (contract.digest value))]) :
    ∃ instant : Instant, text = instant.isoformat ∧ ValidText instant.isoformat := by
  obtain ⟨_, valid, instant, rfl⟩ := held lawful built member read
  exact ⟨instant, rfl, valid⟩

theorem minimum_le (lawful : contract.Lawful) (built : contract.Built sha256 value)
    (field : String) {minimum number : Int} {message : String}
    (member : .integer field minimum message ∈ contract.checks)
    (read : (field, .int number) ∈ contract.claims value ++
      [(contract.digestField, .str (contract.digest value))]) : minimum ≤ number :=
  (held lawful built member read).2

end Built

end Contract

end VoodooOne
