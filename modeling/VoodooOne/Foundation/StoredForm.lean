import VoodooOne.Foundation.JsonRoundTrip

/-!
# Stored documents

A stored document is an object whose keys are all different.  It has the canonical text of some
fields exactly when it answers with each of them, in normal form.
-/

namespace VoodooOne

open Json

theorem object_congr {left right : List (String × Json)}
    (keys : (left.map Prod.fst).Perm (right.map Prod.fst)) (distinct : (left.map Prod.fst).Nodup)
    (same : ∀ key, left.lookup key = right.lookup key) : object left = object right := by
  have otherDistinct : (right.map Prod.fst).Nodup := keys.nodup_iff.mp distinct
  have ordered (fields : List (String × Json)) :
      ((fields.insertionSort keyLe).map Prod.fst).Pairwise (· ≤ ·) :=
    List.pairwise_map.mpr (List.pairwise_insertionSort keyLe fields)
  have sorted (fields : List (String × Json)) :
      ((fields.insertionSort keyLe).map Prod.fst).Perm (fields.map Prod.fst) :=
    (fields.perm_insertionSort keyLe).map Prod.fst
  have names : (left.insertionSort keyLe).map Prod.fst = (right.insertionSort keyLe).map Prod.fst :=
    (((sorted left).trans keys).trans (sorted right).symm).eq_of_pairwise
      (fun _ _ _ _ first second => le_antisymm first second) (ordered left) (ordered right)
  refine congrArg Json.obj (eq_of_lookup names ((sorted left).nodup_iff.mpr distinct) fun key => ?_)
  rw [lookup_insertionSort _ _ distinct, lookup_insertionSort _ _ otherDistinct, same]

variable {floats : FloatRepr} {value : Json} {fields : List (String × Json)} {contract : String}

theorem Json.lookup_eq_none {key : String} (missing : key ∉ fields.map Prod.fst) :
    fields.lookup key = none := by
  rw [List.lookup_eq_none_iff]
  intro entry member
  rw [bne_iff_ne]
  rintro rfl
  exact missing (List.mem_map_of_mem member)

theorem Json.WellFormed.get (wellFormed : value.WellFormed floats) (key : String) :
    (value.get key).WellFormed floats := by
  cases wellFormed with
  | obj fields distinct each =>
      rw [Json.get, get?]
      cases found : fields.lookup key with
      | none => exact .null
      | some answer =>
          obtain ⟨before, after, rfl, -⟩ := List.lookup_eq_some_iff.mp found
          exact each (key, answer) (List.mem_append_right _ (List.mem_cons_self ..))
  | _ => exact .null

theorem requireExactFields_eq_ok {expected : List String} {result : Unit} :
    requireExactFields value expected contract = .ok result ↔
      ∃ keys, value.keys = some keys ∧ ∀ key, key ∈ keys ↔ key ∈ expected := by
  simp only [requireExactFields, bind_eq_ok, orRaise_eq_ok, raiseIf_eq_ok, not_not]
  constructor
  · rintro ⟨keys, found, only, all⟩
    exact ⟨keys, found, fun key => ⟨only key, all key⟩⟩
  · rintro ⟨keys, found, same⟩
    exact ⟨keys, found, fun key => (same key).mp, fun key => (same key).mpr⟩

theorem get?_normal_obj {fields : List (String × Json)} (distinct : (fields.map Prod.fst).Nodup)
    (key : String) : (Json.obj fields).normal.get? key = (fields.lookup key).map Json.normal := by
  have keys : ((normalFields fields).map Prod.fst).Nodup := by rwa [keys_normalFields]
  rw [Json.normal, get?_object _ _ keys, lookup_normalFields]

/-- A document answers with some fields, in normal form, exactly when it has their normal form. -/
theorem normal_eq_object_iff (wellFormed : value.WellFormed floats)
    (exactFields : requireExactFields value (fields.map Prod.fst) contract = .ok ())
    (distinct : (fields.map Prod.fst).Nodup) :
    value.normal = (object fields).normal ↔
      ∀ entry ∈ fields, (value.get entry.1).normal = entry.2.normal := by
  obtain ⟨keys, found, same⟩ := requireExactFields_eq_ok.mp exactFields
  cases wellFormed with
  | obj own ownDistinct each =>
      obtain rfl := Option.some.inj found
      have perm : (own.map Prod.fst).Perm (fields.map Prod.fst) :=
        (List.perm_ext_iff_of_nodup ownDistinct distinct).mpr same
      have answer (entry : String × Json) (member : entry ∈ fields) :
          ∃ value, own.lookup entry.1 = some value ∧ (Json.obj own).get entry.1 = value := by
        have named := (same entry.1).mpr (List.mem_map_of_mem member)
        obtain ⟨⟨key, value⟩, there, rfl⟩ := List.mem_map.mp named
        have found := lookup_of_mem ownDistinct there
        exact ⟨value, found, by rw [Json.get, get?, found]; rfl⟩
      constructor
      · intro normals entry member
        obtain ⟨value, found, isValue⟩ := answer entry member
        have both := congrArg (get? entry.1) normals
        rw [get?_normal_obj ownDistinct, lookup_normal_object distinct, found,
          lookup_of_mem distinct member] at both
        rw [isValue]
        exact Option.some.inj both
      · intro answers
        have sorted : ((fields.insertionSort keyLe).map Prod.fst).Perm (fields.map Prod.fst) :=
          (fields.perm_insertionSort keyLe).map Prod.fst
        have written : (object fields).normal =
          object (normalFields (fields.insertionSort keyLe)) := by
          rw [object, Json.normal]
        rw [Json.normal, written]
        refine object_congr ?_ ?_ fun key => ?_
        · rw [keys_normalFields, keys_normalFields]
          exact perm.trans sorted.symm
        · rwa [keys_normalFields]
        · rw [lookup_normalFields, lookup_normalFields, lookup_insertionSort _ _ distinct]
          by_cases listed : key ∈ fields.map Prod.fst
          · obtain ⟨entry, member, rfl⟩ := List.mem_map.mp listed
            obtain ⟨value, found, isValue⟩ := answer entry member
            rw [found, lookup_of_mem distinct member, Option.map_some, Option.map_some,
              ← answers entry member, isValue]
          · rw [lookup_eq_none listed, lookup_eq_none fun own => listed ((same key).mp own),
              Option.map_none]
  | _ => cases found

theorem canonicalJson_eq_of_answers (wellFormed : value.WellFormed floats)
    (exactFields : requireExactFields value (fields.map Prod.fst) contract = .ok ())
    (distinct : (fields.map Prod.fst).Nodup)
    (answers : ∀ entry ∈ fields, (value.get entry.1).normal = entry.2.normal) :
    canonicalJson value = canonicalJson (object fields) := by
  rw [← canonicalJson_normal, (normal_eq_object_iff wellFormed exactFields distinct).mpr answers,
    canonicalJson_normal]

theorem answers_of_canonicalJson (wellFormed : value.WellFormed floats)
    (exactFields : requireExactFields value (fields.map Prod.fst) contract = .ok ())
    (distinct : (fields.map Prod.fst).Nodup) (each : ∀ field ∈ fields, field.2.WellFormed floats)
    (same : canonicalJson value = canonicalJson (object fields)) :
    ∀ entry ∈ fields, (value.get entry.1).normal = entry.2.normal :=
  (normal_eq_object_iff wellFormed exactFields distinct).mp
    (normal_eq_of_canonicalJson wellFormed (wellFormed_object distinct each) same)

theorem Json.normal_eq_int {number : Int} : value.normal = .int number ↔ value = .int number := by
  cases value with
  | arr items => rw [normal]; simp
  | obj fields => rw [normal, object]; simp
  | _ => rfl

/-- A document that answers with all fields apart from its version has their canonical text exactly
when it states the version as the integer. -/
theorem canonicalJson_iff_version (wellFormed : value.WellFormed floats)
    (exactFields : requireExactFields value (fields.map Prod.fst) contract = .ok ())
    (distinct : (fields.map Prod.fst).Nodup) {version : Int}
    (short : (Nat.toDigits 10 version.natAbs).length ≤ maxDigits)
    (versioned : ("schema_version", .int version) ∈ fields)
    (answers : ∀ entry ∈ fields,
      entry = ("schema_version", .int version) ∨ value.get entry.1 = entry.2) :
    canonicalJson value = canonicalJson (object fields) ↔
      value.get "schema_version" = .int version := by
  constructor
  · intro same
    refine Json.normal_eq_int.mp (answers_of_canonicalJson wellFormed exactFields distinct
      (fun entry member => ?_) same _ versioned)
    rcases answers entry member with rfl | answer
    · exact .int _ short
    · exact answer ▸ wellFormed.get entry.1
  · intro stated
    refine canonicalJson_eq_of_answers wellFormed exactFields distinct fun entry member => ?_
    rcases answers entry member with rfl | answer
    · rw [stated]
    · rw [answer]

/-- Valid values are read back, and a document that is read has the text of its value exactly when
it is canonical. -/
structure OneForm {α : Type} (valid : α → Prop) (toDict : α → Json)
    (fromDict : Json → Except Raised α) (canonical : Json → Prop) : Prop where
  readBack : ∀ value, valid value → fromDict (toDict value) = .ok value
  written : ∀ (floats : FloatRepr) (document : Json) (value : α), document.WellFormed floats →
    fromDict document = .ok value →
      (canonicalJson document = canonicalJson (toDict value) ↔ canonical document)

namespace OneForm

variable {α : Type} {valid : α → Prop} {toDict : α → Json} {fromDict : Json → Except Raised α}
  {canonical : Json → Prop}

end OneForm

theorem Contract.oneForm {α : Type} {contract : Contract α} (lawful : contract.Lawful)
    (sha256 : String → String)
    (short : (Nat.toDigits 10 contract.schemaVersion.natAbs).length ≤ maxDigits) :
    OneForm (contract.Built sha256) contract.toDict (contract.fromDict sha256)
      fun document => document.get "schema_version" = .int contract.schemaVersion where
  readBack := by
    rintro value ⟨self, built⟩
    exact Contract.fromDict_toDict lawful built
  written floats document value wellFormed read := by
    have built := Contract.construct_of_fromDict read
    simp only [Contract.fromDict, bind_eq_ok, raiseIf_eq_ok, not_or, not_not] at read
    obtain ⟨_, exactFields, _, ⟨-, typed⟩, -⟩ := read
    have names := Contract.fieldsWith_names lawful value (contract.digest value)
    have distinct := names.symm ▸ lawful.distinct
    rw [← names] at exactFields
    have answers : ∀ entry ∈ contract.claims value ++
        [(contract.digestField, .str (contract.digest value))],
          document.get entry.1 = entry.2 := fun entry member =>
      Contract.reads_of_construct lawful built member
    have listed (entry : String × Json)
        (member : entry ∈ contract.fieldsWith value (contract.digest value)) :
        entry = ("schema_version", .int contract.schemaVersion) ∨
          document.get entry.1 = entry.2 := by
      rw [Contract.fieldsWith, Contract.claimFields, List.cons_append, List.cons_append] at member
      rcases List.mem_cons.mp member with version | rest
      · exact .inl version
      rcases List.mem_cons.mp rest with rfl | claim
      · exact .inr typed
      · exact .inr (answers entry claim)
    exact canonicalJson_iff_version wellFormed exactFields distinct short (List.mem_cons_self ..)
      listed

end VoodooOne
