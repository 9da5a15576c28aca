import VoodooOne.Foundation.TextRendering
import VoodooOne.Rollback.Lineage

/-!
# Canonical text is an injective normal form

Two accepted values have one canonical text when they are the same JSON value, whatever the order of
their keys.  So a digest of a target determines the target, and a chained hash determines the hash
before it and the payload, unless the texts under the hashes are a collision.
-/

namespace VoodooOne

namespace TextValue

mutual

/-- The same JSON value: dictionaries have the same values under the same keys, in any order. -/
def Same : TextValue → TextValue → Prop
  | .arr left, .arr right => SameItems left right
  | .obj left, .obj right => left.length = right.length ∧ SameFields left right
  | left, right => left = right

def SameItems : List TextValue → List TextValue → Prop
  | [], [] => True
  | left :: lefts, right :: rights => Same left right ∧ SameItems lefts rights
  | _, _ => False

/-- Each field is one of the right fields, with the same value. -/
def SameFields : List (Text × TextValue) → List (Text × TextValue) → Prop
  | [], _ => True
  | (key, value) :: fields, right =>
      (∃ other, (key, other) ∈ right ∧ Same value other) ∧ SameFields fields right

end

theorem sameFields_iff {left right : List (Text × TextValue)} : SameFields left right ↔
    ∀ field ∈ left, ∃ other, (field.1, other) ∈ right ∧ Same field.2 other := by
  induction left with
  | nil => simp [SameFields]
  | cons field left induction => rw [SameFields, induction, List.forall_mem_cons]

/-- Values are the same when they are equal with the keys of every dictionary in order. -/
theorem same_iff {left right : TextValue} (leftKeyed : left.Keyed) (rightKeyed : right.Keyed) :
    left.Same right ↔ left.normal = right.normal := by
  induction leftKeyed generalizing right with
  | arr items leftEach induction =>
      clear leftEach
      cases rightKeyed with
      | arr others each =>
          rw [Same, normal, normal, arr.injEq, normalItems_eq_map, normalItems_eq_map]
          induction items generalizing others with
          | nil => cases others <;> simp [SameItems]
          | cons item items later =>
              cases others with
              | nil => simp [SameItems]
              | cons other others =>
                  rw [List.forall_mem_cons] at each induction
                  rw [SameItems, List.map_cons, List.map_cons, List.cons.injEq,
                    induction.1 each.1, later induction.2 others each.2]
      | _ => simp [Same, normal]
  | obj fields distinct _ induction =>
      cases rightKeyed with
      | obj others otherDistinct each =>
          rw [Same, normal, normal, obj.injEq, normalFields_eq_map, normalFields_eq_map,
            sameFields_iff]
          have keys (fields : List (Text × TextValue)) :
              (fields.map fun field => (field.1, field.2.normal)).map Prod.fst =
                fields.map Prod.fst := by
            rw [List.map_map]
            rfl
          constructor
          · rintro ⟨lengths, found⟩
            have inside : (fields.map fun field => (field.1, field.2.normal)) ⊆
                others.map fun field => (field.1, field.2.normal) := by
              rintro _ member
              obtain ⟨field, there, rfl⟩ := List.mem_map.mp member
              obtain ⟨other, listed, same⟩ := found field there
              exact List.mem_map.mpr ⟨_, listed,
                Prod.ext rfl ((induction field there (each _ listed)).mp same).symm⟩
            have different : ((fields.map fun field => (field.1, field.2.normal)).map
                fun field => Text.key field.1).Nodup := by
              have one := (keys fields ▸ distinct : ((fields.map fun field =>
                (field.1, field.2.normal)).map Prod.fst).Nodup)
              have two := one.map Text.key_injective
              rwa [List.map_map] at two
            have perm := (List.subperm_of_subset (different.of_map _) inside).perm_of_length_le
              (by rw [List.length_map, List.length_map, lengths])
            exact Sorting.insertionSort_eq_of_distinct different perm
          · intro sorted
            have perm : (fields.map fun field => (field.1, field.2.normal)).Perm
                (others.map fun field => (field.1, field.2.normal)) :=
              (List.perm_insertionSort keyLe _).symm.trans
                (sorted ▸ List.perm_insertionSort keyLe _)
            refine ⟨by simpa using perm.length_eq, fun field member => ?_⟩
            obtain ⟨⟨key, other⟩, listed, same⟩ := List.mem_map.mp
              (perm.mem_iff.mp (List.mem_map_of_mem member))
            rw [Prod.mk.injEq] at same
            obtain ⟨rfl, values⟩ := same
            exact ⟨other, listed, (induction field member (each _ listed)).mpr values.symm⟩
      | _ => simp [Same, normal]
  | _ => cases rightKeyed <;> simp [Same, normal]

theorem same_normal {value : TextValue} (keyed : value.Keyed) : value.Same value.normal := by
  induction keyed with
  | arr items each induction =>
      clear each
      rw [normal, normalItems_eq_map, Same]
      induction items with
      | nil => trivial
      | cons item items later =>
          rw [List.forall_mem_cons] at induction
          exact ⟨induction.1, later induction.2⟩
  | obj fields _ _ induction =>
      rw [normal, normalFields_eq_map, Same, sameFields_iff]
      refine ⟨by simp, fun field member => ⟨field.2.normal, ?_, induction field member⟩⟩
      exact (List.mem_insertionSort keyLe).mpr (List.mem_map_of_mem member)
  | _ => rfl

theorem render_normal {value : TextValue} (keyed : value.Keyed) :
    value.normal.render = value.render := by
  induction keyed with
  | arr items _ induction =>
      have same : items.map (render ∘ normal) = items.map render := List.map_congr_left induction
      rw [normal, render, render, normalItems_eq_map, renderItems_eq_map, renderItems_eq_map,
        List.map_map, same]
  | obj fields _ _ induction =>
      have again : ((fields.insertionSort keyLe).map fun field =>
          (field.1, field.2.normal)).insertionSort keyLe =
            (fields.insertionSort keyLe).map fun field => (field.1, field.2.normal) := by
        refine (sort_map normal _).trans (congrArg _ ?_)
        have ascending : (fields.insertionSort keyLe).Pairwise keyLe :=
          Sorting.pairwise_sorted fields
        exact ascending.insertionSort_eq
      rw [normal_obj, render_obj, render_obj, again, List.map_map]
      refine congrArg (fun texts => TextUnit.char '\x7b' ::
        (List.intercalate [.char ','] texts ++ [.char '\x7d'])) ?_
      refine List.map_congr_left fun field member => ?_
      rw [Function.comp_apply, induction field ((List.mem_insertionSort keyLe).mp member)]
  | _ => rfl

theorem literal_ofString (text : String) : literal (.ofString text) = (quote text).map .char := by
  have escaped : (Text.ofString text).flatMap escapeUnit =
      (text.toList.flatMap escapeCharacter).map .char := by
    rw [Text.ofString, List.flatMap_map, List.map_flatMap]
    rfl
  rw [literal, escaped, quote, List.map_cons, List.map_append]
  rfl

theorem encodeItems?_eq_some {items : List TextValue} {encoded : List Json} :
    encodeItems? items = some encoded ↔
      List.Forall₂ (fun item json => item.encode? = some json) items encoded := by
  induction items generalizing encoded with
  | nil => cases encoded <;> simp [encodeItems?]
  | cons item items induction =>
      simp only [encodeItems?, Option.bind_eq_bind, Option.bind_eq_some_iff, Option.pure_def,
        Option.some.injEq, induction, List.forall₂_cons_left_iff]
      constructor
      · rintro ⟨json, first, later, each, rfl⟩
        exact ⟨json, later, first, each, rfl⟩
      · rintro ⟨json, later, first, each, rfl⟩
        exact ⟨json, first, later, each, rfl⟩

/-- A field and its encoded form. -/
def EncodesField (field : Text × TextValue) (encoded : String × Json) : Prop :=
  field.1 = .ofString encoded.1 ∧ field.2.encode? = some encoded.2

theorem encodeFields?_eq_some {fields : List (Text × TextValue)} {encoded : List (String × Json)} :
    encodeFields? fields = some encoded ↔ List.Forall₂ EncodesField fields encoded := by
  induction fields generalizing encoded with
  | nil => cases encoded <;> simp [encodeFields?]
  | cons field fields induction =>
      obtain ⟨key, value⟩ := field
      simp only [encodeFields?, Option.bind_eq_bind, Option.bind_eq_some_iff, Option.pure_def,
        Option.some.injEq, induction, List.forall₂_cons_left_iff, Text.encode?_eq_some]
      constructor
      · rintro ⟨name, names, json, first, later, each, rfl⟩
        exact ⟨(name, json), later, ⟨names, first⟩, each, rfl⟩
      · rintro ⟨⟨name, json⟩, later, ⟨names, first⟩, each, rfl⟩
        exact ⟨name, names, json, first, later, each, rfl⟩

theorem key_ofString_le {left right : String} :
    Text.key (.ofString left) ≤ Text.key (.ofString right) ↔ left ≤ right := by
  have less (left right : String) :
      Text.key (.ofString left) < Text.key (.ofString right) ↔ left < right := by
    have same (text : String) : Text.key (.ofString text) = text.toList.map Char.toNat := by
      rw [Text.key, Text.ofString, List.map_map]
      rfl
    rw [same, same, String.lt_iff_toList_lt]
    generalize left.toList = lefts
    generalize right.toList = rights
    induction lefts generalizing rights with
    | nil => cases rights <;> simp
    | cons first lefts induction =>
        cases rights with
        | nil => simp
        | cons second rights =>
            rw [List.map_cons, List.map_cons, List.cons_lt_cons_iff, List.cons_lt_cons_iff,
              propext (induction rights), Char.toNat_inj]
            rfl
  rw [← not_lt, ← not_lt, less]

theorem map_joined (texts : List (List Char)) : (List.intercalate [','] texts).map TextUnit.char =
    List.intercalate [.char ','] (texts.map (List.map .char)) := by
  induction texts with
  | nil => rfl
  | cons first texts induction =>
      cases texts with
      | nil => simp
      | cons second texts =>
          rw [List.map_cons, List.map_cons, List.intercalate_cons_cons, List.intercalate_cons_cons,
            List.map_append, List.map_append, induction]
          rfl

/-- What holds of every pair, on each side and as one equation. -/
theorem collect {α β γ : Type} {left : List α} {right : List β} {first : α → Prop}
    {second : β → Prop} {f : α → γ} {g : β → γ}
    (pairs : List.Forall₂ (fun a b => second b ∧ first a ∧ f a = g b) left right) :
    (∀ b ∈ right, second b) ∧ (∀ a ∈ left, first a) ∧ left.map f = right.map g := by
  induction pairs with
  | nil => simp
  | cons pair _ induction =>
      rw [List.forall_mem_cons, List.forall_mem_cons, List.map_cons, List.map_cons, pair.2.2,
        induction.2.2]
      exact ⟨⟨pair.1, induction.1⟩, ⟨pair.2.1, induction.2.1⟩, rfl⟩

/-- A value that UTF-8 encodes has the canonical text of its encoded form. -/
theorem render_of_encode? {field : String} {levels : Nat} {value : TextValue} {json : Json}
    (accepted : requireJsonValue field levels value = .ok ()) (keyed : value.Keyed)
    (encoded : value.encode? = some json) : json.WellFormed default ∧ value.writable = true ∧
      value.render = (VoodooOne.render json).map .char := by
  induction levels generalizing value json with
  | zero => cases accepted
  | succ levels induction =>
      cases keyed with
      | null =>
          obtain rfl := Option.some.inj encoded
          exact ⟨.null, rfl, rfl⟩
      | bool value =>
          obtain rfl := Option.some.inj encoded
          exact ⟨.bool value, rfl, by cases value <;> rfl⟩
      | int value =>
          rw [encode?] at encoded
          split at encoded
          · next short =>
            obtain rfl := Option.some.inj encoded
            exact ⟨.int value short, decide_eq_true short, rfl⟩
          · cases encoded
      | float repr => cases accepted
      | str text =>
          rw [encode?, Option.map_eq_some_iff] at encoded
          obtain ⟨stored, found, rfl⟩ := encoded
          rw [Text.encode?_eq_some] at found
          exact ⟨.str stored, rfl, by rw [found, render, VoodooOne.render, literal_ofString]⟩
      | arr items each =>
          rw [requireJsonValue, forEach_eq_ok] at accepted
          rw [encode?, Option.map_eq_some_iff] at encoded
          obtain ⟨jsons, pairs, rfl⟩ := encoded
          rw [encodeItems?_eq_some] at pairs
          have both : List.Forall₂ (fun item json => json.WellFormed default ∧
              item.writable = true ∧ item.render = (VoodooOne.render json).map .char)
              items jsons := by
            refine ((List.forall₂_and_left _ _).mpr ⟨fun item member =>
              (⟨accepted item member, each item member⟩ :
                requireJsonValue field levels item = .ok () ∧ item.Keyed), pairs⟩).imp ?_
            rintro item json ⟨⟨passed, keyed⟩, encoded⟩
            exact induction passed keyed encoded
          obtain ⟨wellFormed, short, texts⟩ := collect both
          refine ⟨.arr jsons wellFormed, writableItems_iff.mpr short, ?_⟩
          rw [render, VoodooOne.render, renderItems_eq_map, VoodooOne.renderItems_eq_map,
            List.map_cons, List.map_append, map_joined, List.map_map, texts]
          rfl
      | obj fields distinct each =>
          rw [requireJsonValue, forEach_eq_ok] at accepted
          rw [encode?, Option.map_eq_some_iff] at encoded
          obtain ⟨encodedFields, pairs, rfl⟩ := encoded
          rw [encodeFields?_eq_some] at pairs
          have each : List.Forall₂ (fun field encoded => EncodesField field encoded ∧
              encoded.2.WellFormed default ∧ field.2.writable = true ∧
                literal field.1 ++ .char ':' :: field.2.render =
                  (quote encoded.1 ++ ':' :: VoodooOne.render encoded.2).map .char)
              fields encodedFields := by
            refine ((List.forall₂_and_left _ _).mpr ⟨fun field member =>
              (⟨accepted field member, each field member⟩ :
                requireJsonValue _ levels field.2 = .ok () ∧ field.2.Keyed), pairs⟩).imp ?_
            rintro field encoded ⟨⟨passed, keyed⟩, encodes⟩
            obtain ⟨wellFormed, short, text⟩ := induction passed keyed encodes.2
            refine ⟨encodes, wellFormed, short, ?_⟩
            rw [encodes.1, literal_ofString, text, List.map_append, List.map_cons]
          obtain ⟨wellFormed, short, -⟩ := collect (each.imp fun _ _ pair => pair.2)
          have sorted : List.Forall₂ _ (fields.insertionSort keyLe)
              (encodedFields.insertionSort Json.keyLe) := forall₂_insertionSort
            (fun one two => by rw [keyLe, Json.keyLe, one.1.1, two.1.1, key_ofString_le]) each
          obtain ⟨-, -, texts⟩ := collect (sorted.imp fun _ _ pair => pair.2)
          have names : fields.map Prod.fst = (encodedFields.map Prod.fst).map .ofString := by
            rw [List.map_map]
            exact List.forall₂_eq_eq_eq ▸ List.forall₂_map_left_iff.mpr
              (List.forall₂_map_right_iff.mpr (pairs.imp fun _ _ pair => pair.1))
          refine ⟨.obj encodedFields (names ▸ distinct).of_map wellFormed,
            writableFields_iff.mpr short, ?_⟩
          rw [render_obj, VoodooOne.render_obj, List.map_cons, List.map_append, map_joined,
            List.map_map, texts]
          rfl

end TextValue

/-- A Python value that `_require_json_value` accepts. -/
structure AcceptedValue where
  value : TextValue
  keyed : value.Keyed
  accepted : ∃ field, value.requireJsonValue field jsonLevels = .ok ()

/-- The text under a chained hash, unless UTF-8 cannot encode it. -/
def chainText? (previousHash : Text) (payload : TextValue) : Option String := do
  let text ← payload.canonicalJson?
  TextUnit.encode? (previousHash ++ .char '\n' :: text)

def chainedHash? (sha256 : String → String) (previousHash : Text) (payload : TextValue) :
    Option String :=
  (chainText? previousHash payload).map sha256

namespace AcceptedValue

variable {left right : AcceptedValue} {leftText rightText : Text}

theorem loads?_eq_some {text : Text} {depth : Nat} (room : jsonLevels ≤ depth)
    (written : left.value.canonicalJson? = some text) :
    TextValue.loads? depth text = some left.value.normal := by
  obtain ⟨_, accepted⟩ := left.accepted
  exact TextValue.loads?_canonicalJson? accepted left.keyed room written

theorem text_eq_iff (leftWritten : left.value.canonicalJson? = some leftText)
    (rightWritten : right.value.canonicalJson? = some rightText) :
    leftText = rightText ↔ left.value.Same right.value := by
  rw [TextValue.same_iff left.keyed right.keyed]
  constructor
  · rintro rfl
    have read := loads?_eq_some le_rfl leftWritten
    rw [loads?_eq_some le_rfl rightWritten, Option.some.injEq] at read
    exact read.symm
  · intro same
    have rendered {given : AcceptedValue} {text : Text}
        (written : given.value.canonicalJson? = some text) : text = given.value.normal.render := by
      unfold TextValue.canonicalJson? at written
      split at written
      · rw [TextValue.render_normal given.keyed, Option.some.inj written]
      · cases written
    rw [rendered leftWritten, rendered rightWritten, same]

/-- A line without a break before the text ends where the text starts. -/
theorem lines_eq {first second : Text} (leftWritten : left.value.canonicalJson? = some leftText)
    (rightWritten : right.value.canonicalJson? = some rightText)
    (firstLine : .char '\n' ∉ first) (secondLine : .char '\n' ∉ second)
    (same : first ++ .char '\n' :: leftText = second ++ .char '\n' :: rightText) :
    first = second ∧ left.value.Same right.value := by
  obtain ⟨rfl, texts⟩ := split_inj firstLine secondLine same
  exact ⟨rfl, (text_eq_iff leftWritten rightWritten).mp texts⟩

theorem canonicalJson?_of_encode? {json : Json} (encoded : left.value.encode? = some json) :
    json.WellFormed default ∧
      left.value.canonicalJson? = some (.ofString (canonicalJson json)) := by
  obtain ⟨_, accepted⟩ := left.accepted
  obtain ⟨wellFormed, short, text⟩ := TextValue.render_of_encode? accepted left.keyed encoded
  refine ⟨wellFormed, ?_⟩
  rw [TextValue.canonicalJson?, if_pos short, text, Text.ofString, canonicalJson,
    String.toList_ofList]

end AcceptedValue

namespace ExecutionTarget

/-- `create` returned the target for claims that it accepts and that can be hashed. -/
def Issued (sha256 : String → String) (target : ExecutionTarget) : Prop :=
  ∃ targetKind, ∃ claims : AcceptedValue, ∃ json, claims.value.encode? = some json ∧
    create sha256 targetKind json = .ok target

/-- `==`, which compares the text of the claims. -/
def Equal (left right : ExecutionTarget) : Prop :=
  left.targetKind = right.targetKind ∧
    canonicalJson left.targetClaims = canonicalJson right.targetClaims ∧
      left.targetDigest = right.targetDigest

/-- A digest determines its target, unless the texts under the digests are a collision. -/
theorem Issued.equal_iff {sha256 : String → String} {left right : ExecutionTarget}
    (leftIssued : left.Issued sha256) (rightIssued : right.Issued sha256)
    (apart : ¬Collision sha256 left.digestText right.digestText) :
    left.Equal right ↔ left.targetDigest = right.targetDigest := by
  have issued {target : ExecutionTarget} (issued : target.Issued sha256) :
      target.targetClaims.WellFormed default ∧ target.targetDigest = sha256 target.digestText := by
    obtain ⟨targetKind, claims, json, encoded, created⟩ := issued
    obtain ⟨-, -, -, digest, rfl, -, rfl⟩ := create_eq_ok.mp created
    exact ⟨(AcceptedValue.canonicalJson?_of_encode? encoded).1.normal.1, rfl⟩
  obtain ⟨leftFormed, leftDigest⟩ := issued leftIssued
  obtain ⟨rightFormed, rightDigest⟩ := issued rightIssued
  refine ⟨fun same => same.2.2, fun digests => ?_⟩
  have texts : left.digestText = right.digestText := by
    by_contra different
    exact apart ⟨different, leftDigest.symm.trans (digests.trans rightDigest)⟩
  have each {target : ExecutionTarget} (formed : target.targetClaims.WellFormed default) :
      ∀ field ∈ target.claimFields, field.2.WellFormed default := by
    have text (value : String) : (Json.str value).WellFormed default := .str value
    have version : (Json.int 1).WellFormed default := .int 1 (by decide)
    simp only [claimFields, List.forall_mem_cons, text, version, formed, true_and]
    exact List.forall_mem_nil _
  have distinct : (left.claimFields.map Prod.fst).Nodup :=
    (by decide : ["schema_version", "target_type", "target_kind", "target_claims"].Nodup)
  have keys : left.claimFields.map Prod.fst = right.claimFields.map Prod.fst := rfl
  have same := fields_of_canonicalJson keys distinct (each leftFormed) (each rightFormed) texts
  simp only [claimFields, Json.normalFields, Json.normal, List.cons.injEq, Prod.mk.injEq,
    Json.str.injEq, true_and, and_true] at same
  refine ⟨same.1, ?_, digests⟩
  rw [← canonicalJson_normal, same.2, canonicalJson_normal]

end ExecutionTarget

/-- Canonical text is an injective normal form, and the digests over it determine their content. -/
structure CanonicalForm (sha256 : String → String) : Prop where
  injective : ∀ (left right : AcceptedValue) leftText rightText,
    left.value.canonicalJson? = some leftText → right.value.canonicalJson? = some rightText →
      (leftText = rightText ↔ left.value.Same right.value)
  readBack : ∀ (given : AcceptedValue) text depth, jsonLevels ≤ depth →
    given.value.canonicalJson? = some text →
      ∃ read, TextValue.loads? depth text = some read ∧ given.value.Same read
  lines : ∀ (left right : AcceptedValue) leftText rightText (first second : Text),
    left.value.canonicalJson? = some leftText → right.value.canonicalJson? = some rightText →
      .char '\n' ∉ first → .char '\n' ∉ second →
        first ++ .char '\n' :: leftText = second ++ .char '\n' :: rightText →
          first = second ∧ left.value.Same right.value
  targets : ∀ left right : ExecutionTarget, left.Issued sha256 → right.Issued sha256 →
    ¬Collision sha256 left.digestText right.digestText →
      (left.Equal right ↔ left.targetDigest = right.targetDigest)
  chain : ∀ (left right : AcceptedValue) (first second : Text) leftText rightText,
    chainText? first left.value = some leftText → chainText? second right.value = some rightText →
      .char '\n' ∉ first → .char '\n' ∉ second → ¬Collision sha256 leftText rightText →
        (chainedHash? sha256 first left.value = chainedHash? sha256 second right.value ↔
          first = second ∧ left.value.Same right.value)

theorem canonicalForm (sha256 : String → String) : CanonicalForm sha256 where
  injective _ _ _ _ leftWritten rightWritten := AcceptedValue.text_eq_iff leftWritten rightWritten
  readBack given _ _ room written :=
    ⟨_, AcceptedValue.loads?_eq_some room written, TextValue.same_normal given.keyed⟩
  lines _ _ _ _ _ _ leftWritten rightWritten := AcceptedValue.lines_eq leftWritten rightWritten
  targets _ _ leftIssued rightIssued apart := leftIssued.equal_iff rightIssued apart
  chain left right first second leftText rightText leftChained rightChained firstLine secondLine
      apart := by
    have parts {previousHash : Text} {given : AcceptedValue} {encoded : String}
        (chained : chainText? previousHash given.value = some encoded) :
        ∃ text, given.value.canonicalJson? = some text ∧
          previousHash ++ .char '\n' :: text = .ofString encoded := by
      rw [chainText?, Option.bind_eq_bind, Option.bind_eq_some_iff] at chained
      obtain ⟨text, written, stored⟩ := chained
      exact ⟨text, written, Text.encode?_eq_some.mp stored⟩
    obtain ⟨left', leftWritten, leftLine⟩ := parts leftChained
    obtain ⟨right', rightWritten, rightLine⟩ := parts rightChained
    rw [chainedHash?, chainedHash?, leftChained, rightChained, Option.map_some, Option.map_some,
      Option.some.injEq]
    constructor
    · intro hashes
      have texts : leftText = rightText := by
        by_contra different
        exact apart ⟨different, hashes⟩
      exact AcceptedValue.lines_eq leftWritten rightWritten firstLine secondLine
        (leftLine.trans (texts ▸ rightLine.symm))
    · rintro ⟨rfl, same⟩
      have texts := (AcceptedValue.text_eq_iff leftWritten rightWritten).mpr same
      rw [texts, rightLine] at leftLine
      rw [Text.ofString_injective leftLine]

end VoodooOne
