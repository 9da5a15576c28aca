import VoodooOne.Foundation.JsonRoundTrip

/-!
# What a digest determines

A digest is taken of a canonical text.  Where every field of an object is a scalar, the text shows
each of them, so two objects with one digest agree in every field unless their texts are a
collision.
-/

namespace VoodooOne

/-- A string literal, or a text without separators and quotes. -/
def Delimited (text : List Char) : Prop :=
  (∃ value, text = quote value) ∨ ∀ character ∈ text, character ∉ [',', '\x7d', '"']

theorem delimited_str (value : String) : Delimited (render (.str value)) :=
  .inl ⟨value, by rw [render]⟩

theorem plain_of_all {text : List Char}
    (each : (text.all fun character => [',', '\x7d', '"'].all (character != ·)) = true) :
    ∀ character ∈ text, character ∉ [',', '\x7d', '"'] := by
  intro character member listed
  have differs := List.all_eq_true.mp (List.all_eq_true.mp each character member) character listed
  exact bne_iff_ne.mp differs rfl

theorem delimited_bool (value : Bool) : Delimited (render (.bool value)) := by
  right
  cases value <;> rw [render] <;> exact plain_of_all (by decide)

theorem plain_int (value : Int) :
    ∀ character ∈ (toString value).toList, character ∉ [',', '\x7d', '"'] := by
  intro character member listed
  rw [toList_int] at member
  have digit : character = '-' ∨ character.isDigit := by
    split at member
    · rcases List.mem_cons.mp member with minus | digits
      · exact .inl minus
      · exact .inr (Nat.isDigit_of_mem_toDigits (by decide) (by decide) digits)
    · exact .inr (Nat.isDigit_of_mem_toDigits (by decide) (by decide) member)
  simp only [List.mem_cons, List.not_mem_nil, or_false] at listed
  rcases listed with rfl | rfl | rfl <;> exact absurd digit (by decide)

theorem delimited_int (value : Int) : Delimited (render (.int value)) := by
  right
  rw [render]
  exact plain_int value

theorem delimited_of_equalsInt {value : Json} {number : Int}
    (equal : value.equalsInt number = true) : Delimited (render value) := by
  cases value with
  | bool => exact delimited_bool _
  | int => exact delimited_int _
  | float repr =>
      have same : repr = toString number ++ ".0" := by simpa [Json.equalsInt] using equal
      right
      intro character member listed
      rw [render, same, String.toList_append] at member
      rcases List.mem_append.mp member with digit | fraction
      · exact plain_int number character digit listed
      · simp only [List.mem_cons, List.not_mem_nil, or_false] at listed
        rcases listed with rfl | rfl | rfl <;> exact absurd fraction (by decide)
  | null => cases equal
  | str => cases equal
  | arr => cases equal
  | obj => cases equal

/-- What follows a value in an object. -/
def Separated (rest : List Char) : Prop := ∃ next tail, rest = next :: tail ∧ next ∈ [',', '\x7d']

theorem plain_append_inj {left right leftRest rightRest : List Char}
    (leftPlain : ∀ character ∈ left, character ∉ [',', '\x7d', '"'])
    (rightPlain : ∀ character ∈ right, character ∉ [',', '\x7d', '"'])
    (leftSeparated : Separated leftRest) (rightSeparated : Separated rightRest)
    (same : left ++ leftRest = right ++ rightRest) : left = right ∧ leftRest = rightRest := by
  obtain ⟨leftNext, leftTail, rfl, leftEnds⟩ := leftSeparated
  obtain ⟨rightNext, rightTail, rfl, rightEnds⟩ := rightSeparated
  have stops {next : Char} (ends : next ∈ [',', '\x7d']) : next ∈ [',', '\x7d', '"'] :=
    List.mem_append_left ['"'] ends
  induction left generalizing right with
  | nil =>
      cases right with
      | nil => exact ⟨rfl, same⟩
      | cons character right =>
          rw [List.nil_append, List.cons_append, List.cons.injEq] at same
          exact absurd (stops (same.1 ▸ leftEnds)) (rightPlain _ (List.mem_cons_self ..))
  | cons character left induction =>
      cases right with
      | nil =>
          rw [List.nil_append, List.cons_append, List.cons.injEq] at same
          exact absurd (stops (same.1 ▸ rightEnds)) (leftPlain _ (List.mem_cons_self ..))
      | cons other right =>
          rw [List.cons_append, List.cons_append, List.cons.injEq] at same
          obtain ⟨rfl, rests⟩ := same
          obtain ⟨rfl, tails⟩ := induction
            (fun character member => leftPlain _ (List.mem_cons_of_mem _ member))
            (fun character member => rightPlain _ (List.mem_cons_of_mem _ member)) rests
          exact ⟨rfl, tails⟩

/-- A string literal is not the start of another text. -/
theorem quote_ne_plain {value : String} {plain leftRest rightRest : List Char}
    (isPlain : ∀ character ∈ plain, character ∉ [',', '\x7d', '"'])
    (separated : Separated rightRest) : quote value ++ leftRest ≠ plain ++ rightRest := by
  obtain ⟨next, tail, rfl, ends⟩ := separated
  intro same
  rw [quote, List.cons_append] at same
  cases plain with
  | nil =>
      rw [List.nil_append, List.cons.injEq] at same
      obtain ⟨rfl, -⟩ := same
      exact absurd ends (by decide)
  | cons character plain =>
      rw [List.cons_append, List.cons.injEq] at same
      obtain ⟨rfl, -⟩ := same
      exact absurd (isPlain _ (List.mem_cons_self ..)) (by decide)

theorem Delimited.append_inj {left right leftRest rightRest : List Char}
    (leftDelimited : Delimited left) (rightDelimited : Delimited right)
    (leftSeparated : Separated leftRest) (rightSeparated : Separated rightRest)
    (same : left ++ leftRest = right ++ rightRest) : left = right ∧ leftRest = rightRest := by
  rcases leftDelimited with ⟨leftValue, rfl⟩ | leftPlain <;>
    rcases rightDelimited with ⟨rightValue, rfl⟩ | rightPlain
  · obtain ⟨rfl, rests⟩ := quote_append_inj same
    exact ⟨rfl, rests⟩
  · exact absurd same (quote_ne_plain rightPlain rightSeparated)
  · exact absurd same.symm (quote_ne_plain leftPlain leftSeparated)
  · exact plain_append_inj leftPlain rightPlain leftSeparated rightSeparated same

def fieldTexts (fields : List (String × Json)) : List (String × List Char) :=
  fields.map fun field => (field.1, render field.2)

/-- The text of fields up to the end of their object determines them. -/
theorem closed_inj {left right : List (String × List Char)}
    (keys : left.map Prod.fst = right.map Prod.fst)
    (leftEach : ∀ field ∈ left, Delimited field.2) (rightEach : ∀ field ∈ right, Delimited field.2)
    (same : List.intercalate [','] (left.map fun field => quote field.1 ++ ':' :: field.2) ++
        ['\x7d'] =
      List.intercalate [','] (right.map fun field => quote field.1 ++ ':' :: field.2) ++
        ['\x7d']) : left = right := by
  have first {key : String} {leftText rightText leftRest rightRest : List Char}
      (leftDelimited : Delimited leftText) (rightDelimited : Delimited rightText)
      (leftSeparated : Separated leftRest) (rightSeparated : Separated rightRest)
      (texts : quote key ++ ':' :: leftText ++ leftRest = quote key ++ ':' :: rightText ++
        rightRest) :
      leftText = rightText ∧ leftRest = rightRest := by
    rw [List.append_assoc, List.append_assoc] at texts
    have values := List.append_cancel_left texts
    rw [List.cons_append, List.cons_append, List.cons.injEq] at values
    exact leftDelimited.append_inj rightDelimited leftSeparated rightSeparated values.2
  have ended : Separated ['\x7d'] := ⟨_, _, rfl, by decide⟩
  have more (rest : List Char) : Separated (',' :: rest) := ⟨_, _, rfl, by decide⟩
  induction left generalizing right with
  | nil => exact (List.map_eq_nil_iff.mp keys.symm).symm
  | cons field left induction =>
      cases right with
      | nil => simp at keys
      | cons other right =>
          obtain ⟨key, leftText⟩ := field
          obtain ⟨otherKey, rightText⟩ := other
          rw [List.map_cons, List.map_cons, List.cons.injEq] at keys
          obtain ⟨rfl, keys⟩ : key = otherKey ∧ _ := keys
          rw [List.forall_mem_cons] at leftEach rightEach
          cases left with
          | nil =>
              obtain rfl := List.map_eq_nil_iff.mp keys.symm
              rw [List.map_singleton, List.map_singleton, List.intercalate_singleton,
                List.intercalate_singleton] at same
              obtain ⟨rfl, -⟩ := first leftEach.1 rightEach.1 ended ended same
              rfl
          | cons leftNext left =>
              cases right with
              | nil => simp at keys
              | cons rightNext right =>
                  simp only [List.map_cons, List.intercalate_cons_cons, List.append_assoc,
                    List.singleton_append] at same
                  obtain ⟨rfl, rests⟩ := first leftEach.1 rightEach.1 (more _) (more _)
                    (by simpa only [List.append_assoc, List.cons_append] using same)
                  rw [List.cons.injEq] at rests
                  rw [induction keys leftEach.2 rightEach.2 (by simpa using rests.2)]

theorem sort_fieldTexts (fields : List (String × Json)) :
    fieldTexts (fields.insertionSort Json.keyLe) =
      (fieldTexts fields).insertionSort fun left right => left.1 ≤ right.1 :=
  List.map_insertionSort Json.keyLe (fun left right : String × List Char => left.1 ≤ right.1)
    (fun field => (field.1, render field.2)) fields fun _ _ _ _ => Iff.rfl

theorem keys_fieldTexts (fields : List (String × Json)) :
    (fieldTexts fields).map Prod.fst = fields.map Prod.fst := by
  rw [fieldTexts, List.map_map]
  rfl

theorem eq_of_perm_of_keys {α : Type} {left right : List (String × α)} (perm : left.Perm right)
    (keys : left.map Prod.fst = right.map Prod.fst) (distinct : (left.map Prod.fst).Nodup) :
    left = right := by
  induction left generalizing right with
  | nil => exact (List.map_eq_nil_iff.mp keys.symm).symm
  | cons field left induction =>
      cases right with
      | nil => simp at keys
      | cons other right =>
          rw [List.map_cons, List.map_cons, List.cons.injEq] at keys
          rw [List.map_cons, List.nodup_cons] at distinct
          have same : field = other := by
            rcases List.mem_cons.mp (perm.subset (List.mem_cons_self ..)) with same | later
            · exact same
            · exact absurd (keys.2 ▸ List.mem_map_of_mem later) distinct.1
          subst same
          rw [induction perm.cons_inv keys.2 distinct.2]

/-- Objects of the same distinct keys and delimited values have the same texts of values when their
canonical texts are the same. -/
theorem fieldTexts_of_canonicalJson {left right : List (String × Json)}
    (same : canonicalJson (.object left) = canonicalJson (.object right))
    (keys : left.map Prod.fst = right.map Prod.fst) (distinct : (left.map Prod.fst).Nodup)
    (leftEach : ∀ field ∈ left, Delimited (render field.2))
    (rightEach : ∀ field ∈ right, Delimited (render field.2)) :
    fieldTexts left = fieldTexts right := by
  have texts : render (.object left) = render (.object right) := String.ofList_inj.mp same
  rw [render_object, render_object, List.cons.injEq] at texts
  have delimited {fields : List (String × Json)}
      (each : ∀ field ∈ fields, Delimited (render field.2)) :
      ∀ field ∈ fieldTexts (fields.insertionSort Json.keyLe), Delimited field.2 := by
    intro field member
    obtain ⟨original, stored, rfl⟩ := List.mem_map.mp member
    exact each original ((List.mem_insertionSort Json.keyLe).mp stored)
  have sortedKeys (fields : List (String × Json)) :
      (fieldTexts (fields.insertionSort Json.keyLe)).map Prod.fst =
        (fields.map Prod.fst).insertionSort (· ≤ ·) := by
    rw [keys_fieldTexts]
    exact List.map_insertionSort Json.keyLe (· ≤ ·) Prod.fst fields fun _ _ _ _ => Iff.rfl
  have sorted := closed_inj (by rw [sortedKeys, sortedKeys, keys]) (delimited leftEach)
    (delimited rightEach) texts.2
  rw [sort_fieldTexts, sort_fieldTexts] at sorted
  have perm : (fieldTexts left).Perm (fieldTexts right) := by
    have first := (fieldTexts left).perm_insertionSort fun left right => left.1 ≤ right.1
    rw [sorted] at first
    exact first.symm.trans ((fieldTexts right).perm_insertionSort fun left right => left.1 ≤
      right.1)
  refine eq_of_perm_of_keys perm ?_ ?_
  · rw [keys_fieldTexts, keys_fieldTexts, keys]
  · rw [keys_fieldTexts]
    exact distinct

@[simp] theorem render_str_inj {left right : String} :
    render (.str left) = render (.str right) ↔ left = right := by
  refine ⟨fun same => ?_, fun same => by rw [same]⟩
  rw [render, render] at same
  exact (quote_append_inj (congrArg (· ++ []) same)).1

@[simp] theorem render_int_inj {left right : Int} :
    render (.int left) = render (.int right) ↔ left = right := by
  refine ⟨fun same => ?_, fun same => by rw [same]⟩
  rw [render, render] at same
  rw [← integerOf_int left, same, integerOf_int]

namespace Contract

variable {α : Type} {contract : Contract α} {sha256 : String → String} {left right : α}

/-- Built objects with one digest agree in the texts of their fields, or their canonical texts are a
collision. -/
theorem claims_eq_or_collision (lawful : contract.Lawful)
    (leftBuilt : contract.Built sha256 left) (rightBuilt : contract.Built sha256 right)
    (leftEach : ∀ field ∈ contract.claims left, Delimited (render field.2))
    (rightEach : ∀ field ∈ contract.claims right, Delimited (render field.2))
    (digests : contract.digest left = contract.digest right) :
    fieldTexts (contract.claims left) = fieldTexts (contract.claims right) ∨
      Collision sha256 (contract.digestText left) (contract.digestText right) := by
  by_cases texts : contract.digestText left = contract.digestText right
  · left
    have names (value : α) : (contract.claimFields value).map Prod.fst =
        "schema_version" :: contract.typeField :: contract.attributes.map Prod.fst := by
      rw [claimFields, List.map_cons, List.map_cons, lawful.names value]
    have distinct : ((contract.claimFields left).map Prod.fst).Nodup := by
      rw [names]
      exact (List.sublist_append_left _ [contract.digestField]).nodup lawful.distinct
    have each {value : α} (claims : ∀ field ∈ contract.claims value, Delimited (render field.2)) :
        ∀ field ∈ contract.claimFields value, Delimited (render field.2) := by
      rw [claimFields, List.forall_mem_cons, List.forall_mem_cons]
      exact ⟨delimited_int _, delimited_str _, claims⟩
    have same := fieldTexts_of_canonicalJson texts (by rw [names, names]) distinct (each leftEach)
      (each rightEach)
    simpa [claimFields, fieldTexts] using same
  · right
    refine ⟨texts, ?_⟩
    rw [digestText, digestText]
    exact leftBuilt.digest_eq.symm.trans (digests.trans rightBuilt.digest_eq)

end Contract

end VoodooOne
