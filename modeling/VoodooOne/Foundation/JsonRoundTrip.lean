import VoodooOne.Foundation.JsonTokens
import VoodooOne.Library.Separated

/-!
# The decoder reads canonical text back

A well-formed value is read back from its canonical text with the fields of every object in the
order of their keys, so the canonical text determines the value up to that order.  What the decoder
yields is well formed.
-/

namespace VoodooOne

open Json

mutual

/-- The value with the fields of every object in the order of their keys. -/
def Json.normal : Json → Json
  | .arr items => .arr (normalItems items)
  | .obj fields => .object (normalFields fields)
  | value => value

def Json.normalItems : List Json → List Json
  | [] => []
  | item :: items => item.normal :: normalItems items

/-- The fields of an object with their values in normal form. -/
def Json.normalFields : List (String × Json) → List (String × Json)
  | [] => []
  | (key, value) :: fields => (key, value.normal) :: normalFields fields

end

theorem Json.normalItems_eq_map (items : List Json) : normalItems items = items.map normal := by
  induction items with
  | nil => rfl
  | cons item items induction => rw [normalItems, induction, List.map_cons]

theorem Json.normalFields_eq_map (fields : List (String × Json)) :
    normalFields fields = fields.map fun field => (field.1, field.2.normal) := by
  induction fields with
  | nil => rfl
  | cons field fields induction => rw [normalFields, induction, List.map_cons]

theorem renderItems_eq_map (items : List Json) : renderItems items = items.map render := by
  induction items with
  | nil => rfl
  | cons item items induction => rw [renderItems, induction, List.map_cons]

/-- What keeps the keys of fields may be done before or after they are sorted. -/
theorem sort_map_fields (change : Json → Json) (fields : List (String × Json)) :
    (fields.map fun field => (field.1, change field.2)).insertionSort keyLe =
      (fields.insertionSort keyLe).map fun field => (field.1, change field.2) :=
  (List.map_insertionSort keyLe keyLe (fun field => (field.1, change field.2)) fields
    fun _ _ _ _ => Iff.rfl).symm

theorem render_obj (fields : List (String × Json)) : render (.obj fields) =
    '\x7b' :: (List.intercalate [','] ((fields.insertionSort keyLe).map fun field =>
      quote field.1 ++ ':' :: render field.2) ++ ['\x7d']) := by
  have sorted := List.map_insertionSort keyLe
    (fun left right : String × List Char => left.1 ≤ right.1)
    (fun field => (field.1, render field.2)) fields fun _ _ _ _ => Iff.rfl
  rw [render, renderFields_eq_map, ← sorted, List.map_map]
  rfl

theorem render_object_eq (fields : List (String × Json)) :
    render (.object fields) = render (.obj fields) := by
  have sorted : (fields.insertionSort keyLe).Pairwise keyLe :=
    List.pairwise_insertionSort keyLe fields
  rw [object, render_obj, render_obj, sorted.insertionSort_eq]

mutual

theorem render_normal (value : Json) : render value.normal = render value := by
  cases value with
  | arr items => rw [normal, render, render, renderItems_normal]
  | obj fields => rw [normal, render_object_eq, render, render, renderFields_normal]
  | _ => rfl

theorem renderItems_normal (items : List Json) :
    renderItems (normalItems items) = renderItems items := by
  cases items with
  | nil => rfl
  | cons item items =>
      rw [normalItems, renderItems, renderItems, render_normal, renderItems_normal]

theorem renderFields_normal (fields : List (String × Json)) :
    renderFields (normalFields fields) = renderFields fields := by
  cases fields with
  | nil => rfl
  | cons field fields =>
      rw [normalFields, renderFields, renderFields, render_normal, renderFields_normal]

end

theorem length_text_le_joined {texts : List (List Char)} {text : List Char}
    (member : text ∈ texts) : text.length ≤ (List.intercalate [','] texts).length := by
  induction texts with
  | nil => simp at member
  | cons first texts induction =>
      cases texts with
      | nil =>
          obtain rfl := List.mem_singleton.mp member
          simp
      | cons second texts =>
          rw [List.intercalate_cons_cons]
          simp only [List.length_append, List.length_cons, List.length_nil]
          rcases List.mem_cons.mp member with rfl | later
          · omega
          · have bound := induction later
            omega

theorem readElements_eq {α : Type} (element : List Char → Option (α × List Char)) (close : Char)
    (fuel : Nat) (characters : List Char) : readElements element close fuel characters =
      Separated.elements isBlank ',' element close fuel characters := by
  induction fuel generalizing characters with
  | zero => rfl
  | succ fuel induction =>
      rw [readElements, Separated.elements]
      refine congrArg _ (funext fun found => ?_)
      obtain ⟨item, rest⟩ := found
      simp only [skipBlank]
      cases List.dropWhile isBlank rest with
      | nil => rfl
      | cons next rest => simp only [induction]

/-- A sequence of texts that an element reader reads back is read back. -/
theorem readSequence_joined {α β : Type} {element : List Char → Option (α × List Char)}
    {close : Char} {text : β → List Char} {value : β → α} (notComma : close ≠ ',')
    (notBlank : isBlank close = false) {items : List β}
    (starts : ∀ item ∈ items, ∃ first tail, text item = first :: tail ∧ isBlank first = false ∧
      first ≠ close)
    (reads : ∀ item ∈ items, ∀ next rest, next = ',' ∨ next = close →
      element (text item ++ next :: rest) = some (value item, next :: rest))
    (rest : List Char) :
    readSequence element close (List.intercalate [','] (items.map text) ++ close :: rest) =
      some (items.map value, rest) := by
  rw [← Separated.sequence_joined notComma rfl notBlank starts reads rest, readSequence,
    Separated.sequence, readElements_eq]
  rfl

/-- The text of a well-formed value starts with none of the characters that a sequence skips or
ends at. -/
theorem render_start {floats : FloatRepr} {value : Json} (wellFormed : value.WellFormed floats) :
    ∃ first tail, render value = first :: tail ∧ isBlank first = false ∧ first ≠ ']' ∧
      first ≠ '\x7d' := by
  have digits {digit : Char} (isDigit : digit.isDigit) : isBlank digit = false ∧ digit ≠ ']' ∧
      digit ≠ '\x7d' := by
    have space : digit ≠ ' ' := ne_of_isDigit isDigit rfl
    have tab : digit ≠ '\t' := ne_of_isDigit isDigit rfl
    have line : digit ≠ '\n' := ne_of_isDigit isDigit rfl
    have carriage : digit ≠ '\r' := ne_of_isDigit isDigit rfl
    exact ⟨by simp [isBlank, *], ne_of_isDigit isDigit rfl, ne_of_isDigit isDigit rfl⟩
  have number {characters : List Char} {found : (List Char × List Char) × List Char}
      (scanned : scanNumber characters = some found) : ∃ first tail, characters = first :: tail ∧
        isBlank first = false ∧ first ≠ ']' ∧ first ≠ '\x7d' := by
    obtain ⟨digit, tail, isDigit, rfl | rfl⟩ := scanNumber_start scanned
    · exact ⟨_, _, rfl, digits isDigit⟩
    · exact ⟨_, _, rfl, by decide⟩
  cases wellFormed with
  | null => exact ⟨_, _, rfl, by decide⟩
  | bool value => cases value <;> exact ⟨_, _, rfl, by decide⟩
  | int value short =>
      rw [render]
      exact number (scanNumber_int value)
  | float text shortest =>
      rw [render]
      rcases shortest ▸ floats.literal text with special | ⟨whole, fraction, -, scanned⟩
      · simp only [nonfinite, List.mem_cons, List.not_mem_nil, or_false] at special
        rcases special with rfl | rfl | rfl <;> exact ⟨_, _, rfl, by decide⟩
      · exact number scanned
  | str text => exact ⟨'"', _, by rw [render, quote], by decide⟩
  | arr items each => exact ⟨'[', _, by rw [render], by decide⟩
  | obj fields distinct each => exact ⟨'\x7b', _, by rw [render], by decide⟩

theorem skipBlank_render {floats : FloatRepr} {value : Json} (wellFormed : value.WellFormed floats)
    (rest : List Char) : skipBlank (render value ++ rest) = render value ++ rest := by
  obtain ⟨first, tail, start, blank, -⟩ := render_start wellFormed
  simp [start, skipBlank, blank]

theorem readValue_scalar {floats : FloatRepr} {depth : Nat} {characters : List Char}
    {value : Json} {rest : List Char} (read : readScalar floats characters = some (value, rest))
    (scalar : ∀ tail, characters ≠ '"' :: tail ∧ characters ≠ '[' :: tail ∧
      characters ≠ '\x7b' :: tail) :
    readValue floats (depth + 1) characters = some (value, rest) := by
  rw [readValue]
  · exact read
  · exact fun tail same => (scalar tail).1 same
  · exact fun tail same => (scalar tail).2.1 same
  · exact fun tail same => (scalar tail).2.2 same

theorem closed_of_follows {next close : Char} (rest : List Char) (ends : next = ',' ∨ next = close)
    (bracket : close = ']' ∨ close = '\x7d') : Closed (next :: rest) := by
  apply closed_cons
  rcases ends with rfl | rfl
  · simp
  · rcases bracket with rfl | rfl <;> simp

/-- Assigning distinct keys one after the other keeps them in their order. -/
theorem ofPairs_eq_self {pairs : List (String × Json)} (distinct : (pairs.map Prod.fst).Nodup) :
    ofPairs pairs = pairs := by
  have assigned (done pairs : List (String × Json))
      (distinct : ((done ++ pairs).map Prod.fst).Nodup) :
      pairs.foldl setItem done = done ++ pairs := by
    induction pairs generalizing done with
    | nil => simp
    | cons pair pairs induction =>
        have fresh : pair.1 ∉ done.map Prod.fst := by
          rw [List.map_append, List.nodup_append, List.map_cons] at distinct
          intro old
          exact distinct.2.2 _ old _ List.mem_cons_self rfl
        rw [List.foldl_cons, setItem, if_neg fresh,
          induction (done ++ [pair]) (by simpa using distinct)]
        simp
  exact assigned [] pairs distinct

theorem readMember_rendered {value : List Char → Option (Json × List Char)}
    {field : String × Json} {found : Json} {rest : List Char}
    (start : skipBlank (render field.2 ++ rest) = render field.2 ++ rest)
    (reads : value (render field.2 ++ rest) = some (found, rest)) :
    readMember value (quote field.1 ++ ':' :: render field.2 ++ rest) =
      some ((field.1, found), rest) := by
  have colon (rest : List Char) : skipBlank (':' :: rest) = ':' :: rest := rfl
  simp only [quote, List.cons_append, List.append_assoc, List.nil_append]
  rw [readMember, readString_quoted]
  simp [colon, start, reads]

theorem readValue_number {floats : FloatRepr} {depth : Nat} {characters rest : List Char}
    {value : Json} {found : (List Char × List Char) × List Char}
    (scanned : scanNumber characters = some found)
    (read : readScalar floats (characters ++ rest) = some (value, rest)) :
    readValue floats (depth + 1) (characters ++ rest) = some (value, rest) := by
  apply readValue_scalar read
  intro tail
  obtain ⟨digit, more, isDigit, rfl | rfl⟩ := scanNumber_start scanned
  · have quotes : digit ≠ '"' := ne_of_isDigit isDigit rfl
    have brackets : digit ≠ '[' := ne_of_isDigit isDigit rfl
    have braces : digit ≠ '\x7b' := ne_of_isDigit isDigit rfl
    simp [*]
  · simp

theorem readValue_render {floats : FloatRepr} {value : Json} (wellFormed : value.WellFormed floats)
    {depth : Nat} {rest : List Char} (enough : (render value).length ≤ depth + 1)
    (closed : Closed rest) :
    readValue floats (depth + 1) (render value ++ rest) = some (value.normal, rest) := by
  induction wellFormed generalizing depth rest with
  | null =>
      apply readValue_scalar
      · simp [render, normal, readScalar, constants, nonfinite, readWord, List.dropPrefix?]
      · simp [render]
  | bool value =>
      cases value <;> apply readValue_scalar
      any_goals simp [render]
      all_goals simp [normal, readScalar, constants, nonfinite, readWord, List.dropPrefix?]
  | int value short =>
      rw [render]
      exact readValue_number (scanNumber_int value) (readScalar_int short closed)
  | float text shortest =>
      have read : readScalar floats (text.toList ++ rest) = some (.float text, rest) :=
        readScalar_float shortest closed
      rw [render]
      rcases shortest ▸ floats.literal text with special | ⟨_, _, -, scanned⟩
      · apply readValue_scalar read
        simp only [nonfinite, List.mem_cons, List.not_mem_nil, or_false] at special
        rcases special with rfl | rfl | rfl <;> simp
      · exact readValue_number scanned read
  | str text =>
      rw [render, quote, List.cons_append, List.append_assoc, List.singleton_append, readValue,
        readString_quoted]
      rfl
  | arr items each induction =>
      rw [render, renderItems_eq_map] at enough ⊢
      obtain ⟨depth, rfl⟩ := Nat.exists_eq_succ_of_ne_zero (n := depth) (by
        simp only [List.length_cons, List.length_append] at enough
        omega)
      have reads : ∀ item ∈ items, ∀ next rest, next = ',' ∨ next = ']' →
          readValue floats (depth + 1) (render item ++ next :: rest) =
            some (item.normal, next :: rest) := by
        intro item member next rest ends
        have bound := length_text_le_joined (List.mem_map_of_mem (f := render) member)
        simp only [List.length_cons, List.length_append] at enough
        exact induction item member (by omega) (closed_of_follows rest ends (.inl rfl))
      have starts : ∀ item ∈ items, ∃ first tail, render item = first :: tail ∧
          isBlank first = false ∧ first ≠ ']' := by
        intro item member
        obtain ⟨first, tail, start, blank, other, -⟩ := render_start (each item member)
        exact ⟨first, tail, start, blank, other⟩
      rw [List.cons_append, List.append_assoc, List.singleton_append, readValue,
        readSequence_joined (by decide) rfl starts reads rest, normal, normalItems_eq_map]
      rfl
  | obj fields distinct each induction =>
      rw [render_obj] at enough ⊢
      obtain ⟨depth, rfl⟩ := Nat.exists_eq_succ_of_ne_zero (n := depth) (by
        simp only [List.length_cons, List.length_append] at enough
        omega)
      have stored {field : String × Json} (member : field ∈ fields.insertionSort keyLe) :
          field ∈ fields := (List.mem_insertionSort keyLe).mp member
      have reads : ∀ field ∈ fields.insertionSort keyLe, ∀ next rest, next = ',' ∨ next = '\x7d' →
          readMember (readValue floats (depth + 1))
            (quote field.1 ++ ':' :: render field.2 ++ next :: rest) =
            some ((field.1, field.2.normal), next :: rest) := by
        intro field member next rest ends
        have bound := length_text_le_joined (List.mem_map_of_mem
          (f := fun field => quote field.1 ++ ':' :: render field.2) member)
        simp only [List.length_cons, List.length_append] at enough bound
        apply readMember_rendered (skipBlank_render (each field (stored member)) _)
        exact induction field (stored member) (by omega)
          (closed_of_follows rest ends (.inr rfl))
      have starts : ∀ field ∈ fields.insertionSort keyLe, ∃ first tail,
          quote field.1 ++ ':' :: render field.2 = first :: tail ∧ isBlank first = false ∧
            first ≠ '\x7d' := fun field _ => ⟨'"', _, rfl, by decide⟩
      have keys : (((fields.insertionSort keyLe).map fun field =>
          (field.1, field.2.normal)).map Prod.fst).Nodup := by
        rw [List.map_map]
        exact ((fields.perm_insertionSort keyLe).map Prod.fst).nodup_iff.mpr distinct
      rw [List.cons_append, List.append_assoc, List.singleton_append, readValue,
        readSequence_joined (by decide) rfl starts reads rest, Option.map_some,
        ofPairs_eq_self keys, normal, normalFields_eq_map, object, sort_map_fields]

/-- `json.loads` reads back what `json.dumps` writes. -/
theorem loads_canonicalJson {floats : FloatRepr} {value : Json}
    (wellFormed : value.WellFormed floats) :
    loads floats (canonicalJson value) = some value.normal := by
  have enough : (render value).length ≤ (canonicalJson value).length + 1 := by simp [canonicalJson]
  have read := readValue_render wellFormed enough closed_nil
  have start := skipBlank_render wellFormed []
  rw [List.append_nil] at read start
  rw [loads, canonicalJson, String.toList_ofList, start]
  rw [canonicalJson] at read
  rw [read]
  rfl

/-- The canonical text of a well-formed value determines it up to the order of its fields. -/
theorem normal_eq_of_canonicalJson {floats : FloatRepr} {left right : Json}
    (leftWellFormed : left.WellFormed floats) (rightWellFormed : right.WellFormed floats)
    (same : canonicalJson left = canonicalJson right) : left.normal = right.normal := by
  have read := loads_canonicalJson leftWellFormed
  rw [same, loads_canonicalJson rightWellFormed] at read
  exact (Option.some.inj read).symm

theorem canonicalJson_normal (value : Json) : canonicalJson value.normal = canonicalJson value := by
  rw [canonicalJson, canonicalJson, render_normal]

theorem ofDigitChars_lt {digits : List Char} (each : ∀ digit ∈ digits, digit.isDigit = true) :
    Nat.ofDigitChars 10 digits 0 < 10 ^ digits.length := by
  induction digits using List.reverseRecOn with
  | nil => decide
  | append_singleton digits digit induction =>
      have smaller := induction fun other member => each other (List.mem_append_left _ member)
      have range := each digit (by simp)
      have value : digit.toNat - '0'.toNat < 10 := by
        simp only [Char.isDigit, Bool.and_eq_true, decide_eq_true_eq, ge_iff_le,
          UInt32.le_iff_toNat_le] at range
        have upper : digit.toNat ≤ 57 := range.2
        change digit.toNat - 48 < 10
        omega
      rw [Nat.ofDigitChars_append, Nat.ofDigitChars_cons, Nat.ofDigitChars_nil, List.length_append,
        List.length_singleton, pow_succ]
      omega

theorem scanNatural_digits {characters found rest : List Char}
    (scanned : scanNatural characters = some (found, rest)) :
    found ≠ [] ∧ ∀ digit ∈ found, digit.isDigit = true := by
  unfold scanNatural at scanned
  split at scanned
  · simp only [Option.some.injEq, Prod.mk.injEq] at scanned
    obtain ⟨rfl, -⟩ := scanned
    simp
  · split at scanned
    · cases scanned
    · next nonempty =>
      rw [Option.some.injEq, Prod.ext_iff] at scanned
      obtain ⟨rfl, -⟩ := scanned
      exact ⟨nonempty, fun digit member => List.mem_takeWhile_imp member⟩

theorem short_integerOf {characters whole rest : List Char}
    (scanned : scanWhole characters = some (whole, rest))
    (short : (whole.filter Char.isDigit).length ≤ maxDigits) :
    (Nat.toDigits 10 (integerOf whole).natAbs).length ≤ maxDigits := by
  have bounded {digits : List Char} (each : ∀ digit ∈ digits, digit.isDigit = true)
      (few : digits.length ≤ maxDigits) :
      (Nat.toDigits 10 (Nat.ofDigitChars 10 digits 0)).length ≤ maxDigits := by
    rw [Nat.length_toDigits_le_iff (by decide) (by decide)]
    exact (ofDigitChars_lt each).trans_le (Nat.pow_le_pow_right (by decide) few)
  unfold scanWhole at scanned
  split at scanned
  · simp only [Option.map_eq_some_iff, Prod.mk.injEq] at scanned
    obtain ⟨⟨digits, after⟩, natural, rfl, -⟩ := scanned
    obtain ⟨-, each⟩ := scanNatural_digits natural
    rw [List.filter_cons_of_neg (by decide), List.filter_eq_self.mpr each] at short
    rw [integerOf, Int.natAbs_neg, Int.natAbs_natCast]
    exact bounded each short
  · obtain ⟨-, each⟩ := scanNatural_digits scanned
    rw [List.filter_eq_self.mpr each] at short
    rw [integerOf, Int.natAbs_natCast]
    · exact bounded each short
    · rintro tail rfl
      have digit := each '-' List.mem_cons_self
      cases digit

theorem mem_of_readWord {characters rest : List Char} {value : Json}
    {words : List (String × Json)} (read : readWord characters words = some (value, rest)) :
    ∃ word, (word, value) ∈ words := by
  induction words with
  | nil => cases read
  | cons word words induction =>
      obtain ⟨spelled, meant⟩ := word
      rw [readWord] at read
      split at read
      · simp only [Option.some.injEq, Prod.mk.injEq] at read
        exact ⟨spelled, by simp [read.1]⟩
      · obtain ⟨word, member⟩ := induction read
        exact ⟨word, List.mem_cons_of_mem _ member⟩

theorem wellFormed_of_readScalar {floats : FloatRepr} {characters rest : List Char} {value : Json}
    (read : readScalar floats characters = some (value, rest)) : value.WellFormed floats := by
  rw [readScalar, Option.or_eq_some_iff] at read
  rcases read with constant | ⟨-, number⟩
  · obtain ⟨word, member⟩ := mem_of_readWord constant
    simp only [constants, List.mem_append, List.mem_cons, Prod.mk.injEq, List.not_mem_nil, or_false,
      List.mem_map] at member
    rcases member with (⟨-, rfl⟩ | ⟨-, rfl⟩ | ⟨-, rfl⟩) | ⟨special, member, -, rfl⟩
    · exact .null
    · exact .bool true
    · exact .bool false
    · exact .float special (floats.repr_nonfinite special member)
  · simp only [Option.bind_eq_bind, Option.bind_eq_some_iff, Option.pure_def, Option.some.injEq,
      Prod.mk.injEq, Prod.exists] at number
    obtain ⟨whole, fraction, _, scanned, _, built, rfl, -⟩ := number
    simp only [scanNumber, Option.map_eq_some_iff, Prod.mk.injEq, Prod.exists] at scanned
    obtain ⟨_, after, first, ⟨rfl, -⟩, -⟩ := scanned
    unfold numberOf at built
    split at built
    · split at built
      · next short =>
        obtain rfl := Option.some.inj built
        exact .int _ (short_integerOf first short)
      · cases built
    · obtain rfl := Option.some.inj built
      exact .float _ (floats.repr_repr _)

theorem forall_of_readElements {α : Type} {element : List Char → Option (α × List Char)}
    {property : α → Prop}
    (each : ∀ characters item rest, element characters = some (item, rest) → property item)
    {close : Char} {fuel : Nat} {characters rest : List Char} {items : List α}
    (read : readElements element close fuel characters = some (items, rest)) :
    ∀ item ∈ items, property item := by
  induction fuel generalizing characters items rest with
  | zero => cases read
  | succ fuel induction =>
      simp only [readElements, Option.bind_eq_bind, Option.bind_eq_some_iff, Prod.exists] at read
      obtain ⟨item, after, first, later⟩ := read
      split at later
      · cases later
      · split at later
        · simp only [Option.some.injEq, Prod.mk.injEq] at later
          obtain ⟨rfl, -⟩ := later
          exact List.forall_mem_singleton.mpr (each _ _ _ first)
        · split at later
          · simp only [Option.bind_eq_some_iff, Option.pure_def, Option.some.injEq, Prod.mk.injEq,
              Prod.exists] at later
            obtain ⟨others, _, read, rfl, -⟩ := later
            exact List.forall_mem_cons.mpr ⟨each _ _ _ first, induction read⟩
          · cases later

theorem forall_of_readSequence {α : Type} {element : List Char → Option (α × List Char)}
    {property : α → Prop}
    (each : ∀ characters item rest, element characters = some (item, rest) → property item)
    {close : Char} {characters rest : List Char} {items : List α}
    (read : readSequence element close characters = some (items, rest)) :
    ∀ item ∈ items, property item := by
  unfold readSequence at read
  split at read
  · simp only [Option.some.injEq, Prod.mk.injEq] at read
    rw [← read.1]
    exact List.forall_mem_nil _
  · exact forall_of_readElements each read

theorem of_readMember {value : List Char → Option (Json × List Char)} {property : Json → Prop}
    (each : ∀ characters found rest, value characters = some (found, rest) → property found)
    (characters : List Char) (field : String × Json) (rest : List Char)
    (read : readMember value characters = some (field, rest)) : property field.2 := by
  unfold readMember at read
  split at read
  · simp only [Option.bind_eq_bind, Option.bind_eq_some_iff, Prod.exists] at read
    obtain ⟨key, after, -, read⟩ := read
    split at read
    · simp only [Option.bind_eq_some_iff, Option.pure_def, Option.some.injEq, Prod.mk.injEq,
        Prod.exists] at read
      obtain ⟨found, _, read, rfl, -⟩ := read
      exact each _ _ _ read
    · cases read
  · cases read

theorem ofPairs_spec (pairs : List (String × Json)) :
    ((ofPairs pairs).map Prod.fst).Nodup ∧ ∀ field ∈ ofPairs pairs, field ∈ pairs := by
  have assigned (done : List (String × Json)) (distinct : (done.map Prod.fst).Nodup) :
      ((pairs.foldl setItem done).map Prod.fst).Nodup ∧
        ∀ field ∈ pairs.foldl setItem done, field ∈ done ∨ field ∈ pairs := by
    induction pairs generalizing done with
    | nil => exact ⟨distinct, fun field member => .inl member⟩
    | cons pair pairs induction =>
        have keys : ((setItem done pair).map Prod.fst).Nodup := by
          unfold setItem
          split
          · have same : (done.map fun field => if field.1 = pair.1 then pair else field).map
                Prod.fst = done.map Prod.fst := by
              rw [List.map_map, List.map_inj_left]
              intro field _
              by_cases key : field.1 = pair.1 <;> simp [key]
            rw [same]
            exact distinct
          · next fresh =>
            rw [List.map_append, List.map_singleton, List.nodup_append]
            refine ⟨distinct, List.nodup_singleton _, ?_⟩
            intro key old other new same
            exact fresh (List.mem_singleton.mp new ▸ same ▸ old)
        have members : ∀ field ∈ setItem done pair, field ∈ done ∨ field = pair := by
          unfold setItem
          split
          · intro field member
            obtain ⟨old, stored, rfl⟩ := List.mem_map.mp member
            by_cases key : old.1 = pair.1 <;> simp [key, stored]
          · intro field member
            simpa using member
        obtain ⟨finalKeys, finalMembers⟩ := induction (setItem done pair) keys
        refine ⟨finalKeys, fun field member => ?_⟩
        rcases finalMembers field member with early | late
        · rcases members field early with old | rfl
          · exact .inl old
          · exact .inr List.mem_cons_self
        · exact .inr (List.mem_cons_of_mem _ late)
  obtain ⟨keys, members⟩ := assigned [] List.nodup_nil
  exact ⟨keys, fun field member => (members field member).resolve_left List.not_mem_nil⟩

theorem wellFormed_of_readValue {floats : FloatRepr} {depth : Nat} (characters : List Char)
    (value : Json) (rest : List Char)
    (read : readValue floats depth characters = some (value, rest)) : value.WellFormed floats := by
  induction depth generalizing characters value rest with
  | zero => cases read
  | succ depth induction =>
      unfold readValue at read
      split at read
      · cases read
      · rw [Option.map_eq_some_iff] at read
        obtain ⟨_, -, same⟩ := read
        rw [← (Prod.mk.inj same).1]
        exact .str _
      · next inner tail sameDepth =>
        obtain rfl := Nat.succ.inj sameDepth
        rw [Option.map_eq_some_iff] at read
        obtain ⟨⟨items, after⟩, elements, same⟩ := read
        rw [← (Prod.mk.inj same).1]
        exact .arr items (forall_of_readSequence induction elements)
      · next inner tail sameDepth =>
        obtain rfl := Nat.succ.inj sameDepth
        rw [Option.map_eq_some_iff] at read
        obtain ⟨⟨pairs, after⟩, elements, same⟩ := read
        rw [← (Prod.mk.inj same).1]
        obtain ⟨distinct, members⟩ := ofPairs_spec pairs
        have each := forall_of_readSequence (of_readMember induction) elements
        exact .obj _ distinct fun field member => each field (members field member)
      · exact wellFormed_of_readScalar read

/-- What `json.loads` yields is well formed. -/
theorem wellFormed_of_loads {floats : FloatRepr} {text : String} {value : Json}
    (read : loads floats text = some value) : value.WellFormed floats := by
  simp only [loads, Option.bind_eq_bind, Option.bind_eq_some_iff, Prod.exists] at read
  obtain ⟨found, rest, read, whole⟩ := read
  split at whole
  · obtain rfl := Option.some.inj whole
    exact wellFormed_of_readValue _ _ _ read
  · cases whole

theorem wellFormed_object {floats : FloatRepr} {fields : List (String × Json)}
    (distinct : (fields.map Prod.fst).Nodup) (each : ∀ field ∈ fields, field.2.WellFormed floats) :
    (object fields).WellFormed floats := by
  apply WellFormed.obj
  · exact ((fields.perm_insertionSort keyLe).map Prod.fst).nodup_iff.mpr distinct
  · intro field member
    exact each field ((List.mem_insertionSort keyLe).mp member)

theorem Json.WellFormed.normal {floats : FloatRepr} {value : Json}
    (wellFormed : value.WellFormed floats) :
    value.normal.WellFormed floats ∧ value.normal.normal = value.normal := by
  have read := loads_canonicalJson wellFormed
  have normal := wellFormed_of_loads read
  have again := loads_canonicalJson normal
  rw [canonicalJson_normal, read] at again
  exact ⟨normal, (Option.some.inj again).symm⟩

theorem lookup_normalFields (fields : List (String × Json)) (key : String) :
    (normalFields fields).lookup key = (fields.lookup key).map Json.normal := by
  induction fields with
  | nil => rfl
  | cons field fields induction =>
      rw [normalFields, List.lookup_cons, List.lookup_cons, induction]
      cases key == field.1 <;> rfl

theorem keys_normalFields (fields : List (String × Json)) :
    (normalFields fields).map Prod.fst = fields.map Prod.fst := by
  rw [normalFields_eq_map, List.map_map]
  rfl

theorem lookup_normal_object {fields : List (String × Json)}
    (distinct : (fields.map Prod.fst).Nodup) (key : String) :
    (object fields).normal.get? key = (fields.lookup key).map Json.normal := by
  have keys : (normalFields (fields.insertionSort keyLe)).map Prod.fst =
      (fields.insertionSort keyLe).map Prod.fst := keys_normalFields _
  have sorted : ((fields.insertionSort keyLe).map Prod.fst).Nodup :=
    ((fields.perm_insertionSort keyLe).map Prod.fst).nodup_iff.mpr distinct
  rw [object, Json.normal, get?_object _ _ (keys ▸ sorted), lookup_normalFields,
    lookup_insertionSort _ _ distinct]

/-- Fields under distinct keys are determined by what they answer for each key. -/
theorem eq_of_lookup {left right : List (String × Json)}
    (keys : left.map Prod.fst = right.map Prod.fst) (distinct : (left.map Prod.fst).Nodup)
    (same : ∀ key, left.lookup key = right.lookup key) : left = right := by
  induction left generalizing right with
  | nil => exact (List.map_eq_nil_iff.mp keys.symm).symm
  | cons field left induction =>
      cases right with
      | nil => simp at keys
      | cons other right =>
          obtain ⟨key, value⟩ := field
          obtain ⟨otherKey, otherValue⟩ := other
          rw [List.map_cons, List.map_cons, List.cons.injEq] at keys
          rw [List.map_cons, List.nodup_cons] at distinct
          obtain ⟨rfl, keys⟩ : key = otherKey ∧ _ := keys
          have values := same key
          rw [List.lookup_cons_self, List.lookup_cons_self, Option.some.injEq] at values
          have absent {fields : List (String × Json)} (fresh : key ∉ fields.map Prod.fst) :
              fields.lookup key = none := by
            rw [List.lookup_eq_none_iff]
            intro entry member
            rw [bne_iff_ne]
            rintro rfl
            exact fresh (List.mem_map_of_mem member)
          rw [values, induction keys distinct.2]
          intro wanted
          by_cases first : wanted = key
          · rw [first, absent distinct.1, absent (keys ▸ distinct.1)]
          · have answers := same wanted
            rw [List.lookup_cons, List.lookup_cons, beq_eq_false_iff_ne.mpr first] at answers
            exact answers

/-- Objects with the same keys have the same fields, in normal form, when their canonical texts are
the same. -/
theorem fields_of_canonicalJson {floats : FloatRepr} {left right : List (String × Json)}
    (keys : left.map Prod.fst = right.map Prod.fst) (distinct : (left.map Prod.fst).Nodup)
    (leftEach : ∀ field ∈ left, field.2.WellFormed floats)
    (rightEach : ∀ field ∈ right, field.2.WellFormed floats)
    (same : canonicalJson (.object left) = canonicalJson (.object right)) :
    normalFields left = normalFields right := by
  have normals := normal_eq_of_canonicalJson (wellFormed_object distinct leftEach)
    (wellFormed_object (keys ▸ distinct) rightEach) same
  apply eq_of_lookup
  · rw [keys_normalFields, keys_normalFields, keys]
  · rw [keys_normalFields]
    exact distinct
  · intro key
    rw [lookup_normalFields, lookup_normalFields, ← lookup_normal_object distinct,
      ← lookup_normal_object (keys ▸ distinct), normals]

/-- The canonical texts of objects differ when one has a key that the other lacks. -/
theorem canonicalJson_ne_of_key {floats : FloatRepr} {left right : List (String × Json)}
    {key : String} (leftDistinct : (left.map Prod.fst).Nodup)
    (rightDistinct : (right.map Prod.fst).Nodup)
    (leftEach : ∀ field ∈ left, field.2.WellFormed floats)
    (rightEach : ∀ field ∈ right, field.2.WellFormed floats)
    (named : key ∈ left.map Prod.fst) (missing : key ∉ right.map Prod.fst) :
    canonicalJson (.object left) ≠ canonicalJson (.object right) := by
  intro same
  have normals := normal_eq_of_canonicalJson (wellFormed_object leftDistinct leftEach)
    (wellFormed_object rightDistinct rightEach) same
  have answers := congrArg (Json.get? key) normals
  have unanswered : right.lookup key = none := by
    rw [List.lookup_eq_none_iff]
    intro field member
    exact bne_iff_ne.mpr fun is => missing (is ▸ List.mem_map_of_mem member)
  rw [lookup_normal_object leftDistinct, lookup_normal_object rightDistinct, unanswered,
    Option.map_none, Option.map_eq_none_iff, List.lookup_eq_none_iff] at answers
  obtain ⟨field, member, is⟩ := List.mem_map.mp named
  exact bne_iff_ne.mp (answers field member) is.symm

end VoodooOne
