import VoodooOne.Foundation.JsonRoundTrip
import VoodooOne.Foundation.TextDecoder
import VoodooOne.Library.Sorting

/-!
# Canonical text of Python values

`canonical_json` writes the strings of a value as they are, halves of surrogate pairs included, and
`json.loads` reads such a text.  What is written is read back with the keys of every dictionary in
order.
-/

namespace VoodooOne

/-- The characters before the first half of a surrogate pair, and the rest. -/
def Text.leading : Text → List Char × Text
  | .char character :: rest => (character :: (Text.leading rest).1, (Text.leading rest).2)
  | units => ([], units)

/-- Read from the characters that a string starts with. -/
def overChars {α : Type} (read : List Char → Option (α × List Char)) (units : Text) :
    Option (α × Text) :=
  (read (Text.leading units).1).map fun found =>
    (found.1, found.2.map .char ++ (Text.leading units).2)

namespace Text

theorem leading_append (characters : List Char) (rest : Text) :
    leading (characters.map .char ++ rest) =
      (characters ++ (leading rest).1, (leading rest).2) := by
  induction characters with
  | nil => rfl
  | cons character characters induction =>
      rw [List.map_cons, List.cons_append, leading, induction]
      rfl

theorem leading_text (units : Text) : (leading units).1.map .char ++ (leading units).2 = units := by
  induction units with
  | nil => rfl
  | cons unit units induction =>
      cases unit with
      | surrogate offset => rfl
      | char character =>
          rw [leading, List.map_cons, List.cons_append, induction]

end Text

theorem overChars_append {α : Type} {read : List Char → Option (α × List Char)}
    {characters : List Char} {rest : Text} {value : α}
    (reads : read (characters ++ (Text.leading rest).1) = some (value, (Text.leading rest).1)) :
    overChars read (characters.map .char ++ rest) = some (value, rest) := by
  rw [overChars, Text.leading_append, reads, Option.map_some, Text.leading_text]

namespace TextValue

/-- One character inside a string literal. -/
def escapeUnit : TextUnit → Text
  | .char character => (escapeCharacter character).map .char
  | .surrogate offset => [.surrogate offset]

def literal (text : Text) : Text := .char '"' :: (text.flatMap escapeUnit ++ [.char '"'])

def keyLe (left right : Text × TextValue) : Prop := Text.key left.1 ≤ Text.key right.1

instance : DecidableRel keyLe := fun left right =>
  inferInstanceAs (Decidable (Text.key left.1 ≤ Text.key right.1))

mutual

/-- The text of a value, keys in order, unless an integer in it is too long. -/
def render : TextValue → Text
  | .null => .ofString "null"
  | .bool true => .ofString "true"
  | .bool false => .ofString "false"
  | .int value => .ofString (toString value)
  | .float repr => .ofString repr
  | .str text => literal text
  | .arr items =>
      .char '[' :: (List.intercalate [.char ','] (renderItems items) ++ [.char ']'])
  | .obj fields =>
      .char '\x7b' :: (List.intercalate [.char ','] (((renderFields fields).insertionSort
        fun left right => Text.key left.1 ≤ Text.key right.1).map fun field =>
          literal field.1 ++ .char ':' :: field.2) ++ [.char '\x7d'])

def renderItems : List TextValue → List Text
  | [] => []
  | item :: items => render item :: renderItems items

def renderFields : List (Text × TextValue) → List (Text × Text)
  | [] => []
  | (key, value) :: fields => (key, render value) :: renderFields fields

end

mutual

/-- No integer has more digits than the interpreter writes. -/
def writable : TextValue → Bool
  | .int value => decide ((Nat.toDigits 10 value.natAbs).length ≤ maxDigits)
  | .arr items => writableItems items
  | .obj fields => writableFields fields
  | _ => true

def writableItems : List TextValue → Bool
  | [] => true
  | item :: items => writable item && writableItems items

def writableFields : List (Text × TextValue) → Bool
  | [] => true
  | (_, value) :: fields => writable value && writableFields fields

end

/-- `canonical_json`, which raises `ValueError` for an integer that is too long. -/
def canonicalJson? (value : TextValue) : Option Text :=
  if value.writable then some value.render else none

/-- `_require_json_value`, with the number of levels that are still allowed. -/
def requireJsonValue (field : String) : Nat → TextValue → Except Raised Unit
  | 0, _ => .error (valueError (field ++ " exceeds the nesting limit"))
  | remaining + 1, .arr items => forEach (requireJsonValue field remaining) items
  | remaining + 1, .obj fields =>
      forEach (fun entry => requireJsonValue field remaining entry.2) fields
  | _ + 1, .float _ => .error (valueError (field ++ " contains an unsupported JSON value"))
  | _ + 1, _ => .ok ()

/-- A dictionary has every key once. -/
inductive Keyed : TextValue → Prop where
  | null : Keyed .null
  | bool (value : Bool) : Keyed (.bool value)
  | int (value : Int) : Keyed (.int value)
  | float (repr : String) : Keyed (.float repr)
  | str (text : Text) : Keyed (.str text)
  | arr (items : List TextValue) (each : ∀ item ∈ items, Keyed item) : Keyed (.arr items)
  | obj (fields : List (Text × TextValue)) (distinct : (fields.map Prod.fst).Nodup)
      (each : ∀ field ∈ fields, Keyed field.2) : Keyed (.obj fields)

def isBlank : TextUnit → Bool
  | .char character => VoodooOne.isBlank character
  | .surrogate _ => false

/-- Read one character inside a string literal. -/
def readUnit : Text → Option (TextUnit × Text)
  | .surrogate offset :: rest => some (.surrogate offset, rest)
  | units => overChars TextDecoder.decodeUnit units

/-- `scanstring`: read up to the closing quote. -/
def readLiteral : Nat → Text → Option (Text × Text)
  | 0, _ => none
  | _ + 1, .char '"' :: rest => some ([], rest)
  | fuel + 1, units => do
      let (unit, rest) ← readUnit units
      let (text, rest) ← readLiteral fuel rest
      return (unit :: text, rest)

def readScalar (characters : List Char) : Option (TextValue × List Char) :=
  (TextDecoder.readConstant characters).or (TextDecoder.readNumber characters).toOption

def readField (value : Text → Option (TextValue × Text)) : Text → Option ((Text × TextValue) × Text)
  | .char '"' :: rest => do
      let (key, rest) ← readLiteral rest.length rest
      match rest.dropWhile isBlank with
      | .char ':' :: rest => do
          let (found, rest) ← value (rest.dropWhile isBlank)
          return ((key, found), rest)
      | _ => none
  | _ => none

/-- Read a value that is nested no deeper than the stack has room for. -/
def readNested : Nat → Text → Option (TextValue × Text)
  | _, .char '"' :: rest =>
      (readLiteral rest.length rest).map fun found => (.str found.1, found.2)
  | depth + 1, .char '[' :: rest =>
      (Separated.sequence isBlank (.char ',') (readNested depth) (.char ']') rest).map fun found =>
        (.arr found.1, found.2)
  | depth + 1, .char '\x7b' :: rest =>
      (Separated.sequence isBlank (.char ',') (readField (readNested depth)) (.char '\x7d')
        rest).map fun found => (.obj (found.1.foldl TextDecoder.assignField []), found.2)
  | _, units => overChars readScalar units

/-- `json.loads`: one value and nothing else.  A text that it refuses has no value. -/
def loads? (depth : Nat) (text : Text) : Option TextValue := do
  let (value, rest) ← readNested depth (text.dropWhile isBlank)
  if rest.dropWhile isBlank = [] then some value else none

mutual

/-- The value with the keys of every dictionary in order. -/
def normal : TextValue → TextValue
  | .arr items => .arr (normalItems items)
  | .obj fields => .obj ((normalFields fields).insertionSort keyLe)
  | value => value

def normalItems : List TextValue → List TextValue
  | [] => []
  | item :: items => item.normal :: normalItems items

def normalFields : List (Text × TextValue) → List (Text × TextValue)
  | [] => []
  | (key, value) :: fields => (key, value.normal) :: normalFields fields

end

theorem normalItems_eq_map (items : List TextValue) : normalItems items = items.map normal := by
  induction items with
  | nil => rfl
  | cons item items induction => rw [normalItems, induction, List.map_cons]

theorem normalFields_eq_map (fields : List (Text × TextValue)) :
    normalFields fields = fields.map fun field => (field.1, field.2.normal) := by
  induction fields with
  | nil => rfl
  | cons field fields induction => rw [normalFields, induction, List.map_cons]

theorem renderItems_eq_map (items : List TextValue) : renderItems items = items.map render := by
  induction items with
  | nil => rfl
  | cons item items induction => rw [renderItems, induction, List.map_cons]

theorem renderFields_eq_map (fields : List (Text × TextValue)) :
    renderFields fields = fields.map fun field => (field.1, render field.2) := by
  induction fields with
  | nil => rfl
  | cons field fields induction => rw [renderFields, induction, List.map_cons]

theorem writableItems_iff {items : List TextValue} :
    writableItems items = true ↔ ∀ item ∈ items, item.writable = true := by
  induction items with
  | nil => simp [writableItems]
  | cons item items induction =>
      rw [writableItems, Bool.and_eq_true, induction, List.forall_mem_cons]

theorem writableFields_iff {fields : List (Text × TextValue)} :
    writableFields fields = true ↔ ∀ field ∈ fields, field.2.writable = true := by
  induction fields with
  | nil => simp [writableFields]
  | cons field fields induction =>
      rw [writableFields, Bool.and_eq_true, induction, List.forall_mem_cons]

/-- What keeps the keys of fields may be done before or after they are sorted. -/
theorem sort_map {α : Type} (change : TextValue → α) (fields : List (Text × TextValue)) :
    (fields.map fun field => (field.1, change field.2)).insertionSort
        (fun left right => Text.key left.1 ≤ Text.key right.1) =
      (fields.insertionSort keyLe).map fun field => (field.1, change field.2) :=
  (List.map_insertionSort keyLe (fun left right : Text × α => Text.key left.1 ≤ Text.key right.1)
    (fun field => (field.1, change field.2)) fields fun _ _ _ _ => Iff.rfl).symm

theorem normal_obj (fields : List (Text × TextValue)) : normal (.obj fields) =
    .obj ((fields.insertionSort keyLe).map fun field => (field.1, field.2.normal)) := by
  rw [normal, normalFields_eq_map]
  exact congrArg obj (sort_map normal fields)

theorem render_obj (fields : List (Text × TextValue)) : render (.obj fields) =
    .char '\x7b' :: (List.intercalate [.char ','] ((fields.insertionSort keyLe).map fun field =>
      literal field.1 ++ .char ':' :: render field.2) ++ [.char '\x7d']) := by
  rw [render, renderFields_eq_map, sort_map, List.map_map]
  rfl

/-- A character that the decoder of encoded texts reads is one that every decoder reads. -/
theorem decodeUnit_of_decodeCharacter {characters rest : List Char} {character : Char}
    (read : decodeCharacter characters = some (character, rest)) :
    TextDecoder.decodeUnit characters = some (.char character, rest) := by
  unfold decodeCharacter at read
  split at read
  · next tail =>
    simp only [readUnicode, Option.bind_eq_bind, Option.bind_eq_some_iff, Prod.exists] at read
    obtain ⟨code, after, unit, read⟩ := read
    simp only [TextDecoder.decodeUnit, TextDecoder.readEscape, unit, Option.bind_eq_bind,
      Option.bind_some]
    split at read
    · next high =>
      rw [if_pos high]
      unfold readLowSurrogate at read
      split at read
      · next following =>
        simp only [Option.bind_eq_bind, Option.bind_eq_some_iff, Prod.exists] at read
        obtain ⟨low, last, second, read⟩ := read
        split at read
        · next isLow =>
          simp only [Option.some.injEq, Prod.mk.injEq] at read
          obtain ⟨rfl, rfl⟩ := read
          simp only [TextDecoder.readPair, second, Option.bind_eq_bind, Option.bind_some]
          rw [if_pos isLow]
        · cases read
      · cases read
    · next notHigh =>
      rw [if_neg notHigh]
      split at read
      · cases read
      · next notLow =>
        simp only [Option.some.injEq, Prod.mk.injEq] at read
        obtain ⟨rfl, rfl⟩ := read
        rw [TextDecoder.unitOf, if_neg (by omega)]
  · next escaped tail notUnicode =>
    rw [TextDecoder.decodeUnit]
    · simp only [Option.map_eq_some_iff, Prod.mk.injEq] at read ⊢
      obtain ⟨meant, found, rfl, rfl⟩ := read
      exact ⟨meant, found, rfl, rfl⟩
    · exact notUnicode
  · next first tail notUnicode notEscape =>
    split at read
    · cases read
    · next printable =>
      simp only [Option.some.injEq, Prod.mk.injEq] at read
      obtain ⟨rfl, rfl⟩ := read
      rw [TextDecoder.decodeUnit, if_neg printable]
      · exact notUnicode
      · exact notEscape
  · cases read

theorem escapeUnit_start (unit : TextUnit) :
    ∃ first tail, escapeUnit unit = first :: tail ∧ first ≠ .char '"' := by
  cases unit with
  | surrogate offset => exact ⟨_, _, rfl, by simp⟩
  | char character =>
      obtain ⟨first, tail, starts, notQuote⟩ := escapeCharacter_start character
      refine ⟨.char first, tail.map .char, by rw [escapeUnit, starts]; rfl, ?_⟩
      exact fun same => notQuote (TextUnit.char.inj same)

theorem readUnit_escapeUnit (unit : TextUnit) (rest : Text) :
    readUnit (escapeUnit unit ++ rest) = some (unit, rest) := by
  cases unit with
  | surrogate offset => rfl
  | char character =>
      have read : overChars TextDecoder.decodeUnit (escapeUnit (.char character) ++ rest) =
          some (.char character, rest) :=
        overChars_append (decodeUnit_of_decodeCharacter (decodeCharacter_escape character _))
      obtain ⟨first, tail, starts, -⟩ := escapeCharacter_start character
      rw [escapeUnit, starts, List.map_cons, List.cons_append] at read ⊢
      rw [readUnit]
      · exact read
      · intro _ _ same
        cases (List.cons.inj same).1

theorem readLiteral_escaped (text rest : Text) {fuel : Nat} (enough : text.length < fuel) :
    readLiteral fuel (text.flatMap escapeUnit ++ .char '"' :: rest) = some (text, rest) := by
  induction text generalizing fuel with
  | nil =>
      obtain ⟨fuel, rfl⟩ := Nat.exists_eq_succ_of_ne_zero (by omega : fuel ≠ 0)
      rfl
  | cons unit text induction =>
      obtain ⟨fuel, rfl⟩ := Nat.exists_eq_succ_of_ne_zero (by omega : fuel ≠ 0)
      rw [List.flatMap_cons, List.append_assoc]
      have read := readUnit_escapeUnit unit (text.flatMap escapeUnit ++ .char '"' :: rest)
      obtain ⟨first, tail, starts, notQuote⟩ := escapeUnit_start unit
      rw [starts, List.cons_append] at read ⊢
      rw [readLiteral, read]
      · simp [induction (Nat.lt_of_succ_lt_succ enough)]
      · intro _ same
        exact notQuote (List.cons.inj same).1

/-- A string literal is read back, whatever follows it. -/
theorem readLiteral_literal (text rest : Text) :
    readLiteral (text.flatMap escapeUnit ++ .char '"' :: rest).length
      (text.flatMap escapeUnit ++ .char '"' :: rest) = some (text, rest) := by
  apply readLiteral_escaped
  have longer : text.length ≤ (text.flatMap escapeUnit).length := by
    induction text with
    | nil => rfl
    | cons unit text induction =>
        obtain ⟨first, tail, starts, -⟩ := escapeUnit_start unit
        rw [List.flatMap_cons, starts]
        simp only [List.length_append, List.length_cons]
        omega
  simp only [List.length_append, List.length_cons]
  omega

/-- What may follow a value inside a text. -/
def Follows (rest : Text) : Prop :=
  ∀ unit ∈ rest.head?, unit ∈ ([',', ']', '\x7d'] : List Char).map .char

theorem Follows.closed {rest : Text} (follows : Follows rest) : Closed (Text.leading rest).1 := by
  cases rest with
  | nil => exact closed_nil
  | cons unit tail =>
      obtain ⟨character, closes, rfl⟩ := List.mem_map.mp (follows unit rfl)
      exact closed_cons _ closes

theorem int_start (value : Int) : ∃ first tail, (toString value).toList = first :: tail ∧
    ∀ other : Char, other.isDigit = false → other ≠ '-' → first ≠ other := by
  obtain ⟨digit, tail, isDigit, starts | starts⟩ := scanNumber_start (scanNumber_int value)
  · exact ⟨digit, tail, starts, fun other no _ => ne_of_isDigit isDigit no⟩
  · exact ⟨'-', digit :: tail, starts, fun other _ apart => apart.symm⟩

theorem readScalar_int {value : Int} {rest : List Char}
    (short : (Nat.toDigits 10 value.natAbs).length ≤ maxDigits) (closed : Closed rest) :
    readScalar ((toString value).toList ++ rest) = some (.int value, rest) := by
  have scanned := scanNumber_append closed (scanNumber_int value)
  have noConstant : TextDecoder.readConstant ((toString value).toList ++ rest) = none := by
    obtain ⟨digit, tail, isDigit, starts | starts⟩ := scanNumber_start scanned
    all_goals
      have nulls : digit ≠ 'n' := ne_of_isDigit isDigit rfl
      have trues : digit ≠ 't' := ne_of_isDigit isDigit rfl
      have falses : digit ≠ 'f' := ne_of_isDigit isDigit rfl
      have nans : digit ≠ 'N' := ne_of_isDigit isDigit rfl
      have infinities : digit ≠ 'I' := ne_of_isDigit isDigit rfl
      have signs : digit ≠ '-' := ne_of_isDigit isDigit rfl
      rw [starts]
      simp [TextDecoder.readConstant, TextDecoder.textConstants, nonfinite, List.dropPrefix?, *]
  have number : TextDecoder.numberValue (toString value).toList [] = .ok (.int value) := by
    rw [TextDecoder.numberValue, if_neg (by simp), filter_digits_int, if_pos short, integerOf_int]
  rw [readScalar, noConstant, TextDecoder.readNumber, scanned]
  simp only [TextDecoder.orMalformed, ok_bind, List.nil_append, number]
  rfl

theorem readScalar_constant {word : String} {value : TextValue} (rest : List Char)
    (constant : (word, value) ∈ ([("null", .null), ("true", .bool true), ("false", .bool false)] :
      List (String × TextValue))) : readScalar (word.toList ++ rest) = some (value, rest) := by
  simp only [List.mem_cons, List.not_mem_nil, or_false, Prod.mk.injEq] at constant
  rcases constant with ⟨rfl, rfl⟩ | ⟨rfl, rfl⟩ | ⟨rfl, rfl⟩ <;>
    simp [readScalar, TextDecoder.readConstant, TextDecoder.textConstants, List.dropPrefix?]

theorem readNested_scalar {characters : List Char} {rest : Text} {value : TextValue} {depth : Nat}
    (read : readScalar (characters ++ (Text.leading rest).1) =
      some (value, (Text.leading rest).1))
    (starts : ∃ first tail, characters = first :: tail ∧ first ≠ '"' ∧ first ≠ '[' ∧
      first ≠ '\x7b') :
    readNested depth (characters.map .char ++ rest) = some (value, rest) := by
  have lifted : overChars readScalar (characters.map .char ++ rest) = some (value, rest) :=
    overChars_append read
  obtain ⟨first, tail, rfl, notQuote, notBracket, notBrace⟩ := starts
  rw [List.map_cons, List.cons_append] at lifted ⊢
  rw [readNested]
  · exact lifted
  · intro _ same
    exact notQuote (TextUnit.char.inj (List.cons.inj same).1)
  · intro _ _ _ same
    exact notBracket (TextUnit.char.inj (List.cons.inj same).1)
  · intro _ _ _ same
    exact notBrace (TextUnit.char.inj (List.cons.inj same).1)

/-- The text of a value starts with nothing that a sequence skips or ends at. -/
theorem render_start {field : String} {levels : Nat} {value : TextValue}
    (accepted : requireJsonValue field levels value = .ok ()) :
    ∃ first tail, value.render = .char first :: tail ∧ VoodooOne.isBlank first = false ∧
      first ≠ ']' ∧ first ≠ '\x7d' := by
  have words (word : String) {first : Char} {tail : List Char}
      (spelled : word.toList = first :: tail) : Text.ofString word = .char first ::
        tail.map .char := by
    rw [Text.ofString, spelled, List.map_cons]
  cases value with
  | null => exact ⟨'n', _, words "null" rfl, by decide⟩
  | bool value =>
      cases value with
      | true => exact ⟨'t', _, words "true" rfl, by decide⟩
      | false => exact ⟨'f', _, words "false" rfl, by decide⟩
  | int value =>
      obtain ⟨first, tail, spelled, apart⟩ := int_start value
      refine ⟨first, _, words _ spelled, ?_, apart _ rfl (by decide), apart _ rfl (by decide)⟩
      have space := apart ' ' rfl (by decide)
      have tab := apart '\t' rfl (by decide)
      have line := apart '\n' rfl (by decide)
      have carriage := apart '\r' rfl (by decide)
      simp [VoodooOne.isBlank, *]
  | float repr =>
      cases levels <;> cases accepted
  | str text => exact ⟨'"', _, rfl, by decide⟩
  | arr items => exact ⟨'[', _, rfl, by decide⟩
  | obj fields => exact ⟨'\x7b', _, rfl, by decide⟩

theorem dropWhile_render {field : String} {levels : Nat} {value : TextValue}
    (accepted : requireJsonValue field levels value = .ok ()) (rest : Text) :
    (value.render ++ rest).dropWhile isBlank = value.render ++ rest := by
  obtain ⟨first, tail, start, notBlank, -⟩ := render_start accepted
  rw [start, List.cons_append, List.dropWhile_cons_of_neg (by simp [isBlank, notBlank])]

/-- Assigning distinct keys one after the other keeps them in their order. -/
theorem assignFields_eq_self {pairs : List (Text × TextValue)}
    (distinct : (pairs.map Prod.fst).Nodup) : pairs.foldl TextDecoder.assignField [] = pairs := by
  have assigned (done pairs : List (Text × TextValue))
      (distinct : ((done ++ pairs).map Prod.fst).Nodup) :
      pairs.foldl TextDecoder.assignField done = done ++ pairs := by
    induction pairs generalizing done with
    | nil => simp
    | cons pair pairs induction =>
        have fresh : pair.1 ∉ done.map Prod.fst := by
          rw [List.map_append, List.nodup_append, List.map_cons] at distinct
          intro old
          exact distinct.2.2 _ old _ List.mem_cons_self rfl
        rw [List.foldl_cons, TextDecoder.assignField, if_neg fresh,
          induction (done ++ [pair]) (by simpa using distinct)]
        simp
  exact assigned [] pairs distinct

theorem readField_rendered {value : Text → Option (TextValue × Text)} {field : Text × TextValue}
    {found : TextValue} {rest : Text}
    (start : (field.2.render ++ rest).dropWhile isBlank = field.2.render ++ rest)
    (reads : value (field.2.render ++ rest) = some (found, rest)) :
    readField value (literal field.1 ++ .char ':' :: field.2.render ++ rest) =
      some ((field.1, found), rest) := by
  have colon (rest : Text) :
      (TextUnit.char ':' :: rest).dropWhile isBlank = .char ':' :: rest := rfl
  simp only [literal, List.cons_append, List.append_assoc, List.nil_append]
  rw [readField, readLiteral_literal]
  simp [colon, start, reads]

theorem follows_of_ends {next close : TextUnit} (rest : Text)
    (ends : next = .char ',' ∨ next = close) (bracket : close = .char ']' ∨ close = .char '\x7d') :
      Follows (next :: rest) := by
  intro unit member
  obtain rfl : next = unit := by simpa using member
  rcases ends with rfl | rfl
  · simp
  · rcases bracket with rfl | rfl <;> simp

/-- A value is read back from its text with the keys of every dictionary in order. -/
theorem readNested_render {field : String} {levels depth : Nat} {value : TextValue}
    (accepted : requireJsonValue field levels value = .ok ()) (keyed : value.Keyed)
    (short : value.writable = true) (room : levels ≤ depth) {rest : Text} (follows : Follows rest) :
    readNested depth (value.render ++ rest) = some (value.normal, rest) := by
  induction levels generalizing value depth rest with
  | zero => cases accepted
  | succ levels induction =>
      obtain ⟨depth, rfl⟩ := Nat.exists_eq_succ_of_ne_zero (n := depth) (by omega)
      cases keyed with
      | null =>
          exact readNested_scalar (readScalar_constant _ (by simp [normal]))
            ⟨_, _, rfl, by decide⟩
      | bool value =>
          cases value with
          | true =>
              exact readNested_scalar (readScalar_constant _ (by simp [normal]))
                ⟨_, _, rfl, by decide⟩
          | false =>
              exact readNested_scalar (readScalar_constant _ (by simp [normal]))
                ⟨_, _, rfl, by decide⟩
      | int value =>
          obtain ⟨first, tail, spelled, apart⟩ := int_start value
          exact readNested_scalar (readScalar_int (of_decide_eq_true short) follows.closed)
            ⟨first, tail, spelled, apart _ rfl (by decide), apart _ rfl (by decide),
              apart _ rfl (by decide)⟩
      | float repr => cases accepted
      | str text =>
          rw [render, literal, List.cons_append, List.append_assoc, List.singleton_append,
            readNested, readLiteral_literal]
          rfl
      | arr items each =>
          rw [requireJsonValue, forEach_eq_ok] at accepted
          rw [writable, writableItems_iff] at short
          rw [render, renderItems_eq_map, List.cons_append, List.append_assoc,
            List.singleton_append, readNested, Separated.sequence_joined (by decide) rfl rfl ?_ ?_
              rest, normal,
            normalItems_eq_map]
          · rfl
          · intro item member
            obtain ⟨first, tail, start, notBlank, other, -⟩ := render_start (accepted item member)
            exact ⟨_, tail, start, notBlank, fun same => other (TextUnit.char.inj same)⟩
          · intro item member next rest ends
            exact induction (accepted item member) (each item member) (short item member) (by omega)
              (follows_of_ends rest ends (.inl rfl))
      | obj fields distinct each =>
          rw [requireJsonValue, forEach_eq_ok] at accepted
          rw [writable, writableFields_iff] at short
          have stored {field : Text × TextValue} (member : field ∈ fields.insertionSort keyLe) :
              field ∈ fields := (List.mem_insertionSort keyLe).mp member
          have keys : (((fields.insertionSort keyLe).map fun field =>
              (field.1, field.2.normal)).map Prod.fst).Nodup := by
            rw [List.map_map]
            exact ((fields.perm_insertionSort keyLe).map Prod.fst).nodup_iff.mpr distinct
          have starts : ∀ field ∈ fields.insertionSort keyLe, ∃ first tail,
              literal field.1 ++ .char ':' :: field.2.render = first :: tail ∧
                isBlank first = false ∧ first ≠ .char '\x7d' :=
            fun field _ => ⟨.char '"', _, rfl, rfl, by decide⟩
          have reads : ∀ field ∈ fields.insertionSort keyLe, ∀ next rest,
              next = .char ',' ∨ next = .char '\x7d' → readField (readNested depth)
                (literal field.1 ++ .char ':' :: field.2.render ++ next :: rest) =
                some ((field.1, field.2.normal), next :: rest) := by
            intro field member next rest ends
            have there := stored member
            exact readField_rendered (dropWhile_render (accepted field there) _)
              (induction (accepted field there) (each field there) (short field there) (by omega)
                (follows_of_ends rest ends (.inr rfl)))
          rw [render_obj, List.cons_append, List.append_assoc, List.singleton_append, readNested,
            Separated.sequence_joined (by decide) rfl rfl starts reads rest, Option.map_some,
            assignFields_eq_self keys, normal_obj]

/-- `json.loads` reads back what `canonical_json` writes. -/
theorem loads?_canonicalJson? {field : String} {levels depth : Nat} {value : TextValue}
    {text : Text} (accepted : requireJsonValue field levels value = .ok ()) (keyed : value.Keyed)
    (room : levels ≤ depth) (written : value.canonicalJson? = some text) :
    loads? depth text = some value.normal := by
  unfold canonicalJson? at written
  split at written
  · next short =>
    obtain rfl := Option.some.inj written
    have read := readNested_render accepted keyed short room (by simp [Follows] : Follows [])
    have start := dropWhile_render accepted []
    rw [List.append_nil] at read start
    rw [loads?, start, read]
    rfl
  · cases written

end TextValue

end VoodooOne
