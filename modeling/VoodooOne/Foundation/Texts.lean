import VoodooOne.Foundation.Checks
import VoodooOne.Foundation.JsonDecoder

/-!
# Python strings

A Python string may hold half of a surrogate pair on its own, which UTF-8 cannot encode.  Values
with such strings have no stored and no hashed form.
-/

namespace VoodooOne

/-- A character of a Python string: a character, or half a surrogate pair on its own. -/
inductive TextUnit where
  | char (character : Char)
  | surrogate (offset : Fin 2048)
deriving DecidableEq

instance : LawfulBEq TextUnit := inferInstance

abbrev Text := List TextUnit

instance : LawfulBEq Text := inferInstance

def Text.ofString (text : String) : Text := text.toList.map .char

namespace TextUnit

/-- `ord`. -/
def point : TextUnit → Nat
  | .char character => character.toNat
  | .surrogate offset => 0xd800 + offset

def char? : TextUnit → Option Char
  | .char character => some character
  | .surrogate _ => none

/-- `str.isspace` of one character. -/
def isSpace : TextUnit → Bool
  | .char character => VoodooOne.isSpace character
  | .surrogate _ => false

/-- The text that UTF-8 stores, if it stores the string. -/
def encode? (text : Text) : Option String := (text.mapM char?).map String.ofList

theorem point_injective : Function.Injective point := by
  intro left right same
  have halves (character : Char) (offset : Fin 2048) : character.toNat ≠ 0xd800 + offset := by
    rcases character.valid with below | above
    · exact fun equal => absurd (equal ▸ below : 0xd800 + offset.val < 0xd800) (by omega)
    · exact fun equal => absurd (equal ▸ above.1 : 0xdfff < 0xd800 + offset.val) (by omega)
  cases left with
  | char left =>
      cases right with
      | char right => rw [Char.toNat_inj.mp same]
      | surrogate offset => exact absurd same (halves left offset)
  | surrogate offset =>
      cases right with
      | char right => exact absurd same.symm (halves right offset)
      | surrogate other =>
          have equal : offset.val = other.val := Nat.add_left_cancel same
          rw [Fin.ext equal]

/-- No half of a surrogate pair is in the string. -/
def Plain (text : Text) : Prop := ∀ offset, .surrogate offset ∉ text

theorem plain_append {left right : Text} : Plain (left ++ right) ↔ Plain left ∧ Plain right := by
  simp only [Plain, List.mem_append, not_or, forall_and]

theorem plain_ofString (text : String) : Plain (.ofString text) := by
  intro offset member
  obtain ⟨character, -, same⟩ := List.mem_map.mp member
  cases same

theorem encode?_isSome {text : Text} : (encode? text).isSome ↔ Plain text := by
  rw [encode?, Option.isSome_map]
  induction text with
  | nil => simp [Plain]
  | cons unit text induction =>
      rw [List.mapM_cons]
      cases unit with
      | char character =>
          have same : Plain (.char character :: text) ↔ Plain text := by
            simp [Plain]
          rw [same, ← induction]
          cases text.mapM char? <;> simp [char?]
      | surrogate offset =>
          have refused : ¬Plain (.surrogate offset :: text) := fun plain =>
            plain offset List.mem_cons_self
          simp [char?, refused]

end TextUnit

namespace Text

def strip (text : Text) : Text :=
  ((text.dropWhile TextUnit.isSpace).reverse.dropWhile TextUnit.isSpace).reverse

def key (text : Text) : List Nat := text.map TextUnit.point

theorem ofString_append (left right : String) :
    ofString (left ++ right) = ofString left ++ ofString right := by
  rw [ofString, String.toList_append, List.map_append]
  rfl

theorem ofString_injective : Function.Injective ofString := by
  intro left right same
  have lists := (List.map_injective_iff.mpr fun _ _ => TextUnit.char.inj) same
  exact String.toList_inj.mp lists

theorem encode?_eq_some {text : Text} {stored : String} :
    TextUnit.encode? text = some stored ↔ text = ofString stored := by
  have units (text : Text) (characters : List Char) :
      text.mapM TextUnit.char? = some characters ↔ text = characters.map .char := by
    induction text generalizing characters with
    | nil => cases characters <;> simp
    | cons unit text induction =>
        rw [List.mapM_cons]
        cases unit with
        | char character =>
            simp only [TextUnit.char?, Option.pure_def, Option.bind_eq_bind, Option.bind_some,
              Option.bind_eq_some_iff, Option.some.injEq, induction]
            cases characters <;> simp [and_comm]
        | surrogate offset => cases characters <;> simp [TextUnit.char?]
  rw [TextUnit.encode?, Option.map_eq_some_iff, ofString]
  constructor
  · rintro ⟨characters, read, rfl⟩
    rw [String.toList_ofList]
    exact (units text characters).mp read
  · intro same
    exact ⟨stored.toList, (units text stored.toList).mpr same, String.ofList_toList⟩

theorem key_injective : Function.Injective key := TextUnit.point_injective.list_map

/-- `sorted` of strings. -/
def sorted (texts : List Text) : List Text := texts.insertionSort fun left right =>
    key left ≤ key right

end Text

/-- A JSON value with Python strings; `float` keeps the decimal text. -/
inductive TextValue where
  | null
  | bool (value : Bool)
  | int (value : Int)
  | float (repr : String)
  | str (text : Text)
  | arr (items : List TextValue)
  | obj (fields : List (Text × TextValue))

namespace TextValue

mutual

/-- The value whose canonical text can be encoded; the text of a very long integer is refused. -/
def encode? : TextValue → Option Json
  | .null => some .null
  | .bool value => some (.bool value)
  | .int value =>
      if (Nat.toDigits 10 value.natAbs).length ≤ maxDigits then some (.int value) else none
  | .float repr => some (.float repr)
  | .str text => (TextUnit.encode? text).map .str
  | .arr items => (encodeItems? items).map .arr
  | .obj fields => (encodeFields? fields).map .obj

def encodeItems? : List TextValue → Option (List Json)
  | [] => some []
  | item :: items => do return (← encode? item) :: (← encodeItems? items)

def encodeFields? : List (Text × TextValue) → Option (List (String × Json))
  | [] => some []
  | (key, value) :: fields => do
      return (← TextUnit.encode? key, ← encode? value) :: (← encodeFields? fields)

end

def Encodable (value : TextValue) : Prop := value.encode?.isSome

theorem encodable_str {text : Text} : (str text).Encodable ↔ TextUnit.Plain text := by
  rw [Encodable, encode?, Option.isSome_map, TextUnit.encode?_isSome]

theorem encodeItems?_isSome {items : List TextValue} :
    (encodeItems? items).isSome ↔ ∀ item ∈ items, item.Encodable := by
  induction items with
  | nil => simp [encodeItems?]
  | cons item items induction =>
      rw [List.forall_mem_cons, ← induction, encodeItems?, Encodable]
      cases encode? item <;> cases encodeItems? items <;> simp

theorem encodable_arr {items : List TextValue} :
    (arr items).Encodable ↔ ∀ item ∈ items, item.Encodable := by
  rw [Encodable, encode?, Option.isSome_map, encodeItems?_isSome]

theorem encodeFields?_isSome {fields : List (Text × TextValue)} : (encodeFields? fields).isSome ↔
      ∀ field ∈ fields, TextUnit.Plain field.1 ∧ field.2.Encodable := by
  induction fields with
  | nil => simp [encodeFields?]
  | cons field fields induction =>
      rw [List.forall_mem_cons, ← induction, ← TextUnit.encode?_isSome, encodeFields?, Encodable]
      cases TextUnit.encode? field.1 <;> cases encode? field.2 <;> cases encodeFields? fields <;>
        simp

theorem encodable_obj {fields : List (Text × TextValue)} :
    (obj fields).Encodable ↔ ∀ field ∈ fields, TextUnit.Plain field.1 ∧ field.2.Encodable := by
  rw [Encodable, encode?, Option.isSome_map, encodeFields?_isSome]

end TextValue

end VoodooOne
