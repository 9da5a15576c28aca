import Mathlib.Data.List.Induction
import VoodooOne.Foundation.Json

/-!
# JSON decoder

`loads` reads a text as `json.loads` does: white space between tokens, escapes with surrogate pairs,
integers of limited length, floating-point numbers with their special values, and objects whose last
binding of a key counts.  A text that cannot be read has no value.
-/

namespace VoodooOne

def scanDigits (characters : List Char) : List Char × List Char :=
  (characters.takeWhile Char.isDigit, characters.dropWhile Char.isDigit)

/-- `0|[1-9][0-9]*`. -/
def scanNatural : List Char → Option (List Char × List Char)
  | '0' :: rest => some (['0'], rest)
  | characters =>
      if (scanDigits characters).1 = [] then none else some (scanDigits characters)

/-- `-?(?:0|[1-9][0-9]*)`. -/
def scanWhole : List Char → Option (List Char × List Char)
  | '-' :: rest => (scanNatural rest).map fun found => ('-' :: found.1, found.2)
  | characters => scanNatural characters

/-- `(\.[0-9]+)?`. -/
def scanFraction : List Char → List Char × List Char
  | '.' :: rest =>
      if (scanDigits rest).1 = [] then ([], '.' :: rest)
      else ('.' :: (scanDigits rest).1, (scanDigits rest).2)
  | characters => ([], characters)

/-- `[-+]?`. -/
def scanSign : List Char → List Char × List Char
  | '+' :: rest => (['+'], rest)
  | '-' :: rest => (['-'], rest)
  | characters => ([], characters)

/-- `([eE][-+]?[0-9]+)?`. -/
def scanExponent : List Char → List Char × List Char
  | mark :: rest =>
      if (mark = 'e' ∨ mark = 'E') ∧ (scanDigits (scanSign rest).2).1 ≠ [] then
        (mark :: (scanSign rest).1 ++ (scanDigits (scanSign rest).2).1,
          (scanDigits (scanSign rest).2).2)
      else ([], mark :: rest)
  | [] => ([], [])

/-- The characters of a number: its whole part, and what makes it a floating-point number. -/
def scanNumber (characters : List Char) : Option ((List Char × List Char) × List Char) :=
  (scanWhole characters).map fun (whole, rest) =>
    ((whole, (scanFraction rest).1 ++ (scanExponent (scanFraction rest).2).1),
      (scanExponent (scanFraction rest).2).2)

/-- The texts of the numbers that have no digits. -/
def nonfinite : List String := ["NaN", "Infinity", "-Infinity"]

/-- A floating-point number is spelled by one of the special texts, or by one that the scanner takes
whole and that has a fraction or an exponent. -/
def FloatLiteral (text : String) : Prop :=
  text ∈ nonfinite ∨ ∃ whole fraction, fraction ≠ [] ∧
    scanNumber text.toList = some ((whole, fraction), [])

/-- `float.__repr__` after `float`: the shortest text of the number that a text spells. -/
structure FloatRepr where
  repr : String → String
  literal (text : String) : FloatLiteral (repr text)
  repr_repr (text : String) : repr (repr text) = repr text
  repr_nonfinite : ∀ text ∈ nonfinite, repr text = text

instance : Inhabited FloatRepr where
  default :=
    { repr := fun text => if text ∈ nonfinite then text else "NaN"
      literal := fun text => by
        split
        · next special => exact .inl special
        · exact .inl (by simp [nonfinite])
      repr_repr := fun text => by
        split
        · rfl
        · rw [if_pos (by simp [nonfinite])]
      repr_nonfinite := fun text special => if_pos special }

/-- `sys.get_int_max_str_digits`. -/
def maxDigits : Nat := 4300

def integerOf : List Char → Int
  | '-' :: digits => -(Nat.ofDigitChars 10 digits 0 : Int)
  | digits => Nat.ofDigitChars 10 digits 0

def numberOf (floats : FloatRepr) (whole fraction : List Char) : Option Json :=
  if fraction = [] then
    if (whole.filter Char.isDigit).length ≤ maxDigits then some (.int (integerOf whole)) else none
  else some (.float (floats.repr (String.ofList (whole ++ fraction))))

/-- The words that stand for a value. -/
def constants : List (String × Json) :=
  [("null", .null), ("true", .bool true), ("false", .bool false)] ++
    nonfinite.map fun word => (word, .float word)

def readWord (characters : List Char) : List (String × Json) → Option (Json × List Char)
  | [] => none
  | (word, value) :: words =>
      match characters.dropPrefix? word.toList with
      | some rest => some (value, rest)
      | none => readWord characters words

def readScalar (floats : FloatRepr) (characters : List Char) : Option (Json × List Char) :=
  (readWord characters constants).or do
    let ((whole, fraction), rest) ← scanNumber characters
    let number ← numberOf floats whole fraction
    return (number, rest)

def hexDigitValue (character : Char) : Option Nat :=
  if '0' ≤ character ∧ character ≤ '9' then some (character.toNat - 48)
  else if 'a' ≤ character ∧ character ≤ 'f' then some (character.toNat - 87)
  else if 'A' ≤ character ∧ character ≤ 'F' then some (character.toNat - 55)
  else none

/-- `[0-9A-Fa-f]{4}`. -/
def readUnit : List Char → Option (Nat × List Char)
  | a :: b :: c :: d :: rest => do
      let a ← hexDigitValue a
      let b ← hexDigitValue b
      let c ← hexDigitValue c
      let d ← hexDigitValue d
      return (((a * 16 + b) * 16 + c) * 16 + d, rest)
  | _ => none

/-- The second half of a surrogate pair. -/
def readLowSurrogate (high : Nat) : List Char → Option (Char × List Char)
  | '\\' :: 'u' :: rest => do
      let (low, rest) ← readUnit rest
      if 0xdc00 ≤ low ∧ low < 0xe000 then
        some (Char.ofNat (0x10000 + (high - 0xd800) * 0x400 + (low - 0xdc00)), rest)
      else none
  | _ => none

/-- The character of a `\u` escape.  Half a surrogate pair alone has none: no such text can be
encoded to be hashed. -/
def readUnicode (characters : List Char) : Option (Char × List Char) := do
  let (unit, rest) ← readUnit characters
  if 0xd800 ≤ unit ∧ unit < 0xdc00 then readLowSurrogate unit rest
  else if 0xdc00 ≤ unit ∧ unit < 0xe000 then none
  else some (Char.ofNat unit, rest)

/-- The characters that stand for others after a backslash. -/
def escapes : List (Char × Char) :=
  [('"', '"'), ('\\', '\\'), ('/', '/'), ('b', Char.ofNat 8), ('f', Char.ofNat 12), ('n', '\n'),
    ('r', '\r'), ('t', '\t')]

/-- Read one character inside a string; control characters must be escaped. -/
def decodeCharacter : List Char → Option (Char × List Char)
  | '\\' :: 'u' :: rest => readUnicode rest
  | '\\' :: character :: rest => (escapes.lookup character).map fun meant => (meant, rest)
  | character :: rest => if character.toNat < 32 then none else some (character, rest)
  | [] => none

/-- `scanstring`: read up to the closing quote. -/
def readCharacters : Nat → List Char → Option (List Char × List Char)
  | 0, _ => none
  | _ + 1, '"' :: rest => some ([], rest)
  | fuel + 1, characters => do
      let (character, rest) ← decodeCharacter characters
      let (text, rest) ← readCharacters fuel rest
      return (character :: text, rest)

/-- Read a string whose opening quote is read.  Every step takes a character. -/
def readString (characters : List Char) : Option (String × List Char) :=
  (readCharacters characters.length characters).map fun found => (String.ofList found.1, found.2)

/-- `[ \t\n\r]`. -/
def isBlank (character : Char) : Bool := [' ', '\t', '\n', '\r'].contains character

/-- The characters after white space. -/
def skipBlank (characters : List Char) : List Char := characters.dropWhile isBlank

/-- Read elements separated by commas, up to a closing character.  Every element takes a character,
so as many rounds as there are characters are enough. -/
def readElements {α : Type} (element : List Char → Option (α × List Char)) (close : Char) :
    Nat → List Char → Option (List α × List Char)
  | 0, _ => none
  | fuel + 1, characters => do
      let (item, rest) ← element (skipBlank characters)
      match skipBlank rest with
      | [] => none
      | next :: rest =>
          if next = close then some ([item], rest)
          else if next = ',' then do
            let (items, rest) ← readElements element close fuel rest
            return (item :: items, rest)
          else none

/-- Read a possibly empty sequence whose opening character is read. -/
def readSequence {α : Type} (element : List Char → Option (α × List Char)) (close : Char)
    (characters : List Char) : Option (List α × List Char) :=
  if (skipBlank characters).head? = some close then some ([], (skipBlank characters).tail)
  else readElements element close characters.length characters

def readMember (value : List Char → Option (Json × List Char)) :
    List Char → Option ((String × Json) × List Char)
  | '"' :: rest => do
      let (key, rest) ← readString rest
      match skipBlank rest with
      | ':' :: rest => do
          let (found, rest) ← value (skipBlank rest)
          return ((key, found), rest)
      | _ => none
  | _ => none

/-- Assignment of a key of a dictionary. -/
def setItem (fields : List (String × Json)) (item : String × Json) : List (String × Json) :=
  if item.1 ∈ fields.map Prod.fst then
    fields.map fun field => if field.1 = item.1 then item else field
  else fields ++ [item]

def ofPairs (pairs : List (String × Json)) : List (String × Json) := pairs.foldl setItem []

/-- Read a value; the first argument bounds how deep it is nested. -/
def readValue (floats : FloatRepr) : Nat → List Char → Option (Json × List Char)
  | 0, _ => none
  | _ + 1, '"' :: rest => (readString rest).map fun found => (.str found.1, found.2)
  | depth + 1, '[' :: rest =>
      (readSequence (readValue floats depth) ']' rest).map fun found => (.arr found.1, found.2)
  | depth + 1, '\x7b' :: rest =>
      (readSequence (readMember (readValue floats depth)) '\x7d' rest).map fun found =>
        (.obj (ofPairs found.1), found.2)
  | _ + 1, characters => readScalar floats characters

/-- `json.loads`: one value and nothing else; a byte order mark is refused. -/
def loads (floats : FloatRepr) (text : String) : Option Json := do
  let (value, rest) ← readValue floats (text.length + 1) (skipBlank text.toList)
  if skipBlank rest = [] then some value else none

/-- What `json.dumps` can write and the decoder can yield: integers of limited length, numbers with
their shortest text, and keys that are all different. -/
inductive Json.WellFormed (floats : FloatRepr) : Json → Prop where
  | null : WellFormed floats .null
  | bool (value : Bool) : WellFormed floats (.bool value)
  | int (value : Int) (short : (Nat.toDigits 10 value.natAbs).length ≤ maxDigits) :
      WellFormed floats (.int value)
  | float (text : String) (shortest : floats.repr text = text) : WellFormed floats (.float text)
  | str (text : String) : WellFormed floats (.str text)
  | arr (items : List Json) (each : ∀ item ∈ items, WellFormed floats item) :
      WellFormed floats (.arr items)
  | obj (fields : List (String × Json)) (distinct : (fields.map Prod.fst).Nodup)
      (each : ∀ field ∈ fields, WellFormed floats field.2) : WellFormed floats (.obj fields)

end VoodooOne
