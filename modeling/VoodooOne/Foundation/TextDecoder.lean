import VoodooOne.Foundation.Texts

/-!
# Decoder of Python strings

`json.loads` of an interpreter whose stack has room for a given depth.  A string may hold half of a
surrogate pair on its own, and a text that cannot be read fails in one of three ways.
-/

namespace VoodooOne

/-- How the reading of a text fails. -/
inductive DecodeFailure where
  /-- `JSONDecodeError`: the text is no JSON. -/
  | malformed
  /-- `ValueError`: an integer has too many digits. -/
  | digits
  /-- `RecursionError`: the stack has no room for another level. -/
  | nesting
deriving DecidableEq, Repr

namespace TextDecoder

/-- A reader takes a value from the front of some characters. -/
abbrev Reader (α : Type) := List Char → Except DecodeFailure (α × List Char)

/-- What was found, if the text is JSON there. -/
def orMalformed {α : Type} : Option α → Except DecodeFailure α
  | some value => .ok value
  | none => .error .malformed

/-- The character of a code, or the half of a surrogate pair. -/
def unitOf (code : Nat) : TextUnit :=
  if 0xd800 ≤ code ∧ code < 0xe000 then
    .surrogate ⟨(code - 0xd800) % 2048, Nat.mod_lt _ (Nat.zero_lt_succ _)⟩
  else .char (Char.ofNat code)

/-- A surrogate pair is one character; half a pair is kept as it is. -/
def readPair (high : Nat) (characters : List Char) : Option (TextUnit × List Char) :=
  match characters with
  | '\\' :: 'u' :: following => do
      let (low, rest) ← readUnit following
      if 0xdc00 ≤ low ∧ low < 0xe000 then
        some (.char (Char.ofNat (0x10000 + (high - 0xd800) * 0x400 + (low - 0xdc00))), rest)
      else some (unitOf high, characters)
  | _ => some (unitOf high, characters)

/-- The character of a `\u` escape. -/
def readEscape (characters : List Char) : Option (TextUnit × List Char) := do
  let (code, rest) ← readUnit characters
  if 0xd800 ≤ code ∧ code < 0xdc00 then readPair code rest else some (unitOf code, rest)

/-- Read one character inside a string; control characters must be escaped. -/
def decodeUnit : List Char → Option (TextUnit × List Char)
  | '\\' :: 'u' :: rest => readEscape rest
  | '\\' :: character :: rest => (escapes.lookup character).map fun meant => (.char meant, rest)
  | character :: rest => if character.toNat < 32 then none else some (.char character, rest)
  | [] => none

/-- `scanstring`: read up to the closing quote. -/
def readUnits : Nat → List Char → Option (Text × List Char)
  | 0, _ => none
  | _ + 1, '"' :: rest => some ([], rest)
  | fuel + 1, characters => do
      let (unit, rest) ← decodeUnit characters
      let (text, rest) ← readUnits fuel rest
      return (unit :: text, rest)

/-- Read a string whose opening quote is read.  Every step takes a character. -/
def readText : Reader Text := fun characters =>
  orMalformed (readUnits characters.length characters)

def textConstants : List (String × TextValue) :=
  [("null", .null), ("true", .bool true), ("false", .bool false)] ++
    nonfinite.map fun word => (word, .float word)

def readConstant (characters : List Char) : Option (TextValue × List Char) :=
  textConstants.findSome? fun constant =>
    (characters.dropPrefix? constant.1.toList).map fun rest => (constant.2, rest)

/-- The value of a scanned number; a floating-point number keeps its text. -/
def numberValue (whole fraction : List Char) : Except DecodeFailure TextValue :=
  if fraction ≠ [] then .ok (.float (String.ofList (whole ++ fraction)))
  else if (whole.filter Char.isDigit).length ≤ maxDigits then .ok (.int (integerOf whole))
  else .error .digits

def readNumber : Reader TextValue := fun characters => do
  let ((whole, fraction), rest) ← orMalformed (scanNumber characters)
  let number ← numberValue whole fraction
  return (number, rest)

/-- Read elements separated by commas, up to a closing character.  Every element takes a character,
so as many rounds as there are characters are enough. -/
def readItems {α : Type} (element : Reader α) (close : Char) : Nat → Reader (List α)
  | 0, _ => .error .malformed
  | fuel + 1, characters => do
      let (item, rest) ← element (skipBlank characters)
      match skipBlank rest with
      | [] => .error .malformed
      | next :: rest =>
          if next = close then .ok ([item], rest)
          else if next = ',' then do
            let (items, rest) ← readItems element close fuel rest
            return (item :: items, rest)
          else .error .malformed

/-- Read a possibly empty sequence whose opening character is read. -/
def readAll {α : Type} (element : Reader α) (close : Char) : Reader (List α) := fun characters =>
  if (skipBlank characters).head? = some close then .ok ([], (skipBlank characters).tail)
  else readItems element close characters.length characters

def readField (value : Reader TextValue) : Reader (Text × TextValue)
  | '"' :: rest => do
      let (key, rest) ← readText rest
      match skipBlank rest with
      | ':' :: rest => do
          let (found, rest) ← value (skipBlank rest)
          return ((key, found), rest)
      | _ => .error .malformed
  | _ => .error .malformed

/-- Assignment of a key of a dictionary. -/
def assignField (fields : List (Text × TextValue)) (item : Text × TextValue) :
    List (Text × TextValue) :=
  if item.1 ∈ fields.map Prod.fst then
    fields.map fun field => if field.1 = item.1 then item else field
  else fields ++ [item]

/-- Read a string, a constant or a number; an array or an object finds no room on the stack. -/
def readFlat : Reader TextValue
  | '"' :: rest => (readText rest).map fun found => (.str found.1, found.2)
  | '[' :: _ => .error .nesting
  | '\x7b' :: _ => .error .nesting
  | characters =>
      match readConstant characters with
      | some found => .ok found
      | none => readNumber characters

/-- Read a value that is nested no deeper than the stack has room for. -/
def readNested : Nat → Reader TextValue
  | depth + 1, '[' :: rest =>
      (readAll (readNested depth) ']' rest).map fun found => (.arr found.1, found.2)
  | depth + 1, '\x7b' :: rest =>
      (readAll (readField (readNested depth)) '\x7d' rest).map fun found =>
        (.obj (found.1.foldl assignField []), found.2)
  | _, characters => readFlat characters

/-- `json.loads`: one value and nothing else; a byte order mark is refused. -/
def loadsText (depth : Nat) (text : String) : Except DecodeFailure TextValue := do
  let (value, rest) ← readNested depth (skipBlank text.toList)
  if skipBlank rest = [] then .ok value else .error .malformed

end TextDecoder

/-- `Mapping.get`, `null` where there is no such key. -/
def TextValue.get (fields : List (Text × TextValue)) (key : String) : TextValue :=
  (fields.lookup (.ofString key)).getD .null

def TextValue.text? : TextValue → Option Text
  | .str text => some text
  | _ => none

def TextValue.fields? : TextValue → Option (List (Text × TextValue))
  | .obj fields => some fields
  | _ => none

end VoodooOne
