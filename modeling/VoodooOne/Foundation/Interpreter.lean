import Mathlib.Data.List.Dedup
import VoodooOne.Foundation.Checks

/-!
# Texts of the interpreter

Conversions of texts and values that the registry code takes from the language.
-/

namespace VoodooOne

/-- What stays a parameter: the digest function, case folding, and `repr` of a list or an object. -/
structure Interpreter where
  sha256 : String → String
  casefold : String → String
  repr : Json → String

/-- `str` of a value. -/
def Interpreter.str (interpreter : Interpreter) : Json → String
  | .null => "None"
  | .bool true => "True"
  | .bool false => "False"
  | .int value => toString value
  | .float repr => repr
  | .str text => text
  | container => interpreter.repr container

/-- `str(value.get(key, ""))`. -/
def Interpreter.strField (interpreter : Interpreter) (value : Json) (key : String) : String :=
  interpreter.str ((value.get? key).getD (.str ""))

/-- The uppercase of a character.  Characters whose uppercase is not ASCII are kept, as no text
that uppercase texts are compared with has one. -/
def upperCharacter (character : Char) : List Char :=
  if 'a' ≤ character ∧ character ≤ 'z' then [Char.ofNat (character.toNat - 32)]
  else if character.toNat = 0xdf then ['S', 'S']
  else if character.toNat = 0x131 then ['I']
  else if character.toNat = 0x17f then ['S']
  else if character.toNat = 0xfb00 then ['F', 'F']
  else if character.toNat = 0xfb01 then ['F', 'I']
  else if character.toNat = 0xfb02 then ['F', 'L']
  else if character.toNat = 0xfb03 then ['F', 'F', 'I']
  else if character.toNat = 0xfb04 then ['F', 'F', 'L']
  else if character.toNat = 0xfb05 ∨ character.toNat = 0xfb06 then ['S', 'T']
  else [character]

def upper (text : String) : String := String.ofList (text.toList.flatMap upperCharacter)

/-- `isinstance(value, int)`: a truth value is an integer. -/
def Json.asInt : Json → Option Int
  | .int value => some value
  | .bool true => some 1
  | .bool false => some 0
  | _ => none

/-- The number that an integer value holds. -/
def Json.int? : Json → Option Int
  | .int value => some value
  | _ => none

def Json.bool? : Json → Option Bool
  | .bool value => some value
  | _ => none

def Json.texts? : Json → Option (List String)
  | .arr items => items.mapM Json.text?
  | _ => none

def Json.texts (values : List String) : Json := .arr (values.map .str)

@[simp] theorem Json.texts?_texts (values : List String) : (Json.texts values).texts? =
    some values := by
  induction values with
  | nil => rfl
  | cons value values induction =>
      simp only [texts, texts?] at induction ⊢
      simp [induction, text?]

/-- White space is stripped once and for all. -/
theorem strip_strip (text : String) : strip (strip text) = strip text := by
  have stripped (characters : List Char) : strip (String.ofList characters) =
      String.ofList ((characters.dropWhile isSpace).rdropWhile isSpace) := by
    simp [strip, List.rdropWhile]
  have once : strip text =
      String.ofList ((text.toList.dropWhile isSpace).rdropWhile isSpace) := rfl
  rw [once, stripped]
  have front : ((text.toList.dropWhile isSpace).rdropWhile isSpace).dropWhile isSpace =
      (text.toList.dropWhile isSpace).rdropWhile isSpace := by
    rw [List.dropWhile_eq_self_iff]
    intro nonempty
    have start : (text.toList.dropWhile isSpace).rdropWhile isSpace <+:
        text.toList.dropWhile isSpace := List.rdropWhile_prefix isSpace _
    have longer := nonempty.trans_le start.length_le
    rw [start.getElem nonempty]
    exact List.dropWhile_eq_self_iff.mp (List.dropWhile_idempotent isSpace _) longer
  rw [front, List.rdropWhile_idempotent]

end VoodooOne
