import Mathlib.Data.List.Sort
import Mathlib.Data.String.Basic

/-!
# JSON values and canonical text

Evidence payloads are JSON values.  `canonicalJson` is the text under which they are stored and
hashed: keys in order, no blanks, and only the escapes that JSON requires.  The digest function is
a parameter of the development.
-/

namespace VoodooOne

/-- A JSON value; `float` keeps the decimal text of a floating-point number. -/
inductive Json where
  | null
  | bool (value : Bool)
  | int (value : Int)
  | float (repr : String)
  | str (value : String)
  | arr (items : List Json)
  | obj (fields : List (String × Json))
deriving Repr, Inhabited

namespace Json

mutual

def same : Json → Json → Bool
  | .null, .null => true
  | .bool left, .bool right => left == right
  | .int left, .int right => left == right
  | .float left, .float right => left == right
  | .str left, .str right => left == right
  | .arr left, .arr right => sameItems left right
  | .obj left, .obj right => sameFields left right
  | _, _ => false

/-- Structural equality of arrays. -/
def sameItems : List Json → List Json → Bool
  | [], [] => true
  | left :: lefts, right :: rights => same left right && sameItems lefts rights
  | _, _ => false

/-- Structural equality of objects. -/
def sameFields : List (String × Json) → List (String × Json) → Bool
  | [], [] => true
  | (leftKey, left) :: lefts, (rightKey, right) :: rights =>
      leftKey == rightKey && same left right && sameFields lefts rights
  | _, _ => false

end

mutual

theorem same_iff (left right : Json) : same left right = true ↔ left = right := by
  cases left <;> cases right <;> simp [same, sameItems_iff, sameFields_iff]

theorem sameItems_iff (left right : List Json) : sameItems left right = true ↔ left = right := by
  cases left with
  | nil => cases right <;> simp [sameItems]
  | cons head tail => cases right <;> simp [sameItems, same_iff, sameItems_iff]

theorem sameFields_iff (left right : List (String × Json)) :
    sameFields left right = true ↔ left = right := by
  cases left with
  | nil => cases right <;> simp [sameFields]
  | cons head tail =>
      cases right <;> simp [sameFields, same_iff, sameFields_iff, Prod.ext_iff, and_assoc]

end

instance : DecidableEq Json := fun left right => decidable_of_iff _ (same_iff left right)

def keyLe (left right : String × Json) : Prop := left.1 ≤ right.1

instance : DecidableRel keyLe := fun left right =>
  inferInstanceAs (Decidable (left.1 ≤ right.1))

/-- An object, with its fields in the order of their keys. -/
def object (fields : List (String × Json)) : Json := .obj (fields.insertionSort keyLe)

def get? (key : String) : Json → Option Json
  | .obj fields => fields.lookup key
  | _ => none

/-- The value of a field, `null` where there is none. -/
def get (value : Json) (key : String) : Json := (value.get? key).getD .null

def keys : Json → Option (List String)
  | .obj fields => some (fields.map Prod.fst)
  | _ => none

/-- Whether the value equals an integer, as `==` compares integers, truth values and floats. -/
def equalsInt (number : Int) : Json → Bool
  | .int value => value == number
  | .bool value => (if value then 1 else 0) == number
  | .float repr => repr == toString number ++ ".0"
  | _ => false

def text? : Json → Option String
  | .str value => some value
  | _ => none

theorem lookup_orderedInsert (fields : List (String × Json)) (key other : String) (value : Json)
    (fresh : key ∉ fields.map Prod.fst) :
    (fields.orderedInsert keyLe (key, value)).lookup other =
      ((key, value) :: fields).lookup other := by
  induction fields with
  | nil => rfl
  | cons head tail induction =>
      obtain ⟨headKey, headValue⟩ := head
      simp only [List.map_cons, List.mem_cons, not_or] at fresh
      rw [List.orderedInsert_cons]
      split
      · rfl
      · rw [List.lookup_cons, induction fresh.2, List.lookup_cons, List.lookup_cons,
          List.lookup_cons]
        by_cases first : other = headKey
        · subst first
          have different : (other == key) = false := beq_eq_false_iff_ne.mpr (Ne.symm fresh.1)
          simp only [different, beq_self_eq_true]
        · have different : (other == headKey) = false := beq_eq_false_iff_ne.mpr first
          simp only [different]

theorem lookup_insertionSort (fields : List (String × Json)) (key : String)
    (distinct : (fields.map Prod.fst).Nodup) :
    (fields.insertionSort keyLe).lookup key = fields.lookup key := by
  induction fields with
  | nil => rfl
  | cons head tail induction =>
      obtain ⟨headKey, headValue⟩ := head
      simp only [List.map_cons, List.nodup_cons] at distinct
      have fresh : headKey ∉ (tail.insertionSort keyLe).map Prod.fst := by
        rw [((tail.perm_insertionSort keyLe).map Prod.fst).mem_iff]
        exact distinct.1
      rw [List.insertionSort_cons, lookup_orderedInsert _ _ _ _ fresh, List.lookup_cons,
        List.lookup_cons, induction distinct.2]

theorem get?_object (fields : List (String × Json)) (key : String)
    (distinct : (fields.map Prod.fst).Nodup) :
    (object fields).get? key = fields.lookup key :=
  lookup_insertionSort fields key distinct

theorem lookup_of_mem {fields : List (String × Json)} {entry : String × Json}
    (distinct : (fields.map Prod.fst).Nodup) (member : entry ∈ fields) :
    fields.lookup entry.1 = some entry.2 := by
  induction fields with
  | nil => simp at member
  | cons head tail induction =>
      simp only [List.map_cons, List.nodup_cons] at distinct
      rw [List.lookup_cons]
      rcases List.mem_cons.mp member with rfl | later
      · simp
      · have different : (entry.1 == head.1) = false := by
          rw [beq_eq_false_iff_ne]
          intro same
          exact distinct.1 (same ▸ List.mem_map_of_mem later)
        rw [different]
        exact induction distinct.2 later

theorem get_object_of_mem {fields : List (String × Json)} {entry : String × Json}
    (distinct : (fields.map Prod.fst).Nodup) (member : entry ∈ fields) :
    (object fields).get entry.1 = entry.2 := by
  rw [get, get?_object _ _ distinct, lookup_of_mem distinct member]
  rfl

theorem keys_object (fields : List (String × Json)) :
    ∃ keys, (object fields).keys = some keys ∧ keys.Perm (fields.map Prod.fst) :=
  ⟨_, rfl, (fields.perm_insertionSort keyLe).map Prod.fst⟩

end Json

def hexDigit (value : Nat) : Char := "0123456789abcdef".toList.getD value '0'

/-- The text of one character inside a JSON string. -/
def escapeCharacter (character : Char) : List Char :=
  if character = '"' then ['\\', '"']
  else if character = '\\' then ['\\', '\\']
  else if character = '\n' then ['\\', 'n']
  else if character = '\r' then ['\\', 'r']
  else if character = '\t' then ['\\', 't']
  else if character.toNat = 12 then ['\\', 'f']
  else if character.toNat = 8 then ['\\', 'b']
  else if character.toNat < 32 then
    ['\\', 'u', '0', '0', hexDigit (character.toNat / 16), hexDigit (character.toNat % 16)]
  else [character]

def quote (text : String) : List Char := '"' :: (text.toList.flatMap escapeCharacter ++ ['"'])

mutual

/-- Characters of the canonical text of a value. -/
def render : Json → List Char
  | .null => "null".toList
  | .bool true => "true".toList
  | .bool false => "false".toList
  | .int value => (toString value).toList
  | .float repr => repr.toList
  | .str value => quote value
  | .arr items => '[' :: (List.intercalate [','] (renderItems items) ++ [']'])
  | .obj fields =>
      '\x7b' :: (List.intercalate [','] (((renderFields fields).insertionSort
        (fun left right => left.1 ≤ right.1)).map fun field =>
          quote field.1 ++ ':' :: field.2) ++ ['\x7d'])

/-- Characters of the canonical texts of array items. -/
def renderItems : List Json → List (List Char)
  | [] => []
  | item :: items => render item :: renderItems items

/-- Keys and characters of the canonical texts of fields. -/
def renderFields : List (String × Json) → List (String × List Char)
  | [] => []
  | (key, value) :: fields => (key, render value) :: renderFields fields

end

/-- The text under which a value is stored and hashed. -/
def canonicalJson (value : Json) : String := String.ofList (render value)

def digestOf (sha256 : String → String) (value : Json) : String := sha256 (canonicalJson value)

def chainedHash (sha256 : String → String) (previousHash : String) (payload : Json) : String :=
  sha256 (previousHash ++ "\n" ++ canonicalJson payload)

end VoodooOne
