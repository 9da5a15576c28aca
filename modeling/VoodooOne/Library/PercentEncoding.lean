import Mathlib.Data.List.Basic

/-!
# Percent encoding

Bytes of UTF-8 that are not safe in a URL are written as a percent sign and two hexadecimal digits.
The bytes, and with them the text, can be read back.
-/

namespace VoodooOne.PercentEncoding

def upperDigit (value : Nat) : Char := "0123456789ABCDEF".toList.getD value '0'

/-- `%XX`. -/
def escapeByte (byte : UInt8) : List Char :=
  ['%', upperDigit (byte.toNat / 16), upperDigit (byte.toNat % 16)]

/-- The characters that are never escaped. -/
def unreserved : List Char :=
  "ABCDEFGHIJKLMNOPQRSTUVWXYZabcdefghijklmnopqrstuvwxyz0123456789_.-~".toList

/-- One character, escaped byte by byte unless it is safe. -/
def quoteCharacter (safe : List Char) (character : Char) : List Char :=
  if character ∈ unreserved ++ safe then [character]
  else (String.utf8EncodeChar character).flatMap escapeByte

def quote (safe text : List Char) : List Char := text.flatMap (quoteCharacter safe)

def digitValue (character : Char) : Nat :=
  if character.toNat < 65 then character.toNat - 48 else character.toNat - 55

/-- The bytes that a quoted text stands for. -/
def unquote : List Char → List UInt8
  | '%' :: high :: low :: rest =>
      UInt8.ofNat (digitValue high * 16 + digitValue low) :: unquote rest
  | character :: rest => UInt8.ofNat character.toNat :: unquote rest
  | [] => []

theorem digitValue_upperDigit {value : Nat} (small : value < 16) :
    digitValue (upperDigit value) = value := by
  have all : ∀ value < 16, digitValue (upperDigit value) = value := by decide
  exact all value small

theorem unquote_escapeByte (byte : UInt8) (rest : List Char) :
    unquote (escapeByte byte ++ rest) = byte :: unquote rest := by
  have bound := byte.toNat_lt
  have high : byte.toNat / 16 < 16 := by omega
  have low : byte.toNat % 16 < 16 := by omega
  rw [escapeByte, List.cons_append, List.cons_append, List.cons_append, List.nil_append, unquote,
    digitValue_upperDigit high, digitValue_upperDigit low, Nat.div_add_mod' byte.toNat 16,
    UInt8.ofNat_toNat]

theorem unquote_escapeBytes (bytes : List UInt8) (rest : List Char) :
    unquote (bytes.flatMap escapeByte ++ rest) = bytes ++ unquote rest := by
  induction bytes with
  | nil => rfl
  | cons byte bytes induction =>
      rw [List.flatMap_cons, List.append_assoc, unquote_escapeByte, induction, List.cons_append]

theorem utf8EncodeChar_ascii {character : Char} (ascii : character.toNat < 128) :
    String.utf8EncodeChar character = [UInt8.ofNat character.toNat] := by
  have size : character.utf8Size = 1 :=
    Char.utf8Size_eq_one_iff.mpr (UInt32.le_iff_toNat_le.mpr (Nat.le_of_lt_succ ascii))
  rw [String.utf8EncodeChar_eq_singleton size]
  rfl

section

variable {safe : List Char} (ascii : ∀ character ∈ safe, character.toNat < 128 ∧ character ≠ '%')
include ascii

theorem plain_of_mem {character : Char} (member : character ∈ unreserved ++ safe) :
    character.toNat < 128 ∧ character ≠ '%' := by
  have plain : unreserved.all fun character =>
      decide (character.toNat < 128 ∧ character ≠ '%') := by decide
  rcases List.mem_append.mp member with never | own
  · exact of_decide_eq_true (List.all_eq_true.mp plain character never)
  · exact ascii character own

theorem unquote_quote (text : List Char) :
    unquote (quote safe text) = text.flatMap String.utf8EncodeChar := by
  induction text with
  | nil => rfl
  | cons character text induction =>
      rw [quote, List.flatMap_cons, List.flatMap_cons, ← quote, quoteCharacter]
      split
      · next member =>
        obtain ⟨small, other⟩ := plain_of_mem ascii member
        rw [List.singleton_append, unquote, induction, utf8EncodeChar_ascii small,
          List.singleton_append]
        intro _ _ _ percent
        exact absurd percent other
      · rw [unquote_escapeBytes, induction]

theorem quote_injective : Function.Injective (quote safe) := by
  intro left right same
  have bytes := congrArg unquote same
  rw [unquote_quote ascii, unquote_quote ascii] at bytes
  have texts : String.ofList left = String.ofList right := by
    rw [← String.toByteArray_inj, String.toByteArray_ofList, String.toByteArray_ofList,
      List.utf8Encode, List.utf8Encode, bytes]
  exact String.ofList_inj.mp texts

end

/-- Quoting yields percent signs, digits and the characters that are kept. -/
theorem mem_quote {safe text : List Char} {character : Char}
    (member : character ∈ quote safe text) : character ∈ '%' :: unreserved ++ safe := by
  obtain ⟨source, -, inside⟩ := List.mem_flatMap.mp member
  have digits : ∀ value < 16, upperDigit value ∈ unreserved := by decide
  rw [quoteCharacter] at inside
  split at inside
  · next kept =>
    rw [List.mem_singleton.mp inside]
    exact List.mem_cons_of_mem _ kept
  · obtain ⟨byte, -, escaped⟩ := List.mem_flatMap.mp inside
    have bound := byte.toNat_lt
    simp only [escapeByte, List.mem_cons, List.not_mem_nil, or_false] at escaped
    rcases escaped with rfl | rfl | rfl
    · exact List.mem_cons_self
    · exact List.mem_cons_of_mem _ (List.mem_append_left _ (digits _ (by omega)))
    · exact List.mem_cons_of_mem _ (List.mem_append_left _ (digits _ (by omega)))

end VoodooOne.PercentEncoding
