import Mathlib.Data.List.GetD
import VoodooOne.Identity.Tokens

/-!
# Payloads of session tokens

The payload is ASCII text of a bounded length, and it is read back as the fields that it was written
from.
-/

namespace VoodooOne

theorem base64Bits_character {bits : Nat} (small : bits < 64) :
    base64Bits (base64Character bits) = some bits := by
  interval_cases bits <;> decide

/-- A character of the alphabet is ASCII, and neither padding nor a separator. -/
theorem base64Character_plain (bits : Nat) : (base64Character bits).toNat < 127 ∧
    base64Character bits ≠ '=' ∧ base64Character bits ≠ '.' := by
  have each := List.all_eq_true.mp (by decide : base64Alphabet.all (fun character =>
    character.toNat < 127 ∧ character ≠ '=' ∧ character ≠ '.') = true)
  unfold base64Character
  by_cases within : bits < base64Alphabet.length
  · rw [List.getD_eq_getElem _ _ within]
    exact of_decide_eq_true (each _ (List.getElem_mem within))
  · rw [List.getD_eq_default _ _ (not_lt.mp within)]
    decide

theorem byte_eq {byte : UInt8} {value : Nat} (same : value % 256 = byte.toNat) :
    UInt8.ofNat value = byte := by
  rw [← UInt8.toNat_inj, UInt8.toNat_ofNat']
  exact same

theorem b64urlEncode_plain (bytes : List UInt8) : ∀ character ∈ b64urlEncode bytes,
    character.toNat < 127 ∧ character ≠ '=' ∧ character ≠ '.' := by
  induction bytes using b64urlEncode.induct with
  | case1 => exact List.forall_mem_nil _
  | case2 first =>
      simp only [b64urlEncode, List.forall_mem_cons]
      exact ⟨base64Character_plain _, base64Character_plain _, List.forall_mem_nil _⟩
  | case3 first second =>
      simp only [b64urlEncode, List.forall_mem_cons]
      exact ⟨base64Character_plain _, base64Character_plain _, base64Character_plain _,
        List.forall_mem_nil _⟩
  | case4 first second third rest induction =>
      simp only [b64urlEncode, List.forall_mem_cons]
      exact ⟨base64Character_plain _, base64Character_plain _, base64Character_plain _,
        base64Character_plain _, induction⟩

theorem length_b64urlEncode (bytes : List UInt8) :
    (b64urlEncode bytes).length = (4 * bytes.length + 2) / 3 := by
  induction bytes using b64urlEncode.induct with
  | case1 => rfl
  | case2 first => simp only [b64urlEncode, List.length_cons, List.length_nil]
  | case3 first second => simp only [b64urlEncode, List.length_cons, List.length_nil]
  | case4 first second third rest induction =>
      simp only [b64urlEncode, List.length_cons, induction]
      omega

theorem padding_eq {length count : Nat} (same : (4 - length % 4) % 4 = count) :
    List.replicate ((4 - length % 4) % 4) '=' = List.replicate count '=' := by
  rw [same]

/-- Bytes are read back from their padded text. -/
theorem a2bBase64_encode (bytes : List UInt8) : a2bBase64 (b64urlEncode bytes ++
      List.replicate ((4 - (b64urlEncode bytes).length % 4) % 4) '=') = some bytes := by
  induction bytes using b64urlEncode.induct with
  | case1 => rfl
  | case2 first =>
      have bound := first.toNat_lt
      have decoded : UInt8.ofNat (first.toNat / 4 * 4 + first.toNat % 4 * 16 / 16) = first :=
        byte_eq (by omega)
      simp only [b64urlEncode, List.length_cons, List.length_nil]
      rw [padding_eq (by decide : (4 - (0 + 1 + 1) % 4) % 4 = 2)]
      simp only [List.replicate, List.cons_append, List.nil_append, a2bBase64]
      rw [base64Bits_character (by omega), base64Bits_character (by omega)]
      simp only [Option.bind_eq_bind, Option.bind_some, decoded]
      rfl
  | case3 first second =>
      have bound := first.toNat_lt
      have secondBound := second.toNat_lt
      have firstDecoded : UInt8.ofNat (first.toNat / 4 * 4 +
          (first.toNat % 4 * 16 + second.toNat / 16) / 16) = first := byte_eq (by omega)
      have secondDecoded : UInt8.ofNat ((first.toNat % 4 * 16 + second.toNat / 16) * 16 +
          second.toNat % 16 * 4 / 4) = second := byte_eq (by omega)
      simp only [b64urlEncode, List.length_cons, List.length_nil]
      rw [padding_eq (by decide : (4 - (0 + 1 + 1 + 1) % 4) % 4 = 1)]
      simp only [List.replicate, List.cons_append, List.nil_append]
      rw [a2bBase64]
      · rw [base64Bits_character (by omega), base64Bits_character (by omega),
          base64Bits_character (by omega)]
        simp only [Option.bind_eq_bind, Option.bind_some, firstDecoded, secondDecoded]
        rfl
      · exact fun same => absurd same (base64Character_plain _).2.1
  | case4 first second third rest induction =>
      have bound := first.toNat_lt
      have secondBound := second.toNat_lt
      have thirdBound := third.toNat_lt
      have firstDecoded : UInt8.ofNat (first.toNat / 4 * 4 +
          (first.toNat % 4 * 16 + second.toNat / 16) / 16) = first := byte_eq (by omega)
      have secondDecoded : UInt8.ofNat ((first.toNat % 4 * 16 + second.toNat / 16) * 16 +
          (second.toNat % 16 * 4 + third.toNat / 64) / 4) = second := byte_eq (by omega)
      have thirdDecoded : UInt8.ofNat ((second.toNat % 16 * 4 + third.toNat / 64) * 64 +
          third.toNat % 64) = third := byte_eq (by omega)
      have padding : (4 - (b64urlEncode (first :: second :: third :: rest)).length % 4) % 4 =
          (4 - (b64urlEncode rest).length % 4) % 4 := by
        have longer : (4 * (rest.length + 1 + 1 + 1) + 2) / 3 = (4 * rest.length + 2) / 3 + 4 := by
          omega
        simp only [length_b64urlEncode, List.length_cons]
        rw [longer, Nat.add_mod_right]
      rw [padding]
      simp only [b64urlEncode, List.cons_append]
      rw [a2bBase64]
      · rw [base64Bits_character (by omega), base64Bits_character (by omega),
          base64Bits_character (by omega), base64Bits_character (by omega), induction]
        simp only [Option.bind_eq_bind, Option.bind_some, firstDecoded, secondDecoded, thirdDecoded]
        rfl
      · exact fun _ same => absurd same (base64Character_plain _).2.1
      · exact fun same => absurd same (base64Character_plain _).2.1

theorem b64urlDecode_encode {bytes : List UInt8} (nonempty : bytes ≠ []) :
    b64urlDecode (b64urlEncode bytes) = .ok bytes := by
  have shown : b64urlEncode bytes ≠ [] := by
    intro none
    have length := length_b64urlEncode bytes
    have positive := List.length_pos_iff.mpr nonempty
    rw [none, List.length_nil] at length
    omega
  rw [b64urlDecode, raiseIf, if_neg shown, ok_bind, a2bBase64_encode]
  rfl

theorem toList_loop (bytes : ByteArray) (index : Nat) (done : List UInt8) :
    ByteArray.toList.loop bytes index done = done.reverse ++ bytes.data.toList.drop index := by
  induction index, done using ByteArray.toList.loop.induct bytes with
  | case1 index done within induction =>
      have inside : index < bytes.data.toList.length := within
      have same : bytes.get! index = bytes.data.toList[index] :=
        getElem!_pos bytes.data index within
      rw [ByteArray.toList.loop, if_pos within, induction, List.drop_eq_getElem_cons inside, same,
        List.reverse_cons, List.append_assoc, List.singleton_append]
  | case2 index done within =>
      have beyond : bytes.data.toList.length ≤ index := not_lt.mp within
      rw [ByteArray.toList.loop, if_neg within, List.drop_eq_nil_of_le beyond, List.append_nil]

theorem utf8_eq_data (text : String) : utf8 text = text.toUTF8.data.toList := by
  rw [utf8, ByteArray.toList, toList_loop]
  rfl

theorem utf8_eq (text : String) : utf8 text = text.toList.flatMap String.utf8EncodeChar := by
  rw [utf8_eq_data, String.toUTF8, ← String.utf8Encode_toList, List.utf8Encode]
  exact List.toList_data_toByteArray

theorem fromUTF8?_utf8 (text : String) : String.fromUTF8? ⟨(utf8 text).toArray⟩ = some text := by
  have bytes : (⟨(utf8 text).toArray⟩ : ByteArray) = text.toUTF8 := by
    rw [utf8_eq_data, Array.toArray_toList]
  rw [bytes]
  simp [String.fromUTF8?, String.fromUTF8, text.isValidUTF8]

theorem length_utf8 {characters : List Char}
    (ascii : ∀ character ∈ characters, character.toNat < 128) :
    (utf8 (String.ofList characters)).length = characters.length := by
  rw [utf8_eq, String.toList_ofList]
  induction characters with
  | nil => rfl
  | cons character characters induction =>
      rw [List.forall_mem_cons] at ascii
      have small : character.val ≤ 127 := UInt32.le_iff_toNat_le.mpr (Nat.le_of_lt_succ ascii.1)
      rw [List.flatMap_cons, List.length_append, induction ascii.2, String.length_utf8EncodeChar,
        Char.utf8Size_eq_one_iff.mpr small, List.length_cons, Nat.add_comm]

theorem readUnit_unitEscape {code : Nat} (small : code < 0x10000) (rest : List Char) :
    readUnit (hexDigit (code / 4096) :: hexDigit (code / 256 % 16) :: hexDigit (code / 16 % 16) ::
      hexDigit (code % 16) :: rest) = some (code, rest) := by
  rw [readUnit, hexDigitValue_hexDigit (by omega), hexDigitValue_hexDigit (by omega),
    hexDigitValue_hexDigit (by omega), hexDigitValue_hexDigit (by omega)]
  simp only [Option.bind_eq_bind, Option.bind_some, Option.pure_def, Option.some.injEq,
    Prod.mk.injEq, and_true]
  omega

theorem decodeCharacter_unitEscape (code : Nat) (rest : List Char) :
    decodeCharacter (unitEscape code ++ rest) =
      readUnicode (hexDigit (code / 4096) :: hexDigit (code / 256 % 16) ::
        hexDigit (code / 16 % 16) :: hexDigit (code % 16) :: rest) := by
  simp only [unitEscape, List.cons_append, List.nil_append]
  rw [decodeCharacter]

theorem decodeCharacter_unit {code : Nat} (small : code < 0xd800 ∨ 0xdfff < code ∧ code < 0x10000)
    (rest : List Char) : decodeCharacter (unitEscape code ++ rest) =
      some (Char.ofNat code, rest) := by
  rw [decodeCharacter_unitEscape, readUnicode, readUnit_unitEscape (by omega)]
  simp only [Option.bind_eq_bind, Option.bind_some]
  rw [if_neg (by omega), if_neg (by omega)]

theorem decodeCharacter_pair {high low : Nat} (isHigh : 0xd800 ≤ high ∧ high < 0xdc00)
    (isLow : 0xdc00 ≤ low ∧ low < 0xe000) (rest : List Char) :
    decodeCharacter (unitEscape high ++ (unitEscape low ++ rest)) =
      some (Char.ofNat (0x10000 + (high - 0xd800) * 0x400 + (low - 0xdc00)), rest) := by
  rw [decodeCharacter_unitEscape, readUnicode, readUnit_unitEscape (by omega)]
  simp only [Option.bind_eq_bind, Option.bind_some]
  rw [if_pos isHigh]
  simp only [unitEscape, List.cons_append, List.nil_append]
  rw [readLowSurrogate, readUnit_unitEscape (by omega)]
  simp only [Option.bind_eq_bind, Option.bind_some]
  rw [if_pos isLow]

theorem decodeCharacter_asciiEscape (character : Char) (rest : List Char) :
    decodeCharacter (asciiEscape character ++ rest) = some (character, rest) := by
  have valid : character.toNat < 0xd800 ∨ 0xdfff < character.toNat ∧ character.toNat < 0x110000 :=
    character.valid
  unfold asciiEscape
  dsimp only
  split
  · exact decodeCharacter_escape character rest
  split
  · rw [decodeCharacter_unit (by omega), Char.ofNat_toNat]
  · next large =>
    have code : 0x10000 + (0xd800 + (character.toNat - 0x10000) / 0x400 - 0xd800) * 0x400 +
        (0xdc00 + (character.toNat - 0x10000) % 0x400 - 0xdc00) = character.toNat := by omega
    rw [List.append_assoc, decodeCharacter_pair (by omega) (by omega), code, Char.ofNat_toNat]

theorem asciiEscape_start (character : Char) :
    ∃ first tail, asciiEscape character = first :: tail ∧ first ≠ '"' := by
  unfold asciiEscape
  dsimp only
  split
  · exact escapeCharacter_start character
  split
  · exact ⟨'\\', _, rfl, by decide⟩
  · exact ⟨'\\', _, rfl, by decide⟩

theorem asciiEscape_escaping : Escaping asciiEscape :=
  ⟨decodeCharacter_asciiEscape, asciiEscape_start⟩

theorem hexDigit_ascii (value : Nat) : (hexDigit value).toNat < 128 := by
  have each := List.all_eq_true.mp
    (by decide : "0123456789abcdef".toList.all (·.toNat < 128) = true)
  unfold hexDigit
  by_cases within : value < "0123456789abcdef".toList.length
  · rw [List.getD_eq_getElem _ _ within]
    exact of_decide_eq_true (each _ (List.getElem_mem within))
  · rw [List.getD_eq_default _ _ (not_lt.mp within)]
    decide

def Ascii (characters : List Char) : Prop := ∀ character ∈ characters, character.toNat < 128

theorem Ascii.append {first second : List Char} (left : Ascii first) (right : Ascii second) :
    Ascii (first ++ second) := List.forall_mem_append.mpr ⟨left, right⟩

theorem unitEscape_ascii (code : Nat) : Ascii (unitEscape code) := by
  simp only [Ascii, unitEscape, List.forall_mem_cons]
  exact ⟨by decide, by decide, hexDigit_ascii _, hexDigit_ascii _, hexDigit_ascii _,
    hexDigit_ascii _, List.forall_mem_nil _⟩

theorem escapeCharacter_ascii {character : Char} (small : character.toNat < 127) :
    Ascii (escapeCharacter character) ∧ (escapeCharacter character).length ≤ 6 := by
  unfold escapeCharacter Ascii
  split_ifs
  all_goals simp only [List.forall_mem_cons, List.length_cons, List.length_nil]
  all_goals
    refine ⟨?_, by omega⟩
    simp [hexDigit_ascii]
    try omega

theorem asciiEscape_ascii (character : Char) :
    Ascii (asciiEscape character) ∧ (asciiEscape character).length ≤ 12 := by
  unfold asciiEscape
  dsimp only
  split
  · next small =>
    obtain ⟨ascii, short⟩ := escapeCharacter_ascii small
    exact ⟨ascii, by omega⟩
  split
  · exact ⟨unitEscape_ascii _, by simp [unitEscape]⟩
  · exact ⟨(unitEscape_ascii _).append (unitEscape_ascii _), by simp [unitEscape]⟩

theorem asciiQuote_ascii (text : String) :
    Ascii (asciiQuote text) ∧ (asciiQuote text).length ≤ 12 * text.length + 2 := by
  have escaped (characters : List Char) : Ascii (characters.flatMap asciiEscape) ∧
      (characters.flatMap asciiEscape).length ≤ 12 * characters.length := by
    induction characters with
    | nil => exact ⟨List.forall_mem_nil _, le_rfl⟩
    | cons character characters induction =>
        obtain ⟨ascii, short⟩ := asciiEscape_ascii character
        rw [List.flatMap_cons, List.length_append, List.length_cons]
        exact ⟨ascii.append induction.1, by omega⟩
  obtain ⟨ascii, short⟩ := escaped text.toList
  have quotes : Ascii ['"'] := by simp [Ascii]
  refine ⟨?_, ?_⟩
  · exact quotes.append (ascii.append quotes)
  · rw [String.length_toList] at short
    simp only [asciiQuote, List.length_cons, List.length_append, List.length_nil]
    omega

theorem int_ascii (value : Int) : Ascii (toString value).toList := by
  have digits (number : Nat) : Ascii (Nat.toDigits 10 number) := by
    intro digit member
    have isDigit := Nat.isDigit_of_mem_toDigits (by decide) (by decide) member
    simp only [Char.isDigit, Bool.and_eq_true, decide_eq_true_eq] at isDigit
    have small : digit.val.toNat ≤ 57 := UInt32.le_iff_toNat_le.mp isDigit.2
    exact lt_of_le_of_lt small (by decide)
  rw [toList_int]
  split
  · exact List.forall_mem_cons.mpr ⟨by decide, digits _⟩
  · exact digits _

theorem length_int {value : Int} {digits : Nat} (positive : 0 < digits)
    (small : value.natAbs < 10 ^ digits) : (toString value).toList.length ≤ digits + 1 := by
  have short : (Nat.toDigits 10 value.natAbs).length ≤ digits :=
    (Nat.length_toDigits_le_iff (by decide) positive).mpr small
  rw [toList_int]
  split
  · rw [List.length_cons]
    omega
  · omega

def tokenFields (nonce userId username role : String) (issuedAt expiresAt : Int) :
    List (String × Json) :=
  [("aud", .str sessionAudience), ("exp", .int expiresAt), ("iat", .int issuedAt),
    ("iss", .str sessionIssuer), ("nonce", .str nonce), ("role", .str role), ("sub", .str userId),
    ("username", .str username)]

def asciiRender : Json → List Char
  | .str text => asciiQuote text
  | value => render value

def asciiField (field : String × Json) : List Char :=
  asciiQuote field.1 ++ ':' :: asciiRender field.2

section Payload

variable {nonce userId username role : String} {issuedAt expiresAt : Int}

theorem tokenPayload_eq : tokenPayload nonce userId username role issuedAt expiresAt =
    '\x7b' :: (List.intercalate [',']
      ((tokenFields nonce userId username role issuedAt expiresAt).map asciiField) ++
        ['\x7d']) := by
  simp only [tokenPayload, tokenFields, asciiField, asciiRender, render, List.map_cons,
    List.map_nil]

/-- A value that a payload holds: a text, or a number that is not too long. -/
def TokenValue (value : Json) : Prop :=
  (∃ text, value = .str text) ∨
    ∃ number : Int, value = .int number ∧ (Nat.toDigits 10 number.natAbs).length ≤ maxDigits

theorem tokenFields_held
    (shortIssued : (Nat.toDigits 10 issuedAt.natAbs).length ≤ maxDigits)
    (shortExpires : (Nat.toDigits 10 expiresAt.natAbs).length ≤ maxDigits) :
    ∀ field ∈ tokenFields nonce userId username role issuedAt expiresAt, TokenValue field.2 := by
  simp only [tokenFields, List.forall_mem_cons]
  exact ⟨.inl ⟨_, rfl⟩, .inr ⟨_, rfl, shortExpires⟩, .inr ⟨_, rfl, shortIssued⟩, .inl ⟨_, rfl⟩,
    .inl ⟨_, rfl⟩, .inl ⟨_, rfl⟩, .inl ⟨_, rfl⟩, .inl ⟨_, rfl⟩, List.forall_mem_nil _⟩

theorem readValue_asciiRender {floats : FloatRepr} {value : Json} (held : TokenValue value)
    {depth : Nat} {rest : List Char} (closed : Closed rest) :
    readValue floats (depth + 1) (asciiRender value ++ rest) = some (value, rest) := by
  rcases held with ⟨text, rfl⟩ | ⟨number, rfl, short⟩
  · rw [asciiRender, asciiQuote, List.cons_append, List.append_assoc, List.singleton_append,
      readValue, asciiEscape_escaping.readString_escaped]
    rfl
  · rw [asciiRender, render]
    exact readValue_number (scanNumber_int number) (readScalar_int short closed)
    intro _ same
    cases same

theorem readMember_asciiField {floats : FloatRepr} {field : String × Json}
    (held : TokenValue field.2) {depth : Nat} {rest : List Char} (closed : Closed rest) :
    readMember (readValue floats (depth + 1)) (asciiField field ++ rest) = some (field, rest) := by
  have colon (rest : List Char) : skipBlank (':' :: rest) = ':' :: rest := rfl
  have start : skipBlank (asciiRender field.2 ++ rest) = asciiRender field.2 ++ rest := by
    rcases held with ⟨text, same⟩ | ⟨number, same, short⟩
    · rw [same]
      rfl
    · rw [same, asciiRender]
      · exact skipBlank_render (.int number short : Json.WellFormed floats (.int number)) rest
      · intro _ other
        cases other
  simp only [asciiField, asciiQuote, List.cons_append, List.append_assoc, List.nil_append]
  rw [readMember, asciiEscape_escaping.readString_escaped]
  simp [colon, start, readValue_asciiRender held closed]

/-- A payload whose times are not too long is read back. -/
theorem loads_tokenPayload {floats : FloatRepr}
    (shortIssued : (Nat.toDigits 10 issuedAt.natAbs).length ≤ maxDigits)
    (shortExpires : (Nat.toDigits 10 expiresAt.natAbs).length ≤ maxDigits) :
    loads floats (String.ofList (tokenPayload nonce userId username role issuedAt expiresAt)) =
      some (.obj (tokenFields nonce userId username role issuedAt expiresAt)) := by
  have held : ∀ field ∈ tokenFields nonce userId username role issuedAt expiresAt,
      TokenValue field.2 := tokenFields_held shortIssued shortExpires
  have starts : ∀ field ∈ tokenFields nonce userId username role issuedAt expiresAt,
      ∃ first tail, asciiField field = first :: tail ∧ isBlank first = false ∧ first ≠ '\x7d' :=
    fun field _ => ⟨'"', _, rfl, by decide⟩
  obtain ⟨depth, length⟩ : ∃ depth,
      (tokenPayload nonce userId username role issuedAt expiresAt).length = depth + 1 :=
    Nat.exists_eq_succ_of_ne_zero (by simp [tokenPayload])
  have reads : ∀ field ∈ tokenFields nonce userId username role issuedAt expiresAt, ∀ next rest,
      next = ',' ∨ next = '\x7d' →
        readMember (readValue floats (depth + 1)) (asciiField field ++ next :: rest) =
          some (id field, next :: rest) := fun field member next rest ends =>
    readMember_asciiField (held field member) (closed_of_follows rest ends (.inr rfl))
  have keys : ((tokenFields nonce userId username role issuedAt expiresAt).map Prod.fst).Nodup := by
    simp only [tokenFields, List.map_cons, List.map_nil]
    decide
  have sequence := readSequence_joined (by decide) rfl starts reads []
  rw [loads, String.toList_ofList, String.length_ofList, length, tokenPayload_eq]
  have start (rest : List Char) : skipBlank ('\x7b' :: rest) = '\x7b' :: rest := rfl
  rw [start, readValue, sequence, List.map_id, Option.map_some, ofPairs_eq_self keys]
  rfl

theorem asciiField_ascii {field : String × Json} (held : TokenValue field.2) :
    Ascii (asciiField field) := by
  have value : Ascii (asciiRender field.2) := by
    rcases held with ⟨text, same⟩ | ⟨number, same, -⟩
    · rw [same]
      exact (asciiQuote_ascii text).1
    · rw [same, asciiRender, render]
      · exact int_ascii number
      · intro _ other
        cases other
  exact (asciiQuote_ascii _).1.append (List.forall_mem_cons.mpr ⟨by decide, value⟩)

theorem ascii_intercalate {texts : List (List Char)} (each : ∀ text ∈ texts, Ascii text) :
    Ascii (List.intercalate [','] texts) := by
  induction texts with
  | nil => exact List.forall_mem_nil _
  | cons text texts induction =>
      obtain ⟨first, later⟩ := List.forall_mem_cons.mp each
      cases texts with
      | nil => simpa using first
      | cons second texts =>
          rw [List.intercalate_cons_cons]
          have comma : Ascii [','] := by simp [Ascii]
          exact (first.append comma).append (induction later)

theorem tokenPayload_ascii
    (held : ∀ field ∈ tokenFields nonce userId username role issuedAt expiresAt,
      TokenValue field.2) :
    Ascii (tokenPayload nonce userId username role issuedAt expiresAt) := by
  have fields : Ascii (List.intercalate [',']
      ((tokenFields nonce userId username role issuedAt expiresAt).map asciiField)) :=
    ascii_intercalate (List.forall_mem_map.mpr fun field member =>
      asciiField_ascii (held field member))
  have close : Ascii ['\x7d'] := by simp [Ascii]
  rw [tokenPayload_eq]
  exact List.forall_mem_cons.mpr ⟨by decide, fields.append close⟩

theorem length_tokenPayload : (tokenPayload nonce userId username role issuedAt expiresAt).length =
    (toString expiresAt).toList.length + (toString issuedAt).toList.length +
      (asciiQuote nonce).length + (asciiQuote role).length + (asciiQuote userId).length +
      (asciiQuote username).length + 103 := by
  have audience : (asciiQuote "aud").length = 5 ∧ (asciiQuote sessionAudience).length = 26 := by
    decide
  have issuer : (asciiQuote "iss").length = 5 ∧ (asciiQuote sessionIssuer).length = 12 := by decide
  have times : (asciiQuote "exp").length = 5 ∧ (asciiQuote "iat").length = 5 := by decide
  have user : (asciiQuote "sub").length = 5 ∧ (asciiQuote "username").length = 10 := by decide
  have session : (asciiQuote "nonce").length = 7 ∧ (asciiQuote "role").length = 6 := by decide
  simp only [tokenPayload, List.map_cons, List.map_nil, List.intercalate_cons_cons,
    List.intercalate_singleton, List.length_append, List.length_cons, List.length_nil]
  omega

end Payload

end VoodooOne
