import Mathlib.Data.List.TakeWhile
import VoodooOne.Foundation.CanonicalText
import VoodooOne.Foundation.JsonDecoder

/-!
# Tokens of canonical text

The numbers and the string literals of canonical text are read back by the decoder, whatever may
follow them inside a text.
-/

namespace VoodooOne

/-- A value inside a text is followed by nothing, a comma or a closing bracket. -/
def Closed (rest : List Char) : Prop := ∀ character ∈ rest.head?, character ∈ [',', ']', '\x7d']

theorem closed_nil : Closed [] := fun _ member => by simp at member

theorem closed_cons {character : Char} (rest : List Char)
    (closes : character ∈ [',', ']', '\x7d']) : Closed (character :: rest) := by
  intro first member
  obtain rfl : character = first := by simpa using member
  exact closes

theorem Closed.cases {rest : List Char} (closed : Closed rest) :
    rest = [] ∨ ∃ tail, rest = ',' :: tail ∨ rest = ']' :: tail ∨ rest = '\x7d' :: tail := by
  cases rest with
  | nil => exact .inl rfl
  | cons first tail =>
      have closes := closed first rfl
      simp only [List.mem_cons, List.not_mem_nil, or_false] at closes
      exact .inr ⟨tail, by rcases closes with rfl | rfl | rfl <;> simp⟩

theorem scanDigits_append (characters : List Char) {rest : List Char} (closed : Closed rest) :
    scanDigits (characters ++ rest) =
      ((scanDigits characters).1, (scanDigits characters).2 ++ rest) := by
  have stop : rest.takeWhile Char.isDigit = [] ∧ rest.dropWhile Char.isDigit = rest := by
    rcases closed.cases with rfl | ⟨tail, rfl | rfl | rfl⟩ <;> simp [List.takeWhile, List.dropWhile]
  simp only [scanDigits]
  induction characters with
  | nil => simp [stop]
  | cons first characters induction =>
      rw [Prod.mk.injEq] at induction
      by_cases digit : first.isDigit <;> simp [digit, List.takeWhile, List.dropWhile, induction]

theorem scanNatural_append {characters found left rest : List Char} (closed : Closed rest)
    (scanned : scanNatural characters = some (found, left)) :
    scanNatural (characters ++ rest) = some (found, left ++ rest) := by
  cases characters with
  | nil => simp [scanNatural, scanDigits] at scanned
  | cons first tail =>
      by_cases zero : first = '0'
      · subst zero
        simp only [scanNatural, Option.some.injEq, Prod.mk.injEq, List.cons_append] at scanned ⊢
        obtain ⟨rfl, rfl⟩ := scanned
        exact ⟨rfl, rfl⟩
      · have appended := scanDigits_append (first :: tail) closed
        rw [List.cons_append] at appended ⊢
        rw [scanNatural] at scanned ⊢
        · rw [appended]
          split at scanned
          · cases scanned
          · next nonempty =>
            rw [Option.some.injEq] at scanned
            rw [if_neg nonempty, scanned]
        · intro _ same
          exact zero (List.cons.inj same).1
        · intro _ same
          exact zero (List.cons.inj same).1

theorem scanWhole_append {characters found left rest : List Char} (closed : Closed rest)
    (scanned : scanWhole characters = some (found, left)) :
    scanWhole (characters ++ rest) = some (found, left ++ rest) := by
  cases characters with
  | nil => simp [scanWhole, scanNatural, scanDigits] at scanned
  | cons first tail =>
      by_cases minus : first = '-'
      · subst minus
        simp only [scanWhole, Option.map_eq_some_iff, Prod.mk.injEq, List.cons_append] at scanned ⊢
        obtain ⟨⟨digits, after⟩, natural, rfl, rfl⟩ := scanned
        exact ⟨_, scanNatural_append closed natural, rfl, rfl⟩
      · rw [scanWhole] at scanned
        · have natural := scanNatural_append closed scanned
          rw [List.cons_append] at natural ⊢
          rw [scanWhole]
          · exact natural
          · intro _ same
            exact minus (List.cons.inj same).1
        · intro _ same
          exact minus (List.cons.inj same).1

theorem scanFraction_append (characters : List Char) {rest : List Char} (closed : Closed rest) :
    scanFraction (characters ++ rest) =
      ((scanFraction characters).1, (scanFraction characters).2 ++ rest) := by
  cases characters with
  | nil => rcases closed.cases with rfl | ⟨tail, rfl | rfl | rfl⟩ <;> simp [scanFraction]
  | cons first tail =>
      by_cases point : first = '.'
      · subst point
        simp only [List.cons_append, scanFraction, scanDigits_append tail closed]
        split <;> rfl
      · have other (characters : List Char) :
            scanFraction (first :: characters) = ([], first :: characters) := by
          rw [scanFraction]
          intro _ same
          exact point (List.cons.inj same).1
        rw [List.cons_append, other, other, List.cons_append]

theorem scanSign_append (characters : List Char) {rest : List Char} (closed : Closed rest) :
    scanSign (characters ++ rest) = ((scanSign characters).1, (scanSign characters).2 ++ rest) := by
  cases characters with
  | nil => rcases closed.cases with rfl | ⟨tail, rfl | rfl | rfl⟩ <;> simp [scanSign]
  | cons first tail =>
      by_cases sign : first = '+' ∨ first = '-'
      · rcases sign with rfl | rfl <;> simp [scanSign]
      · have other (characters : List Char) :
            scanSign (first :: characters) = ([], first :: characters) := by
          rw [scanSign]
          · intro _ same
            exact sign (.inl (List.cons.inj same).1)
          · intro _ same
            exact sign (.inr (List.cons.inj same).1)
        rw [List.cons_append, other, other, List.cons_append]

theorem scanExponent_append (characters : List Char) {rest : List Char} (closed : Closed rest) :
    scanExponent (characters ++ rest) =
      ((scanExponent characters).1, (scanExponent characters).2 ++ rest) := by
  cases characters with
  | nil => rcases closed.cases with rfl | ⟨tail, rfl | rfl | rfl⟩ <;> simp [scanExponent]
  | cons first tail =>
      simp only [List.cons_append, scanExponent, scanSign_append tail closed,
        scanDigits_append _ closed]
      split <;> rfl

/-- The scanner takes the same number when a value may end where the number does. -/
theorem scanNumber_append {characters left rest : List Char} {found : List Char × List Char}
    (closed : Closed rest) (scanned : scanNumber characters = some (found, left)) :
    scanNumber (characters ++ rest) = some (found, left ++ rest) := by
  simp only [scanNumber, Option.map_eq_some_iff, Prod.mk.injEq] at scanned ⊢
  obtain ⟨⟨whole, after⟩, first, rfl, rfl⟩ := scanned
  refine ⟨_, scanWhole_append closed first, ?_⟩
  simp only [scanFraction_append after closed, scanExponent_append _ closed, true_and]

theorem scanDigits_text (characters : List Char) :
    (scanDigits characters).1 ++ (scanDigits characters).2 = characters :=
  List.takeWhile_append_dropWhile

theorem scanNumber_text {characters whole fraction rest : List Char}
    (scanned : scanNumber characters = some ((whole, fraction), rest)) :
    whole ++ fraction ++ rest = characters := by
  have natural {characters found left : List Char}
      (scanned : scanNatural characters = some (found, left)) : found ++ left = characters := by
    unfold scanNatural at scanned
    split at scanned
    · simp only [Option.some.injEq, Prod.mk.injEq] at scanned
      obtain ⟨rfl, rfl⟩ := scanned
      rfl
    · split at scanned
      · cases scanned
      · rw [Option.some.injEq, Prod.ext_iff] at scanned
        obtain ⟨rfl, rfl⟩ := scanned
        exact scanDigits_text _
  have first {characters found left : List Char}
      (scanned : scanWhole characters = some (found, left)) : found ++ left = characters := by
    unfold scanWhole at scanned
    split at scanned
    · simp only [Option.map_eq_some_iff, Prod.mk.injEq] at scanned
      obtain ⟨⟨digits, after⟩, scanned, rfl, rfl⟩ := scanned
      rw [List.cons_append, natural scanned]
    · exact natural scanned
  have second (characters : List Char) :
      (scanFraction characters).1 ++ (scanFraction characters).2 = characters := by
    unfold scanFraction
    split
    · split
      · rfl
      · rw [List.cons_append, scanDigits_text]
    · rfl
  have sign (characters : List Char) :
      (scanSign characters).1 ++ (scanSign characters).2 = characters := by
    unfold scanSign
    split <;> rfl
  have third (characters : List Char) :
      (scanExponent characters).1 ++ (scanExponent characters).2 = characters := by
    unfold scanExponent
    split
    · split
      · rw [List.cons_append, List.cons_append, List.append_assoc, scanDigits_text, sign]
      · rfl
    · rfl
  simp only [scanNumber, Option.map_eq_some_iff, Prod.mk.injEq] at scanned
  obtain ⟨⟨_, after⟩, scanned, ⟨rfl, rfl⟩, rfl⟩ := scanned
  rw [List.append_assoc, List.append_assoc, third, second, first scanned]

theorem scanNumber_start {characters : List Char} {found : (List Char × List Char) × List Char}
    (scanned : scanNumber characters = some found) :
    ∃ digit tail, digit.isDigit ∧ (characters = digit :: tail ∨ characters = '-' :: digit ::
      tail) := by
  have natural {characters : List Char} {found : List Char × List Char}
      (scanned : scanNatural characters = some found) :
      ∃ digit tail, digit.isDigit ∧ characters = digit :: tail := by
    unfold scanNatural at scanned
    split at scanned
    · next tail => exact ⟨'0', tail, rfl, rfl⟩
    · split at scanned
      · cases scanned
      · next nonempty =>
        cases characters with
        | nil => exact absurd rfl nonempty
        | cons first tail =>
            refine ⟨first, tail, ?_, rfl⟩
            by_contra other
            exact nonempty (by simp [scanDigits, other])
  simp only [scanNumber, Option.map_eq_some_iff] at scanned
  obtain ⟨whole, first, -⟩ := scanned
  unfold scanWhole at first
  split at first
  · rw [Option.map_eq_some_iff] at first
    obtain ⟨_, scanned, -⟩ := first
    obtain ⟨digit, tail, isDigit, rfl⟩ := natural scanned
    exact ⟨digit, tail, isDigit, .inr rfl⟩
  · obtain ⟨digit, tail, isDigit, rfl⟩ := natural first
    exact ⟨digit, tail, isDigit, .inl rfl⟩

theorem ne_of_isDigit {digit other : Char} (isDigit : digit.isDigit)
    (no : other.isDigit = false) : digit ≠ other := by
  rintro rfl
  rw [isDigit] at no
  cases no

theorem readWord_number {characters : List Char} {found : (List Char × List Char) × List Char}
    (scanned : scanNumber characters = some found) : readWord characters constants = none := by
  obtain ⟨digit, tail, isDigit, rfl | rfl⟩ := scanNumber_start scanned
  all_goals
    have nulls : digit ≠ 'n' := ne_of_isDigit isDigit rfl
    have trues : digit ≠ 't' := ne_of_isDigit isDigit rfl
    have falses : digit ≠ 'f' := ne_of_isDigit isDigit rfl
    have nans : digit ≠ 'N' := ne_of_isDigit isDigit rfl
    have infinities : digit ≠ 'I' := ne_of_isDigit isDigit rfl
    have signs : digit ≠ '-' := ne_of_isDigit isDigit rfl
    simp [constants, nonfinite, readWord, List.dropPrefix?, *]

theorem readScalar_number {floats : FloatRepr} {characters rest whole fraction : List Char}
    {value : Json} (closed : Closed rest)
    (scanned : scanNumber characters = some ((whole, fraction), []))
    (number : numberOf floats whole fraction = some value) :
    readScalar floats (characters ++ rest) = some (value, rest) := by
  have more := scanNumber_append closed scanned
  rw [readScalar, readWord_number more, more]
  simp [number]

theorem toList_int (value : Int) : (toString value).toList =
    if value < 0 then '-' :: Nat.toDigits 10 value.natAbs else Nat.toDigits 10 value.natAbs := by
  cases value with
  | ofNat number =>
      rw [if_neg (by simp)]
      exact Nat.toList_repr
  | negSucc number =>
      rw [if_pos (Int.negSucc_lt_zero number)]
      change ("-" ++ Nat.repr (number + 1)).toList = _
      rw [String.toList_append, Nat.toList_repr]
      rfl

/-- The decimal text of a number other than zero does not start with a zero. -/
theorem toDigits_start {number : Nat} (positive : 0 < number) :
    ∃ digit tail, Nat.toDigits 10 number = digit :: tail ∧ digit ≠ '0' := by
  induction number using Nat.strongRecOn with
  | ind number induction =>
      by_cases small : number < 10
      · rw [Nat.toDigits_of_lt_base small]
        refine ⟨_, [], rfl, ?_⟩
        interval_cases number <;> decide
      · rw [Nat.toDigits_of_base_le (by decide) (by omega)]
        obtain ⟨digit, tail, digits, nonzero⟩ :=
          induction (number / 10) (by omega) (by omega)
        exact ⟨digit, _, by rw [digits, List.cons_append], nonzero⟩

theorem scanNatural_toDigits (number : Nat) :
    scanNatural (Nat.toDigits 10 number) = some (Nat.toDigits 10 number, []) := by
  rcases Nat.eq_zero_or_pos number with rfl | positive
  · rfl
  · have digits : scanDigits (Nat.toDigits 10 number) = (Nat.toDigits 10 number, []) := by
      have each : ∀ digit ∈ Nat.toDigits 10 number, digit.isDigit = true := fun digit member =>
        Nat.isDigit_of_mem_toDigits (by decide) (by decide) member
      rw [scanDigits, List.takeWhile_eq_self_iff.mpr each, List.dropWhile_eq_nil_iff.mpr each]
    obtain ⟨digit, tail, start, nonzero⟩ := toDigits_start positive
    rw [start] at digits ⊢
    rw [scanNatural, digits]
    · rfl
    · intro _ same
      exact nonzero (List.cons.inj same).1

theorem toDigits_ne_minus (number : Nat) (tail : List Char) :
    Nat.toDigits 10 number ≠ '-' :: tail := by
  intro same
  have digit : Char.isDigit '-' := Nat.isDigit_of_mem_toDigits (by decide) (by decide)
    (same ▸ List.mem_cons_self : '-' ∈ Nat.toDigits 10 number)
  cases digit

theorem scanNumber_int (value : Int) : scanNumber (toString value).toList =
    some (((toString value).toList, []), []) := by
  have whole : scanWhole (toString value).toList = some ((toString value).toList, []) := by
    rw [toList_int]
    split
    · rw [scanWhole, scanNatural_toDigits]
      rfl
    · rw [scanWhole, scanNatural_toDigits]
      exact toDigits_ne_minus _
  rw [scanNumber, whole]
  rfl

theorem integerOf_int (value : Int) : integerOf (toString value).toList = value := by
  rw [toList_int]
  split
  · rw [integerOf, Nat.ofDigitChars_ten_toDigits]
    omega
  · rw [integerOf, Nat.ofDigitChars_ten_toDigits]
    · omega
    · exact toDigits_ne_minus _

theorem filter_digits_int (value : Int) :
    (toString value).toList.filter Char.isDigit = Nat.toDigits 10 value.natAbs := by
  have digits : (Nat.toDigits 10 value.natAbs).filter Char.isDigit = Nat.toDigits 10 value.natAbs :=
    List.filter_eq_self.mpr fun digit member =>
      Nat.isDigit_of_mem_toDigits (by decide) (by decide) member
  rw [toList_int]
  split
  · rw [List.filter_cons_of_neg (by decide), digits]
  · exact digits

theorem readScalar_int {floats : FloatRepr} {value : Int} {rest : List Char}
    (short : (Nat.toDigits 10 value.natAbs).length ≤ maxDigits) (closed : Closed rest) :
    readScalar floats ((toString value).toList ++ rest) = some (.int value, rest) := by
  apply readScalar_number closed (scanNumber_int value)
  rw [numberOf, if_pos rfl, filter_digits_int, if_pos short, integerOf_int]

theorem readScalar_float {floats : FloatRepr} {text : String} {rest : List Char}
    (shortest : floats.repr text = text) (closed : Closed rest) :
    readScalar floats (text.toList ++ rest) = some (.float text, rest) := by
  rcases shortest ▸ floats.literal text with special | ⟨whole, fraction, nonempty, scanned⟩
  · simp only [nonfinite, List.mem_cons, List.not_mem_nil, or_false] at special
    rcases special with rfl | rfl | rfl <;>
      simp [readScalar, constants, nonfinite, readWord, List.dropPrefix?]
  · apply readScalar_number closed scanned
    have whole_text := scanNumber_text scanned
    rw [List.append_nil] at whole_text
    rw [numberOf, if_neg nonempty, whole_text, String.ofList_toList, shortest]

theorem hexDigitValue_hexDigit {value : Nat} (small : value < 16) :
    hexDigitValue (hexDigit value) = some value := by
  interval_cases value <;> decide

theorem decodeCharacter_escape (character : Char) (rest : List Char) :
    decodeCharacter (escapeCharacter character ++ rest) = some (character, rest) := by
  have ofCode (code : Nat) (same : character.toNat = code) : Char.ofNat code = character := by
    rw [← same, Char.ofNat_toNat]
  unfold escapeCharacter
  split
  · next same => subst same; rfl
  split
  · next same => subst same; rfl
  split
  · next same => subst same; rfl
  split
  · next same => subst same; rfl
  split
  · next same => subst same; rfl
  split
  · next code =>
    rw [← ofCode 12 code]
    rfl
  split
  · next code =>
    rw [← ofCode 8 code]
    rfl
  split
  · next small =>
    have high : hexDigitValue (hexDigit (character.toNat / 16)) = some (character.toNat / 16) :=
      hexDigitValue_hexDigit (by omega)
    have low : hexDigitValue (hexDigit (character.toNat % 16)) = some (character.toNat % 16) :=
      hexDigitValue_hexDigit (by omega)
    have zero : hexDigitValue '0' = some 0 := by decide
    simp only [List.cons_append, List.nil_append, decodeCharacter, readUnicode, readUnit, zero,
      high, low, Option.bind_eq_bind, Option.bind_some, Option.pure_def]
    rw [if_neg (by omega), if_neg (by omega), ofCode _ (by omega)]
  · next notQuote notSlash _ _ _ _ _ large =>
    rw [List.singleton_append, decodeCharacter, if_neg large]
    all_goals intros; simp_all

theorem escapeCharacter_start (character : Char) :
    ∃ first tail, escapeCharacter character = first :: tail ∧ first ≠ '"' := by
  unfold escapeCharacter
  split_ifs with notQuote
  all_goals exact ⟨_, _, rfl, by simp [*]⟩

/-- An escaping of characters that is read back: no escaped character starts with a quote. -/
structure Escaping (escape : Char → List Char) : Prop where
  reads : ∀ character rest, decodeCharacter (escape character ++ rest) = some (character, rest)
  starts : ∀ character, ∃ first tail, escape character = first :: tail ∧ first ≠ '"'

namespace Escaping

variable {escape : Char → List Char}

theorem readCharacters_escaped (escaping : Escaping escape) {text : List Char} {rest : List Char}
    {fuel : Nat} (enough : text.length < fuel) :
    readCharacters fuel (text.flatMap escape ++ '"' :: rest) = some (text, rest) := by
  induction text generalizing fuel with
  | nil =>
      obtain ⟨fuel, rfl⟩ := Nat.exists_eq_succ_of_ne_zero (by omega : fuel ≠ 0)
      rfl
  | cons character text induction =>
      obtain ⟨fuel, rfl⟩ := Nat.exists_eq_succ_of_ne_zero (by omega : fuel ≠ 0)
      rw [List.flatMap_cons, List.append_assoc]
      have read := escaping.reads character (text.flatMap escape ++ '"' :: rest)
      obtain ⟨first, tail, starts, notQuote⟩ := escaping.starts character
      rw [starts, List.cons_append] at read ⊢
      rw [readCharacters, read]
      · have later := induction (Nat.lt_of_succ_lt_succ enough)
        simp [later]
      · intro _ same
        exact notQuote (List.cons.inj same).1

theorem length_escaped (escaping : Escaping escape) (text : List Char) :
    text.length ≤ (text.flatMap escape).length := by
  induction text with
  | nil => rfl
  | cons character text induction =>
      obtain ⟨first, tail, starts, -⟩ := escaping.starts character
      rw [List.flatMap_cons, starts]
      simp only [List.length_append, List.length_cons]
      omega

theorem readString_escaped (escaping : Escaping escape) (text : String) (rest : List Char) :
    readString (text.toList.flatMap escape ++ '"' :: rest) = some (text, rest) := by
  have enough := escaping.length_escaped text.toList
  rw [readString, escaping.readCharacters_escaped
    (by simp only [List.length_append, List.length_cons]; omega)]
  simp

end Escaping

theorem escapeCharacter_escaping : Escaping escapeCharacter :=
  ⟨decodeCharacter_escape, escapeCharacter_start⟩

theorem readString_quoted (text : String) (rest : List Char) :
    readString (text.toList.flatMap escapeCharacter ++ '"' :: rest) = some (text, rest) :=
  escapeCharacter_escaping.readString_escaped text rest

end VoodooOne
