import Mathlib.Data.List.Lex
import Mathlib.Data.String.Basic
import Mathlib.Tactic.IntervalCases
import Mathlib.Tactic.Ring

/-!
# Fixed-width decimal text

Decimal numerals padded to a fixed width are ordered by code points exactly as the numbers they
spell are ordered, and a text whose columns all have fixed widths is compared column by column.
-/

namespace DecimalText

def digit (value : Nat) : Char := Char.ofNat (48 + value % 10)

/-- The number a decimal digit character stands for. -/
def digitValue (character : Char) : Nat := character.toNat - 48

/-- The `width` low decimal digits of `value`, most significant first. -/
def pad : Nat → Nat → List Char
  | 0, _ => []
  | width + 1, value => pad width (value / 10) ++ [digit value]

/-- The number spelled by a list of decimal digit characters. -/
def value (characters : List Char) : Nat :=
  characters.foldl (fun total character => 10 * total + digitValue character) 0

/-- One column: its width in digits and the text that closes it. -/
structure Column where
  /-- Number of digits. -/
  width : Nat
  /-- Separator after the digits. -/
  suffix : List Char

/-- Text of a row of numbers under a list of columns. -/
def render : List Column → List Nat → List Char
  | column :: columns, number :: numbers =>
      pad column.width number ++ (column.suffix ++ render columns numbers)
  | _, _ => []

/-- The numbers found at the places where the columns hold their digits. -/
def read : List Column → List Char → List Nat
  | [], _ => []
  | column :: columns, text =>
      value (text.take column.width) ::
        read columns (text.drop (column.width + column.suffix.length))

/-- Every number fits the width of its column, and there is one number for each column. -/
def Fits (columns : List Column) (numbers : List Nat) : Prop :=
  List.Forall₂ (fun column number => number < 10 ^ column.width) columns numbers

@[simp] theorem pad_length (width number : Nat) : (pad width number).length = width := by
  induction width generalizing number with
  | zero => rfl
  | succ width induction => simp [pad, induction]

theorem digit_toNat (number : Nat) : (digit number).toNat = 48 + number % 10 := by
  have bound : number % 10 < 10 := Nat.mod_lt _ (by norm_num)
  unfold digit
  interval_cases number % 10 <;> rfl

theorem digitValue_digit (number : Nat) : digitValue (digit number) = number % 10 := by
  rw [digitValue, digit_toNat]
  omega

theorem digit_lt_digit {left right : Nat} (less : left % 10 < right % 10) :
    digit left < digit right := by
  have values : (digit left).toNat < (digit right).toNat := by
    rw [digit_toNat, digit_toNat]
    omega
  exact values

/-- Texts with equally long fronts compare by their fronts, then by their tails. -/
theorem append_lt_append {left right leftTail rightTail : List Char}
    (lengths : left.length = right.length)
    (less : left < right ∨ (left = right ∧ leftTail < rightTail)) :
    left ++ leftTail < right ++ rightTail := by
  induction left generalizing right with
  | nil =>
      have right_nil : right = [] := List.length_eq_zero_iff.mp lengths.symm
      subst right_nil
      simpa using less
  | cons head tail induction =>
      cases right with
      | nil => simp at lengths
      | cons otherHead otherTail =>
          simp only [List.cons_append, List.cons_lt_cons_iff]
          simp only [List.cons_lt_cons_iff, List.cons.injEq] at less
          have tails : tail.length = otherTail.length := by simpa using lengths
          rcases less with (heads | ⟨heads, rest⟩) | ⟨⟨heads, same⟩, rest⟩
          · exact .inl heads
          · exact .inr ⟨heads, induction tails (.inl rest)⟩
          · exact .inr ⟨heads, induction tails (.inr ⟨same, rest⟩)⟩

theorem pad_lt_pad {width left right : Nat} (fits : right < 10 ^ width) (less : left < right) :
    pad width left < pad width right := by
  induction width generalizing left right with
  | zero => omega
  | succ width induction =>
      have quotient_fits : right / 10 < 10 ^ width := by
        rw [pow_succ] at fits
        omega
      apply append_lt_append (by simp)
      by_cases quotients : left / 10 < right / 10
      · exact .inl (induction quotient_fits quotients)
      · right
        have same : left / 10 = right / 10 := by omega
        refine ⟨by rw [same], ?_⟩
        have digits : digit left < digit right := digit_lt_digit (by omega)
        simpa [List.cons_lt_cons_iff] using digits

/-- Rows compare as texts exactly as they compare as lists of numbers. -/
theorem render_lt_render {columns : List Column} {left right : List Nat}
    (fitsLeft : Fits columns left) (fitsRight : Fits columns right) (less : left < right) :
    render columns left < render columns right := by
  induction fitsLeft generalizing right with
  | nil =>
      cases fitsRight
      exact absurd less (lt_irrefl _)
  | @cons column number columns numbers _ _ induction =>
      cases fitsRight with
      | @cons _ other _ others otherFits othersFit =>
          apply append_lt_append (by simp)
          rcases List.cons_lt_cons_iff.mp less with first | ⟨same, rest⟩
          · exact .inl (pad_lt_pad otherFits first)
          · exact .inr ⟨by rw [same],
              append_lt_append rfl (.inr ⟨rfl, induction othersFit rest⟩)⟩

theorem value_append_digit (front : List Char) (last : Char) :
    value (front ++ [last]) = 10 * value front + digitValue last := by
  simp [value]

/-- Reading a padded numeral back gives the number. -/
theorem value_pad {width number : Nat} (fits : number < 10 ^ width) :
    value (pad width number) = number := by
  induction width generalizing number with
  | zero =>
      have zero : number = 0 := by simpa using fits
      subst zero
      rfl
  | succ width induction =>
      have quotient_fits : number / 10 < 10 ^ width := by
        rw [pow_succ] at fits
        omega
      have front := induction quotient_fits
      rw [pad, value_append_digit, front, digitValue_digit]
      omega

theorem read_render {columns : List Column} {numbers : List Nat} (fits : Fits columns numbers) :
    read columns (render columns numbers) = numbers := by
  induction fits with
  | nil => rfl
  | @cons column number columns numbers first _ induction =>
      have digits : (pad column.width number).length = column.width := pad_length ..
      rw [render, read, ← List.append_assoc]
      congr 1
      · rw [List.append_assoc, List.take_left' digits, value_pad first]
      · rw [List.drop_left' (by simp), induction]

end DecimalText
