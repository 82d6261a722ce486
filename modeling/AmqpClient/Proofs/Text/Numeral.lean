import AmqpClient.Proofs.Text.Trimming
import AmqpClient.Text.Numeral
import Mathlib.Data.List.Induction
import Mathlib.Data.Nat.Digits.Defs

/-!
# The numerals that are read

A numeral is an optional plus sign and at least one decimal digit, and it stands for the value
of its digits. Reading with a limit accepts exactly the numerals up to it, and gives their value.
-/

set_option autoImplicit false

namespace AmqpClient.Text

def decimalValue (digits : List Char) : Nat :=
  Nat.ofDigits 10 (digits.reverse.map digitValue)

inductive IsNumeral : List Char → Nat → Prop where
  | unsigned {digits : List Char} (nonempty : digits ≠ [])
      (decimal : ∀ digit ∈ digits, digit.isDigit = true) : IsNumeral digits (decimalValue digits)
  | signed {digits : List Char} (nonempty : digits ≠ [])
      (decimal : ∀ digit ∈ digits, digit.isDigit = true) :
      IsNumeral ('+' :: digits) (decimalValue digits)

/-- A text holds a numeral and nothing else but blanks around it. -/
def Denotes (text : String) (value : Nat) : Prop :=
  ∃ before numeral after, text.toList = before ++ numeral ++ after ∧
    (∀ char ∈ before, isBlank char = true) ∧ (∀ char ∈ after, isBlank char = true) ∧
    IsNumeral numeral value

/-! ## Digits from the left -/

private theorem decimalValue_concat (digits : List Char) (digit : Char) :
    decimalValue (digits ++ [digit]) = decimalValue digits * 10 + digitValue digit := by
  simp only [decimalValue, List.reverse_append, List.reverse_singleton, List.singleton_append,
    List.map_cons, Nat.ofDigits_cons]
  omega

private theorem decimalValue_le_append (digits later : List Char) :
    decimalValue digits ≤ decimalValue (digits ++ later) := by
  induction later using List.reverseRecOn with
  | nil => rw [List.append_nil]
  | append_singleton later digit ih =>
      rw [← List.append_assoc, decimalValue_concat]
      omega

/-- Digits are taken as long as the value is within the limit, so the value of all of them is. -/
theorem appendDigits_eq_ok_iff {limit result : Nat} (before : List Char) {digits : List Char} :
    appendDigits limit (decimalValue before) digits = .ok result ↔
      (∀ digit ∈ digits, digit.isDigit = true) ∧ result = decimalValue (before ++ digits) ∧
        (digits ≠ [] → result ≤ limit) := by
  induction digits generalizing before with
  | nil =>
      rw [appendDigits, Except.ok.injEq, eq_comm, List.append_nil]
      simp
  | cons digit digits ih =>
      rw [appendDigits]
      by_cases decimal : digit.isDigit = true
      · rw [if_pos decimal, ← decimalValue_concat]
        dsimp only
        have grows := decimalValue_le_append (before ++ [digit]) digits
        by_cases within : decimalValue (before ++ [digit]) ≤ limit
        · rw [if_pos within, ih, List.append_assoc, List.singleton_append, List.forall_mem_cons,
            and_iff_right decimal]
          refine and_congr_right fun _ => and_congr_right fun value => ?_
          refine ⟨fun bounded _ => ?_, fun bounded _ => bounded (List.cons_ne_nil _ _)⟩
          cases digits with
          | nil => exact value ▸ within
          | cons next later => exact bounded (List.cons_ne_nil _ _)
        · rw [if_neg within]
          refine ⟨nofun, fun ⟨_, value, bounded⟩ => ?_⟩
          have atMost := bounded (List.cons_ne_nil _ _)
          rw [List.append_assoc, List.singleton_append, ← value] at grows
          exact absurd (Nat.le_trans grows atMost) within
      · rw [if_neg decimal]
        simp [decimal]

/-! ## Numerals -/

private theorem not_isNumeral_nil (value : Nat) : ¬ IsNumeral [] value := by
  intro numeral
  cases numeral with
  | unsigned nonempty _ => exact nonempty rfl

private theorem isNumeral_plus_iff {digits : List Char} {value : Nat} :
    IsNumeral ('+' :: digits) value ↔
      digits ≠ [] ∧ (∀ digit ∈ digits, digit.isDigit = true) ∧ value = decimalValue digits := by
  constructor
  · intro numeral
    cases numeral with
    | unsigned _ decimal => exact absurd (decimal '+' List.mem_cons_self) (by decide)
    | signed nonempty decimal => exact ⟨nonempty, decimal, rfl⟩
  · rintro ⟨nonempty, decimal, rfl⟩
    exact .signed nonempty decimal

private theorem isNumeral_iff_of_ne_plus {first : Char} {digits : List Char} {value : Nat}
    (other : first ≠ '+') :
    IsNumeral (first :: digits) value ↔
      (∀ digit ∈ first :: digits, digit.isDigit = true) ∧
        value = decimalValue (first :: digits) := by
  constructor
  · intro numeral
    cases numeral with
    | unsigned _ decimal => exact ⟨decimal, rfl⟩
    | signed _ _ => exact absurd rfl other
  · rintro ⟨decimal, rfl⟩
    exact .unsigned (List.cons_ne_nil _ _) decimal

private theorem appendDigits_zero_eq_ok_iff {limit value : Nat} {digits : List Char}
    (nonempty : digits ≠ []) :
    appendDigits limit 0 digits = .ok value ↔
      ((∀ digit ∈ digits, digit.isDigit = true) ∧ value = decimalValue digits) ∧
        value ≤ limit := by
  rw [and_assoc, ← forall_prop_of_true nonempty (q := fun _ => value ≤ limit)]
  exact appendDigits_eq_ok_iff []

private theorem readNumeral_plus {limit : Nat} {digits : List Char} (nonempty : digits ≠ []) :
    readNumeral limit ('+' :: digits) = appendDigits limit 0 digits := by
  cases digits with
  | nil => exact absurd rfl nonempty
  | cons first digits => rfl

private theorem readNumeral_of_ne_plus {limit : Nat} {first : Char} {digits : List Char}
    (other : first ≠ '+') :
    readNumeral limit (first :: digits) = appendDigits limit 0 (first :: digits) := by
  rw [readNumeral]
  · exact nofun
  · exact fun same => other (List.cons.inj same).1
  · exact fun _ same => other (List.cons.inj same).1

/-- A numeral is read exactly if it is within the limit, and as the value of its digits. -/
theorem readNumeral_eq_ok_iff {limit value : Nat} {chars : List Char} :
    readNumeral limit chars = .ok value ↔ IsNumeral chars value ∧ value ≤ limit := by
  cases chars with
  | nil => simp [readNumeral, not_isNumeral_nil]
  | cons first digits =>
      by_cases plus : first = '+'
      · subst plus
        by_cases empty : digits = []
        · subst empty
          simp [readNumeral, isNumeral_plus_iff]
        · rw [readNumeral_plus empty, appendDigits_zero_eq_ok_iff empty, isNumeral_plus_iff,
            and_iff_right empty]
      · rw [readNumeral_of_ne_plus plus, isNumeral_iff_of_ne_plus plus,
          appendDigits_zero_eq_ok_iff (List.cons_ne_nil _ _)]

/-! ## Numerals among blanks -/

private theorem isBlank_of_isDigit {char : Char} (decimal : char.isDigit = true) :
    isBlank char = false := by
  have range : 48 ≤ char.toNat ∧ char.toNat ≤ 57 := by
    simpa [Char.isDigit, UInt32.le_iff_toNat_le] using decimal
  simp only [isBlank, Bool.or_eq_false_iff, Bool.and_eq_false_iff, decide_eq_false_iff_not,
    beq_eq_false_iff_ne]
  omega

private theorem IsNumeral.isBlank_eq_false {chars : List Char} {value : Nat}
    (numeral : IsNumeral chars value) : ∀ char ∈ chars, isBlank char = false := by
  cases numeral with
  | unsigned _ decimal => exact fun char inside => isBlank_of_isDigit (decimal char inside)
  | signed _ decimal =>
      rintro char (_ | ⟨_, inside⟩)
      · rfl
      · exact isBlank_of_isDigit (decimal char inside)

/-- A text denotes what is left of it after trimming. -/
theorem denotes_iff {text : String} {value : Nat} :
    Denotes text value ↔ IsNumeral (trimChars text.toList) value := by
  constructor
  · rintro ⟨before, numeral, after, split, blankBefore, blankAfter, isNumeral⟩
    have solid := isNumeral.isBlank_eq_false
    have isCore : IsCoreOf numeral text.toList :=
      { split := ⟨before, after, split, blankBefore, blankAfter⟩
        head := fun first isFirst => solid first (List.mem_of_mem_head? isFirst)
        last := fun last isLast => solid last (List.mem_of_mem_getLast? isLast) }
    exact trimChars_eq_iff.mpr isCore ▸ isNumeral
  · intro isNumeral
    obtain ⟨before, after, split, blankBefore, blankAfter⟩ := (isCoreOf_trimChars text.toList).split
    exact ⟨before, _, after, split, blankBefore, blankAfter, isNumeral⟩

theorem readNumeral_trimChars_eq_ok_iff {limit value : Nat} {text : String} :
    readNumeral limit (trimChars text.toList) = .ok value ↔ Denotes text value ∧ value ≤ limit := by
  rw [readNumeral_eq_ok_iff, denotes_iff]

theorem Denotes.eq {text : String} {value other : Nat} (denotes : Denotes text value)
    (denotesOther : Denotes text other) : value = other := by
  have read := readNumeral_trimChars_eq_ok_iff.mpr ⟨denotes, Nat.le_add_right value other⟩
  have readOther := readNumeral_trimChars_eq_ok_iff.mpr ⟨denotesOther, Nat.le_add_left other value⟩
  exact Except.ok.inj (read.symm.trans readOther)

end AmqpClient.Text
