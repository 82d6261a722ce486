import AmqpClient.Proofs.Text.Lowercase
import AmqpClient.Proofs.Text.Trimming
import Mathlib.Data.List.Forall2

/-!
# Case of ASCII letters, and blanks

Making ASCII capitals small leaves every other character alone, blanks among them. So it does not
matter whether a text is trimmed first or made small first, and both take away nothing but blanks
at the ends and the case of ASCII letters.
-/

set_option autoImplicit false

namespace AmqpClient.Text

/-! ## One character -/

/-- A capital of ASCII and its small letter, or any other character and itself. -/
inductive Lowers : Char → Char → Prop where
  | capital {char small : Char} (between : 0x41 ≤ char.toNat ∧ char.toNat ≤ 0x5A)
      (shifted : small.toNat = char.toNat + 0x20) : Lowers char small
  | other {char : Char} (outside : ¬ (0x41 ≤ char.toNat ∧ char.toNat ≤ 0x5A)) :
      Lowers char char

private theorem toLower_eq_iff {char small : Char} : char.toLower = small ↔ Lowers char small := by
  constructor
  · rintro rfl
    by_cases capital : 0x41 ≤ char.toNat ∧ char.toNat ≤ 0x5A
    · exact .capital capital (toNat_toLower_of_capital capital)
    · rw [toLower_of_notCapital capital]
      exact .other capital
  · intro lowers
    cases lowers with
    | capital between shifted =>
        exact Char.toNat_inj.mp ((toNat_toLower_of_capital between).trans shifted.symm)
    | other outside => exact toLower_of_notCapital outside

private theorem isBlank_of_letter {char : Char}
    (letter : 0x41 ≤ char.toNat ∧ char.toNat ≤ 0x7A) : isBlank char = false := by
  simp only [isBlank, Bool.or_eq_false_iff, Bool.and_eq_false_iff, decide_eq_false_iff_not,
    beq_eq_false_iff_ne]
  omega

private theorem isBlank_toLower (char : Char) : isBlank char.toLower = isBlank char := by
  by_cases capital : 0x41 ≤ char.toNat ∧ char.toNat ≤ 0x5A
  · have lowered := toNat_toLower_of_capital capital
    rw [isBlank_of_letter (by omega), isBlank_of_letter (by omega)]
  · rw [toLower_of_notCapital capital]

/-! ## All characters of a text -/

theorem map_toLower_eq_iff {chars small : List Char} :
    chars.map Char.toLower = small ↔ List.Forall₂ Lowers chars small := by
  rw [← List.forall₂_eq_eq_eq, List.forall₂_map_left_iff]
  simp only [toLower_eq_iff]

private theorem map_toLower_trimChars (chars : List Char) :
    (trimChars chars).map Char.toLower = trimChars (chars.map Char.toLower) := by
  have kept : isBlank ∘ Char.toLower = isBlank := funext isBlank_toLower
  simp only [trimChars, List.dropWhile_map, ← List.map_reverse, kept]

/-- Blanks around a text do not change what is left after trimming. -/
theorem trimChars_surrounded {before after : List Char} (core : List Char)
    (blankBefore : ∀ char ∈ before, isBlank char = true)
    (blankAfter : ∀ char ∈ after, isBlank char = true) :
    trimChars (before ++ core ++ after) = trimChars core := by
  obtain ⟨⟨inner, outer, split, blankInner, blankOuter⟩, head, last⟩ := isCoreOf_trimChars core
  refine trimChars_eq_iff.mpr ⟨⟨before ++ inner, outer ++ after, ?_, ?_, ?_⟩, head, last⟩
  · conv_lhs => rw [split]
    simp only [List.append_assoc]
  · exact List.forall_mem_append.mpr ⟨blankBefore, blankInner⟩
  · exact List.forall_mem_append.mpr ⟨blankOuter, blankAfter⟩

/-- Only blanks are trimmed away without a rest. -/
theorem trimChars_eq_nil_iff {chars : List Char} :
    trimChars chars = [] ↔ ∀ char ∈ chars, isBlank char = true := by
  constructor
  · intro trimmed
    obtain ⟨before, after, split, blankBefore, blankAfter⟩ := (isCoreOf_trimChars chars).split
    rw [split, trimmed, List.append_nil]
    exact List.forall_mem_append.mpr ⟨blankBefore, blankAfter⟩
  · intro blank
    exact trimChars_eq_iff.mpr ⟨⟨chars, [], by simp, blank, nofun⟩, nofun, nofun⟩

/-- What stands between the blanks of two texts is the same but for the case of ASCII letters. -/
def Resembles (text other : String) : Prop :=
  ∃ before core after before' core' after',
    text.toList = before ++ core ++ after ∧ other.toList = before' ++ core' ++ after' ∧
      (∀ char ∈ before ++ after ++ before' ++ after', isBlank char = true) ∧
      List.Forall₂ (fun char char' => ∃ small, Lowers char small ∧ Lowers char' small) core core'

theorem Resembles.trimChars_eq {text other : String} (resembles : Resembles text other) :
    (trimChars text.toList).map Char.toLower = (trimChars other.toList).map Char.toLower := by
  obtain ⟨before, core, after, before', core', after', split, split', blank, alike⟩ := resembles
  simp only [List.forall_mem_append] at blank
  obtain ⟨⟨⟨blankBefore, blankAfter⟩, blankBefore'⟩, blankAfter'⟩ := blank
  have same : core.map Char.toLower = core'.map Char.toLower := by
    rw [← List.forall₂_eq_eq_eq, List.forall₂_map_left_iff, List.forall₂_map_right_iff]
    refine alike.imp fun char char' ⟨small, lowers, lowers'⟩ => ?_
    rw [toLower_eq_iff.mpr lowers, toLower_eq_iff.mpr lowers']
  rw [split, split', trimChars_surrounded core blankBefore blankAfter,
    trimChars_surrounded core' blankBefore' blankAfter', map_toLower_trimChars,
    map_toLower_trimChars, same]

end AmqpClient.Text
