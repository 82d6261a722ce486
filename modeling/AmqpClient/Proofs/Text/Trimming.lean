import AmqpClient.Text.Blank
import Mathlib.Data.List.DropRight

/-!
# What trimming leaves

A trimmed text is what stands between the blanks at the two ends of a text, and neither begins
nor ends with a blank itself. There is only one such text.
-/

set_option autoImplicit false

namespace AmqpClient.Text

/-- Blanks, then the core, then blanks again. The core has no blank at its ends. -/
structure IsCoreOf (core chars : List Char) : Prop where
  split : ∃ before after, chars = before ++ core ++ after ∧
    (∀ char ∈ before, isBlank char = true) ∧ ∀ char ∈ after, isBlank char = true
  head : ∀ first ∈ core.head?, isBlank first = false
  last : ∀ last ∈ core.getLast?, isBlank last = false

private theorem trimChars_eq_rdropWhile (chars : List Char) :
    trimChars chars = (chars.dropWhile isBlank).rdropWhile isBlank := rfl

theorem isCoreOf_trimChars (chars : List Char) : IsCoreOf (trimChars chars) chars := by
  rw [trimChars_eq_rdropWhile]
  refine ⟨⟨chars.takeWhile isBlank, (chars.dropWhile isBlank).rtakeWhile isBlank, ?_, ?_, ?_⟩,
    ?_, ?_⟩
  · rw [List.append_assoc, List.rdropWhile_append_rtakeWhile, List.takeWhile_append_dropWhile]
  · exact fun char => List.mem_takeWhile_imp
  · exact fun char => List.mem_rtakeWhile_imp
  · intro first isFirst
    have begins := List.head?_dropWhile_not isBlank chars
    obtain ⟨after, rest⟩ := List.rdropWhile_prefix isBlank (l := chars.dropWhile isBlank)
    have isHead : (chars.dropWhile isBlank).head? = some first := by
      rw [← rest, List.head?_append, isFirst]
      rfl
    simpa [isHead] using begins
  · intro last isLast
    obtain ⟨nonempty, ends⟩ := List.mem_getLast?_eq_getLast isLast
    simpa [← ends] using List.rdropWhile_last_not isBlank (chars.dropWhile isBlank) nonempty

private theorem rdropWhile_append_blanks {after : List Char} (core : List Char)
    (blanks : ∀ char ∈ after, isBlank char = true) :
    (core ++ after).rdropWhile isBlank = core.rdropWhile isBlank := by
  have reversed : ∀ char ∈ after.reverse, isBlank char = true := fun char inside =>
    blanks char (List.mem_reverse.mp inside)
  rw [List.rdropWhile, List.reverse_append, List.dropWhile_append_of_pos reversed, List.rdropWhile]

/-- Trimming takes away the blanks at both ends and stops there. -/
theorem IsCoreOf.trimChars_eq {core chars : List Char} (isCore : IsCoreOf core chars) :
    trimChars chars = core := by
  obtain ⟨⟨before, after, rfl, blankBefore, blankAfter⟩, head, last⟩ := isCore
  rw [trimChars_eq_rdropWhile, List.append_assoc, List.dropWhile_append_of_pos blankBefore]
  cases core with
  | nil =>
      rw [List.nil_append, List.dropWhile_eq_nil_iff.mpr blankAfter]
      rfl
  | cons first core =>
      have begins : ¬ isBlank first = true := by simp [head first rfl]
      rw [List.cons_append, List.dropWhile_cons_of_neg begins, ← List.cons_append,
        rdropWhile_append_blanks _ blankAfter, List.rdropWhile_eq_self_iff]
      intro nonempty
      simp [last _ (List.getLast?_eq_some_getLast nonempty)]

theorem trimChars_eq_iff {core chars : List Char} : trimChars chars = core ↔ IsCoreOf core chars :=
  ⟨fun trimmed => trimmed ▸ isCoreOf_trimChars chars, IsCoreOf.trimChars_eq⟩

end AmqpClient.Text
