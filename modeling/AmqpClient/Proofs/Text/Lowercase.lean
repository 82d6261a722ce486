import AmqpClient.Text.Lowercase
import Mathlib.Data.List.Basic

/-!
# Lower case stays as it is

What comes out of lower-casing is left alone by lower-casing. The table of mappings has to be
looked at for this, but only run against run: the forms of one run never reach into another.
-/

set_option autoImplicit false

namespace AmqpClient.Text

/-! ## Runs of the table -/

namespace CaseRun

private theorem maps_iff {run : CaseRun} {code : Nat} :
    run.maps code = true ↔
      run.first ≤ code ∧ code ≤ run.last ∧ (code - run.first) % run.step = 0 := by
  simp [maps, and_assoc]

/-- The lower-case form of a run's first code. -/
def lowest (run : CaseRun) : Nat :=
  (run.first + run.shift).toNat

def highest (run : CaseRun) : Nat :=
  (run.last + run.shift).toNat

/-- The forms of a run are characters that lower-casing has no rule of its own for. -/
def IsPlain (run : CaseRun) : Prop :=
  0x61 ≤ run.lowest ∧ run.highest < 0x110000 ∧
    ∀ range ∈ [(0x7B, 0x7F), (0x130, 0x130), (0x3A3, 0x3A3), (0xD800, 0xDFFF)],
      run.highest < range.1 ∨ range.2 < run.lowest

instance (run : CaseRun) : Decidable run.IsPlain :=
  inferInstanceAs (Decidable (_ ∧ _ ∧ _))

/-- The forms of a run lie below another run, above it, or between its steps. -/
def misses (run other : CaseRun) : Bool :=
  Nat.blt run.highest other.first || Nat.blt other.last run.lowest ||
    (run.step == 2 || run.first == run.last) && other.step == 2 &&
      (run.lowest + other.first) % 2 == 1

private theorem IsPlain.not_maps {run other : CaseRun} {code form : Nat} (plain : run.IsPlain)
    (misses : run.misses other = true) (mapped : run.maps code = true)
    (isForm : (form : Int) = code + run.shift) : ¬ other.maps form = true := by
  have low := plain.1
  simp only [CaseRun.misses, lowest, highest, Bool.or_eq_true, Bool.and_eq_true, Nat.blt_eq,
    beq_iff_eq] at low misses
  rw [maps_iff] at mapped ⊢
  obtain ⟨fromFirst, toLast, onStep⟩ := mapped
  rintro ⟨fromFirst', toLast', onStep'⟩
  rcases misses with (below | above) | ⟨⟨even | single, even'⟩, odd⟩
  · omega
  · omega
  · rw [even] at onStep
    rw [even'] at onStep'
    omega
  · rw [even'] at onStep'
    omega

end CaseRun

private theorem isPlain_of_mem_lowercaseRuns : ∀ run ∈ lowercaseRuns, run.IsPlain := by
  decide +kernel

private theorem misses_lowercaseRuns :
    (lowercaseRuns.all fun run => lowercaseRuns.all run.misses) = true := by
  decide +kernel

private theorem misses_of_mem_lowercaseRuns {run other : CaseRun} (listed : run ∈ lowercaseRuns)
    (listed' : other ∈ lowercaseRuns) : run.misses other = true :=
  List.all_eq_true.mp (List.all_eq_true.mp misses_lowercaseRuns run listed) other listed'

/-! ## Characters -/

/-- A character that lower-casing leaves alone, whatever stands around it. -/
structure IsSmall (char : Char) : Prop where
  notSigma : char ≠ 'Σ'
  notDotted : char ≠ 'İ'
  ascii : char.toNat < 0x80 → char.toLower = char
  beyond : ¬ char.toNat < 0x80 → lowerChar char = char

private theorem isCapital_iff {char : Char} :
    (char.val ≥ 'A'.val ∧ char.val ≤ 'Z'.val) ↔ 0x41 ≤ char.toNat ∧ char.toNat ≤ 0x5A := by
  simp [UInt32.le_iff_toNat_le]

theorem toLower_of_notCapital {char : Char}
    (notCapital : ¬ (0x41 ≤ char.toNat ∧ char.toNat ≤ 0x5A)) : char.toLower = char :=
  dif_neg (mt isCapital_iff.mp notCapital)

theorem toNat_toLower_of_capital {char : Char} (capital : 0x41 ≤ char.toNat ∧ char.toNat ≤ 0x5A) :
    char.toLower.toNat = char.toNat + 0x20 := by
  have small : char.toNat + 0x20 < 2 ^ 32 := by omega
  have shifted : char.toLower.val = char.val + 0x20 :=
    congrArg Char.val (dif_pos (isCapital_iff.mpr capital))
  calc char.toLower.toNat = (char.val + 0x20).toNat := congrArg UInt32.toNat shifted
    _ = (char.toNat + 0x20) % 2 ^ 32 := UInt32.toNat_add _ _
    _ = char.toNat + 0x20 := Nat.mod_eq_of_lt small

private theorem isSmall_of_ascii {char : Char} (ascii : char.toNat < 0x80)
    (notCapital : ¬ (0x41 ≤ char.toNat ∧ char.toNat ≤ 0x5A)) : IsSmall char where
  notSigma same := by
    rw [same] at ascii
    exact absurd ascii (by decide)
  notDotted same := by
    rw [same] at ascii
    exact absurd ascii (by decide)
  ascii _ := toLower_of_notCapital notCapital
  beyond beyond := absurd ascii beyond

private theorem isSmall_toLower {char : Char} (ascii : char.toNat < 0x80) :
    IsSmall char.toLower := by
  by_cases capital : 0x41 ≤ char.toNat ∧ char.toNat ≤ 0x5A
  · have lowered := toNat_toLower_of_capital capital
    exact isSmall_of_ascii (by omega) (by omega)
  · rw [toLower_of_notCapital capital]
    exact isSmall_of_ascii ascii capital

private theorem isSmall_of_unmapped {char : Char} (notSigma : char ≠ 'Σ') (notDotted : char ≠ 'İ')
    (beyond : ¬ char.toNat < 0x80)
    (unmapped : lowercaseRuns.find? (·.maps char.toNat) = none) : IsSmall char where
  notSigma := notSigma
  notDotted := notDotted
  ascii ascii := absurd ascii beyond
  beyond _ := by rw [lowerChar, unmapped]

private theorem isSmall_of_maps {run : CaseRun} {code : Nat} (listed : run ∈ lowercaseRuns)
    (maps : run.maps code = true) : IsSmall (Char.ofNat (code + run.shift).toNat) := by
  obtain ⟨fromFirst, toLast, -⟩ := CaseRun.maps_iff.mp maps
  have plain := isPlain_of_mem_lowercaseRuns run listed
  obtain ⟨low, high, notAscii, noDotted, noSigma, noSurrogate, -⟩ := by
    simpa only [CaseRun.IsPlain, CaseRun.lowest, CaseRun.highest, List.forall_mem_cons] using plain
  obtain ⟨form, isForm⟩ : ∃ form : Nat, (form : Int) = code + run.shift :=
    ⟨(code + run.shift).toNat, Int.toNat_of_nonneg (by omega)⟩
  have valid : form.isValidChar := by
    rw [Nat.isValidChar]
    omega
  have coded : (Char.ofNat form).toNat = form := by
    rw [Char.ofNat, dif_pos valid]
    rfl
  have differs {special : Char} (apart : form ≠ special.toNat) : Char.ofNat form ≠ special :=
    fun same => apart (coded.symm.trans (congrArg Char.toNat same))
  have unmapped : lowercaseRuns.find? (·.maps form) = none :=
    List.find?_eq_none.mpr fun other listed' =>
      plain.not_maps (misses_of_mem_lowercaseRuns listed listed') maps isForm
  rw [← isForm, Int.toNat_natCast]
  by_cases ascii : form < 0x80
  · exact isSmall_of_ascii (by omega) (by omega)
  · refine isSmall_of_unmapped (differs ?_) (differs ?_) (by omega) (by rw [coded, unmapped])
    · rw [show 'Σ'.toNat = 0x3A3 from rfl]
      omega
    · rw [show 'İ'.toNat = 0x130 from rfl]
      omega

private theorem isSmall_lowerChar {char : Char} (notSigma : char ≠ 'Σ') (notDotted : char ≠ 'İ')
    (beyond : ¬ char.toNat < 0x80) : IsSmall (lowerChar char) := by
  cases found : lowercaseRuns.find? (·.maps char.toNat) with
  | none =>
      rw [lowerChar, found]
      exact isSmall_of_unmapped notSigma notDotted beyond found
  | some run =>
      have maps : run.maps char.toNat = true := by simpa using List.find?_some found
      rw [lowerChar, found]
      exact isSmall_of_maps (List.mem_of_find?_eq_some found) maps

private theorem isSmall_sigma : IsSmall 'σ' :=
  isSmall_of_unmapped (by decide) (by decide) (by decide) (by decide)

private theorem isSmall_finalSigma : IsSmall 'ς' :=
  isSmall_of_unmapped (by decide) (by decide) (by decide) (by decide)

private theorem isSmall_dot : IsSmall '\u0307' :=
  isSmall_of_unmapped (by decide) (by decide) (by decide) (by decide)

/-! ## Texts -/

private theorem isSmall_of_mem_lowerFrom {before text : List Char} :
    ∀ char ∈ lowerFrom before text, IsSmall char := by
  induction text generalizing before with
  | nil => exact fun _ listed => nomatch listed
  | cons char after ih =>
      rw [lowerFrom]
      refine List.forall_mem_append.mpr ⟨?_, ih⟩
      split
      · split
        · exact List.forall_mem_singleton.mpr isSmall_finalSigma
        · exact List.forall_mem_singleton.mpr isSmall_sigma
      · rename_i notSigma
        split
        · exact List.forall_mem_cons.mpr ⟨isSmall_of_ascii (by decide) (by decide),
            List.forall_mem_singleton.mpr isSmall_dot⟩
        · rename_i notDotted
          split
          · rename_i ascii
            exact List.forall_mem_singleton.mpr (isSmall_toLower ascii)
          · rename_i beyond
            exact List.forall_mem_singleton.mpr (isSmall_lowerChar notSigma notDotted beyond)

private theorem lowerFrom_of_isSmall {before text : List Char}
    (small : ∀ char ∈ text, IsSmall char) :
    lowerFrom before text = text := by
  induction text generalizing before with
  | nil => rfl
  | cons char after ih =>
      obtain ⟨first, later⟩ := List.forall_mem_cons.mp small
      rw [lowerFrom, ih later, if_neg first.notSigma, if_neg first.notDotted]
      split
      · rename_i ascii
        rw [first.ascii ascii, List.singleton_append]
      · rename_i beyond
        rw [first.beyond beyond, List.singleton_append]

/-- Lower-casing leaves alone what is in lower case. -/
theorem lowercase_lowercase (text : String) : lowercase (lowercase text) = lowercase text := by
  rw [lowercase, lowercase, String.toList_ofList, lowerFrom_of_isSmall isSmall_of_mem_lowerFrom]

end AmqpClient.Text
