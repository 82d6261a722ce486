import AmqpClient.Proofs.Text.Lowercase
import AmqpClient.Proofs.Text.Utf8
import AmqpClient.Trace
import Mathlib.Data.List.Induction
import Mathlib.Data.List.Nodup

/-!
# What trace headers carry

An entry is written under the lower-case form of its name and looked up under the name as it is
given. Whatever is written in whatever order, the last value of a name stands under its
lower-case form, once, and no other header changes. A name that is not in lower case is not
among those written, so looking it up finds what the headers held under it before, if anything.
-/

set_option autoImplicit false

namespace AmqpClient

namespace Keyed

/-! ## Tables in order -/

variable {α : Type}

/-- Each key stands once, and in order. -/
def IsTable (table : Keyed α) : Prop :=
  (keys table).Pairwise (· < ·)

instance (table : Keyed α) : Decidable (IsTable table) :=
  inferInstanceAs (Decidable ((keys table).Pairwise (· < ·)))

variable {table : Keyed α} {key : String} {value : α}

private theorem mem_keys_insert {name : String} :
    name ∈ keys (insert key value table) ↔ name = key ∨ name ∈ keys table := by
  induction table with
  | nil => simp [insert, keys]
  | cons entry rest ih =>
      simp only [insert]
      split
      · rename_i same
        simp [keys, same]
      · split
        · simp [keys]
        · simp only [keys, List.map_cons, List.mem_cons] at ih ⊢
          rw [ih, or_left_comm]

theorem IsTable.insert (ordered : IsTable table) : IsTable (insert key value table) := by
  induction table with
  | nil => exact List.pairwise_singleton _ _
  | cons entry rest ih =>
      obtain ⟨before, later⟩ := List.pairwise_cons.mp ordered
      simp only [Keyed.insert]
      split
      · rename_i same
        exact List.pairwise_cons.mpr ⟨same ▸ before, later⟩
      · rename_i different
        split
        · rename_i less
          refine List.pairwise_cons.mpr ⟨fun name listed => ?_, ordered⟩
          rcases List.mem_cons.mp listed with rfl | listed
          · exact less
          · exact String.lt_trans less (before name listed)
        · rename_i notLess
          refine List.pairwise_cons.mpr ⟨fun name listed => ?_, ih later⟩
          rcases mem_keys_insert.mp listed with rfl | listed
          · exact Std.lt_of_le_of_ne (String.not_lt.mp notLess) (Ne.symm different)
          · exact before name listed

theorem IsTable.nodup (ordered : IsTable table) : (keys table).Nodup :=
  List.Pairwise.imp String.ne_of_lt ordered

end Keyed

namespace Trace

/-! ## Writing entries -/

/-- The value that was last written under a name. -/
def last? (entries : List (String × String)) (name : String) : Option String :=
  (entries.reverse.find? fun entry => Text.lowercase entry.1 = name).map (·.2)

/-- The names that entries are written under. -/
def names (entries : List (String × String)) : List String :=
  entries.map fun entry => Text.lowercase entry.1

private theorem last?_concat (entries : List (String × String)) (key value name : String) :
    last? (entries ++ [(key, value)]) name =
      if Text.lowercase key = name then some value else last? entries name := by
  by_cases same : Text.lowercase key = name
  · simp [last?, same]
  · simp [last?, same]

private theorem isSome_last?_iff {entries : List (String × String)} {name : String} :
    (last? entries name).isSome = true ↔ name ∈ names entries := by
  simp [last?, names]

private theorem mem_names_concat {entries : List (String × String)} {entry : String × String}
    {name : String} :
    name ∈ names (entries ++ [entry]) ↔ name = Text.lowercase entry.1 ∨ name ∈ names entries := by
  rw [names, List.map_append, List.mem_append, or_comm, List.map_singleton, List.mem_singleton]
  rfl

private theorem inject_concat (entries : List (String × String)) (key value : String)
    (headers : FieldTable) :
    inject (entries ++ [(key, value)]) headers = set key value (inject entries headers) :=
  List.foldl_append

/-- What a name holds after entries were written: what was last written under it, or else what
it held before. -/
theorem getField?_inject (entries : List (String × String)) (headers : FieldTable)
    (name : String) :
    Keyed.get? (inject entries headers) name =
      ((last? entries name).map fun value => .longString (Text.encodeUtf8 value)).or
        (Keyed.get? headers name) := by
  induction entries using List.reverseRecOn with
  | nil => rfl
  | append_singleton entries entry ih =>
      obtain ⟨key, value⟩ := entry
      rw [inject_concat, last?_concat, set]
      split
      · rename_i same
        subst same
        rw [Keyed.get?_insert_self]
        rfl
      · rename_i different
        rw [Keyed.get?_insert_of_ne (Ne.symm different), ih]

private theorem get?_inject (entries : List (String × String)) (headers : FieldTable)
    (name : String) :
    get? (inject entries headers) name = (last? entries name).or (get? headers name) := by
  rw [get?, getField?_inject]
  cases last? entries name with
  | none => rfl
  | some value => exact Text.decodeUtf8?_encodeUtf8 value

private theorem isTable_inject {headers : FieldTable} (ordered : Keyed.IsTable headers)
    (entries : List (String × String)) : Keyed.IsTable (inject entries headers) := by
  induction entries using List.reverseRecOn with
  | nil => exact ordered
  | append_singleton entries entry ih =>
      rw [inject_concat]
      exact ih.insert

private theorem mem_keys_inject {entries : List (String × String)} {headers : FieldTable}
    {name : String} :
    name ∈ keys (inject entries headers) ↔ name ∈ names entries ∨ name ∈ keys headers := by
  induction entries using List.reverseRecOn with
  | nil => simp [inject, names]
  | append_singleton entries entry ih =>
      rw [inject_concat, set, keys, Keyed.mem_keys_insert, ← keys, ih, mem_names_concat, or_assoc]

/-! ## Looking names up -/

/-- A name that is not in lower case is never written under. -/
theorem last?_eq_none_of_mixed {name : String} (mixed : Text.lowercase name ≠ name)
    (entries : List (String × String)) : last? entries name = none := by
  rw [← Option.not_isSome_iff_eq_none, isSome_last?_iff]
  intro written
  obtain ⟨entry, -, rfl⟩ := List.mem_map.mp written
  exact mixed (Text.lowercase_lowercase entry.1)

section

variable {entries : List (String × String)} {entry : String × String} {headers : FieldTable}

private theorem mem_names (written : entry ∈ entries) : Text.lowercase entry.1 ∈ names entries :=
  List.mem_map.mpr ⟨entry, written, rfl⟩

private theorem exists_last?_of_mem (written : entry ∈ entries) :
    ∃ value, last? entries (Text.lowercase entry.1) = some value :=
  Option.isSome_iff_exists.mp (isSome_last?_iff.mpr (mem_names written))

private theorem get?_eq_last?_iff (written : entry ∈ entries) :
    get? (inject entries headers) entry.1 = last? entries (Text.lowercase entry.1) ↔
      Text.lowercase entry.1 = entry.1 ∨
        get? headers entry.1 = last? entries (Text.lowercase entry.1) := by
  obtain ⟨value, last⟩ := exists_last?_of_mem written
  rw [get?_inject]
  by_cases small : Text.lowercase entry.1 = entry.1
  · rw [small] at last ⊢
    simp [last]
  · rw [last?_eq_none_of_mixed small, Option.none_or]
    simp [small]

end

/-- How entries stand in a table of headers once they were written there: the last value of each
under its lower-case form, once, and every other header as it was. -/
structure Carries (entries : List (String × String)) (headers : FieldTable) : Prop where
  last : ∀ entry ∈ entries, ∃ value,
    last? entries (Text.lowercase entry.1) = some value ∧
      get? (inject entries headers) (Text.lowercase entry.1) = some value
  once : ∀ entry ∈ entries, (keys (inject entries headers)).count (Text.lowercase entry.1) = 1
  others : ∀ name, name ∉ names entries →
    Keyed.get? (inject entries headers) name = Keyed.get? headers name

private theorem carries_of_isTable {headers : FieldTable} (ordered : Keyed.IsTable headers)
    (entries : List (String × String)) : Carries entries headers where
  last entry written := by
    obtain ⟨value, last⟩ := exists_last?_of_mem written
    exact ⟨value, last, by rw [get?_inject, last, Option.some_or]⟩
  once entry written := by
    have listed : Text.lowercase entry.1 ∈ keys (inject entries headers) :=
      mem_keys_inject.mpr (.inl (mem_names written))
    exact List.count_eq_one_of_mem (isTable_inject ordered entries).nodup listed
  others name unwritten := by
    rw [← isSome_last?_iff, Option.not_isSome_iff_eq_none] at unwritten
    rw [getField?_inject, unwritten, Option.map_none, Option.none_or]

/-- Every name finds what was last written under it in any casing. -/
def ReadsBack (entries : List (String × String)) (headers : FieldTable) : Prop :=
  ∀ entry ∈ entries,
    get? (inject entries headers) entry.1 = last? entries (Text.lowercase entry.1)

/-- Headers carry whatever entries are written there, but each under its lower-case form: the
names that were written find their values exactly if they are in lower case, or if the headers
happened to hold the same text under them before. -/
theorem readsBack_iff {headers : FieldTable} (ordered : Keyed.IsTable headers)
    (entries : List (String × String)) :
    Carries entries headers ∧
      (ReadsBack entries headers ↔
        ∀ entry ∈ entries, Text.lowercase entry.1 = entry.1 ∨
          get? headers entry.1 = last? entries (Text.lowercase entry.1)) :=
  ⟨carries_of_isTable ordered entries,
    forall₂_congr fun _ written => get?_eq_last?_iff written⟩

/-- A name in lower case and one that is not, next to a header of another type. -/
theorem readsBack_iff_mixed :
    let headers : FieldTable := [("retries", .longInt 3)]
    let entries := [("TraceParent", "00-abc-def-01"), ("tracestate", "vendor=1")]
    Keyed.IsTable headers ∧ Carries entries headers ∧ ¬ ReadsBack entries headers ∧
      ReadsBack entries.tail headers := by
  intro headers entries
  have ordered : Keyed.IsTable headers := by decide
  have mixed : Text.lowercase "TraceParent" = "traceparent" := rfl
  have small : Text.lowercase "tracestate" = "tracestate" := rfl
  have both := readsBack_iff ordered entries
  refine ⟨ordered, both.1, fun readsBack => ?_, ?_⟩
  · have found := both.2.mp readsBack _ List.mem_cons_self
    rw [mixed] at found
    revert found
    decide
  · refine (readsBack_iff ordered _).2.mpr fun entry written => ?_
    rw [List.mem_singleton.mp written]
    exact .inl small

/-- A name written with capitals is not found again. -/
theorem capitals_not_found :
    get? (inject [("TRACEPARENT", "00-abc-def-01")] []) "TRACEPARENT" = none ∧
      ¬ ReadsBack [("TRACEPARENT", "00-abc-def-01")] [] := by
  have lowered : Text.lowercase "TRACEPARENT" = "traceparent" := rfl
  have unfound : get? (inject [("TRACEPARENT", "00-abc-def-01")] []) "TRACEPARENT" = none := by
    rw [get?_inject, last?_eq_none_of_mixed (by rw [lowered]; decide)]
    rfl
  refine ⟨unfound, fun readsBack => ?_⟩
  have written := List.mem_singleton_self ("TRACEPARENT", "00-abc-def-01")
  obtain ⟨value, last⟩ := exists_last?_of_mem written
  have found := readsBack _ written
  rw [unfound, last] at found
  cases found

end Trace

end AmqpClient
