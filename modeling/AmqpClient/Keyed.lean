/-!
# Values under text keys

An association list in which each key occurs once, in byte order of the keys.
Insertion replaces; look-up finds what was inserted last.
-/

set_option autoImplicit false

namespace AmqpClient

abbrev Keyed (α : Type) := List (String × α)

namespace Keyed

variable {α : Type}

def insert (key : String) (value : α) : Keyed α → Keyed α
  | [] => [(key, value)]
  | (other, old) :: rest =>
    if key = other then (key, value) :: rest
    else if key < other then (key, value) :: (other, old) :: rest
    else (other, old) :: insert key value rest

def get? (table : Keyed α) (key : String) : Option α :=
  (table.find? fun entry => entry.1 = key).map (·.2)

def keys (table : Keyed α) : List String :=
  table.map (·.1)

/-- A table from entries in any order; the last value of a key stands. -/
def ofList (entries : List (String × α)) : Keyed α :=
  entries.foldl (fun table entry => insert entry.1 entry.2 table) []

theorem get?_insert_self (key : String) (value : α) (table : Keyed α) :
    get? (insert key value table) key = some value := by
  induction table with
  | nil => simp [insert, get?]
  | cons entry rest ih =>
    simp only [insert]
    split
    · simp [get?]
    · split
      · simp [get?]
      · rename_i different _
        have different' : entry.1 ≠ key := fun same => different same.symm
        simpa [get?, different'] using ih

theorem get?_insert_of_ne {key other : String} (different : other ≠ key) (value : α)
    (table : Keyed α) : get? (insert key value table) other = get? table other := by
  have different' : key ≠ other := fun same => different same.symm
  induction table with
  | nil => simp [insert, get?, different']
  | cons entry rest ih =>
    simp only [insert]
    split
    · rename_i same
      have stale : entry.1 ≠ other := fun equal => different (equal ▸ same.symm)
      simp [get?, different', stale]
    · split
      · simp [get?, different']
      · by_cases found : entry.1 = other
        · simp [get?, found]
        · simpa [get?, found] using ih

end Keyed

end AmqpClient
