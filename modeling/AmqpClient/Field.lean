import AmqpClient.Keyed
import AmqpClient.Text.Utf8

/-!
# Field values

The typed values that header tables and declare arguments carry. Tables hold
each name once, in byte order.
-/

set_option autoImplicit false

namespace AmqpClient

inductive FieldValue where
  | boolean (value : Bool)
  | shortShortInt (value : Int8)
  | shortShortUInt (value : UInt8)
  | shortInt (value : Int16)
  | shortUInt (value : UInt16)
  | longInt (value : Int32)
  | longUInt (value : UInt32)
  | longLongInt (value : Int64)
  | decimal (scale : UInt8) (value : UInt32)
  | shortString (value : String)
  | longString (value : Bytes)
  | list (values : List FieldValue)
  | timestamp (value : UInt64)
  | table (fields : List (String × FieldValue))
  | byteArray (value : Bytes)
  | void
  deriving Repr, Inhabited

abbrev FieldTable := Keyed FieldValue

namespace FieldValue

mutual

def same : FieldValue → FieldValue → Bool
  | .boolean a, .boolean b => a == b
  | .shortShortInt a, .shortShortInt b => a == b
  | .shortShortUInt a, .shortShortUInt b => a == b
  | .shortInt a, .shortInt b => a == b
  | .shortUInt a, .shortUInt b => a == b
  | .longInt a, .longInt b => a == b
  | .longUInt a, .longUInt b => a == b
  | .longLongInt a, .longLongInt b => a == b
  | .decimal a x, .decimal b y => a == b && x == y
  | .shortString a, .shortString b => a == b
  | .longString a, .longString b => a == b
  | .list a, .list b => sameList a b
  | .timestamp a, .timestamp b => a == b
  | .table a, .table b => sameTable a b
  | .byteArray a, .byteArray b => a == b
  | .void, .void => true
  | _, _ => false

def sameList : List FieldValue → List FieldValue → Bool
  | [], [] => true
  | a :: as, b :: bs => same a b && sameList as bs
  | _, _ => false

def sameTable : List (String × FieldValue) → List (String × FieldValue) → Bool
  | [], [] => true
  | (key, a) :: as, (other, b) :: bs => key == other && same a b && sameTable as bs
  | _, _ => false

end

mutual

theorem same_iff : ∀ (left right : FieldValue), same left right = true ↔ left = right
  | .list a, right => by
    cases right <;> simp [same]
    exact sameList_iff a _
  | .table a, right => by
    cases right <;> simp [same]
    exact sameTable_iff a _
  | .boolean _, right => by cases right <;> simp [same]
  | .shortShortInt _, right => by cases right <;> simp [same]
  | .shortShortUInt _, right => by cases right <;> simp [same]
  | .shortInt _, right => by cases right <;> simp [same]
  | .shortUInt _, right => by cases right <;> simp [same]
  | .longInt _, right => by cases right <;> simp [same]
  | .longUInt _, right => by cases right <;> simp [same]
  | .longLongInt _, right => by cases right <;> simp [same]
  | .decimal _ _, right => by cases right <;> simp [same]
  | .shortString _, right => by cases right <;> simp [same]
  | .longString _, right => by cases right <;> simp [same]
  | .timestamp _, right => by cases right <;> simp [same]
  | .byteArray _, right => by cases right <;> simp [same]
  | .void, right => by cases right <;> simp [same]

theorem sameList_iff : ∀ (left right : List FieldValue), sameList left right = true ↔ left = right
  | [], right => by cases right <;> simp [sameList]
  | a :: as, right => by
    cases right with
    | nil => simp [sameList]
    | cons b bs => simp [sameList, same_iff a b, sameList_iff as bs]

theorem sameTable_iff : ∀ (left right : List (String × FieldValue)),
    sameTable left right = true ↔ left = right
  | [], right => by cases right <;> simp [sameTable]
  | (key, a) :: as, right => by
    cases right with
    | nil => simp [sameTable]
    | cons b bs =>
      obtain ⟨other, b⟩ := b
      simp [sameTable, same_iff a b, sameTable_iff as bs]

end

instance : DecidableEq FieldValue := fun left right =>
  decidable_of_iff (same left right = true) (same_iff left right)

end FieldValue

end AmqpClient
