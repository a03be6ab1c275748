import Std.Data.HashMap
/-!
# Tables of distinct items

A table gives every item a number, the position at which the item first came. The index from items back
to numbers is kept beside the items, and `Table.Exact` says that the two are inverse to each other.
-/

namespace StackProfiler

/-- Items in the order in which they first came, with an index of their positions. -/
structure Table (α : Type) [BEq α] [Hashable α] where
  items : Array α := #[]
  index : Std.HashMap α Nat := {}

namespace Table

variable {α : Type} [BEq α] [Hashable α]

/-- How many items the table holds. -/
def size (table : Table α) : Nat := table.items.size

/-- The position of an item, if the table holds it. -/
def find? (table : Table α) (item : α) : Option Nat := table.index[item]?

/-- The item at a position. -/
def get? (table : Table α) (position : Nat) : Option α := table.items[position]?

/-- The position of an item, which the table holds from now on. -/
def intern (table : Table α) (item : α) : Nat × Table α :=
  match table.find? item with
  | some position => (position, table)
  | none => (table.size, ⟨table.items.push item, table.index.insert item table.size⟩)

/-- The positions of several items, one after the other. -/
def internAll (table : Table α) : List α → List Nat × Table α
  | [] => ([], table)
  | item :: items =>
    let (position, table) := table.intern item
    let (positions, table) := table.internAll items
    (position :: positions, table)

/-- **The index is exact**: it gives an item the position at which the table holds it, and none to an
item that the table does not hold. -/
def Exact (table : Table α) : Prop :=
  ∀ item position, table.find? item = some position ↔ table.get? position = some item

end Table

end StackProfiler
