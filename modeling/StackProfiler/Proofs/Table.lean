import StackProfiler.Table
import StackProfiler.Proofs.FirstSeen
/-!
# Tables — what they hold and how they number it

An exact table holds no item twice, and looking an item up gives its position
among the items. Interning keeps a table exact and holds on to every position
given out before: after any items the table holds what it held and the new
ones in order of first appearance (`internAll_items`), and the positions
returned are the positions there (`internAll_positions`).
-/

namespace StackProfiler

namespace Table

variable {α : Type} [BEq α] [Hashable α]

/-- The items as a list. -/
def toList (table : Table α) : List α := table.items.toList

theorem get?_eq (table : Table α) (position : Nat) :
    table.get? position = table.toList[position]? := by
  simp [get?, toList]

theorem size_eq (table : Table α) : table.size = table.toList.length := by
  simp [size, toList]

@[simp]
theorem toList_empty : ({} : Table α).toList = [] := rfl

/-- The empty table is exact. -/
theorem exact_empty [LawfulBEq α] : ({} : Table α).Exact := by
  intro item position
  simp [find?, get?]

namespace Exact

variable {table : Table α}

/-- **No item twice**: the index has one position for it. -/
theorem nodup (h : table.Exact) : table.toList.Nodup := by
  rw [List.nodup_iff_getElem?_ne_getElem?]
  intro i j hij hj heq
  have hi : i < table.toList.length := by omega
  have hfind : ∀ k, table.toList[k]? = some table.toList[i] →
      table.find? table.toList[i] = some k := fun k hk =>
    (h _ k).2 (by rw [get?_eq]; exact hk)
  have h₁ := hfind i (List.getElem?_eq_getElem hi)
  have h₂ := hfind j (by rw [← heq]; exact List.getElem?_eq_getElem hi)
  rw [h₁] at h₂
  have := Option.some.inj h₂
  omega

/-- An item that the table does not hold is not found. -/
theorem find?_of_not_mem (h : table.Exact) {item : α} (hmem : item ∉ table.toList) :
    table.find? item = none := by
  cases hfind : table.find? item with
  | none => rfl
  | some position =>
    rw [h, get?_eq] at hfind
    exact absurd (List.mem_of_getElem? hfind) hmem

variable [LawfulBEq α]

/-- An item of the table is found at its position. -/
theorem find?_of_mem (h : table.Exact) {item : α} (hmem : item ∈ table.toList) :
    table.find? item = some (table.toList.idxOf item) := by
  rw [h, get?_eq]
  exact List.getElem?_idxOf hmem

/-- What is found is an item of the table, at its position. -/
theorem find?_eq_some_iff (h : table.Exact) {item : α} {position : Nat} :
    table.find? item = some position ↔
      item ∈ table.toList ∧ table.toList.idxOf item = position := by
  by_cases hmem : item ∈ table.toList
  · simp [h.find?_of_mem hmem, hmem]
  · simp [h.find?_of_not_mem hmem, hmem]

/-- Several items are all found, or one of them is not in the table. -/
theorem mapM_find?_eq_some_iff (h : table.Exact) {items : List α} {positions : List Nat} :
    items.mapM table.find? = some positions ↔
      (∀ item ∈ items, item ∈ table.toList) ∧ items.map table.toList.idxOf = positions := by
  induction items generalizing positions with
  | nil => simp [eq_comm]
  | cons item items ih =>
    rw [List.mapM_cons, List.forall_mem_cons, List.map_cons]
    by_cases hmem : item ∈ table.toList
    · simp only [h.find?_of_mem hmem, Option.bind_eq_bind, Option.bind_some,
        Option.bind_eq_some_iff, Option.pure_def, Option.some.injEq, ih]
      constructor
      · rintro ⟨rest, ⟨hall, rfl⟩, rfl⟩
        exact ⟨⟨hmem, hall⟩, rfl⟩
      · rintro ⟨⟨-, hall⟩, rfl⟩
        exact ⟨_, ⟨hall, rfl⟩, rfl⟩
    · simp [h.find?_of_not_mem hmem, hmem]

end Exact

/-! ## Interning -/

section Intern

variable [LawfulBEq α] {table : Table α}

/-- A new item is appended, any other changes nothing. -/
theorem Exact.intern_items (h : table.Exact) (item : α) :
    (table.intern item).2.toList = (table.toList ++ [item]).eraseDups := by
  rw [eraseDups_concat, eraseDups_of_nodup h.nodup]
  by_cases hmem : item ∈ table.toList
  · simp only [intern, h.find?_of_mem hmem, if_pos hmem]
  · simp only [intern, h.find?_of_not_mem hmem, if_neg hmem]
    simp [toList]

/-- The position returned is that of the item among the items afterwards. -/
theorem Exact.intern_position (h : table.Exact) (item : α) :
    (table.intern item).1 = (table.intern item).2.toList.idxOf item := by
  by_cases hmem : item ∈ table.toList
  · simp only [intern, h.find?_of_mem hmem]
  · simp only [intern, h.find?_of_not_mem hmem]
    have happ : ({ items := table.items.push item, index := table.index.insert item table.size } :
        Table α).toList = table.toList ++ [item] := by simp [toList]
    rw [happ, List.idxOf_append_of_notMem hmem, size_eq]
    simp

variable [LawfulHashable α]

/-- **Interning keeps a table exact.** -/
theorem Exact.intern (h : table.Exact) (item : α) : (table.intern item).2.Exact := by
  by_cases hmem : item ∈ table.toList
  · simp only [Table.intern, h.find?_of_mem hmem]
    exact h
  · simp only [Table.intern, h.find?_of_not_mem hmem]
    intro other position
    have hget : ({ items := table.items.push item, index := table.index.insert item table.size } :
        Table α).get? position = (table.toList ++ [item])[position]? := by
      simp [get?, toList, ← Array.getElem?_toList]
    rw [hget, find?, Std.HashMap.getElem?_insert, List.getElem?_append, size_eq]
    by_cases heq : item = other
    · subst heq
      simp only [beq_self_eq_true, if_true, Option.some.injEq]
      constructor
      · rintro rfl
        simp
      · intro hpos
        split at hpos
        · exact absurd (List.mem_of_getElem? hpos) hmem
        · have := (List.getElem?_eq_some_iff.1 hpos).1
          simp only [List.length_singleton] at this
          omega
    · rw [if_neg (by simpa using heq)]
      constructor
      · intro hfind
        have hat := (h other position).1 hfind
        rw [get?_eq] at hat
        rw [if_pos (List.getElem?_eq_some_iff.1 hat).1]
        exact hat
      · intro hat
        split at hat
        · exact (h other position).2 (by rw [get?_eq]; exact hat)
        · exact absurd (List.mem_singleton.1 (List.mem_of_getElem? hat)).symm heq

/-- **Interning several items keeps a table exact.** -/
theorem Exact.internAll {table : Table α} (h : table.Exact) (items : List α) :
    (table.internAll items).2.Exact := by
  induction items generalizing table with
  | nil => exact h
  | cons item items ih => exact ih (h.intern item)

/-- **What a table holds**: the items it held and the new ones, in order of
first appearance. -/
theorem Exact.internAll_items {table : Table α} (h : table.Exact) (items : List α) :
    (table.internAll items).2.toList = (table.toList ++ items).eraseDups := by
  induction items generalizing table with
  | nil => simpa [Table.internAll] using (eraseDups_of_nodup h.nodup).symm
  | cons item items ih =>
    change ((table.intern item).2.internAll items).2.toList = _
    rw [ih (h.intern item), h.intern_items, eraseDups_eraseDups_append, List.append_assoc,
      List.singleton_append]

/-- **The positions returned** are those among the items afterwards. -/
theorem Exact.internAll_positions {table : Table α} (h : table.Exact) (items : List α) :
    (table.internAll items).1 = items.map (table.internAll items).2.toList.idxOf := by
  induction items generalizing table with
  | nil => rfl
  | cons item items ih =>
    change (table.intern item).1 :: ((table.intern item).2.internAll items).1 =
      (item :: items).map ((table.intern item).2.internAll items).2.toList.idxOf
    have hexact := h.intern item
    have hmem : item ∈ (table.intern item).2.toList := by
      rw [h.intern_items, List.mem_eraseDups]
      simp
    rw [List.map_cons, ← ih hexact, h.intern_position, hexact.internAll_items,
      idxOf_eraseDups_append hmem, eraseDups_of_nodup hexact.nodup]

end Intern

end Table

end StackProfiler
