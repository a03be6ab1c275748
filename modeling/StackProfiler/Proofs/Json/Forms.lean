import Mathlib.Data.List.Forall2
import StackProfiler.Proofs.Json.Grammar
/-!
# JSON — what trees mean

A form tells which trees stand for a value. There is one for each kind of value
that a text can hold: strings, integers, values that may be null, lists, names, and
the parts of records. A record is an object or an array; both come down to the trees
that are given under each name, and a field looks at these alone.
-/

namespace StackProfiler

namespace Json

/-- Which trees stand for a value of a type. -/
abbrev Form (α : Type) := Tree → α → Prop

namespace Form

variable {α : Type}

/-- **True or false.** -/
inductive Switch : Form Bool
  | boolean (b : Bool) : Switch (.boolean b) b

/-- **A string** that says the text. -/
inductive Text : Form String
  | string {raw : List Char} {text : String} : Says raw text → Text (.string raw) text

/-- **Digits of a natural number**, which `value` takes from the wanted type. -/
inductive Natural (value : α → Nat) : Form α
  | digits {t : List Char} {a : α} : Decimal t (value a) → Natural value (.number t) a

/-- **Digits of an integer.** -/
inductive Signed : Form Int64
  | digits {t : List Char} {n : Int64} : Integral t n.toInt → Signed (.number t) n

/-- **What a function makes** of the value that a tree stands for. -/
inductive Made {β : Type} (f : α → β) (form : Form α) : Form β
  | value {tree : Tree} {a : α} : form tree a → Made f form tree (f a)

/-- **Null**, which stands for no value, or a value. -/
inductive OrNull (form : Form α) : Form (Option α)
  | null : OrNull form .null none
  | value {tree : Tree} {a : α} : form tree a → OrNull form tree (some a)

/-- **An array** of values. -/
inductive ListOf (form : Form α) : Form (List α)
  | array {trees : List Tree} {as : List α} : List.Forall₂ form trees as →
      ListOf form (.array trees) as

/-- **A value by its name**: a string that says the name, or an object with null under
that name and nothing else. -/
inductive Named (name : α → String) : Form α
  | string {raw : List Char} {a : α} : Says raw (name a) → Named name (.string raw) a
  | object {raw : List Char} {a : α} : Says raw (name a) →
      Named name (.object [(raw, .null)]) a

end Form

/-! ## Records -/

/-- **What a record gives under which names.** An object gives its values under what
its keys say, known or not; an array gives its elements under the first of the names. -/
inductive Gives (names : List String) : Tree → List (String × Tree) → Prop
  | object {members : List (List Char × Tree)} {given : List (String × Tree)} :
      List.Forall₂ (fun member part => Says member.1 part.1 ∧ member.2 = part.2) members given →
      Gives names (.object members) given
  | array {trees : List Tree} : trees.length ≤ names.length →
      Gives names (.array trees) (names.zip trees)

/-- The trees given under a name. -/
def under (name : String) (given : List (String × Tree)) : List Tree :=
  given.filterMap fun part => if part.1 = name then some part.2 else none

/-- **A field that has to be given**: it is, once, and stands for the value. -/
def Required {α : Type} (name : String) (form : Form α) (given : List (String × Tree)) (a : α) :
    Prop :=
  ∃ tree, under name given = [tree] ∧ form tree a

/-- **A field that may be left out**: it is given once, or not, and then has its
default. -/
def Optional {α : Type} (name : String) (form : Form α) (default : α)
    (given : List (String × Tree)) (a : α) : Prop :=
  Required name form given a ∨ under name given = [] ∧ a = default

/-- **A field that is given as a value**, once, or not given. -/
def GivenAs {α : Type} (name : String) (form : Form α) (given : List (String × Tree)) :
    Option α → Prop
  | some a => Required name form given a
  | none => under name given = []

@[simp] theorem under_nil (name : String) : under name [] = [] := rfl

theorem under_cons_self (name : String) (tree : Tree) (given : List (String × Tree)) :
    under name ((name, tree) :: given) = tree :: under name given := by
  simp [under]

theorem under_cons_of_ne {name key : String} (h : key ≠ name) (tree : Tree)
    (given : List (String × Tree)) :
    under name ((key, tree) :: given) = under name given := by
  simp [under, h]

theorem under_append (name : String) (given given' : List (String × Tree)) :
    under name (given ++ given') = under name given ++ under name given' :=
  List.filterMap_append

theorem under_eq_nil {name : String} {given : List (String × Tree)}
    (h : ∀ part ∈ given, part.1 ≠ name) : under name given = [] := by
  rw [under, List.filterMap_eq_nil_iff]
  intro part hmem
  rw [if_neg (h part hmem)]

theorem mem_under {name : String} {given : List (String × Tree)} {part : String × Tree}
    (hmem : part ∈ given) (hname : name = part.1) : part.2 ∈ under name given :=
  List.mem_filterMap.2 ⟨part, hmem, if_pos hname.symm⟩

/-- A field that is given has a value made of it, and one that is not has its default. -/
theorem GivenAs.optional {α β : Type} {name : String} {form : Form α} {form' : Form β}
    {given : List (String × Tree)} {a? : Option α} (h : GivenAs name form given a?) (f : α → β)
    (hform : ∀ tree a, form tree a → form' tree (f a)) (default : β) :
    Optional name form' default given ((a?.map f).getD default) := by
  cases a? with
  | none => exact .inr ⟨h, rfl⟩
  | some a =>
    obtain ⟨tree, hunder, htree⟩ := h
    exact .inl ⟨tree, hunder, hform tree a htree⟩

/-- A field looks at what is given under its name alone. -/
theorem Optional.congr {α : Type} {name : String} {form : Form α} {default a : α}
    {given given' : List (String × Tree)} (h : Optional name form default given a)
    (heq : under name given' = under name given) : Optional name form default given' a := by
  rwa [Optional, Required, heq]

end Json

end StackProfiler
