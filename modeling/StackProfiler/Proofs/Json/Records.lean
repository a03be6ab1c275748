import StackProfiler.Json.Record
import StackProfiler.Proofs.Json.Skipping
import StackProfiler.Proofs.Json.Values
/-!
# JSON — readers of records

The reader of a record is exact for the form that its fields make
(`Shape.reads`), if the reader of each field is exact for the form of that
field and no two fields have one name.

A record is read member by member into slots. What carries the induction is what
the slots still take from the members to come (`Slots.Takes`): an empty slot takes the
one tree that is given under its name, and a slot that is filled, or under whose name
nothing is given, stays.
-/

namespace StackProfiler

namespace Json

variable {α : Type}

/-- A form for each field. -/
def Forms : List Field → Type
  | [] => Unit
  | field :: fields => Form field.type × Forms fields

/-- Every field's reader is exact for its form. -/
def ReadsAll : (fields : List Field) → Forms fields → Prop
  | [], _ => True
  | field :: fields, (form, forms) => field.reader.Reads form ∧ ReadsAll fields forms

/-- What is given makes the value of a field: the value that is given, or the one the
field has where none is. -/
def Field.Holds (field : Field) (form : Form field.type) (given : List (String × Tree))
    (a : field.type) : Prop :=
  Required field.name form given a ∨ under field.name given = [] ∧ field.absent = some a

theorem Field.holds_required {name : String} {type : Type} {reader : Reader type}
    {form : Form type} {given : List (String × Tree)} {a : type} :
    (Field.required name reader).Holds form given a ↔ Required name form given a := by
  simp [Field.Holds, Field.required]

theorem Field.holds_optional {name : String} {type : Type} {reader : Reader type}
    {absent : type} {form : Form type} {given : List (String × Tree)} {a : type} :
    (Field.optional name reader absent).Holds form given a ↔
      Optional name form absent given a := by
  simp only [Field.Holds, Field.optional, Optional, Option.some.injEq, @eq_comm _ absent]

/-- **What is given makes the values of all fields.** -/
def Holds : (fields : List Field) → Forms fields → List (String × Tree) → Values fields → Prop
  | [], _, _, _ => True
  | field :: fields, (form, forms), given, (a, values) =>
    field.Holds form given a ∧ Holds fields forms given values

/-- **The trees of a record**, by the forms of its fields. -/
def Shape.form (shape : Shape α) (forms : Forms shape.fields) : Form α := fun tree a =>
  ∃ given values, Gives (shape.fields.map Field.name) tree given ∧
    Holds shape.fields forms given values ∧ shape.build values = a

/-! ## What slots take -/

/-- What a slot holds when it has taken some trees: as before if there are none, and
else the value of the only one, which an empty slot takes. -/
inductive Takes (form : Form α) : List Tree → Option α → Option α → Prop
  | nothing {slot : Option α} : Takes form [] slot slot
  | value {tree : Tree} {a : α} : form tree a → Takes form [tree] none (some a)

/-- **What the slots hold** when each has taken what is given under its name. -/
def Slots.Takes : (fields : List Field) → Forms fields → List (String × Tree) →
    Slots fields → Slots fields → Prop
  | [], _, _, _, _ => True
  | field :: fields, (form, forms), given, (slot, slots), (slot', slots') =>
    Json.Takes form (under field.name given) slot slot' ∧
      Slots.Takes fields forms given slots slots'

theorem takes_nil_iff {form : Form α} {slot slot' : Option α} :
    Takes form [] slot slot' ↔ slot' = slot := by
  constructor
  · rintro ⟨⟩
    rfl
  · rintro rfl
    exact .nothing

/-- A slot that is filled takes nothing more. -/
theorem takes_cons_iff {form : Form α} {tree : Tree} {trees : List Tree}
    {slot slot' : Option α} : Takes form (tree :: trees) slot slot' ↔
      slot = none ∧ ∃ a, form tree a ∧ Takes form trees (some a) slot' := by
  constructor
  · rintro ⟨⟩
    next h => exact ⟨rfl, _, h, .nothing⟩
  · rintro ⟨rfl, a, h, hrest⟩
    cases hrest
    exact .value h

namespace Slots

theorem takes_nil_iff {fields : List Field} {forms : Forms fields} {slots slots' : Slots fields} :
    Takes fields forms [] slots slots' ↔ slots' = slots := by
  induction fields with
  | nil => exact ⟨fun _ => rfl, fun _ => trivial⟩
  | cons field fields ih =>
    obtain ⟨form, forms⟩ := forms
    obtain ⟨slot, slots⟩ := slots
    obtain ⟨slot', slots'⟩ := slots'
    simp only [Takes, under_nil, Json.takes_nil_iff, ih]
    constructor
    · rintro ⟨rfl, rfl⟩
      rfl
    · intro h
      cases h
      exact ⟨rfl, rfl⟩

/-- A tree under a name that no field has changes nothing. -/
theorem takes_cons_iff_of_notMem {fields : List Field} {forms : Forms fields} {key : String}
    {tree : Tree} {given : List (String × Tree)} {slots slots' : Slots fields}
    (h : key ∉ fields.map Field.name) :
    Takes fields forms ((key, tree) :: given) slots slots' ↔
      Takes fields forms given slots slots' := by
  induction fields with
  | nil => rfl
  | cons field fields ih =>
    obtain ⟨form, forms⟩ := forms
    obtain ⟨slot, slots⟩ := slots
    obtain ⟨slot', slots'⟩ := slots'
    rw [List.map_cons, List.mem_cons, not_or] at h
    simp only [Takes, under_cons_of_ne h.1, ih h.2]

theorem values_cons_eq_ok_iff {field : Field} {fields : List Field} {slot : Option field.type}
    {slots : Slots fields} {a : field.type} {values : Values fields} :
    Slots.values (field :: fields) (slot, slots) = .ok (a, values) ↔
      slot.or field.absent = some a ∧ Slots.values fields slots = .ok values := by
  rw [Slots.values]
  cases slot.or field.absent with
  | none => simp
  | some a' =>
    cases Slots.values fields slots with
    | error field => simp [Except.map]
    | ok values' =>
      constructor
      · intro h
        cases h
        exact ⟨rfl, rfl⟩
      · rintro ⟨hvalue, hvalues⟩
        cases hvalue
        cases hvalues
        rfl

/-- The value of a field is the one that an empty slot takes, or the default. -/
theorem exists_slot_iff {field : Field} {form : Form field.type}
    {given : List (String × Tree)} {a : field.type} :
    (∃ slot, Json.Takes form (under field.name given) none slot ∧ slot.or field.absent = some a) ↔
      field.Holds form given a := by
  rw [Field.Holds, Required]
  constructor
  · rintro ⟨slot, htakes, hvalue⟩
    generalize under field.name given = trees at htakes
    cases htakes with
    | nothing => exact .inr ⟨rfl, hvalue⟩
    | @value tree a' hform =>
      obtain rfl : a' = a := Option.some.inj hvalue
      exact .inl ⟨tree, rfl, hform⟩
  · rintro (⟨tree, htrees, hform⟩ | ⟨htrees, habsent⟩)
    · exact ⟨some a, htrees ▸ .value hform, rfl⟩
    · exact ⟨none, htrees ▸ .nothing, habsent⟩

/-- **The values of a record** are those that empty slots make of what is given. -/
theorem exists_takes_iff {fields : List Field} {forms : Forms fields}
    {given : List (String × Tree)} {values : Values fields} :
    (∃ slots, Takes fields forms given (empty fields) slots ∧ slots.values = .ok values) ↔
      Holds fields forms given values := by
  induction fields with
  | nil => exact ⟨fun _ => trivial, fun _ => ⟨(), trivial, rfl⟩⟩
  | cons field fields ih =>
    obtain ⟨form, forms⟩ := forms
    obtain ⟨a, values⟩ := values
    rw [Holds, ← ih, ← exists_slot_iff]
    constructor
    · rintro ⟨⟨slot, slots⟩, ⟨hslot, hslots⟩, hvalues⟩
      obtain ⟨hvalue, hvalues⟩ := values_cons_eq_ok_iff.1 hvalues
      exact ⟨⟨slot, hslot, hvalue⟩, slots, hslots, hvalues⟩
    · rintro ⟨⟨slot, hslot, hvalue⟩, slots, hslots, hvalues⟩
      exact ⟨(slot, slots), ⟨hslot, hslots⟩, values_cons_eq_ok_iff.2 ⟨hvalue, hvalues⟩⟩

/-! ## Members of an object -/

variable {fields : List Field} {forms : Forms fields}

theorem readField?_eq_none_iff {slots : Slots fields} {key : String} {s : List Char} :
    readField? fields slots key s = none ↔ key ∉ fields.map Field.name := by
  induction fields with
  | nil => exact ⟨fun _ => List.not_mem_nil, fun _ => rfl⟩
  | cons field fields ih =>
    obtain ⟨slot, slots⟩ := slots
    simp only [readField?, List.map_cons, List.mem_cons, not_or]
    split
    · next hname => simp [hname]
    · next hname =>
      rw [Option.map_eq_none_iff, ih]
      exact ⟨fun h => ⟨fun heq => hname heq.symm, h⟩, fun h => h.2⟩

/-- The member of a field, once read, is a tree that its slot takes. -/
theorem exists_of_readField? (hreads : ReadsAll fields forms)
    (hnames : (fields.map Field.name).Nodup) {slots slots' : Slots fields} {key : String}
    {s rest : List Char} (h : readField? fields slots key s = some (.ok (slots', rest))) :
    ∃ tree b b' t, s = b ++ ':' :: (b' ++ (t ++ rest)) ∧ Blank b ∧ Blank b' ∧ Spells tree t ∧
      ∀ given final, Takes fields forms given slots' final →
        Takes fields forms ((key, tree) :: given) slots final := by
  induction fields with
  | nil => cases h
  | cons field fields ih =>
    obtain ⟨form, forms⟩ := forms
    obtain ⟨slot, slots⟩ := slots
    obtain ⟨hread, hreads⟩ := hreads
    rw [List.map_cons, List.nodup_cons] at hnames
    simp only [readField?] at h
    split at h
    · next hname =>
      subst hname
      split at h
      · cases h
      · simp only [Option.some.injEq] at h
        split at h
        · cases h
        · next hcolon =>
          obtain ⟨⟨a, r⟩, hrun, heq⟩ := map_eq_ok_iff.1 h
          cases heq
          obtain ⟨b, rfl, hb⟩ := afterColon_eq_ok_iff.1 hcolon
          obtain ⟨tree, b', t, rfl, hb', htree, hform⟩ := hread.sound hrun
          refine ⟨tree, b, b', t, rfl, hb, hb', htree, ?_⟩
          rintro given ⟨slot', final⟩ ⟨hslot, hfinal⟩
          refine ⟨?_, (takes_cons_iff_of_notMem hnames.1).2 hfinal⟩
          rw [under_cons_self]
          exact takes_cons_iff.2 ⟨rfl, a, hform, hslot⟩
    · next hname =>
      obtain ⟨read, hfield, h⟩ := Option.map_eq_some_iff.1 h
      obtain ⟨⟨slots'', r⟩, hok, heq⟩ := map_eq_ok_iff.1 h
      cases heq
      obtain ⟨tree, b, b', t, hs, hb, hb', htree, htakes⟩ := ih hreads hnames.2 (hok ▸ hfield)
      refine ⟨tree, b, b', t, hs, hb, hb', htree, ?_⟩
      rintro given ⟨slot', final⟩ ⟨hslot, hfinal⟩
      refine ⟨?_, htakes given final hfinal⟩
      rwa [under_cons_of_ne (Ne.symm hname)]

/-- A tree that the slot of its key takes is read. -/
theorem readField?_append (hreads : ReadsAll fields forms)
    (hnames : (fields.map Field.name).Nodup) {slots final : Slots fields} {key : String}
    {tree : Tree} {given : List (String × Tree)} {b b' t rest : List Char}
    (hkey : key ∈ fields.map Field.name)
    (h : Takes fields forms ((key, tree) :: given) slots final) (hb : Blank b) (hb' : Blank b')
    (htree : Spells tree t) (hrest : Delimited rest) :
    ∃ slots', readField? fields slots key (b ++ ':' :: (b' ++ (t ++ rest))) =
        some (.ok (slots', rest)) ∧ Takes fields forms given slots' final := by
  induction fields with
  | nil => cases hkey
  | cons field fields ih =>
    obtain ⟨form, forms⟩ := forms
    obtain ⟨slot, slots⟩ := slots
    obtain ⟨slot', final⟩ := final
    obtain ⟨hread, hreads⟩ := hreads
    obtain ⟨hslot, hslots⟩ := h
    rw [List.map_cons, List.nodup_cons] at hnames
    rcases Decidable.em (field.name = key) with rfl | hname
    · rw [under_cons_self] at hslot
      obtain ⟨rfl, a, hform, hslot⟩ := takes_cons_iff.1 hslot
      refine ⟨(some a, slots), ?_, hslot, (takes_cons_iff_of_notMem hnames.1).1 hslots⟩
      simp only [readField?, if_true, afterColon_append hb,
        hread.complete hb' htree hform hrest, Except.map]
    · have hmem : key ∈ fields.map Field.name :=
        (List.mem_cons.1 hkey).resolve_left (Ne.symm hname)
      obtain ⟨slots', hfield, htakes⟩ := ih hreads hnames.2 hmem hslots
      rw [under_cons_of_ne (Ne.symm hname)] at hslot
      refine ⟨(slot, slots'), ?_, hslot, htakes⟩
      simp only [readField?, if_neg hname, hfield]
      rfl

/-- A member, once read, is a tree that the slots take. -/
theorem exists_of_readMember (hreads : ReadsAll fields forms)
    (hnames : (fields.map Field.name).Nodup) {slots slots' : Slots fields} {key : String}
    {s rest : List Char} (h : readMember fields slots key s = .ok (slots', rest)) :
    ∃ tree b b' t, s = b ++ ':' :: (b' ++ (t ++ rest)) ∧ Blank b ∧ Blank b' ∧ Spells tree t ∧
      ∀ given final, Takes fields forms given slots' final →
        Takes fields forms ((key, tree) :: given) slots final := by
  unfold readMember at h
  split at h
  · next hfield => exact exists_of_readField? hreads hnames (h ▸ hfield)
  · next hfield =>
    split at h
    · cases h
    · next hcolon =>
      obtain ⟨r, hskip, heq⟩ := map_eq_ok_iff.1 h
      cases heq
      obtain ⟨b, rfl, hb⟩ := afterColon_eq_ok_iff.1 hcolon
      obtain ⟨tree, b', t, rfl, hb', htree⟩ := exists_of_skipValue hskip
      exact ⟨tree, b, b', t, rfl, hb, hb', htree, fun given final =>
        (takes_cons_iff_of_notMem (readField?_eq_none_iff.1 hfield)).2⟩

/-- A tree that the slots take is read, or skipped where no field has its key. -/
theorem readMember_append (hreads : ReadsAll fields forms)
    (hnames : (fields.map Field.name).Nodup) {slots final : Slots fields} {key : String}
    {tree : Tree} {given : List (String × Tree)} {b b' t rest : List Char}
    (h : Takes fields forms ((key, tree) :: given) slots final) (hb : Blank b) (hb' : Blank b')
    (htree : Spells tree t) (hrest : Delimited rest) :
    ∃ slots', readMember fields slots key (b ++ ':' :: (b' ++ (t ++ rest))) =
        .ok (slots', rest) ∧ Takes fields forms given slots' final := by
  rcases Decidable.em (key ∈ fields.map Field.name) with hkey | hkey
  · obtain ⟨slots', hfield, htakes⟩ := readField?_append hreads hnames hkey h hb hb' htree hrest
    exact ⟨slots', by rw [readMember, hfield], htakes⟩
  · refine ⟨slots, ?_, (takes_cons_iff_of_notMem hkey).1 h⟩
    rw [readMember, readField?_eq_none_iff.2 hkey]
    simp only [afterColon_append hb, skipValue_append hb' htree hrest, Except.map]

/-- The members that are read give what the slots take. -/
theorem exists_of_readMembers (hreads : ReadsAll fields forms)
    (hnames : (fields.map Field.name).Nodup) {slots final : Slots fields} {fresh : Bool}
    {s rest : List Char} (h : readMembers fields slots fresh s = .ok (final, rest)) :
    ∃ members given t, s = t ++ rest ∧ SpellsMembers fresh members t ∧
      List.Forall₂ (fun member part => Says member.1 part.1 ∧ member.2 = part.2) members given ∧
      Takes fields forms given slots final := by
  fun_induction readMembers fields slots fresh s with
  | case1 => cases h
  | case2 _ _ _ _ hturn =>
    cases h
    obtain ⟨b, rfl, hb⟩ := objectTurn_eq_close_iff.1 hturn
    exact ⟨[], [], b ++ ['\x7d'], by simp, .close hb, .nil, takes_nil_iff.2 rfl⟩
  | case3 => cases h
  | case4 => cases h
  | case5 _ _ _ _ hturn name _ htext _ _ hmember _ ih =>
    obtain ⟨members, given, u, rfl, hu, hgiven, htakes⟩ := ih h
    obtain ⟨lead, rfl, hlead⟩ := objectTurn_eq_next_iff.1 hturn
    obtain ⟨raw, rfl, hraw⟩ := readString_eq_ok_iff.1 htext
    obtain ⟨tree, b, b', t, rfl, hb, hb', htree, htakes'⟩ :=
      exists_of_readMember hreads hnames hmember
    exact ⟨(raw, tree) :: members, (name, tree) :: given, _, by simp,
      .next hlead hraw.stringText hb hb' htree hu, .cons ⟨hraw, rfl⟩ hgiven,
      htakes' given final htakes⟩

/-- Members that give what the slots take are read. -/
theorem readMembers_append (hreads : ReadsAll fields forms)
    (hnames : (fields.map Field.name).Nodup) {slots final : Slots fields} {fresh : Bool}
    {members : List (List Char × Tree)} {given : List (String × Tree)} {t rest : List Char}
    (ht : SpellsMembers fresh members t)
    (hgiven : List.Forall₂ (fun member part => Says member.1 part.1 ∧ member.2 = part.2)
      members given) (h : Takes fields forms given slots final) :
    readMembers fields slots fresh (t ++ rest) = .ok (final, rest) := by
  induction hgiven generalizing slots fresh t with
  | nil =>
    cases ht with
    | close hb =>
      rw [readMembers_eq, List.append_assoc, List.singleton_append,
        objectTurn_eq_close_iff.2 ⟨_, rfl, hb⟩, takes_nil_iff.1 h]
      rfl
  | @cons member part _ _ hpart _ ih =>
    obtain ⟨raw, tree⟩ := member
    obtain ⟨key, _⟩ := part
    obtain ⟨hraw, rfl⟩ := hpart
    cases ht with
    | @next _ _ _ _ lead b b' t r hlead _ hb hb' htree hr =>
      obtain ⟨slots', hmember, htakes⟩ :=
        readMember_append hreads hnames h hb hb' htree (hr.delimited rest)
      have hread := readString_append hraw (b ++ ':' :: (b' ++ (t ++ (r ++ rest))))
      rw [readMembers_eq]
      simp only [List.append_assoc, List.cons_append, objectTurn_of_lead hlead, bind, Except.bind,
        hread, hmember, ih hr htakes]

/-! ## Elements of an array -/

/-- The first of the trees is for the first of the fields. -/
theorem takes_zip_cons_iff {field : Field} {form : Form field.type} {trees : List Tree}
    {tree : Tree} {slot : Option field.type} {slots : Slots fields}
    (hname : field.name ∉ fields.map Field.name) :
    Takes (field :: fields) (form, forms)
        (((field :: fields).map Field.name).zip (tree :: trees)) (empty (field :: fields))
        (slot, slots) ↔
      (∃ a, form tree a ∧ slot = some a) ∧
        Takes fields forms ((fields.map Field.name).zip trees) (empty fields) slots := by
  have hrest : under field.name ((fields.map Field.name).zip trees) = [] := by
    refine under_eq_nil fun part hmem heq => hname ?_
    rw [← heq]
    exact (List.of_mem_zip hmem).1
  rw [List.map_cons, List.zip_cons_cons]
  constructor
  · rintro ⟨hslot, hslots⟩
    rw [under_cons_self, hrest] at hslot
    obtain ⟨-, a, hform, hslot⟩ := takes_cons_iff.1 hslot
    exact ⟨⟨a, hform, Json.takes_nil_iff.1 hslot⟩, (takes_cons_iff_of_notMem hname).1 hslots⟩
  · rintro ⟨⟨a, hform, rfl⟩, hslots⟩
    refine ⟨?_, (takes_cons_iff_of_notMem hname).2 hslots⟩
    rw [under_cons_self, hrest]
    exact .value hform

/-- The elements that are read are what the fields take in order. -/
theorem exists_of_readElements (hreads : ReadsAll fields forms)
    (hnames : (fields.map Field.name).Nodup) {slots : Slots fields} {fresh : Bool}
    {s rest : List Char} {count : Nat}
    (h : readElements fields fresh s = .ok (count, slots, rest)) :
    ∃ trees t, s = t ++ rest ∧ SpellsElements fresh trees t ∧ trees.length ≤ fields.length ∧
      Takes fields forms ((fields.map Field.name).zip trees) (empty fields) slots := by
  induction fields generalizing fresh s count with
  | nil =>
    rw [readElements] at h
    split at h
    · cases h
    · next hskip =>
      cases h
      obtain ⟨b, rfl, hb⟩ := of_skipBlank_eq_cons hskip
      exact ⟨[], b ++ [']'], by simp, .close hb, Nat.le_refl _, trivial⟩
    · cases h
  | cons field fields ih =>
    obtain ⟨form, forms⟩ := forms
    obtain ⟨hread, hreads⟩ := hreads
    rw [List.map_cons, List.nodup_cons] at hnames
    rw [readElements] at h
    split at h
    · cases h
    · next hturn =>
      cases h
      obtain ⟨b, rfl, hb⟩ := arrayTurn_eq_close_iff.1 hturn
      exact ⟨[], b ++ [']'], by simp, .close hb, Nat.zero_le _,
        by rw [List.zip_nil_right]; exact takes_nil_iff.2 rfl⟩
    · next hturn =>
      split at h
      · cases h
      · next a rest' hrun =>
        obtain ⟨⟨n, slots', r⟩, hrec, heq⟩ := map_eq_ok_iff.1 h
        cases heq
        obtain ⟨lead, rfl, hlead⟩ := exists_lead_of_arrayTurn hturn
        obtain ⟨tree, b, t, rfl, hb, htree, hform⟩ := hread.sound hrun
        obtain ⟨trees, u, rfl, hu, hlength, htakes⟩ := ih hreads hnames.2 hrec
        exact ⟨tree :: trees, (lead ++ b) ++ (t ++ u), by simp,
          .next (hlead.append_blank hb) htree hu, Nat.succ_le_succ hlength,
          (takes_zip_cons_iff hnames.1).2 ⟨⟨a, hform, rfl⟩, htakes⟩⟩

/-- Elements that the fields take in order are read. -/
theorem readElements_append (hreads : ReadsAll fields forms)
    (hnames : (fields.map Field.name).Nodup) {slots : Slots fields} {fresh : Bool}
    {trees : List Tree} {t rest : List Char} (ht : SpellsElements fresh trees t)
    (hlength : trees.length ≤ fields.length)
    (h : Takes fields forms ((fields.map Field.name).zip trees) (empty fields) slots) :
    readElements fields fresh (t ++ rest) = .ok (trees.length, slots, rest) := by
  induction fields generalizing fresh trees t with
  | nil =>
    obtain rfl := List.length_eq_zero_iff.1 (Nat.le_zero.1 hlength)
    cases ht with
    | close hb =>
      rw [readElements, List.append_assoc, List.singleton_append,
        skipBlank_append_cons hb (by decide)]
      rfl
  | cons field fields ih =>
    obtain ⟨form, forms⟩ := forms
    obtain ⟨hread, hreads⟩ := hreads
    obtain ⟨slot, slots⟩ := slots
    rw [readElements]
    rw [List.map_cons, List.nodup_cons] at hnames
    cases ht with
    | close hb =>
      rw [List.zip_nil_right] at h
      rw [List.append_assoc, List.singleton_append, arrayTurn_eq_close_iff.2 ⟨_, rfl, hb⟩,
        takes_nil_iff.1 h]
      rfl
    | @next _ tree trees lead t r hlead htree hr =>
      obtain ⟨⟨a, hform, rfl⟩, hslots⟩ := (takes_zip_cons_iff hnames.1).1 h
      have hrun := hread.complete blank_nil htree hform (hr.delimited rest)
      have hrec := ih hreads hnames.2 hr (Nat.le_of_succ_le_succ hlength) hslots
      obtain ⟨c, u, rfl, hc, hclose⟩ := htree.exists_cons
      rw [List.nil_append, List.cons_append] at hrun
      rw [List.append_assoc, List.append_assoc, List.cons_append,
        arrayTurn_of_lead hlead hc hclose]
      simp only [hrun, hrec, Except.map, List.length_cons]

end Slots

/-! ## The record -/

section

variable {shape : Shape α} {forms : Forms shape.fields} (hreads : ReadsAll shape.fields forms)
  (hnames : (shape.fields.map Field.name).Nodup)
include hreads hnames

/-- **A record is read up to its closing bracket**, whatever follows that. -/
theorem Shape.run_append {tree : Tree} {b t : List Char} {a : α} (hb : Blank b)
    (htree : Spells tree t) (hform : shape.form forms tree a) (rest : List Char) :
    shape.reader.run (b ++ (t ++ rest)) = .ok (a, rest) := by
  obtain ⟨given, values, hgives, hholds, rfl⟩ := hform
  obtain ⟨slots, htakes, hvalues⟩ := Slots.exists_takes_iff.2 hholds
  show readRecord shape _ = _
  cases hgives with
  | object hgiven =>
    cases htree with
    | object ht =>
      rw [List.cons_append, readRecord, skipBlank_append_cons hb (by decide)]
      simp [Slots.readMembers_append hreads hnames ht hgiven htakes, hvalues]
  | array hlength =>
    cases htree with
    | array ht =>
      rw [List.length_map] at hlength
      rw [List.cons_append, readRecord, skipBlank_append_cons hb (by decide)]
      simp [Slots.readElements_append hreads hnames ht hlength htakes, hvalues]

/-- **The reader of a record is exact**, if those of its fields are and no two fields
have one name. -/
theorem Shape.reads : shape.reader.Reads (shape.form forms) := by
  refine ⟨?_, fun hb htree hform _ => Shape.run_append hreads hnames hb htree hform _⟩
  intro s rest a h
  change readRecord shape s = _ at h
  unfold readRecord at h
  split at h
  · cases h
  next c s hskip =>
  obtain ⟨b, rfl, hb⟩ := of_skipBlank_eq_cons hskip
  split at h
  · next hc =>
    split at h
    · cases h
    · next hread =>
      split at h
      · cases h
      · next values hvalues =>
        cases h
        obtain ⟨trees, t, rfl, ht, hlength, htakes⟩ :=
          Slots.exists_of_readElements hreads hnames hread
        refine ⟨.array trees, b, '[' :: t, by rw [hc]; rfl, hb, .array ht, _, values,
          .array ?_, Slots.exists_takes_iff.1 ⟨_, htakes, hvalues⟩, rfl⟩
        rwa [List.length_map]
  split at h
  · next hc =>
    split at h
    · cases h
    · next hread =>
      split at h
      · cases h
      · next values hvalues =>
        cases h
        obtain ⟨members, given, t, rfl, ht, hgiven, htakes⟩ :=
          Slots.exists_of_readMembers hreads hnames hread
        exact ⟨.object members, b, '\x7b' :: t, by rw [hc]; rfl, hb, .object ht, given,
          values, .object hgiven, Slots.exists_takes_iff.1 ⟨_, htakes, hvalues⟩, rfl⟩
  · cases h

end

end Json

end StackProfiler
