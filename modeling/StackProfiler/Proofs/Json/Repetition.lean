import StackProfiler.Proofs.Json.Records
/-!
# JSON — fields that are given twice

A record in which a field is given twice is refused for that, as long as nothing else is
wrong with what is given for its fields (`Shape.findsRepeat`); what is given under unknown
names does not matter. The repetition may lie deeper: a field whose own tree is
refused for a repetition passes that on.

The record is read member by member. What carries the induction is that there is
a repetition still to come (`Slots.Repeats`): a member that is read either meets it
or leaves it, if only because its own slot is filled from then on.
-/

namespace StackProfiler

namespace Json

variable {α β : Type}

/-! ## What is given under a name -/

/-- More than one tree is given under the name. -/
def GivenTwice (name : String) (given : List (String × Tree)) : Prop :=
  2 ≤ (under name given).length

/-- Every tree that is given under the name stands for a value. -/
def AllStand (name : String) (form : Form α) (given : List (String × Tree)) : Prop :=
  ∀ tree ∈ under name given, ∃ a, form tree a

/-! ## What becomes of a tree -/

/-- **The reader takes the tree** wherever it stands. -/
def Reader.Accepts (reader : Reader α) (tree : Tree) : Prop :=
  ∀ b t rest, Blank b → Spells tree t → Delimited rest →
    ∃ a, reader.run (b ++ (t ++ rest)) = .ok (a, rest)

/-- **The reader finds a field given twice in the tree**, and nothing wrong before that. -/
def Reader.FindsRepeat (reader : Reader α) (tree : Tree) : Prop :=
  ∀ b t rest, Blank b → Spells tree t → Delimited rest →
    ∃ name, reader.run (b ++ (t ++ rest)) = .error (.mismatch (.duplicateField name))

theorem Reader.Reads.accepts {reader : Reader α} {form : Form α} (h : reader.Reads form)
    {tree : Tree} {a : α} (hform : form tree a) : reader.Accepts tree :=
  fun _ _ _ hb htree hrest => ⟨a, h.complete hb htree hform hrest⟩

theorem Reader.Accepts.map {reader : Reader α} {tree : Tree} (h : reader.Accepts tree)
    (f : α → β) : (reader.map f).Accepts tree := by
  intro b t rest hb htree hrest
  obtain ⟨a, hrun⟩ := h b t rest hb htree hrest
  exact ⟨f a, map_eq_ok_iff.2 ⟨_, hrun, rfl⟩⟩

/-- A tree given under a name is accepted if all of these stand for values. -/
theorem AllStand.accepts {name : String} {form : Form α} {given : List (String × Tree)}
    (h : AllStand name form given) {reader : Reader α} (hreads : reader.Reads form)
    {part : String × Tree} (hmem : part ∈ given) (hname : name = part.1) :
    reader.Accepts part.2 :=
  (h part.2 (mem_under hmem hname)).elim fun _ => hreads.accepts

/-- Not both become of a tree that has a text. -/
theorem Reader.Accepts.not_findsRepeat {reader : Reader α} {tree : Tree} {t : List Char}
    (h : reader.Accepts tree) (htree : Spells tree t) : ¬ reader.FindsRepeat tree := by
  intro hfound
  obtain ⟨a, hrun⟩ := h [] t [] blank_nil htree trivial
  obtain ⟨name, herror⟩ := hfound [] t [] blank_nil htree trivial
  cases hrun.symm.trans herror

/-- Nothing is wrong with the tree given under a name but that it may hold a field twice. -/
def FitsOrRepeats (fields : List Field) (part : String × Tree) : Prop :=
  ∀ field ∈ fields, field.name = part.1 →
    field.reader.Accepts part.2 ∨ field.reader.FindsRepeat part.2

namespace Slots

variable {fields : List Field} {slots : Slots fields} {given : List (String × Tree)}
  {key : String} {tree : Tree} {b b' t rest : List Char}

/-- **A repetition is still to come**: a tree for a slot that is filled, two trees for one field,
or a tree which itself holds a field twice. -/
def Repeats : (fields : List Field) → List (String × Tree) → Slots fields → Prop
  | [], _, _ => False
  | field :: fields, given, (slot, slots) =>
    (slot ≠ none ∧ under field.name given ≠ []) ∨ GivenTwice field.name given ∨
      (∃ tree ∈ under field.name given, field.reader.FindsRepeat tree) ∨
      Repeats fields given slots

theorem not_repeats_nil : ¬ Repeats fields [] slots := by
  induction fields with
  | nil => exact id
  | cons field fields ih =>
    rintro (⟨-, hsome⟩ | htwo | ⟨tree, hmem, -⟩ | hlater)
    · exact hsome (under_nil _)
    · cases htwo
    · cases hmem
    · exact ih hlater

theorem repeats_of_givenTwice {name : String} (hname : name ∈ fields.map Field.name)
    (h : GivenTwice name given) : Repeats fields given slots := by
  induction fields with
  | nil => cases hname
  | cons field fields ih =>
    rcases List.mem_cons.1 hname with rfl | hname
    · exact .inr (.inl h)
    · exact .inr (.inr (.inr (ih hname)))

/-- A tree under a name that no field has is no repetition. -/
theorem repeats_cons_iff_of_notMem (h : key ∉ fields.map Field.name) :
    Repeats fields ((key, tree) :: given) slots ↔ Repeats fields given slots := by
  induction fields with
  | nil => rfl
  | cons field fields ih =>
    obtain ⟨slot, slots⟩ := slots
    rw [List.map_cons, List.mem_cons, not_or] at h
    simp only [Repeats, GivenTwice, under_cons_of_ne h.1, ih h.2]

/-- A tree for a known field is found to repeat something, or it is read and the repetition is
still to come. -/
theorem readField?_repeats (slots : Slots fields) (given : List (String × Tree))
    (hnames : (fields.map Field.name).Nodup) (hkey : key ∈ fields.map Field.name)
    (hfits : FitsOrRepeats fields (key, tree)) (hb : Blank b) (hb' : Blank b')
    (htree : Spells tree t) (hrest : Delimited rest) :
    (∃ name, readField? fields slots key (b ++ ':' :: (b' ++ (t ++ rest))) =
        some (.error (.mismatch (.duplicateField name)))) ∨
      ∃ slots', readField? fields slots key (b ++ ':' :: (b' ++ (t ++ rest))) =
        some (.ok (slots', rest)) ∧
        (Repeats fields ((key, tree) :: given) slots → Repeats fields given slots') := by
  induction fields with
  | nil => cases hkey
  | cons field fields ih =>
    obtain ⟨slot, slots⟩ := slots
    rw [List.map_cons, List.nodup_cons] at hnames
    obtain ⟨hfield, hlater⟩ := List.forall_mem_cons.1 hfits
    rcases Decidable.em (field.name = key) with rfl | hname
    · simp only [readField?, if_true, afterColon_append hb]
      cases slot with
      | some a => exact .inl ⟨field.name, rfl⟩
      | none =>
        rcases hfield rfl with haccepts | hrepeats
        · obtain ⟨a, hrun⟩ := haccepts b' t rest hb' htree hrest
          refine .inr ⟨(some a, slots), by simp only [hrun]; rfl, ?_⟩
          simp only [Repeats, GivenTwice, under_cons_self, repeats_cons_iff_of_notMem hnames.1]
          rintro (⟨hnone, -⟩ | htwo | ⟨other, hmem, hother⟩ | hothers)
          · exact (hnone rfl).elim
          · exact .inl ⟨Option.some_ne_none a,
              List.ne_nil_of_length_pos (Nat.le_of_succ_le_succ htwo)⟩
          -- the tree that is read is not the one with the repetition
          · rcases List.mem_cons.1 hmem with rfl | hmem
            · exact (haccepts.not_findsRepeat htree hother).elim
            · exact .inr (.inr (.inl ⟨other, hmem, hother⟩))
          · exact .inr (.inr (.inr hothers))
        · obtain ⟨name, hrun⟩ := hrepeats b' t rest hb' htree hrest
          exact .inl ⟨name, by simp only [hrun]; rfl⟩
    · have hmem : key ∈ fields.map Field.name :=
        (List.mem_cons.1 hkey).resolve_left (Ne.symm hname)
      rcases ih slots hnames.2 hmem hlater with ⟨name, hread⟩ | ⟨slots', hread, hrepeats⟩
      · exact .inl ⟨name, by simp only [readField?, if_neg hname, hread]; rfl⟩
      · refine .inr ⟨(slot, slots'), by simp only [readField?, if_neg hname, hread]; rfl, ?_⟩
        simp only [Repeats, GivenTwice, under_cons_of_ne (Ne.symm hname)]
        exact Or.imp_right (Or.imp_right (Or.imp_right hrepeats))

/-- A member is found to repeat something, or it is read or skipped and the repetition is still
to come. -/
theorem readMember_repeats (slots : Slots fields) (given : List (String × Tree))
    (hnames : (fields.map Field.name).Nodup)
    (hfits : FitsOrRepeats fields (key, tree)) (hb : Blank b) (hb' : Blank b')
    (htree : Spells tree t) (hrest : Delimited rest) :
    (∃ name, readMember fields slots key (b ++ ':' :: (b' ++ (t ++ rest))) =
        .error (.mismatch (.duplicateField name))) ∨
      ∃ slots', readMember fields slots key (b ++ ':' :: (b' ++ (t ++ rest))) =
        .ok (slots', rest) ∧
        (Repeats fields ((key, tree) :: given) slots → Repeats fields given slots') := by
  rcases Decidable.em (key ∈ fields.map Field.name) with hkey | hkey
  · rcases readField?_repeats slots given hnames hkey hfits hb hb' htree
      hrest with ⟨name, hread⟩ | ⟨slots', hread, hrepeats⟩
    · exact .inl ⟨name, by rw [readMember, hread]⟩
    · exact .inr ⟨slots', by rw [readMember, hread], hrepeats⟩
  · refine .inr ⟨slots, ?_, (repeats_cons_iff_of_notMem hkey).1⟩
    rw [readMember, readField?_eq_none_iff.2 hkey]
    simp only [afterColon_append hb, skipValue_append hb' htree hrest, Except.map]

/-- **Members among which there is a repetition** are refused for it. -/
theorem readMembers_repeats (hnames : (fields.map Field.name).Nodup) {fresh : Bool}
    {members : List (List Char × Tree)} (ht : SpellsMembers fresh members t)
    (hgiven : List.Forall₂ (fun member part => Says member.1 part.1 ∧ member.2 = part.2)
      members given) (hfits : ∀ part ∈ given, FitsOrRepeats fields part)
    (hrepeats : Repeats fields given slots) (rest : List Char) :
    ∃ name, readMembers fields slots fresh (t ++ rest) =
      .error (.mismatch (.duplicateField name)) := by
  induction hgiven generalizing slots fresh t with
  | nil => exact (not_repeats_nil hrepeats).elim
  | @cons member part _ given hpart _ ih =>
    obtain ⟨raw, tree⟩ := member
    obtain ⟨key, _⟩ := part
    obtain ⟨hraw, rfl⟩ := hpart
    rw [List.forall_mem_cons] at hfits
    cases ht with
    | @next _ _ _ _ lead b b' t r hlead _ hb hb' htree hr =>
      have hread := readString_append hraw (b ++ ':' :: (b' ++ (t ++ (r ++ rest))))
      rw [readMembers_eq]
      simp only [List.append_assoc, List.cons_append, objectTurn_of_lead hlead, bind, Except.bind,
        hread]
      rcases readMember_repeats slots given hnames hfits.1 hb hb' htree
        (hr.delimited rest) with ⟨name, hmember⟩ | ⟨slots', hmember, hlater⟩
      · exact ⟨name, by simp only [hmember]⟩
      · simp only [hmember]
        exact ih hr hfits.2 (hlater hrepeats)

/-- The first of the trees repeats something, or the others do. -/
theorem repeats_zip_cons {field : Field} {trees : List Tree}
    (hname : field.name ∉ fields.map Field.name)
    (h : Repeats (field :: fields) (((field :: fields).map Field.name).zip (tree :: trees))
      (empty (field :: fields))) :
    field.reader.FindsRepeat tree ∨
      Repeats fields ((fields.map Field.name).zip trees) (empty fields) := by
  have hrest : under field.name ((fields.map Field.name).zip trees) = [] := by
    refine under_eq_nil fun part hmem heq => hname ?_
    rw [← heq]
    exact (List.of_mem_zip hmem).1
  rw [List.map_cons, List.zip_cons_cons] at h
  simp only [empty, Repeats, GivenTwice, under_cons_self, hrest, repeats_cons_iff_of_notMem hname] at h
  simpa using h

/-- **Elements among which one holds a repetition** are refused for it. -/
theorem readElements_repeats (hnames : (fields.map Field.name).Nodup) {fresh : Bool}
    {trees : List Tree} (ht : SpellsElements fresh trees t)
    (hfits : ∀ part ∈ (fields.map Field.name).zip trees, FitsOrRepeats fields part)
    (hrepeats : Repeats fields ((fields.map Field.name).zip trees) (empty fields))
    (rest : List Char) :
    ∃ name, readElements fields fresh (t ++ rest) = .error (.mismatch (.duplicateField name)) := by
  induction fields generalizing fresh trees t with
  | nil => exact hrepeats.elim
  | cons field fields ih =>
    rw [List.map_cons, List.nodup_cons] at hnames
    cases ht with
    | close =>
      rw [List.zip_nil_right] at hrepeats
      exact (not_repeats_nil hrepeats).elim
    | @next _ tree trees lead t r hlead htree hr =>
      rw [List.map_cons, List.zip_cons_cons, List.forall_mem_cons] at hfits
      have hlater : ∀ part ∈ (fields.map Field.name).zip trees, FitsOrRepeats fields part :=
        fun part hmem => (List.forall_mem_cons.1 (hfits.2 part hmem)).2
      have hdelimited := hr.delimited rest
      have hfield := (List.forall_mem_cons.1 hfits.1).1 rfl
      obtain ⟨c, u, rfl, hc, hclose⟩ := htree.exists_cons
      rw [readElements, List.append_assoc, List.append_assoc, List.cons_append,
        arrayTurn_of_lead hlead hc hclose]
      rcases hfield with haccepts | hfound
      · obtain ⟨a, hrun⟩ := haccepts [] _ _ blank_nil htree hdelimited
        rw [List.nil_append, List.cons_append] at hrun
        have hothers := (repeats_zip_cons hnames.1 hrepeats).resolve_left
          (haccepts.not_findsRepeat htree)
        obtain ⟨name, hread⟩ := ih hnames.2 hr hlater hothers
        exact ⟨name, by simp only [hrun, hread]; rfl⟩
      · obtain ⟨name, hrun⟩ := hfound [] _ _ blank_nil htree hdelimited
        rw [List.nil_append, List.cons_append] at hrun
        exact ⟨name, by simp only [hrun]⟩

end Slots

/-- **A record that gives a field twice is refused for that**, if nothing else is wrong with what
is given for its fields. -/
theorem Shape.findsRepeat {shape : Shape α} {tree : Tree} {given : List (String × Tree)}
    (hnames : (shape.fields.map Field.name).Nodup)
    (hgives : Gives (shape.fields.map Field.name) tree given)
    (hfits : ∀ part ∈ given, FitsOrRepeats shape.fields part)
    (hrepeats : Slots.Repeats shape.fields given (.empty shape.fields)) :
    shape.reader.FindsRepeat tree := by
  intro b t rest hb htree _
  show ∃ name, readRecord shape _ = _
  cases hgives with
  | object hgiven =>
    cases htree with
    | object ht =>
      obtain ⟨name, hread⟩ :=
        Slots.readMembers_repeats hnames ht hgiven hfits hrepeats rest
      rw [List.cons_append, readRecord, skipBlank_append_cons hb (by decide)]
      exact ⟨name, by simp [hread]⟩
  | array hlength =>
    cases htree with
    | array ht =>
      obtain ⟨name, hread⟩ :=
        Slots.readElements_repeats hnames ht hfits hrepeats rest
      rw [List.cons_append, readRecord, skipBlank_append_cons hb (by decide)]
      exact ⟨name, by simp [hread]⟩

end Json

end StackProfiler
