import StackProfiler.Proofs.Json.Cuts
import StackProfiler.Proofs.Json.Records
/-!
# JSON — records that are cut off

A record is written as an object with members for its fields, in their order, of which some
may be left out. Wherever such an object is cut off, its reader finds out that the text
ends (`Shape.misses_writeObject`): each member that is whole goes into a slot that is still
empty, so nothing is wrong before the cut is reached, and what is left out is looked for
only behind the closing bracket.
-/

namespace StackProfiler

namespace Json

variable {α : Type} {p t : List Char} {fields : List Field}

/-! ## What is written for a record -/

/-- **The members that a record is written with**: texts for its fields, in their order. -/
inductive Written : List Field → List (String × List Char) → Prop
  | nil : Written [] []
  | given {field : Field} {fields : List Field} {t : List Char}
      {members : List (String × List Char)} : field.reader.Awaits t → Written fields members →
      Written (field :: fields) ((field.name, t) :: members)
  | leftOut {field : Field} {fields : List Field} {members : List (String × List Char)} :
      Written fields members → Written (field :: fields) members

/-- **The field of a name awaits the text.** -/
inductive FieldAwaits : List Field → String → List Char → Prop
  | here {field : Field} {fields : List Field} {t : List Char} : field.reader.Awaits t →
      FieldAwaits (field :: fields) field.name t
  | there {field : Field} {fields : List Field} {key : String} {t : List Char} :
      field.name ≠ key → FieldAwaits fields key t → FieldAwaits (field :: fields) key t

theorem Written.sublist {members : List (String × List Char)} (h : Written fields members) :
    (members.map Prod.fst).Sublist (fields.map Field.name) := by
  induction h with
  | nil => exact .slnil
  | given _ _ ih => exact ih.cons_cons _
  | leftOut _ ih => exact ih.cons _

/-- Each member is awaited by the field of its name. -/
theorem Written.awaits {members : List (String × List Char)} (h : Written fields members)
    (hnames : (fields.map Field.name).Nodup) :
    ∀ member ∈ members, FieldAwaits fields member.1 member.2 := by
  have hthere : ∀ {field : Field} {fields members}, field.name ∉ fields.map Field.name →
      Written fields members → (∀ member ∈ members, FieldAwaits fields member.1 member.2) →
      ∀ member ∈ members, FieldAwaits (field :: fields) member.1 member.2 := by
    intro field fields members hname hwritten h member hmem
    refine .there (fun heq => hname ?_) (h member hmem)
    exact hwritten.sublist.subset (heq ▸ List.mem_map_of_mem hmem)
  induction h with
  | nil => exact nofun
  | given ht hwritten ih =>
    rw [List.map_cons, List.nodup_cons] at hnames
    exact List.forall_mem_cons.2 ⟨.here ht, hthere hnames.1 hwritten (ih hnames.2)⟩
  | leftOut hwritten ih =>
    rw [List.map_cons, List.nodup_cons] at hnames
    exact hthere hnames.1 hwritten (ih hnames.2)

namespace Slots

/-! ## Members -/

/-- The slot of a name is empty. -/
def EmptyAt : (fields : List Field) → Slots fields → String → Prop
  | [], _, _ => True
  | field :: fields, (slot, slots), key =>
    (field.name = key → slot = none) ∧ EmptyAt fields slots key

theorem emptyAt_empty (fields : List Field) (key : String) : EmptyAt fields (empty fields) key := by
  induction fields with
  | nil => trivial
  | cons field fields ih => exact ⟨fun _ => rfl, ih⟩

/-- A member that is whole fills no slot but its own. -/
theorem readField?_whole {slots : Slots fields} {key : String} {rest : List Char}
    (h : FieldAwaits fields key t) (hempty : EmptyAt fields slots key) (hrest : Delimited rest) :
    ∃ slots', readField? fields slots key (':' :: (t ++ rest)) = some (.ok (slots', rest)) ∧
      ∀ other, other ≠ key → EmptyAt fields slots other → EmptyAt fields slots' other := by
  induction h with
  | @here field fields t ht =>
    obtain ⟨slot, slots⟩ := slots
    obtain rfl : slot = none := hempty.1 rfl
    obtain ⟨a, ha⟩ := ht.whole hrest
    refine ⟨(some a, slots), ?_, fun other hne hother => ⟨fun heq => ?_, hother.2⟩⟩
    · simp [readField?, afterColon, skipBlank_cons, isBlank, ha, Except.map]
    · exact (hne heq.symm).elim
  | there hne _ ih =>
    obtain ⟨slot, slots⟩ := slots
    obtain ⟨slots', hread, hothers⟩ := ih hempty.2
    refine ⟨(slot, slots'), ?_, fun other hother hslots => ⟨hslots.1, hothers other hother hslots.2⟩⟩
    simp only [readField?, if_neg hne, hread]
    rfl

/-- One that is cut off behind its key runs out. -/
theorem readField?_cut {slots : Slots fields} {key : String} (h : FieldAwaits fields key t)
    (hempty : EmptyAt fields slots key) (hcut : Cut p (':' :: t)) :
    ∃ read, readField? fields slots key p = some read ∧ RunsOut read := by
  induction h with
  | @here field fields t ht =>
    obtain ⟨slot, slots⟩ := slots
    obtain rfl : slot = none := hempty.1 rfl
    refine ⟨_, by rw [readField?, if_pos rfl], ?_⟩
    rcases cut_cons_iff.1 hcut with rfl | ⟨q, rfl, hq⟩
    · exact .inl rfl
    · exact (ht.cut hq).map fun a => (some a, slots)
  | there hne _ ih =>
    obtain ⟨slot, slots⟩ := slots
    obtain ⟨read, hread, hruns⟩ := ih hempty.2 hcut
    refine ⟨_, ?_, hruns.map fun slots => (slot, slots)⟩
    simp only [readField?, if_neg hne, hread]
    rfl

theorem readMembers_nil (slots : Slots fields) (fresh : Bool) :
    readMembers fields slots fresh [] = .error .ended := by
  rw [readMembers_eq]
  rfl

/-- A member and what follows it, cut off in the one or the other. -/
theorem readMembers_cut_cons {slots : Slots fields} {fresh : Bool} {lead r : List Char}
    {key : String} (hlead : Lead fresh lead) (halone : objectTurn fresh lead = .error .ended)
    (ht : FieldAwaits fields key t) (hempty : EmptyAt fields slots key) (hr : Delimited r)
    (hrest : ∀ {slots' : Slots fields} {q}, (∀ other, other ≠ key → EmptyAt fields slots other →
      EmptyAt fields slots' other) → Cut q r → readMembers fields slots' false q = .error .ended)
    (hcut : Cut p ((writeString key ++ ':' :: t) ++ r)) :
    readMembers fields slots fresh (lead ++ p) = .error .ended := by
  have htext : (writeString key ++ ':' :: t) ++ r =
      '"' :: ((key.toList.flatMap escapeChar ++ ['"']) ++ ((':' :: t) ++ r)) := by
    simp [writeString_eq]
  rw [htext] at hcut
  rcases cut_cons_iff.1 hcut with rfl | ⟨q, rfl, hq⟩
  · rw [List.append_nil, readMembers_eq, halone]
    rfl
  rw [readMembers_eq, objectTurn_of_lead hlead]
  rcases hq.of_append with hkey | ⟨s, rfl, hs⟩
  · simp [bind, Except.bind, readString_cut (says_flatMap_escapeChar key) hkey]
  -- behind its key the member is whole, or what is left of it is read to its end
  have hmember : readMember fields slots key s = .error .ended ∨
      ∃ slots' r', readMember fields slots key s = .ok (slots', r') ∧
        readMembers fields slots' false r' = .error .ended := by
    rcases hs.of_append with hhere | ⟨q', rfl, hq'⟩
    · obtain ⟨read, hread, hended | ⟨slots', rfl⟩⟩ := readField?_cut ht hempty hhere
      · exact .inl (by rw [readMember, hread, hended])
      · exact .inr ⟨slots', [], by rw [readMember, hread], readMembers_nil slots' false⟩
    · obtain ⟨slots', hread, hothers⟩ := readField?_whole ht hempty (hr.of_cut hq')
      exact .inr ⟨slots', q', by rw [readMember, List.cons_append, hread], hrest hothers hq'⟩
  have hstring : readString ((key.toList.flatMap escapeChar ++ ['"']) ++ s) = .ok (key, s) := by
    rw [List.append_assoc]
    exact readString_append (says_flatMap_escapeChar key) s
  rcases hmember with hended | ⟨slots', r', hread, hended⟩
  · simp only [bind, Except.bind, hstring, hended]
  · simp only [bind, Except.bind, hstring, hread, hended]

/-! ## Objects -/

/-- The text of a member. -/
abbrev memberText (member : String × List Char) : List Char :=
  writeString member.1 ++ ':' :: member.2

theorem delimited_members (members : List (String × List Char)) :
    Delimited ((members.map memberText).flatMap (',' :: ·) ++ ['\x7d']) := by
  cases members with
  | nil => exact .inr (.inr (.inr rfl))
  | cons member members => exact .inr (.inl rfl)

theorem readMembers_cut {slots : Slots fields} {fresh : Bool} {lead : List Char}
    {member : String × List Char} {members : List (String × List Char)} (hlead : Lead fresh lead)
    (halone : objectTurn fresh lead = .error .ended)
    (h : ∀ other ∈ member :: members, FieldAwaits fields other.1 other.2)
    (hkeys : ((member :: members).map Prod.fst).Nodup)
    (hempty : ∀ other ∈ member :: members, EmptyAt fields slots other.1)
    (hcut : Cut p (memberText member ++
      ((members.map memberText).flatMap (',' :: ·) ++ ['\x7d']))) :
    readMembers fields slots fresh (lead ++ p) = .error .ended := by
  induction members generalizing slots fresh lead member p with
  | nil =>
    refine readMembers_cut_cons hlead halone (h member List.mem_cons_self)
      (hempty member List.mem_cons_self) (delimited_members []) (fun _ hq => ?_) hcut
    obtain rfl := cut_singleton_iff.1 hq
    exact readMembers_nil _ false
  | cons next members ih =>
    rw [List.forall_mem_cons] at h hempty
    rw [List.map_cons, List.nodup_cons] at hkeys
    refine readMembers_cut_cons hlead halone h.1 hempty.1 (delimited_members (next :: members))
      (fun hothers hq => ?_) hcut
    rw [List.map_cons, List.flatMap_cons, List.append_assoc, List.cons_append] at hq
    rcases cut_cons_iff.1 hq with rfl | ⟨q', rfl, hq'⟩
    · exact readMembers_nil _ false
    · refine ih lead_comma rfl h.2 hkeys.2 (fun other hmem => ?_) hq'
      exact hothers other.1 (fun heq => hkeys.1 (heq ▸ List.mem_map_of_mem hmem))
        (hempty.2 other hmem)

end Slots

/-- **A record that is cut off anywhere** ends too early. -/
theorem Shape.misses_writeObject {shape : Shape α} {members : List (String × List Char)}
    (h : Written shape.fields members) (hnames : (shape.fields.map Field.name).Nodup) :
    shape.reader.Misses (writeObject members) := by
  intro p hcut
  rw [writeObject, List.cons_append] at hcut
  rcases cut_cons_iff.1 hcut with rfl | ⟨q, rfl, hq⟩
  · rfl
  have hawaits := h.awaits hnames
  have hkeys := hnames.sublist h.sublist
  have hended : Slots.readMembers shape.fields (.empty shape.fields) true q = .error .ended := by
    cases members with
    | nil =>
      obtain rfl := cut_singleton_iff.1 hq
      exact Slots.readMembers_nil _ true
    | cons member members =>
      rw [List.map_cons, joinCommas_cons, List.append_assoc] at hq
      exact Slots.readMembers_cut lead_nil rfl hawaits hkeys
        (fun _ _ => Slots.emptyAt_empty _ _) hq
  show readRecord shape ('\x7b' :: q) = _
  rw [readRecord, skipBlank_cons (by decide)]
  simp [hended]

end Json

end StackProfiler
