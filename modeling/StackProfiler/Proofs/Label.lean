import StackProfiler.Label
/-!
# Labels — which lists pass the check

A list of labels passes when every key says something and no two are the same
(`Valid`). The check goes through the list once and remembers the keys it has
seen, so what it says of the rest of a list depends on these. A list that does not
pass is refused for the first of its labels that is at fault (`FirstFault`).
-/

namespace StackProfiler

namespace Label

/-- **Labels that may stand on one sample.** -/
structure Valid (labels : List Label) : Prop where
  named : ∀ label ∈ labels, label.key ≠ ""
  distinct : (labels.map Label.key).Nodup

theorem valid_nil : Valid [] := ⟨by simp, by simp⟩

theorem valid_cons_iff {label : Label} {labels : List Label} :
    Valid (label :: labels) ↔
      label.key ≠ "" ∧ (∀ other ∈ labels, other.key ≠ label.key) ∧ Valid labels := by
  constructor
  · rintro ⟨named, distinct⟩
    rw [List.map_cons, List.nodup_cons] at distinct
    refine ⟨named label List.mem_cons_self, fun other hmem heq => distinct.1 ?_,
      fun other hmem => named other (List.mem_cons_of_mem _ hmem), distinct.2⟩
    exact List.mem_map.2 ⟨other, hmem, heq⟩
  · rintro ⟨hkey, hother, named, distinct⟩
    refine ⟨List.forall_mem_cons.2 ⟨hkey, named⟩, ?_⟩
    rw [List.map_cons, List.nodup_cons]
    refine ⟨fun hmem => ?_, distinct⟩
    obtain ⟨other, hother', heq⟩ := List.mem_map.1 hmem
    exact hother other hother' heq

/-- The rest of a list passes when it would on its own and repeats no key. -/
theorem checkAfter_eq_ok_iff {seen : List String} {labels : List Label} :
    checkAfter seen labels = .ok () ↔
      Valid labels ∧ ∀ label ∈ labels, label.key ∉ seen := by
  induction labels generalizing seen with
  | nil => simp [checkAfter, valid_nil]
  | cons label labels ih =>
    rw [valid_cons_iff, List.forall_mem_cons, checkAfter]
    by_cases hempty : label.key = ""
    · simp [hempty]
    by_cases hseen : label.key ∈ seen
    · simp [hempty, hseen]
    rw [if_neg hempty, if_neg hseen, ih]
    constructor
    · rintro ⟨hvalid, hnew⟩
      refine ⟨⟨hempty, fun other hmem heq => hnew other hmem ?_, hvalid⟩, hseen,
        fun other hmem hother => hnew other hmem (List.mem_cons_of_mem _ hother)⟩
      exact heq ▸ List.mem_cons_self
    · rintro ⟨⟨-, hdistinct, hvalid⟩, -, hnew⟩
      refine ⟨hvalid, fun other hmem hother => ?_⟩
      rcases List.mem_cons.1 hother with heq | hother
      · exact hdistinct other hmem heq
      · exact hnew other hmem hother

/-- **The check accepts the valid lists.** -/
theorem check_eq_ok_iff {labels : List Label} : check labels = .ok () ↔ Valid labels := by
  simp [check, checkAfter_eq_ok_iff]

/-! ## The first fault -/

/-- **What is wrong with a list of labels first**: those in front may stand on one
sample, and with the next they may not. -/
inductive FirstFault : List Label → SampleError → Prop
  /-- The next has no key. -/
  | unnamed {front rest : List Label} {label : Label} : Valid front → label.key = "" →
      FirstFault (front ++ label :: rest) .emptyLabelKey
  /-- The next has the key of one in front. -/
  | repeated {front rest : List Label} {label : Label} : Valid front → label.key ≠ "" →
      label.key ∈ front.map key → FirstFault (front ++ label :: rest) (.duplicateLabelKey label.key)

/-- Behind labels that pass, the check goes on with their keys seen. -/
theorem checkAfter_append {seen : List String} {front : List Label}
    (hfront : checkAfter seen front = .ok ()) (rest : List Label) :
    checkAfter seen (front ++ rest) = checkAfter ((front.map key).reverse ++ seen) rest := by
  induction front generalizing seen with
  | nil => rfl
  | cons label front ih =>
    rw [checkAfter] at hfront
    split at hfront
    · cases hfront
    next hempty =>
    split at hfront
    · cases hfront
    next hseen =>
    rw [List.cons_append, checkAfter, if_neg hempty, if_neg hseen, ih hfront]
    simp

/-- A list that is refused has labels that pass in front of the one it is refused
for. -/
theorem exists_of_checkAfter_eq_error {seen : List String} {labels : List Label}
    {error : SampleError} (h : checkAfter seen labels = .error error) :
    ∃ front label rest, labels = front ++ label :: rest ∧ checkAfter seen front = .ok () ∧
      (label.key = "" ∧ error = .emptyLabelKey ∨
        label.key ≠ "" ∧ (label.key ∈ front.map key ∨ label.key ∈ seen) ∧
          error = .duplicateLabelKey label.key) := by
  induction labels generalizing seen with
  | nil => cases h
  | cons label labels ih =>
    rw [checkAfter] at h
    split at h
    next hempty =>
      cases h
      exact ⟨[], label, labels, rfl, rfl, .inl ⟨hempty, rfl⟩⟩
    next hempty =>
    split at h
    next hseen =>
      cases h
      exact ⟨[], label, labels, rfl, rfl, .inr ⟨hempty, .inr hseen, rfl⟩⟩
    next hseen =>
    obtain ⟨front, next, rest, rfl, hfront, hfault⟩ := ih h
    refine ⟨label :: front, next, rest, rfl, ?_, hfault.imp_right fun hrepeated => ?_⟩
    · rw [checkAfter, if_neg hempty, if_neg hseen, hfront]
    · obtain ⟨hnamed, hkey, herror⟩ := hrepeated
      refine ⟨hnamed, ?_, herror⟩
      rw [List.mem_cons] at hkey
      rwa [List.map_cons, List.mem_cons, or_assoc, or_left_comm]

/-- **The check refuses a list for its first fault.** -/
theorem check_eq_error_iff {labels : List Label} {error : SampleError} :
    check labels = .error error ↔ FirstFault labels error := by
  constructor
  · intro h
    obtain ⟨front, label, rest, rfl, hfront, hfault⟩ := exists_of_checkAfter_eq_error h
    have hvalid : Valid front := check_eq_ok_iff.1 hfront
    rcases hfault with ⟨hempty, rfl⟩ | ⟨hnamed, hkey, rfl⟩
    · exact .unnamed hvalid hempty
    · exact .repeated hvalid hnamed (hkey.resolve_right (List.not_mem_nil))
  · rintro (⟨hvalid, hempty⟩ | ⟨hvalid, hnamed, hkey⟩)
    · rw [check, checkAfter_append (check_eq_ok_iff.2 hvalid), checkAfter, if_pos hempty]
    · rw [check, checkAfter_append (check_eq_ok_iff.2 hvalid), checkAfter, if_neg hnamed, if_pos]
      simpa using hkey

/-- **A list has a first fault unless it is valid.** -/
theorem exists_firstFault_iff {labels : List Label} :
    (∃ error, FirstFault labels error) ↔ ¬ Valid labels := by
  simp only [← check_eq_error_iff, ← check_eq_ok_iff]
  cases check labels <;> simp

/-! ## Texts and numbers -/

/-- The labels of given texts and numbers, the texts first. -/
def paired (texts : List (String × String)) (numbers : List (String × Int64)) : List Label :=
  texts.map (fun pair => str pair.1 pair.2) ++ numbers.map fun pair => num pair.1 pair.2

/-- The label set of texts and numbers is made of all of them, or it is refused as
the check refuses them. -/
theorem ofPairs_eq (texts : List (String × String)) (numbers : List (String × Int64)) :
    ofPairs texts numbers = (check (paired texts numbers)).map fun _ => paired texts numbers := by
  cases hcheck : check (paired texts numbers) <;>
    simp only [ofPairs, bind, Except.bind, pure, Except.pure, Except.map] <;>
    rw [← paired, hcheck]

end Label

end StackProfiler
