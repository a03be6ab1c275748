import StackProfiler.Proofs.Json.Grammar
/-!
# JSON — white space, words and turns

The parts that all readers share, each tied to what the grammar says of it: the
reader succeeds exactly where the text has the part, and leaves what follows it.
-/

namespace StackProfiler

namespace Json

/-! ## White space and words -/

theorem skipBlank_append {b : List Char} (hb : Blank b) (s : List Char) :
    skipBlank (b ++ s) = skipBlank s :=
  List.dropWhile_append_of_pos hb

theorem skipBlank_cons {c : Char} (h : isBlank c = false) (s : List Char) :
    skipBlank (c :: s) = c :: s := by
  rw [skipBlank, List.dropWhile_cons_of_neg (by simp [h])]

/-- White space in front of a character that is none is all that is skipped. -/
theorem skipBlank_append_cons {b : List Char} {c : Char} (hb : Blank b) (h : isBlank c = false)
    (s : List Char) : skipBlank (b ++ c :: s) = c :: s := by
  rw [skipBlank_append hb, skipBlank_cons h]

/-- White space is skipped, and nothing else. -/
theorem exists_blank (s : List Char) : ∃ b, s = b ++ skipBlank s ∧ Blank b := by
  refine ⟨s.takeWhile isBlank, List.takeWhile_append_dropWhile.symm, ?_⟩
  intro c hmem
  exact List.all_eq_true.1 List.all_takeWhile c hmem

theorem of_skipBlank_eq_cons {s t : List Char} {c : Char} (h : skipBlank s = c :: t) :
    ∃ b, s = b ++ c :: t ∧ Blank b := by
  obtain ⟨b, hs, hb⟩ := exists_blank s
  exact ⟨b, h ▸ hs, hb⟩

/-- Nothing is left exactly of white space. -/
theorem skipBlank_eq_nil_iff {s : List Char} : skipBlank s = [] ↔ Blank s := by
  constructor
  · intro h
    obtain ⟨b, hs, hb⟩ := exists_blank s
    rw [h, List.append_nil] at hs
    exact hs ▸ hb
  · intro h
    rw [← List.append_nil s, skipBlank_append h]
    rfl

theorem afterWord_eq_ok_iff {word s rest : List Char} :
    afterWord word s = .ok rest ↔ s = word ++ rest := by
  fun_induction afterWord word s with
  | case1 s => simp
  | case2 => simp
  | case3 w word s ih => simp [ih]
  | case4 w word c s hne =>
    simp only [List.cons_append, List.cons.injEq, reduceCtorEq, false_iff, not_and]
    rintro rfl
    exact absurd rfl hne

/-! ## Arrays -/

theorem arrayTurn_eq_close_iff {fresh : Bool} {s rest : List Char} :
    arrayTurn fresh s = .ok (.close rest) ↔ ∃ b, s = b ++ ']' :: rest ∧ Blank b := by
  constructor
  · intro h
    unfold arrayTurn at h
    split at h
    · cases h
    · next hskip =>
      cases h
      exact of_skipBlank_eq_cons hskip
    · split at h
      · cases h
      · split at h
        · split at h <;> cases h
        · cases h
  · rintro ⟨b, rfl, hb⟩
    simp [arrayTurn, skipBlank_append_cons hb (show isBlank ']' = false by decide)]

/-- Where an element is next, it follows its lead. -/
theorem exists_lead_of_arrayTurn {fresh : Bool} {s element : List Char}
    (h : arrayTurn fresh s = .ok (.next element)) :
    ∃ lead, s = lead ++ element ∧ Lead fresh lead := by
  unfold arrayTurn at h
  split at h
  · cases h
  · cases h
  · next c rest _ hskip =>
    obtain ⟨b, rfl, hb⟩ := of_skipBlank_eq_cons hskip
    split at h
    · next hfresh =>
      cases h
      exact ⟨b, rfl, hfresh ▸ .first hb⟩
    · next hfresh =>
      split at h
      · next hcomma =>
        split at h
        · cases h
        · cases h
        · cases h
          obtain ⟨b', hrest, hb'⟩ := exists_blank rest
          obtain rfl : fresh = false := by simpa using hfresh
          refine ⟨b ++ ',' :: b', ?_, .later hb hb'⟩
          simp only [List.append_assoc, List.cons_append, ← hrest, hcomma]
      · cases h

/-- Behind its lead the next element is found. -/
theorem arrayTurn_of_lead {fresh : Bool} {lead : List Char} {c : Char} (hlead : Lead fresh lead)
    (hblank : isBlank c = false) (hclose : c ≠ ']') (t : List Char) :
    arrayTurn fresh (lead ++ c :: t) = .ok (.next (c :: t)) := by
  cases hlead with
  | first hb =>
    rw [arrayTurn, skipBlank_append_cons hb hblank]
    split
    · next h => cases h
    · next h => exact absurd (List.cons.inj h).1 hclose
    · next h => rw [if_pos rfl, ← h]
  | later hb hb' =>
    simp [arrayTurn, skipBlank_append_cons hb (show isBlank ',' = false by decide),
      skipBlank_append_cons hb' hblank, hclose]

/-! ## Objects -/

theorem objectTurn_eq_close_iff {fresh : Bool} {s rest : List Char} :
    objectTurn fresh s = .ok (.close rest) ↔ ∃ b, s = b ++ '\x7d' :: rest ∧ Blank b := by
  constructor
  · intro h
    unfold objectTurn at h
    split at h
    · cases h
    · next hskip =>
      cases h
      exact of_skipBlank_eq_cons hskip
    · split at h
      · split at h <;> cases h
      · split at h
        · split at h <;> cases h
        · cases h
  · rintro ⟨b, rfl, hb⟩
    simp [objectTurn, skipBlank_append_cons hb (show isBlank '\x7d' = false by decide)]

/-- A member is next exactly behind a lead and the quote that opens its key. -/
theorem objectTurn_eq_next_iff {fresh : Bool} {s key : List Char} :
    objectTurn fresh s = .ok (.next key) ↔
      ∃ lead, s = lead ++ '"' :: key ∧ Lead fresh lead := by
  constructor
  · intro h
    unfold objectTurn at h
    split at h
    · cases h
    · cases h
    · next c rest _ hskip =>
      obtain ⟨b, rfl, hb⟩ := of_skipBlank_eq_cons hskip
      split at h
      · next hfresh =>
        split at h
        · next hquote =>
          cases h
          exact ⟨b, by rw [hquote], hfresh ▸ .first hb⟩
        · cases h
      · next hfresh =>
        split at h
        · next hcomma =>
          split at h
          · cases h
          · next hskip' =>
            cases h
            obtain ⟨b', rfl, hb'⟩ := of_skipBlank_eq_cons hskip'
            obtain rfl : fresh = false := by simpa using hfresh
            refine ⟨b ++ ',' :: b', ?_, .later hb hb'⟩
            simp only [List.append_assoc, List.cons_append, hcomma]
          · cases h
        · cases h
  · rintro ⟨lead, rfl, hlead⟩
    cases hlead with
    | first hb =>
      simp [objectTurn, skipBlank_append_cons hb (show isBlank '"' = false by decide)]
    | later hb hb' =>
      simp [objectTurn, skipBlank_append_cons hb (show isBlank ',' = false by decide),
        skipBlank_append_cons hb' (show isBlank '"' = false by decide)]

/-- Behind its lead and its quote the next key is found. -/
theorem objectTurn_of_lead {fresh : Bool} {lead : List Char} (hlead : Lead fresh lead)
    (key : List Char) : objectTurn fresh (lead ++ '"' :: key) = .ok (.next key) :=
  objectTurn_eq_next_iff.2 ⟨lead, rfl, hlead⟩

theorem afterColon_eq_ok_iff {s rest : List Char} :
    afterColon s = .ok rest ↔ ∃ b, s = b ++ ':' :: rest ∧ Blank b := by
  constructor
  · intro h
    unfold afterColon at h
    split at h
    · cases h
    · next hskip =>
      cases h
      exact of_skipBlank_eq_cons hskip
    · cases h
  · rintro ⟨b, rfl, hb⟩
    simp [afterColon, skipBlank_append_cons hb (show isBlank ':' = false by decide)]

theorem afterColon_append {b : List Char} (hb : Blank b) (s : List Char) :
    afterColon (b ++ ':' :: s) = .ok s :=
  afterColon_eq_ok_iff.2 ⟨b, rfl, hb⟩

end Json

end StackProfiler
