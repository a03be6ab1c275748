import StackProfiler.Json.Skip
import StackProfiler.Proofs.Json.Numbers
import StackProfiler.Proofs.Json.Strings
/-!
# JSON — values that are skipped

A value nobody wants is skipped exactly where the text spells a tree, whatever the
tree. The stack of open brackets is read as the text it still demands (`Closes`): a
step of the loop takes a part from the front of that text.
-/

namespace StackProfiler

namespace Json

/-- The character that opens a bracket. -/
def Bracket.opening : Bracket → Char
  | .array => '['
  | .object => '\x7b'

/-- What stands between two brackets, with the closing one. -/
def Bracket.Parts (bracket : Bracket) (fresh : Bool) (t : List Char) : Prop :=
  match bracket with
  | .array => ∃ trees, SpellsElements fresh trees t
  | .object => ∃ members, SpellsMembers fresh members t

/-- **What the open brackets still demand**, the innermost first. -/
inductive Closes : List Bracket → Bool → List Char → Prop
  | done {fresh : Bool} : Closes [] fresh []
  | bracket {bracket : Bracket} {outer : List Bracket} {fresh : Bool} {t r : List Char} :
      bracket.Parts fresh t → Closes outer false r → Closes (bracket :: outer) fresh (t ++ r)

/-! ## What is skipped is JSON -/

/-- Between its brackets a text spells a tree. -/
theorem Bracket.exists_spells {bracket : Bracket} {t : List Char} (h : bracket.Parts true t) :
    ∃ tree, Spells tree (bracket.opening :: t) := by
  cases bracket with
  | array =>
    obtain ⟨trees, h⟩ := h
    exact ⟨.array trees, .array h⟩
  | object =>
    obtain ⟨members, h⟩ := h
    exact ⟨.object members, .object h⟩

/-- A bracket that closes ends the parts. -/
theorem Bracket.parts_of_close {bracket : Bracket} {fresh : Bool} {s rest : List Char}
    (h : bracket.turn fresh s = .ok (.close rest)) :
    ∃ t, s = t ++ rest ∧ bracket.Parts fresh t := by
  cases bracket with
  | array =>
    obtain ⟨b, rfl, hb⟩ := arrayTurn_eq_close_iff.1 h
    exact ⟨b ++ [']'], by simp, [], .close hb⟩
  | object =>
    obtain ⟨b, rfl, hb⟩ := objectTurn_eq_close_iff.1 h
    exact ⟨b ++ ['\x7d'], by simp, [], .close hb⟩

/-- One part more: its key if it has one, its value, and the parts behind it. -/
theorem Bracket.parts_of_next {bracket : Bracket} {fresh : Bool} {tree : Tree}
    {s part b t r rest : List Char} (hturn : bracket.turn fresh s = .ok (.next part))
    (hkey : bracket.skipKey part = .ok (b ++ (t ++ (r ++ rest)))) (hb : Blank b)
    (htree : Spells tree t) (hparts : bracket.Parts false r) :
    ∃ u, s = u ++ rest ∧ bracket.Parts fresh u := by
  cases bracket with
  | array =>
    obtain ⟨trees, hparts⟩ := hparts
    obtain ⟨lead, rfl, hlead⟩ := exists_lead_of_arrayTurn hturn
    obtain rfl := Except.ok.inj hkey
    exact ⟨(lead ++ b) ++ (t ++ r), by simp, tree :: trees,
      .next (hlead.append_blank hb) htree hparts⟩
  | object =>
    obtain ⟨members, hparts⟩ := hparts
    obtain ⟨lead, rfl, hlead⟩ := objectTurn_eq_next_iff.1 hturn
    simp only [Bracket.skipKey] at hkey
    split at hkey
    · cases hkey
    · next hchars =>
      obtain ⟨raw, rfl, hraw⟩ := skipChars_eq_ok_iff.1 hchars
      obtain ⟨b', rfl, hb'⟩ := afterColon_eq_ok_iff.1 hkey
      exact ⟨lead ++ '"' :: (raw ++ '"' :: (b' ++ ':' :: (b ++ (t ++ r)))), by simp,
        (raw, tree) :: members, .next hlead hraw hb' hb htree hparts⟩

/-- A value that has no parts is skipped at once. -/
theorem exists_of_skipHead_none {s rest : List Char} (h : skipHead s = .ok (none, rest)) :
    ∃ tree b t, s = b ++ (t ++ rest) ∧ Blank b ∧ Spells tree t := by
  unfold skipHead at h
  split at h
  · cases h
  · next c s hskip =>
    obtain ⟨b, rfl, hb⟩ := of_skipBlank_eq_cons hskip
    suffices hvalue : ∃ tree t, c :: s = t ++ rest ∧ Spells tree t by
      obtain ⟨tree, t, hs, htree⟩ := hvalue
      exact ⟨tree, b, t, by rw [hs], hb, htree⟩
    split at h
    · cases h
    split at h
    · cases h
    obtain ⟨r, hread, heq⟩ := map_eq_ok_iff.1 h
    cases heq
    split at hread
    · next hc => exact ⟨.null, _, by rw [hc, afterWord_eq_ok_iff.1 hread]; rfl, .null⟩
    split at hread
    · next hc => exact ⟨.boolean true, _, by rw [hc, afterWord_eq_ok_iff.1 hread]; rfl, .yes⟩
    split at hread
    · next hc => exact ⟨.boolean false, _, by rw [hc, afterWord_eq_ok_iff.1 hread]; rfl, .no⟩
    split at hread
    · next hc =>
      obtain ⟨raw, rfl, hraw⟩ := skipChars_eq_ok_iff.1 hread
      exact ⟨.string raw, _, by rw [hc]; simp, .string hraw⟩
    split at hread
    · next hc =>
      obtain ⟨t, rfl, ht⟩ := exists_of_skipNumber hread
      exact ⟨.number ('-' :: t), _, by rw [hc]; rfl, .number (.negative ht)⟩
    split at hread
    · obtain ⟨t, hs, ht⟩ := exists_of_skipNumber hread
      exact ⟨.number t, t, hs, .number (.unsigned ht)⟩
    · cases hread

/-- Of a value that has parts its bracket is skipped. -/
theorem exists_of_skipHead_some {bracket : Bracket} {s rest : List Char}
    (h : skipHead s = .ok (some bracket, rest)) :
    ∃ b, s = b ++ bracket.opening :: rest ∧ Blank b := by
  unfold skipHead at h
  split at h
  · cases h
  · next c s hskip =>
    obtain ⟨b, rfl, hb⟩ := of_skipBlank_eq_cons hskip
    split at h
    · next hc =>
      cases h
      exact ⟨b, by rw [hc]; rfl, hb⟩
    split at h
    · next hc =>
      cases h
      exact ⟨b, by rw [hc]; rfl, hb⟩
    · obtain ⟨r, -, heq⟩ := map_eq_ok_iff.1 h
      cases heq

/-- What the loop takes is what the open brackets demand. -/
theorem exists_of_skipOpened {opened : List Bracket} {fresh : Bool} {s rest : List Char}
    (h : skipOpened opened fresh s = .ok rest) : ∃ t, s = t ++ rest ∧ Closes opened fresh t := by
  fun_induction skipOpened opened fresh s with
  | case1 =>
    cases h
    exact ⟨[], rfl, .done⟩
  | case2 => cases h
  | case3 fresh s bracket outer after hturn _ ih =>
    obtain ⟨t, rfl, ht⟩ := Bracket.parts_of_close hturn
    obtain ⟨r, rfl, hr⟩ := ih h
    exact ⟨t ++ r, by simp, .bracket ht hr⟩
  | case4 => cases h
  | case5 => cases h
  | case6 fresh s bracket outer part hturn value hkey after hhead _ ih =>
    obtain ⟨u, rfl, hu⟩ := ih h
    cases hu with
    | bracket hparts hr =>
      obtain ⟨tree, b, t, rfl, hb, htree⟩ := exists_of_skipHead_none hhead
      rw [List.append_assoc] at hkey
      obtain ⟨u, rfl, hu⟩ := Bracket.parts_of_next hturn hkey hb htree hparts
      exact ⟨u ++ _, by simp, .bracket hu hr⟩
  | case7 fresh s bracket outer part hturn value hkey inner after hhead _ ih =>
    obtain ⟨u, rfl, hu⟩ := ih h
    cases hu with
    | bracket hinner hclosed =>
      cases hclosed with
      | bracket hparts hr =>
        obtain ⟨b, rfl, hb⟩ := exists_of_skipHead_some hhead
        obtain ⟨tree, htree⟩ := Bracket.exists_spells hinner
        rw [List.append_assoc, ← List.cons_append, List.append_assoc] at hkey
        obtain ⟨u, rfl, hu⟩ := Bracket.parts_of_next hturn hkey hb htree hparts
        exact ⟨u ++ _, by simp, .bracket hu hr⟩

/-- **What is skipped is a value.** -/
theorem exists_of_skipValue {s rest : List Char} (h : skipValue s = .ok rest) :
    ∃ tree b t, s = b ++ (t ++ rest) ∧ Blank b ∧ Spells tree t := by
  unfold skipValue at h
  split at h
  · cases h
  · next hhead =>
    cases h
    exact exists_of_skipHead_none hhead
  · next hhead =>
    obtain ⟨b, rfl, hb⟩ := exists_of_skipHead_some hhead
    obtain ⟨u, rfl, hu⟩ := exists_of_skipOpened h
    cases hu with
    | bracket hparts hr =>
      cases hr
      obtain ⟨tree, htree⟩ := Bracket.exists_spells hparts
      exact ⟨tree, b, _, by simp, hb, htree⟩

/-! ## Every value is skipped -/

/-- Skips a value and then the rest of what is open around it. -/
def skipThen (opened : List Bracket) (s : List Char) : Except Fault (List Char) := do
  match ← skipHead s with
  | (none, rest) => skipOpened opened false rest
  | (some inner, rest) => skipOpened (inner :: opened) true rest

/-- Behind a part the loop goes on with the parts that follow. -/
theorem skipOpened_of_next {bracket : Bracket} {outer : List Bracket} {fresh : Bool}
    {s part value : List Char} (hturn : bracket.turn fresh s = .ok (.next part))
    (hkey : bracket.skipKey part = .ok value) :
    skipOpened (bracket :: outer) fresh s = skipThen (bracket :: outer) value := by
  rw [skipOpened_cons, hturn]
  exact congrArg (· >>= skipThen (bracket :: outer)) hkey

theorem skipOpened_of_close {bracket : Bracket} {outer : List Bracket} {fresh : Bool}
    {s rest : List Char} (hturn : bracket.turn fresh s = .ok (.close rest)) :
    skipOpened (bracket :: outer) fresh s = skipOpened outer false rest := by
  rw [skipOpened_cons, hturn]
  rfl

theorem skipHead_append {b : List Char} {c : Char} (hb : Blank b) (hc : isBlank c = false)
    (s : List Char) : skipHead (b ++ c :: s) = skipHead (c :: s) := by
  rw [skipHead, skipHead, skipBlank_append_cons hb hc, skipBlank_cons hc]

theorem skipHead_cons {c : Char} (hc : isBlank c = false) (s : List Char) :
    skipHead (c :: s) =
      if c = '[' then .ok (some .array, s)
      else if c = '\x7b' then .ok (some .object, s)
      else (fun rest => (none, rest)) <$>
        if c = 'n' then afterWord ['u', 'l', 'l'] s
        else if c = 't' then afterWord ['r', 'u', 'e'] s
        else if c = 'f' then afterWord ['a', 'l', 's', 'e'] s
        else if c = '"' then skipChars s
        else if c = '-' then skipNumber s
        else if c.isDigit then skipNumber (c :: s)
        else .error .malformed := by
  rw [skipHead, skipBlank_cons hc]

/-- A number is skipped at once. -/
theorem skipHead_number {t rest : List Char} (h : NumberText t) (hrest : Delimited rest) :
    skipHead (t ++ rest) = .ok (none, rest) := by
  cases h with
  | negative h =>
    rw [List.cons_append, skipHead_cons (by decide)]
    simp only [skipNumber_append h hrest]
    rfl
  | unsigned h =>
    have hskip := skipNumber_append h hrest
    obtain ⟨c, r, rfl, hc⟩ := h.exists_cons
    have hne : ∀ {d : Char}, d.isDigit = false → c ≠ d := by
      rintro d hd rfl
      rw [hc] at hd
      cases hd
    rw [List.cons_append] at hskip ⊢
    rw [skipHead_cons (isBlank_of_isDigit hc).1, if_neg (hne rfl), if_neg (hne rfl),
      if_neg (hne rfl), if_neg (hne rfl), if_neg (hne rfl), if_neg (hne rfl), if_neg (hne rfl),
      if_pos hc, hskip]
    rfl

/-- A value that has no parts is skipped at once. -/
theorem skipThen_of_head {opened : List Bracket} {b t rest : List Char} (hb : Blank b)
    (ht : ∃ c r, t = c :: r ∧ isBlank c = false) (h : skipHead (t ++ rest) = .ok (none, rest)) :
    skipThen opened (b ++ (t ++ rest)) = skipOpened opened false rest := by
  obtain ⟨c, r, rfl, hc⟩ := ht
  rw [List.cons_append] at h ⊢
  rw [skipThen, skipHead_append hb hc, h]
  rfl

/-- Of a value that has parts the bracket is skipped first. -/
theorem skipThen_of_opening {opened : List Bracket} {b : List Char} (hb : Blank b)
    (bracket : Bracket) (s : List Char) :
    skipThen opened (b ++ bracket.opening :: s) = skipOpened (bracket :: opened) true s := by
  cases bracket with
  | array =>
    rw [skipThen, Bracket.opening, skipHead_append hb (by decide), skipHead_cons (by decide)]
    rfl
  | object =>
    rw [skipThen, Bracket.opening, skipHead_append hb (by decide), skipHead_cons (by decide)]
    rfl

mutual

/-- A value is skipped to its end, and then what is open around it. -/
theorem Spells.skipThen_append {tree : Tree} {b t rest : List Char} (h : Spells tree t)
    (hb : Blank b) (hrest : Delimited rest) (opened : List Bracket) :
    skipThen opened (b ++ (t ++ rest)) = skipOpened opened false rest := by
  have hhead : ∃ c r, t = c :: r ∧ isBlank c = false := by
    obtain ⟨c, r, ht, hc, -⟩ := h.exists_cons
    exact ⟨c, r, ht, hc⟩
  cases h with
  | null => exact skipThen_of_head hb hhead rfl
  | yes => exact skipThen_of_head hb hhead rfl
  | no => exact skipThen_of_head hb hhead rfl
  | number h => exact skipThen_of_head hb hhead (skipHead_number h hrest)
  | string h =>
    refine skipThen_of_head hb hhead ?_
    rw [List.cons_append, List.append_assoc, List.singleton_append, skipHead_cons (by decide)]
    simp only [skipChars_eq_ok_iff.2 ⟨_, rfl, h⟩]
    rfl
  | array h =>
    rw [List.cons_append]
    exact (skipThen_of_opening hb .array _).trans (h.skipOpened_append opened rest)
  | object h =>
    rw [List.cons_append]
    exact (skipThen_of_opening hb .object _).trans (h.skipOpened_append opened rest)

/-- The elements of an array are skipped to its end. -/
theorem SpellsElements.skipOpened_append {fresh : Bool} {trees : List Tree} {t : List Char}
    (h : SpellsElements fresh trees t) (outer : List Bracket) (rest : List Char) :
    skipOpened (.array :: outer) fresh (t ++ rest) = skipOpened outer false rest := by
  cases h with
  | close hb =>
    rw [List.append_assoc, List.singleton_append]
    exact skipOpened_of_close (arrayTurn_eq_close_iff.2 ⟨_, rfl, hb⟩)
  | @next _ _ _ lead t r hlead htree helements =>
    have hnext := htree.skipThen_append blank_nil (helements.delimited rest) (.array :: outer)
    obtain ⟨c, u, rfl, hc, hclose⟩ := htree.exists_cons
    rw [← helements.skipOpened_append outer rest, ← hnext, List.append_assoc, List.append_assoc]
    exact skipOpened_of_next (arrayTurn_of_lead hlead hc hclose (u ++ (r ++ rest))) rfl

/-- The members of an object are skipped to its end. -/
theorem SpellsMembers.skipOpened_append {fresh : Bool} {members : List (List Char × Tree)}
    {t : List Char} (h : SpellsMembers fresh members t) (outer : List Bracket)
    (rest : List Char) :
    skipOpened (.object :: outer) fresh (t ++ rest) = skipOpened outer false rest := by
  cases h with
  | close hb =>
    rw [List.append_assoc, List.singleton_append]
    exact skipOpened_of_close (objectTurn_eq_close_iff.2 ⟨_, rfl, hb⟩)
  | @next _ key _ _ lead b b' t r hlead hkey hb hb' htree hmembers =>
    have hnext := htree.skipThen_append hb' (hmembers.delimited rest) (.object :: outer)
    rw [← hmembers.skipOpened_append outer rest, ← hnext]
    have hskip : Bracket.object.skipKey (key ++ '"' :: (b ++ ':' :: (b' ++ (t ++ (r ++ rest))))) =
        .ok (b' ++ (t ++ (r ++ rest))) := by
      rw [Bracket.skipKey, skipChars_eq_ok_iff.2 ⟨key, rfl, hkey⟩]
      exact afterColon_append hb _
    simp only [List.append_assoc, List.cons_append]
    exact skipOpened_of_next (objectTurn_of_lead hlead _) hskip

end

theorem skipValue_eq (s : List Char) : skipValue s = skipThen [] s := by
  rw [skipValue, skipThen]
  cases skipHead s with
  | error fault => rfl
  | ok head =>
    obtain ⟨_ | inner, rest⟩ := head
    · exact (skipOpened.eq_1 false rest).symm
    · rfl

/-- **Every value is skipped**, where something follows it that may follow a value. -/
theorem skipValue_append {tree : Tree} {b t rest : List Char} (hb : Blank b)
    (h : Spells tree t) (hrest : Delimited rest) : skipValue (b ++ (t ++ rest)) = .ok rest := by
  rw [skipValue_eq, h.skipThen_append hb hrest [], skipOpened]

end Json

end StackProfiler
