import Mathlib.Algebra.Ring.Nat
import Mathlib.Data.List.Induction
import Mathlib.Data.List.Nodup
/-!
# Lists in order of first appearance

`List.eraseDups` keeps the first of equal items. Tables number their items in
this order, so a table's contents are described by `eraseDups` of what it has
been given: the lemmas here say how that list grows (`eraseDups_concat`), that
positions in it are stable (`idxOf_eraseDups_append`), and how a sum splits
into the groups of equal keys (`sum_groupSum`).
-/

namespace StackProfiler

section Order

variable {α β : Type} [BEq α] [LawfulBEq α] [BEq β] [LawfulBEq β]

/-- The list with one item more: a new item goes to the end, any other changes
nothing. -/
theorem eraseDups_concat (l : List α) (x : α) :
    (l ++ [x]).eraseDups = if x ∈ l then l.eraseDups else l.eraseDups ++ [x] := by
  rw [List.eraseDups_append]
  by_cases h : x ∈ l
  · simp [h, List.removeAll]
  · simp [h, List.removeAll, List.eraseDups_cons]

/-- Nothing is left twice. -/
theorem nodup_eraseDups (l : List α) : l.eraseDups.Nodup := by
  induction l using List.reverseRecOn with
  | nil => simp
  | append_singleton l x ih =>
    rw [eraseDups_concat]
    split
    · exact ih
    · rename_i h
      refine List.Nodup.append ih (List.nodup_singleton x) ?_
      simpa [List.disjoint_singleton, List.mem_eraseDups] using h

/-- A list without repetition is its own. -/
theorem eraseDups_of_nodup {l : List α} (h : l.Nodup) : l.eraseDups = l := by
  induction l using List.reverseRecOn with
  | nil => rfl
  | append_singleton l x ih =>
    obtain ⟨hl, -, hx⟩ := List.nodup_append'.1 h
    have hmem : x ∉ l := by simpa using hx
    rw [eraseDups_concat, if_neg hmem, ih hl]

/-- Nothing is added. -/
theorem length_eraseDups_le (l : List α) : l.eraseDups.length ≤ l.length := by
  induction l using List.reverseRecOn with
  | nil => exact Nat.le_refl _
  | append_singleton l x ih =>
    rw [eraseDups_concat]
    split
    · simp only [List.length_append, List.length_singleton]
      omega
    · simp only [List.length_append, List.length_singleton]
      omega

/-- Repetitions may be erased early. -/
theorem eraseDups_eraseDups_append (l xs : List α) :
    (l.eraseDups ++ xs).eraseDups = (l ++ xs).eraseDups := by
  induction xs using List.reverseRecOn with
  | nil => simpa using eraseDups_of_nodup (nodup_eraseDups l)
  | append_singleton xs x ih =>
    rw [← List.append_assoc, ← List.append_assoc, eraseDups_concat, eraseDups_concat, ih]
    simp [List.mem_eraseDups]

/-- **Positions are stable**: an item that has come keeps its position
whatever follows. -/
theorem idxOf_eraseDups_append {l : List α} {x : α} (h : x ∈ l) (xs : List α) :
    (l ++ xs).eraseDups.idxOf x = l.eraseDups.idxOf x := by
  rw [List.eraseDups_append]
  exact List.idxOf_append_of_mem (List.mem_eraseDups.2 h)

/-- A function that tells the items apart may be applied before or after. -/
theorem eraseDups_map {f : α → β} {l : List α}
    (inj : ∀ x ∈ l, ∀ y ∈ l, f x = f y → x = y) :
    (l.map f).eraseDups = l.eraseDups.map f := by
  induction l using List.reverseRecOn with
  | nil => rfl
  | append_singleton l x ih =>
    have hl : ∀ y ∈ l, ∀ z ∈ l, f y = f z → y = z := fun y hy z hz =>
      inj y (by simp [hy]) z (by simp [hz])
    rw [List.map_append, List.map_singleton, eraseDups_concat, eraseDups_concat, ih hl]
    by_cases h : x ∈ l
    · rw [if_pos (List.mem_map_of_mem h), if_pos h]
    · have hfx : f x ∉ l.map f := by
        rintro hmem
        obtain ⟨y, hy, hyx⟩ := List.mem_map.1 hmem
        exact h (inj y (by simp [hy]) x (by simp) hyx ▸ hy)
      rw [if_neg hfx, if_neg h, List.map_append, List.map_singleton]

/-- A change at one key of a list of distinct keys is a change at its position. -/
theorem map_modify_idxOf {γ : Type} {ks : List α} {k : α} (hks : ks.Nodup) (hk : k ∈ ks)
    {f g : α → γ} {h : γ → γ} (hself : g k = h (f k)) (hother : ∀ a ∈ ks, a ≠ k → g a = f a) :
    (ks.map f).modify (ks.idxOf k) h = ks.map g := by
  induction ks with
  | nil => cases hk
  | cons a ks ih =>
    obtain ⟨ha, hnd⟩ := List.nodup_cons.1 hks
    by_cases hak : a = k
    · subst hak
      have htail : ks.map f = ks.map g := List.map_congr_left fun b hb =>
        (hother b (by simp [hb]) fun hba => ha (hba ▸ hb)).symm
      simp [hself, htail]
    · have hmem : k ∈ ks := (List.mem_cons.1 hk).resolve_left fun h => hak h.symm
      have hrest := ih hnd hmem fun b hb => hother b (by simp [hb])
      simp [List.idxOf_cons_ne ks hak, hother a (by simp) hak, hrest]

end Order

/-! ## Sums over groups -/

section Groups

variable {α γ : Type} [DecidableEq α]

/-- An amount that is added at one key of a list of distinct keys is in the sum
once. -/
theorem sum_map_add_at {ks : List α} {k : α} (hks : ks.Nodup) (hk : k ∈ ks) (f : α → Nat)
    (n : Nat) :
    (ks.map fun a => f a + if k = a then n else 0).sum = (ks.map f).sum + n := by
  induction ks with
  | nil => cases hk
  | cons a ks ih =>
    obtain ⟨ha, hnd⟩ := List.nodup_cons.1 hks
    simp only [List.map_cons, List.sum_cons]
    by_cases hka : k = a
    · subst hka
      have htail : (ks.map fun a => f a + if k = a then n else 0) = ks.map f :=
        List.map_congr_left fun b hb => by
          rw [if_neg fun h : k = b => ha (h ▸ hb), Nat.add_zero]
      rw [htail, if_pos rfl]
      omega
    · rw [ih hnd ((List.mem_cons.1 hk).resolve_left hka), if_neg hka]
      omega

/-- The sum of a function over the items of one key. -/
def groupSum (key : γ → α) (f : γ → Nat) (l : List γ) (k : α) : Nat :=
  ((l.filter fun x => key x = k).map f).sum

/-- Keys that agree on the items give the same sums. -/
theorem groupSum_congr {key key' : γ → α} {l : List γ} (h : ∀ x ∈ l, key x = key' x)
    (f : γ → Nat) (k : α) : groupSum key f l k = groupSum key' f l k := by
  have hfilter : (l.filter fun x => key x = k) = l.filter fun x => key' x = k :=
    List.filter_congr fun x hx => by rw [h x hx]
  rw [groupSum, groupSum, hfilter]

/-- An item more adds to the sum of its key and to no other. -/
theorem groupSum_concat (key : γ → α) (f : γ → Nat) (l : List γ) (x : γ) (k : α) :
    groupSum key f (l ++ [x]) k = groupSum key f l k + if key x = k then f x else 0 := by
  unfold groupSum
  by_cases h : key x = k <;> simp [h]

/-- A key that does not occur has nothing to sum. -/
theorem groupSum_of_not_mem {key : γ → α} {f : γ → Nat} {l : List γ} {k : α}
    (h : k ∉ l.map key) : groupSum key f l k = 0 := by
  have hnone : (l.filter fun x => key x = k) = [] := by
    rw [List.filter_eq_nil_iff]
    intro x hx hxk
    exact h (List.mem_map.2 ⟨x, hx, of_decide_eq_true hxk⟩)
  simp [groupSum, hnone]

/-- **A sum splits into groups**: summing over the keys that occur, and for
each over the items of that key, is summing over the items. -/
theorem sum_groupSum (key : γ → α) (f : γ → Nat) (l : List γ) :
    ((l.map key).eraseDups.map (groupSum key f l)).sum = (l.map f).sum := by
  induction l using List.reverseRecOn with
  | nil => rfl
  | append_singleton l x ih =>
    have hstep : groupSum key f (l ++ [x]) =
        fun k => groupSum key f l k + if key x = k then f x else 0 :=
      funext fun k => groupSum_concat key f l x k
    rw [hstep, List.map_append, List.map_singleton, eraseDups_concat]
    split
    · rename_i h
      rw [sum_map_add_at (nodup_eraseDups _) (List.mem_eraseDups.2 h), ih]
      simp
    · rename_i h
      -- the new key starts a group of its own, and the old groups stay
      have hold : ((l.map key).eraseDups.map fun k =>
          groupSum key f l k + if key x = k then f x else 0) =
          (l.map key).eraseDups.map (groupSum key f l) :=
        List.map_congr_left fun k hk => by
          rw [if_neg fun hxk : key x = k => h (hxk ▸ List.mem_eraseDups.1 hk), Nat.add_zero]
      rw [List.map_append, List.sum_append, hold, ih]
      simp [groupSum_of_not_mem h]

end Groups

end StackProfiler
