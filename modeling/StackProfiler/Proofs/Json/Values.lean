import StackProfiler.Proofs.Json.Forms
import StackProfiler.Proofs.Json.Numbers
import StackProfiler.Proofs.Json.Strings
/-!
# JSON — readers against forms

A reader reads a form when it is exact: it succeeds only on texts of trees that stand
for the value, and on all of these that something follows which may follow a value.
From exactness at the front of a text follows exactness for a whole text
(`Reader.Reads.whole_eq_ok_iff`).
-/

namespace StackProfiler

namespace Json

variable {α : Type}

/-- **The reader is exact for the form.** -/
structure Reader.Reads (reader : Reader α) (form : Form α) : Prop where
  sound : ∀ {s rest : List Char} {a : α}, reader.run s = .ok (a, rest) →
    ∃ tree b t, s = b ++ (t ++ rest) ∧ Blank b ∧ Spells tree t ∧ form tree a
  complete : ∀ {tree : Tree} {b t rest : List Char} {a : α}, Blank b → Spells tree t →
    form tree a → Delimited rest → reader.run (b ++ (t ++ rest)) = .ok (a, rest)

/-- Another form with the same trees will do. -/
theorem Reader.Reads.congr {reader : Reader α} {form form' : Form α} (h : reader.Reads form)
    (hiff : ∀ tree a, form tree a ↔ form' tree a) : reader.Reads form' := by
  obtain rfl : form = form' := funext fun tree => funext fun a => propext (hiff tree a)
  exact h

/-- **A whole text is accepted exactly where it is that of a tree** which stands for
the value, with white space around it. -/
theorem Reader.Reads.whole_eq_ok_iff {reader : Reader α} {form : Form α}
    (h : reader.Reads form) {s : List Char} {a : α} :
    reader.whole s = .ok a ↔ ∃ tree, IsText s tree ∧ form tree a := by
  rw [Reader.whole, bind_eq_ok_iff]
  constructor
  · rintro ⟨⟨a', rest⟩, hrun, hend⟩
    simp only at hend
    split at hend
    · next hblank =>
      cases hend
      obtain ⟨tree, b, t, rfl, hb, htree, hform⟩ := h.sound hrun
      exact ⟨tree, ⟨b, t, rest, rfl, hb, htree, skipBlank_eq_nil_iff.1 hblank⟩, hform⟩
    · cases hend
  · rintro ⟨tree, ⟨b, t, b', rfl, hb, htree, hb'⟩, hform⟩
    exact ⟨(a, b'), h.complete hb htree hform hb'.delimited, if_pos (skipBlank_eq_nil_iff.2 hb')⟩

/-- Most readers skip white space and then look at the first character. Such a reader is
exact if what it does from there on is. -/
theorem Reader.reads_of_front {reader : Reader α} {form : Form α}
    {front : Char → List Char → Read α}
    (hrun : ∀ s, reader.run s = match skipBlank s with
      | [] => .error .ended
      | c :: s => front c s)
    (sound : ∀ {c : Char} {s rest : List Char} {a : α}, front c s = .ok (a, rest) →
      ∃ tree b t, c :: s = b ++ (t ++ rest) ∧ Blank b ∧ Spells tree t ∧ form tree a)
    (complete : ∀ {tree : Tree} {c : Char} {r rest : List Char} {a : α}, Spells tree (c :: r) →
      form tree a → Delimited rest → front c (r ++ rest) = .ok (a, rest)) :
    reader.Reads form where
  sound := by
    intro s rest a h
    rw [hrun] at h
    split at h
    · cases h
    · next hskip =>
      obtain ⟨b, rfl, hb⟩ := of_skipBlank_eq_cons hskip
      obtain ⟨tree, b', t, hs, hb', htree, hform⟩ := sound h
      exact ⟨tree, b ++ b', t, by rw [hs, List.append_assoc], hb.append hb', htree, hform⟩
  complete := by
    intro tree b t rest a hb htree hform hrest
    obtain ⟨c, r, rfl, hc, -⟩ := htree.exists_cons
    rw [hrun, List.cons_append, skipBlank_append_cons hb hc]
    exact complete htree hform hrest

/-- What a function makes of a value that is read. -/
theorem Reader.Reads.map {β : Type} {reader : Reader α} {form : Form α} (h : reader.Reads form)
    (f : α → β) : (reader.map f).Reads (Form.Made f form) where
  sound := by
    intro s rest b hrun
    obtain ⟨⟨a, r⟩, hread, heq⟩ := map_eq_ok_iff.1 hrun
    cases heq
    obtain ⟨tree, b, t, hs, hb, htree, hform⟩ := h.sound hread
    exact ⟨tree, b, t, hs, hb, htree, .value hform⟩
  complete := by
    intro tree b t rest a hb htree hform hrest
    cases hform with
    | value hform => exact map_eq_ok_iff.2 ⟨_, h.complete hb htree hform hrest, rfl⟩

/-! ## Booleans -/

theorem Reader.reads_boolean : Reader.boolean.Reads Form.Switch := by
  refine Reader.reads_of_front (fun _ => rfl) ?_ ?_
  · intro c s rest b h
    split at h
    · next hc =>
      obtain ⟨r, hword, heq⟩ := map_eq_ok_iff.1 h
      cases heq
      exact ⟨.boolean true, [], _, by rw [hc, afterWord_eq_ok_iff.1 hword]; rfl, blank_nil, .yes,
        .boolean true⟩
    split at h
    · next hc =>
      obtain ⟨r, hword, heq⟩ := map_eq_ok_iff.1 h
      cases heq
      exact ⟨.boolean false, [], _, by rw [hc, afterWord_eq_ok_iff.1 hword]; rfl, blank_nil, .no,
        .boolean false⟩
    · cases h
  · intro tree c r rest b htree hform _
    cases hform with
    | boolean b => cases htree <;> rfl

/-! ## Strings -/

theorem Reader.reads_string : Reader.string.Reads Form.Text := by
  refine Reader.reads_of_front (fun _ => rfl) ?_ ?_
  · intro c s rest text h
    split at h
    · next hquote =>
      obtain ⟨raw, rfl, hraw⟩ := readString_eq_ok_iff.1 h
      exact ⟨.string raw, [], _, by rw [hquote]; simp, blank_nil, .string hraw.stringText,
        .string hraw⟩
    · cases h
  · intro tree c r rest text htree hform _
    cases hform with
    | string hraw =>
      cases htree
      rw [if_pos rfl, List.append_assoc]
      exact readString_append hraw rest

/-! ## Integers -/

/-- The digits of an integer that is not negative. -/
theorem Integral.decimal {t : List Char} {n : Int} (h : Integral t n) (hn : 0 ≤ n) :
    Decimal t n.toNat := by
  cases h with
  | nonnegative h => exact h
  | negative h => exact absurd hn (by omega)

/-- An integer between zero and a bound, converted to a type of the naturals up to
that bound. -/
theorem Reader.reads_natural {value : α → Nat} {ofNat : Nat → α} {expected : String}
    {greatest : Int} (hgreatest : greatest ≤ 18_446_744_073_709_551_615)
    (hvalue : ∀ n : Nat, (n : Int) ≤ greatest → value (ofNat n) = n)
    (hofNat : ∀ a, ofNat (value a) = a) (hle : ∀ a, (value a : Int) ≤ greatest) :
    ((Reader.integer expected 0 greatest).map fun n => ofNat n.toNat).Reads
      (Form.Natural value) where
  sound := by
    intro s rest a h
    obtain ⟨⟨n, r⟩, hread, heq⟩ := map_eq_ok_iff.1 h
    cases heq
    obtain ⟨b, t, hs, hb, ht, hn, hn'⟩ := exists_of_readInteger hread
    refine ⟨.number t, b, t, hs, hb, .number ht.numberText, .digits ?_⟩
    rw [hvalue n.toNat (by omega)]
    exact ht.decimal hn
  complete := by
    intro tree b t rest a hb htree hform hrest
    cases hform with
    | digits ht =>
      cases htree
      refine map_eq_ok_iff.2 ⟨(value a, rest), ?_, congrArg (·, rest) (hofNat a)⟩
      exact readInteger_append hb (.nonnegative ht) (by omega) (hle a) (by omega) hgreatest hrest

theorem Reader.reads_word32 : Reader.word32.Reads (Form.Natural UInt32.toNat) := by
  refine Reader.reads_natural (by omega) ?_ (fun _ => UInt32.ofNat_toNat) ?_
  · intro n hn
    exact UInt32.toNat_ofNat_of_lt' (show n < 4_294_967_296 by omega)
  · intro a
    have := a.toNat_lt
    omega

/-- Words of 64 bits, whatever they are for. -/
theorem Reader.reads_upTo64 (expected : String) :
    ((Reader.integer expected 0 18_446_744_073_709_551_615).map fun n =>
      UInt64.ofNat n.toNat).Reads (Form.Natural UInt64.toNat) := by
  refine Reader.reads_natural (by omega) ?_ (fun _ => UInt64.ofNat_toNat) ?_
  · intro n hn
    exact UInt64.toNat_ofNat_of_lt' (show n < 18_446_744_073_709_551_616 by omega)
  · intro a
    have := a.toNat_lt
    omega

theorem Reader.reads_word64 : Reader.word64.Reads (Form.Natural UInt64.toNat) :=
  Reader.reads_upTo64 "u64"

theorem Reader.reads_count : Reader.count.Reads (Form.Natural UInt64.toNat) :=
  Reader.reads_upTo64 "usize"

theorem Reader.reads_signed64 : Reader.signed64.Reads Form.Signed where
  sound := by
    intro s rest a h
    obtain ⟨⟨n, r⟩, hread, heq⟩ := map_eq_ok_iff.1 h
    cases heq
    obtain ⟨b, t, hs, hb, ht, hn, hn'⟩ := exists_of_readInteger hread
    refine ⟨.number t, b, t, hs, hb, .number ht.numberText, .digits ?_⟩
    rwa [Int64.toInt_ofInt_of_le (by omega) (by omega)]
  complete := by
    intro tree b t rest a hb htree hform hrest
    cases hform with
    | digits ht =>
      cases htree
      have hle := a.le_toInt
      have hlt := a.toInt_lt
      refine map_eq_ok_iff.2 ⟨(a.toInt, rest), ?_, congrArg (·, rest) (Int64.ofInt_toInt a)⟩
      exact readInteger_append hb ht (by omega) (by omega) (by omega) (by omega) hrest

theorem Reader.reads_word128 : Reader.word128.Reads (Form.Natural BitVec.toNat) where
  sound := by
    intro s rest n h
    obtain ⟨b, t, hs, hb, ht⟩ := exists_of_readWideInteger h
    exact ⟨.number t, b, t, hs, hb, .number (.unsigned ht.unsignedText), .digits ht⟩
  complete := by
    intro tree b t rest n hb htree hform hrest
    cases hform with
    | digits ht =>
      cases htree
      exact readWideInteger_append hb ht hrest

/-! ## Null -/

/-- A text that begins as null does is that of null. -/
theorem Spells.eq_null {tree : Tree} {r : List Char} (h : Spells tree ('n' :: r)) :
    tree = .null := by
  generalize ht : 'n' :: r = t at h
  cases h with
  | null => rfl
  | number h =>
    obtain ⟨c, u, rfl, hc⟩ := h.exists_cons
    rw [← (List.cons.inj ht).1] at hc
    rcases hc with hc | hc <;> cases hc
  | _ => exact absurd (List.cons.inj ht).1 (by decide)

theorem Reader.Reads.option {reader : Reader α} {form : Form α} (h : reader.Reads form)
    (hnull : ∀ a, ¬ form .null a) : reader.option.Reads (Form.OrNull form) := by
  refine Reader.reads_of_front (fun _ => rfl) ?_ ?_
  · intro c s rest a hrun
    split at hrun
    · next hc =>
      obtain ⟨r, hword, heq⟩ := map_eq_ok_iff.1 hrun
      cases heq
      exact ⟨.null, [], _, by rw [hc, afterWord_eq_ok_iff.1 hword]; rfl, blank_nil, .null, .null⟩
    · obtain ⟨⟨a', r⟩, hread, heq⟩ := map_eq_ok_iff.1 hrun
      cases heq
      obtain ⟨tree, b, t, hs, hb, htree, hform⟩ := h.sound hread
      exact ⟨tree, b, t, hs, hb, htree, .value hform⟩
  · intro tree c r rest a htree hform hrest
    cases hform with
    | null =>
      cases htree
      rfl
    | @value tree a hform =>
      have hne : c ≠ 'n' := by
        rintro rfl
        exact hnull a (htree.eq_null ▸ hform)
      have hread := h.complete blank_nil htree hform hrest
      rw [List.nil_append, List.cons_append] at hread
      rw [if_neg hne, hread]
      rfl

/-! ## Lists -/

theorem Reader.Reads.exists_of_readElements {reader : Reader α} {form : Form α}
    (h : reader.Reads form) {fresh : Bool} {s rest : List Char} {as : List α}
    (hread : readElements reader fresh s = .ok (as, rest)) :
    ∃ trees t, s = t ++ rest ∧ SpellsElements fresh trees t ∧ List.Forall₂ form trees as := by
  fun_induction readElements reader fresh s generalizing as with
  | case1 => cases hread
  | case2 _ _ _ hturn =>
    cases hread
    obtain ⟨b, rfl, hb⟩ := arrayTurn_eq_close_iff.1 hturn
    exact ⟨[], b ++ [']'], by simp, .close hb, .nil⟩
  | case3 => cases hread
  | case4 _ _ _ hturn _ _ hrun _ ih =>
    obtain ⟨⟨as', r⟩, hrec, heq⟩ := map_eq_ok_iff.1 hread
    cases heq
    obtain ⟨lead, rfl, hlead⟩ := exists_lead_of_arrayTurn hturn
    obtain ⟨tree, b, t, rfl, hb, htree, hform⟩ := h.sound hrun
    obtain ⟨trees, u, rfl, hu, hforms⟩ := ih hrec
    exact ⟨tree :: trees, (lead ++ b) ++ (t ++ u), by simp, .next (hlead.append_blank hb) htree hu,
      .cons hform hforms⟩

theorem Reader.Reads.readElements_append {reader : Reader α} {form : Form α}
    (h : reader.Reads form) {fresh : Bool} {t rest : List Char} {trees : List Tree} {as : List α}
    (ht : SpellsElements fresh trees t) (hforms : List.Forall₂ form trees as) :
    readElements reader fresh (t ++ rest) = .ok (as, rest) := by
  induction hforms generalizing fresh t with
  | nil =>
    cases ht with
    | close hb =>
      rw [readElements_eq, List.append_assoc, List.singleton_append,
        arrayTurn_eq_close_iff.2 ⟨_, rfl, hb⟩]
      rfl
  | cons hform _ ih =>
    cases ht with
    | @next _ _ _ lead t r hlead htree hr =>
      have hread := h.complete blank_nil htree hform (hr.delimited rest)
      obtain ⟨c, u, rfl, hc, hclose⟩ := htree.exists_cons
      rw [List.nil_append, List.cons_append] at hread
      rw [readElements_eq, List.append_assoc, List.append_assoc, List.cons_append,
        arrayTurn_of_lead hlead hc hclose]
      simp [bind, Except.bind, hread, ih hr, Except.map]

theorem Reader.Reads.list {reader : Reader α} {form : Form α} (h : reader.Reads form) :
    reader.list.Reads (Form.ListOf form) := by
  refine Reader.reads_of_front (fun _ => rfl) ?_ ?_
  · intro c s rest as hrun
    split at hrun
    · next hc =>
      obtain ⟨trees, t, rfl, ht, hforms⟩ := h.exists_of_readElements hrun
      exact ⟨.array trees, [], '[' :: t, by rw [hc]; rfl, blank_nil, .array ht, .array hforms⟩
    · cases hrun
  · intro tree c r rest as htree hform _
    cases hform with
    | array hforms =>
      cases htree with
      | array ht =>
        rw [if_pos rfl]
        exact h.readElements_append ht hforms

/-! ## Names -/

theorem lookUpVariant_eq_ok_iff {variants : List (String × α)} {name : String} {a : α} :
    lookUpVariant variants name = .ok a ↔ variants.lookup name = some a := by
  unfold lookUpVariant
  split <;> simp [*]

theorem readNull_eq_ok_iff {s rest : List Char} :
    readNull s = .ok ((), rest) ↔ ∃ b, s = b ++ ('n' :: 'u' :: 'l' :: 'l' :: rest) ∧ Blank b := by
  constructor
  · intro h
    unfold readNull at h
    split at h
    · cases h
    · next hskip =>
      obtain ⟨b, rfl, hb⟩ := of_skipBlank_eq_cons hskip
      split at h
      · next hc =>
        obtain ⟨r, hword, heq⟩ := map_eq_ok_iff.1 h
        cases heq
        exact ⟨b, by rw [hc, afterWord_eq_ok_iff.1 hword]; rfl, hb⟩
      · cases h
  · rintro ⟨b, rfl, hb⟩
    rw [readNull, skipBlank_append_cons hb (by decide)]
    rfl

theorem Reader.reads_variant {variants : List (String × α)} {name : α → String}
    (h : ∀ text a, variants.lookup text = some a ↔ text = name a) :
    (Reader.variant variants).Reads (Form.Named name) := by
  refine Reader.reads_of_front (fun _ => rfl) ?_ ?_
  · intro c s rest a hrun
    split at hrun
    · next hquote =>
      obtain ⟨⟨text, r⟩, hread, hrun⟩ := bind_eq_ok_iff.1 hrun
      obtain ⟨a', hlook, hrun⟩ := bind_eq_ok_iff.1 hrun
      cases hrun
      obtain ⟨raw, rfl, hraw⟩ := readString_eq_ok_iff.1 hread
      obtain rfl := (h _ _).1 (lookUpVariant_eq_ok_iff.1 hlook)
      exact ⟨.string raw, [], _, by rw [hquote]; simp, blank_nil, .string hraw.stringText,
        .string hraw⟩
    split at hrun
    · next hc =>
      obtain ⟨turn, hturn, hrun⟩ := bind_eq_ok_iff.1 hrun
      split at hrun
      · cases hrun
      · next key =>
        obtain ⟨⟨text, r⟩, hread, hrun⟩ := bind_eq_ok_iff.1 hrun
        obtain ⟨a', hlook, hrun⟩ := bind_eq_ok_iff.1 hrun
        obtain ⟨value, hcolon, hrun⟩ := bind_eq_ok_iff.1 hrun
        obtain ⟨⟨_, r'⟩, hnull, hrun⟩ := bind_eq_ok_iff.1 hrun
        simp only at hcolon hrun
        split at hrun
        · cases hrun
        · next hclose =>
          cases hrun
          obtain ⟨lead, rfl, hlead⟩ := objectTurn_eq_next_iff.1 hturn
          obtain ⟨raw, rfl, hraw⟩ := readString_eq_ok_iff.1 hread
          obtain rfl := (h _ _).1 (lookUpVariant_eq_ok_iff.1 hlook)
          obtain ⟨b₁, rfl, hb₁⟩ := afterColon_eq_ok_iff.1 hcolon
          obtain ⟨b₂, rfl, hb₂⟩ := readNull_eq_ok_iff.1 hnull
          obtain ⟨b₃, rfl, hb₃⟩ := of_skipBlank_eq_cons hclose
          have hmembers : SpellsMembers true [(raw, .null)] _ :=
            .next hlead hraw.stringText hb₁ hb₂ .null (.close hb₃)
          exact ⟨.object [(raw, .null)], [], _, by rw [hc]; simp, blank_nil, .object hmembers,
            .object hraw⟩
        · cases hrun
    · cases hrun
  · intro tree c r rest a htree hform _
    have hlook : lookUpVariant variants (name a) = .ok a :=
      lookUpVariant_eq_ok_iff.2 ((h _ _).2 rfl)
    cases hform with
    | @string raw _ hraw =>
      cases htree
      simp [bind, Except.bind, readString_append hraw, hlook, pure, Except.pure]
    | @object raw _ hraw =>
      cases htree with
      | object hmembers =>
        cases hmembers with
        | @next _ _ _ _ lead b₁ b₂ _ _ hlead _ hb₁ hb₂ hnull hclosed =>
          cases hnull
          cases hclosed with
          | @close _ b₃ hb₃ =>
            -- the parts of the object in the order in which they are read
            have hclose := skipBlank_append_cons hb₃ (show isBlank '\x7d' = false by decide) rest
            have hnull : ∀ s, readNull (b₂ ++ ('n' :: 'u' :: 'l' :: 'l' :: s)) = .ok ((), s) :=
              fun s => readNull_eq_ok_iff.2 ⟨b₂, rfl, hb₂⟩
            simp [bind, Except.bind, objectTurn_of_lead hlead, readString_append hraw, hlook,
              afterColon_append hb₁, hnull, hclose, pure, Except.pure]

end Json

end StackProfiler
