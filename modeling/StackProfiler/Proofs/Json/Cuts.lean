import StackProfiler.Json.Value
import StackProfiler.Proofs.Json.Writing
/-!
# JSON — texts that are cut off

A reader goes from left to right, so of a text that it could read and that has been cut off
it finds out one thing only: that it ends. Numbers are why this does not hold of every
reader by itself. What is left of a number's digits is a number again, and it is read; but
then nothing is left behind it, and whatever encloses the number finds that the text ends
(`RunsOut`).
-/

namespace StackProfiler

namespace Json

variable {α β : Type}

/-! ## What is left of a text -/

/-- **What is left of a text** that has been cut off before its end. -/
def Cut (p t : List Char) : Prop := p <+: t ∧ p ≠ t

variable {p t u v : List Char}

theorem not_cut_nil : ¬ Cut p [] := fun h => h.2 (List.prefix_nil.1 h.1)

theorem cut_cons_iff {c : Char} : Cut p (c :: t) ↔ p = [] ∨ ∃ q, p = c :: q ∧ Cut q t := by
  cases p with
  | nil => exact iff_of_true ⟨List.nil_prefix, (List.cons_ne_nil _ _).symm⟩ (.inl rfl)
  | cons d p =>
    rw [Cut, List.cons_prefix_cons]
    constructor
    · rintro ⟨⟨rfl, hfront⟩, hne⟩
      exact .inr ⟨p, rfl, hfront, fun heq => hne (congrArg _ heq)⟩
    · rintro (hnil | ⟨q, heq, hfront, hne⟩)
      · cases hnil
      · cases heq
        exact ⟨⟨rfl, hfront⟩, fun heq => hne (List.cons.inj heq).2⟩

theorem cut_singleton_iff {c : Char} : Cut p [c] ↔ p = [] := by
  rw [cut_cons_iff, or_iff_left]
  exact fun ⟨_, _, hnil⟩ => not_cut_nil hnil

/-- The cut is in the front of a text, or behind it. -/
theorem Cut.of_append (h : Cut p (u ++ v)) : Cut p u ∨ ∃ q, p = u ++ q ∧ Cut q v := by
  induction u generalizing p with
  | nil => exact .inr ⟨p, rfl, h⟩
  | cons c u ih =>
    rcases cut_cons_iff.1 h with rfl | ⟨q, rfl, hq⟩
    · exact .inl (cut_cons_iff.2 (.inl rfl))
    · rcases ih hq with hq | ⟨r, rfl, hr⟩
      · exact .inl (cut_cons_iff.2 (.inr ⟨q, rfl, hq⟩))
      · exact .inr ⟨r, rfl, hr⟩

theorem Delimited.of_cut (h : Delimited t) (hcut : Cut p t) : Delimited p := by
  cases t with
  | nil => exact (not_cut_nil hcut).elim
  | cons c t =>
    rcases cut_cons_iff.1 hcut with rfl | ⟨q, rfl, -⟩
    · trivial
    · exact h

/-! ## Words and strings -/

theorem afterWord_cut {word : List Char} (h : Cut p word) : afterWord word p = .error .ended := by
  induction word generalizing p with
  | nil => exact (not_cut_nil h).elim
  | cons c word ih =>
    rcases cut_cons_iff.1 h with rfl | ⟨q, rfl, hq⟩
    · rfl
    · rw [afterWord, if_pos rfl, ih hq]

/-- A hexadecimal digit takes one byte. -/
theorem utf8Size_of_hexDigit? {c : Char} {n : Nat} (h : hexDigit? c = some n) :
    c.utf8Size = 1 := by
  have hle : c ≤ 'f' := by
    simp only [hexDigit?, Bool.and_eq_true, decide_eq_true_eq] at h
    split at h
    · next hc => exact Char.le_trans hc.2 (by decide)
    split at h
    · next hc => exact hc.2
    split at h
    · next hc => exact Char.le_trans hc.2 (by decide)
    · cases h
  exact Char.utf8Size_eq_one_iff.2 (UInt32.le_trans (Char.le_def.1 hle) (by decide))

theorem readHexQuad_cut {digits : List Char} {n : Nat} (h : HexQuad digits n)
    (hcut : Cut p digits) : readHexQuad p = .error .ended := by
  obtain ⟨a, b, c, d, x, y, z, w, rfl, ha, hb, hc, -, -⟩ := h
  have ha := utf8Size_of_hexDigit? ha
  have hb := utf8Size_of_hexDigit? hb
  have hc := utf8Size_of_hexDigit? hc
  rcases cut_cons_iff.1 hcut with rfl | ⟨q, rfl, hq⟩
  · rfl
  rcases cut_cons_iff.1 hq with rfl | ⟨r, rfl, hr⟩
  · simp [readHexQuad, byteCount, ha]
  rcases cut_cons_iff.1 hr with rfl | ⟨s, rfl, hs⟩
  · simp [readHexQuad, byteCount, ha, hb]
  obtain rfl := cut_singleton_iff.1 hs
  simp [readHexQuad, byteCount, ha, hb, hc]

/-- Behind a high surrogate that is whole the other one is missed. -/
theorem readLowSurrogate_cut {digits : List Char} {high low : Nat} (h : HexQuad digits low)
    (hcut : Cut p ('\\' :: 'u' :: digits)) : readLowSurrogate high p = .error .ended := by
  rcases cut_cons_iff.1 hcut with rfl | ⟨q, rfl, hq⟩
  · rfl
  rcases cut_cons_iff.1 hq with rfl | ⟨r, rfl, hr⟩
  · rfl
  · simp [readLowSurrogate, afterWord, readHexQuad_cut h hr]

/-- A backslash alone, and a numeric escape that is missed, leave the string unread. -/
theorem readChars_cut_escape {digits : List Char}
    (h : ∀ {q}, Cut q digits → readNumericEscape q = .error .ended)
    (hcut : Cut p ('\\' :: 'u' :: digits)) : readChars p = .error .ended := by
  rcases cut_cons_iff.1 hcut with rfl | ⟨q, rfl, hq⟩
  · rw [readChars]
  rcases cut_cons_iff.1 hq with rfl | ⟨r, rfl, hr⟩
  · simp [readChars_cons, readEscape, bind, Except.bind]
  · simp [readChars_cons, readEscape, h hr, bind, Except.bind]

/-- A character that is cut off is not read as another one. -/
theorem readChars_cut_part {part : List Char} {c : Char} (h : SaysChar part c)
    (hcut : Cut p part) : readChars p = .error .ended := by
  cases h with
  | plain =>
    obtain rfl := cut_singleton_iff.1 hcut
    rw [readChars]
  | letter =>
    rcases cut_cons_iff.1 hcut with rfl | ⟨q, rfl, hq⟩
    · rw [readChars]
    obtain rfl := cut_singleton_iff.1 hq
    simp [readChars_cons, readEscape, bind, Except.bind]
  | code hdigits =>
    exact readChars_cut_escape (fun hq => by rw [readNumericEscape, readHexQuad_cut hdigits hq])
      hcut
  | @pair _ _ high low hdigits hdigits' hle hle' =>
    refine readChars_cut_escape (fun hq => ?_) hcut
    rcases hq.of_append with hq | ⟨r, rfl, hr⟩
    · rw [readNumericEscape, readHexQuad_cut hdigits hq]
    · have hhigh := isHighSurrogate_eq_true_iff.2 ⟨hle, hle'⟩
      simp [readNumericEscape, readHexQuad_append hdigits, not_low_of_high hhigh, hhigh,
        readLowSurrogate_cut hdigits' hr]

theorem readChars_cut {raw chars : List Char} (h : SaysChars raw chars)
    (hcut : Cut p (raw ++ ['"'])) : readChars p = .error .ended := by
  induction h generalizing p with
  | nil =>
    obtain rfl := cut_singleton_iff.1 hcut
    rw [readChars]
  | cons hpart _ ih =>
    rw [List.append_assoc] at hcut
    rcases hcut.of_append with hhere | ⟨q, rfl, hq⟩
    · exact readChars_cut_part hpart hhere
    · rw [readChars_append hpart, ih hq]
      rfl

/-- **A string that is cut off anywhere** before its closing quote, or at it, ends too early. -/
theorem readString_cut {raw : List Char} {text : String} (h : Says raw text)
    (hcut : Cut p (raw ++ ['"'])) : readString p = .error .ended := by
  rw [readString, readChars_cut h hcut]
  rfl

/-! ## Digits -/

/-- **What is left of a number is a number**, not greater and not zero, or nothing at all. -/
theorem Decimal.of_cut {n : Nat} (h : Decimal t n) (hcut : Cut p t) :
    p = [] ∨ ∃ m, 0 < m ∧ m ≤ n ∧ Decimal p m := by
  rcases h.cases with ⟨rfl, -⟩ | ⟨c, r, rfl, hc, hzero, hr, rfl⟩
  · exact .inl (cut_singleton_iff.1 hcut)
  · rcases cut_cons_iff.1 hcut with rfl | ⟨q, rfl, hfront, -⟩
    · exact .inl rfl
    obtain ⟨lost, rfl⟩ := hfront
    have hpos : 0 < digitValue c := by
      have hge : '0'.toNat ≤ c.toNat := (Char.isDigit_iff_toNat.1 hc).1
      have hne : c.toNat ≠ '0'.toNat := fun heq => hzero (Char.toNat_inj.1 heq)
      rw [digitValue]
      omega
    refine .inr ⟨_, Nat.lt_of_lt_of_le hpos (le_ofDigitChars q _), ?_,
      decimal_cons hc hzero fun d hd => hr d (List.mem_append_left lost hd)⟩
    rw [Nat.ofDigitChars_append]
    exact le_ofDigitChars lost _

/-! ## Readers -/

/-- **The text ends within a value or right behind it.** -/
def RunsOut (read : Read α) : Prop :=
  read = .error .ended ∨ ∃ a, read = .ok (a, [])

theorem RunsOut.map {read : Read α} (h : RunsOut read) (f : α → β) :
    RunsOut (read.map fun (a, rest) => (f a, rest)) := by
  rcases h with rfl | ⟨a, rfl⟩
  · exact .inl rfl
  · exact .inr ⟨f a, rfl⟩

namespace Reader

/-- **The reader misses what is cut off** from the text: it finds out that the text ends, and
nothing else. -/
def Misses (reader : Reader α) (t : List Char) : Prop :=
  ∀ p, Cut p t → reader.run p = .error .ended

/-- **The reader awaits the whole text**: it takes this from the front of a longer one, and
runs out in what is left of it. -/
structure Awaits (reader : Reader α) (t : List Char) : Prop where
  front : ∃ c r, t = c :: r ∧ isBlank c = false ∧ c ≠ ']'
  whole : ∀ {rest}, Delimited rest → ∃ a, reader.run (t ++ rest) = .ok (a, rest)
  cut : ∀ {p}, Cut p t → RunsOut (reader.run p)

/-- The whole texts of a writer are taken if the reader is exact. -/
theorem Reads.awaits {reader : Reader α} {form : Form α} {write : α → List Char} {a : α}
    (hreads : reader.Reads form) (hwrites : Writes write form)
    (hcut : ∀ {p}, Cut p (write a) → RunsOut (reader.run p)) : reader.Awaits (write a) := by
  obtain ⟨tree, htree, hform⟩ := hwrites a
  exact ⟨htree.exists_cons, fun hrest => ⟨a, hreads.complete blank_nil htree hform hrest⟩, hcut⟩

/-- A reader that misses what is cut off does not even run out in it. -/
theorem Awaits.of_misses {reader : Reader α} {form : Form α} {write : α → List Char} {a : α}
    (h : reader.Misses (write a)) (hreads : reader.Reads form) (hwrites : Writes write form) :
    reader.Awaits (write a) :=
  hreads.awaits hwrites fun hcut => .inl (h _ hcut)

theorem Awaits.map {reader : Reader α} (h : reader.Awaits t) (f : α → β) :
    (reader.map f).Awaits t where
  front := h.front
  whole := fun hrest => (h.whole hrest).elim fun a ha => ⟨f a, map_eq_ok_iff.2 ⟨_, ha, rfl⟩⟩
  cut := fun hcut => (h.cut hcut).map f

/-- A value that is not written as null is awaited as the value it is. -/
theorem Awaits.option {reader : Reader α} {form : Form α} {write : α → List Char} {a : α}
    (h : reader.Awaits (write a)) (hwrites : Writes write form)
    (hnull : ∀ a, ¬ form .null a) : reader.option.Awaits (write a) := by
  obtain ⟨tree, htree, hform⟩ := hwrites a
  obtain ⟨c, r, htext, hblank, hclose⟩ := h.front
  have hne : c ≠ 'n' := by
    rintro rfl
    rw [htext] at htree
    exact hnull a (htree.eq_null ▸ hform)
  have hrun : ∀ s, reader.option.run (c :: s) =
      (reader.run (c :: s)).map fun (a, rest) => (some a, rest) := by
    intro s
    show readOption reader (c :: s) = _
    rw [readOption, skipBlank_cons hblank]
    simp [hne]
  refine ⟨h.front, fun hrest => ?_, fun hcut => ?_⟩
  · obtain ⟨a, ha⟩ := h.whole hrest
    rw [htext, List.cons_append] at ha ⊢
    exact ⟨some a, by rw [hrun, ha]; rfl⟩
  · rw [htext] at hcut
    rcases cut_cons_iff.1 hcut with rfl | ⟨q, rfl, -⟩
    · exact .inl rfl
    · rw [hrun]
      exact (h.cut (htext ▸ hcut)).map some

/-! ## Simple values -/

theorem boolean_misses (b : Bool) : boolean.Misses (writeBool b) := by
  intro p hcut
  cases b with
  | true =>
    rcases cut_cons_iff.1 hcut with rfl | ⟨q, rfl, hq⟩
    · rfl
    · simp [boolean, readBoolean, skipBlank_cons, isBlank, afterWord_cut hq, Except.map]
  | false =>
    rcases cut_cons_iff.1 hcut with rfl | ⟨q, rfl, hq⟩
    · rfl
    · simp [boolean, readBoolean, skipBlank_cons, isBlank, afterWord_cut hq, Except.map]

theorem string_misses (text : String) : string.Misses (writeString text) := by
  intro p hcut
  rcases cut_cons_iff.1 hcut with rfl | ⟨q, rfl, hq⟩
  · rfl
  · show readText ('"' :: q) = _
    rw [readText, skipBlank_cons (by decide)]
    exact readString_cut (says_flatMap_escapeChar text) hq

theorem boolean_awaits (b : Bool) : boolean.Awaits (writeBool b) :=
  .of_misses (boolean_misses b) Reader.reads_boolean writes_switch

theorem string_awaits (text : String) : string.Awaits (writeString text) :=
  .of_misses (string_misses text) Reader.reads_string writes_text

/-- A name is written as a string. -/
theorem variant_misses (variants : List (String × α)) (name : String) :
    (variant variants).Misses (writeString name) := by
  intro p hcut
  rcases cut_cons_iff.1 hcut with rfl | ⟨q, rfl, hq⟩
  · rfl
  · show readVariant variants ('"' :: q) = _
    rw [readVariant, skipBlank_cons (by decide)]
    simp [readString_cut (says_flatMap_escapeChar name) hq, bind, Except.bind]

/-- **What is left of an integer is in range** if the integer and zero are. -/
theorem integer_cut {expected : String} {least greatest n : Int} (h : Integral t n)
    (hle : least ≤ n) (hle' : n ≤ greatest) (hzero : least ≤ 0) (hzero' : 0 ≤ greatest)
    (hleast : -9_223_372_036_854_775_808 ≤ least)
    (hgreatest : greatest ≤ 18_446_744_073_709_551_615) (hcut : Cut p t) :
    RunsOut ((integer expected least greatest).run p) := by
  have hread : ∀ {m}, Integral p m → least ≤ m → m ≤ greatest →
      RunsOut ((integer expected least greatest).run p) := by
    intro m hm hmle hmle'
    have hrun : readInteger expected least greatest ([] ++ (p ++ [])) = .ok (m, []) :=
      readInteger_append blank_nil hm hmle hmle' hleast hgreatest trivial
    rw [List.nil_append, List.append_nil] at hrun
    exact .inr ⟨m, hrun⟩
  cases h with
  | nonnegative h =>
    rcases h.of_cut hcut with rfl | ⟨m, -, hm, hp⟩
    · exact .inl rfl
    · exact hread (.nonnegative hp) (by omega) (by omega)
  | negative h =>
    rcases cut_cons_iff.1 hcut with rfl | ⟨q, rfl, hq⟩
    · exact .inl rfl
    rcases h.of_cut hq with rfl | ⟨m, hpos, hm, hp⟩
    · exact .inl rfl
    · obtain ⟨k, rfl⟩ := Nat.exists_eq_succ_of_ne_zero (Nat.ne_of_gt hpos)
      exact hread (.negative hp) (by omega) (by omega)

/-- An integer that is not negative, converted to the type of what it is written for. -/
theorem natural_awaits {expected : String} {greatest : Int} {f : Int → α} {value : α → Nat}
    (hreads : ((integer expected 0 greatest).map f).Reads (Form.Natural value)) {a : α}
    (hle : (value a : Int) ≤ greatest) (hgreatest : greatest ≤ 18_446_744_073_709_551_615) :
    ((integer expected 0 greatest).map f).Awaits (writeNat (value a)) := by
  refine hreads.awaits (writes_natural value) fun hcut => RunsOut.map ?_ f
  exact integer_cut (.nonnegative (decimal_writeNat (value a))) (by omega) hle (by omega)
    (by omega) (by omega) hgreatest hcut

theorem word32_awaits (n : UInt32) : word32.Awaits (writeNat n.toNat) := by
  have hlt := n.toNat_lt
  exact natural_awaits Reader.reads_word32 (by omega) (by omega)

theorem word64_awaits (n : UInt64) : word64.Awaits (writeNat n.toNat) := by
  have hlt := n.toNat_lt
  exact natural_awaits Reader.reads_word64 (by omega) (by omega)

theorem count_awaits (n : UInt64) : count.Awaits (writeNat n.toNat) := by
  have hlt := n.toNat_lt
  exact natural_awaits Reader.reads_count (by omega) (by omega)

theorem signed64_awaits (n : Int64) : signed64.Awaits (writeInt n.toInt) := by
  have hle := n.le_toInt
  have hlt := n.toInt_lt
  refine Reader.reads_signed64.awaits writes_signed fun hcut => RunsOut.map ?_ Int64.ofInt
  exact integer_cut (integral_writeInt n.toInt) (by omega) (by omega) (by omega) (by omega)
    (by omega) (by omega) hcut

theorem word128_awaits (n : BitVec 128) : word128.Awaits (writeNat n.toNat) := by
  refine Reader.reads_word128.awaits (writes_natural BitVec.toNat) fun hcut => ?_
  rcases (decimal_writeNat n.toNat).of_cut hcut with rfl | ⟨m, -, hle, hp⟩
  · exact .inl rfl
  · have hm : (BitVec.ofNat 128 m).toNat = m := by
      rw [BitVec.toNat_ofNat, Nat.mod_eq_of_lt (Nat.lt_of_le_of_lt hle n.isLt)]
    have hrun : readWideInteger ([] ++ (_ ++ [])) = .ok (BitVec.ofNat 128 m, []) :=
      readWideInteger_append blank_nil (by rwa [hm]) trivial
    rw [List.nil_append, List.append_nil] at hrun
    exact .inr ⟨_, hrun⟩

end Reader

/-! ## Lists -/

section Lists

variable {reader : Reader α} {texts : List (List Char)}

theorem readElements_nil (fresh : Bool) : readElements reader fresh [] = .error .ended := by
  rw [readElements_eq]
  rfl

/-- An element and what follows it, cut off in the one or the other. -/
theorem readElements_cut_cons {fresh : Bool} {lead r : List Char} (hlead : Lead fresh lead)
    (halone : arrayTurn fresh lead = .error .ended) (ht : reader.Awaits t) (hr : Delimited r)
    (hrest : ∀ {q}, Cut q r → readElements reader false q = .error .ended)
    (hcut : Cut p (t ++ r)) : readElements reader fresh (lead ++ p) = .error .ended := by
  obtain ⟨c, u, rfl, hblank, hclose⟩ := ht.front
  rw [List.cons_append] at hcut
  rcases cut_cons_iff.1 hcut with rfl | ⟨q, rfl, -⟩
  · rw [List.append_nil, readElements_eq, halone]
    rfl
  -- the reader is asked, and where it does not run out it leaves less of what follows
  have hrun : reader.run (c :: q) = .error .ended ∨
      ∃ a r', reader.run (c :: q) = .ok (a, r') ∧
        readElements reader false r' = .error .ended := by
    rw [← List.cons_append] at hcut
    rcases hcut.of_append with hhere | ⟨q', heq, hq'⟩
    · rcases ht.cut hhere with hended | ⟨a, ha⟩
      · exact .inl hended
      · exact .inr ⟨a, [], ha, readElements_nil false⟩
    · obtain ⟨a, ha⟩ := ht.whole (hr.of_cut hq')
      exact .inr ⟨a, q', heq ▸ ha, hrest hq'⟩
  rw [readElements_eq, arrayTurn_of_lead hlead hblank hclose]
  rcases hrun with hended | ⟨a, r', ha, hended⟩
  · simp [bind, Except.bind, hended]
  · simp [bind, Except.bind, ha, hended, Except.map]

theorem delimited_flatMap (texts : List (List Char)) :
    Delimited (texts.flatMap (',' :: ·) ++ [']']) := by
  cases texts with
  | nil => exact .inr (.inr (.inl rfl))
  | cons text texts => exact .inr (.inl rfl)

theorem readElements_cut {fresh : Bool} {lead text : List Char} (hlead : Lead fresh lead)
    (halone : arrayTurn fresh lead = .error .ended) (h : ∀ t ∈ text :: texts, reader.Awaits t)
    (hcut : Cut p (text ++ (texts.flatMap (',' :: ·) ++ [']']))) :
    readElements reader fresh (lead ++ p) = .error .ended := by
  induction texts generalizing fresh lead text p with
  | nil =>
    refine readElements_cut_cons hlead halone (h text List.mem_cons_self) (delimited_flatMap [])
      (fun hq => ?_) hcut
    obtain rfl := cut_singleton_iff.1 hq
    exact readElements_nil false
  | cons next texts ih =>
    rw [List.forall_mem_cons] at h
    refine readElements_cut_cons hlead halone h.1 (delimited_flatMap (next :: texts))
      (fun hq => ?_) hcut
    rw [List.flatMap_cons, List.append_assoc, List.cons_append] at hq
    rcases cut_cons_iff.1 hq with rfl | ⟨q', rfl, hq'⟩
    · exact readElements_nil false
    · exact ih lead_comma rfl h.2 hq'

/-- **An array that is cut off anywhere** ends too early. -/
theorem Reader.list_misses {write : β → List Char} (h : ∀ b, reader.Awaits (write b))
    (bs : List β) : reader.list.Misses (writeList write bs) := by
  intro p hcut
  rw [writeList, List.cons_append] at hcut
  rcases cut_cons_iff.1 hcut with rfl | ⟨q, rfl, hq⟩
  · rfl
  have hended : readElements reader true q = .error .ended := by
    cases bs with
    | nil =>
      obtain rfl := cut_singleton_iff.1 hq
      exact readElements_nil true
    | cons b bs =>
      rw [List.map_cons, joinCommas_cons, List.append_assoc] at hq
      have hawaits : ∀ t ∈ write b :: bs.map write, reader.Awaits t := by
        rw [← List.map_cons]
        exact List.forall_mem_map.2 fun b _ => h b
      exact readElements_cut lead_nil rfl hawaits hq
  show readList reader ('[' :: q) = _
  rw [readList, skipBlank_cons (by decide)]
  simp [hended]

/-- A list of values of which each is awaited. -/
theorem Reader.Reads.list_awaits {form : Form α} {write : α → List Char}
    (hreads : reader.Reads form) (hwrites : Writes write form)
    (h : ∀ a, reader.Awaits (write a)) (as : List α) :
    reader.list.Awaits (writeList write as) :=
  .of_misses (list_misses h as) hreads.list hwrites.list

end Lists

end Json

end StackProfiler
