import StackProfiler.Proofs.Configuration.RoundTrip
import StackProfiler.Proofs.Json.Repetition
/-!
# Configurations — what a text overrides

A text gives some of the fields of a configuration, and the others have their defaults.
How it presents them does not matter: with any white space, under their names in any order
and among any others, or as an array of the first of them, and the switches in either
way too. What is read depends on the values alone (`Overrides.ReadAs`), and it is refused
only for being out of range. A text that gives a field twice is never read.
-/

namespace StackProfiler

open Json

/-! ## What is given -/

/-- The switches that are given. -/
structure SwitchOverrides where
  cpuTime : Option Bool
  allocSamples : Option Bool

/-- **The fields of a configuration that are given**, the interval in milliseconds. -/
structure Overrides where
  enabledMetrics : Option SwitchOverrides
  maxFrames : Option UInt64
  millis : Option UInt64

/-- The default switches with those that are given in their places. -/
def SwitchOverrides.onDefault (overrides : SwitchOverrides) : EnabledMetrics where
  cpuTime := overrides.cpuTime.getD ({} : EnabledMetrics).cpuTime
  allocSamples := overrides.allocSamples.getD ({} : EnabledMetrics).allocSamples

/-- **The default configuration with the given fields in their places.** -/
def Overrides.onDefault (overrides : Overrides) : Configuration where
  enabledMetrics := (overrides.enabledMetrics.map (·.onDefault)).getD
    ({} : Configuration).enabledMetrics
  maxFrames := overrides.maxFrames.getD ({} : Configuration).maxFrames
  flushInterval := (overrides.millis.map .ofMillis).getD ({} : Configuration).flushInterval

/-- The trees that give some of the switches. -/
def SwitchOverrides.form : Form SwitchOverrides := fun tree overrides =>
  ∃ given, Gives ["cpu_time", "alloc_samples"] tree given ∧
    GivenAs "cpu_time" Form.Switch given overrides.cpuTime ∧
    GivenAs "alloc_samples" Form.Switch given overrides.allocSamples

/-- **The trees that give some of the fields**, each at most once. -/
def Overrides.form : Form Overrides := fun tree overrides =>
  ∃ given, Gives ["enabled_metrics", "max_frames", "flush_interval"] tree given ∧
    GivenAs "enabled_metrics" SwitchOverrides.form given overrides.enabledMetrics ∧
    GivenAs "max_frames" (Form.Natural UInt64.toNat) given overrides.maxFrames ∧
    GivenAs "flush_interval" (Form.Natural UInt64.toNat) given overrides.millis

/-! ## What is given twice -/

/-- **The trees that give a switch twice**, and are such trees else. -/
def SwitchOverrides.Repeats (tree : Tree) : Prop :=
  ∃ given, Gives ["cpu_time", "alloc_samples"] tree given ∧
    AllStand "cpu_time" Form.Switch given ∧ AllStand "alloc_samples" Form.Switch given ∧
    (GivenTwice "cpu_time" given ∨ GivenTwice "alloc_samples" given)

/-- **The trees that give a field or a switch twice**, and are such trees else. -/
def Overrides.Repeats (tree : Tree) : Prop :=
  ∃ given, Gives ["enabled_metrics", "max_frames", "flush_interval"] tree given ∧
    (∀ tree ∈ under "enabled_metrics" given,
      (∃ overrides, SwitchOverrides.form tree overrides) ∨ SwitchOverrides.Repeats tree) ∧
    AllStand "max_frames" (Form.Natural UInt64.toNat) given ∧
    AllStand "flush_interval" (Form.Natural UInt64.toNat) given ∧
    (GivenTwice "enabled_metrics" given ∨ GivenTwice "max_frames" given ∨
      GivenTwice "flush_interval" given ∨
      ∃ tree ∈ under "enabled_metrics" given, SwitchOverrides.Repeats tree)

/-! ## Fields that are given make a configuration -/

theorem SwitchOverrides.form_onDefault {tree : Tree} {overrides : SwitchOverrides}
    (h : form tree overrides) : EnabledMetrics.form tree overrides.onDefault := by
  obtain ⟨given, hgives, hcpu, halloc⟩ := h
  have hcpu := hcpu.optional id (fun _ _ => id) true
  have halloc := halloc.optional id (fun _ _ => id) true
  rw [Option.map_id] at hcpu halloc
  exact ⟨given, hgives, hcpu, halloc⟩

theorem Overrides.form_onDefault {tree : Tree} {overrides : Overrides}
    (h : form tree overrides) : Configuration.form tree overrides.onDefault := by
  obtain ⟨given, hgives, henabled, hframes, hmillis⟩ := h
  have henabled := henabled.optional SwitchOverrides.onDefault
    (fun _ _ => SwitchOverrides.form_onDefault) {}
  have hframes := hframes.optional id (fun _ _ => id) 400
  have hinterval := hmillis.optional Duration.ofMillis (fun _ _ => Form.Made.value)
    (.ofMillis 60000)
  rw [Option.map_id] at hframes
  exact ⟨given, hgives, henabled, hframes, hinterval⟩

/-! ## Fields that are given twice -/

theorem SwitchOverrides.Repeats.findsRepeat {tree : Tree} (h : Repeats tree) :
    EnabledMetrics.shape.reader.FindsRepeat tree := by
  obtain ⟨given, hgives, hcpu, halloc, htwice⟩ := h
  refine Shape.findsRepeat (by decide) hgives (fun part hmem => ?_) ?_
  · refine List.forall_mem_cons.2 ⟨fun hname => .inl ?_, List.forall_mem_cons.2
      ⟨fun hname => .inl ?_, nofun⟩⟩
    · exact hcpu.accepts Reader.reads_boolean hmem hname
    · exact halloc.accepts Reader.reads_boolean hmem hname
  · rcases htwice with hcpu | halloc
    · exact Slots.repeats_of_givenTwice (by decide) hcpu
    · exact Slots.repeats_of_givenTwice (by decide) halloc

theorem Overrides.Repeats.findsRepeat {tree : Tree} (h : Repeats tree) :
    Configuration.shape.reader.FindsRepeat tree := by
  obtain ⟨given, hgives, henabled, hframes, hmillis, htwice⟩ := h
  refine Shape.findsRepeat (by decide) hgives (fun part hmem => ?_) ?_
  · refine List.forall_mem_cons.2 ⟨fun hname => ?_, List.forall_mem_cons.2 ⟨fun hname => .inl ?_,
      List.forall_mem_cons.2 ⟨fun hname => .inl ?_, nofun⟩⟩⟩
    · rcases henabled part.2 (mem_under hmem hname) with ⟨overrides, hform⟩ | hrepeats
      · exact .inl (EnabledMetrics.reads.accepts (SwitchOverrides.form_onDefault hform))
      · exact .inr hrepeats.findsRepeat
    · exact hframes.accepts Reader.reads_count hmem hname
    · exact (hmillis.accepts Reader.reads_word64 hmem hname).map Duration.ofMillis
  · rcases htwice with henabled | hframes | hmillis | ⟨tree, hmem, hrepeats⟩
    · exact Slots.repeats_of_givenTwice (by decide) henabled
    · exact Slots.repeats_of_givenTwice (by decide) hframes
    · exact Slots.repeats_of_givenTwice (by decide) hmillis
    · exact .inr (.inr (.inl ⟨tree, hmem, hrepeats.findsRepeat⟩))

/-! ## What is read -/

/-- **What becomes of the fields that are given**, by their values alone. -/
structure Overrides.ReadAs (overrides : Overrides)
    (result : Except ConfigurationError Configuration) : Prop where
  /-- In range, they are in the place of their defaults. -/
  accepted : overrides.onDefault.maxFrames.toNat ≤ maxFramesLimit →
    Duration.ofMillis 1 ≤ overrides.onDefault.flushInterval → result = .ok overrides.onDefault
  /-- A budget past the limit has been given, and is refused whatever the interval is. -/
  invalidMaxFrames : maxFramesLimit < overrides.onDefault.maxFrames.toNat →
    ∃ n, overrides.maxFrames = some n ∧ result = .error (.invalidMaxFrames n)
  /-- With a budget in range, an interval that is too short has been given, and is refused. -/
  flushIntervalTooShort : overrides.onDefault.maxFrames.toNat ≤ maxFramesLimit →
    overrides.onDefault.flushInterval < .ofMillis 1 →
    overrides.millis = some 0 ∧ result = .error (.flushIntervalTooShort .zero)
  /-- Nothing is unreadable in them. -/
  readable : ∀ fault, result ≠ .error (.unreadable fault)

/-- The checks of a configuration are those of what is given for it. -/
theorem Overrides.readAs_validate (overrides : Overrides) :
    overrides.ReadAs (overrides.onDefault.validate.map fun _ => overrides.onDefault) where
  accepted := fun hframes hinterval => by
    rw [Configuration.validate_eq_ok_iff.2 ⟨hframes, hinterval⟩]
    rfl
  invalidMaxFrames := fun hlimit => by
    rw [Configuration.validate_eq_invalidMaxFrames_iff.2 ⟨hlimit, rfl⟩]
    cases hgiven : overrides.maxFrames with
    | none =>
      have hdefault : overrides.onDefault.maxFrames = 400 := by rw [onDefault, hgiven]; rfl
      rw [hdefault] at hlimit
      exact absurd hlimit (by decide)
    | some n => exact ⟨n, rfl, by rw [onDefault, hgiven]; rfl⟩
  flushIntervalTooShort := fun hframes hshort => by
    rw [Configuration.validate_eq_flushIntervalTooShort_iff.2 ⟨hframes, hshort, rfl⟩]
    cases hgiven : overrides.millis with
    | none =>
      have hdefault : overrides.onDefault.flushInterval = .ofMillis 60000 := by
        rw [onDefault, hgiven]
        rfl
      rw [hdefault] at hshort
      exact absurd hshort (by decide)
    | some n =>
      have hinterval : overrides.onDefault.flushInterval = .ofMillis n := by
        rw [onDefault, hgiven]
        rfl
      rw [hinterval] at hshort ⊢
      obtain rfl : n = 0 := by
        by_contra hne
        exact Nat.not_lt.2 ((Duration.ofMillis_one_le_iff n).2 hne) hshort
      exact ⟨rfl, rfl⟩
  readable := fun fault h => by
    rcases overrides.onDefault.validate_cases with ⟨-, heq⟩ | ⟨-, -, heq⟩ | ⟨-, -, heq⟩
    all_goals
      rw [heq] at h
      cases h

namespace Configuration

/-- **A configuration is read as what its text gives**, whatever the text is like: with the given
fields in the place of their defaults, if that is in range, and else refused for being out of
range. A text that gives a field twice is refused for that. -/
theorem ofJson_overrides {s : List Char} {tree : Tree} (htext : IsText s tree) :
    (∀ overrides, Overrides.form tree overrides → overrides.ReadAs (ofJson s)) ∧
      (Overrides.Repeats tree →
        ∃ name, ofJson s = .error (.unreadable (.mismatch (.duplicateField name)))) := by
  refine ⟨fun overrides hform => ?_, fun hrepeats => ?_⟩
  · have hread := Configuration.reads.whole_eq_ok_iff.2
      ⟨tree, htext, Overrides.form_onDefault hform⟩
    rw [ofJson_of_whole hread]
    exact overrides.readAs_validate
  · obtain ⟨b, t, b', rfl, hb, htree, hb'⟩ := htext
    obtain ⟨name, hrun⟩ := hrepeats.findsRepeat b t b' hb htree hb'.delimited
    refine ⟨name, ofJson_of_whole_error ?_⟩
    rw [Reader.whole, hrun]
    rfl

/-- Some fields among another one and with white space, the switches by position. -/
def presented : List Char :=
  "\x7b \"flush_interval\": 5, \"depth\": null, \"enabled_metrics\": [false] \x7d\n".toList

/-- What is in the text. -/
def presentedTree : Tree :=
  .object [("flush_interval".toList, .number ['5']), ("depth".toList, .null),
    ("enabled_metrics".toList, .array [.boolean false])]

/-- A field given twice, the second time with another value. -/
def repeated : List Char := "\x7b\"max_frames\":1,\"max_frames\":2\x7d".toList

/-- What is in that text. -/
def repeatedTree : Tree :=
  .object [("max_frames".toList, .number ['1']), ("max_frames".toList, .number ['2'])]

theorem isText_presented : IsText presented presentedTree := by
  have hflush : Says "flush_interval".toList "flush_interval" := says_toList (by decide)
  have hdepth : Says "depth".toList "depth" := says_toList (by decide)
  have henabled : Says "enabled_metrics".toList "enabled_metrics" := says_toList (by decide)
  have hfive : Decimal ['5'] 5 := decimal_writeNat 5
  have hblank : ∀ c, isBlank c = true → Blank [c] := fun c h => List.forall_mem_singleton.2 h
  have hspace : Blank [' '] := hblank _ rfl
  have hswitches : Spells (.array [.boolean false]) "[false]".toList :=
    .array (.next lead_nil .no (.close blank_nil))
  have hmembers : SpellsMembers true _ _ :=
    .next (.first hspace) hflush.stringText blank_nil hspace
      (.number (.unsigned hfive.unsignedText))
      (.next (.later blank_nil hspace) hdepth.stringText blank_nil hspace .null
        (.next (.later blank_nil hspace) henabled.stringText blank_nil hspace hswitches
          (.close hspace)))
  exact ⟨[], _, ['\n'], by decide, blank_nil, .object hmembers, hblank _ rfl⟩

theorem form_presentedTree :
    Overrides.form presentedTree ⟨some ⟨some false, none⟩, none, some 5⟩ := by
  have hgiven : Gives ["enabled_metrics", "max_frames", "flush_interval"] presentedTree
      [("flush_interval", .number ['5']), ("depth", .null),
        ("enabled_metrics", .array [.boolean false])] :=
    .object (.cons ⟨says_toList (by decide), rfl⟩ (.cons ⟨says_toList (by decide), rfl⟩
      (.cons ⟨says_toList (by decide), rfl⟩ .nil)))
  have hswitches : SwitchOverrides.form (.array [.boolean false]) ⟨some false, none⟩ :=
    ⟨_, .array (by decide), ⟨_, rfl, .boolean false⟩, rfl⟩
  exact ⟨_, hgiven, ⟨_, rfl, hswitches⟩, rfl, _, rfl, .digits (decimal_writeNat 5)⟩

theorem isText_repeated : IsText repeated repeatedTree := by
  have hframes : Says "max_frames".toList "max_frames" := says_toList (by decide)
  have hone : Decimal ['1'] 1 := decimal_writeNat 1
  have htwo : Decimal ['2'] 2 := decimal_writeNat 2
  have hmembers : SpellsMembers true _ _ :=
    .next lead_nil hframes.stringText blank_nil blank_nil (.number (.unsigned hone.unsignedText))
      (.next (.later blank_nil blank_nil) hframes.stringText blank_nil blank_nil
        (.number (.unsigned htwo.unsignedText)) (.close blank_nil))
  exact ⟨[], _, [], by decide, blank_nil, .object hmembers, blank_nil⟩

theorem repeats_repeatedTree : Overrides.Repeats repeatedTree := by
  have hframes : Says "max_frames".toList "max_frames" := says_toList (by decide)
  have hgiven : Gives ["enabled_metrics", "max_frames", "flush_interval"] repeatedTree
      [("max_frames", .number ['1']), ("max_frames", .number ['2'])] :=
    .object (.cons ⟨hframes, rfl⟩ (.cons ⟨hframes, rfl⟩ .nil))
  have hone : Form.Natural UInt64.toNat (.number ['1']) 1 := .digits (decimal_writeNat 1)
  have htwo : Form.Natural UInt64.toNat (.number ['2']) 2 := .digits (decimal_writeNat 2)
  have hstand : AllStand "max_frames" (Form.Natural UInt64.toNat)
      [("max_frames", .number ['1']), ("max_frames", .number ['2'])] :=
    List.forall_mem_cons.2 ⟨⟨1, hone⟩, List.forall_mem_cons.2 ⟨⟨2, htwo⟩, nofun⟩⟩
  exact ⟨_, hgiven, nofun, hstand, nofun, .inr (.inl (Nat.le_refl 2))⟩

-- what is not given stands at its default, and nothing is read where a field is given twice
theorem ofJson_presented :
    (IsText presented presentedTree ∧
      Overrides.form presentedTree ⟨some ⟨some false, none⟩, none, some 5⟩ ∧
      ofJson presented = .ok ⟨⟨false, true⟩, 400, .ofMillis 5⟩) ∧
    (IsText repeated repeatedTree ∧ Overrides.Repeats repeatedTree ∧
      ∃ name, ofJson repeated = .error (.unreadable (.mismatch (.duplicateField name)))) := by
  have hread := (ofJson_overrides isText_presented).1 _ form_presentedTree
  exact ⟨⟨isText_presented, form_presentedTree, hread.accepted (by decide) (by decide)⟩,
    isText_repeated, repeats_repeatedTree,
    (ofJson_overrides isText_repeated).2 repeats_repeatedTree⟩

end Configuration

end StackProfiler
