import SimControl.Proofs.Catalog.Extraction
import SimControl.Proofs.Registry.Case
import SimControl.Proofs.Registry.Phrase

/-!
# The free parameter of an instruction

What stands behind the words of a phrase is the parameter of its command, unless a rule that is tried earlier
finds an instruction in it. A parameter without white space can only be taken for a bare `screenshot`, since all
other rules need white space. A text to type can hold any instruction. `resolve_free_parameter` says both.
-/

namespace SimControl

open Pattern

namespace Registry

/-! ## Phrases -/

theorem phrase_begins : ∀ phrase ∈ Phrase.all, ∃ c word, phrase.words = c :: word ∧ Text.isBlank c = false := by
  repeat' first
    | exact ⟨_, _, rfl, rfl⟩
    | exact List.forall_mem_nil _
    | refine List.forall_mem_cons.2 ⟨?_, ?_⟩

/-- The text of a phrase is recognized by what an earlier rule finds behind the words, and by the rule of the phrase
otherwise. -/
theorem resolve_said {phrase : Phrase} (hphrase : phrase ∈ Phrase.all) {name t : String}
    (ht : Text.trim t.toList ≠ []) (htail : GivesAll phrase.tail name (Text.trim t.toList)) :
    ∃ d m, d.entry = phrase.entry ∧ m.groups = [(name, Text.trim t.toList)] ∧
      ∀ d' m', (phrase.earlierMatch? (Text.trim t.toList)).getD (d, m) = (d', m') →
        builtin.resolve (String.ofList phrase.words ++ " " ++ t) = .ok ⟨d'.kind, d'.name, d'.extract m'⟩ := by
  obtain ⟨c, word, hwords, hc⟩ := phrase_begins phrase hphrase
  have hblanks : ∀ c ∈ t.toList.takeWhile Text.isBlank, Text.isBlank c = true := fun c hc =>
    List.mem_takeWhile_imp hc
  obtain ⟨d, m, hentry, hgroups, hfirst⟩ :=
    firstMatch?_phrase hphrase hblanks (fun c hc => Text.head_trim hc) htail
  have htrim : Text.trim (String.ofList phrase.words ++ " " ++ t).toList =
      phrase.words ++ (' ' :: t.toList.takeWhile Text.isBlank ++ Text.trim t.toList) := by
    rw [String.toList_append, String.toList_append, String.toList_ofList, List.append_assoc, hwords]
    exact Text.trim_words hc ht
  have hne : (Text.trim (String.ofList phrase.words ++ " " ++ t).toList).isEmpty = false := by
    rw [htrim, hwords]
    rfl
  rw [← htrim] at hfirst
  refine ⟨d, m, hentry, hgroups, fun d' m' hfound => ?_⟩
  rw [hfound] at hfirst
  exact resolve_of_firstMatch? hne hfirst

/-- The text of a phrase is recognized as what stands behind the words, if an earlier rule finds something
there, and as the command of the phrase with this parameter otherwise. -/
theorem resolve_phrase {phrase : Phrase} (hphrase : phrase ∈ Phrase.all) {name t : String}
    (honly : phrase.entry.takesOnly name = true) (ht : Text.trim t.toList ≠ [])
    (htail : GivesAll phrase.tail name (Text.trim t.toList)) :
    (phrase.earlierMatch? (Text.trim t.toList) = none →
      builtin.resolve (String.ofList phrase.words ++ " " ++ t) =
        .ok ⟨phrase.entry.kind, phrase.entry.name, .ofList [(name, .string (Text.trimmed t))]⟩) ∧
    ∀ d m, phrase.earlierMatch? (Text.trim t.toList) = some (d, m) →
      builtin.resolve (String.ofList phrase.words ++ " " ++ t) = .ok ⟨d.kind, d.name, d.extract m⟩ := by
  obtain ⟨d, m, hentry, hgroups, hresolve⟩ := resolve_said hphrase ht htail
  refine ⟨fun hnone => ?_, fun d' m' hsome => ?_⟩
  · rw [hresolve d m (by rw [hnone, Option.getD_none]),
      Definition.extract_of_group (hentry.symm ▸ honly) hgroups (by rwa [Text.trim_trim]), Text.trim_trim,
      Definition.kind, Definition.name, hentry]
    rfl
  · exact hresolve d' m' (by rw [hsome, Option.getD_some])

/-! ## Bare screenshots -/

/-- The rule for a screenshot is the word, behind which a path may follow after white space. -/
theorem screenshot_written : ∃ source more, writtenRules[screenshotPlace]? =
      some (Catalog.Capture.takeScreenshot, String.ofList source) ∧
    ofChars? source = some (literals "screenshot".toList (.optional true more)) ∧
    more.takes (· == .blank) = true :=
  ⟨_, _, rfl, rfl, by decide⟩

/-- In a text without white space the rules before a phrase find the word `screenshot` or nothing. -/
theorem earlierMatch?_of_no_blank (phrase : Phrase) (hplace : screenshotPlace < phrase.place) {text : List Char}
    (hblank : ∀ c ∈ text, Text.isBlank c = false) :
    (¬ "screenshot".toList <:+: text.map Text.fold → phrase.earlierMatch? text = none) ∧
      ("screenshot".toList <:+: text.map Text.fold → ∃ d m, phrase.earlierMatch? text = some (d, m) ∧
        d.entry = Catalog.Capture.takeScreenshot ∧ m.groups = []) := by
  obtain ⟨source, more, hwritten, hsource, hmore⟩ := screenshot_written
  obtain ⟨bare, hbare, hreads⟩ := exists_rule hwritten
  have hpattern := hreads.pattern_eq
  rw [ofText?_ofList, hsource, Option.some.injEq] at hpattern
  obtain ⟨hgroups, hfinds⟩ := find?_word "screenshot".toList hmore hblank
  rw [hpattern] at hgroups hfinds
  rw [show "screenshot".toList.map Text.fold = "screenshot".toList by decide] at hfinds
  have hothers : ∀ rule ∈ builtin.rules.take phrase.place, ∀ found, rule.find? text = some found →
      rule = bare := by
    intro rule hrule found hfound
    obtain ⟨number, -, hsome⟩ := mem_take_iff_getElem?.1 hrule
    rcases Bool.or_eq_true_iff.1 (Bool.and_eq_true_iff.1 (unheard_of_rule hsome)).2 with heq | htakes
    · rw [beq_iff_eq.1 heq, hbare] at hsome
      exact (Option.some.inj hsome).symm
    · rw [Rule.find?, find?_of_no_blank htakes hblank] at hfound
      cases hfound
  constructor
  · intro hmissing
    refine List.findSome?_eq_none_iff.2 fun rule hrule => ?_
    cases hfound : rule.find? text with
    | none => rfl
    | some found =>
        obtain rfl := hothers rule hrule found hfound
        obtain ⟨m, hm, -⟩ := Option.map_eq_some_iff.1 hfound
        exact absurd (hfinds.1 (Option.isSome_iff_exists.2 ⟨m, hm⟩)) hmissing
  · intro hoccurs
    have hmem : bare ∈ builtin.rules.take phrase.place :=
      mem_take_iff_getElem?.2 ⟨screenshotPlace, hplace, hbare⟩
    obtain ⟨m, hm⟩ := Option.isSome_iff_exists.1 (hfinds.2 hoccurs)
    have hsome : (phrase.earlierMatch? text).isSome = true :=
      List.findSome?_isSome_iff.2 ⟨bare, hmem, by rw [Rule.find?, hm]; rfl⟩
    obtain ⟨⟨d, m'⟩, hfound⟩ := Option.isSome_iff_exists.1 hsome
    obtain ⟨rule, hrule, hfind⟩ := List.exists_of_findSome?_eq_some hfound
    obtain rfl := hothers rule hrule _ hfind
    obtain ⟨m'', hm'', hpair⟩ := Option.map_eq_some_iff.1 hfind
    obtain ⟨rfl, rfl⟩ := Prod.mk.inj hpair
    exact ⟨rule.definition, m'', hfound, hreads.entry_eq, hgroups m'' hm''⟩

/-! ## Tokens -/

/-- A text that is not empty and has neither white space nor commas. -/
structure IsToken (v : String) : Prop where
  ne_nil : v.toList ≠ []
  blank : ∀ c ∈ v.toList, Text.isBlank c = false
  comma : ',' ∉ v.toList

instance (v : String) : Decidable (IsToken v) :=
  decidable_of_iff (v.toList ≠ [] ∧ v.toList.all (fun c => !Text.isBlank c) = true ∧ ',' ∉ v.toList)
    ⟨fun h => ⟨h.1, by simpa using h.2.1, h.2.2⟩, fun h => ⟨h.ne_nil, by simpa using h.blank, h.comma⟩⟩

/-- The word `screenshot` occurs in the text, in any case. -/
def Mentions (v : String) : Prop :=
  "screenshot".toList <:+: v.toList.map Text.fold

instance (v : String) : Decidable (Mentions v) :=
  inferInstanceAs (Decidable (_ <:+: _))

variable {v : String}

theorem IsToken.argument (h : IsToken v) (name : String) : GivesAll (Phrase.argument name) name v.toList :=
  givesAll_run h.ne_nil (fun c hc => CharSet.contains_unlisted (h.blank c hc) fun heq => h.comma (heq ▸ hc)) name

theorem IsToken.nonblank (h : IsToken v) (name : String) :
    GivesAll (.group name (.oneOrMore true (.chars .nonblank))) name v.toList := by
  have hin : ∀ c ∈ v.toList, CharSet.nonblank.contains c = true := fun c hc => congrArg (!·) (h.blank c hc)
  exact givesAll_run h.ne_nil hin name

theorem resolve_token (h : IsToken v) (phrase : Phrase) (hphrase : phrase ∈ Phrase.all) {name : String}
    (hplace : screenshotPlace < phrase.place) (honly : phrase.entry.takesOnly name = true)
    (htail : GivesAll phrase.tail name v.toList) :
    (¬ Mentions v → builtin.resolve (String.ofList phrase.words ++ " " ++ v) =
      .ok ⟨phrase.entry.kind, phrase.entry.name, .ofList [(name, .string v)]⟩) ∧
    (Mentions v → builtin.resolve (String.ofList phrase.words ++ " " ++ v) =
      .ok ⟨.takeScreenshot, "capture screen", .empty⟩) := by
  have htrim : Text.trim v.toList = v.toList := Text.trim_of_no_blank h.blank
  have htrimmed : Text.trimmed v = v := by rw [Text.trimmed, htrim, String.ofList_toList]
  obtain ⟨hown, hother⟩ := resolve_phrase hphrase honly (htrim.symm ▸ h.ne_nil) (htrim.symm ▸ htail)
  obtain ⟨hnone, hsome⟩ := earlierMatch?_of_no_blank phrase hplace h.blank
  rw [htrim] at hown hother
  rw [htrimmed] at hown
  refine ⟨fun hmissing => hown (hnone hmissing), fun hmentions => ?_⟩
  obtain ⟨d, m, hfound, hentry, hgroups⟩ := hsome hmentions
  have hscreenshot : d.entry.takesOnly "outputPath" = true := by
    rw [hentry]
    decide
  have hgroup : ∀ other, m.group? other = none := fun other => by rw [Match.group?, hgroups, List.lookup_nil]
  rw [hother d m hfound, d.extract_of_takesOnly hscreenshot fun other _ => hgroup other, Extractor.captured?,
    hgroup, Definition.kind, Definition.name, hentry]
  rfl

/-! ## Openings -/

/-- The beginning of an instruction that goes on with one parameter. -/
structure Opening where
  words : String
  kind : CommandKind
  name : String
  parameter : String

def openings : List Opening :=
  [⟨"record video", .recordVideo, "record video", "outputPath"⟩,
    ⟨"get app logs for", .getAppLogs, "get app logs", "bundleId"⟩,
    ⟨"start debug", .startDebug, "start debug", "bundleId"⟩,
    ⟨"show crash log", .showCrashLog, "show crash log", "crashName"⟩,
    ⟨"install dylib", .installDylib, "install dylib", "dylibPath"⟩,
    ⟨"open url", .openUrl, "open url", "url"⟩,
    ⟨"update contacts", .updateContacts, "update contacts", "dbPath"⟩]

/-- What an opening is recognized as with its parameter. -/
def Opening.recognition (opening : Opening) (v : String) : Recognition :=
  ⟨opening.kind, opening.name, .ofList [(opening.parameter, .string v)]⟩

theorem resolve_opening {opening : Opening} (h : opening ∈ openings) (hv : IsToken v) :
    (¬ Mentions v → builtin.resolve (opening.words ++ " " ++ v) = .ok (opening.recognition v)) ∧
    (Mentions v → builtin.resolve (opening.words ++ " " ++ v) =
      .ok ⟨.takeScreenshot, "capture screen", .empty⟩) := by
  simp only [openings, List.mem_cons, List.not_mem_nil, or_false] at h
  rcases h with rfl | rfl | rfl | rfl | rfl | rfl | rfl
  · exact resolve_token hv .recordVideo (by simp [Phrase.all]) (by decide) (by decide) (hv.argument _)
  · exact resolve_token hv .getAppLogs (by simp [Phrase.all]) (by decide) (by decide) (hv.argument _)
  · exact resolve_token hv .startDebug (by simp [Phrase.all]) (by decide) (by decide) (hv.argument _)
  · exact resolve_token hv .showCrashLog (by simp [Phrase.all]) (by decide) (by decide) (hv.argument _)
  · exact resolve_token hv .installDylib (by simp [Phrase.all]) (by decide) (by decide) (hv.argument _)
  · exact resolve_token hv .openUrl (by simp [Phrase.all]) (by decide) (by decide) (hv.nonblank _)
  · exact resolve_token hv .updateContacts (by simp [Phrase.all]) (by decide) (by decide)
      ((hv.argument _).optional (by decide) hv.blank)

/-! ## Text to type -/

/-- What an earlier rule finds in a text is what the text itself is recognized as. -/
theorem resolve_of_earlierMatch? {phrase : Phrase} {t : String} {d : Definition} {m : Match}
    (ht : Text.trim t.toList ≠ []) (h : phrase.earlierMatch? (Text.trim t.toList) = some (d, m)) :
    builtin.resolve t = .ok ⟨d.kind, d.name, d.extract m⟩ := by
  refine resolve_of_firstMatch? (List.isEmpty_eq_false_iff.2 ht) ?_
  rw [firstMatch?_eq, ← List.take_append_drop phrase.place builtin.rules, List.findSome?_append,
    show (builtin.rules.take phrase.place).findSome? _ = some (d, m) from h]
  rfl

theorem resolve_inputText {t : String} (ht : Text.trim t.toList ≠ []) (hline : '\n' ∉ t.toList) :
    (Phrase.inputText.earlierMatch? (Text.trim t.toList) = none →
      builtin.resolve ("input text" ++ " " ++ t) =
        .ok ⟨.inputText, "input text", .ofList [("text", .string (Text.trimmed t))]⟩) ∧
    (Phrase.inputText.earlierMatch? (Text.trim t.toList) ≠ none →
      builtin.resolve ("input text" ++ " " ++ t) = builtin.resolve t) := by
  have hin : ∀ c ∈ Text.trim t.toList, CharSet.inLine.contains c = true := by
    intro c hc
    exact bne_iff_ne.2 fun heq => hline (heq ▸ Text.mem_of_mem_trim hc)
  obtain ⟨hown, hother⟩ := resolve_phrase (show Phrase.inputText ∈ Phrase.all by simp [Phrase.all])
    (by decide) ht (givesAll_run ht hin "text")
  refine ⟨hown, fun hsome => ?_⟩
  obtain ⟨⟨d, m⟩, hfound⟩ := Option.ne_none_iff_exists'.1 hsome
  rw [resolve_of_earlierMatch? ht hfound]
  exact hother d m hfound

/-- The free parameter of an instruction cannot change the command, except in two ways. A token behind an opening
that mentions a screenshot is taken for a bare one. A text to type in which an earlier rule finds something is
the instruction that it is without the words before it. -/
theorem resolve_free_parameter :
    (∀ opening ∈ openings, ∀ v, IsToken v →
      (¬ Mentions v → builtin.resolve (opening.words ++ " " ++ v) = .ok (opening.recognition v)) ∧
      (Mentions v → builtin.resolve (opening.words ++ " " ++ v) =
        .ok ⟨.takeScreenshot, "capture screen", .empty⟩)) ∧
    ∀ t : String, Text.trim t.toList ≠ [] → '\n' ∉ t.toList →
      (Phrase.inputText.earlierMatch? (Text.trim t.toList) = none →
        builtin.resolve ("input text" ++ " " ++ t) =
          .ok ⟨.inputText, "input text", .ofList [("text", .string (Text.trimmed t))]⟩) ∧
      (Phrase.inputText.earlierMatch? (Text.trim t.toList) ≠ none →
        builtin.resolve ("input text" ++ " " ++ t) = builtin.resolve t) :=
  ⟨fun _ hopening _ hv => resolve_opening hopening hv, fun _ ht hline => resolve_inputText ht hline⟩

/-- A file with another name is the file to record to, and a screenshot in a link is a screenshot. -/
theorem resolve_free_parameter_clip :
    builtin.resolve ("record video" ++ " " ++ "clip.mp4") =
      .ok ⟨.recordVideo, "record video", .ofList [("outputPath", .string "clip.mp4")]⟩ ∧
    builtin.resolve ("open url" ++ " " ++ "app://Screenshot") =
      .ok ⟨.takeScreenshot, "capture screen", .empty⟩ ∧
    builtin.resolve ("input text" ++ " " ++ " hola ") =
      .ok ⟨.inputText, "input text", .ofList [("text", .string "hola")]⟩ := by
  obtain ⟨hopenings, htext⟩ := resolve_free_parameter
  refine ⟨?_, ?_, ?_⟩
  · refine (hopenings ⟨"record video", .recordVideo, "record video", "outputPath"⟩ (by simp [openings]) "clip.mp4"
      ?_).1 ?_
    · decide +kernel
    · decide +kernel
  · refine (hopenings ⟨"open url", .openUrl, "open url", "url"⟩ (by simp [openings]) "app://Screenshot" ?_).2 ?_
    · decide +kernel
    · decide +kernel
  · have hall : (Text.trim " hola ".toList).all (fun c => !Text.isBlank c) = true := by decide
    have hblank : ∀ c ∈ Text.trim " hola ".toList, Text.isBlank c = false := by
      intro c hc
      simpa using List.all_eq_true.1 hall c hc
    have hnone := (earlierMatch?_of_no_blank .inputText (by decide) hblank).1 (by decide)
    rw [(htext " hola " (by decide) (by decide)).1 hnone]
    rw [show Text.trimmed " hola " = "hola" by decide]

theorem earlierMatch?_ne_none {phrase : Phrase} {number : Nat} (hplace : number < phrase.place) {entry : Entry}
    {source text : List Char} (hlisted : writtenRules[number]? = some (entry, String.ofList source))
    (hfinds : (ofChars? source).any (fun pattern => (pattern.find? text).isSome) = true) :
    phrase.earlierMatch? text ≠ none := by
  obtain ⟨rule, hrule, hreads⟩ := exists_rule hlisted
  have hpattern := hreads.pattern_eq
  rw [ofText?_ofList] at hpattern
  rw [hpattern, Option.any_some] at hfinds
  obtain ⟨m, hm⟩ := Option.isSome_iff_exists.1 hfinds
  have hmem : rule ∈ builtin.rules.take phrase.place := mem_take_iff_getElem?.2 ⟨number, hplace, hrule⟩
  have hsome : (phrase.earlierMatch? text).isSome = true :=
    List.findSome?_isSome_iff.2 ⟨rule, hmem, by rw [Rule.find?, hm]; rfl⟩
  exact Option.isSome_iff_ne_none.1 hsome

/-- The elements of a screen are described by one of the first rules. -/
theorem firstMatch?_describeElements : ∃ d m, d.entry = Catalog.Accessibility.describeElements ∧ m.groups = [] ∧
    builtin.firstMatch?
      ['d', 'e', 's', 'c', 'r', 'i', 'b', 'e', ' ', 'e', 'l', 'e', 'm', 'e', 'n', 't', 's'] =
        some (d, m) := by
  refine exists_firstMatch? (n := 1) rfl ?_ (by decide)
  repeat' first
    | exact silent_of_ofChars? (by decide)
    | exact List.forall_mem_nil _
    | refine List.forall_mem_cons.2 ⟨?_, ?_⟩

/-- A file that is named after a screenshot is not recorded to, and the words of an instruction are not typed. -/
theorem free_parameter_changes_command :
    (¬ ∀ opening ∈ openings, ∀ v, IsToken v →
      builtin.resolve (opening.words ++ " " ++ v) = .ok (opening.recognition v)) ∧
    ¬ ∀ t : String, Text.trim t.toList ≠ [] → '\n' ∉ t.toList →
      builtin.resolve ("input text" ++ " " ++ t) =
        .ok ⟨.inputText, "input text", .ofList [("text", .string (Text.trimmed t))]⟩ := by
  constructor
  · intro h
    have hopening : (⟨"record video", .recordVideo, "record video", "outputPath"⟩ : Opening) ∈ openings := by
      simp [openings]
    have htoken : IsToken "screenshot.mp4" := by decide
    have hmentions : Mentions "screenshot.mp4" := by decide
    have hkinds := (h _ hopening _ htoken).symm.trans ((resolve_opening hopening htoken).2 hmentions)
    exact absurd (congrArg Recognition.kind (Except.ok.inj hkinds)) (by decide)
  · intro h
    have htrim : Text.trim "describe elements".toList =
        ['d', 'e', 's', 'c', 'r', 'i', 'b', 'e', ' ', 'e', 'l', 'e', 'm', 'e', 'n', 't', 's'] := by
      decide
    have hne : Text.trim "describe elements".toList ≠ [] := by decide
    have hline : '\n' ∉ "describe elements".toList := by decide
    obtain ⟨d, m, hentry, -, hfirst⟩ := firstMatch?_describeElements
    have hresolve := resolve_of_firstMatch? (List.isEmpty_eq_false_iff.2 hne) (htrim.symm ▸ hfirst)
    have hsome : Phrase.inputText.earlierMatch? (Text.trim "describe elements".toList) ≠ none :=
      earlierMatch?_ne_none (by decide : 1 < Phrase.inputText.place) rfl (by decide)
    have hresults := (h _ hne hline).symm.trans (((resolve_inputText hne hline).2 hsome).trans hresolve)
    have hkinds : CommandKind.inputText = d.kind := congrArg Recognition.kind (Except.ok.inj hresults)
    rw [Definition.kind, hentry] at hkinds
    cases hkinds

end Registry

end SimControl
