import SimControl.Proofs.Catalog.Shape
import SimControl.Proofs.Device.KeyCodes
import SimControl.Proofs.Registry.Payload

/-!
# Key sequences

Every pattern of the catalog has to take a letter (`writtenRules_lettered`), so none finds anything in a text of
digits, white space and commas. Behind the words `press key sequence` such a text is therefore what the key codes
are read from, however it is laid out: `resolve_keySequence`.
-/

namespace SimControl

open Pattern

/-! ## Letters -/

/-- A letter or a sign that lists of numerals are not written with. -/
def CharSet.isForeign : CharSet → Bool
  | .literal a => !Text.isListChar (Text.fold a)
  | _ => false

theorem Text.fold_of_isListChar {c : Char} (h : isListChar c = true) : fold c = c := by
  rcases Bool.or_eq_true_iff.1 h with hdigit | hseparator
  · exact fold_of_isDecimalDigit hdigit
  · rcases Bool.or_eq_true_iff.1 hseparator with hcomma | hblank
    · obtain rfl := beq_iff_eq.1 hcomma
      decide
    · exact fold_of_isBlank hblank

theorem CharSet.not_contains_of_isForeign {set : CharSet} (hset : set.isForeign = true) {c : Char}
    (hc : Text.isListChar c = true) : set.contains c = false := by
  cases set with
  | literal a =>
      refine Bool.eq_false_iff.2 fun hsame => ?_
      rw [CharSet.contains, Text.sameLetter, beq_iff_eq, Text.fold_of_isListChar hc] at hsame
      rw [CharSet.isForeign, hsame, hc] at hset
      cases hset
  | _ => cases hset

theorem Text.IsRun.not_conjunction {piece : List Char} (h : IsRun piece) : Extractor.isConjunction piece = false := by
  obtain ⟨c, rest, rfl⟩ := List.exists_cons_of_ne_nil h.ne_nil
  have hdigit := h.digits c List.mem_cons_self
  have hfold : ∀ d, isDecimalDigit (fold d) = false → fold c ≠ fold d := by
    intro d hd heq
    rw [← heq, fold_of_isDecimalDigit hdigit, hdigit] at hd
    cases hd
  exact Extractor.isConjunction_eq_false (hfold 'a' (by decide)) (hfold 'y' (by decide))

namespace Registry

set_option maxRecDepth 4000 in
/-- Every pattern of the catalog has to take such a letter. -/
theorem writtenRules_lettered : ∀ written ∈ writtenRules, ∃ pattern,
    ofText? written.2 = some pattern ∧ pattern.takes CharSet.isForeign = true := by
  repeat' first
    | exact exists_of_ofChars? (by decide +kernel)
    | exact List.forall_mem_nil _
    | refine List.forall_mem_cons.2 ⟨?_, ?_⟩

/-- The built-in patterns find nothing in a list of numerals. -/
theorem find?_of_isListChar {rule : Rule} (hrule : rule ∈ builtin.rules) {text : List Char}
    (h : ∀ c ∈ text, Text.isListChar c = true) : rule.find? text = none := by
  obtain ⟨number, hnumber⟩ := List.mem_iff_getElem?.1 hrule
  obtain ⟨written, hwritten, hreads⟩ := exists_written hnumber
  obtain ⟨pattern, hpattern, htakes⟩ := writtenRules_lettered written (List.mem_of_getElem? hwritten)
  rw [hreads.pattern_eq] at hpattern
  obtain rfl := Option.some.inj hpattern
  rw [Rule.find?, find?_of_takes htakes fun set hset c hc => CharSet.not_contains_of_isForeign hset (h c hc)]
  rfl

/-! ## Recognition -/

/-- The parameters of a key sequence are the numbers that the pieces of its text are read as. -/
theorem get?_extract_keySequence {d : Definition} (hentry : d.entry = Catalog.Ui.pressKeySequence) {m : Match}
    {cs : List Char} (hcs : ∀ c ∈ cs, Text.isListChar c = true) (hne : Text.trim cs ≠ [])
    (hgroups : m.groups = [("keyCodes", Text.trim cs)]) :
    (d.extract m).get? "keyCodes" =
        ((Text.pieces Text.isListSeparator cs).mapM Extractor.integerValue?).map .array ∧
      (d.extract m).get? "sessionId" = none := by
  have hnames : "keyCodes" ∈ d.entry.parameterNames ∧ "sessionId" ∈ d.entry.parameterNames := by
    rw [hentry]
    decide
  have hcodes : (d.entry.parameter? "keyCodes").bind (·.extractor) = some .integerList := by
    rw [hentry]
    decide
  have hsession : (d.entry.parameter? "sessionId").bind (·.extractor) = none := by
    rw [hentry]
    decide
  have hgroup : m.group? "keyCodes" = some (Text.trim cs) := by
    rw [Match.group?, hgroups, List.lookup_cons_self]
  have hother : m.group? "sessionId" = none := by
    rw [Match.group?, hgroups]
    rfl
  have hcaptured := Extractor.captured?_of_group? hgroup (by rwa [Text.trim_trim])
  have hentries : Extractor.entries (Text.trim (Text.trim cs)) = Text.pieces Text.isListSeparator cs := by
    rw [Text.trim_trim, Extractor.entries, Text.pieces_trim, List.filter_eq_self]
    intro piece hpiece
    rw [(Params.isRun_of_mem_pieces hcs piece hpiece).not_conjunction]
    rfl
  constructor
  · rw [Definition.get?_extract, if_pos hnames.1, Definition.parameterValue?]
    simp only [hcodes, Extractor.apply, hcaptured, Option.bind_some, hentries]
  · rw [Definition.get?_extract, if_pos hnames.2]
    exact Definition.parameterValue?_of_absent hother (by rw [hsession]; decide) (by rw [hsession]; decide)

/-- A text that lists numerals behind the words is recognized as a key sequence. -/
theorem resolve_keySequence {s : String} (hs : ∀ c ∈ s.toList, Text.isListChar c = true)
    (hsome : ∃ c ∈ s.toList, Text.isBlank c = false) :
    ∃ params : Params, builtin.resolve ("press key sequence " ++ s) =
        .ok ⟨.pressKeySequence, "press key sequence", params⟩ ∧
      params.get? "keyCodes" =
        ((Text.pieces Text.isListSeparator s.toList).mapM Extractor.integerValue?).map .array ∧
      params.get? "sessionId" = none := by
  obtain ⟨c, hc, hblank⟩ := hsome
  have hne : Text.trim s.toList ≠ [] := Text.trim_ne_nil hc hblank
  have htrim : ∀ c ∈ Text.trim s.toList, Text.isListChar c = true := fun c hc => hs c (Text.mem_of_mem_trim hc)
  have htail : GivesAll Phrase.pressKeySequence.tail "keyCodes" (Text.trim s.toList) := by
    refine givesAll_run hne (fun c hc => ?_) "keyCodes"
    refine CharSet.contains_listed (Text.fold_of_isListChar (htrim c hc)) ?_
    rcases Bool.or_eq_true_iff.1 (htrim c hc) with hdigit | hseparator
    · exact ⟨.digit, by simp, hdigit⟩
    · rcases Bool.or_eq_true_iff.1 hseparator with hcomma | hblank
      · exact ⟨.single ',', by simp, by rw [beq_iff_eq.1 hcomma]; rfl⟩
      · exact ⟨.blank, by simp, hblank⟩
  obtain ⟨d, m, hentry, hgroups, hresolve⟩ := resolve_said (by simp [Phrase.all]) hne htail
  have hsilent : Phrase.pressKeySequence.earlierMatch? (Text.trim s.toList) = none :=
    List.findSome?_eq_none_iff.2 fun rule hrule => find?_of_isListChar (List.mem_of_mem_take hrule) htrim
  have hwords : String.ofList Phrase.pressKeySequence.words ++ " " = "press key sequence " := by decide
  have hsaid := hresolve d m (by rw [hsilent, Option.getD_none])
  rw [hwords, Definition.kind, Definition.name, hentry] at hsaid
  exact ⟨d.extract m, hsaid, get?_extract_keySequence hentry hs hne hgroups⟩

end Registry

end SimControl
