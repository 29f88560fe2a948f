import SimControl.Proofs.Catalog.Extraction
import SimControl.Proofs.Catalog.Shape
import SimControl.Proofs.Pattern.Spelling
import SimControl.Proofs.Registry.Builtin
import SimControl.Proofs.Text.Variant

/-!
# Buttons in instructions

The name of a button is found in any case and put into upper case. Letters are compared by their simple folding,
which makes the Kelvin sign and the long s letters of the alphabet; the upper case of the long s is an S, but the
Kelvin sign is its own upper case. So the upper case of a spelled label is the label, or it is `LOCK` with a Kelvin
sign (`upper_of_spells`), and nothing else is what an instruction to press a button gives (`extract_button`).
-/

namespace SimControl

open Pattern Text

/-! ## Labels in any case -/

namespace DeviceButton

/-- The Kelvin sign, which is the letter K of a label. -/
def kelvinSign : Char := '\u212A'

/-- The characters of the label `LOCK` in upper case, if its last letter is a Kelvin sign. -/
def kelvinLabel : List Char := ['L', 'O', 'C', kelvinSign]

theorem fold_of_label (b : DeviceButton) : ∀ a ∈ b.label.toList, 0 < (fold a).toNat := by
  cases b <;> exact List.all_iff_forall_prop.1 (by decide +kernel)

/-- The letters of a label, each with each of its variants. -/
def variants (b : DeviceButton) : List (Char × Char) :=
  b.label.toList.flatMap fun a => (caseVariants a).map fun c => (a, c)

/-- All variants of a letter in a label have it as their upper case, but for the Kelvin sign. -/
theorem upperChar_of_variants (b : DeviceButton) : ∀ v ∈ b.variants,
    isBlank v.2 = false ∧ (upperChar v.2 = [v.1] ∨ v.1 = 'K' ∧ v.2 = kelvinSign) := by
  cases b <;> decide +kernel

theorem upperChar_of_sameLetter {b : DeviceButton} {a c : Char} (ha : a ∈ b.label.toList)
    (h : sameLetter a c = true) : isBlank c = false ∧ (upperChar c = [a] ∨ a = 'K' ∧ c = kelvinSign) := by
  have hvariant : (a, c) ∈ b.variants := by
    rw [variants, List.mem_flatMap]
    exact ⟨a, ha, List.mem_map_of_mem (mem_caseVariants h (b.fold_of_label a ha))⟩
  have hupper := upperChar_of_variants b (a, c) hvariant
  dsimp only at hupper
  exact hupper

end DeviceButton

theorem Pattern.Spells.upper_eq {word cs : List Char} (h : Spells word cs)
    (hletters : ∀ a ∈ word, ∀ c, sameLetter a c = true → upperChar c = [a]) : upper cs = word := by
  induction h with
  | nil => rfl
  | cons hc _ ih =>
      rw [List.forall_mem_cons] at hletters
      rw [upper, List.flatMap_cons, hletters.1 _ hc, ← upper, ih hletters.2]
      rfl

namespace DeviceButton

theorem trim_of_spells {b : DeviceButton} {cs : List Char} (h : Spells b.label.toList cs) :
    trim cs = cs ∧ cs ≠ [] := by
  have hblank : ∀ {word cs : List Char}, Spells word cs → (∀ a ∈ word, a ∈ b.label.toList) →
      ∀ c ∈ cs, isBlank c = false := by
    intro word cs h
    induction h with
    | nil => exact fun _ _ hc => absurd hc List.not_mem_nil
    | cons hc _ ih =>
        intro hword
        rw [List.forall_mem_cons] at hword ⊢
        exact ⟨(upperChar_of_sameLetter hword.1 hc).1, ih hword.2⟩
  refine ⟨trim_of_no_blank (hblank h fun _ => id), ?_⟩
  rintro rfl
  have hnil : b.label.toList = [] := List.forall₂_nil_right_iff.1 h
  cases b <;> exact absurd hnil (by decide +kernel)

/-- The upper case of a spelled label is the label, or it is `LOCK` with a Kelvin sign. -/
theorem upper_of_spells {b : DeviceButton} {cs : List Char} (h : Spells b.label.toList cs) :
    upper cs = b.label.toList ∨ kelvinSign ∈ cs ∧ upper cs = kelvinLabel := by
  by_cases hlock : b = .lock
  · subst hlock
    have hletters : DeviceButton.lock.label.toList = ['L', 'O', 'C', 'K'] := by decide +kernel
    have hupper : ∀ {a c : Char}, a ∈ ['L', 'O', 'C', 'K'] → sameLetter a c = true →
        upperChar c = [a] ∨ a = 'K' ∧ c = kelvinSign :=
      fun ha hc => (upperChar_of_sameLetter (hletters ▸ ha) hc).2
    rw [hletters] at h ⊢
    obtain ⟨l, cs, hl, hcs, rfl⟩ := List.forall₂_cons_left_iff.1 h
    obtain ⟨o, ds, ho, hds, rfl⟩ := List.forall₂_cons_left_iff.1 hcs
    obtain ⟨c, es, hc, hes, rfl⟩ := List.forall₂_cons_left_iff.1 hds
    obtain ⟨k, fs, hk, hfs, rfl⟩ := List.forall₂_cons_left_iff.1 hes
    obtain rfl := List.forall₂_nil_left_iff.1 hfs
    have hl := (hupper (by decide) hl).resolve_right fun hkelvin => absurd hkelvin.1 (by decide)
    have ho := (hupper (by decide) ho).resolve_right fun hkelvin => absurd hkelvin.1 (by decide)
    have hc := (hupper (by decide) hc).resolve_right fun hkelvin => absurd hkelvin.1 (by decide)
    simp only [upper, List.flatMap_cons, List.flatMap_nil, hl, ho, hc]
    rcases hupper (by decide) hk with hk | ⟨-, rfl⟩
    · exact .inl (by rw [hk]; rfl)
    · exact .inr ⟨by simp, by rw [show upperChar kelvinSign = [kelvinSign] by decide +kernel]; rfl⟩
  · refine .inl (h.upper_eq fun a ha c hc => (upperChar_of_sameLetter ha hc).2.resolve_right ?_)
    rintro ⟨rfl, -⟩
    cases b with
    | lock => exact hlock rfl
    | applePay | home | sideButton | siri => exact absurd ha (by decide +kernel)

end DeviceButton

/-! ## Recognition -/

namespace Registry

theorem pressDeviceButton_of_kind : ∀ entry ∈ catalog, entry.kind = .pressDeviceButton →
    entry = Catalog.Ui.pressDeviceButton := by
  decide +kernel

/-- Every way through the pattern gives a spelled label to the button, and there are no other groups. -/
def NamesButton (pattern : Pattern) : Prop :=
  pattern.records "button" = true ∧ ∀ capture ∈ pattern.captures, capture.1 = "button" ∧
    capture.2.spellings? = some (DeviceButton.all.map fun b => b.label.toList)

instance (pattern : Pattern) : Decidable (NamesButton pattern) :=
  inferInstanceAs (Decidable (_ ∧ _))

theorem namesButton_of_ofChars? {cs : List Char} (h : (ofChars? cs).all (fun p => decide (NamesButton p)) = true) :
    ∀ pattern, ofText? (String.ofList cs) = some pattern → NamesButton pattern := by
  intro pattern hpattern
  rw [ofText?_ofList] at hpattern
  rw [hpattern] at h
  exact of_decide_eq_true h

theorem pressDeviceButton_names : ∀ source ∈ Catalog.Ui.pressDeviceButton.patterns, ∀ pattern,
    ofText? source = some pattern → NamesButton pattern := by
  repeat' first
    | exact namesButton_of_ofChars? (by decide +kernel)
    | exact List.forall_mem_nil _
    | refine List.forall_mem_cons.2 ⟨?_, ?_⟩

/-- An instruction to press a button gives the upper case of a spelled label, and nothing else. -/
theorem extract_button {text : List Char} {d : Definition} {m : Match}
    (hfirst : builtin.firstMatch? text = some (d, m)) (hkind : d.kind = .pressDeviceButton) :
    ∃ cs, cs <:+: text ∧ (∃ b : DeviceButton, Spells b.label.toList cs) ∧
      d.extract m = .ofList [("button", .string (String.ofList (upper cs)))] := by
  obtain ⟨hentry, source, hsource, pattern, hpattern, hfind⟩ := written_of_firstMatch? hfirst
  have hpress := pressDeviceButton_of_kind _ hentry hkind
  obtain ⟨hrecords, hcaptures⟩ := pressDeviceButton_names source (hpress ▸ hsource) pattern hpattern
  obtain ⟨cs, hgroup, hwithin, word, hword, hspells⟩ :=
    exists_spelled hrecords (fun capture hcapture _ => (hcaptures capture hcapture).2) hfind
  obtain ⟨b, -, rfl⟩ := List.mem_map.1 hword
  refine ⟨cs, hwithin, ⟨b, hspells⟩, ?_⟩
  have hothers : ∀ other, other ≠ "button" → m.group? other = none := by
    intro other hother
    refine Option.eq_none_iff_forall_ne_some.2 fun given hgiven => ?_
    obtain ⟨body, hbody, -⟩ := capturedBy_of_find? hfind hgiven
    exact hother (hcaptures _ hbody).1
  obtain ⟨htrim, hne⟩ := DeviceButton.trim_of_spells hspells
  have hbutton : d.parameterValue? m "button" = some (.string (String.ofList (upper cs))) := by
    have hextractor : (Catalog.Ui.pressDeviceButton.parameter? "button").bind (·.extractor) = some .uppercase := by
      decide +kernel
    rw [Definition.parameterValue?, hpress, hextractor]
    simp only [Extractor.apply]
    rw [Extractor.captured?_of_group? hgroup (by rwa [htrim]), htrim]
    rfl
  have hduration : d.parameterValue? m "duration" = none := by
    have hextractor : (Catalog.Ui.pressDeviceButton.parameter? "duration").bind (·.extractor) =
        some .optionalInteger := by
      decide +kernel
    rw [Definition.parameterValue?, hpress, hextractor]
    simp only [Extractor.apply, Extractor.captured?, hothers "duration" (by decide)]
    rfl
  have hsession : d.parameterValue? m "sessionId" = none := by
    have hextractor : (Catalog.Ui.pressDeviceButton.parameter? "sessionId").bind (·.extractor) = none := by
      decide +kernel
    rw [Definition.parameterValue?, hpress, hextractor]
    simp only [hothers "sessionId" (by decide), Option.map_none]
  have hnames : d.entry.parameterNames = ["button", "duration", "sessionId"] := by
    rw [hpress]
    decide +kernel
  rw [Definition.extract, hnames]
  simp only [List.filterMap_cons, List.filterMap_nil, hbutton, hduration, hsession, Option.map_some, Option.map_none]

end Registry

end SimControl
