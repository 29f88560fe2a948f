import SimControl.Proofs.Catalog.Extraction
import SimControl.Proofs.Device.Required
import SimControl.Proofs.Pattern.Leads
import SimControl.Proofs.Registry.Builtin

/-!
# Numbers in instructions

A number that a text gives need not fit: it can have more than 64 bits or be written with digits that are not
read. Then the parameter is left out. Of the numbers that the patterns of the catalog capture, all but the
duration of a swipe are needed by their command (`numbers_secured`), so a recognized text either leaves out what
its command needs, or is a swipe without its duration: `absent_of_unfit`.
-/

namespace SimControl

open Pattern

/-! ## The numbers of the catalog -/

/-- A numeric parameter that a pattern captures is needed by the command or the duration of a swipe. A single
number is captured with a digit. -/
def Entry.SecuresNumbers (entry : Entry) (pattern : Pattern) : Prop :=
  ∀ p ∈ entry.parameters, p.isNumeric = true → ∀ capture ∈ pattern.captures, capture.1 = p.name →
    (p.name ∈ entry.kind.needs ∨ entry.kind = .swipe ∧ p.name = "duration") ∧
      (p.extractor ≠ some .integerList → capture.2.takes (· == .digit) = true)

instance (entry : Entry) (pattern : Pattern) : Decidable (entry.SecuresNumbers pattern) :=
  inferInstanceAs (Decidable (∀ p ∈ entry.parameters, _ → ∀ capture ∈ pattern.captures, _ → _ ∧ _))

namespace Registry

theorem secured_of_numberFree {entry : Entry} (h : ∀ p ∈ entry.parameters, p.isNumeric = false) :
    ∀ source ∈ entry.patterns, ∀ pattern, ofText? source = some pattern → entry.SecuresNumbers pattern := by
  intro _ _ _ _ p hp hnumeric
  rw [h p hp] at hnumeric
  cases hnumeric

theorem secured_of_ofChars? {entry : Entry} {cs : List Char}
    (h : (ofChars? cs).all (fun pattern => decide (entry.SecuresNumbers pattern)) = true) :
    ∀ pattern, ofText? (String.ofList cs) = some pattern → entry.SecuresNumbers pattern := by
  intro pattern hpattern
  rw [ofText?_ofList] at hpattern
  rw [hpattern] at h
  exact of_decide_eq_true h

set_option maxRecDepth 4000 in
theorem numbers_secured (domain : Domain) : ∀ entry ∈ domain.entries, ∀ source ∈ entry.patterns, ∀ pattern,
    ofText? source = some pattern → entry.SecuresNumbers pattern := by
  cases domain
  all_goals
    repeat' first
      | exact secured_of_numberFree (by decide)
      | exact secured_of_ofChars? (by decide)
      | exact List.forall_mem_nil _
      | refine List.forall_mem_cons.2 ⟨?_, ?_⟩

theorem numbers_extracted : ∀ entry ∈ catalog, ∀ p ∈ entry.parameters, p.isNumeric = true →
    entry.parameter? p.name = some p ∧ ∃ extractor ∈ Extractor.ofNumbers, p.extractor = some extractor := by
  decide

/-- A number that a text gives and that does not fit is left out of the parameters. The command needs it, unless
it is the duration of a swipe. -/
theorem absent_of_unfit {text : List Char} {d : Definition} {m : Match}
    (hfirst : builtin.firstMatch? text = some (d, m)) {p : Parameter} (hp : p ∈ d.entry.parameters)
    (hnumeric : p.isNumeric = true) {cs : List Char} (hgroup : m.group? p.name = some cs)
    (hunfit : p.fits cs = false) :
    (d.extract m).get? p.name = none ∧
      (p.name ∈ d.kind.needs ∨ d.kind = .swipe ∧ p.name = "duration") := by
  obtain ⟨hentry, source, hsource, pattern, hpattern, hfind⟩ := written_of_firstMatch? hfirst
  obtain ⟨domain, hdomain⟩ := mem_catalog.1 hentry
  obtain ⟨body, hbody, a, b, hway, htext⟩ := capturedBy_of_find? hfind hgroup
  obtain ⟨hneeds, htakes⟩ := numbers_secured domain d.entry hdomain source hsource pattern hpattern p hp hnumeric
    _ hbody rfl
  obtain ⟨hown, extractor, hnumbers, hextractor⟩ := numbers_extracted d.entry hentry p hp hnumeric
  have hne : extractor ≠ .integerList → Text.trim cs ≠ [] := by
    intro hlist
    obtain ⟨taken, htook, c, hc, set, hset, hin⟩ :=
      hway.tookOne (htakes fun heq => hlist (Option.some.inj (hextractor.symm.trans heq)))
    obtain rfl := beq_iff_eq.1 hset
    rw [htook.textTo] at htext
    refine Text.trim_ne_nil (htext.subst hc) (Bool.eq_false_iff.2 fun hblank => ?_)
    rw [CharSet.contains, Text.isDecimalDigit_of_isBlank hblank] at hin
    cases hin
  refine ⟨Definition.get?_extract_eq_none ?_, hneeds⟩
  rw [Definition.parameterValue?, hown, Option.bind_some, hextractor]
  exact Extractor.apply_of_unfit hnumbers hextractor hgroup hne hunfit

theorem swipe_of_kind : ∀ entry ∈ catalog, entry.kind = .swipe → entry = Catalog.Ui.swipe := by
  decide +kernel

end Registry

end SimControl
