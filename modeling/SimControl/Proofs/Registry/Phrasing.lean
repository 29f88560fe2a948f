import SimControl.Proofs.Catalog.Numeral
import SimControl.Proofs.Pattern.Template
import SimControl.Proofs.Registry.Builtin
import SimControl.Proofs.Registry.Case

/-!
# Phrasings with numerals

Points and keys are named by numerals, in English and in Spanish. A phrasing is a template with holes for them.
Whatever numerals are filled in, the rule of the phrasing captures them, and no earlier rule matches anywhere
(`resolve_phrasing`). So all phrasings of a command mean the same: `resolve_numerals`.
-/

namespace SimControl

open Pattern

namespace Registry

/-- A template of an instruction. -/
structure Phrasing where
  entry : Entry
  /-- The number of the rule. -/
  place : Nat
  parts : List Part

namespace Phrasing

def numeral (name : String) : List Part :=
  [.hole name .digit [.digit]]

def point (x y : String) : List Part :=
  numeral x ++ letters [',', ' '] ++ numeral y

def codes (name : String) : List Part :=
  [.hole name .digit [.digit, .exactly ' ']]

def tap (place : Nat) (words : List Char) : Phrasing :=
  ⟨Catalog.Ui.tap, place, letters words ++ point "x" "y"⟩

def describePoint (place : Nat) (words : List Char) : Phrasing :=
  ⟨Catalog.Accessibility.describePoint, place, letters words ++ point "x" "y"⟩

def swipe (place : Nat) (words between : List Char) : Phrasing :=
  ⟨Catalog.Ui.swipe, place,
    letters words ++ point "startX" "startY" ++ letters between ++ point "endX" "endY"⟩

/-- A swipe with its duration. -/
def lasting (phrasing : Phrasing) (words : List Char) : Phrasing :=
  { phrasing with parts := phrasing.parts ++ letters words ++ numeral "duration" }

def pressKey (place : Nat) (words : List Char) : Phrasing :=
  ⟨Catalog.Ui.pressKey, place, letters words ++ numeral "keyCode"⟩

def pressKeySequence (place : Nat) (words : List Char) : Phrasing :=
  ⟨Catalog.Ui.pressKeySequence, place, letters words ++ codes "keyCodes"⟩

def taps : List Phrasing :=
  [tap 82 ['t', 'a', 'p', ' ', 'a', 't', ' '],
    tap 82 ['t', 'a', 'p', ' ', 'e', 'n', ' '],
    tap 82 ['t', 'a', 'p', ' '],
    tap 83 ['t', 'o', 'c', 'a', 'r', ' '],
    tap 83 ['t', 'o', 'c', 'a', 'r', ' ', 'e', 'n', ' '],
    tap 84 ['p', 'u', 'l', 's', 'a', 'r', ' '],
    tap 84 ['p', 'u', 'l', 's', 'a', 'r', ' ', 'e', 'n', ' ']]

def swipeFrom : Phrasing :=
  swipe 85 ['s', 'w', 'i', 'p', 'e', ' ', 'f', 'r', 'o', 'm', ' '] [' ', 't', 'o', ' ']

def swipeDesde : Phrasing :=
  swipe 86 ['s', 'w', 'i', 'p', 'e', ' ', 'd', 'e', 's', 'd', 'e', ' '] [' ', 'h', 'a', 's', 't', 'a', ' ']

def deslizarDesde : Phrasing :=
  swipe 86 ['d', 'e', 's', 'l', 'i', 'z', 'a', 'r', ' ', 'd', 'e', 's', 'd', 'e', ' ']
    [' ', 'h', 'a', 's', 't', 'a', ' ']

def swipes : List Phrasing :=
  [swipeFrom, swipeDesde, deslizarDesde]

def lastingSwipes : List Phrasing :=
  [swipeFrom.lasting [' ', 'w', 'i', 't', 'h', ' ', 'd', 'u', 'r', 'a', 't', 'i', 'o', 'n', ' '],
    swipeDesde.lasting [' ', 'c', 'o', 'n', ' ', 'd', 'u', 'r', 'a', 'c', 'i', 'ó', 'n', ' '],
    deslizarDesde.lasting [' ', 'c', 'o', 'n', ' ', 'd', 'u', 'r', 'a', 'c', 'i', 'ó', 'n', ' ']]

def describedPoints : List Phrasing :=
  [describePoint 5 ['d', 'e', 's', 'c', 'r', 'i', 'b', 'e', ' ', 'p', 'o', 'i', 'n', 't', ' '],
    describePoint 4 ['d', 'e', 's', 'c', 'r', 'i', 'b', 'i', 'r', ' ', 'p', 'u', 'n', 't', 'o', ' '],
    describePoint 7 ['w', 'h', 'a', 't', ' ', 'i', 's', ' ', 'a', 't', ' '],
    describePoint 6 ['q', 'u', 'é', ' ', 'h', 'a', 'y', ' ', 'e', 'n', ' ']]

def keyPresses : List Phrasing :=
  [pressKey 95 ['p', 'r', 'e', 's', 's', ' ', 'k', 'e', 'y', ' '],
    pressKey 94 ['p', 'r', 'e', 's', 'i', 'o', 'n', 'a', 'r', ' ', 't', 'e', 'c', 'l', 'a', ' '],
    pressKey 94 ['p', 'u', 'l', 's', 'a', 'r', ' ', 'l', 'a', ' ', 't', 'e', 'c', 'l', 'a', ' ']]

def keySequences : List Phrasing :=
  [pressKeySequence 93
      ['p', 'r', 'e', 's', 's', ' ', 'k', 'e', 'y', ' ', 's', 'e', 'q', 'u', 'e', 'n', 'c', 'e', ' '],
    pressKeySequence 92
      ['p', 'r', 'e', 's', 'i', 'o', 'n', 'a', 'r', ' ', 's', 'e', 'c', 'u', 'e', 'n', 'c', 'i', 'a', ' ', 'd', 'e',
        ' ', 't', 'e', 'c', 'l', 'a', 's', ' ']]

def numeric : List Phrasing :=
  taps ++ swipes ++ lastingSwipes ++ describedPoints ++ keyPresses

def all : List Phrasing :=
  numeric ++ keySequences

/-! ## Rules -/

/-- The rule of the phrasing is in the catalog, and it captures the holes. -/
def Written (phrasing : Phrasing) : Prop :=
  ∃ source, writtenRules[phrasing.place]? = some (phrasing.entry, String.ofList source) ∧
    (ofChars? source).any (fun pattern => pattern.capturesHoles phrasing.parts) = true

set_option maxRecDepth 4000 in
theorem written : ∀ phrasing ∈ all, phrasing.Written := by
  simp only [all, numeric, taps, swipes, lastingSwipes, describedPoints, keyPresses, keySequences, List.cons_append,
    List.nil_append]
  repeat' first
    | exact ⟨_, rfl, by decide⟩
    | exact List.forall_mem_nil _
    | refine List.forall_mem_cons.2 ⟨?_, ?_⟩

end Phrasing

/-- The pattern of a rule matches from no place in a later phrasing. -/
def overlooks (number : Nat) (pattern : Pattern) : Bool :=
  Phrasing.all.all fun phrasing => phrasing.place ≤ number || pattern.silent phrasing.parts

set_option maxRecDepth 8000 in
theorem writtenRules_overlook : ∀ x ∈ (writtenRules.take 95).zipIdx,
    ∃ pattern, ofText? x.1.2 = some pattern ∧ overlooks x.2 pattern = true := by
  repeat' first
    | exact exists_of_ofChars? (by decide +kernel)
    | exact List.forall_mem_nil _
    | refine List.forall_mem_cons.2 ⟨?_, ?_⟩

/-! ## Recognition -/

namespace Phrasing

variable {phrasing : Phrasing} {filling : String → List Char}

theorem place_le : ∀ phrasing ∈ all, phrasing.place ≤ 95 := by decide

theorem begins : ∀ phrasing ∈ all, ∃ c rest, phrasing.parts = .letter c :: rest ∧ Text.isBlank c = false := by
  repeat' first
    | exact ⟨_, _, rfl, rfl⟩
    | exact List.forall_mem_nil _
    | refine List.forall_mem_cons.2 ⟨?_, ?_⟩

/-- The rules before the one of a phrasing find nothing in it. -/
theorem overlooked (hphrasing : phrasing ∈ all) (hsuits : ∀ part ∈ phrasing.parts, part.Suits filling) :
    ∀ rule ∈ builtin.rules.take phrasing.place, rule.find? (filled filling phrasing.parts) = none := by
  intro rule hrule
  obtain ⟨number, hplace, hsome⟩ := mem_take_iff_getElem?.1 hrule
  have hcheck := check_of_rule writtenRules_overlook (hplace.trans_le (place_le phrasing hphrasing)) hsome
  have hor := List.all_eq_true.1 hcheck phrasing hphrasing
  rw [decide_eq_false (Nat.not_le.2 hplace), Bool.false_or] at hor
  rw [Rule.find?, find?, findFrom?_of_silent hsuits hor, Option.map_none]

/-- A filled phrasing is recognized by its rule, with the holes as groups. -/
theorem resolve_phrasing (hphrasing : phrasing ∈ all) (hsuits : ∀ part ∈ phrasing.parts, part.Suits filling)
    (hlast : ∀ c ∈ (filled filling phrasing.parts).getLast?, Text.isBlank c = false) {text : String}
    (htext : text.toList = filled filling phrasing.parts) : ∃ (d : Definition) (m : Match), d.entry = phrasing.entry ∧
      (∀ name, m.group? name = if name ∈ holeNames phrasing.parts then some (filling name) else none) ∧
      builtin.resolve text = .ok ⟨phrasing.entry.kind, phrasing.entry.name, d.extract m⟩ := by
  obtain ⟨source, hwritten, hcaptures⟩ := written phrasing hphrasing
  obtain ⟨rule, hrule, hreads⟩ := exists_rule hwritten
  have hpattern := hreads.pattern_eq
  rw [ofText?_ofList] at hpattern
  rw [hpattern, Option.any_some] at hcaptures
  obtain ⟨m, hm, hgroups⟩ := find?_of_capturesHoles hsuits hcaptures
  have hentry : rule.definition.entry = phrasing.entry := hreads.entry_eq
  have hfirst := firstMatch?_of_earlier hrule (overlooked hphrasing hsuits) hm
  obtain ⟨c, rest, hparts, hword⟩ := begins phrasing hphrasing
  have hhead : ∀ c ∈ (filled filling phrasing.parts).head?, Text.isBlank c = false := by
    rw [hparts]
    intro c hc
    exact Option.some.inj hc ▸ hword
  have htrim : Text.trim text.toList = filled filling phrasing.parts := by
    rw [htext, Text.trim_of_ends hhead hlast]
  have hne : (Text.trim text.toList).isEmpty = false := by
    rw [htrim, hparts]
    rfl
  refine ⟨rule.definition, m, hentry, hgroups, ?_⟩
  rw [resolve_of_firstMatch? hne (htrim.symm ▸ hfirst), Definition.kind, Definition.name, hentry]

/-! ## Single numerals -/

def isPlain : Part → Bool
  | .letter _ => true
  | .hole _ first each => first == .digit && each == [.digit]

def isHole : Part → Bool
  | .letter _ => false
  | .hole _ _ _ => true

/-- The numerals of a phrasing are the parameters that are read, and it ends with one of them. -/
theorem plain : ∀ phrasing ∈ numeric, phrasing.parts.all isPlain = true ∧
    phrasing.parts.getLast?.any isHole = true ∧ phrasing.entry.readsIntegers (holeNames phrasing.parts) = true := by
  decide

theorem suits_of_isPlain {texts : String → String} (htexts : ∀ name, IsNumeral (texts name)) {part : Part}
    (h : isPlain part = true) : part.Suits fun name => (texts name).toList := by
  cases part with
  | letter c => trivial
  | hole name first each =>
      obtain ⟨hfirst, heach⟩ := Bool.and_eq_true_iff.1 h
      obtain rfl := beq_iff_eq.1 hfirst
      obtain rfl := beq_iff_eq.1 heach
      obtain ⟨c, rest, hcs⟩ := List.exists_cons_of_ne_nil (htexts name).ne_nil
      have hdigits : ∀ d ∈ (texts name).toList, Clue.digit.holds d = true := (htexts name).digits
      refine ⟨⟨c, List.head?_eq_some_iff.2 ⟨rest, hcs⟩, hdigits c (hcs ▸ List.mem_cons_self)⟩, fun d hd => ?_⟩
      exact ⟨.digit, List.mem_singleton_self _, hdigits d hd⟩

/-- The parameters that numerals give. A numeral that is too big gives none. -/
def numbers (given : List (String × String)) : Params :=
  .ofList (given.filterMap fun (name, s) => (numberOf? s).map fun found => (name, found))

/-- A phrasing with numerals means its command, with their values as the parameters. -/
theorem resolve_numeric (hphrasing : phrasing ∈ numeric) {texts : String → String}
    (htexts : ∀ name, IsNumeral (texts name)) {text : String}
    (htext : text.toList = filled (fun name => (texts name).toList) phrasing.parts) : builtin.resolve text =
      .ok ⟨phrasing.entry.kind, phrasing.entry.name,
        numbers ((holeNames phrasing.parts).map fun name => (name, texts name))⟩ := by
  obtain ⟨hplain, hends, hreads⟩ := plain phrasing hphrasing
  have hsuits : ∀ part ∈ phrasing.parts, part.Suits fun name => (texts name).toList := fun part hpart =>
    suits_of_isPlain htexts (List.all_eq_true.1 hplain part hpart)
  have hlast : ∀ c ∈ (filled (fun name => (texts name).toList) phrasing.parts).getLast?, Text.isBlank c = false := by
    obtain ⟨part, hpart, hhole⟩ := (Option.any_eq_true ..).1 hends
    obtain ⟨before, hparts⟩ := List.getLast?_eq_some_iff.1 hpart
    intro c hc
    cases part with
    | letter d => cases hhole
    | hole name first each =>
        rw [hparts, getLast?_filled_hole _ name (htexts name).ne_nil] at hc
        exact Text.isBlank_of_isDigit ((htexts name).digits c (List.mem_of_mem_getLast? hc))
  obtain ⟨d, m, hentry, hgroups, hresolve⟩ :=
    resolve_phrasing (List.mem_append_left _ hphrasing) hsuits hlast htext
  rw [hresolve, Definition.extract_of_numerals (hentry.symm ▸ hreads) (fun name _ => htexts name) hgroups, numbers,
    List.filterMap_map]
  rfl

/-! ## Lists of numerals -/

theorem sequenced : ∀ phrasing ∈ keySequences, phrasing.entry = Catalog.Ui.pressKeySequence ∧
    ∃ words, phrasing.parts = letters words ++ codes "keyCodes" := by
  repeat' first
    | exact ⟨rfl, _, rfl⟩
    | exact List.forall_mem_nil _
    | refine List.forall_mem_cons.2 ⟨?_, ?_⟩

theorem suits_of_spaced {entries : List String} {cs words : List Char} (hcodes : Spaced entries cs) :
    ∀ part ∈ letters words ++ codes "keyCodes", part.Suits fun _ => cs := by
  intro part hpart
  rcases List.mem_append.1 hpart with hpart | hpart
  · obtain ⟨c, -, rfl⟩ := List.mem_map.1 hpart
    trivial
  · obtain rfl := List.mem_singleton.1 hpart
    refine ⟨hcodes.head_isDigit, fun c hc => ?_⟩
    rcases hcodes.digit_or_space c hc with hdigit | rfl
    · exact ⟨.digit, List.mem_cons_self, hdigit⟩
    · exact ⟨.exactly ' ', by simp, rfl⟩

/-- The parameter that a list of numerals gives, unless one of them is too big. -/
def keyCodes (entries : List String) : Params :=
  .ofList ((numbersOf? entries).map fun found => ("keyCodes", found)).toList

theorem extract_of_spaced {d : Definition} (hentry : d.entry = Catalog.Ui.pressKeySequence) {m : Match}
    {entries : List String} {cs : List Char} (hcodes : Spaced entries cs)
    (hgroups : ∀ name, m.group? name = if name ∈ ["keyCodes"] then some cs else none) :
    d.extract m = keyCodes entries := by
  have hnames : d.entry.parameterNames = ["keyCodes", "sessionId"] := by
    rw [hentry]
    decide
  have hcode : (d.entry.parameter? "keyCodes").bind (·.extractor) = some .integerList := by
    rw [hentry]
    decide
  have hsession : (d.entry.parameter? "sessionId").bind (·.extractor) = none := by
    rw [hentry]
    decide
  have hcodeValue : d.parameterValue? m "keyCodes" = numbersOf? entries :=
    Definition.parameterValue?_of_spaced hcode hcodes (by rw [hgroups, if_pos (by decide)])
  have hsessionValue : d.parameterValue? m "sessionId" = none :=
    Definition.parameterValue?_of_absent (by rw [hgroups, if_neg (by decide)]) (by rw [hsession]; decide)
      (by rw [hsession]; decide)
  rw [Definition.extract, hnames, keyCodes]
  simp only [List.filterMap_cons, List.filterMap_nil, hcodeValue, hsessionValue, Option.map_none]
  cases numbersOf? entries <;> rfl

theorem resolve_spaced (hphrasing : phrasing ∈ keySequences) {entries : List String} {cs : List Char}
    (hcodes : Spaced entries cs) {text : String} (htext : text.toList = filled (fun _ => cs) phrasing.parts) :
    builtin.resolve text = .ok ⟨.pressKeySequence, "press key sequence", keyCodes entries⟩ := by
  obtain ⟨hentry, words, hparts⟩ := sequenced phrasing hphrasing
  have hlast : ∀ c ∈ (filled (fun _ => cs) phrasing.parts).getLast?, Text.isBlank c = false := by
    obtain ⟨d, hd, hdigit⟩ := hcodes.last_isDigit
    have hne : cs ≠ [] := fun hnil => by simp [hnil] at hd
    intro c hc
    rw [hparts, codes, getLast?_filled_hole (fun _ => cs) _ hne] at hc
    obtain rfl : d = c := Option.some.inj (hd.symm.trans hc)
    exact Text.isBlank_of_isDigit hdigit
  obtain ⟨d, m, hd, hgroups, hresolve⟩ := resolve_phrasing (List.mem_append_right _ hphrasing)
    (hparts ▸ suits_of_spaced hcodes) hlast htext
  rw [hparts, holeNames_letters] at hgroups
  rw [hresolve, extract_of_spaced (hd.trans hentry) hcodes hgroups, hentry]
  rfl

end Phrasing

/-! ## Both languages -/

/-- What is given for a name. -/
def fill (given : List (String × String)) (name : String) : String :=
  (given.lookup name).getD "0"

theorem isNumeral_fill {given : List (String × String)} (h : ∀ pair ∈ given, IsNumeral pair.2) (name : String) :
    IsNumeral (fill given name) := by
  rw [fill]
  cases hlookup : given.lookup name with
  | none =>
      have hzero : IsNumeral "0" := by decide
      exact hzero
  | some s => exact h _ (mem_of_lookup hlookup)

/-- Phrasings with the same holes of the same command mean the same. -/
theorem resolve_each {phrasings : List Phrasing} (hnumeric : ∀ phrasing ∈ phrasings, phrasing ∈ Phrasing.numeric)
    {given : List (String × String)} (hgiven : ∀ pair ∈ given, IsNumeral pair.2) {found : Recognition}
    (hfound : ∀ phrasing ∈ phrasings, ⟨phrasing.entry.kind, phrasing.entry.name,
      Phrasing.numbers ((holeNames phrasing.parts).map fun name => (name, fill given name))⟩ = found)
    {said : List String} (hsaid : List.Forall₂ (fun text phrasing =>
      text.toList = filled (fun name => (fill given name).toList) phrasing.parts) said phrasings) :
    ∀ text ∈ said, builtin.resolve text = .ok found :=
  forall_of_forall₂ hsaid fun phrasing hphrasing _ htext => hfound phrasing hphrasing ▸
    Phrasing.resolve_numeric (hnumeric phrasing hphrasing) (isNumeral_fill hgiven) htext

section

open Phrasing

variable {a b c d e : String}

theorem resolve_taps (ha : IsNumeral a) (hb : IsNumeral b) :
    ∀ text ∈ ["tap at " ++ a ++ ", " ++ b, "tap en " ++ a ++ ", " ++ b, "tap " ++ a ++ ", " ++ b,
        "tocar " ++ a ++ ", " ++ b, "tocar en " ++ a ++ ", " ++ b, "pulsar " ++ a ++ ", " ++ b,
        "pulsar en " ++ a ++ ", " ++ b],
      builtin.resolve text = .ok ⟨.tap, "tap", numbers [("x", a), ("y", b)]⟩ := by
  have hgiven : ∀ pair ∈ [("x", a), ("y", b)], IsNumeral pair.2 := by simp [ha, hb]
  have htaps : ∀ phrasing ∈ taps, phrasing ∈ numeric := fun phrasing h => by simp [numeric, h]
  refine resolve_each htaps hgiven ?_ ?_
  · simp [taps, tap, point, numeral, fill, lookup_cons_eq_ite, Catalog.Ui.tap]
  · simp [taps, tap, point, numeral, fill, lookup_cons_eq_ite]

theorem resolve_swipes (ha : IsNumeral a) (hb : IsNumeral b) (hc : IsNumeral c) (hd : IsNumeral d) :
    ∀ text ∈ ["swipe from " ++ a ++ ", " ++ b ++ " to " ++ c ++ ", " ++ d,
        "swipe desde " ++ a ++ ", " ++ b ++ " hasta " ++ c ++ ", " ++ d,
        "deslizar desde " ++ a ++ ", " ++ b ++ " hasta " ++ c ++ ", " ++ d],
      builtin.resolve text =
        .ok ⟨.swipe, "swipe", numbers [("startX", a), ("startY", b), ("endX", c), ("endY", d)]⟩ := by
  have hgiven : ∀ pair ∈ [("startX", a), ("startY", b), ("endX", c), ("endY", d)], IsNumeral pair.2 := by
    simp [ha, hb, hc, hd]
  have hswipes : ∀ phrasing ∈ swipes, phrasing ∈ numeric := fun phrasing h => by simp [numeric, h]
  refine resolve_each hswipes hgiven ?_ ?_
  · simp [swipes, swipeFrom, swipeDesde, deslizarDesde, swipe, point, numeral, fill, lookup_cons_eq_ite,
      Catalog.Ui.swipe]
  · simp [swipes, swipeFrom, swipeDesde, deslizarDesde, swipe, point, numeral, fill, lookup_cons_eq_ite]

theorem resolve_lastingSwipes (ha : IsNumeral a) (hb : IsNumeral b) (hc : IsNumeral c) (hd : IsNumeral d)
    (he : IsNumeral e) :
    ∀ text ∈ ["swipe from " ++ a ++ ", " ++ b ++ " to " ++ c ++ ", " ++ d ++ " with duration " ++ e,
        "swipe desde " ++ a ++ ", " ++ b ++ " hasta " ++ c ++ ", " ++ d ++ " con duración " ++ e,
        "deslizar desde " ++ a ++ ", " ++ b ++ " hasta " ++ c ++ ", " ++ d ++ " con duración " ++ e],
      builtin.resolve text = .ok ⟨.swipe, "swipe",
        numbers [("startX", a), ("startY", b), ("endX", c), ("endY", d), ("duration", e)]⟩ := by
  have hgiven : ∀ pair ∈ [("startX", a), ("startY", b), ("endX", c), ("endY", d), ("duration", e)],
      IsNumeral pair.2 := by
    simp [ha, hb, hc, hd, he]
  have hswipes : ∀ phrasing ∈ lastingSwipes, phrasing ∈ numeric := fun phrasing h => by simp [numeric, h]
  refine resolve_each hswipes hgiven ?_ ?_
  · simp [lastingSwipes, lasting, swipeFrom, swipeDesde, deslizarDesde, swipe, point, numeral, fill,
      lookup_cons_eq_ite, Catalog.Ui.swipe]
  · simp [lastingSwipes, lasting, swipeFrom, swipeDesde, deslizarDesde, swipe, point, numeral, fill,
      lookup_cons_eq_ite]

theorem resolve_describedPoints (ha : IsNumeral a) (hb : IsNumeral b) :
    ∀ text ∈ ["describe point " ++ a ++ ", " ++ b, "describir punto " ++ a ++ ", " ++ b,
        "what is at " ++ a ++ ", " ++ b, "qué hay en " ++ a ++ ", " ++ b],
      builtin.resolve text = .ok ⟨.describePoint, "describe point", numbers [("x", a), ("y", b)]⟩ := by
  have hgiven : ∀ pair ∈ [("x", a), ("y", b)], IsNumeral pair.2 := by simp [ha, hb]
  have hpoints : ∀ phrasing ∈ describedPoints, phrasing ∈ numeric := fun phrasing h => by simp [numeric, h]
  refine resolve_each hpoints hgiven ?_ ?_
  · simp [describedPoints, describePoint, point, numeral, fill, lookup_cons_eq_ite,
      Catalog.Accessibility.describePoint]
  · simp [describedPoints, describePoint, point, numeral, fill, lookup_cons_eq_ite]

theorem resolve_keyPresses (ha : IsNumeral a) :
    ∀ text ∈ ["press key " ++ a, "presionar tecla " ++ a, "pulsar la tecla " ++ a],
      builtin.resolve text = .ok ⟨.pressKey, "press key", numbers [("keyCode", a)]⟩ := by
  have hgiven : ∀ pair ∈ [("keyCode", a)], IsNumeral pair.2 := by simp [ha]
  have hkeys : ∀ phrasing ∈ keyPresses, phrasing ∈ numeric := fun phrasing h => by simp [numeric, h]
  refine resolve_each hkeys hgiven ?_ ?_
  · simp [keyPresses, pressKey, numeral, fill, Catalog.Ui.pressKey]
  · simp [keyPresses, pressKey, numeral, fill]

theorem resolve_keySequences {entries : List String} {list : String} (hlist : Spaced entries list.toList) :
    ∀ text ∈ ["press key sequence " ++ list, "presionar secuencia de teclas " ++ list],
      builtin.resolve text = .ok ⟨.pressKeySequence, "press key sequence", keyCodes entries⟩ := by
  have hsaid : List.Forall₂ (fun text phrasing => text.toList = filled (fun _ => list.toList) phrasing.parts)
      ["press key sequence " ++ list, "presionar secuencia de teclas " ++ list] keySequences := by
    simp [keySequences, pressKeySequence, codes]
  exact forall_of_forall₂ hsaid fun phrasing hphrasing _ htext => resolve_spaced hphrasing hlist htext

/-- For all numerals, English and Spanish phrasings of a command mean the same: the command with the decimal values of
the numerals. A numeral of `2 ^ 63` or more gives no parameter. -/
theorem resolve_numerals (ha : IsNumeral a) (hb : IsNumeral b) (hc : IsNumeral c) (hd : IsNumeral d)
    (he : IsNumeral e) :
    (∀ text ∈ ["tap at " ++ a ++ ", " ++ b, "tap en " ++ a ++ ", " ++ b, "tap " ++ a ++ ", " ++ b,
        "tocar " ++ a ++ ", " ++ b, "tocar en " ++ a ++ ", " ++ b, "pulsar " ++ a ++ ", " ++ b,
        "pulsar en " ++ a ++ ", " ++ b],
      builtin.resolve text = .ok ⟨.tap, "tap", numbers [("x", a), ("y", b)]⟩) ∧
    (∀ text ∈ ["swipe from " ++ a ++ ", " ++ b ++ " to " ++ c ++ ", " ++ d,
        "swipe desde " ++ a ++ ", " ++ b ++ " hasta " ++ c ++ ", " ++ d,
        "deslizar desde " ++ a ++ ", " ++ b ++ " hasta " ++ c ++ ", " ++ d],
      builtin.resolve text =
        .ok ⟨.swipe, "swipe", numbers [("startX", a), ("startY", b), ("endX", c), ("endY", d)]⟩) ∧
    (∀ text ∈ ["swipe from " ++ a ++ ", " ++ b ++ " to " ++ c ++ ", " ++ d ++ " with duration " ++ e,
        "swipe desde " ++ a ++ ", " ++ b ++ " hasta " ++ c ++ ", " ++ d ++ " con duración " ++ e,
        "deslizar desde " ++ a ++ ", " ++ b ++ " hasta " ++ c ++ ", " ++ d ++ " con duración " ++ e],
      builtin.resolve text = .ok ⟨.swipe, "swipe",
        numbers [("startX", a), ("startY", b), ("endX", c), ("endY", d), ("duration", e)]⟩) ∧
    (∀ text ∈ ["describe point " ++ a ++ ", " ++ b, "describir punto " ++ a ++ ", " ++ b,
        "what is at " ++ a ++ ", " ++ b, "qué hay en " ++ a ++ ", " ++ b],
      builtin.resolve text = .ok ⟨.describePoint, "describe point", numbers [("x", a), ("y", b)]⟩) ∧
    (∀ text ∈ ["press key " ++ a, "presionar tecla " ++ a, "pulsar la tecla " ++ a],
      builtin.resolve text = .ok ⟨.pressKey, "press key", numbers [("keyCode", a)]⟩) ∧
    ∀ entries : List String, ∀ list : String, Spaced entries list.toList →
      ∀ text ∈ ["press key sequence " ++ list, "presionar secuencia de teclas " ++ list],
        builtin.resolve text = .ok ⟨.pressKeySequence, "press key sequence", keyCodes entries⟩ :=
  ⟨resolve_taps ha hb, resolve_swipes ha hb hc hd, resolve_lastingSwipes ha hb hc hd he,
    resolve_describedPoints ha hb, resolve_keyPresses ha, fun _ _ hlist => resolve_keySequences hlist⟩

/-- The largest number is `2 ^ 63 - 1`, and the spaces between the numerals of a list do not matter. -/
theorem resolve_numerals_limit :
    builtin.resolve "pulsar en 007, 9223372036854775807" =
        .ok ⟨.tap, "tap", .ofList [("x", .number (.natural 7)), ("y", .number (.natural 9223372036854775807))]⟩ ∧
      builtin.resolve "what is at 20, 9223372036854775808" =
        .ok ⟨.describePoint, "describe point", .ofList [("x", .number (.natural 20))]⟩ ∧
      builtin.resolve "press key sequence 4  05" = .ok ⟨.pressKeySequence, "press key sequence",
        .ofList [("keyCodes", .array [.number (.natural 4), .number (.natural 5)])]⟩ := by
  have hseven : IsNumeral "007" := by decide
  have htwenty : IsNumeral "20" := by decide
  have hlargest : IsNumeral "9223372036854775807" := by decide
  have hlarger : IsNumeral "9223372036854775808" := by decide
  obtain ⟨htaps, -⟩ := resolve_numerals hseven hlargest hseven hseven hseven
  obtain ⟨-, -, -, hpoints, -, hsequences⟩ := resolve_numerals htwenty hlarger htwenty htwenty htwenty
  have hlist : "4  05".toList = "4".toList ++ ([' ', ' '] ++ "05".toList) := by decide
  have hcodes : Spaced ["4", "05"] "4  05".toList := by
    rw [hlist]
    exact .cons (by decide) (List.cons_ne_nil _ _) (by simp) (.last (by decide))
  refine ⟨?_, ?_, ?_⟩
  · rw [htaps "pulsar en 007, 9223372036854775807" (by decide)]
    rfl
  · rw [hpoints "what is at 20, 9223372036854775808" (by decide)]
    rfl
  · rw [hsequences ["4", "05"] "4  05" hcodes "press key sequence 4  05" (by decide)]
    rfl

end

end Registry

end SimControl
