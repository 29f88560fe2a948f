import SimControl.Proofs.Pattern.Beginning
import SimControl.Proofs.Pattern.Preferred
import SimControl.Proofs.Registry.Builtin

/-!
# Phrases and what is said behind them

A phrase says some words and then takes one parameter to the end of the text. What stands behind the words is
free, and the rules that are tried before the rule of the phrase look into it. But they do not match from the
words on, whatever follows (`unheard_of_rule`). So the text of a phrase is recognized as what stands behind
the words, if an earlier rule finds something there, and by the rule of the phrase otherwise
(`firstMatch?_phrase`).
-/

namespace SimControl.Registry

open Pattern Pattern.Position

/-! ## Phrases -/

/-- A rule of the catalog that says words and takes a parameter behind them. -/
structure Phrase where
  words : List Char
  /-- The number of the rule. -/
  place : Nat
  entry : Entry
  /-- The pattern as it is written. -/
  source : List Char
  /-- The number of pieces of the pattern that are for the words. -/
  pieces : Nat
  /-- The part of the pattern behind the words and the white space. -/
  tail : Pattern
  listed : writtenRules[place]? = some (entry, String.ofList source)
  readable : (ofChars? source).isSome = true
  takes_words : ∀ rest, (front pieces ((ofChars? source).getD .empty)).first? (start (words ++ rest)) =
    some ⟨words.reverse, rest, words.length, [], []⟩
  back_eq : back pieces ((ofChars? source).getD .empty) = .seq (.oneOrMore true (.chars .blank)) tail

namespace Phrase

/-- A parameter without white space and commas. -/
def argument (name : String) : Pattern :=
  .group name (.oneOrMore true (.chars (.unlisted [.blank, .single ','])))

def recordVideo : Phrase :=
  ⟨['r', 'e', 'c', 'o', 'r', 'd', ' ', 'v', 'i', 'd', 'e', 'o'], 46, Catalog.Capture.recordVideo, _, 12,
    argument "outputPath", rfl, by decide, fun _ => rfl, rfl⟩

def getAppLogs : Phrase :=
  ⟨['g', 'e', 't', ' ', 'a', 'p', 'p', ' ', 'l', 'o', 'g', 's', ' ', 'f', 'o', 'r'], 54,
    Catalog.Capture.getAppLogs, _, 13, argument "bundleId", rfl, by decide, fun _ => rfl, rfl⟩

def startDebug : Phrase :=
  ⟨['s', 't', 'a', 'r', 't', ' ', 'd', 'e', 'b', 'u', 'g'], 62, Catalog.Debug.startDebug, _, 11,
    argument "bundleId", rfl, by decide, fun _ => rfl, rfl⟩

def showCrashLog : Phrase :=
  ⟨['s', 'h', 'o', 'w', ' ', 'c', 'r', 'a', 's', 'h', ' ', 'l', 'o', 'g'], 79, Catalog.Debug.showCrashLog, _, 11,
    argument "crashName", rfl, by decide, fun _ => rfl, rfl⟩

def inputText : Phrase :=
  ⟨['i', 'n', 'p', 'u', 't', ' ', 't', 'e', 'x', 't'], 91, Catalog.Ui.inputText, _, 6,
    .group "text" (.oneOrMore true (.chars .inLine)), rfl, by decide, fun _ => rfl, rfl⟩

def pressKeySequence : Phrase :=
  ⟨['p', 'r', 'e', 's', 's', ' ', 'k', 'e', 'y', ' ', 's', 'e', 'q', 'u', 'e', 'n', 'c', 'e'], 93,
    Catalog.Ui.pressKeySequence, _, 14,
    .group "keyCodes" (.oneOrMore true (.chars (.listed [.digit, .blank, .single ',']))), rfl, by decide,
    fun _ => rfl, rfl⟩

def installDylib : Phrase :=
  ⟨['i', 'n', 's', 't', 'a', 'l', 'l', ' ', 'd', 'y', 'l', 'i', 'b'], 115, Catalog.Misc.installDylib, _, 15,
    argument "dylibPath", rfl, by decide, fun _ => rfl, rfl⟩

def openUrl : Phrase :=
  ⟨['o', 'p', 'e', 'n', ' ', 'u', 'r', 'l'], 118, Catalog.Misc.openUrl, _, 7,
    .group "url" (.oneOrMore true (.chars .nonblank)), rfl, by decide, fun _ => rfl, rfl⟩

def updateContacts : Phrase :=
  ⟨['u', 'p', 'd', 'a', 't', 'e', ' ', 'c', 'o', 'n', 't', 'a', 'c', 't', 's'], 130, Catalog.Misc.updateContacts,
    _, 11, .seq (.optional true (literals ['f', 'r', 'o', 'm'] (.oneOrMore true (.chars .blank))))
      (argument "dbPath"), rfl, by decide, fun _ => rfl, rfl⟩

def all : List Phrase :=
  [recordVideo, getAppLogs, startDebug, showCrashLog, inputText, pressKeySequence, installDylib, openUrl,
    updateContacts]

end Phrase

/-! ## Rules that do not match the words -/

/-- The number of the only rule that finds something without white space. -/
def screenshotPlace : Nat := 43

/-- The pattern of a rule does not match from the words of a later phrase on, nor from white space. Unless it
is the one for a bare screenshot, it has to take white space. -/
def unheard (number : Nat) (pattern : Pattern) : Bool :=
  (Phrase.all.all fun phrase => phrase.place ≤ number || pattern.skips (phrase.words ++ [' '])) &&
    pattern.remainders? [.blank] == some [] && (number == screenshotPlace || pattern.takes (· == .blank))

set_option maxRecDepth 4000 in
theorem writtenRules_unheard : ∀ x ∈ writtenRules.zipIdx,
    ∃ pattern, ofText? x.1.2 = some pattern ∧ unheard x.2 pattern = true := by
  repeat' first
    | exact exists_of_ofChars? (by decide +kernel)
    | exact List.forall_mem_nil _
    | refine List.forall_mem_cons.2 ⟨?_, ?_⟩

theorem unheard_of_rule {number : Nat} {rule : Rule} (h : builtin.rules[number]? = some rule) :
    unheard number rule.pattern = true := by
  obtain ⟨written, hwritten, hreads⟩ := exists_written h
  have hmem : (written, number) ∈ writtenRules.zipIdx := List.mem_zipIdx_iff_getElem?.2 hwritten
  obtain ⟨pattern, hpattern, hunheard⟩ := writtenRules_unheard _ hmem
  rw [hreads.pattern_eq] at hpattern
  exact Option.some.inj hpattern ▸ hunheard

/-- A rule that is tried before the one of a phrase finds what it finds behind the words. -/
theorem find?_behind_words {number : Nat} {rule : Rule} (hrule : builtin.rules[number]? = some rule)
    {phrase : Phrase} (hphrase : phrase ∈ Phrase.all) (hplace : number < phrase.place) {blanks : List Char}
    (hblanks : ∀ c ∈ blanks, Text.isBlank c = true) (text : List Char) :
    rule.find? (phrase.words ++ (' ' :: blanks ++ text)) = rule.find? text := by
  obtain ⟨hknown, -⟩ := Bool.and_eq_true_iff.1 (unheard_of_rule hrule)
  obtain ⟨hwords, hblank⟩ := Bool.and_eq_true_iff.1 hknown
  have hskips : rule.pattern.skips (phrase.words ++ [' ']) = true := by
    have hor := List.all_eq_true.1 hwords phrase hphrase
    rw [decide_eq_false (Nat.not_le.2 hplace), Bool.false_or] at hor
    exact hor
  rw [Rule.find?, Rule.find?, find?_behind hskips (beq_iff_eq.1 hblank) hblanks]

/-! ## Recognition -/

namespace Phrase

theorem exists_match (phrase : Phrase) {rule : Rule}
    (hreads : rule.Reads (phrase.entry, String.ofList phrase.source)) {blanks text : List Char} {name : String}
    (hblanks : ∀ c ∈ blanks, Text.isBlank c = true) (hbegins : ∀ c ∈ text.head?, Text.isBlank c = false)
    (htail : GivesAll phrase.tail name text) :
    ∃ m, rule.pattern.find? (phrase.words ++ (' ' :: blanks ++ text)) = some m ∧ m.groups = [(name, text)] := by
  have hpattern := hreads.pattern_eq
  rw [ofText?_ofList] at hpattern
  have hwords := phrase.takes_words
  have hback := phrase.back_eq
  rw [hpattern, Option.getD_some] at hwords hback
  exact find?_of_pieces hwords hback (List.cons_ne_nil _ _) (List.forall_mem_cons.2 ⟨rfl, hblanks⟩) hbegins htail

/-- What the rules that are tried before the one of the phrase find in a text. -/
def earlierMatch? (phrase : Phrase) (text : List Char) : Option (Definition × Match) :=
  (builtin.rules.take phrase.place).findSome? fun rule => rule.find? text

end Phrase

/-- The text of a phrase is recognized as what stands behind the words, if an earlier rule finds something
there, and by the rule of the phrase otherwise. -/
theorem firstMatch?_phrase {phrase : Phrase} (hphrase : phrase ∈ Phrase.all) {blanks text : List Char}
    {name : String} (hblanks : ∀ c ∈ blanks, Text.isBlank c = true)
    (hbegins : ∀ c ∈ text.head?, Text.isBlank c = false) (htail : GivesAll phrase.tail name text) :
    ∃ d m, d.entry = phrase.entry ∧ m.groups = [(name, text)] ∧
      builtin.firstMatch? (phrase.words ++ (' ' :: blanks ++ text)) =
        some ((phrase.earlierMatch? text).getD (d, m)) := by
  obtain ⟨rule, hrule, hreads⟩ := exists_rule phrase.listed
  obtain ⟨m, hm, hgroups⟩ := phrase.exists_match hreads hblanks hbegins htail
  refine ⟨rule.definition, m, hreads.entry_eq, hgroups, ?_⟩
  have hearlier : (builtin.rules.take phrase.place).findSome?
      (fun rule => rule.find? (phrase.words ++ (' ' :: blanks ++ text))) = phrase.earlierMatch? text := by
    refine findSome?_congr fun other hother => ?_
    obtain ⟨number, hplace, hsome⟩ := mem_take_iff_getElem?.1 hother
    exact find?_behind_words hsome hphrase hplace hblanks text
  rw [firstMatch?_of_rule hrule hm, hearlier]

end SimControl.Registry
