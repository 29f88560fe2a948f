import SimControl.Proofs.Pattern.Pieces
import SimControl.Proofs.Pattern.Words
import SimControl.Proofs.Registry.Payload

/-!
# Instructions about apps

An app is installed, launched, terminated and uninstalled in two languages and with many verbs. Each verb has a rule
of its own, and they are all alike (`AppVerb.pattern`). What stands behind the words is a path or an identifier: it
has no white space, so no earlier rule matches in it, and none matches from the words on (`heeds_rules`). An `install`
inside of `uninstall` is no word. So a spoken verb gives its command with that parameter: `resolve_app`.
-/

namespace SimControl

open Pattern

namespace Registry

/-! ## Verbs -/

/-- A verb for what is done with an app, in small letters. -/
structure AppVerb where
  word : List Char
  /-- The article that may stand before the word for an app. -/
  article : List Char
  kind : CommandKind
  name : String
  parameter : String
  /-- The number of the rule. -/
  place : Nat

namespace AppVerb

def install : List AppVerb :=
  [⟨['i', 'n', 's', 't', 'a', 'l', 'a', 'r'], ['l', 'a'], .installApp, "install app", "appPath", 8⟩,
    ⟨['i', 'n', 's', 't', 'a', 'l', 'l'], ['t', 'h', 'e'], .installApp, "install app", "appPath", 10⟩]

def launch : List AppVerb :=
  [⟨['l', 'a', 'n', 'z', 'a', 'r'], ['l', 'a'], .launchApp, "launch app", "bundleId", 12⟩,
    ⟨['a', 'b', 'r', 'i', 'r'], ['l', 'a'], .launchApp, "launch app", "bundleId", 13⟩,
    ⟨['i', 'n', 'i', 'c', 'i', 'a', 'r'], ['l', 'a'], .launchApp, "launch app", "bundleId", 14⟩,
    ⟨['l', 'a', 'u', 'n', 'c', 'h'], ['t', 'h', 'e'], .launchApp, "launch app", "bundleId", 15⟩,
    ⟨['o', 'p', 'e', 'n'], ['t', 'h', 'e'], .launchApp, "launch app", "bundleId", 16⟩,
    ⟨['s', 't', 'a', 'r', 't'], ['t', 'h', 'e'], .launchApp, "launch app", "bundleId", 17⟩]

def terminate : List AppVerb :=
  [⟨['t', 'e', 'r', 'm', 'i', 'n', 'a', 'r'], ['l', 'a'], .terminateApp, "terminate app", "bundleId", 18⟩,
    ⟨['c', 'e', 'r', 'r', 'a', 'r'], ['l', 'a'], .terminateApp, "terminate app", "bundleId", 19⟩,
    ⟨['m', 'a', 't', 'a', 'r'], ['l', 'a'], .terminateApp, "terminate app", "bundleId", 20⟩,
    ⟨['t', 'e', 'r', 'm', 'i', 'n', 'a', 't', 'e'], ['t', 'h', 'e'], .terminateApp, "terminate app", "bundleId", 21⟩,
    ⟨['c', 'l', 'o', 's', 'e'], ['t', 'h', 'e'], .terminateApp, "terminate app", "bundleId", 22⟩,
    ⟨['k', 'i', 'l', 'l'], ['t', 'h', 'e'], .terminateApp, "terminate app", "bundleId", 23⟩]

def uninstall : List AppVerb :=
  [⟨['d', 'e', 's', 'i', 'n', 's', 't', 'a', 'l', 'a', 'r'], ['l', 'a'], .uninstallApp, "uninstall app", "bundleId",
      24⟩,
    ⟨['e', 'l', 'i', 'm', 'i', 'n', 'a', 'r'], ['l', 'a'], .uninstallApp, "uninstall app", "bundleId", 25⟩,
    ⟨['b', 'o', 'r', 'r', 'a', 'r'], ['l', 'a'], .uninstallApp, "uninstall app", "bundleId", 26⟩,
    ⟨['u', 'n', 'i', 'n', 's', 't', 'a', 'l', 'l'], ['t', 'h', 'e'], .uninstallApp, "uninstall app", "bundleId", 27⟩,
    ⟨['r', 'e', 'm', 'o', 'v', 'e'], ['t', 'h', 'e'], .uninstallApp, "uninstall app", "bundleId", 28⟩,
    ⟨['d', 'e', 'l', 'e', 't', 'e'], ['t', 'h', 'e'], .uninstallApp, "uninstall app", "bundleId", 29⟩]

def all : List AppVerb :=
  install ++ launch ++ terminate ++ uninstall

def app : List Char := ['a', 'p', 'p']

def vocabulary (verb : AppVerb) : List (List Char) :=
  [verb.word, verb.article, app]

/-- The article may be there or not. -/
def phrasings (verb : AppVerb) : List (List (List Char)) :=
  [[verb.word, app], verb.vocabulary]

/-- The text says the verb, perhaps its article, the word for an app and then the parameter. -/
def Says (verb : AppVerb) (v text : String) : Prop :=
  ∃ words ∈ verb.phrasings, ∃ said, Spoken words said ∧ text.toList = said ++ v.toList

theorem mem_vocabulary {verb : AppVerb} {words : List (List Char)} (hwords : words ∈ verb.phrasings)
    {word : List Char} (hword : word ∈ words) : word ∈ verb.vocabulary := by
  rw [phrasings, List.mem_pair] at hwords
  rcases hwords with rfl | rfl
  · rw [List.mem_pair] at hword
    rcases hword with rfl | rfl
    · exact List.mem_cons_self
    · exact List.mem_cons_of_mem _ (List.mem_cons_of_mem _ List.mem_cons_self)
  · exact hword

theorem asciiLower_eq : ∀ verb ∈ all, ∀ word ∈ verb.vocabulary, Text.asciiLower word = word := by decide

theorem place_lt : ∀ verb ∈ all, verb.place < 30 := by decide

/-- What the verb is recognized as with its parameter. -/
def recognition (verb : AppVerb) (v : String) : Recognition :=
  ⟨verb.kind, verb.name, .ofList [(verb.parameter, .string v)]⟩

/-! ## Rules -/

def blanks : Pattern := .oneOrMore true (.chars .blank)

/-- The words that may lead over to a path: `at`, and `en la ruta`. -/
def lead (verb : AppVerb) : Pattern :=
  if verb.article = ['l', 'a'] then
    .seq blanks (literals ['e', 'n'] (.seq blanks (literals ['l', 'a'] (.seq blanks
      (literals ['r', 'u', 't'] (.chars (.literal 'a')))))))
  else .seq blanks (.seq (.chars (.literal 'a')) (.chars (.literal 't')))

/-- What stands behind the word for an app. -/
def tail (verb : AppVerb) : Pattern :=
  let argument := Pattern.seq blanks (Phrase.argument verb.parameter)
  if verb.kind = .installApp then .seq (.optional true verb.lead) argument else argument

def spoken (verb : AppVerb) : Pattern :=
  literals verb.word (.seq blanks (.seq (.optional true (literals verb.article blanks)) (literals app verb.tail)))

/-- The verbs to install have to be words of their own. -/
def pattern (verb : AppVerb) : Pattern :=
  if verb.kind = .installApp then .seq .boundary verb.spoken else verb.spoken

/-- The rule of the verb is in the catalog, for an entry that takes only the parameter. -/
def Written (verb : AppVerb) : Prop :=
  ∃ entry source, writtenRules[verb.place]? = some (entry, String.ofList source) ∧
    ofChars? source = some verb.pattern ∧ entry.kind = verb.kind ∧ entry.name = verb.name ∧
    entry.takesOnly verb.parameter = true

theorem written : ∀ verb ∈ all, verb.Written := by
  simp only [all, install, launch, terminate, uninstall, List.cons_append, List.nil_append]
  repeat' first
    | exact ⟨_, _, rfl, by decide, rfl, rfl, by decide⟩
    | exact List.forall_mem_nil _
    | refine List.forall_mem_cons.2 ⟨?_, ?_⟩

end AppVerb

/-! ## Earlier rules -/

/-- The pattern of a rule matches from no place in the words of a later verb on. It does not begin with white space,
and it has to take some. -/
def heeds (number : Nat) (pattern : Pattern) : Bool :=
  (AppVerb.all.all fun verb => verb.place ≤ number ||
    verb.vocabulary.all fun word => pattern.passesWord word) &&
  pattern.remainders? [.blank] == some [] && pattern.takes (· == .blank)

theorem writtenRules_heed : ∀ x ∈ (writtenRules.take 29).zipIdx,
    ∃ pattern, ofText? x.1.2 = some pattern ∧ heeds x.2 pattern = true := by
  repeat' first
    | exact exists_of_ofChars? (by decide +kernel)
    | exact List.forall_mem_nil _
    | refine List.forall_mem_cons.2 ⟨?_, ?_⟩

/-- The rules before the one of a verb find nothing where the verb is said with a token. -/
theorem heeds_rules {verb : AppVerb} (hverb : verb ∈ AppVerb.all) {v text : String} (hv : IsToken v)
    (htext : verb.Says v text) : ∀ rule ∈ builtin.rules.take verb.place, rule.find? text.toList = none := by
  intro rule hrule
  obtain ⟨number, hplace, hsome⟩ := mem_take_iff_getElem?.1 hrule
  obtain ⟨words, hwords, said, hsaid, hsplit⟩ := htext
  have hnumber : number < 29 := by
    have := AppVerb.place_lt verb hverb
    omega
  obtain ⟨hknown, htakes⟩ := Bool.and_eq_true_iff.1 (check_of_rule writtenRules_heed hnumber hsome)
  obtain ⟨hall, hblank⟩ := Bool.and_eq_true_iff.1 hknown
  have hpasses : ∀ word ∈ words, rule.pattern.passesWord (Text.asciiLower word) = true := by
    have hor := List.all_eq_true.1 hall verb hverb
    rw [decide_eq_false (Nat.not_le.2 hplace), Bool.false_or] at hor
    intro word hword
    have hmem := AppVerb.mem_vocabulary hwords hword
    rw [AppVerb.asciiLower_eq verb hverb word hmem]
    exact List.all_eq_true.1 hor word hmem
  have hsilent := find?_of_no_blank htakes hv.blank
  rw [Rule.find?, hsplit, find?_of_spoken hpasses (beq_iff_eq.1 hblank) hsaid hsilent, Option.map_none]

/-! ## The rule of a verb -/

namespace AppVerb

variable {verb : AppVerb} {v : String} {gap : List Char}

theorem begins : ∀ verb ∈ all, ∀ word ∈ verb.vocabulary, Position.startsWithWord word = true := by decide

theorem article_eq : ∀ verb ∈ all, verb.article = ['l', 'a'] ∨ verb.article = ['t', 'h', 'e'] := by decide

theorem blanks_consumes (hne : gap ≠ []) (hgap : ∀ c ∈ gap, Text.isBlank c = true) {rest : List Char}
    (hrest : ∀ c ∈ rest.head?, Text.isBlank c = false) : blanks.Consumes gap rest [] :=
  .run hne hgap hrest

theorem argument_consumes (hv : IsToken v) (name : String) :
    (Phrase.argument name).Consumes v.toList [] [(name, v.toList)] := by
  have hin : ∀ c ∈ v.toList, (CharSet.unlisted [.blank, .single ',']).contains c = true := fun c hc =>
    CharSet.contains_unlisted (hv.blank c hc) fun heq => hv.comma (heq ▸ hc)
  exact .group name (.run hv.ne_nil hin fun _ hc => nomatch hc)

theorem lead_takes (verb : AppVerb) : verb.lead.takes (fun set => !Clue.blank.allows set) = true := by
  rw [lead]
  split
  · decide
  · decide

/-- The words that may lead over to a path are not said. -/
theorem tail_consumes (verb : AppVerb) (hv : IsToken v) (hne : gap ≠ []) (hgap : ∀ c ∈ gap, Text.isBlank c = true) :
    verb.tail.Consumes (gap ++ v.toList) [] [(verb.parameter, v.toList)] := by
  have hrest : ∀ c ∈ (v.toList ++ []).head?, Text.isBlank c = false := by
    rw [List.append_nil]
    exact fun c hc => hv.blank c (List.mem_of_mem_head? hc)
  have hargument : (Pattern.seq blanks (Phrase.argument verb.parameter)).Consumes (gap ++ v.toList) []
      [(verb.parameter, v.toList)] :=
    (blanks_consumes hne hgap hrest).seq (argument_consumes hv verb.parameter)
  rw [tail]
  split
  · refine .optional_back ?_ hargument
    rw [List.append_nil]
    exact stuck_between verb.lead_takes rfl hgap hv.blank
  · exact hargument

/-- Behind the verb and white space, the word for an app is taken with its article or without one. -/
theorem app_consumes (hverb : verb ∈ all) (hv : IsToken v) {words : List (List Char)}
    (hwords : verb.word :: words ∈ verb.phrasings) {said : List Char} (hsaid : Spoken words said) :
    (Pattern.seq (.optional true (literals verb.article blanks)) (literals app verb.tail)).Consumes
      (said ++ v.toList) [] [(verb.parameter, v.toList)] := by
  have happ : ∀ {spoken gap : List Char}, Text.sameAscii spoken app = true → gap ≠ [] →
      (∀ c ∈ gap, Text.isBlank c = true) → (literals app verb.tail).Consumes (spoken ++ (gap ++ v.toList)) []
        [(verb.parameter, v.toList)] := fun hsame hne hgap =>
    .literals (Text.map_fold_of_sameAscii hsame) (tail_consumes verb hv hne hgap)
  rw [phrasings, List.mem_pair, vocabulary, List.cons.injEq, List.cons.injEq] at hwords
  rcases hwords with ⟨-, rfl⟩ | ⟨-, rfl⟩
  · obtain _ | ⟨hsame, hne, hgap, _ | _⟩ := hsaid
    rename_i spoken gap
    have hstuck : (literals verb.article blanks).Stuck (spoken ++ (gap ++ v.toList)) := by
      obtain ⟨d, others, rfl, hd, -⟩ := List.map_eq_cons_iff.1 (Text.map_fold_of_sameAscii hsame)
      rcases article_eq verb hverb with harticle | harticle
      · exact harticle ▸ stuck_of_letter (hd.symm ▸ by decide) _ _ _
      · exact harticle ▸ stuck_of_letter (hd.symm ▸ by decide) _ _ _
    rw [← List.append_nil (_ ++ _)] at hstuck
    have hbare := (Consumes.left_out hstuck).seq (happ hsame hne hgap)
    simpa only [List.append_nil, List.append_assoc, List.nil_append] using hbare
  · obtain _ | ⟨hsame, hne, hgap, _ | ⟨hsame', hne', hgap', _ | _⟩⟩ := hsaid
    rename_i spoken gap spoken' gap'
    have hhead : ∀ c ∈ (spoken' ++ (gap' ++ v.toList) ++ []).head?, Text.isBlank c = false := by
      rw [List.append_assoc]
      exact not_blank_of_startsWithWord (startsWithWord_append (startsWithWord_of_sameAscii hsame') _)
    have harticle : (literals verb.article blanks).Consumes (spoken ++ gap)
        (spoken' ++ (gap' ++ v.toList) ++ []) [] :=
      .literals (Text.map_fold_of_sameAscii hsame) (blanks_consumes hne hgap hhead)
    have hboth := harticle.optional.seq (happ hsame' hne' hgap')
    simpa only [List.append_nil, List.append_assoc] using hboth

/-- From the verb on the pattern takes the whole text, and gives the parameter only. -/
theorem spoken_consumes (hverb : verb ∈ all) (hv : IsToken v) {words : List (List Char)}
    (hwords : words ∈ verb.phrasings) {said : List Char} (hsaid : Spoken words said) :
    verb.spoken.Consumes (said ++ v.toList) [] [(verb.parameter, v.toList)] := by
  obtain ⟨more, hmore, rfl⟩ : ∃ more, (more = [app] ∨ more = [verb.article, app]) ∧ words = verb.word :: more := by
    rcases List.mem_pair.1 hwords with rfl | rfl
    · exact ⟨_, .inl rfl, rfl⟩
    · exact ⟨_, .inr rfl, rfl⟩
  obtain _ | ⟨hsame, hne, hgap, hrest⟩ := hsaid
  rename_i spoken gap rest
  have hbegins : Position.startsWithWord rest = true := by
    rcases hmore with rfl | rfl
    · exact hrest.startsWithWord rfl
    · exact hrest.startsWithWord (begins verb hverb verb.article (by simp [vocabulary]))
  have hhead : ∀ c ∈ (rest ++ v.toList ++ []).head?, Text.isBlank c = false := by
    rw [List.append_assoc]
    exact not_blank_of_startsWithWord (startsWithWord_append hbegins _)
  have happ := app_consumes hverb hv hwords hrest
  have hall := Consumes.literals (Text.map_fold_of_sameAscii hsame) ((blanks_consumes hne hgap hhead).seq happ)
  rw [AppVerb.spoken]
  simpa only [List.append_nil, List.append_assoc] using hall

theorem startsWithWord_said (hverb : verb ∈ all) {words : List (List Char)} (hwords : words ∈ verb.phrasings)
    {said : List Char} (hsaid : Spoken words said) : Position.startsWithWord said = true := by
  have hword := begins verb hverb verb.word List.mem_cons_self
  rcases List.mem_pair.1 hwords with rfl | rfl
  · exact hsaid.startsWithWord hword
  · exact hsaid.startsWithWord hword

theorem exists_match (hverb : verb ∈ all) {text : String} (hv : IsToken v) (htext : verb.Says v text) {rule : Rule}
    {entry : Entry} {source : List Char} (hreads : rule.Reads (entry, String.ofList source))
    (hsource : ofChars? source = some verb.pattern) :
    ∃ m, rule.pattern.find? text.toList = some m ∧ m.groups = [(verb.parameter, v.toList)] := by
  obtain ⟨words, hwords, said, hsaid, hsplit⟩ := htext
  have hpattern := hreads.pattern_eq
  rw [ofText?_ofList, hsource, Option.some.injEq] at hpattern
  have hconsumes := spoken_consumes hverb hv hwords hsaid
  rw [← hpattern, hsplit, ← List.append_nil (said ++ v.toList), AppVerb.pattern]
  split
  · refine hconsumes.find?_of_word ?_
    rw [List.append_nil]
    exact startsWithWord_append (startsWithWord_said hverb hwords hsaid) _
  · exact hconsumes.find?

end AppVerb

/-! ## Recognition -/

theorem trim_said {verb : AppVerb} (hverb : verb ∈ AppVerb.all) {v text : String} (hv : IsToken v)
    (htext : verb.Says v text) : Text.trim text.toList = text.toList := by
  obtain ⟨words, hwords, said, hsaid, hsplit⟩ := htext
  rw [hsplit]
  refine Text.trim_of_ends ?_ fun c hc => ?_
  · exact not_blank_of_startsWithWord (startsWithWord_append (AppVerb.startsWithWord_said hverb hwords hsaid) _)
  · rw [List.getLast?_append_of_ne_nil _ hv.ne_nil] at hc
    exact hv.blank c (List.mem_of_mem_getLast? hc)

/-- A verb that is said with a token is recognized as its command with just this parameter. So no way to say that
an app is uninstalled is taken for an instruction to install one. -/
theorem resolve_app {verb : AppVerb} (hverb : verb ∈ AppVerb.all) {v text : String} (hv : IsToken v)
    (htext : verb.Says v text) :
    builtin.resolve text = .ok (verb.recognition v) ∧
      (verb ∈ AppVerb.uninstall → ∀ found, builtin.resolve text = .ok found → found.kind ≠ .installApp) := by
  have hresolve : builtin.resolve text = .ok (verb.recognition v) := by
    obtain ⟨entry, source, hwritten, hsource, hkind, hname, honly⟩ := AppVerb.written verb hverb
    obtain ⟨rule, hrule, hreads⟩ := exists_rule hwritten
    obtain ⟨m, hm, hgroups⟩ := AppVerb.exists_match hverb hv htext hreads hsource
    have hentry : rule.definition.entry = entry := hreads.entry_eq
    have hfirst := firstMatch?_of_earlier hrule (heeds_rules hverb hv htext) hm
    rw [← trim_said hverb hv htext] at hfirst
    have hne : (Text.trim text.toList).isEmpty = false := by
      obtain ⟨words, hwords, said, hsaid, hsplit⟩ := id htext
      rw [trim_said hverb hv htext, hsplit, List.isEmpty_eq_false_iff]
      exact List.append_ne_nil_of_right_ne_nil _ hv.ne_nil
    have htrim : Text.trim v.toList = v.toList := Text.trim_of_no_blank hv.blank
    rw [resolve_of_firstMatch? hne hfirst,
      Definition.extract_of_group (hentry.symm ▸ honly) hgroups (htrim.symm ▸ hv.ne_nil), htrim, Definition.kind,
      Definition.name, hentry, hkind, hname, Extractor.text, String.ofList_toList]
    rfl
  refine ⟨hresolve, fun huninstall found hfound => ?_⟩
  obtain rfl := Except.ok.inj (hresolve.symm.trans hfound)
  have hkinds : ∀ verb ∈ AppVerb.uninstall, verb.kind ≠ .installApp := by decide
  exact hkinds verb huninstall

/-- A path that is spelled like a word of the phrase, and an identifier with an instruction in it. -/
theorem resolve_app_at :
    builtin.resolve "Install \t the APP at" =
        .ok ⟨.installApp, "install app", .ofList [("appPath", .string "at")]⟩ ∧
      builtin.resolve "unInstall app screenshot" =
        .ok ⟨.uninstallApp, "uninstall app", .ofList [("bundleId", .string "screenshot")]⟩ := by
  constructor
  · have hverb : (⟨['i', 'n', 's', 't', 'a', 'l', 'l'], ['t', 'h', 'e'], .installApp, "install app", "appPath", 10⟩ :
        AppVerb) ∈ AppVerb.all := by simp [AppVerb.all, AppVerb.install]
    have hsaid : Spoken [['i', 'n', 's', 't', 'a', 'l', 'l'], ['t', 'h', 'e'], AppVerb.app]
        (['I', 'n', 's', 't', 'a', 'l', 'l'] ++ ([' ', '\t', ' '] ++ (['t', 'h', 'e'] ++ ([' '] ++
          (['A', 'P', 'P'] ++ ([' '] ++ [])))))) := by
      refine .cons ?_ (List.cons_ne_nil _ _) (List.all_eq_true.1 ?_) (.cons ?_ (List.cons_ne_nil _ _)
        (List.all_eq_true.1 ?_) (.cons ?_ (List.cons_ne_nil _ _) (List.all_eq_true.1 ?_) .nil))
      all_goals decide
    refine (resolve_app hverb (show IsToken "at" by decide) ⟨_, ?_, _, hsaid, ?_⟩).1
    · simp [AppVerb.phrasings, AppVerb.vocabulary]
    · decide
  · have hverb : (⟨['u', 'n', 'i', 'n', 's', 't', 'a', 'l', 'l'], ['t', 'h', 'e'], .uninstallApp, "uninstall app",
        "bundleId", 27⟩ : AppVerb) ∈ AppVerb.all := by simp [AppVerb.all, AppVerb.uninstall]
    have hsaid : Spoken [['u', 'n', 'i', 'n', 's', 't', 'a', 'l', 'l'], AppVerb.app]
        (['u', 'n', 'I', 'n', 's', 't', 'a', 'l', 'l'] ++ ([' '] ++ (['a', 'p', 'p'] ++ ([' '] ++ [])))) := by
      refine .cons ?_ (List.cons_ne_nil _ _) (List.all_eq_true.1 ?_) (.cons ?_ (List.cons_ne_nil _ _)
        (List.all_eq_true.1 ?_) .nil)
      all_goals decide
    refine (resolve_app hverb (show IsToken "screenshot" by decide) ⟨_, ?_, _, hsaid, ?_⟩).1
    · simp [AppVerb.phrasings]
    · decide

end Registry

end SimControl
