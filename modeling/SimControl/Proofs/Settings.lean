import SimControl.Proofs.Text.Numeral
import SimControl.Settings.Basic

/-!
# Overrides

Three of the variables that override settings have to be numerals, each within a limit of its own. `Overridden` says
what the settings come to if they all are, or are not set, and `Refused` what is said otherwise: only the first
variable that is misset counts. `withOverrides_exact` says that this is how an environment is read, whatever the
settings were before, and that reading it once more changes nothing.
-/

namespace SimControl.Settings

namespace Environment

/-- The variable is set, and without the white space around it that is the text. -/
def Sets (env : Environment) (name : String) (text : List Char) : Prop :=
  ∃ raw, env name = some raw ∧ Text.trim raw.toList = text ∧ text ≠ []

/-- What is chosen is what the text of the variable means. If the variable is not set, or is blank, the base stays. -/
def Decides {α : Type} (env : Environment) (name : String) (means : List Char → α → Prop) (base chosen : α) : Prop :=
  (∃ text, env.Sets name text ∧ means text chosen) ∨ (∀ text, ¬ env.Sets name text) ∧ chosen = base

end Environment

/-- A variable that has to be a numeral below its limit. -/
structure NumericVariable where
  name : String
  limit : Nat

/-- The numeric variables, in the order in which they are read. -/
def numericVariables : List NumericVariable :=
  [⟨timeoutVariable, 2 ^ 64⟩, ⟨retriesVariable, 2 ^ 32⟩, ⟨retryDelayVariable, 2 ^ 64⟩]

namespace Environment

/-- The variable is set to a text that is no numeral below its limit. -/
def Misset (env : Environment) (v : NumericVariable) (text : List Char) : Prop :=
  env.Sets v.name text ∧ ∀ n, Text.UnsignedNumeral text n → v.limit ≤ n

/-- What is said of an environment with misset variables: the name and the text of the first one. -/
inductive Refused (env : Environment) : SettingsError → Prop
  | variable {before after : List NumericVariable} {v : NumericVariable} {text : List Char}
      (order : numericVariables = before ++ v :: after) (fit : ∀ u ∈ before, ∀ other, ¬ env.Misset u other)
      (misset : env.Misset v text) : Refused env (.invalidVariable v.name (String.ofList text))

/-- The settings with the overrides of the environment, each field for itself. -/
structure Overridden (env : Environment) (s t : Settings) : Prop where
  timeout : env.Decides timeoutVariable
    (fun text timeout => ∃ ms : UInt64, timeout = some ms ∧ Text.UnsignedNumeral text ms.toNat)
    s.defaultTimeoutMs t.defaultTimeoutMs
  retries : env.Decides retriesVariable (fun text retries => Text.UnsignedNumeral text retries.toNat)
    s.defaultRetries t.defaultRetries
  delay : env.Decides retryDelayVariable (fun text ms => Text.UnsignedNumeral text ms.toNat)
    s.retryDelayMs t.retryDelayMs
  session : env.Decides sessionVariable (fun text session => session = some (String.ofList text))
    s.defaultSessionId t.defaultSessionId

/-! ## One variable -/

section

variable {env : Environment} {name : String} {text : List Char}

theorem value?_eq_some_iff : env.value? name = some text ↔ env.Sets name text := by
  rw [value?, Option.filter_eq_some_iff, Option.map_eq_some_iff]
  simp only [Sets, Bool.not_eq_true', List.isEmpty_eq_false_iff]
  constructor
  · rintro ⟨⟨raw, hraw, htrim⟩, hne⟩
    exact ⟨raw, hraw, htrim, hne⟩
  · rintro ⟨raw, hraw, htrim, hne⟩
    exact ⟨⟨raw, hraw, htrim⟩, hne⟩

theorem value?_eq_none_iff : env.value? name = none ↔ ∀ text, ¬ env.Sets name text := by
  simp only [Option.eq_none_iff_forall_ne_some, ne_eq, value?_eq_some_iff]

variable {α : Type} {read : List Char → Option α} {val : α → Nat}

/-- The value that is read from a variable, if that is set. -/
inductive Gives (env : Environment) (name : String) (val : α → Nat) : Option α → Prop
  | unset (silent : ∀ text, ¬ env.Sets name text) : Gives env name val none
  | set {text : List Char} {a : α} (given : env.Sets name text) (numeral : Text.UnsignedNumeral text (val a)) :
      Gives env name val (some a)

theorem read?_cases (env : Environment) (v : NumericVariable)
    (hread : ∀ text a, read text = some a ↔ Text.UnsignedNumeral text (val a))
    (hlimit : ∀ n, n < v.limit → ∃ a, val a = n) (hval : ∀ a, val a < v.limit) :
    (∃ text, env.Misset v text ∧
      env.read? v.name read = .error (.invalidVariable v.name (String.ofList text))) ∨
    (∀ text, ¬ env.Misset v text) ∧ ∃ a?, env.read? v.name read = .ok a? ∧ env.Gives v.name val a? := by
  cases hvalue : env.value? v.name with
  | none =>
      have hsilent := value?_eq_none_iff.1 hvalue
      have hok : env.read? v.name read = .ok none := by rw [read?, hvalue]
      exact .inr ⟨fun text hmisset => hsilent text hmisset.1, none, hok, .unset hsilent⟩
  | some text =>
      have hset := value?_eq_some_iff.1 hvalue
      cases ha : read text with
      | none =>
          have herror : env.read? v.name read = .error (.invalidVariable v.name (String.ofList text)) := by
            simp only [read?, hvalue, ha]
          refine .inl ⟨text, ⟨hset, fun n hn => Nat.le_of_not_lt fun hlt => ?_⟩, herror⟩
          obtain ⟨a, rfl⟩ := hlimit n hlt
          exact absurd (ha.symm.trans ((hread text a).2 hn)) (by simp)
      | some a =>
          have hnumeral := (hread text a).1 ha
          have hok : env.read? v.name read = .ok (some a) := by simp only [read?, hvalue, ha]
          refine .inr ⟨fun other hmisset => ?_, some a, hok, .set hset hnumeral⟩
          obtain rfl : text = other := Option.some.inj (hvalue.symm.trans (value?_eq_some_iff.2 hmisset.1))
          exact absurd (hval a) (Nat.not_lt.2 (hmisset.2 _ hnumeral))

theorem read?_uint64_cases (env : Environment) (name : String) :
    (∃ text, env.Misset ⟨name, 2 ^ 64⟩ text ∧
      env.read? name Text.uint64? = .error (.invalidVariable name (String.ofList text))) ∨
    (∀ text, ¬ env.Misset ⟨name, 2 ^ 64⟩ text) ∧
      ∃ a?, env.read? name Text.uint64? = .ok a? ∧ env.Gives name UInt64.toNat a? :=
  env.read?_cases ⟨name, 2 ^ 64⟩ (fun _ _ => Text.uint64?_eq_some_iff)
    (fun _ hn => ⟨_, UInt64.toNat_ofNat_of_lt' hn⟩) UInt64.toNat_lt

theorem read?_uint32_cases (env : Environment) (name : String) :
    (∃ text, env.Misset ⟨name, 2 ^ 32⟩ text ∧
      env.read? name Text.uint32? = .error (.invalidVariable name (String.ofList text))) ∨
    (∀ text, ¬ env.Misset ⟨name, 2 ^ 32⟩ text) ∧
      ∃ a?, env.read? name Text.uint32? = .ok a? ∧ env.Gives name UInt32.toNat a? :=
  env.read?_cases ⟨name, 2 ^ 32⟩ (fun _ _ => Text.uint32?_eq_some_iff)
    (fun _ hn => ⟨_, UInt32.toNat_ofNat_of_lt' hn⟩) UInt32.toNat_lt

/-- A value that is read decides, and otherwise the base does. -/
theorem Gives.decides {a? : Option α} (h : env.Gives name val a?) (base : α) :
    env.Decides name (fun text a => Text.UnsignedNumeral text (val a)) base (a?.getD base) := by
  cases h with
  | unset silent => exact .inr ⟨silent, rfl⟩
  | set given numeral => exact .inl ⟨_, given, numeral⟩

theorem Gives.decides_or {a? : Option α} (h : env.Gives name val a?) (base : Option α) :
    env.Decides name (fun text chosen => ∃ a, chosen = some a ∧ Text.UnsignedNumeral text (val a)) base
      (a?.or base) := by
  cases h with
  | unset silent => exact .inr ⟨silent, rfl⟩
  | set given numeral => exact .inl ⟨_, given, _, rfl, numeral⟩

theorem decides_text (env : Environment) (name : String) (base : Option String) :
    env.Decides name (fun text chosen => chosen = some (String.ofList text)) base
      (((env.value? name).map String.ofList).or base) := by
  cases hvalue : env.value? name with
  | none => exact .inr ⟨value?_eq_none_iff.1 hvalue, rfl⟩
  | some text => exact .inl ⟨text, value?_eq_some_iff.1 hvalue, rfl⟩

end

end Environment

/-! ## All variables -/

/-- An environment is refused because of its first misset variable, or it has none and overrides the settings. -/
theorem withOverrides_cases (s : Settings) (env : Environment) :
    ((∃ v ∈ numericVariables, ∃ text, env.Misset v text) ∧
      ∃ e, env.Refused e ∧ s.withOverrides env = .error e) ∨
    (∀ v ∈ numericVariables, ∀ text, ¬ env.Misset v text) ∧
      ∃ t, s.withOverrides env = .ok t ∧ env.Overridden s t ∧ t.withOverrides env = .ok t := by
  rcases env.read?_uint64_cases timeoutVariable with
    ⟨text, hmisset, hread⟩ | ⟨hfit, timeout, htimeout, hgives⟩
  · refine .inl ⟨⟨_, List.mem_cons_self, text, hmisset⟩, _, .variable (List.nil_append _).symm ?_ hmisset, ?_⟩
    · exact List.forall_mem_nil _
    · rw [withOverrides, hread]
      rfl
  rcases env.read?_uint32_cases retriesVariable with
    ⟨text, hmisset, hread⟩ | ⟨hfit', retries, hretries, hgives'⟩
  · refine .inl ⟨⟨_, List.mem_of_getElem? (i := 1) rfl, text, hmisset⟩, _,
      .variable (show _ = [⟨timeoutVariable, 2 ^ 64⟩] ++ _ from rfl) ?_ hmisset, ?_⟩
    · exact List.forall_mem_singleton.2 hfit
    · rw [withOverrides, htimeout, hread]
      rfl
  rcases env.read?_uint64_cases retryDelayVariable with
    ⟨text, hmisset, hread⟩ | ⟨hfit'', delay, hdelay, hgives''⟩
  · refine .inl ⟨⟨_, List.mem_of_getElem? (i := 2) rfl, text, hmisset⟩, _,
      .variable (show _ = [⟨timeoutVariable, 2 ^ 64⟩, ⟨retriesVariable, 2 ^ 32⟩] ++ _ from rfl) ?_ hmisset, ?_⟩
    · exact List.forall_mem_cons.2 ⟨hfit, List.forall_mem_singleton.2 hfit'⟩
    · rw [withOverrides, htimeout, hretries, hread]
      rfl
  have hread : ∀ s : Settings, s.withOverrides env = .ok ⟨timeout.or s.defaultTimeoutMs,
      retries.getD s.defaultRetries, delay.getD s.retryDelayMs,
      ((env.value? sessionVariable).map String.ofList).or s.defaultSessionId⟩ := by
    intro s
    rw [withOverrides, htimeout, hretries, hdelay]
    rfl
  refine .inr ⟨?_, _, hread s, ?_, ?_⟩
  · exact List.forall_mem_cons.2 ⟨hfit, List.forall_mem_cons.2 ⟨hfit', List.forall_mem_singleton.2 hfit''⟩⟩
  · exact ⟨hgives.decides_or _, hgives'.decides _, hgives''.decides _, env.decides_text _ _⟩
  · rw [hread]
    simp only [← Option.or_assoc, Option.or_self]
    cases retries <;> cases delay <;> rfl

/-- Settings are refused an environment if and only if one of its numeric variables is misset, because of the first
such variable. Otherwise each of them is overridden for itself, and once more does not change them. -/
theorem withOverrides_exact (s : Settings) (env : Environment) :
    ((∃ e, s.withOverrides env = .error e) ↔ ∃ v ∈ numericVariables, ∃ text, env.Misset v text) ∧
      (∀ e, s.withOverrides env = .error e → env.Refused e) ∧
      ∀ t, s.withOverrides env = .ok t → env.Overridden s t ∧ t.withOverrides env = .ok t := by
  rcases s.withOverrides_cases env with ⟨hmisset, e, hrefused, hread⟩ | ⟨hfit, t, hread, hoverridden, hagain⟩
  · refine ⟨⟨fun _ => hmisset, fun _ => ⟨e, hread⟩⟩, fun e' he' => ?_, fun t ht => ?_⟩
    · obtain rfl := Except.error.inj (hread.symm.trans he')
      exact hrefused
    · cases hread.symm.trans ht
  · refine ⟨⟨?_, ?_⟩, fun e he => ?_, fun t' ht' => ?_⟩
    · rintro ⟨e, he⟩
      cases hread.symm.trans he
    · rintro ⟨v, hv, text, hmisset⟩
      exact absurd hmisset (hfit v hv text)
    · cases hread.symm.trans he
    · obtain rfl := Except.ok.inj (hread.symm.trans ht')
      exact ⟨hoverridden, hagain⟩

/-- Padding and a leading plus do not matter, a blank variable is as good as unset, and the first misset variable is the
one that is named. -/
theorem withOverrides_padded :
    let s : Settings := { defaultRetries := 3, retryDelayMs := 20 }
    let t : Settings := { s with defaultTimeoutMs := some 250, defaultSessionId := some "night" }
    let env : Environment := fun name =>
      List.lookup name [(timeoutVariable, " +0250 "), (retriesVariable, "\t"), (sessionVariable, " night ")]
    let beyond : Environment := fun name =>
      List.lookup name [(timeoutVariable, "250"), (retriesVariable, " 4294967296 "), (retryDelayVariable, "soon")]
    (env.Overridden s t ∧ t.withOverrides env = .ok t) ∧
      beyond.Refused (.invalidVariable retriesVariable "4294967296") := by
  intro s t env beyond
  exact ⟨(s.withOverrides_exact env).2.2 t (by rfl), (s.withOverrides_exact beyond).2.1 _ (by rfl)⟩

end SimControl.Settings
