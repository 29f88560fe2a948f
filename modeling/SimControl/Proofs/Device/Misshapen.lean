import SimControl.Proofs.Catalog.Shape
import SimControl.Proofs.Device.Duration

/-!
# Optional parameters of the wrong type

A text may be taken for a number or a flag. Other data that does not have the declared type of an optional parameter
is misshapen. A misshapen number or flag is refused, but a misshapen text is passed over: the command is carried out
as if the parameter had not been given. So `dispatch_misshapen` says of every optional parameter which of the two
happens. Crash logs are deleted for all apps when the app is given as a number, but not when `all` is.
-/

namespace SimControl

/-! ## Wrong types -/

namespace ParameterType

/-- The texts that are taken for data of a type. -/
def coerces : ParameterType → Json → Bool
  | .number, .string s => (Params.double? (.string s)).isSome
  | .boolean, .string s => (Params.flag? (.string s)).isSome
  | _, _ => false

/-- Data that is there, but is neither of the type nor taken for data of it. -/
structure Misshapen (type : ParameterType) (given : Json) : Prop where
  isNull_eq : given.isNull = false
  accepts_eq : type.accepts given = false
  coerces_eq : type.coerces given = false

variable {given : Json}

theorem Misshapen.string?_eq {type : ParameterType} (h : type.Misshapen given)
    (htype : type = .string ∨ type = .timeString) : given.string? = none := by
  have haccepts : given.isString = false := by
    rcases htype with rfl | rfl
    · exact h.accepts_eq
    · exact h.accepts_eq
  cases given with
  | string s => cases haccepts
  | null | bool | number | array | object => rfl

theorem Misshapen.double?_eq (h : Misshapen .number given) : Params.double? given = none := by
  cases given with
  | number n => cases h.accepts_eq
  | string s => exact Option.not_isSome_iff_eq_none.1 (Bool.eq_false_iff.1 h.coerces_eq)
  | null | bool | array | object => rfl

theorem Misshapen.flag?_eq (h : Misshapen .boolean given) : Params.flag? given = none := by
  cases given with
  | bool b => cases h.accepts_eq
  | string s => exact Option.not_isSome_iff_eq_none.1 (Bool.eq_false_iff.1 h.coerces_eq)
  | null | number | array | object => rfl

end ParameterType

theorem Registry.catalog_optional : ∀ entry ∈ catalog, ∀ name ∈ entry.kind.uses,
    (entry.typeOf name = .string ∨ entry.typeOf name = .timeString) ∧ name ∉ ["duration", "all", "autoboot"] ∨
    entry.typeOf name = .number ∧ name = "duration" ∨
    entry.typeOf name = .boolean ∧ name ∈ ["all", "autoboot"] := by
  decide

/-! ## Readings -/

namespace Params

variable {params other : Params} {name : String} {given : Json}

theorem optionalText_of_other (h : params.present? name = some given) (hgiven : given.string? = none) :
    params.optionalText name = none := by
  rw [optionalText, h, Option.bind_some, hgiven]
  rfl

theorem optionalText_of_absent (h : params.present? name = none) : params.optionalText name = none := by
  rw [optionalText, h]
  rfl

theorem flag_of_other (h : params.present? name = some given) (hgiven : flag? given = none) :
    params.flag name = .error ⟨name, .notFlag given⟩ := by
  rw [flag, optionalFlag, h]
  simp only [hgiven]
  rfl

/-- The other parameters are the same, and this one is missing in the second place. -/
structure Lacks (params other : Params) (name : String) : Prop where
  missing : other.Missing name
  others : ∀ key, key ≠ name → other.get? key = params.get? key

/-- A text of the wrong type is read like none. -/
theorem Lacks.optionalText_eq (h : params.Lacks other name) (hpresent : params.present? name = some given)
    (hgiven : given.string? = none) (key : String) : params.optionalText key = other.optionalText key := by
  by_cases hkey : key = name
  · rw [hkey, optionalText_of_other hpresent hgiven, optionalText_of_absent (missing_iff.1 h.missing)]
  · exact optionalText_congr (present?_congr (h.others key hkey)).symm

theorem Lacks.flag_eq (h : params.Lacks other name) {key : String} (hkey : key ≠ name) :
    params.flag key = other.flag key := by
  rw [flag, flag, optionalFlag_congr (present?_congr (h.others key hkey)).symm]

end Params

namespace Operation

open Params

variable {kind : CommandKind} {params other : Params} {name : String} {given : Json}

/-- A command is read as if a text of the wrong type had not been given. -/
theorem ofParams_overlooks (hname : name ∈ kind.uses) (htext : name ∉ ["duration", "all", "autoboot"])
    (hpresent : params.present? name = some given) (hgiven : given.string? = none) (h : params.Lacks other name) :
    ofParams kind params = ofParams kind other := by
  have hread := h.optionalText_eq hpresent hgiven
  have hflag : ∀ key ∈ ["duration", "all", "autoboot"], params.flag key = other.flag key :=
    fun key hkey => h.flag_eq fun heq => htext (heq ▸ hkey)
  cases kind with
  | takeScreenshot | stopRecording | getSystemLogs | listCrashLogs => simp only [ofParams, hread]
  | getAppLogs => simp only [ofParams, text, hread]
  | deleteCrashLogs => simp only [ofParams, hread, hflag "all" (by decide)]
  | createSimulatorSession => simp only [ofParams, hread, hflag "autoboot" (by decide)]
  | shutdownSimulator => rw [ofParams_shutdown, ofParams_shutdown, hread]
  | swipe | pressDeviceButton | pressKey => exact absurd (List.mem_singleton.1 hname ▸ List.mem_cons_self) htext
  | _ => cases hname

/-- A command is not read if its duration is no number. -/
theorem ofParams_refuses_duration (hname : "duration" ∈ kind.uses) (hpresent : params.present? "duration" = some given)
    (hgiven : double? given = none) : ∃ e, ofParams kind params = .error e ∧ e.name ∈ "duration" :: kind.needs := by
  obtain ⟨fault, hfault⟩ := optionalNatural_of_no_duration hpresent (by rw [duration?, hgiven]; rfl)
  have huses : kind.uses = ["duration"] := by
    revert hname
    cases kind <;> decide
  cases hread : ofParams kind params with
  | error e =>
      refine ⟨e, rfl, ?_⟩
      rcases (reads_ofParams kind).names hread with hneeds | ⟨hused, -⟩
      · exact List.mem_cons_of_mem _ hneeds
      · rw [huses, List.mem_singleton] at hused
        exact hused ▸ List.mem_cons_self
  | ok operation =>
      have hduration : ∃ ms, params.optionalNatural "duration" = .ok ms := by
        cases kind with
        | swipe =>
            obtain ⟨_, -, hread⟩ := bind_eq_ok.1 hread
            obtain ⟨_, -, hread⟩ := bind_eq_ok.1 hread
            obtain ⟨ms, hms, -⟩ := bind_eq_ok.1 hread
            exact ⟨ms, hms⟩
        | pressDeviceButton | pressKey =>
            obtain ⟨_, -, hread⟩ := bind_eq_ok.1 hread
            obtain ⟨ms, hms, -⟩ := bind_eq_ok.1 hread
            exact ⟨ms, hms⟩
        | _ => exact absurd huses (by decide)
      obtain ⟨ms, hms⟩ := hduration
      rw [hfault] at hms
      cases hms

/-- A command is not read if one of its flags is none. -/
theorem ofParams_refuses_flag (hname : name ∈ kind.uses) (hflag : name ∈ ["all", "autoboot"])
    (hpresent : params.present? name = some given) (hgiven : flag? given = none) :
    ∃ e, ofParams kind params = .error e ∧ e.name ∈ name :: kind.needs := by
  refine ⟨⟨name, .notFlag given⟩, ?_, List.mem_cons_self⟩
  have hfault := flag_of_other hpresent hgiven
  cases kind with
  | deleteCrashLogs =>
      have honly : ∀ n ∈ CommandKind.deleteCrashLogs.uses, n ∈ ["all", "autoboot"] → n = "all" := by decide
      obtain rfl := honly name hname hflag
      rw [ofParams, hfault]
      rfl
  | createSimulatorSession =>
      have honly : ∀ n ∈ CommandKind.createSimulatorSession.uses, n ∈ ["all", "autoboot"] → n = "autoboot" := by decide
      obtain rfl := honly name hname hflag
      rw [ofParams, hfault]
      rfl
  | _ => exact absurd hflag ((by decide : ∀ n ∈ CommandKind.uses _, n ∉ ["all", "autoboot"]) name hname)

end Operation

/-! ## Dispatching -/

/-- An optional number or flag of the wrong type is refused, with no call of the device. An optional text of the wrong
type is not: the command is carried out as if it had not been given. -/
theorem dispatch_misshapen {σ : Type} (backend : Backend σ) {kind : CommandKind} {d : Definition}
    (hd : Registry.builtin.definition? kind = some d) {params : Params} {name : String} (hname : name ∈ kind.uses)
    {given : Json} (hget : params.get? name = some given) (hgiven : (d.entry.typeOf name).Misshapen given)
    (session : String) (w : World σ) :
    ((d.entry.typeOf name = .number ∨ d.entry.typeOf name = .boolean) ∧
      ∃ culprit ∈ name :: kind.needs, ∃ reason,
        dispatch backend kind params session w = (.error (.invalidParameter culprit reason), w)) ∨
    (d.entry.typeOf name = .string ∨ d.entry.typeOf name = .timeString) ∧
      ∀ other, params.Lacks other name →
        dispatch backend kind params session w = dispatch backend kind other session w := by
  obtain ⟨entry, hentry, rfl⟩ := Registry.exists_entry kind
  obtain ⟨same, hsame, rfl⟩ := Registry.exists_definition? hentry
  obtain rfl : same = d := Option.some.inj (hsame.symm.trans hd)
  have hpresent := Params.present?_of_get? hget hgiven.isNull_eq
  rcases Registry.catalog_optional _ hentry name hname with ⟨htype, htext⟩ | ⟨htype, rfl⟩ | ⟨htype, hflag⟩
  · refine .inr ⟨htype, fun other hlacks => ?_⟩
    rw [dispatch, dispatch, Operation.ofParams_overlooks hname htext hpresent (hgiven.string?_eq htype) hlacks]
  · rw [htype] at hgiven
    obtain ⟨e, hread, hculprit⟩ := Operation.ofParams_refuses_duration hname hpresent hgiven.double?_eq
    exact .inl ⟨.inl htype, e.name, hculprit, _, dispatch_of_error hread session w⟩
  · rw [htype] at hgiven
    obtain ⟨e, hread, hculprit⟩ := Operation.ofParams_refuses_flag hname hflag hpresent hgiven.flag?_eq
    exact .inl ⟨.inr htype, e.name, hculprit, _, dispatch_of_error hread session w⟩

/-- Crash logs of an app that is given as a number. -/
def numberedCrashLogs : Params :=
  .ofList [("bundleId", .ofUInt64 5)]

/-- If the app is a number, crash logs are deleted as if no app had been given. If it is said with a number whether all
crash logs are meant, none are deleted. -/
theorem dispatch_misshapen_crashLogs :
    (dispatch DryRun.backend .deleteCrashLogs numberedCrashLogs "pad" ⟨[], 0, []⟩).2.calls =
      [⟨.deleteCrashLogs none false, "pad"⟩] ∧
    (dispatch DryRun.backend .deleteCrashLogs (numberedCrashLogs.insert "all" (.ofUInt64 1)) "pad"
      ⟨[], 0, []⟩).2.calls = [] := by
  have hmem : Catalog.Debug.deleteCrashLogs ∈ Registry.catalog := by decide
  have hkind : Catalog.Debug.deleteCrashLogs.kind = .deleteCrashLogs := rfl
  obtain ⟨d, hd, hentry⟩ := Registry.exists_definition? hmem
  rw [hkind] at hd
  have happ : (d.entry.typeOf "bundleId").Misshapen (.ofUInt64 5) := hentry ▸ ⟨rfl, rfl, rfl⟩
  have hall : (d.entry.typeOf "all").Misshapen (.ofUInt64 1) := hentry ▸ ⟨rfl, rfl, rfl⟩
  constructor
  · have hlacks : numberedCrashLogs.Lacks ∅ "bundleId" := by
      refine ⟨.inl rfl, fun key hkey => ?_⟩
      rw [numberedCrashLogs, Dictionary.get?_ofList_of_not_mem]
      · rfl
      · simpa using hkey
    have hget : numberedCrashLogs.get? "bundleId" = some (.ofUInt64 5) := rfl
    rcases dispatch_misshapen DryRun.backend hd (by decide) hget happ "pad" ⟨[], 0, []⟩ with
      ⟨htype, -⟩ | ⟨-, hoverlooked⟩
    · rw [hentry] at htype
      exact absurd htype (by decide)
    · have hread : Operation.ofParams .deleteCrashLogs ∅ = .ok (.deleteCrashLogs none false) := rfl
      rw [hoverlooked ∅ hlacks, dispatch_of_ok hread]
      rfl
  · have hget : (numberedCrashLogs.insert "all" (.ofUInt64 1)).get? "all" = some (.ofUInt64 1) := rfl
    rcases dispatch_misshapen DryRun.backend hd (by decide) hget hall "pad" ⟨[], 0, []⟩ with
      ⟨-, culprit, -, reason, hrun⟩ | ⟨htype, -⟩
    · rw [hrun]
    · rw [hentry] at htype
      exact absurd htype (by decide)

end SimControl
