import SimControl.Device.DryRun
import SimControl.Proofs.Device.Dispatch
import SimControl.Proofs.Device.Required
import SimControl.Proofs.Registry.Builtin

/-!
# Declared and read parameters

The catalog says of every command which parameters it requires and which are optional. What is read of the
parameters on the way to the device is written down independently. The two agree (`catalog_declares`): a command
needs what its entry requires, and whatever else it uses is optional there. So a definition foresees all that can
be wrong with the parameters of a dispatch and all that matters to it, which is `dispatch_reads_declared`.
-/

namespace SimControl

/-! ## Missing parameters -/

/-- The parameter is not given, or it is null. -/
def Params.Missing (params : Params) (name : String) : Prop :=
  params.get? name = none ∨ params.get? name = some .null

namespace Params

variable {params other : Params} {name : String}

theorem missing_iff : params.Missing name ↔ params.present? name = none := by
  rw [Missing, present?]
  cases params.get? name with
  | none => simp
  | some j => cases j <;> simp [Json.isNull]

theorem present?_congr (h : other.get? name = params.get? name) :
    other.present? name = params.present? name := by
  rw [present?, present?, h]

end Params

/-! ## The catalog -/

namespace Registry

theorem exists_entry (kind : CommandKind) : ∃ entry ∈ catalog, entry.kind = kind := by
  cases kind <;> decide

/-- An entry requires exactly what its command needs, and the command uses only optional parameters of it. -/
theorem catalog_declares : ∀ entry ∈ catalog,
    entry.required = entry.kind.needs ∧ entry.kind.uses ⊆ entry.optional := by
  decide

/-- Every command has a built-in definition, which tells what it reads. -/
theorem exists_definition?_reads (kind : CommandKind) : ∃ d, builtin.definition? kind = some d ∧
    Reads d.entry.required d.entry.optional (Operation.ofParams kind) := by
  obtain ⟨entry, hentry, rfl⟩ := exists_entry kind
  obtain ⟨d, hd, rfl⟩ := exists_definition? hentry
  obtain ⟨hneeds, huses⟩ := catalog_declares _ hentry
  refine ⟨d, hd, ?_⟩
  rw [hneeds]
  exact (Operation.reads_ofParams d.entry.kind).widen huses

end Registry

/-! ## Dispatching -/

section

variable {σ τ : Type}

/-- A dispatch does not call the device, or calls it once with an operation that has been read before. -/
theorem dispatch_calls (backend : Backend σ) (kind : CommandKind) (params : Params) (session : String)
    (w : World σ) :
    (∃ e, Operation.ofParams kind params = .error e ∧
      dispatch backend kind params session w = (.error (.invalidParameter e.name e.fault.message), w)) ∨
    ∃ operation, Operation.ofParams kind params = .ok operation ∧
      dispatch backend kind params session w =
        ((backend ⟨operation, session⟩ w.device).ending.outcome kind ⟨operation, session⟩,
          w.afterAttempt ⟨operation, session⟩ (backend ⟨operation, session⟩ w.device)) := by
  cases hread : Operation.ofParams kind params with
  | error e => exact .inl ⟨e, rfl, dispatch_of_error hread session w⟩
  | ok operation => exact .inr ⟨operation, rfl, dispatch_of_ok hread session w⟩

variable {backend : Backend σ} {twin : Backend τ} {kind : CommandKind} {params other : Params}

/-- Parameters that read alike give the same calls. -/
theorem dispatch_made (hsame : Operation.ofParams kind other = Operation.ofParams kind params) (session : String)
    (w : World σ) (w' : World τ) : ∃ made, (dispatch backend kind params session w).2.calls = w.calls ++ made ∧
      (dispatch twin kind other session w').2.calls = w'.calls ++ made := by
  cases hread : Operation.ofParams kind params with
  | error e =>
      rw [dispatch_of_error hread, dispatch_of_error (hsame.trans hread)]
      exact ⟨[], (List.append_nil _).symm, (List.append_nil _).symm⟩
  | ok operation =>
      rw [dispatch_of_ok hread, dispatch_of_ok (hsame.trans hread)]
      exact ⟨[⟨operation, session⟩], rfl, rfl⟩

/-- Parameters that read alike give the same result, if the devices answer alike. -/
theorem dispatch_result (hsame : Operation.ofParams kind other = Operation.ofParams kind params) {session : String}
    {w : World σ} {w' : World τ} (halike : ∀ operation, (twin ⟨operation, session⟩ w'.device).ending =
      (backend ⟨operation, session⟩ w.device).ending) :
    (dispatch twin kind other session w').1 = (dispatch backend kind params session w).1 := by
  cases hread : Operation.ofParams kind params with
  | error e => rw [dispatch_of_error hread, dispatch_of_error (hsame.trans hread)]
  | ok operation => rw [dispatch_of_ok hread, dispatch_of_ok (hsame.trans hread), halike]

end

/-- A dispatch fails by itself, or it calls the device once. The built-in definition of the command declares every
parameter that may be at fault, and requires those that are at fault for being missing. If any that it requires is
missing, one of these is at fault. What it does not declare does not matter. -/
theorem dispatch_reads_declared {σ : Type} (backend : Backend σ) (kind : CommandKind) (params : Params)
    (session : String) (w : World σ) : ∃ d, Registry.builtin.definition? kind = some d ∧
      ((∃ e, Operation.ofParams kind params = .error e ∧
          dispatch backend kind params session w = (.error (.invalidParameter e.name e.fault.message), w)) ∨
        ∃ operation, Operation.ofParams kind params = .ok operation ∧
          dispatch backend kind params session w =
            ((backend ⟨operation, session⟩ w.device).ending.outcome kind ⟨operation, session⟩,
              w.afterAttempt ⟨operation, session⟩ (backend ⟨operation, session⟩ w.device))) ∧
      (∀ e, Operation.ofParams kind params = .error e → e.name ∈ d.entry.parameterNames ∧
        (params.Missing e.name → e.name ∈ d.entry.required)) ∧
      ((∃ name ∈ d.entry.required, params.Missing name) →
        ∃ e : ParameterError, e.name ∈ d.entry.required ∧
          dispatch backend kind params session w = (.error (.invalidParameter e.name e.fault.message), w)) ∧
      ∀ {τ : Type} (twin : Backend τ) (other : Params) (w' : World τ),
        (∀ name ∈ d.entry.parameterNames, other.get? name = params.get? name) →
        (∃ made, (dispatch backend kind params session w).2.calls = w.calls ++ made ∧
          (dispatch twin kind other session w').2.calls = w'.calls ++ made) ∧
        ((∀ operation, (twin ⟨operation, session⟩ w'.device).ending =
            (backend ⟨operation, session⟩ w.device).ending) →
          (dispatch twin kind other session w').1 = (dispatch backend kind params session w).1) := by
  obtain ⟨d, hd, hreads⟩ := Registry.exists_definition?_reads kind
  refine ⟨d, hd, dispatch_calls backend kind params session w, fun e hread => ?_, ?_, ?_⟩
  · have hname := hreads.names hread
    refine ⟨List.mem_append.2 (hname.imp_right And.left), fun hmissing => ?_⟩
    exact hname.resolve_right fun hused => hused.2 (Params.missing_iff.1 hmissing)
  · rintro ⟨name, hrequired, hmissing⟩
    obtain ⟨e, hread, hneeded⟩ := hreads.fails hrequired (Params.missing_iff.1 hmissing)
    exact ⟨e, hneeded, dispatch_of_error hread session w⟩
  · intro τ twin other w' hagree
    have hsame : Operation.ofParams kind other = Operation.ofParams kind params :=
      hreads.congr fun name hname => Params.present?_congr (hagree name hname)
    exact ⟨dispatch_made hsame session w w', fun halike => dispatch_result hsame halike⟩

/-- Half a swipe, which is to take a time that is no number and to have a speed. -/
def halfSwipe : Params :=
  .ofList [("startX", .number (.natural 1)), ("startY", .number (.natural 2)), ("endX", .null),
    ("duration", .string "soon"), ("speed", .string "high")]

/-- The end of a swipe is missed before its duration is looked at, and its speed is never looked at. -/
theorem dispatch_reads_declared_halfSwipe :
    (∃ name ∈ Catalog.Ui.swipe.required, ∃ reason,
      dispatch DryRun.backend .swipe halfSwipe "pad" ⟨[], 0, []⟩ =
        (.error (.invalidParameter name reason), ⟨[], 0, []⟩)) ∧
    (dispatch DryRun.backend .swipe (halfSwipe.insert "speed" .null) "pad" ⟨[], 0, []⟩).1 =
      (dispatch DryRun.backend .swipe halfSwipe "pad" ⟨[], 0, []⟩).1 := by
  have hswipe : Catalog.Ui.swipe ∈ Registry.catalog := by decide +kernel
  obtain ⟨d, hd, -, -, hmissing, hother⟩ :=
    dispatch_reads_declared DryRun.backend .swipe halfSwipe "pad" ⟨[], 0, []⟩
  obtain ⟨same, hsame, hentry⟩ := Registry.exists_definition? hswipe
  obtain rfl : same = d := Option.some.inj (hsame.symm.trans hd)
  rw [hentry] at hmissing hother
  have hagree : ∀ name ∈ Catalog.Ui.swipe.parameterNames,
      (halfSwipe.insert "speed" .null).get? name = halfSwipe.get? name := by
    intro name hname
    rw [Dictionary.get?_insert, if_neg]
    rintro rfl
    exact absurd hname (by decide)
  obtain ⟨e, hrequired, hfails⟩ := hmissing ⟨"endX", by decide, .inr rfl⟩
  obtain ⟨-, hresult⟩ := hother DryRun.backend (halfSwipe.insert "speed" .null) ⟨[], 0, []⟩ hagree
  exact ⟨⟨e.name, hrequired, _, hfails⟩, hresult fun _ => rfl⟩

end SimControl
