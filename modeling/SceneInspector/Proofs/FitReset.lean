import SceneInspector.Proofs.FitLists

namespace SceneInspector.Fit

def received? (text : String) : Option Model :=
  match Frame.parse? text with
  | some (.model (.object received)) => some received
  | _ => none

def Input.received? : Input → Option Model
  | .frame text => Fit.received? text
  | .command _ => none

def lastReceived? (inputs : List Input) : Option Model :=
  inputs.reverse.findSome? Input.received?

def Input.IsFit (input : Input) : Prop := ∃ inputs, input = .command (.doFit inputs)

def Completes (received model : Model) : Prop :=
  Current model ∧ ∀ name, name ≠ "fFuncList" → name ≠ "fMethodMin" →
    Dictionary.get? name model = Dictionary.get? name received

theorem derived_completes (received : Model) : Completes received (derived received) := by
  refine ⟨derived_current received, fun name functions methods => ?_⟩
  simp only [derived, derivations, List.foldl_cons, List.foldl_nil]
  rw [Derivation.get?_apply_other _ _ methods, Derivation.get?_apply_other _ _ functions]

theorem received?_eq_some {text : String} {received : Model} :
    received? text = some received ↔ Frame.parse? text = some (.model (.object received)) := by
  constructor
  · intro brought
    unfold received? at brought
    split at brought
    · rename_i object parsed
      cases brought
      exact parsed
    · cases brought
  · intro parsed
    rw [received?, parsed]

theorem lastReceived?_append (earlier later : List Input) :
    lastReceived? (earlier ++ later) = (lastReceived? later).or (lastReceived? earlier) := by
  rw [lastReceived?, List.reverse_append, List.findSome?_append]
  rfl

theorem lastReceived?_cons_none (input : Input) (later : List Input) :
    lastReceived? (input :: later) = none ↔
      input.received? = none ∧ lastReceived? later = none := by
  simp [lastReceived?, and_comm]

theorem unreceived_around {earlier later : List Input} {input : Input}
    (nothing : lastReceived? (earlier ++ input :: later) = none) :
    lastReceived? earlier = none ∧ lastReceived? later = none := by
  rw [lastReceived?_append, Option.or_eq_none_iff, lastReceived?_cons_none] at nothing
  exact ⟨nothing.2, nothing.1.2⟩

-- Nothing that a run took after its last model was a model.
theorem exists_lastReceived {inputs : List Input} {received : Model}
    (last : lastReceived? inputs = some received) :
    ∃ earlier input later, inputs = earlier ++ input :: later ∧
      input.received? = some received ∧ lastReceived? later = none := by
  obtain ⟨later, input, earlier, split, brought, nothing⟩ := List.findSome?_eq_some_iff.mp last
  refine ⟨earlier.reverse, input, later.reverse, ?_, brought, ?_⟩
  · rw [← List.reverse_inj, split]
    simp
  · rw [lastReceived?, List.reverse_reverse, List.findSome?_eq_none_iff]
    exact nothing

namespace Panel
variable {panel : Panel} {input : Input} {first received : Model}

theorem run_append (panel : Panel) (earlier later : List Input) :
    panel.run (earlier ++ later) = (panel.run earlier).run later :=
  List.foldl_append

def first? (panel : Panel) : Option Model := panel.history.head?

theorem reset_vacant (vacant : panel.first? = none) : panel.reset = (panel, false) := by
  rcases panel.reset_cases with ⟨_, stays⟩ | ⟨first, rest, recorded, _⟩
  · exact stays
  · rw [first?, recorded] at vacant
    cases vacant

theorem reset_first (recorded : panel.first? = some first) :
    panel.reset.2 = true ∧ panel.reset.1.model = first := by
  rcases panel.reset_cases with ⟨vacant, _⟩ | ⟨model, rest, split, done, restored, _⟩
  · rw [first?, vacant] at recorded
    cases recorded
  · rw [first?, split] at recorded
    exact ⟨done, restored.trans (Option.some.inj recorded)⟩

theorem take_received (brought : input.received? = some received) :
    (panel.take input).first? = some (derived received) := by
  cases input with
  | frame text =>
    show (panel.receive text).1.first? = _
    unfold receive
    rw [received?_eq_some.mp brought]
    rfl
  | command command => cases brought

theorem doFit_first (panel : Panel) (inputs : Inputs) :
    (panel.doFit inputs).1.first? = panel.first?.or (some (panel.doFit inputs).1.model) := by
  obtain ⟨asked, same, recorded⟩ := panel.doFit_recorded inputs
  rw [recorded, first?, first?, ← same.1]
  unfold record
  cases asked.history <;> rfl

theorem back_history (panel : Panel) : panel.back.1.history = panel.history := by
  unfold back
  split
  · rfl
  · dsimp only
    split <;> rfl

theorem take_other (nothing : input.received? = none) (other : ¬ input.IsFit) :
    (panel.take input).first? = panel.first? := by
  refine congrArg List.head? ?_
  cases input with
  | frame text =>
    refine (receive_other ?_).1
    rintro ⟨received, parsed⟩
    cases nothing.symm.trans (received?_eq_some.mpr parsed)
  | command command =>
    cases command with
    | doFit inputs => exact absurd ⟨inputs, rfl⟩ other
    | reset => exact (reset_rewinds panel).2
    | back => exact back_history panel
    | selectFunction | operationText | selectLibrary | selectTypeFunction | setNoStore
    | updateRange | drawContour | drawScan | applyParameters | setContourColour =>
      exact (perform_other (by exact id)).1

theorem take_keeps (recorded : panel.first? = some first) (nothing : input.received? = none) :
    (panel.take input).first? = some first := by
  by_cases fit : input.IsFit
  · obtain ⟨inputs, rfl⟩ := fit
    exact (doFit_first panel inputs).trans (by rw [recorded]; rfl)
  · exact (take_other nothing fit).trans recorded

theorem run_keeps (recorded : panel.first? = some first) {inputs : List Input}
    (nothing : lastReceived? inputs = none) : (panel.run inputs).first? = some first := by
  induction inputs generalizing panel with
  | nil => exact recorded
  | cons input rest ih =>
    obtain ⟨none_here, none_later⟩ := (lastReceived?_cons_none input rest).mp nothing
    exact ih (take_keeps recorded none_here) none_later

theorem run_vacant (vacant : panel.first? = none) {inputs : List Input}
    (nothing : lastReceived? inputs = none) (unfitted : ∀ input ∈ inputs, ¬ input.IsFit) :
    (panel.run inputs).first? = none := by
  induction inputs generalizing panel with
  | nil => exact vacant
  | cons input rest ih =>
    obtain ⟨none_here, none_later⟩ := (lastReceived?_cons_none input rest).mp nothing
    obtain ⟨other, others⟩ := List.forall_mem_cons.mp unfitted
    exact ih ((take_other none_here other).trans vacant) none_later others

theorem run_received {inputs : List Input} (last : lastReceived? inputs = some received) :
    (panel.run inputs).first? = some (derived received) := by
  obtain ⟨earlier, input, later, rfl, brought, nothing⟩ := exists_lastReceived last
  rw [run_append]
  exact run_keeps (take_received brought) nothing

-- A fit is what a reset goes back to, or something before it is.
theorem run_fitted (panel : Panel) (earlier later : List Input) (inputs : Inputs)
    (nothing : lastReceived? later = none) :
    (panel.run (earlier ++ .command (.doFit inputs) :: later)).first? =
      (panel.run earlier).first?.or (some ((panel.run earlier).doFit inputs).1.model) := by
  rw [run_append]
  have fitted := doFit_first (panel.run earlier) inputs
  cases recorded : (panel.run earlier).first? with
  | none =>
    rw [recorded] at fitted
    exact run_keeps fitted nothing
  | some first =>
    rw [recorded] at fitted
    exact run_keeps fitted nothing

theorem reset_received {inputs : List Input} (last : lastReceived? inputs = some received) :
    (initial.run inputs).reset.2 = true ∧
      (initial.run inputs).reset.1.model = derived received ∧
      Completes received (initial.run inputs).reset.1.model := by
  obtain ⟨done, restored⟩ := reset_first (run_received last)
  exact ⟨done, restored, restored ▸ derived_completes received⟩

theorem reset_unfitted {inputs : List Input} (nothing : lastReceived? inputs = none)
    (unfitted : ∀ input ∈ inputs, ¬ input.IsFit) :
    (initial.run inputs).reset = (initial.run inputs, false) :=
  reset_vacant (run_vacant rfl nothing unfitted)

theorem reset_first_fit {earlier later : List Input} {fit : Inputs}
    (nothing : lastReceived? (earlier ++ .command (.doFit fit) :: later) = none)
    (unfitted : ∀ input ∈ earlier, ¬ input.IsFit) :
    let panel := initial.run (earlier ++ .command (.doFit fit) :: later)
    panel.reset.2 = true ∧ panel.reset.1.model = ((initial.run earlier).doFit fit).1.model := by
  obtain ⟨none_earlier, none_later⟩ := unreceived_around nothing
  have fitted := run_fitted initial earlier later fit none_later
  rw [run_vacant rfl none_earlier unfitted] at fitted
  exact reset_first fitted

-- Wherever a fit was made there is something to go back to.
theorem reset_fitted {inputs : List Input} (nothing : lastReceived? inputs = none)
    {fit : Inputs} (given : .command (.doFit fit) ∈ inputs) :
    (initial.run inputs).reset.2 = true := by
  obtain ⟨earlier, later, rfl⟩ := List.append_of_mem given
  have fitted := run_fitted initial earlier later fit (unreceived_around nothing).2
  obtain ⟨model, recorded⟩ : ∃ model,
      (initial.run (earlier ++ .command (.doFit fit) :: later)).first? = some model :=
    Option.isSome_iff_exists.mp (by rw [fitted, Option.isSome_or]; simp)
  exact (reset_first recorded).1

def ResetsToReceived (inputs : List Input) : Prop :=
  let panel := initial.run inputs
  (panel.reset.2 = true ↔ (lastReceived? inputs).isSome = true) ∧
    (∀ received, lastReceived? inputs = some received → Completes received panel.reset.1.model) ∧
    (lastReceived? inputs = none → panel.reset = (panel, false))

theorem resetsToReceived_received {inputs : List Input}
    (last : lastReceived? inputs = some received) : ResetsToReceived inputs := by
  obtain ⟨done, _, completes⟩ := reset_received last
  refine ⟨iff_of_true done (by rw [last]; rfl), ?_, ?_⟩
  · intro other same
    cases last.symm.trans same
    exact completes
  · intro nothing
    cases last.symm.trans nothing

theorem resetsToReceived_unreceived_iff {inputs : List Input}
    (nothing : lastReceived? inputs = none) :
    ResetsToReceived inputs ↔ ∀ input ∈ inputs, ¬ input.IsFit := by
  constructor
  · rintro ⟨answered, _⟩ _ given ⟨fit, rfl⟩
    have done := answered.mp (reset_fitted nothing given)
    rw [nothing] at done
    cases done
  · intro unfitted
    have stays := reset_unfitted nothing unfitted
    refine ⟨?_, ?_, fun _ => stays⟩
    · rw [stays, nothing]
      exact iff_of_false nofun nofun
    · intro received last
      cases nothing.symm.trans last

-- After a model has been received a reset goes back to it. Before that it goes back to the model of
-- the first fit if there was one, and otherwise does nothing.
theorem reset_restores_received_iff (inputs : List Input) :
    let panel := initial.run inputs
    (∀ received, lastReceived? inputs = some received →
      panel.reset.2 = true ∧ panel.reset.1.model = derived received ∧
        Completes received panel.reset.1.model) ∧
    (lastReceived? inputs = none → ∀ earlier fit later,
      inputs = earlier ++ .command (.doFit fit) :: later → (∀ input ∈ earlier, ¬ input.IsFit) →
        panel.reset.2 = true ∧
          panel.reset.1.model = ((initial.run earlier).doFit fit).1.model) ∧
    (lastReceived? inputs = none → (∀ input ∈ inputs, ¬ input.IsFit) →
      panel.reset = (panel, false)) ∧
    (ResetsToReceived inputs ↔
      (lastReceived? inputs).isSome = true ∨ ∀ input ∈ inputs, ¬ input.IsFit) := by
  refine ⟨fun received last => reset_received last, ?_, reset_unfitted, ?_⟩
  · rintro nothing earlier fit later rfl unfitted
    exact reset_first_fit nothing unfitted
  · cases last : lastReceived? inputs with
    | some received => exact iff_of_true (resetsToReceived_received last) (.inl rfl)
    | none => simp [resetsToReceived_unreceived_iff last]

-- A fit before the backend has sent a model is recorded, and a reset then goes back to the model
-- that stands in for one, with the settings of the fit.
theorem fit_before_model_restored : ¬ ∀ inputs, ResetsToReceived inputs := by
  intro always
  obtain ⟨_, _, stays⟩ := always [.command (.doFit { minLibrary := "Minuit" })]
  have done : (initial.run [.command (.doFit { minLibrary := "Minuit" })]).reset.2 = true := rfl
  rw [stays rfl] at done
  cases done

end Panel
end SceneInspector.Fit
