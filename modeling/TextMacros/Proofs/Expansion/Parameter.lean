import Mathlib.Tactic.Choose
import TextMacros.Proofs.Expansion.Nesting

/-!
# Parameters in order

The parameters of a call are expanded in the order in which they are written, each as a fragment of
its own from the context behind the one before (`Evaluated`). The calls of macros and the loop over
items differ in what they do with each value, and agree in this order: what is done with a value
shows in the journal alone, so the next parameter finds what the last one left
(`Evaluated.mapM`), and a parameter that fails ends the call (`Evaluated.mapM_error`).
-/

namespace TextMacros
namespace Expansion

variable {State : Type}

/-! ## The journal -/

/-- Two results that differ in the journals of their contexts at most: one value or one failure. -/
inductive Matches {α : Type} : (first second : EStateM.Result Failure (Context State) α) → Prop
  /-- One value. -/
  | ok (value : α) {first second : Context State} (alike : first.Alike second) :
    Matches (.ok value first) (.ok value second)
  /-- One failure. -/
  | error (failure : Failure) {first second : Context State} (alike : first.Alike second) :
    Matches (.error failure first) (.error failure second)

namespace Matches

variable {α β : Type} {first second third : EStateM.Result Failure (Context State) α}

theorem trans (before : Matches first second) (after : Matches second third) :
    Matches first third := by
  cases before with
  | ok value alike =>
    cases after with
    | ok _ more => exact .ok value (alike.trans more)
  | error failure alike =>
    cases after with
    | error _ more => exact .error failure (alike.trans more)

theorem symm (same : Matches first second) : Matches second first := by
  cases same with
  | ok value alike => exact .ok value alike.symm
  | error failure alike => exact .error failure alike.symm

/-- What matches a success is a success with the same value. -/
theorem eq_ok {value : α} {later : Context State} (same : Matches (.ok value later) second) :
    ∃ final, later.Alike final ∧ second = .ok value final := by
  cases same with
  | ok _ alike => exact ⟨_, alike, rfl⟩

/-- What matches a failure is the same failure. -/
theorem eq_error {failure : Failure} {later : Context State}
    (same : Matches (.error failure later) second) :
    ∃ final, later.Alike final ∧ second = .error failure final := by
  cases same with
  | error _ alike => exact ⟨_, alike, rfl⟩

/-- What is done with one value of two expansions that match, matches. -/
theorem bind {one other : Expansion State α} {after next : α → Expansion State β}
    {context another : Context State} (before : Matches (one context) (other another))
    (behind : ∀ value first second, Context.Alike first second →
      Matches (after value first) (next value second)) :
    Matches ((one >>= after) context) ((other >>= next) another) := by
  cases outcome : one context with
  | ok value first =>
    rw [outcome] at before
    obtain ⟨second, alike, reached⟩ := before.eq_ok
    rw [bind_of_ok after outcome, bind_of_ok next reached]
    exact behind value first second alike
  | error failure first =>
    rw [outcome] at before
    obtain ⟨second, alike, reached⟩ := before.eq_error
    rw [bind_of_error after outcome, bind_of_error next reached]
    exact .error failure alike

/-- What matches inside a fragment matches behind it. -/
theorem within {one other : Expansion State α} {bindings : List Macro} {origin : Origin}
    {context another : Context State}
    (inside : Matches (one (context.enter bindings origin))
      (other (another.enter bindings origin))) :
    Matches (Expansion.within bindings origin one context)
      (Expansion.within bindings origin other another) := by
  unfold Expansion.within
  cases outcome : one (context.enter bindings origin) with
  | ok value first =>
    rw [outcome] at inside
    obtain ⟨second, alike, reached⟩ := inside.eq_ok
    rw [reached]
    exact .ok value alike.leave
  | error failure first =>
    rw [outcome] at inside
    obtain ⟨second, alike, reached⟩ := inside.eq_error
    rw [reached]
    exact .error failure alike.leave

end Matches

/-- Results that match the members of a family that agree, agree as well, in every sense that does
not depend on the journals. -/
theorem Agree.of_matches {Index α : Type} {related : (Index → Context State) → Prop}
    {fails : (Index → Failure) → Prop}
    {results others : Index → EStateM.Result Failure (Context State) α}
    (agree : Agree related fails results) (same : ∀ index, Matches (results index) (others index))
    (alike : ∀ contexts finals, related contexts →
      (∀ index, (contexts index).Alike (finals index)) → related finals) :
    Agree related fails others := by
  cases agree with
  | success value later kept outcome =>
    simp only [outcome] at same
    choose finals close ends using fun index => (same index).eq_ok
    exact .success value finals (alike later finals kept close) ends
  | failure failure later allowed kept outcome =>
    simp only [outcome] at same
    choose finals close ends using fun index => (same index).eq_error
    exact .failure failure finals allowed (alike later finals kept close) ends

section

variable {services : Services State} {text : Text} {bindings : List Macro} {origin : Origin}
  {first second later : Context State}

/-- From alike contexts a uniform expansion ends in matching results. -/
theorem Uniform.matches {α : Type} {expansion : Expansion State α}
    (uniform : Uniform services (fun _ : Bool => ofText services) Shared fun _ => expansion)
    (alike : first.Alike second) : Matches (expansion first) (expansion second) := by
  have pair : AllAlike fun other => cond other second first := by
    refine ⟨first, fun other => ?_⟩
    cases other with
    | false => exact .refl first
    | true => exact alike
  cases uniform.agree (stable_allAlike services) (agree_ofText services) _ pair with
  | success found behind kept outcome =>
    obtain ⟨common, same⟩ := kept
    have low : expansion first = .ok found (behind false) := outcome false
    have high : expansion second = .ok found (behind true) := outcome true
    rw [low, high]
    exact .ok found ((same false).symm.trans (same true))
  | failure failed behind allowed kept outcome =>
    obtain ⟨shared, rfl⟩ := allowed
    obtain ⟨common, same⟩ := kept
    have low : expansion first = .error shared (behind false) := outcome false
    have high : expansion second = .error shared (behind true) := outcome true
    rw [low, high]
    exact .error shared ((same false).symm.trans (same true))

/-- From alike contexts a text is expanded to matching results. -/
theorem matches_ofText (alike : first.Alike second) :
    Matches (ofText services text bindings origin first)
      (ofText services text bindings origin second) :=
  Uniform.matches (.expand text bindings origin) alike

/-- From alike contexts a text is expanded to one value. -/
theorem ofText_ok_of_alike {value : Text} (alike : first.Alike second)
    (success : ofText services text bindings origin first = .ok value later) :
    ∃ final, later.Alike final ∧
      ofText services text bindings origin second = .ok value final :=
  (success ▸ matches_ofText alike : Matches (.ok value later) _).eq_ok

/-- From alike contexts a text fails alike. -/
theorem ofText_error_of_alike {failure : Failure} (alike : first.Alike second)
    (failed : ofText services text bindings origin first = .error failure later) :
    ∃ final, later.Alike final ∧
      ofText services text bindings origin second = .error failure final :=
  (failed ▸ matches_ofText alike : Matches (.error failure later) _).eq_error

/-- Behind a text the depth is as before. -/
theorem depth_of_ok {value : Text}
    (success : ofText services text bindings origin first = .ok value later) :
    later.depth = first.depth := by
  have framed := (keeps_ofText services text bindings origin first).depth
  rw [success] at framed
  exact framed

end

/-- At some depth, an expansion has an output and shows in the journal alone. -/
def Quiet (depth : Depth) (expansion : Expansion State Text) (output : Text) : Prop :=
  ∀ context : Context State, context.depth = depth →
    ∃ final, context.Alike final ∧ expansion context = .ok output final

/-- To yield a value is quiet. -/
theorem quiet_pure (depth : Depth) (value : Text) :
    Quiet depth (pure value : Expansion State Text) (id value) :=
  fun context _ => ⟨context, .refl context, rfl⟩

/-- The parameters of a call, from the one behind a number of others on, are expanded in order to
values. Each has a fresh scope that holds nothing, and begins in the context behind the one
before. -/
inductive Evaluated (services : Services State) (called : Text) :
    Nat → Context State → List Text → List Text → Context State → Prop
  /-- There are no more parameters. -/
  | none (index : Nat) (context : Context State) :
    Evaluated services called index context [] [] context
  /-- A parameter and the others. -/
  | more {index : Nat} {context middle later : Context State} {parameter value : Text}
    {parameters values : List Text}
    (first : ofText services parameter [] (.parameter (index + 1) called) context =
      .ok value middle)
    (rest : Evaluated services called (index + 1) middle parameters values later) :
    Evaluated services called index context (parameter :: parameters) (value :: values) later

/-- A call ends in a parameter that fails: it has the failure of the parameter, and it ends in the
context behind the parameter and in none beyond. -/
def EndsIn {α : Type} (services : Services State) (parameter : Text) (origin : Origin)
    (failure : Failure) (before later : Context State)
    (call : EStateM.Result Failure (Context State) α) : Prop :=
  ∃ reached final, before.Alike reached ∧ later.Alike final ∧
    ofText services parameter [] origin reached = .error failure final ∧
    call = .error failure final

/-- A call that ends in a parameter does not go on. -/
theorem EndsIn.bind {α β : Type} {services : Services State} {parameter : Text} {origin : Origin}
    {failure : Failure} {before later context : Context State} {first : Expansion State α}
    (ends : EndsIn services parameter origin failure before later (first context))
    (second : α → Expansion State β) :
    EndsIn services parameter origin failure before later ((first >>= second) context) := by
  obtain ⟨reached, final, alikeReached, alikeFinal, fails, ended⟩ := ends
  exact ⟨reached, final, alikeReached, alikeFinal, fails, bind_of_error second ended⟩

namespace Evaluated

variable {services : Services State} {called : Text} {index : Nat} {context later : Context State}
  {parameters values : List Text}

/-- Each parameter has one value. -/
theorem length_eq (evaluated : Evaluated services called index context parameters values later) :
    values.length = parameters.length := by
  induction evaluated with
  | none index context => rfl
  | more first rest hypothesis => rw [List.length_cons, List.length_cons, hypothesis]

/-- Behind the parameters the depth is as before. -/
theorem depth_eq (evaluated : Evaluated services called index context parameters values later) :
    later.depth = context.depth := by
  induction evaluated with
  | none index context => rfl
  | @more index context middle later parameter value parameters values first rest hypothesis =>
    exact hypothesis.trans (depth_of_ok first)

/-- Expanding the parameters, and doing something with each value that shows in the journal alone,
yields what is done with the values and leaves what the parameters leave. -/
theorem mapM {after : Text → Expansion State Text} {result : Text → Text}
    (evaluated : Evaluated services called index context parameters values later)
    (quiet : ∀ value ∈ values, Quiet context.depth (after value) (result value))
    {other : Context State} (alike : context.Alike other) :
    ∃ final, later.Alike final ∧
      ((parameters.zipIdx index).mapM fun (parameter, index) =>
        ofText services parameter [] (.parameter (index + 1) called) >>= after) other =
          .ok (values.map result) final := by
  induction evaluated generalizing other with
  | none index context => exact ⟨other, alike, rfl⟩
  | @more index context middle later parameter value parameters values first rest hypothesis =>
    -- The real contexts stay alike to those of the evaluation: what is done with a value between
    -- two parameters adds to the journal only.
    obtain ⟨reached, alikeReached, success⟩ := ofText_ok_of_alike alike first
    have framed : middle.depth = context.depth := depth_of_ok first
    have depth : reached.depth = context.depth := alikeReached.depth.trans framed
    obtain ⟨behind, alikeBehind, done⟩ := quiet value List.mem_cons_self reached depth
    have others : ∀ value ∈ values, Quiet middle.depth (after value) (result value) := by
      rw [framed]
      exact fun value member => quiet value (List.mem_cons_of_mem _ member)
    obtain ⟨final, alikeFinal, collected⟩ := hypothesis others (alikeReached.trans alikeBehind)
    refine ⟨final, alikeFinal, ?_⟩
    have one : (ofText services parameter [] (.parameter (index + 1) called) >>= after) other =
        .ok (result value) behind := by
      rw [bind_of_ok _ success, done]
    rw [List.zipIdx_cons, List.mapM_cons, bind_of_ok _ one, bind_of_ok _ collected]
    rfl

/-- A parameter that fails behind others ends the expansion of the parameters: nothing happens
behind it. -/
theorem mapM_error {after : Text → Expansion State Text} {result : Text → Text}
    {middle : Context State} {parameter : Text} {failure : Failure}
    (evaluated : Evaluated services called index context parameters values middle)
    (quiet : ∀ value ∈ values, Quiet context.depth (after value) (result value))
    (failed : ofText services parameter [] (.parameter (index + parameters.length + 1) called)
      middle = .error failure later)
    (others : List Text) {other : Context State} (alike : context.Alike other) :
    EndsIn services parameter (.parameter (index + parameters.length + 1) called) failure middle
      later ((((parameters ++ parameter :: others).zipIdx index).mapM fun (parameter, index) =>
        ofText services parameter [] (.parameter (index + 1) called) >>= after) other) := by
  obtain ⟨reached, alikeReached, collected⟩ := evaluated.mapM quiet alike
  obtain ⟨final, alikeFinal, fails⟩ := ofText_error_of_alike alikeReached failed
  refine ⟨reached, final, alikeReached, alikeFinal, fails, ?_⟩
  have one : (ofText services parameter [] (.parameter (index + parameters.length + 1) called) >>=
      after) reached = .error failure final := bind_of_error _ fails
  rw [List.zipIdx_append, List.mapM_append, bind_of_ok _ collected, List.zipIdx_cons,
    List.mapM_cons]
  exact bind_of_error _ (bind_of_error _ one)

/-- Expanding the parameters alone yields their values. -/
theorem collect (evaluated : Evaluated services called index context parameters values later)
    {other : Context State} (alike : context.Alike other) :
    ∃ final, later.Alike final ∧
      ((parameters.zipIdx index).mapM fun (parameter, index) =>
        ofText services parameter [] (.parameter (index + 1) called)) other = .ok values final := by
  obtain ⟨final, alikeFinal, collected⟩ :=
    evaluated.mapM (fun value _ => quiet_pure context.depth value) alike
  simp only [bind_pure, List.map_id] at collected
  exact ⟨final, alikeFinal, collected⟩

/-- A parameter that fails ends the expansion of the parameters alone. -/
theorem collect_error {middle : Context State} {parameter : Text} {failure : Failure}
    (evaluated : Evaluated services called index context parameters values middle)
    (failed : ofText services parameter [] (.parameter (index + parameters.length + 1) called)
      middle = .error failure later)
    (others : List Text) {other : Context State} (alike : context.Alike other) :
    EndsIn services parameter (.parameter (index + parameters.length + 1) called) failure middle
      later ((((parameters ++ parameter :: others).zipIdx index).mapM fun (parameter, index) =>
        ofText services parameter [] (.parameter (index + 1) called)) other) := by
  have ends :=
    evaluated.mapM_error (fun value _ => quiet_pure context.depth value) failed others alike
  simp only [bind_pure] at ends
  exact ends

end Evaluated

end Expansion
end TextMacros
