import TextMacros.Proofs.Expansion.Parameter
import TextMacros.Proofs.Expansion.Traversal

/-!
# Effects

The effect of an expansion is its value or the cause of its failure, with all that it changes; what
a failure shows besides its cause, and the journal, are no part of it. Where a text comes from has
no influence on the effect of its expansion (`sameEffect_ofText`): the origin is shown in failures
and noted in the journal, and it is used for nothing else.
-/

namespace TextMacros

open Token

variable {State : Type}

namespace Expansion

/-- Two results with the same effect: one value, or failures for one cause, and contexts that differ
in their journals at most. -/
inductive SameEffect {α : Type} : (first second : EStateM.Result Failure (Context State) α) → Prop
  /-- Both succeed with one value. -/
  | success (value : α) {first second : Context State} (alike : first.Alike second) :
    SameEffect (.ok value first) (.ok value second)
  /-- Both fail for one cause. -/
  | failure {failure other : Failure} {first second : Context State}
    (cause : other.cause = failure.cause) (alike : first.Alike second) :
    SameEffect (.error failure first) (.error other second)

/-- Failures of two members for one cause. -/
def SameCause (failures : Bool → Failure) : Prop := (failures true).cause = (failures false).cause

/-- Two members that agree up to the cause of a failure have the same effect. -/
theorem SameEffect.of_agree {α : Type}
    {results : Bool → EStateM.Result Failure (Context State) α}
    (agree : Agree AllAlike SameCause results) : SameEffect (results false) (results true) := by
  cases agree with
  | success value later kept outcome =>
    obtain ⟨common, same⟩ := kept
    rw [outcome false, outcome true]
    exact .success value ((same false).symm.trans (same true))
  | failure failure later cause kept outcome =>
    obtain ⟨common, same⟩ := kept
    rw [outcome false, outcome true]
    exact .failure cause ((same false).symm.trans (same true))

/-- Two contexts that are alike, as a family. -/
theorem allAlike_pair {contexts : Bool → Context State}
    (alike : (contexts false).Alike (contexts true)) : AllAlike contexts := by
  refine ⟨contexts false, fun index => ?_⟩
  cases index with
  | false => exact .refl _
  | true => exact alike

/-- Two members with the same effect agree up to the cause of a failure. -/
theorem SameEffect.agree {α : Type} {results : Bool → EStateM.Result Failure (Context State) α}
    (same : SameEffect (results false) (results true)) : Agree AllAlike SameCause results := by
  generalize one : results false = first at same
  generalize another : results true = second at same
  cases same with
  | @success value first second alike =>
    let later : Bool → Context State := fun index => cond index second first
    refine .success value later (allAlike_pair alike) fun index => ?_
    cases index with
    | false => exact one
    | true => exact another
  | @failure failure other first second cause alike =>
    let later : Bool → Context State := fun index => cond index second first
    refine .failure (fun index => cond index other failure) later cause (allAlike_pair alike)
      fun index => ?_
    cases index with
    | false => exact one
    | true => exact another

namespace SameEffect

variable {α β : Type} {first second third : EStateM.Result Failure (Context State) α}

/-- Results that differ in their journals alone have the same effect. -/
theorem of_matches (same : Matches first second) : SameEffect first second := by
  cases same with
  | ok value alike => exact .success value alike
  | error failure alike => exact .failure rfl alike

theorem symm (same : SameEffect first second) : SameEffect second first := by
  cases same with
  | success value alike => exact .success value alike.symm
  | failure cause alike => exact .failure cause.symm alike.symm

theorem trans (before : SameEffect first second) (after : SameEffect second third) :
    SameEffect first third := by
  cases before with
  | success value alike =>
    cases after with
    | success _ more => exact .success value (alike.trans more)
  | failure cause alike =>
    cases after with
    | failure again more => exact .failure (again.trans cause) (alike.trans more)

/-- What is done with one value of two expansions with the same effect has the same effect. -/
theorem bind {one other : Expansion State α} {after next : α → Expansion State β}
    {context another : Context State} (before : SameEffect (one context) (other another))
    (behind : ∀ value first second, Context.Alike first second →
      SameEffect (after value first) (next value second)) :
    SameEffect ((one >>= after) context) ((other >>= next) another) := by
  generalize done : one context = result at before
  generalize also : other another = result' at before
  cases before with
  | success value alike =>
    rw [bind_of_ok after done, bind_of_ok next also]
    exact behind value _ _ alike
  | failure cause alike =>
    rw [bind_of_error after done, bind_of_error next also]
    exact .failure cause alike

end SameEffect

/-! ## Origins -/

section

variable {services : Services State} {first second : Context State}

/-- A text of its own, under two origins. -/
def underOrigins (text : Text) (origins : Bool → Origin) : Part Bool where
  text := text
  origin := origins
  before _ := []
  after _ := []

/-- Where a text comes from makes no difference to its run. -/
theorem sameEffect_run (services : Services State) (text : Text) (origin other : Origin)
    (alike : first.Alike second) :
    SameEffect (run services ⟨origin, text⟩ first) (run services ⟨other, text⟩ second) := by
  let part := underOrigins text fun index => cond index other origin
  have agree := (part.carries_allAlike services).agree_of_closed (fun _ => rfl)
    (fun index => cond index second first) (allAlike_pair alike)
  have placed : ∀ failures, part.Placed failures → SameCause failures := by
    rintro failures (⟨common, rfl⟩ | ⟨cause, span, -, rfl⟩)
    · rfl
    · rfl
  have whole : ∀ index, runFrom services (part.host index) (part.place [] part.text index) =
      run services ⟨cond index other origin, text⟩ := by
    intro index
    rw [run_eq_runFrom]
    simp [part, underOrigins, Part.host, Part.place, Cursor.start]
  simp only [whole] at agree
  exact .of_agree (agree.weaken placed)

/-- Where a text comes from makes no difference to its expansion. -/
theorem sameEffect_ofText (services : Services State) (text : Text) (bindings : List Macro)
    (origin other : Origin) (alike : first.Alike second) :
    SameEffect (ofText services text bindings origin first)
      (ofText services text bindings other second) := by
  by_cases left : first.depth.remaining = 0
  · have also : second.depth.remaining = 0 := alike.depth ▸ left
    rw [ofText_of_refused (Depth.enter?_eq_none.mpr left),
      ofText_of_refused (Depth.enter?_eq_none.mpr also), alike.depth]
    exact .failure rfl alike
  · have also : second.depth.remaining ≠ 0 := alike.depth ▸ left
    rw [ofText_of_admitted left, ofText_of_admitted also]
    have inside := sameEffect_run services text origin other
      (alike.enter_origins bindings origin other)
    unfold within
    generalize run services ⟨origin, text⟩ (first.enter bindings origin) = result at inside
    generalize run services ⟨other, text⟩ (second.enter bindings other) = result' at inside
    cases inside with
    | success value kept => exact .success value kept.leave
    | failure cause kept => exact .failure cause kept.leave

end

end Expansion
end TextMacros
