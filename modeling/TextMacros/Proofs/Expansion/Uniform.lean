import TextMacros.Proofs.Expansion.Step

/-!
# Uniform expansions

A family of expansions is uniform when its members make the same steps and the same nested
expansions in the same order, as far as the values they meet are the same. The members may differ in
the expander they use for nested texts and in the failures they end with, and in nothing else.

What an invocation does is uniform: its members may stand in different fragments and at different
places, and still perform one and the same call. So a relation between contexts that steps and
nested expansions keep is kept by the whole expansion, and the members of a family agree in their
outcome (`Uniform.agree`). A family with one member gives the laws of a single expansion
(`Uniform.keeps`).
-/

namespace TextMacros
namespace Expansion

variable {State Index : Type}

/-- A family of expansions that do the same, up to the nested expander and the failures. -/
inductive Uniform (services : Services State) (inner : Index → Expander State)
    (fails : (Index → Failure) → Prop) : {α : Type} → (Index → Expansion State α) → Prop
  /-- The same value. -/
  | pure {α : Type} (value : α) : Uniform services inner fails fun _ => pure value
  /-- Failures that may stand for each other. -/
  | fail {α : Type} (failure : Index → Failure) (allowed : fails failure) :
    Uniform services inner fails (fun index => throw (failure index) : Index → Expansion State α)
  /-- The same entry of the journal, of the severity that invocations use. -/
  | note (entry : Entry) (ordinary : entry.severity = .debugging) :
    Uniform services inner fails fun _ => note entry
  /-- The same step, if it is one that invocations make. -/
  | step {α : Type} (step : Step α) (permitted : step.Permitted) :
    Uniform services inner fails fun _ => step.expansion services
  /-- The same nested text. -/
  | expand (text : Text) (bindings : List Macro) (origin : Origin) :
    Uniform services inner fails fun index => inner index text bindings origin
  /-- Two parts in order. -/
  | bind {α β : Type} {first : Index → Expansion State α}
    {second : Index → α → Expansion State β} (before : Uniform services inner fails first)
    (after : ∀ value, Uniform services inner fails fun index => second index value) :
    Uniform services inner fails fun index => first index >>= second index

/-! ## What uniform expansions keep -/

/-- A relation between the contexts of a family that notes and steps keep, where a step yields one
value for all members. -/
structure Stable (services : Services State) (related : (Index → Context State) → Prop) : Prop where
  /-- A note is kept in every context. -/
  note : ∀ contexts entry, entry.severity = .debugging → related contexts →
    related fun index => (contexts index).note entry
  /-- A step of an invocation is made in every context. -/
  step : ∀ {α : Type} (step : Step α) contexts, step.Permitted → related contexts →
    (∃ value, ∀ index, (step.take services (contexts index)).1 = value) ∧
      related fun index => (step.take services (contexts index)).2

/-- The members of a family end alike: with one value, or with failures that may stand for each
other, and with related contexts in both cases. -/
inductive Agree (related : (Index → Context State) → Prop) (fails : (Index → Failure) → Prop)
    {α : Type} (results : Index → EStateM.Result Failure (Context State) α) : Prop
  /-- All members succeed. -/
  | success (value : α) (later : Index → Context State) (kept : related later)
    (outcome : ∀ index, results index = .ok value (later index))
  /-- All members fail. -/
  | failure (failure : Index → Failure) (later : Index → Context State) (allowed : fails failure)
    (kept : related later) (outcome : ∀ index, results index = .error (failure index) (later index))

section

variable {services : Services State} {inner : Index → Expander State}
  {fails : (Index → Failure) → Prop} {related : (Index → Context State) → Prop} {α β : Type}

/-- When the first parts agree, and the second parts agree behind every success, so do both. -/
theorem Agree.bind {first : Index → Expansion State α} {second : Index → α → Expansion State β}
    {contexts : Index → Context State}
    (before : Agree related fails fun index => first index (contexts index))
    (after : ∀ value later, related later →
      Agree related fails fun index => second index value (later index)) :
    Agree related fails fun index => (first index >>= second index) (contexts index) := by
  cases before with
  | success value later kept outcome =>
    have go : (fun index => (first index >>= second index) (contexts index)) =
        fun index => second index value (later index) := by
      funext index
      exact bind_of_ok _ (outcome index)
    rw [go]
    exact after value later kept
  | failure failure later allowed kept outcome =>
    exact .failure failure later allowed kept fun index => bind_of_error _ (outcome index)

/-- The members of a uniform family agree in their outcome. -/
theorem Uniform.agree {family : Index → Expansion State α}
    (uniform : Uniform services inner fails family) (stable : Stable services related)
    (nested : ∀ text bindings origin contexts, related contexts →
      Agree related fails fun index => inner index text bindings origin (contexts index))
    (contexts : Index → Context State) (start : related contexts) :
    Agree related fails fun index => family index (contexts index) := by
  induction uniform generalizing contexts with
  | pure value => exact .success value contexts start fun _ => rfl
  | fail failure allowed => exact .failure failure contexts allowed start fun _ => rfl
  | note entry ordinary =>
    exact .success () _ (stable.note contexts entry ordinary start) fun _ => rfl
  | step step permitted =>
    obtain ⟨⟨value, same⟩, kept⟩ := stable.step step contexts permitted start
    refine .success value _ kept fun index => ?_
    rw [← same index]
    rfl
  | expand text bindings origin => exact nested text bindings origin contexts start
  | bind before after hypothesis hypotheses =>
    exact (hypothesis contexts start).bind fun value later kept => hypotheses value later kept

end

/-- The context behind an expansion, successful or not. -/
def contextOf {α : Type} : EStateM.Result Failure (Context State) α → Context State
  | .ok _ context => context
  | .error _ context => context

/-- The value of a result, if it has one. -/
def valueOf? {α : Type} : EStateM.Result Failure (Context State) α → Option α
  | .ok value _ => some value
  | .error _ _ => none

/-- The failure of a result, if it has one. -/
def failureOf? {α : Type} : EStateM.Result Failure (Context State) α → Option Failure
  | .ok _ _ => none
  | .error failure _ => some failure

/-- A result with a value is a success. -/
theorem eq_ok_of_valueOf? {α : Type} {value : α} {result : EStateM.Result Failure (Context State) α}
    (valued : valueOf? result = some value) : ∃ later, result = .ok value later := by
  cases result with
  | ok found later =>
    cases valued
    exact ⟨later, rfl⟩
  | error failure later => cases valued

/-- A result with a failure is one. -/
theorem eq_error_of_failureOf? {α : Type} {failure : Failure}
    {result : EStateM.Result Failure (Context State) α}
    (failed : failureOf? result = some failure) : ∃ later, result = .error failure later := by
  cases result with
  | ok value later => cases failed
  | error found later =>
    cases failed
    exact ⟨later, rfl⟩

/-- An expansion whose context always stays in a relation to the one before. -/
def Keeps {α : Type} (relation : Context State → Context State → Prop)
    (expansion : Expansion State α) : Prop :=
  ∀ context, relation context (contextOf (expansion context))

/-- What notes, steps and nested expansions keep, an expansion made of them keeps. -/
theorem Uniform.keeps {α : Type} {services : Services State} {expand : Expander State}
    {expansion : Expansion State α} {relation : Context State → Context State → Prop}
    (uniform : Uniform services (fun _ : Unit => expand) (fun _ => True) fun _ => expansion)
    (refl : ∀ context, relation context context)
    (trans : ∀ {first second third}, relation first second → relation second third →
      relation first third)
    (note : ∀ context entry, entry.severity = .debugging → relation context (context.note entry))
    (step : ∀ {β : Type} (step : Step β) context,
      relation context (step.take services context).2)
    (nested : ∀ text bindings origin, Keeps relation (expand text bindings origin)) :
    Keeps relation expansion := by
  intro start
  have stable : Stable services fun contexts : Unit → Context State =>
      relation start (contexts ()) :=
    { note := fun contexts entry ordinary kept => trans kept (note (contexts ()) entry ordinary)
      step := fun made contexts _ kept =>
        ⟨⟨(made.take services (contexts ())).1, fun _ => rfl⟩,
          trans kept (step made (contexts ()))⟩ }
  have inside : ∀ text bindings origin (contexts : Unit → Context State),
      relation start (contexts ()) →
      Agree (fun contexts => relation start (contexts ())) (fun _ => True) fun index =>
        expand text bindings origin (contexts index) := by
    intro text bindings origin contexts kept
    have further := trans kept (nested text bindings origin (contexts ()))
    cases outcome : expand text bindings origin (contexts ()) with
    | ok value later =>
      rw [outcome] at further
      exact .success value (fun _ => later) further fun _ => outcome
    | error failure later =>
      rw [outcome] at further
      exact .failure (fun _ => failure) (fun _ => later) trivial further fun _ => outcome
  cases uniform.agree stable inside (fun _ => start) (refl start) with
  | success value later kept outcome =>
    rw [outcome ()]
    exact kept
  | failure failure later _ kept outcome =>
    rw [outcome ()]
    exact kept

/-! ## The parts of an invocation -/

section

variable {services : Services State} {inner : Index → Expander State}
  {fails : (Index → Failure) → Prop} {α β : Type}

namespace Uniform

/-- To compute with the value of an expansion is uniform. -/
theorem map {family : Index → Expansion State α} (uniform : Uniform services inner fails family)
    (function : α → β) : Uniform services inner fails fun index => function <$> family index := by
  simp only [map_eq_pure_bind]
  exact .bind uniform fun value => .pure (function value)

/-- A loop over a list is uniform when its body is, for every item of the list. -/
theorem mapM_of_mem {each : Index → α → Expansion State β} (items : List α)
    (uniform : ∀ item ∈ items, Uniform services inner fails fun index => each index item) :
    Uniform services inner fails fun index => items.mapM (each index) := by
  induction items with
  | nil =>
    simp only [List.mapM_nil]
    exact .pure []
  | cons item rest hypothesis =>
    have others := hypothesis fun other member => uniform other (List.mem_cons_of_mem item member)
    simp only [List.mapM_cons]
    exact .bind (uniform item List.mem_cons_self) fun first =>
      .bind others fun results => .pure (first :: results)

/-- A loop over a list is uniform when its body is. -/
theorem mapM {each : Index → α → Expansion State β} (items : List α)
    (uniform : ∀ item, Uniform services inner fails fun index => each index item) :
    Uniform services inner fails fun index => items.mapM (each index) :=
  mapM_of_mem items fun item _ => uniform item

/-- A repetition is uniform when its body is. -/
theorem times {family : Index → Expansion State Text} (count : Nat)
    (uniform : Uniform services inner fails family) :
    Uniform services inner fails fun index => Expansion.times count (family index) := by
  have collect : ∀ results, Uniform services inner fails fun index =>
      times.collect (family index) count results := by
    induction count with
    | zero => exact fun results => .pure results.reverse
    | succ remaining hypothesis =>
      exact fun results => .bind uniform fun result => hypothesis (result :: results)
  exact (collect []).map List.flatten

end Uniform
end

end Expansion
end TextMacros
