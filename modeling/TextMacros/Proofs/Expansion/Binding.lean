import TextMacros.Proofs.Expansion.Lockstep
import TextMacros.Proofs.Expansion.Substitution

/-!
# No argument is dropped

Two bindings of one identity would make the second one shadowed, and its value lost. It never comes
to that. A definition that repeats a formal parameter is refused where it is read, and nothing else
puts a macro with formal parameters into a scope. So no macro in any open scope repeats a formal
parameter, whatever happens in between, and the bindings of a call, which are made from the formal
parameters of such a macro, differ in their identities. This is an invariant of the recursion, so it
holds at every point that is reached from a document (`expandDocument_binds`).
-/

namespace TextMacros

variable {State : Type}

namespace Context

/-- No macro in an open scope repeats a formal parameter, and since some journal no entry was
written of a binding that was left out, other than by the prompt or the retriever. -/
structure Orderly (services : Services State) (early : Journal) (context : Context State) :
    Prop where
  /-- The formal parameters of a macro in an open scope differ. -/
  distinct : ∀ definition, ScopeStack.HeldIn context.scopes.scopes definition →
    definition.parameters.Nodup
  /-- No binding was left out. -/
  complete : ∃ written, context.journal.toList = early.toList ++ written ∧
    ∀ origin, .bindingShadowed origin ∈ written → services.Notes (.bindingShadowed origin)

namespace Orderly

variable {services : Services State} {early : Journal} {context later : Context State}

/-- What adds macros and entries that are in order leads to a context that is. -/
theorem extend (orderly : context.Orderly services early)
    (distinct : ∀ definition, ScopeStack.HeldIn later.scopes.scopes definition →
      definition.parameters.Nodup)
    {more : List Entry} (wrote : later.journal.toList = context.journal.toList ++ more)
    (complete : ∀ origin, .bindingShadowed origin ∈ more →
      services.Notes (.bindingShadowed origin)) : later.Orderly services early where
  distinct := distinct
  complete := by
    obtain ⟨written, before, quiet⟩ := orderly.complete
    refine ⟨written ++ more, ?_, fun origin member => ?_⟩
    · rw [wrote, before, List.append_assoc]
    · rcases List.mem_append.mp member with old | new
      · exact quiet origin old
      · exact complete origin new

/-- An entry that tells of no binding is in order. -/
theorem note (orderly : context.Orderly services early) {entry : Entry}
    (other : ∀ origin, entry ≠ .bindingShadowed origin) :
    (context.note entry).Orderly services early := by
  have wrote : (context.note entry).journal.toList = context.journal.toList ++ [entry] :=
    Array.toList_push
  refine orderly.extend orderly.distinct wrote fun origin member => ?_
  exact absurd (List.mem_singleton.mp member).symm (other origin)

/-- Entries of the prompt and the retriever are in order. -/
theorem noteAll (orderly : context.Orderly services early) {prompt : State}
    {entries : List Entry} (own : ∀ entry ∈ entries, services.Notes entry) :
    ({ context with prompt }.noteAll entries).Orderly services early := by
  have wrote : ({ context with prompt }.noteAll entries).journal.toList =
      context.journal.toList ++ entries := by simp [Context.noteAll]
  exact orderly.extend orderly.distinct wrote fun origin member => own _ member

/-- A change is in order if it defines no macro that repeats a formal parameter. -/
theorem change (orderly : context.Orderly services early) {change : Expansion.Change}
    (permitted : (Expansion.Step.change change).Permitted)
    (made : change.made? context = some later) : later.Orderly services early := by
  have wrote : later.journal.toList = context.journal.toList ++ [] := by
    rw [Expansion.Change.journal_of_made? made, List.append_nil]
  have silent : ∀ origin, .bindingShadowed origin ∈ ([] : List Entry) →
      services.Notes (.bindingShadowed origin) := fun _ member => nomatch member
  refine orderly.extend (fun held holds => ?_) wrote silent
  cases change with
  | define region definition =>
    have added : held = definition ∨ ScopeStack.HeldIn context.scopes.scopes held := by
      cases region with
      | current =>
        obtain ⟨scopes, inserted, rfl⟩ := Option.map_eq_some_iff.mp made
        exact ScopeStack.heldIn_of_insertCurrent? inserted holds
      | global =>
        obtain ⟨scopes, inserted, rfl⟩ := Option.map_eq_some_iff.mp made
        exact ScopeStack.heldIn_of_insertGlobal? inserted holds
    rcases added with new | before
    · rw [new]
      exact permitted
    · exact orderly.distinct held before
  | createCounter name =>
    obtain ⟨counters, -, rfl⟩ := Option.map_eq_some_iff.mp made
    exact orderly.distinct held holds
  | setCounter name value =>
    obtain ⟨counters, -, rfl⟩ := Option.map_eq_some_iff.mp made
    exact orderly.distinct held holds

/-- Bindings that differ in their identities and repeat no formal parameter are all inserted when a
fragment is entered. -/
theorem enter (orderly : context.Orderly services early) {bindings : List Macro}
    (apart : (bindings.map Macro.key).Nodup)
    (proper : ∀ binding ∈ bindings, binding.parameters.Nodup) (origin : Origin) :
    (context.enter bindings origin).Orderly services early := by
  rw [enter_of_distinct apart]
  have wrote : (context.enter [] origin).journal.toList = context.journal.toList ++
      [.entered context.depth.deeper.level context.depth.limit,
        .scopePushed context.scopes.depth] := by
    simp [Context.enter, Context.pushScope, Context.note, Depth.deeper]
  refine orderly.extend (fun definition holds => ?_) wrote fun origin member => ?_
  · rcases ScopeStack.heldIn_cons.mp holds with here | outside
    · exact proper definition here
    · exact orderly.distinct definition outside
  · simp at member

/-- Leaving a fragment forgets its macros and adds one entry. -/
theorem leave (orderly : context.Orderly services early) :
    context.leave.Orderly services early := by
  have wrote : context.leave.journal.toList =
      context.journal.toList ++ [.scopePopped context.scopes.pop.depth] := Array.toList_push
  refine orderly.extend (fun definition holds => ?_) wrote fun origin member => ?_
  · obtain ⟨scope, member, inside⟩ := holds
    exact orderly.distinct definition ⟨scope, List.mem_of_mem_tail member, inside⟩
  · simp at member

end Orderly
end Context

namespace Expansion

variable {services : Services State}

/-- Bindings that differ in their identities, none of which repeats a formal parameter. -/
def ProperBindings (bindings : List Macro) : Prop :=
  (bindings.map Macro.key).Nodup ∧ ∀ binding ∈ bindings, binding.parameters.Nodup

/-- The values of a call are bound properly if its formal parameters differ. -/
theorem properBindings_of_constants {formals : List Text} (distinct : formals.Nodup)
    (values : List Text) : ProperBindings (List.zipWith Macro.constant formals values) := by
  refine ⟨Context.nodup_keys_of_constants distinct values, fun binding member => ?_⟩
  obtain ⟨index, _, rfl⟩ := List.mem_iff_getElem.mp member
  rw [List.getElem_zipWith]
  exact List.nodup_nil

/-- An ordinary entry tells of no binding. -/
theorem ne_bindingShadowed_of_debugging {entry : Entry} (ordinary : entry.severity = .debugging)
    (origin : Origin) : entry ≠ .bindingShadowed origin := by
  rintro rfl
  cases ordinary

/-- A step leads from an orderly context to an orderly one. -/
theorem orderly_take {α : Type} (step : Step α) (permitted : step.Permitted) {early : Journal}
    {context : Context State} (orderly : context.Orderly services early) :
    (step.take services context).2.Orderly services early := by
  cases step with
  | change change =>
    simp only [Step.take]
    split
    · exact orderly.change permitted ‹_›
    · exact orderly
  | lookup key =>
    simp only [Step.take]
    split
    · exact orderly.note (ne_bindingShadowed_of_debugging rfl)
    · exact orderly
  | counter name => exact orderly
  | ask title initial => exact orderly.noteAll fun entry member => .inl ⟨_, _, _, member⟩
  | notify title body => exact orderly.noteAll fun entry member => .inr (.inl ⟨_, _, _, member⟩)
  | fetch locator => exact orderly.noteAll fun entry member => .inr (.inr ⟨_, member⟩)

/-- The order of scopes and bindings is an invariant. -/
def orderly (services : Services State) (early : Journal) : Invariant services where
  holds := Context.Orderly services early
  bound := ProperBindings
  steady :=
    { note := fun entry ordinary holds => holds.note (ne_bindingShadowed_of_debugging ordinary)
      step := by
        intro α step context permitted holds
        exact orderly_take step permitted holds }
  nothing := ⟨List.nodup_nil, fun _ member => nomatch member⟩
  item := fun value =>
    have alone : [itemName].Nodup := by simp
    properBindings_of_constants alone [value]
  call := fun holds found values =>
    properBindings_of_constants (holds.distinct _ (ScopeStack.heldIn_of_find? found)) values
  enter := fun origin _ holds proper => holds.enter proper.1 proper.2 origin
  leave := fun holds => holds.leave

section

variable {early : Journal} {start : Point State}

/-- Wherever a text is expanded, its bindings differ in their identities. -/
theorem Reaches.bindings_apart {opened : Nat} {text : Text} {bindings : List Macro}
    {origin : Origin} {context : Context State}
    (reaches : Reaches services start opened ⟨.text text bindings origin, context⟩)
    (begins : start.Meets (orderly services early)) : (bindings.map Macro.key).Nodup := by
  have meets := reaches.meets (orderly services early) begins
  exact meets.2.1

/-- A call of a macro of a scope that comes to its body enters it with one binding for each
parameter. -/
theorem Resolves.binds {fragment : Fragment} {invocation : Invocation} {context : Context State}
    (resolves : Resolves services start fragment invocation context)
    (begins : start.Meets (orderly services early))
    (user : Primitive.ofName? invocation.name = none) {index : Nat} {definition : Macro}
    (found : context.scopes.find? ⟨invocation.name, invocation.arity⟩ = some (index, definition))
    {values : List Text} {later : Context State}
    (evaluated : (invocation.parameters.zipIdx.mapM fun (parameter, position) =>
        ofText services parameter [] (.parameter (position + 1) definition.name))
      (context.note (.macroFound invocation.name index)) = .ok values later) :
    let bindings := List.zipWith Macro.constant definition.parameters values
    (∃ opened, Reaches services start opened
      ⟨.text definition.body bindings (.body definition.name), later⟩) ∧
    (later.enter bindings (.body definition.name)).scopes = ⟨⟨bindings⟩ :: later.scopes.scopes⟩ ∧
    bindings.length = invocation.parameters.length := by
  intro bindings
  obtain ⟨opened, reaches⟩ := resolves.reaches_body user found evaluated
  have apart := reaches.bindings_apart begins
  have arity : definition.parameters.length = invocation.parameters.length :=
    congrArg MacroKey.arity (ScopeStack.key_of_find? found)
  have count : values.length = invocation.parameters.length := by
    rw [length_of_mapM evaluated, List.length_zipIdx]
  refine ⟨⟨opened, reaches⟩, Context.scopes_enter apart _ later, ?_⟩
  show (List.zipWith Macro.constant definition.parameters values).length = _
  rw [List.length_zipWith, arity, count, Nat.min_self]

end

end Expansion

/-- In every run of a document no argument is dropped. At every point that is reached, each macro in
an open scope has formal parameters that differ from each other. Whenever a text is expanded, its
bindings differ in their identities, so all of them are inserted and make up the scope of its
fragment. A call of a user's macro that comes to its body binds as many values there as it has
parameters. Over the whole run, the journal does not tell of a binding that was left out, unless the
prompt or the retriever writes such an entry. -/
theorem expandDocument_binds (settings : Settings) (prompt : Prompt State)
    (retriever : Retriever) (document : Text) (state : State) (journal : Journal) :
    let services : Services State := ⟨settings.pageMarker, prompt, retriever⟩
    let begun := (Context.initial settings.maxDepth state journal).note
      (.expanding settings.sourceName document.size)
    let start : Expansion.Point State :=
      ⟨.text document [] (.labelled settings.sourceName), begun⟩
    (∀ opened point, Expansion.Reaches services start opened point →
      ∀ scope ∈ point.context.scopes.scopes, ∀ definition ∈ scope.macros,
        definition.parameters.Nodup) ∧
    (∀ opened text bindings origin context,
      Expansion.Reaches services start opened ⟨.text text bindings origin, context⟩ →
      (bindings.map Macro.key).Nodup ∧
      (context.enter bindings origin).scopes = ⟨⟨bindings⟩ :: context.scopes.scopes⟩) ∧
    (∀ fragment invocation context index definition values later,
      Expansion.Resolves services start fragment invocation context →
      Primitive.ofName? invocation.name = none →
      context.scopes.find? ⟨invocation.name, invocation.arity⟩ = some (index, definition) →
      (invocation.parameters.zipIdx.mapM fun (parameter, position) =>
          Expansion.ofText services parameter [] (.parameter (position + 1) definition.name))
        (context.note (.macroFound invocation.name index)) = .ok values later →
      let bindings := List.zipWith Macro.constant definition.parameters values
      (∃ opened, Expansion.Reaches services start opened
        ⟨.text definition.body bindings (.body definition.name), later⟩) ∧
      (later.enter bindings (.body definition.name)).scopes =
        ⟨⟨bindings⟩ :: later.scopes.scopes⟩ ∧
      bindings.length = invocation.parameters.length) ∧
    ∃ written, (expandDocument settings prompt retriever document state journal).journal.toList =
      journal.toList ++ written ∧
      ∀ origin, .bindingShadowed origin ∈ written → services.Notes (.bindingShadowed origin) := by
  intro services begun start
  let orderly := Expansion.orderly services journal
  have initial : (Context.initial settings.maxDepth state journal).Orderly services journal := by
    refine ⟨fun definition holds => ?_, [], by simp [Context.initial], fun _ member =>
      nomatch member⟩
    obtain ⟨scope, member, -⟩ := holds
    exact nomatch member
  have began : begun.Orderly services journal := initial.note fun _ => nofun
  have begins : start.Meets orderly := ⟨began, orderly.nothing⟩
  refine ⟨?_, ?_, ?_, ?_⟩
  · intro opened point reaches scope member definition inside
    have holds : point.context.Orderly services journal := (reaches.meets orderly begins).1
    exact holds.distinct definition ⟨scope, member, inside⟩
  · intro opened text bindings origin context reaches
    have apart := reaches.bindings_apart begins
    exact ⟨apart, Context.scopes_enter apart origin context⟩
  · intro fragment invocation context index definition values later resolves user found evaluated
    exact resolves.binds begins user found evaluated
  · have ended : (Expansion.contextOf (Expansion.ofText services document []
        (.labelled settings.sourceName) begun)).Orderly services journal :=
      orderly.holds_answer start begins
    have finished : ∀ (context : Context State) size, context.Orderly services journal →
        (context.note (.expanded settings.sourceName size)).Orderly services journal :=
      fun context size holds => holds.note fun _ => nofun
    obtain ⟨last, holds, same⟩ := journal_expandDocument ended finished
    rw [same]
    exact holds.complete

end TextMacros
