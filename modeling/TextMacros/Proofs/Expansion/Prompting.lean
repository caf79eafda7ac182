import TextMacros.Proofs.Expansion.Nesting
import TextMacros.Proofs.Prompt

/-!
# The prompt of an expansion

An expansion changes the state of its prompt by questions and messages and in no other way. So it
leads along every relation between states that questions and messages lead along, whether it
succeeds or fails (`along_ofText`, `prompt_expandDocument`).
-/

namespace TextMacros
namespace Expansion

variable {State : Type}

/-- The state of the prompt is led along a relation. -/
def Along (relation : State → State → Prop) (before after : Context State) : Prop :=
  relation before.prompt after.prompt

/-- A change asks and tells nothing. -/
theorem Change.prompt_of_made? {change : Change} {context changed : Context State}
    (made : change.made? context = some changed) : changed.prompt = context.prompt := by
  cases change with
  | define region definition =>
    cases region with
    | current =>
      obtain ⟨scopes, -, rfl⟩ := Option.map_eq_some_iff.mp made
      rfl
    | global =>
      obtain ⟨scopes, -, rfl⟩ := Option.map_eq_some_iff.mp made
      rfl
  | createCounter name =>
    obtain ⟨counters, -, rfl⟩ := Option.map_eq_some_iff.mp made
    rfl
  | setCounter name value =>
    obtain ⟨counters, -, rfl⟩ := Option.map_eq_some_iff.mp made
    rfl

section

variable {services : Services State} {relation : State → State → Prop}

/-- Where nothing is asked or told, the state is led along every relation of the prompt. -/
theorem Along.of_prompt_eq (follows : services.prompt.Follows relation)
    {before after : Context State} (unasked : after.prompt = before.prompt) :
    Along relation before after := by
  unfold Along
  rw [unasked]
  exact follows.refl before.prompt

/-- A step asks or tells once at most. -/
theorem Step.along_take {α : Type} (follows : services.prompt.Follows relation) (step : Step α)
    (context : Context State) : Along relation context (step.take services context).2 := by
  have same : Along relation context context := follows.refl context.prompt
  cases step with
  | change change =>
    simp only [take]
    split
    · exact .of_prompt_eq follows (Change.prompt_of_made? ‹_›)
    · exact same
  | lookup key =>
    simp only [take]
    split
    · exact same
    · exact same
  | counter name => exact same
  | ask title initial => exact follows.ask title initial context.prompt
  | notify title body => exact follows.notify title body context.prompt
  | fetch locator => exact same

/-- What is expanded within a fragment asks and tells what it would without. -/
theorem Keeps.along_within {α : Type} {expansion : Expansion State α}
    (keeps : Keeps (Along relation) expansion) (bindings : List Macro) (origin : Origin) :
    Keeps (Along relation) (Expansion.within bindings origin expansion) := by
  intro context
  have inside := keeps (context.enter bindings origin)
  unfold Along at inside ⊢
  rw [Context.prompt_enter] at inside
  unfold Expansion.within
  cases outcome : expansion (context.enter bindings origin) with
  | ok value later =>
    rw [outcome] at inside
    exact inside
  | error failure later =>
    rw [outcome] at inside
    exact inside

/-- An expansion made of steps and nested texts leads along a relation, if the nested texts do. -/
theorem Uniform.along {α : Type} {expand : Expander State} {expansion : Expansion State α}
    (uniform : Uniform services (fun _ : Unit => expand) (fun _ => True) fun _ => expansion)
    (follows : services.prompt.Follows relation)
    (nested : ∀ text bindings origin, Keeps (Along relation) (expand text bindings origin)) :
    Keeps (Along relation) expansion :=
  uniform.keeps (fun context => follows.refl context.prompt) follows.trans
    (fun _ _ _ => .of_prompt_eq follows rfl) (fun step context => step.along_take follows context)
    nested

/-- At every level, an expansion leads along a relation of its prompt. -/
theorem along_ofTextWithin (follows : services.prompt.Follows relation) (levels : Nat)
    (text : Text) (bindings : List Macro) (origin : Origin) :
    Keeps (Along relation) (ofTextWithin services levels text bindings origin) := by
  induction levels generalizing text bindings origin with
  | zero => exact fun context => follows.refl context.prompt
  | succ levels hypothesis =>
    have uniform : Uniform services (fun _ : Unit => ofTextWithin services levels)
        (fun _ => True) fun _ => ofFragment services (ofTextWithin services levels)
          ⟨origin, text⟩ := .ofFragment (fun _ => trivial) ⟨origin, text⟩
    exact (uniform.along follows hypothesis).along_within bindings origin

/-- The expansion of a text leads along a relation of its prompt. -/
theorem along_ofText (follows : services.prompt.Follows relation) (text : Text)
    (bindings : List Macro) (origin : Origin) :
    Keeps (Along relation) (ofText services text bindings origin) :=
  fun context => along_ofTextWithin follows context.depth.remaining text bindings origin context

end

end Expansion

/-- The expansion of a document leads along a relation of its prompt. -/
theorem prompt_expandDocument {State : Type} {prompt : Prompt State}
    {relation : State → State → Prop} (follows : prompt.Follows relation) (settings : Settings)
    (retriever : Retriever) (document : Text) (state : State) (journal : Journal) :
    relation state (expandDocument settings prompt retriever document state journal).prompt := by
  let services : Services State := ⟨settings.pageMarker, prompt, retriever⟩
  let begun := (Context.initial settings.maxDepth state journal).note
    (.expanding settings.sourceName document.size)
  have led : Expansion.Along relation begun (Expansion.contextOf
      (Expansion.ofText services document [] (.labelled settings.sourceName) begun)) :=
    Expansion.along_ofText follows document [] (.labelled settings.sourceName) begun
  unfold expandDocument
  dsimp only
  cases outcome : Expansion.ofText services document [] (.labelled settings.sourceName) begun with
  | ok output context =>
    rw [outcome] at led
    exact led
  | error failure context =>
    rw [outcome] at led
    exact led

end TextMacros
