import TextMacros.Prompt

/-!
# Histories of prompts

A prompt can keep a history of what it is asked and told: something that every question and every
message adds to, and that nothing takes away from. A script keeps two, its questions and its
messages.

More generally, a prompt can follow a relation between its states: every question and every message
leads to a related state.
-/

namespace TextMacros
namespace Prompt

variable {State Item : Type}

/-- What is read off the state of a prompt is a history: questions and messages only add to it. -/
structure Records (prompt : Prompt State) (history : State → List Item) : Prop where
  /-- A question adds to the history. -/
  ask : ∀ title initial state, history state <+: history (prompt.ask title initial state).value.2
  /-- A message adds to the history. -/
  notify : ∀ title body state, history state <+: history (prompt.notify title body state).value

/-- Questions and messages lead along a relation, however many there are. -/
structure Follows (prompt : Prompt State) (relation : State → State → Prop) : Prop where
  /-- Where nothing is asked or told, nothing changes. -/
  refl : ∀ state, relation state state
  /-- What follows on the one part follows on both parts. -/
  trans : ∀ {first second third}, relation first second → relation second third →
    relation first third
  /-- A question leads along the relation. -/
  ask : ∀ title initial state, relation state (prompt.ask title initial state).value.2
  /-- A message leads along the relation. -/
  notify : ∀ title body state, relation state (prompt.notify title body state).value

/-- A history leads from each state to those whose history begins with its own. -/
theorem Records.follows {prompt : Prompt State} {history : State → List Item}
    (records : prompt.Records history) :
    prompt.Follows fun before after => history before <+: history after where
  refl := fun state => List.prefix_refl (history state)
  trans := List.IsPrefix.trans
  ask := records.ask
  notify := records.notify

end Prompt

namespace Script

/-- The questions of a script are a history. -/
theorem records_asked : Script.prompt.Records Script.asked where
  ask := by
    intro title initial script
    obtain ⟨replies, asked, notified⟩ := script
    have added : asked <+: asked ++ [(title, initial)] := List.prefix_append _ _
    cases replies with
    | nil => exact added
    | cons reply replies => exact added
  notify := fun _ _ script => List.prefix_refl script.asked

/-- The messages of a script are a history. -/
theorem records_notified : Script.prompt.Records Script.notified where
  ask := by
    intro title initial script
    obtain ⟨replies, asked, notified⟩ := script
    cases replies with
    | nil => exact List.prefix_refl notified
    | cons reply replies => exact List.prefix_refl notified
  notify := fun title body script => List.prefix_append script.notified [(title, body)]

end Script
end TextMacros
