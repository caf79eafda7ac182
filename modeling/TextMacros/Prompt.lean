import TextMacros.Journal

/-!
# Prompts

An expansion can ask its user to edit a text and can show the user a message. A prompt says how:
each question and each message is a step on a state of the prompt's own, and may leave entries in
the journal. A question always has an answer, so a prompt that cannot ask keeps the text it was
given.
-/

namespace TextMacros

/-- The answer to a question. -/
structure Reply where
  /-- Whether the text is expanded before it is used. -/
  expand : Bool
  /-- The edited text. -/
  text : Text
deriving DecidableEq

/-- An answer that is used as it stands. -/
def Reply.verbatim (text : Text) : Reply := ⟨false, text⟩

/-- A way to ask and to tell. -/
structure Prompt (State : Type) where
  /-- Shows a title and an initial text, and returns the edited text. -/
  ask : (title initial : Text) → State → Observed (Reply × State)
  /-- Shows a message. -/
  notify : (title body : Text) → State → Observed State

namespace Prompt

/-- The prompt that keeps every initial text and drops every message. -/
def silent {State : Type} : Prompt State where
  ask _ initial state := ⟨(.verbatim initial, state), []⟩
  notify _ _ state := ⟨state, []⟩

end Prompt

/-- Prepared replies, and the questions and messages so far. -/
structure Script where
  /-- The replies that are not used yet. -/
  replies : List Reply
  /-- Title and initial text of each question, in order. -/
  asked : List (Text × Text)
  /-- Title and text of each message, in order. -/
  notified : List (Text × Text)

namespace Script

/-- A script before any question. -/
def ofReplies (replies : List Reply) : Script := ⟨replies, [], []⟩

/-- Answers with the next reply; once there is none, keeps the initial text. -/
def answer (title initial : Text) (script : Script) : Reply × Script :=
  let asked := script.asked ++ [(title, initial)]
  match script.replies with
  | [] => (.verbatim initial, { script with asked })
  | reply :: replies => (reply, { script with replies, asked })

/-- The prompt that follows a script. -/
def prompt : Prompt Script where
  ask title initial script := ⟨script.answer title initial, []⟩
  notify title body script :=
    ⟨{ script with notified := script.notified ++ [(title, body)] }, []⟩

end Script
end TextMacros
