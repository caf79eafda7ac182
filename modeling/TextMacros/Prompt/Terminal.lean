import TextMacros.Prompt
import TextMacros.Text.Encoding
import TextMacros.Text.Wrap

/-!
# Terminals

A terminal is read line by line and written byte by byte. A question shows its title and the initial
text; the reply is read up to a line that holds only a dot, and one more line tells whether to
expand it. A reply without lines keeps the initial text, and so does a question that cannot be shown
or whose reply cannot be read. Whoever else reads from the terminal takes the lines that follow, so
no line is lost or read twice: what is left of the input is always an end part of it
(`Terminal.ask_input_suffix`).
-/

namespace TextMacros

/-- One more byte in front of some encoded lines. -/
def consByte (byte : UInt8) (lines : List (List UInt8)) : List (List UInt8) :=
  if byte = 10 then
    [byte] :: lines
  else
    match lines with
    | [] => [[byte]]
    | line :: lines => (byte :: line) :: lines

/-- Bytes as encoded lines, each with its line feed, which only the last may lack. -/
def encodedLines (bytes : List UInt8) : List (List UInt8) := bytes.foldr consByte []

/-- Bytes that were written, and how many are taken in all. -/
structure Output where
  /-- The bytes that were taken. -/
  bytes : List UInt8
  /-- How many bytes are taken; without a number, all. -/
  capacity : Option Nat

namespace Output

/-- Writes bytes. When not all of them are taken, the first ones are, and writing fails. -/
def write (output : Output) (bytes : List UInt8) : Except AccessError Unit × Output :=
  match output.capacity with
  | none => (.ok (), { output with bytes := output.bytes ++ bytes })
  | some capacity =>
    let room := capacity - output.bytes.length
    (if bytes.length ≤ room then .ok () else .error .writerFull,
      { output with bytes := output.bytes ++ bytes.take room })

end Output

/-- A terminal. -/
structure Terminal where
  /-- The encoded lines that have not been read. -/
  input : List (List UInt8)
  /-- What has been shown. -/
  output : Output
  /-- Whether there is someone to answer. -/
  interactive : Bool

namespace Terminal

/-- A terminal with some input, on which everything can be shown. -/
def ofInput (bytes : List UInt8) (interactive : Bool) : Terminal :=
  ⟨encodedLines bytes, ⟨[], none⟩, interactive⟩

/-- The width of the lines of a message. -/
def messageWidth : Nat := 72

/-- A line that stands above a question or message. -/
def heading (title : Text) : Text := "== ".toList ++ title ++ " ==\n".toList

/-- What a question shows before its reply is read. -/
def question (title initial : Text) : Text :=
  heading title ++ initial ++ ['\n'] ++
    ("-- type the new text, end with a line holding only '.' " ++
      "(empty keeps the text above)\n").toList

/-- What asks whether the reply is to be expanded. -/
def expandQuestion : Text := "expand? [y/N] ".toList

/-- Whether an answer is a yes. -/
def isYes (answer : Text) : Bool :=
  answer.trim = "y".toList ∨ answer.trim = "Y".toList ∨ answer.trim = "yes".toList

/-- What a message shows. -/
def message (title body : Text) : Text :=
  heading title ++ (body.wrap messageWidth).flatMap (· ++ ['\n'])

/-- Shows a text. -/
def write (terminal : Terminal) (text : Text) : Except AccessError Unit × Terminal :=
  let (result, output) := terminal.output.write text.bytes
  (result, { terminal with output })

/-- Reads a line with its line end. At the end of the input the line is empty. A line that is no
text is read too, and is a failure. -/
def readLine (terminal : Terminal) : Except AccessError Text × Terminal :=
  match terminal.input with
  | [] => (.ok [], terminal)
  | line :: input =>
    let result := match Text.ofBytes? line with
      | some text => .ok text
      | none => .error .invalidEncoding
    (result, { terminal with input })

/-- Takes the lines of a reply, up to the line that ends it or the end of the input, and returns the
encoded lines behind it. -/
def replyLines : List (List UInt8) → Except AccessError (List Text) × List (List UInt8)
  | [] => (.ok [], [])
  | encoded :: rest =>
    match Text.ofBytes? encoded with
    | none => (.error .invalidEncoding, rest)
    | some line =>
      if line.trimLineEnd = ['.'] then
        (.ok [], rest)
      else
        let (lines, rest) := replyLines rest
        (lines.map (line.trimLineEnd :: ·), rest)

theorem replyLines_suffix (input : List (List UInt8)) : (replyLines input).2 <:+ input := by
  induction input with
  | nil => exact List.suffix_refl []
  | cons encoded rest hypothesis =>
    unfold replyLines
    split
    · exact List.suffix_cons _ _
    · split
      · exact List.suffix_cons _ _
      · exact hypothesis.trans (List.suffix_cons _ _)

/-- Asks whether a reply is to be expanded, and reads the answer. -/
def confirm (terminal : Terminal) : Except AccessError Bool × Terminal :=
  match terminal.write expandQuestion with
  | (.error cause, terminal) => (.error cause, terminal)
  | (.ok _, terminal) =>
    let (answer, terminal) := terminal.readLine
    (answer.map isYes, terminal)

/-- Shows a question and reads the reply. -/
def readReply (terminal : Terminal) (title initial : Text) : Except AccessError Reply × Terminal :=
  match terminal.write (question title initial) with
  | (.error cause, terminal) => (.error cause, terminal)
  | (.ok _, terminal) =>
    let (lines, input) := replyLines terminal.input
    let terminal := { terminal with input }
    match lines with
    | .error cause => (.error cause, terminal)
    | .ok [] => (.ok (.verbatim initial), terminal)
    | .ok lines =>
      let (expand, terminal) := terminal.confirm
      (expand.map fun expand => ⟨expand, Text.ofLines lines⟩, terminal)

/-- Asks a question, when there is someone to answer. -/
def ask (title initial : Text) (terminal : Terminal) : Observed (Reply × Terminal) :=
  if terminal.interactive then
    match terminal.readReply title initial with
    | (.ok reply, terminal) => ⟨(reply, terminal), []⟩
    | (.error cause, terminal) => ⟨(.verbatim initial, terminal), [.promptFailed title cause]⟩
  else
    ⟨(.verbatim initial, terminal), []⟩

/-- Shows a message. -/
def notify (title body : Text) (terminal : Terminal) : Observed Terminal :=
  match terminal.write (message title body) with
  | (.ok _, terminal) => ⟨terminal, []⟩
  | (.error cause, terminal) => ⟨terminal, [.messageFailed title cause]⟩

/-- The prompt on a terminal. -/
def prompt : Prompt Terminal := ⟨ask, notify⟩

@[simp] theorem write_input (terminal : Terminal) (text : Text) :
    (terminal.write text).2.input = terminal.input := rfl

theorem readLine_input_suffix (terminal : Terminal) :
    terminal.readLine.2.input <:+ terminal.input := by
  unfold readLine
  split
  · exact List.suffix_refl _
  · rename_i line input ahead
    rw [ahead]
    exact List.suffix_cons _ _

theorem confirm_input_suffix (terminal : Terminal) :
    terminal.confirm.2.input <:+ terminal.input := by
  have unread := terminal.write_input expandQuestion
  unfold confirm
  split
  · rename_i written
    rw [written] at unread
    exact unread ▸ List.suffix_refl _
  · rename_i shown written
    rw [written] at unread
    exact unread ▸ shown.readLine_input_suffix

theorem readReply_input_suffix (terminal : Terminal) (title initial : Text) :
    (terminal.readReply title initial).2.input <:+ terminal.input := by
  have unread := terminal.write_input (question title initial)
  unfold readReply
  split
  · rename_i written
    rw [written] at unread
    exact unread ▸ List.suffix_refl _
  · rename_i shown written
    rw [written] at unread
    have taken := replyLines_suffix shown.input
    simp only at unread ⊢
    rw [unread] at taken ⊢
    split
    · exact taken
    · exact taken
    · exact (confirm_input_suffix _).trans taken

/-- After a question the input is an end part of what it was. -/
theorem ask_input_suffix (terminal : Terminal) (title initial : Text) :
    (ask title initial terminal).value.2.input <:+ terminal.input := by
  have taken := terminal.readReply_input_suffix title initial
  unfold ask
  split
  · split
    · rename_i read
      rw [read] at taken
      exact taken
    · rename_i read
      rw [read] at taken
      exact taken
  · exact List.suffix_refl _

/-- A message reads nothing. -/
theorem notify_input (terminal : Terminal) (title body : Text) :
    (notify title body terminal).value.input = terminal.input := by
  have unread := terminal.write_input (message title body)
  unfold notify
  split
  · rename_i written
    rw [written] at unread
    exact unread
  · rename_i written
    rw [written] at unread
    exact unread

/-- A terminal whose input is an end part of some encoded lines. -/
abbrev Within (lines : List (List UInt8)) := { terminal : Terminal // terminal.input <:+ lines }

/-- The prompt on a terminal whose input is known to be an end part of some encoded lines, and
remains one. -/
def promptWithin (lines : List (List UInt8)) : Prompt (Within lines) where
  ask title initial terminal :=
    let answered := ask title initial terminal.val
    ⟨(answered.value.1, ⟨answered.value.2,
      (terminal.val.ask_input_suffix title initial).trans terminal.property⟩), answered.entries⟩
  notify title body terminal :=
    let shown := notify title body terminal.val
    ⟨⟨shown.value, terminal.val.notify_input title body ▸ terminal.property⟩, shown.entries⟩

end Terminal
end TextMacros
