import TextMacros.Editor
import TextMacros.Proofs.Expansion.Prompting
import TextMacros.Proofs.Line
import TextMacros.Proofs.Prompt.Terminal

/-!
# Transcripts of editing sessions

The editor and the questions of its expansions read from one terminal. A transcript of a session
says who reads what: it has a turn for every line that the editor reads, and with a line that
expands the buffer it has the lines that the questions of this expansion take. No other line is
taken, and none is taken twice, so the lines of the turns and those left unread are the input
(`Transcript.unread`). Only the lines of the editor make a difference to the buffer: it becomes what
`Draft.edit` makes of them, one by one (`Transcript.draft`).
-/

namespace TextMacros

namespace Command

/-- The end of a typed line makes no difference to the command that it gives. -/
theorem parse?_trimLineEnd (line : Text) : parse? line.trimLineEnd = parse? line := by
  unfold parse?
  rw [Text.trim_trimLineEnd]

/-- The lines that give a command are those that begin with a colon, white space aside. -/
theorem parse?_eq_none {line : Text} : parse? line = none ↔ line.trim.head? ≠ some ':' := by
  unfold parse?
  split
  · rename_i command begins
    simp [begins]
  · rename_i other
    cases trimmed : line.trim with
    | nil => simp
    | cons symbol rest =>
      have apart : symbol ≠ ':' := fun same => other rest (by rw [trimmed, same])
      simpa using apart

end Command

/-- What the lines of the editor change. -/
structure Draft where
  /-- The lines of the buffer. -/
  lines : List Text
  /-- The files that the buffer is written to and read from. -/
  files : Files

/-- The draft behind a line. A line that gives no command is added to the buffer. A line that gives
one empties the buffer, replaces it by the lines of a file, writes it to a file, or changes
nothing. -/
def Draft.edit (draft : Draft) (line : Text) : Draft :=
  if line.trim.head? = some ':' then
    match Command.parse? line with
    | some .clear => { draft with lines := [] }
    | some (.openFile path) =>
      match draft.files.readText path with
      | .ok text => { draft with lines := text.lines }
      | .error _ => draft
    | some (.saveFile path) =>
      match draft.files.write path (Text.ofLines draft.lines).bytes with
      | .ok files => { draft with files }
      | .error _ => draft
    | _ => draft
  else
    { draft with lines := draft.lines ++ [line.trimLineEnd] }

namespace Desk

variable {State : Type} {retriever : Files → Retriever} {desk : Desk} {terminal : Terminal}
  {line : Text} {rest : List Text}

/-- The buffer and the files of a desk. -/
def draft (desk : Desk) : Draft := ⟨desk.session.lines, desk.files⟩

/-- The desk behind a line that needs no terminal. -/
def enter (desk : Desk) (line : Text) : Desk :=
  match Command.parse? line with
  | none => desk.pushLine line.trimLineEnd
  | some command => desk.perform command

/-- The expansion of the buffer, with questions on a terminal. -/
def expansion (retriever : Files → Retriever) (desk : Desk) (behind : Terminal) :
    Outcome (Terminal.Within behind.input) :=
  desk.session.expand (Terminal.promptWithin behind.input) (retriever desk.files)
    ⟨behind, List.suffix_refl behind.input⟩ desk.journal

/-- To quit changes nothing. -/
theorem enter_of_quit (desk : Desk) (parsed : Command.parse? line = some .quit) :
    desk.enter line = desk := by
  unfold enter
  rw [parsed]
  rfl

/-- To have the buffer expanded changes nothing by itself. -/
theorem enter_of_run (desk : Desk) (parsed : Command.parse? line = some .run) :
    desk.enter line = desk := by
  unfold enter
  rw [parsed]
  rfl

/-- A line edits the draft. -/
theorem draft_enter (desk : Desk) (line : Text) :
    (desk.enter line).draft = desk.draft.edit line := by
  unfold enter Draft.edit
  cases parsed : Command.parse? line with
  | none =>
    rw [if_neg (Command.parse?_eq_none.mp parsed)]
    rfl
  | some command =>
    have colon : line.trim.head? = some ':' := by
      by_contra other
      rw [Command.parse?_eq_none.mpr other] at parsed
      cases parsed
    rw [if_pos colon]
    cases command with
    | openFile path =>
      simp only [perform, Session.openFile, draft]
      cases desk.files.readText path <;> rfl
    | saveFile path =>
      simp only [perform, Session.saveFile, Session.text, draft]
      cases desk.files.write path (Text.ofLines desk.session.lines).bytes <;> rfl
    | _ => rfl

/-- The end of an expansion leaves the draft as it is. -/
theorem draft_finish (desk : Desk) (outcome : Outcome State) :
    (desk.finish outcome).draft = desk.draft := by
  unfold finish
  cases outcome.result <;> rfl

/-- A session ends with its input. -/
theorem run_of_end (holds : terminal.Holds []) :
    run retriever desk terminal = (.ok (), desk, terminal) := by
  unfold run
  split
  · rfl
  · rename_i encoded others ahead
    rw [holds.input] at ahead
    cases ahead

/-- A line is read, and what follows depends on the command that it gives. -/
theorem run_of_line (holds : terminal.Holds (line :: rest)) :
    run retriever desk terminal =
      match Command.parse? line with
      | some .quit => (.ok (), desk, terminal.readLine.2)
      | some .run => run retriever (desk.finish (desk.expansion retriever terminal.readLine.2))
          (desk.expansion retriever terminal.readLine.2).prompt.val
      | _ => run retriever (desk.enter line) terminal.readLine.2 := by
  obtain ⟨input, output, interactive⟩ := terminal
  have ahead : input = line.bytes :: rest.map Text.bytes := holds.input
  subst ahead
  rw [run]
  simp only [Text.ofBytes?_bytes, Command.parse?_trimLineEnd]
  unfold enter
  cases parsed : Command.parse? line with
  | none => rfl
  | some command => cases command <;> rfl

end Desk

/-- A line of the editor, with the lines that each question of its expansion takes. -/
structure Turn where
  /-- The line, with its end. -/
  line : Text
  /-- The lines that were taken, question by question. -/
  answers : List (List Text)

namespace Turn

/-- All lines of a turn, in order. -/
def lines (turn : Turn) : List Text := turn.line :: turn.answers.flatten

/-- The line ends the session. -/
def Quits (turn : Turn) : Prop := Command.parse? turn.line = some .quit

end Turn

/-- What happens in an editing session, turn by turn: from a desk and a terminal to the desk and the
terminal at its end. -/
inductive Transcript (retriever : Files → Retriever) :
    Desk → Terminal → List Turn → Desk → Terminal → Prop where
  /-- There is no line to be read. -/
  | ended {desk : Desk} {terminal : Terminal} (holds : terminal.Holds []) :
    Transcript retriever desk terminal [] desk terminal
  /-- A line ends the session. -/
  | quit {desk : Desk} {terminal : Terminal} {line : Text} {rest : List Text}
    (holds : terminal.Holds (line :: rest)) (parsed : Command.parse? line = some .quit) :
    Transcript retriever desk terminal [⟨line, []⟩] desk terminal.readLine.2
  /-- A line has the buffer expanded. -/
  | expanded {desk last : Desk} {terminal final : Terminal} {line : Text} {rest : List Text}
    {answers : List (List Text)} {turns : List Turn} (holds : terminal.Holds (line :: rest))
    (parsed : Command.parse? line = some .run)
    (conversation : Terminal.Conversation terminal.readLine.2 answers
      (desk.expansion retriever terminal.readLine.2).prompt.val)
    (further : Transcript retriever
      (desk.finish (desk.expansion retriever terminal.readLine.2))
      (desk.expansion retriever terminal.readLine.2).prompt.val turns last final) :
    Transcript retriever desk terminal (⟨line, answers⟩ :: turns) last final
  /-- A line is added to the buffer, or gives another command. -/
  | entered {desk last : Desk} {terminal final : Terminal} {line : Text} {rest : List Text}
    {turns : List Turn} (holds : terminal.Holds (line :: rest))
    (stays : Command.parse? line ≠ some .quit) (other : Command.parse? line ≠ some .run)
    (further : Transcript retriever (desk.enter line) terminal.readLine.2 turns last final) :
    Transcript retriever desk terminal (⟨line, []⟩ :: turns) last final

variable {retriever : Files → Retriever} {desk last : Desk} {terminal final : Terminal}
  {ahead : List Text} {turns : List Turn}

/-- Reading a line leaves the lines behind it. -/
theorem Terminal.Holds.behind (holds : terminal.Holds ahead) :
    terminal.readLine.2.Holds ahead.tail := by
  obtain ⟨later, read, left⟩ := holds.readLine
  rw [read]
  exact left

/-- A question or a message on a terminal is the next one of a conversation. -/
theorem follows_conversation (lines : List (List UInt8)) :
    (Terminal.promptWithin lines).Follows fun before after =>
      ∀ ahead, before.val.Holds ahead →
        ∃ answers, Terminal.Conversation before.val answers after.val where
  refl := fun state ahead holds => ⟨[], .silence⟩
  trans := by
    intro first second third before after ahead holds
    obtain ⟨answers, conversation⟩ := before ahead holds
    obtain ⟨rest, -, left⟩ := conversation.holds holds
    obtain ⟨others, further⟩ := after rest left
    exact ⟨answers ++ others, conversation.trans further⟩
  ask := fun title initial state ahead holds => ⟨_, .question .silence holds title initial⟩
  notify := fun title body state ahead holds => ⟨_, .message .silence title body⟩

/-- The expansion of the buffer is a conversation. -/
theorem Desk.conversation_of_expansion (desk : Desk) (retriever : Files → Retriever)
    (holds : terminal.Holds ahead) :
    ∃ answers, Terminal.Conversation terminal answers
      (desk.expansion retriever terminal).prompt.val := by
  have led := prompt_expandDocument (follows_conversation terminal.input) desk.session.settings
    (retriever desk.files) desk.session.text ⟨terminal, List.suffix_refl terminal.input⟩
    desk.journal
  exact led ahead holds

/-- Every session on lines of text has a transcript, and does not fail. -/
theorem Desk.exists_transcript (retriever : Files → Retriever) (desk : Desk)
    (holds : terminal.Holds ahead) :
    (Desk.run retriever desk terminal).1 = .ok () ∧
      ∃ turns, Transcript retriever desk terminal turns
        (Desk.run retriever desk terminal).2.1 (Desk.run retriever desk terminal).2.2 := by
  -- By induction on the number of lines ahead: every turn takes one at least.
  induction length : ahead.length using Nat.strong_induction_on
    generalizing ahead desk terminal with
  | h count hypothesis =>
    cases ahead with
    | nil =>
      rw [run_of_end holds]
      exact ⟨rfl, [], .ended holds⟩
    | cons line rest =>
      have behind : terminal.readLine.2.Holds rest := holds.behind
      have fewer : rest.length < count := by
        rw [← length, List.length_cons]
        omega
      by_cases quits : Command.parse? line = some .quit
      · rw [run_of_line holds, quits]
        exact ⟨rfl, _, .quit holds quits⟩
      by_cases runs : Command.parse? line = some .run
      · rw [run_of_line holds, runs]
        obtain ⟨answers, conversation⟩ := desk.conversation_of_expansion retriever behind
        obtain ⟨left, split_off, still⟩ := conversation.holds behind
        have shorter : left.length ≤ rest.length := by
          rw [split_off, List.length_append]
          omega
        obtain ⟨success, turns, further⟩ := hypothesis left.length (by omega) _ still rfl
        exact ⟨success, _, .expanded holds runs conversation further⟩
      · have entered : run retriever desk terminal =
            run retriever (desk.enter line) terminal.readLine.2 := by
          rw [run_of_line holds]
          split
          · exact absurd ‹_› quits
          · exact absurd ‹_› runs
          · rfl
        rw [entered]
        obtain ⟨success, turns, further⟩ := hypothesis rest.length fewer _ behind rfl
        exact ⟨success, _, .entered holds quits runs further⟩

namespace Transcript

/-- The session ends at the end of the input or behind the first line that quits. -/
def Closed (turns : List Turn) (unread : List Text) : Prop :=
  (unread = [] ∧ ∀ turn ∈ turns, ¬turn.Quits) ∨
    ∃ before turn, turns = before ++ [turn] ∧ turn.Quits ∧ ∀ other ∈ before, ¬other.Quits

/-- What is added in front of a session that is closed, if it does not quit. -/
theorem Closed.cons {turn : Turn} {unread : List Text} (closed : Closed turns unread)
    (stays : ¬turn.Quits) : Closed (turn :: turns) unread := by
  rcases closed with ⟨done, none_quits⟩ | ⟨before, final, rfl, quits, others⟩
  · exact .inl ⟨done, List.forall_mem_cons.mpr ⟨stays, none_quits⟩⟩
  · exact .inr ⟨turn :: before, final, rfl, quits, List.forall_mem_cons.mpr ⟨stays, others⟩⟩

/-- The lines of the turns are the lines that were read, and the others are left. -/
theorem unread (transcript : Transcript retriever desk terminal turns last final)
    (holds : terminal.Holds ahead) :
    ∃ unread, ahead = turns.flatMap Turn.lines ++ unread ∧ final.Holds unread ∧
      Closed turns unread := by
  induction transcript generalizing ahead with
  | ended known =>
    have nothing : ahead = [] := holds.unique known
    exact ⟨[], nothing, known, .inl ⟨rfl, fun turn member => absurd member List.not_mem_nil⟩⟩
  | @quit desk terminal line rest known parsed =>
    have whole : ahead = line :: rest := holds.unique known
    refine ⟨rest, whole, known.behind, .inr ⟨[], _, rfl, parsed, ?_⟩⟩
    exact fun other member => absurd member List.not_mem_nil
  | @expanded desk last terminal final line rest answers turns known parsed conversation further
      hypothesis =>
    have whole : ahead = line :: rest := holds.unique known
    obtain ⟨left, taken, still⟩ := conversation.holds known.behind
    obtain ⟨unread, read, ending, closed⟩ := hypothesis still
    have stays : ¬Turn.Quits ⟨line, answers⟩ := by
      intro quits
      have both := parsed.symm.trans quits
      cases both
    refine ⟨unread, ?_, ending, closed.cons stays⟩
    rw [List.tail_cons] at taken
    rw [whole, taken, read, List.flatMap_cons, Turn.lines, List.cons_append, List.cons_append,
      List.append_assoc]
  | @entered desk last terminal final line rest turns known stays other further hypothesis =>
    have whole : ahead = line :: rest := holds.unique known
    obtain ⟨unread, read, ending, closed⟩ := hypothesis known.behind
    refine ⟨unread, ?_, ending, closed.cons stays⟩
    rw [List.tail_cons] at read
    rw [whole, read]
    rfl

/-- The draft at the end is what the lines of the editor make of the draft at the start. -/
theorem draft (transcript : Transcript retriever desk terminal turns last final) :
    last.draft = (turns.map Turn.line).foldl Draft.edit desk.draft := by
  induction transcript with
  | ended holds => rfl
  | @quit desk terminal line rest holds parsed =>
    have kept : desk.enter line = desk := desk.enter_of_quit parsed
    have edited := desk.draft_enter line
    rw [kept] at edited
    exact edited
  | @expanded desk last terminal final line rest answers turns holds parsed conversation further
      hypothesis =>
    have kept : desk.enter line = desk := desk.enter_of_run parsed
    have edited := desk.draft_enter line
    rw [kept] at edited
    rw [hypothesis, Desk.draft_finish, List.map_cons, List.foldl_cons, ← edited]
  | @entered desk last terminal final line rest turns holds stays other further hypothesis =>
    rw [hypothesis, Desk.draft_enter]
    rfl

end Transcript

/-- A session on a text does not fail, and has a transcript. The lines of its turns and those left
unread are the lines of the input in order. It ends with the input or behind the first line of the
editor that quits. The buffer and the files at its end are what the lines of the editor alone make
of an empty buffer and the files at its start. -/
theorem Desk.run_transcript (retriever : Files → Retriever) (settings : Settings) (files : Files)
    (journal : Journal) (input : Text) (interactive : Bool) :
    let desk := Desk.ofSettings settings files journal
    let terminal := Terminal.ofInput input.bytes interactive
    let ended := Desk.run retriever desk terminal
    ended.1 = .ok () ∧ ∃ turns unread,
      Transcript retriever desk terminal turns ended.2.1 ended.2.2 ∧
      encodedLines input.bytes = (turns.flatMap Turn.lines ++ unread).map Text.bytes ∧
      ended.2.2.input = unread.map Text.bytes ∧
      Transcript.Closed turns unread ∧
      ended.2.1.draft = (turns.map Turn.line).foldl Draft.edit ⟨[], files⟩ := by
  intro desk terminal ended
  obtain ⟨ahead, holds⟩ := Terminal.exists_holds_ofInput input interactive
  obtain ⟨success, turns, transcript⟩ := Desk.exists_transcript retriever desk holds
  obtain ⟨unread, read, left, closed⟩ := transcript.unread holds
  have lines : encodedLines input.bytes = ahead.map Text.bytes := holds.input
  rw [read] at lines
  exact ⟨success, turns, unread, transcript, lines, left.input, closed, transcript.draft⟩

/-- Of the line end characters behind a line none is kept, even where two carriage returns stand in
front of the line feed. -/
theorem Desk.run_carriageReturns :
    let line : Text := "a\r".toList ++ "\r\n".toList
    let ended := Desk.run (fun _ => .offline) (.ofSettings .default ⟨[], [], []⟩ #[])
      (.ofInput line.bytes true)
    ended.2.1.session.lines = ["a".toList] ∧ ended.2.1.session.lines ≠ ["a\r".toList] := by
  intro line ended
  have holds : (Terminal.ofInput line.bytes true).Holds [line] := ⟨by decide +kernel, rfl⟩
  have document : Command.parse? line = none := by decide +kernel
  have kept : ended.2.1.session.lines = ["a".toList] := by
    have left : Terminal.Holds _ [] := holds.behind
    simp only [ended, Desk.run_of_line holds, document, Desk.run_of_end left]
    decide +kernel
  refine ⟨kept, ?_⟩
  rw [kept]
  decide

end TextMacros
