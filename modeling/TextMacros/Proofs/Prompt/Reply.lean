import Mathlib.Data.List.TakeWhile
import TextMacros.Proofs.Prompt.Input

/-!
# Framed replies

A question takes the lines of its reply from the input, the line that ends it, and one more line
when the reply has lines; it leaves the rest of the input as it is. So whoever reads next, be it
another question or someone who shares the terminal, goes on where the question stopped. `Takes`
says what a call takes from the front of an input and what it returns, and `Serves` says the same of
calls one after another: the pieces that they take are the input, cut in the order of the calls.
-/

namespace TextMacros
namespace Terminal

/-- A terminal that someone answers, with the input that has not been read and what has been
shown. -/
def reading (input : Text) (shown : List UInt8) : Terminal :=
  ⟨encodedLines input.bytes, ⟨shown, none⟩, true⟩

variable {lines others : List Text} {dot : Text}

/-! ## One step -/

/-- An input that is read holds the lines of its cut. -/
theorem reading_eq_holding (cut : Cut [] lines) (shown : List UInt8) :
    reading lines.flatten shown = holding lines shown true := by
  have whole := cut.encodedLines_eq
  rw [List.append_nil] at whole
  rw [reading, whole, holding]
  exact congrArg (Terminal.mk · _ _) (List.append_nil _)

/-- The lines in front of the first dot are the reply. -/
theorem reply_append (plain : ∀ line ∈ lines, line.trimLineEnd ≠ ['.'])
    (dotted : dot.trimLineEnd = ['.']) (others : List Text) :
    reply (lines ++ dot :: others) = lines := by
  unfold reply
  rw [List.takeWhile_append_of_pos (by simpa using plain),
    List.takeWhile_cons_of_neg (by simpa using dotted), List.append_nil]

/-- Without a dot all lines are the reply. -/
theorem reply_eq_self (plain : ∀ line ∈ lines, line.trimLineEnd ≠ ['.']) : reply lines = lines := by
  unfold reply
  rw [List.takeWhile_eq_self_iff]
  simpa using plain

/-- A reply without lines keeps the initial text. -/
theorem ask_of_reply_eq_nil (cut : Cut [] lines) (nothing : reply lines = [])
    (title initial : Text) (shown : List UInt8) :
    ask title initial (reading lines.flatten shown) =
      ⟨(.verbatim initial,
        reading (lines.drop 1).flatten (shown ++ (question title initial).bytes)), []⟩ := by
  have replied := readReply_holding lines shown true title initial
  unfold replySize at replied
  rw [nothing, List.isEmpty_nil, if_pos rfl, if_pos rfl, if_pos rfl, List.append_nil] at replied
  rw [reading_eq_holding cut, reading_eq_holding (cut.drop 1), ask, replied]
  rfl

/-- A reply with lines is their text, to be expanded or not as the answer says. -/
theorem ask_of_reply_eq_cons (cut : Cut [] lines) {first : Text}
    (something : reply lines = first :: others) (title initial : Text) (shown : List UInt8) :
    let behind := lines.drop ((first :: others).length + 1)
    ask title initial (reading lines.flatten shown) =
      ⟨(⟨isYes (behind.headD []), Text.ofLines ((first :: others).map Text.trimLineEnd)⟩,
        reading behind.tail.flatten
          (shown ++ (question title initial).bytes ++ expandQuestion.bytes)), []⟩ := by
  intro behind
  have rest : behind.tail = lines.drop ((first :: others).length + 2) := List.tail_drop
  have cut_off : Cut [] behind.tail := (cut.drop _).tail
  have replied := readReply_holding lines shown true title initial
  unfold replySize at replied
  rw [something, List.isEmpty_cons, if_neg Bool.false_ne_true, if_neg Bool.false_ne_true,
    if_neg Bool.false_ne_true, ← rest] at replied
  rw [reading_eq_holding cut, reading_eq_holding cut_off, ask, replied]
  rfl

/-- A reply that a dot ends is followed by the answer. -/
theorem ask_ended (cut : Cut [] (lines ++ dot :: others)) (present : lines ≠ [])
    (plain : ∀ line ∈ lines, line.trimLineEnd ≠ ['.']) (dotted : dot.trimLineEnd = ['.'])
    (title initial : Text) (shown : List UInt8) :
    ask title initial (reading (lines ++ dot :: others).flatten shown) =
      ⟨(⟨isYes (others.headD []), Text.ofLines (lines.map Text.trimLineEnd)⟩,
        reading others.tail.flatten
          (shown ++ (question title initial).bytes ++ expandQuestion.bytes)), []⟩ := by
  have replied : reply (lines ++ dot :: others) = lines := reply_append plain dotted others
  have behind : (lines ++ dot :: others).drop (lines.length + 1) = others := by
    rw [← List.drop_drop, List.drop_left]
    rfl
  obtain ⟨first, later, rfl⟩ := List.exists_cons_of_ne_nil present
  rw [ask_of_reply_eq_cons cut replied, behind]

/-- A reply that ends with the input has no answer behind it. -/
theorem ask_unended (cut : Cut [] lines) (present : lines ≠ [])
    (plain : ∀ line ∈ lines, line.trimLineEnd ≠ ['.']) (title initial : Text)
    (shown : List UInt8) :
    ask title initial (reading lines.flatten shown) =
      ⟨(⟨false, Text.ofLines (lines.map Text.trimLineEnd)⟩,
        reading [] (shown ++ (question title initial).bytes ++ expandQuestion.bytes)), []⟩ := by
  have replied : reply lines = lines := reply_eq_self plain
  obtain ⟨first, later, rfl⟩ := List.exists_cons_of_ne_nil present
  have behind : (first :: later).drop ((first :: later).length + 1) = [] :=
    List.drop_eq_nil_of_le (Nat.le_succ _)
  rw [ask_of_reply_eq_cons cut replied, behind]
  rfl

/-- Lines hold a dot behind lines that hold none, or they hold none. -/
theorem exists_dot_or_plain (lines : List Text) :
    (∃ front dot others, lines = front ++ dot :: others ∧
        (∀ line ∈ front, line.trimLineEnd ≠ ['.']) ∧ dot.trimLineEnd = ['.']) ∨
      ∀ line ∈ lines, line.trimLineEnd ≠ ['.'] := by
  induction lines with
  | nil => exact .inr (by simp)
  | cons line lines hypothesis =>
    by_cases dotted : line.trimLineEnd = ['.']
    · exact .inl ⟨[], line, lines, rfl, by simp, dotted⟩
    · rcases hypothesis with ⟨front, dot, others, rfl, plain, ends⟩ | plain
      · exact .inl ⟨line :: front, dot, others, rfl, by simpa using ⟨dotted, plain⟩, ends⟩
      · exact .inr (by simpa using ⟨dotted, plain⟩)

/-! ## Calls -/

/-- A call that reads from a terminal. -/
inductive Call where
  /-- Someone who shares the terminal reads a line. -/
  | line
  /-- A question is asked. -/
  | question (title initial : Text)
deriving DecidableEq

/-- What a call returns. -/
inductive Answer where
  /-- The line that was read, with its line end. -/
  | line (line : Text)
  /-- The reply to a question. -/
  | reply (reply : Reply)
deriving DecidableEq

/-- Makes a call. -/
def call (terminal : Terminal) : Call → Observed (Except AccessError Answer × Terminal)
  | .line =>
    let (read, terminal) := terminal.readLine
    ⟨(read.map .line, terminal), []⟩
  | .question title initial =>
    let ⟨(reply, terminal), entries⟩ := ask title initial terminal
    ⟨(.ok (.reply reply), terminal), entries⟩

/-- Makes calls one after another. -/
def serve (terminal : Terminal) : List Call → Observed (List (Except AccessError Answer) × Terminal)
  | [] => ⟨([], terminal), []⟩
  | next :: calls =>
    let ⟨(answer, terminal), entries⟩ := terminal.call next
    let ⟨(answers, terminal), others⟩ := terminal.serve calls
    ⟨(answer :: answers, terminal), entries ++ others⟩

/-- What a call takes from the front of an input, with the text that is left behind, and what it
returns. -/
inductive Takes : Call → (piece behind : Text) → Answer → Prop where
  /-- A line is the first line. -/
  | line {line behind : Text} (first : FirstLine line behind) : Takes .line line behind (.line line)
  /-- A question takes the line with the dot alone. -/
  | kept {dot behind : Text} (title initial : Text) (first : FirstLine dot behind)
    (dotted : dot.trimLineEnd = ['.']) :
    Takes (.question title initial) dot behind (.reply (.verbatim initial))
  /-- A question takes the lines of the reply, the line with the dot, and the answer. -/
  | replied {lines : List Text} {dot answer behind : Text} (title initial : Text)
    (cut : Cut (answer ++ behind) (lines ++ [dot])) (present : lines ≠ [])
    (plain : ∀ line ∈ lines, line.trimLineEnd ≠ ['.']) (dotted : dot.trimLineEnd = ['.'])
    (first : FirstLine answer behind) :
    Takes (.question title initial) (lines.flatten ++ dot ++ answer) behind
      (.reply ⟨isYes answer, Text.ofLines (lines.map Text.trimLineEnd)⟩)
  /-- A question takes nothing when nothing is left. -/
  | silent (title initial : Text) :
    Takes (.question title initial) [] [] (.reply (.verbatim initial))
  /-- A question takes all lines when there is no dot. -/
  | unended {lines : List Text} (title initial : Text) (cut : Cut [] lines) (present : lines ≠ [])
    (plain : ∀ line ∈ lines, line.trimLineEnd ≠ ['.']) :
    Takes (.question title initial) lines.flatten []
      (.reply ⟨false, Text.ofLines (lines.map Text.trimLineEnd)⟩)

/-- The pieces that calls take from an input one after another, with the text that is left behind
the last, and what they return. -/
inductive Serves (rest : Text) : List Call → List Text → List Answer → Prop where
  /-- No call takes anything. -/
  | nil : Serves rest [] [] []
  /-- A call takes its piece in front of those of the calls behind it. -/
  | cons {call : Call} {piece : Text} {answer : Answer} {calls : List Call} {pieces : List Text}
    {answers : List Answer} (first : Takes call piece (pieces.flatten ++ rest) answer)
    (others : Serves rest calls pieces answers) :
    Serves rest (call :: calls) (piece :: pieces) (answer :: answers)

/-- The first of some lines is read in front of the others. -/
theorem firstLine_of_cut (cut : Cut [] lines) : FirstLine (lines.headD []) lines.tail.flatten := by
  cases cut with
  | nil => exact .last List.not_mem_nil
  | cons present first cut =>
    rw [List.append_nil] at first
    exact first

/-- Lines are their first line and the others. -/
theorem flatten_eq_headD_append (lines : List Text) :
    lines.flatten = lines.headD [] ++ lines.tail.flatten := by
  cases lines <;> rfl

/-- A question is answered when it is asked. -/
theorem call_question {terminal later : Terminal} {title initial : Text} {reply : Reply}
    (asked : ask title initial terminal = ⟨(reply, later), []⟩) :
    terminal.call (.question title initial) = ⟨(.ok (.reply reply), later), []⟩ := by
  unfold call
  dsimp only
  rw [asked]

/-- Every call takes a piece of the input and leaves what stands behind it. -/
theorem call_takes (input : Text) (shown : List UInt8) (next : Call) :
    ∃ piece behind answer later, input = piece ++ behind ∧ Takes next piece behind answer ∧
      (reading input shown).call next = ⟨(.ok answer, reading behind later), []⟩ := by
  obtain ⟨lines, cut, rfl⟩ := Cut.exists_of_input input
  cases next with
  | line =>
    refine ⟨lines.headD [], lines.tail.flatten, .line (lines.headD []), shown,
      flatten_eq_headD_append lines, .line (firstLine_of_cut cut), ?_⟩
    unfold call
    dsimp only
    rw [reading_eq_holding cut, reading_eq_holding cut.tail, readLine_holding]
    rfl
  | question title initial =>
    rcases exists_dot_or_plain lines with ⟨front, dot, others, rfl, plain, dotted⟩ | plain
    · by_cases present : front = []
      · subst present
        have nothing : reply ([] ++ dot :: others) = [] := reply_append plain dotted others
        exact ⟨dot, others.flatten, _, _, rfl, .kept title initial (firstLine_of_cut cut) dotted,
          call_question (ask_of_reply_eq_nil cut nothing title initial shown)⟩
      · have apart := cut
        rw [List.append_cons, Cut.append_iff, List.append_nil,
          flatten_eq_headD_append others] at apart
        refine ⟨front.flatten ++ dot ++ others.headD [], others.tail.flatten, _, _, ?_,
          .replied title initial apart.1 present plain dotted (firstLine_of_cut apart.2),
          call_question (ask_ended cut present plain dotted title initial shown)⟩
        rw [List.flatten_append, List.flatten_cons, flatten_eq_headD_append others]
        simp only [List.append_assoc]
    · by_cases present : lines = []
      · subst present
        exact ⟨[], [], _, _, rfl, .silent title initial,
          call_question (ask_of_reply_eq_nil cut rfl title initial shown)⟩
      · exact ⟨lines.flatten, [], _, _, (List.append_nil _).symm,
          .unended title initial cut present plain,
          call_question (ask_unended cut present plain title initial shown)⟩

/-- Calls one after another take the input piece by piece. -/
theorem serve_serves (input : Text) (shown : List UInt8) (calls : List Call) :
    ∃ pieces answers rest later, input = pieces.flatten ++ rest ∧
      Serves rest calls pieces answers ∧
      (reading input shown).serve calls = ⟨(answers.map .ok, reading rest later), []⟩ := by
  induction calls generalizing input shown with
  | nil => exact ⟨[], [], input, shown, rfl, .nil, rfl⟩
  | cons next calls hypothesis =>
    obtain ⟨piece, behind, answer, middle, whole, takes, called⟩ := call_takes input shown next
    obtain ⟨pieces, answers, rest, later, apart, serves, served⟩ := hypothesis behind middle
    subst apart
    refine ⟨piece :: pieces, answer :: answers, rest, later, ?_, .cons takes serves, ?_⟩
    · rw [whole, List.flatten_cons, List.append_assoc]
    · unfold serve
      rw [called]
      dsimp only
      rw [served]
      rfl

/-! ## Replies that are typed -/

/-- Typed lines stand in front of any lines. -/
theorem cut_typed (typed : List TypedLine) (cut : Cut [] lines) :
    Cut [] (typed.map TypedLine.text ++ lines) :=
  Cut.append_iff.mpr ⟨TypedLine.cut_map_text typed _, cut⟩

/-- Typed lines that hold no dot are read as such lines. -/
theorem plain_typed {typed : List TypedLine} (plain : ∀ line ∈ typed, line.content ≠ ['.']) :
    ∀ line ∈ typed.map TypedLine.text, line.trimLineEnd ≠ ['.'] := by
  refine List.forall_mem_map.mpr fun line member => ?_
  rw [line.trimLineEnd_text]
  exact plain line member

/-- The contents of typed lines are read back. -/
theorem map_trimLineEnd_typed (typed : List TypedLine) :
    (typed.map TypedLine.text).map Text.trimLineEnd = typed.map TypedLine.content := by
  rw [List.map_map]
  exact List.map_congr_left fun line _ => line.trimLineEnd_text

/-- The line end behind an answer does not count. -/
theorem isYes_append_lineEnd (answer : Text) (ending : LineEnd) :
    isYes (answer ++ ending.text) =
      decide (answer.trim ∈ ["y".toList, "Y".toList, "yes".toList]) := by
  have trimmed : (answer ++ ending.text).trim = answer.trim := by
    rw [← Text.trim_trimLineEnd, Text.trimLineEnd_append_lineEnd, Text.trim_trimLineEnd]
  unfold isYes
  rw [trimmed]
  simp only [List.mem_cons, List.not_mem_nil, or_false]

/-- A dot alone is taken, and the initial text is kept. -/
theorem ask_typed_dot (title initial : Text) (shown : List UInt8) (dot : LineEnd) (rest : Text) :
    ask title initial (reading ('.' :: dot.text ++ rest) shown) =
      ⟨(.verbatim initial, reading rest (shown ++ (question title initial).bytes)), []⟩ := by
  obtain ⟨others, cut, rfl⟩ := Cut.exists_of_input rest
  have dotted := (TypedLine.dot dot).trimLineEnd_text
  have nothing : reply ([] ++ (TypedLine.dot dot).text :: others) = [] :=
    reply_append (by simp) dotted others
  exact ask_of_reply_eq_nil (cut_typed [.dot dot] cut) nothing title initial shown

/-- Lines, a dot and an answer are taken; the lines are the text and the answer tells whether to
expand it. -/
theorem ask_typed_lines (title initial : Text) (shown : List UInt8) {lines : List TypedLine}
    (present : lines ≠ []) (plain : ∀ line ∈ lines, line.content ≠ ['.']) (dot : LineEnd)
    {answer : Text} (framed : '\n' ∉ answer) (ending : LineEnd) (rest : Text) :
    ask title initial (reading (lines.flatMap TypedLine.text ++ '.' :: dot.text ++
        answer ++ ending.text ++ rest) shown) =
      ⟨(⟨answer.trim ∈ ["y".toList, "Y".toList, "yes".toList],
          Text.ofLines (lines.map TypedLine.content)⟩,
        reading rest (shown ++ (question title initial).bytes ++ expandQuestion.bytes)), []⟩ := by
  obtain ⟨others, cut, rfl⟩ := Cut.exists_of_input rest
  have answered : Cut [] ((answer ++ ending.text) :: others) := by
    refine .cons ?_ (.append_lineEnd framed ending _) cut
    cases ending <;> simp [LineEnd.text]
  have whole : Cut [] (lines.map TypedLine.text ++
      (TypedLine.dot dot).text :: (answer ++ ending.text) :: others) :=
    cut_typed lines (cut_typed [.dot dot] answered)
  have input : (lines.map TypedLine.text ++
        (TypedLine.dot dot).text :: (answer ++ ending.text) :: others).flatten =
      lines.flatMap TypedLine.text ++ '.' :: dot.text ++ answer ++ ending.text ++
        others.flatten := by
    simp [List.flatMap_def, TypedLine.text, TypedLine.dot]
  have asked := ask_ended whole (by simpa using present) (plain_typed plain)
    (TypedLine.dot dot).trimLineEnd_text title initial shown
  rw [input, map_trimLineEnd_typed, List.headD_cons, isYes_append_lineEnd] at asked
  exact asked

/-- When the input ends before a dot, the lines up to there are the text, not to be expanded; the
last of them may lack its line end. -/
theorem ask_typed_unended (title initial : Text) (shown : List UInt8) {lines : List TypedLine}
    (plain : ∀ line ∈ lines, line.content ≠ ['.']) {last : Text} (framed : '\n' ∉ last)
    (bare : last.getLast? ≠ some '\r') (other : last ≠ ['.']) :
    let contents := lines.map TypedLine.content ++ if last.isEmpty then [] else [last]
    ∃ later, ask title initial (reading (lines.flatMap TypedLine.text ++ last) shown) =
      ⟨(if contents.isEmpty then .verbatim initial else ⟨false, Text.ofLines contents⟩,
        reading [] later), []⟩ := by
  intro contents
  let read := lines.map TypedLine.text ++ if last.isEmpty then [] else [last]
  have input : read.flatten = lines.flatMap TypedLine.text ++ last := by
    cases last <;> simp [read, List.flatMap_def]
  have trimmed : read.map Text.trimLineEnd = contents := by
    have kept : last.trimLineEnd = last := Text.trimLineEnd_eq_self framed bare
    rw [List.map_append, map_trimLineEnd_typed]
    cases last <;> simp_all [contents]
  have cut : Cut [] read := by
    apply cut_typed
    cases last with
    | nil => exact .nil
    | cons symbol last => exact .cons (List.cons_ne_nil _ _) (.last framed) .nil
  have unended : ∀ line ∈ read, line.trimLineEnd ≠ ['.'] := by
    intro line member dotted
    have among : ['.'] ∈ contents := by
      rw [← trimmed, ← dotted]
      exact List.mem_map_of_mem member
    rcases List.mem_append.mp among with typed | alone
    · obtain ⟨line, member, same⟩ := List.mem_map.mp typed
      exact plain line member same
    · cases last with
      | nil => cases alone
      | cons symbol last => exact other (List.mem_singleton.mp alone).symm
  rw [← input]
  by_cases present : read = []
  · have nothing : contents.isEmpty := by
      rw [← trimmed, present]
      rfl
    rw [if_pos nothing, present]
    exact ⟨_, ask_of_reply_eq_nil .nil rfl title initial shown⟩
  · have something : ¬ contents.isEmpty := by
      rw [← trimmed]
      simpa using present
    rw [if_neg something, ← trimmed]
    exact ⟨_, ask_unended cut present unended title initial shown⟩

/-- What is typed for a question is its reply, and nothing else is taken: without lines the initial
text is kept, and otherwise the lines are the text that the answer tells to expand or not. A reply
that the input ends is not expanded. So calls one after another take the input piece by piece. -/
theorem ask_frames_reply (title initial : Text) (shown : List UInt8) :
    (∀ (dot : LineEnd) (rest : Text),
      ask title initial (reading ('.' :: dot.text ++ rest) shown) =
        ⟨(.verbatim initial, reading rest (shown ++ (question title initial).bytes)), []⟩) ∧
    (∀ (lines : List TypedLine) (dot : LineEnd) (answer : Text) (ending : LineEnd) (rest : Text),
      lines ≠ [] → (∀ line ∈ lines, line.content ≠ ['.']) → '\n' ∉ answer →
      ask title initial (reading (lines.flatMap TypedLine.text ++ '.' :: dot.text ++
          answer ++ ending.text ++ rest) shown) =
        ⟨(⟨answer.trim ∈ ["y".toList, "Y".toList, "yes".toList],
            Text.ofLines (lines.map TypedLine.content)⟩,
          reading rest (shown ++ (question title initial).bytes ++ expandQuestion.bytes)), []⟩) ∧
    (∀ (lines : List TypedLine) (last : Text), (∀ line ∈ lines, line.content ≠ ['.']) →
      '\n' ∉ last → last.getLast? ≠ some '\r' → last ≠ ['.'] →
      let contents := lines.map TypedLine.content ++ if last.isEmpty then [] else [last]
      ∃ later, ask title initial (reading (lines.flatMap TypedLine.text ++ last) shown) =
        ⟨(if contents.isEmpty then .verbatim initial else ⟨false, Text.ofLines contents⟩,
          reading [] later), []⟩) ∧
    ∀ (input : Text) (calls : List Call), ∃ pieces answers rest later,
      input = pieces.flatten ++ rest ∧ Serves rest calls pieces answers ∧
      (reading input shown).serve calls = ⟨(answers.map .ok, reading rest later), []⟩ := by
  refine ⟨ask_typed_dot title initial shown, ?_, ?_, fun input => serve_serves input shown⟩
  · intro lines dot answer ending rest present plain framed
    exact ask_typed_lines title initial shown present plain dot framed ending rest
  · intro lines last plain framed bare other
    exact ask_typed_unended title initial shown plain framed bare other

/-- Whoever shares the terminal reads the line behind the answer. -/
example :
    let input := Text.bytes "one\r\n\n.\n yes\nnext\n".toList
    ((ofInput input true).serve [.question [] [], .line]).value.1.map Except.toOption =
      [some (.reply ⟨true, "one\n".toList⟩), some (.line "next\n".toList)] := by
  decide +kernel

end Terminal
end TextMacros
