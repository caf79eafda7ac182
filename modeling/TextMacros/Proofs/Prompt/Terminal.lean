import TextMacros.Prompt.Terminal

/-!
# Reading from a terminal

A terminal with a text as its input holds lines of text (`Terminal.Holds`). As long as everything
can be shown, a question takes a definite part of them: the lines of the reply, the line that ends
it, and one more line when the reply has lines, since only then is there something to expand
(`Terminal.replySize`). A conversation is a sequence of questions and messages. What it leaves is
what stands behind the lines that its questions took (`Terminal.Conversation.holds`).
-/

namespace TextMacros

/-! ## Encoded lines -/

namespace Text

/-- Every byte of a character is its number, or is one that no ASCII character has. -/
theorem toNat_of_mem_utf8EncodeChar {symbol : Char} {byte : UInt8}
    (member : byte ∈ String.utf8EncodeChar symbol) :
    byte.toNat = symbol.toNat ∨ 128 ≤ byte.toNat := by
  have number : symbol.val.toNat = symbol.toNat := rfl
  unfold String.utf8EncodeChar at member
  dsimp only at member
  rw [number] at member
  by_cases ascii : symbol.toNat ≤ 127
  · rw [if_pos ascii, List.mem_singleton] at member
    rw [member, UInt8.toNat_ofNat']
    omega
  · right
    rw [if_neg ascii] at member
    split at member
    · simp only [List.mem_cons, List.not_mem_nil, or_false] at member
      rcases member with rfl | rfl <;> rw [UInt8.toNat_ofNat'] <;> omega
    · split at member
      · simp only [List.mem_cons, List.not_mem_nil, or_false] at member
        rcases member with rfl | rfl | rfl <;> rw [UInt8.toNat_ofNat'] <;> omega
      · simp only [List.mem_cons, List.not_mem_nil, or_false] at member
        rcases member with rfl | rfl | rfl | rfl <;> rw [UInt8.toNat_ofNat'] <;> omega

/-- The byte of a line feed is in no other character. -/
theorem eq_lineFeed_of_mem {symbol : Char} (member : 10 ∈ String.utf8EncodeChar symbol) :
    symbol = '\n' := by
  have number : (10 : UInt8).toNat = ('\n' : Char).toNat := rfl
  rcases toNat_of_mem_utf8EncodeChar member with same | large
  · exact Char.toNat_inj.mp (same.symm.trans number)
  · exact absurd large (by decide)

/-- Texts with the same bytes are the same. -/
theorem eq_of_bytes_eq (text other : Text) (same : text.bytes = other.bytes) : text = other := by
  have decoded := congrArg ofBytes? same
  rw [ofBytes?_bytes, ofBytes?_bytes] at decoded
  exact Option.some.inj decoded

end Text

/-- Bytes without a line feed belong to the first of the lines behind them. -/
theorem encodedLines_append {front behind : List UInt8} (present : front ≠ [])
    (plain : 10 ∉ front) :
    encodedLines (front ++ behind) =
      (front ++ (encodedLines behind).headD []) :: (encodedLines behind).tail := by
  induction front with
  | nil => exact absurd rfl present
  | cons byte rest hypothesis =>
    have other : byte ≠ 10 := fun same => plain (same ▸ List.mem_cons_self)
    change consByte byte (encodedLines (rest ++ behind)) = _
    unfold consByte
    rw [if_neg other]
    by_cases last : rest = []
    · subst last
      rw [List.nil_append]
      cases encodedLines behind <;> rfl
    · rw [hypothesis last fun later => plain (List.mem_cons_of_mem _ later)]
      rfl

/-- The encoded lines of an encoded text are encoded texts. -/
theorem exists_encodedLines (text : Text) :
    ∃ lines : List Text, encodedLines text.bytes = lines.map Text.bytes := by
  induction text with
  | nil => exact ⟨[], rfl⟩
  | cons symbol rest hypothesis =>
    obtain ⟨lines, encoded⟩ := hypothesis
    have apart : Text.bytes (symbol :: rest) = String.utf8EncodeChar symbol ++ Text.bytes rest :=
      rfl
    by_cases ends : symbol = '\n'
    · subst ends
      refine ⟨['\n'] :: lines, ?_⟩
      change consByte 10 (encodedLines (Text.bytes rest)) = _
      rw [encoded]
      rfl
    · have plain : 10 ∉ String.utf8EncodeChar symbol :=
        fun member => ends (Text.eq_lineFeed_of_mem member)
      have present : String.utf8EncodeChar symbol ≠ [] := by
        intro empty
        have length := String.length_utf8EncodeChar symbol
        have positive := symbol.utf8Size_pos
        rw [empty, List.length_nil] at length
        omega
      refine ⟨(symbol :: lines.headD []) :: lines.tail, ?_⟩
      rw [apart, encodedLines_append present plain, encoded]
      cases lines <;> rfl

namespace Terminal

/-! ## What is taken -/

/-- The terminal shows everything, and the lines that it will read are texts. -/
structure Holds (terminal : Terminal) (ahead : List Text) : Prop where
  /-- The lines that have not been read. -/
  input : terminal.input = ahead.map Text.bytes
  /-- Whatever is written is taken. -/
  shown : terminal.output.capacity = none

/-- The lines of a reply: those in front of the line that holds only a dot. -/
def reply (ahead : List Text) : List Text :=
  ahead.takeWhile fun line => line.trimLineEnd ≠ ['.']

/-- The number of lines that a question takes: those of the reply, the one that ends it and, when
the reply has lines, the answer behind. -/
def replySize (ahead : List Text) : Nat :=
  (reply ahead).length + if (reply ahead).isEmpty then 1 else 2

/-- The number of lines that a question takes, if there is someone to answer. -/
def takenSize (terminal : Terminal) (ahead : List Text) : Nat :=
  if terminal.interactive then replySize ahead else 0

/-- The input of a terminal is cut into lines of text. -/
theorem exists_holds_ofInput (input : Text) (interactive : Bool) :
    ∃ ahead, (Terminal.ofInput input.bytes interactive).Holds ahead := by
  obtain ⟨lines, encoded⟩ := exists_encodedLines input
  exact ⟨lines, encoded, rfl⟩

variable {terminal start final : Terminal} {ahead : List Text} {answers others : List (List Text)}

/-- There is one list of lines that a terminal holds. -/
theorem Holds.unique {others : List Text} (holds : terminal.Holds ahead)
    (again : terminal.Holds others) : ahead = others := by
  have encoded : ahead.map Text.bytes = others.map Text.bytes := holds.input.symm.trans again.input
  exact (List.map_inj_right Text.eq_of_bytes_eq).mp encoded

/-- A terminal that shows everything, with the lines that have not been read and what has been
shown. -/
def holding (ahead : List Text) (shown : List UInt8) (interactive : Bool) : Terminal :=
  ⟨ahead.map Text.bytes, ⟨shown, none⟩, interactive⟩

theorem holds_holding (ahead : List Text) (shown : List UInt8) (interactive : Bool) :
    (holding ahead shown interactive).Holds ahead := ⟨rfl, rfl⟩

/-- What a terminal has shown is all that its lines leave open. -/
theorem Holds.exists_eq (holds : terminal.Holds ahead) :
    ∃ shown interactive, terminal = holding ahead shown interactive := by
  obtain ⟨input, ⟨bytes, capacity⟩, interactive⟩ := terminal
  obtain ⟨unread, all⟩ := holds
  dsimp only at unread all
  subst unread all
  exact ⟨bytes, interactive, rfl⟩

/-- The lines of a reply are taken with the line that ends it. -/
theorem replyLines_map (ahead : List Text) :
    replyLines (ahead.map Text.bytes) =
      (.ok ((reply ahead).map Text.trimLineEnd),
        (ahead.drop ((reply ahead).length + 1)).map Text.bytes) := by
  induction ahead with
  | nil => rfl
  | cons line rest hypothesis =>
    rw [List.map_cons, replyLines, Text.ofBytes?_bytes]
    dsimp only
    by_cases ends : line.trimLineEnd = ['.']
    · have nothing : reply (line :: rest) = [] := by
        unfold reply
        rw [List.takeWhile_cons_of_neg (by simpa using ends)]
      rw [if_pos ends, nothing]
      rfl
    · have more : reply (line :: rest) = line :: reply rest := by
        unfold reply
        rw [List.takeWhile_cons_of_pos (by simpa using ends)]
      rw [if_neg ends, more, hypothesis]
      rfl

section Holding

variable (ahead : List Text) (shown : List UInt8) (interactive : Bool)

/-- Everything that is written is shown, and nothing is read. -/
theorem write_holding (text : Text) : (holding ahead shown interactive).write text =
    (.ok (), holding ahead (shown ++ text.bytes) interactive) := rfl

/-- A line is read; there is nothing to be read behind the last. -/
theorem readLine_holding : (holding ahead shown interactive).readLine =
    (.ok (ahead.headD []), holding ahead.tail shown interactive) := by
  unfold readLine holding
  cases ahead with
  | nil => rfl
  | cons line rest =>
    simp only [List.map_cons, Text.ofBytes?_bytes]
    rfl

/-- Whether to expand is told by the line that is read. -/
theorem confirm_holding : (holding ahead shown interactive).confirm =
    (.ok (isYes (ahead.headD [])),
      holding ahead.tail (shown ++ expandQuestion.bytes) interactive) := by
  unfold confirm
  rw [write_holding]
  dsimp only
  rw [readLine_holding]
  rfl

/-- A reply without lines keeps the initial text, and one with lines is the text of these lines,
which the answer behind them tells to expand or not. The lines of the reply, the line that ends it
and the answer are taken. -/
theorem readReply_holding (title initial : Text) :
    (holding ahead shown interactive).readReply title initial =
      (.ok (if (reply ahead).isEmpty then .verbatim initial else
          ⟨isYes ((ahead.drop ((reply ahead).length + 1)).headD []),
            Text.ofLines ((reply ahead).map Text.trimLineEnd)⟩),
        holding (ahead.drop (replySize ahead)) (shown ++ (question title initial).bytes ++
          if (reply ahead).isEmpty then [] else expandQuestion.bytes) interactive) := by
  have input : (holding ahead (shown ++ (question title initial).bytes) interactive).input =
      ahead.map Text.bytes := rfl
  unfold readReply replySize
  rw [write_holding]
  dsimp only
  rw [input, replyLines_map]
  cases lines : reply ahead with
  | nil =>
    rw [List.isEmpty_nil, if_pos rfl, if_pos rfl, if_pos rfl, List.append_nil]
    rfl
  | cons first others =>
    let asked := holding (ahead.drop ((first :: others).length + 1))
      (shown ++ (question title initial).bytes) interactive
    have confirmed := confirm_holding (ahead.drop ((first :: others).length + 1))
      (shown ++ (question title initial).bytes) interactive
    rw [List.tail_drop] at confirmed
    change (Except.map _ asked.confirm.1, asked.confirm.2) = _
    rw [confirmed]
    rfl

end Holding

/-- A line is read; there is nothing to be read behind the last. -/
theorem Holds.readLine (holds : terminal.Holds ahead) :
    ∃ later, terminal.readLine = (.ok (ahead.headD []), later) ∧ later.Holds ahead.tail := by
  obtain ⟨shown, interactive, rfl⟩ := holds.exists_eq
  exact ⟨_, readLine_holding ahead shown interactive, holds_holding ahead.tail shown interactive⟩

/-- A question takes its lines. -/
theorem Holds.ask (holds : terminal.Holds ahead) (title initial : Text) :
    (Terminal.ask title initial terminal).value.2.Holds
      (ahead.drop (terminal.takenSize ahead)) := by
  obtain ⟨shown, interactive, rfl⟩ := holds.exists_eq
  unfold Terminal.ask takenSize
  split
  · rw [readReply_holding]
    exact holds_holding _ _ _
  · exact holds

/-- A message takes nothing. -/
theorem Holds.notify (holds : terminal.Holds ahead) (title body : Text) :
    (Terminal.notify title body terminal).value.Holds ahead := by
  obtain ⟨shown, interactive, rfl⟩ := holds.exists_eq
  unfold Terminal.notify
  rw [write_holding]
  exact holds_holding _ _ _

/-! ## Conversations -/

/-- A sequence of questions and messages, told by the lines that each question takes. -/
inductive Conversation (start : Terminal) : List (List Text) → Terminal → Prop where
  /-- Nothing is asked or told. -/
  | silence : Conversation start [] start
  /-- At last a question is asked. -/
  | question {answers : List (List Text)} {terminal : Terminal} {ahead : List Text}
    (before : Conversation start answers terminal) (holds : terminal.Holds ahead)
    (title initial : Text) :
    Conversation start (answers ++ [ahead.take (terminal.takenSize ahead)])
      (Terminal.ask title initial terminal).value.2
  /-- At last a message is shown. -/
  | message {answers : List (List Text)} {terminal : Terminal}
    (before : Conversation start answers terminal) (title body : Text) :
    Conversation start answers (Terminal.notify title body terminal).value

/-- A conversation can go on with another one. -/
theorem Conversation.trans {middle : Terminal} (first : Conversation start answers middle)
    (second : Conversation middle others final) : Conversation start (answers ++ others) final := by
  induction second with
  | silence =>
    rw [List.append_nil]
    exact first
  | question before holds title initial hypothesis =>
    rw [← List.append_assoc]
    exact .question hypothesis holds title initial
  | message before title body hypothesis => exact .message hypothesis title body

/-- What a conversation leaves is what stands behind the lines that its questions took. -/
theorem Conversation.holds (conversation : Conversation start answers final)
    (holds : start.Holds ahead) : ∃ rest, ahead = answers.flatten ++ rest ∧ final.Holds rest := by
  induction conversation with
  | silence => exact ⟨ahead, rfl, holds⟩
  | @question answers terminal found before known title initial hypothesis =>
    obtain ⟨rest, split_off, left⟩ := hypothesis
    have same : found = rest := known.unique left
    refine ⟨rest.drop (terminal.takenSize rest), ?_, left.ask title initial⟩
    rw [split_off, same, List.flatten_append, List.flatten_singleton, List.append_assoc,
      List.take_append_drop]
  | message before title body hypothesis =>
    obtain ⟨rest, split_off, left⟩ := hypothesis
    exact ⟨rest, split_off, left.notify title body⟩

end Terminal
end TextMacros
