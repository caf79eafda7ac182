import TextMacros.Proofs.Line
import TextMacros.Proofs.Prompt.Terminal

/-!
# Input as it is typed

A reader takes a line of its input with the line feed that ends it; only a line that nothing stands
behind may lack one (`FirstLine`). An input is cut into such lines in one go (`Cut`), and the lines
that a terminal holds are those of the cut. A typed line is the content that is meant, followed by
one of two line ends: trimming the line gives the content back.
-/

namespace TextMacros

/-! ## The first line -/

/-- A line is read from the front of an input, of which some text is left behind. -/
inductive FirstLine : (line behind : Text) → Prop where
  /-- The line ends with the first line feed. -/
  | ended {content : Text} (framed : '\n' ∉ content) (behind : Text) :
    FirstLine (content ++ ['\n']) behind
  /-- The line ends with the input. -/
  | last {content : Text} (framed : '\n' ∉ content) : FirstLine content []

/-- A character in front of a line belongs to it. -/
theorem FirstLine.cons {symbol : Char} {line behind : Text} (first : FirstLine line behind)
    (other : symbol ≠ '\n') : FirstLine (symbol :: line) behind := by
  have longer : ∀ content : Text, '\n' ∉ content → '\n' ∉ symbol :: content :=
    fun content framed => List.not_mem_cons_of_ne_of_not_mem other.symm framed
  cases first with
  | @ended content framed => exact .ended (longer content framed) behind
  | last framed => exact .last (longer line framed)

namespace Text

/-- The byte of a line feed is in no text without one. -/
theorem not_mem_bytes {text : Text} (framed : '\n' ∉ text) : 10 ∉ text.bytes := by
  intro member
  obtain ⟨symbol, inside, encoded⟩ := List.mem_flatMap.mp member
  exact framed (eq_lineFeed_of_mem encoded ▸ inside)

/-- Only the empty text has no bytes. -/
theorem bytes_ne_nil {text : Text} (present : text ≠ []) : text.bytes ≠ [] := by
  intro empty
  have size : text.size = 0 := by rw [← length_bytes, empty, List.length_nil]
  exact present (size_eq_zero.mp size)

end Text

/-- A line that is read is the first of the encoded lines. -/
theorem FirstLine.encodedLines_eq {line behind : Text} (first : FirstLine line behind)
    (present : line ≠ []) :
    encodedLines (line ++ behind).bytes = line.bytes :: encodedLines behind.bytes := by
  cases first with
  | @ended content framed =>
    have feed : encodedLines (10 :: behind.bytes) = [10] :: encodedLines behind.bytes := rfl
    have apart : (content ++ ['\n'] ++ behind).bytes = content.bytes ++ 10 :: behind.bytes := by
      rw [List.append_assoc, Text.bytes_append]
      rfl
    have whole : (content ++ ['\n']).bytes = content.bytes ++ [10] := Text.bytes_append _ _
    rw [apart, whole]
    by_cases empty : content = []
    · subst empty
      exact feed
    · rw [encodedLines_append (Text.bytes_ne_nil empty) (Text.not_mem_bytes framed), feed]
      rfl
  | last framed =>
    have whole : encodedLines (line.bytes ++ []) = (line.bytes ++ []) :: [] :=
      encodedLines_append (Text.bytes_ne_nil present) (Text.not_mem_bytes framed)
    rw [List.append_nil] at whole ⊢
    exact whole

/-! ## All lines -/

/-- Lines that are read one after another, and the text that is left behind the last. -/
inductive Cut (behind : Text) : List Text → Prop where
  /-- No line is read. -/
  | nil : Cut behind []
  /-- A line is read, and then others. -/
  | cons {line : Text} {lines : List Text} (present : line ≠ [])
    (first : FirstLine line (lines.flatten ++ behind)) (cut : Cut behind lines) :
    Cut behind (line :: lines)

namespace Cut

variable {behind : Text} {lines others : List Text}

/-- The lines that are read are the first of the encoded lines. -/
theorem encodedLines_eq (cut : Cut behind lines) :
    encodedLines (Text.bytes (lines.flatten ++ behind)) =
      lines.map Text.bytes ++ encodedLines behind.bytes := by
  induction cut with
  | nil => rfl
  | cons present first cut hypothesis =>
    rw [List.flatten_cons, List.append_assoc, first.encodedLines_eq present, hypothesis]
    rfl

/-- Lines are read, and then others, when both are read together. -/
theorem append_iff :
    Cut behind (lines ++ others) ↔ Cut (others.flatten ++ behind) lines ∧ Cut behind others := by
  induction lines with
  | nil => exact ⟨fun cut => ⟨.nil, cut⟩, fun ⟨_, cut⟩ => cut⟩
  | cons line lines hypothesis =>
    rw [List.cons_append]
    constructor
    · intro cut
      cases cut with
      | cons present first cut =>
        obtain ⟨front, back⟩ := hypothesis.mp cut
        rw [List.flatten_append, List.append_assoc] at first
        exact ⟨.cons present first front, back⟩
    · rintro ⟨front, back⟩
      cases front with
      | cons present first front =>
        rw [← List.append_assoc, ← List.flatten_append] at first
        exact .cons present first (hypothesis.mpr ⟨front, back⟩)

/-- The lines behind some lines are cut as they were. -/
theorem drop (cut : Cut behind lines) (count : Nat) : Cut behind (lines.drop count) := by
  rw [← List.take_append_drop count lines] at cut
  exact (append_iff.mp cut).2

/-- The lines behind the first are cut as they were. -/
theorem tail (cut : Cut behind lines) : Cut behind lines.tail := by
  rw [← List.drop_one]
  exact cut.drop 1

/-- Any input is cut into lines. -/
theorem exists_of_input (input : Text) : ∃ lines, Cut [] lines ∧ lines.flatten = input := by
  induction input with
  | nil => exact ⟨[], .nil, rfl⟩
  | cons symbol rest hypothesis =>
    obtain ⟨lines, cut, whole⟩ := hypothesis
    by_cases feed : symbol = '\n'
    · have first : FirstLine ['\n'] (lines.flatten ++ []) :=
        .ended List.not_mem_nil (lines.flatten ++ [])
      exact ⟨['\n'] :: lines, .cons (List.cons_ne_nil _ _) first cut, by simp [whole, feed]⟩
    · cases cut with
      | nil =>
        have first : FirstLine [symbol] [] := .last (by simpa using Ne.symm feed)
        exact ⟨[[symbol]], .cons (List.cons_ne_nil _ _) first .nil, by simp [← whole]⟩
      | @cons line lines _ first cut =>
        exact ⟨(symbol :: line) :: lines, .cons (List.cons_ne_nil _ _) (first.cons feed) cut,
          by simp [← whole]⟩

end Cut

/-! ## Typed lines -/

/-- What ends a line as it is typed. -/
inductive LineEnd where
  /-- A line feed. -/
  | feed
  /-- A carriage return and a line feed. -/
  | returnFeed
deriving DecidableEq

/-- The characters of a line end. -/
def LineEnd.text : LineEnd → Text
  | feed => ['\n']
  | returnFeed => ['\r', '\n']

/-- A line that was typed. -/
structure TypedLine where
  /-- What was meant. -/
  content : Text
  /-- What was typed behind it. -/
  ending : LineEnd
  /-- The content is within one line. -/
  framed : '\n' ∉ content
  /-- A carriage return would be taken for a part of the line end. -/
  bare : content.getLast? ≠ some '\r'
deriving DecidableEq

/-- The characters of a typed line. -/
def TypedLine.text (line : TypedLine) : Text := line.content ++ line.ending.text

/-- The line with the dot, as it is typed. -/
def TypedLine.dot (ending : LineEnd) : TypedLine := ⟨['.'], ending, by decide, by decide⟩

/-- What is typed up to a line end is read as a line. -/
theorem FirstLine.append_lineEnd {content : Text} (framed : '\n' ∉ content) (ending : LineEnd)
    (behind : Text) : FirstLine (content ++ ending.text) behind := by
  cases ending with
  | feed => exact .ended framed behind
  | returnFeed =>
    have longer : '\n' ∉ content ++ ['\r'] := by simpa using framed
    have first : FirstLine (content ++ ['\r'] ++ ['\n']) behind := .ended longer behind
    rw [List.append_assoc] at first
    exact first

namespace Text

/-- A line without a line end is not changed when its line end is trimmed. -/
theorem trimLineEnd_eq_self {content : Text} (framed : '\n' ∉ content)
    (bare : content.getLast? ≠ some '\r') : content.trimLineEnd = content := by
  rcases List.eq_nil_or_concat content with rfl | ⟨front, last, rfl⟩
  · rfl
  · rw [List.concat_eq_append] at framed bare ⊢
    have no_feed : last ≠ '\n' := fun same => framed (by simp [same])
    have no_return : last ≠ '\r' := fun same => bare (by simp [same])
    simp [trimLineEnd, trimEndBy, no_feed, no_return]

/-- A line end is trimmed with what it ends. -/
theorem trimLineEnd_append_lineEnd (content : Text) (ending : LineEnd) :
    (content ++ ending.text).trimLineEnd = content.trimLineEnd := by
  apply trimEndBy_append
  cases ending <;> simp [LineEnd.text]

end Text

namespace TypedLine

/-- The content of a typed line is read back. -/
theorem trimLineEnd_text (line : TypedLine) : line.text.trimLineEnd = line.content := by
  rw [text, Text.trimLineEnd_append_lineEnd, Text.trimLineEnd_eq_self line.framed line.bare]

/-- A typed line is not empty. -/
theorem text_ne_nil (line : TypedLine) : line.text ≠ [] := by
  cases shape : line.ending <;> simp [text, LineEnd.text, shape]

/-- Typed lines are read one after another. -/
theorem cut_map_text (lines : List TypedLine) (behind : Text) : Cut behind (lines.map text) := by
  induction lines with
  | nil => exact .nil
  | cons line lines hypothesis =>
    exact .cons line.text_ne_nil (.append_lineEnd line.framed line.ending _) hypothesis

end TypedLine
end TextMacros
