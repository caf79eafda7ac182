import TextMacros.Span

/-!
# Spans of characters

The span of a character is found again when the character is pointed at by the bytes before it. At
the end of a text there is no character, and the last one stands for it. Both are told by the
character and its position, so they move with the text that holds the character.

A span marks a piece of a text when it begins and ends where the piece does (`Span.Marks`). Such a
span is inside the text, between two boundaries of it.
-/

namespace TextMacros
namespace Span

/-- A span in a text that stands behind some more bytes. -/
def shift (bytes : Nat) (span : Span) : Span := ⟨bytes + span.offset, span.length⟩

@[simp]
theorem shift_zero (span : Span) : span.shift 0 = span := by
  simp [shift]

/-- The last character of a text ends no sooner than any other begins. -/
theorem getLast?_of_split {text front rest : Text} {symbol : Char}
    (split : text = front ++ symbol :: rest) :
    ∃ last, text.getLast? = some last ∧ front.size + last.utf8Size ≤ text.size := by
  rcases List.eq_nil_or_concat rest with rfl | ⟨middle, last, rfl⟩
  · refine ⟨symbol, ?_, ?_⟩
    · rw [split, List.getLast?_concat]
    · rw [split, Text.size_append]
      exact Nat.le_refl _
  · have whole : text = (front ++ symbol :: middle) ++ [last] := by
      rw [split, List.concat_eq_append, List.append_assoc, List.cons_append]
    refine ⟨last, ?_, ?_⟩
    · rw [whole, List.getLast?_concat]
    · rw [whole]
      simp only [Text.size_append, Text.size_cons, Text.size_nil]
      omega

/-- The span of a character, from the bytes before it. -/
theorem ofSymbolAt_of_split {text front rest : Text} {symbol : Char}
    (split : text = front ++ symbol :: rest) :
    ofSymbolAt text front.size = ⟨front.size, symbol.utf8Size⟩ := by
  obtain ⟨last, final, room⟩ := getLast?_of_split split
  have bound : front.size ≤ text.size - last.utf8Size := by omega
  have dropped : text.dropBytes? front.size = some (symbol :: rest) := by
    rw [split]
    exact Text.dropBytes?_size front (symbol :: rest)
  unfold ofSymbolAt
  rw [final]
  dsimp only
  rw [Nat.min_eq_left bound, dropped]

/-- At the end of a text, or behind it, the last character is marked. -/
theorem ofSymbolAt_of_end {text front : Text} {last : Char} {offset : Nat}
    (split : text = front ++ [last]) (behind : front.size ≤ offset) :
    ofSymbolAt text offset = ⟨front.size, last.utf8Size⟩ := by
  have final : text.getLast? = some last := by rw [split, List.getLast?_concat]
  have start : min offset (text.size - last.utf8Size) = front.size := by
    rw [split]
    simp
    omega
  have dropped : text.dropBytes? front.size = some [last] := by
    rw [split]
    exact Text.dropBytes?_size front [last]
  unfold ofSymbolAt
  rw [final]
  dsimp only
  rw [start, dropped]

/-- A span that marks a piece of a text. Only in the empty text is the piece empty. -/
inductive Marks (span : Span) (text : Text) : Prop
  /-- The piece stands between two others. -/
  | piece (front piece back : Text) (split : text = front ++ piece ++ back)
    (measured : span = ⟨front.size, piece.size⟩) (visible : piece = [] → text = [])

/-- The span from the beginning of a text to its end marks the text. -/
theorem marks_whole (text : Text) : Marks ⟨0, text.size⟩ text :=
  .piece [] text [] (by simp) rfl id

/-- The span of the character at a place of a text, or of the last one at the end, is marked. -/
theorem marks_ofSymbolAt {text front rest : Text} (split : text = front ++ rest) :
    (ofSymbolAt text front.size).Marks text := by
  cases rest with
  | cons symbol rest =>
    rw [ofSymbolAt_of_split split]
    exact .piece front [symbol] rest (by simp [split]) (by simp) (by simp)
  | nil =>
    rw [List.append_nil] at split
    rcases List.eq_nil_or_concat front with rfl | ⟨start, last, rfl⟩
    · rw [split]
      exact .piece [] [] [] rfl rfl fun _ => rfl
    · rw [List.concat_eq_append] at split ⊢
      have behind : Text.size start ≤ Text.size (start ++ [last]) := by simp
      rw [ofSymbolAt_of_end split behind]
      exact .piece start [last] [] (by simp [split]) (by simp) (by simp)

/-- A span that marks a piece ends inside the text. Both of its ends fall between two characters.
It is empty in the empty text alone. -/
theorem Marks.inside {span : Span} {text : Text} (marks : span.Marks text) :
    span.stop ≤ text.size ∧ (text.dropBytes? span.offset).isSome ∧
      (text.dropBytes? span.stop).isSome ∧ (text ≠ [] → 0 < span.length) ∧
      (text = [] → span = ⟨0, 0⟩) := by
  obtain ⟨front, piece, back, rfl, rfl, visible⟩ := marks
  have stop : stop ⟨front.size, piece.size⟩ = (front ++ piece).size := by simp [Span.stop]
  refine ⟨?_, ?_, ?_, fun some => ?_, fun empty => ?_⟩
  · rw [stop, Text.size_append (front ++ piece) back]
    exact Nat.le_add_right _ _
  · rw [List.append_assoc, Text.dropBytes?_size]
    rfl
  · rw [stop, Text.dropBytes?_size]
    rfl
  · have long : piece.size ≠ 0 := fun none => some (visible (Text.size_eq_zero.mp none))
    exact Nat.pos_of_ne_zero long
  · simp only [List.append_eq_nil_iff] at empty
    rw [empty.1.1, empty.1.2]
    rfl

end Span
end TextMacros
