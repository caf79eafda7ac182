import TextMacros.Text

/-!
# Spans

A span marks a piece of a text by its position and length in bytes.
-/

namespace TextMacros

/-- A piece of a text. -/
structure Span where
  /-- Bytes before the piece. -/
  offset : Nat
  /-- Bytes of the piece. -/
  length : Nat
deriving DecidableEq, Repr

namespace Span

/-- The position behind the span. -/
def stop (span : Span) : Nat := span.offset + span.length

/-- The span between two positions. It is never empty: at one and the same position it has length
one. -/
def between (start stop : Nat) : Span := ⟨start, max stop (start + 1) - start⟩

/-- The span of the character at a position. A position at or behind the end stands for the last
character, so the span stays inside the text; the empty text has only the empty span. -/
def ofSymbolAt (text : Text) (offset : Nat) : Span :=
  match text.getLast? with
  | none => ⟨0, 0⟩
  | some last =>
    let start := min offset (text.size - last.utf8Size)
    match text.dropBytes? start with
    | some (symbol :: _) => ⟨start, symbol.utf8Size⟩
    | _ => ⟨start, 1⟩

end Span
end TextMacros
