/-!
# Texts

A text is a list of characters. Positions in a text are counted in the bytes of its UTF-8
encoding, so its size is a measure on characters: additive over concatenation, and zero only for
the empty text. A position is a boundary of a text when it falls between two of its characters;
`Text.dropBytes?` succeeds exactly at the boundaries.
-/

namespace TextMacros

/-- A sequence of characters. -/
abbrev Text := List Char

namespace Text

/-- The text as a string, for messages. -/
def string (text : Text) : String := String.ofList text

/-- Number of bytes of the UTF-8 encoding. -/
def size : Text → Nat
  | [] => 0
  | symbol :: rest => symbol.utf8Size + size rest

@[simp] theorem size_nil : size [] = 0 := rfl

@[simp] theorem size_cons (symbol : Char) (rest : Text) :
    size (symbol :: rest) = symbol.utf8Size + size rest := rfl

@[simp] theorem size_append (first second : Text) :
    size (first ++ second) = size first + size second := by
  induction first with
  | nil => simp
  | cons symbol first hypothesis =>
    rw [List.cons_append, size_cons, size_cons, hypothesis, Nat.add_assoc]

/-- Only the empty text has size zero. -/
theorem size_eq_zero {text : Text} : size text = 0 ↔ text = [] := by
  cases text with
  | nil => simp
  | cons symbol rest =>
    have := symbol.utf8Size_pos
    simp
    omega

/-- The text after its first `bytes` bytes, when they end between two characters. -/
def dropBytes? : Nat → Text → Option Text
  | 0, text => some text
  | _ + 1, [] => none
  | bytes + 1, symbol :: rest =>
    if symbol.utf8Size ≤ bytes + 1 then dropBytes? (bytes + 1 - symbol.utf8Size) rest else none

/-- Dropping the bytes of a front part leaves the other part. -/
theorem dropBytes?_size (front rest : Text) :
    dropBytes? (size front) (front ++ rest) = some rest := by
  induction front with
  | nil => simp [dropBytes?]
  | cons symbol front hypothesis =>
    have positive := symbol.utf8Size_pos
    obtain ⟨bytes, split⟩ : ∃ bytes, size (symbol :: front) = bytes + 1 :=
      ⟨size (symbol :: front) - 1, by simp; omega⟩
    rw [split, List.cons_append, dropBytes?]
    have fits : symbol.utf8Size ≤ bytes + 1 := by rw [← split]; simp
    rw [if_pos fits, ← split]
    simpa using hypothesis

/-- The texts in order, with a separator between each two. -/
def join (separator : Text) (texts : List Text) : Text := separator.intercalate texts

/-- The parts of a text before and after the first occurrence of a pattern. -/
def splitOnce? (text pattern : Text) : Option (Text × Text) :=
  if pattern.isPrefixOf text then
    some ([], text.drop pattern.length)
  else
    match text with
    | [] => none
    | symbol :: rest =>
      (splitOnce? rest pattern).map fun (before, after) => (symbol :: before, after)

end Text
end TextMacros
