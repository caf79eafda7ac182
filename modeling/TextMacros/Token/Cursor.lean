import TextMacros.Token.Fault

/-!
# Cursors

A cursor stands in a text: it knows how many bytes lie before it and which characters lie ahead.
Reading moves a cursor forward over a front part of what lies ahead, and never anywhere else. Every
reader of tokens is built from the three steps defined here, so each of them keeps this relation
(`Token.Forward`) whether it succeeds or fails, and a reader that needs at least one character moves
strictly forward (`Token.StrictlyForward`).
-/

namespace TextMacros
namespace Token

/-- A place in a text. -/
structure Cursor where
  /-- Bytes before the place. -/
  offset : Nat
  /-- Characters that have not been read. -/
  unread : Text
deriving DecidableEq

namespace Cursor

/-- The cursor in front of a text. -/
def start (text : Text) : Cursor := ⟨0, text⟩

/-- Whether nothing is left to read. -/
def atEnd (cursor : Cursor) : Bool := cursor.unread.isEmpty

/-- A later place is reached from an earlier one by reading a piece of the text. -/
def Reads (earlier later : Cursor) (piece : Text) : Prop :=
  earlier.unread = piece ++ later.unread ∧ later.offset = earlier.offset + piece.size

theorem Reads.refl (cursor : Cursor) : cursor.Reads cursor [] := by simp [Reads]

theorem Reads.trans {first second third : Cursor} {front back : Text}
    (before : first.Reads second front) (after : second.Reads third back) :
    first.Reads third (front ++ back) := by
  refine ⟨?_, ?_⟩
  · rw [before.1, after.1, List.append_assoc]
  · rw [after.2, before.2, Text.size_append, Nat.add_assoc]

end Cursor

/-- A reader takes characters from the front of what lies ahead. It fails with a fault, and a
failing reader has consumed what it looked at. -/
abbrev Reader (α : Type) := EStateM Fault Cursor α

/-- The cursor behind a reading, successful or not. -/
def cursorOf {α : Type} : EStateM.Result Fault Cursor α → Cursor
  | .ok _ cursor => cursor
  | .error _ cursor => cursor

/-- The next position and character, or nothing at the end. -/
def next? : Reader (Option (Nat × Char)) := fun cursor =>
  match cursor.unread with
  | [] => .ok none cursor
  | symbol :: rest => .ok (some (cursor.offset, symbol)) ⟨cursor.offset + symbol.utf8Size, rest⟩

/-- The next position and character; the end of the text is a fault. -/
def require : Reader (Nat × Char) := fun cursor =>
  match cursor.unread with
  | [] => .error ⟨cursor.offset, .unexpectedEnd⟩ cursor
  | symbol :: rest => .ok (cursor.offset, symbol) ⟨cursor.offset + symbol.utf8Size, rest⟩

/-- The longest run of characters that pass a test. -/
def takeWhile (test : Char → Bool) : Reader Text := fun cursor =>
  let run := cursor.unread.takeWhile test
  .ok run ⟨cursor.offset + Text.size run, cursor.unread.dropWhile test⟩

/-- A reader that only moves forward. -/
def Forward {α : Type} (reader : Reader α) : Prop :=
  ∀ cursor : Cursor, ∃ piece, cursor.Reads (cursorOf (reader cursor)) piece

/-- A reader that only moves forward, and over at least one character when it succeeds. -/
def StrictlyForward {α : Type} (reader : Reader α) : Prop :=
  ∀ cursor : Cursor, ∃ piece, cursor.Reads (cursorOf (reader cursor)) piece ∧
    ∀ value later, reader cursor = .ok value later → piece ≠ []

theorem StrictlyForward.forward {α : Type} {reader : Reader α} (strict : StrictlyForward reader) :
    Forward reader := fun cursor => (strict cursor).imp fun _ both => both.1

/-- A strict success leaves less to read. -/
theorem StrictlyForward.length_lt {α : Type} {reader : Reader α} (strict : StrictlyForward reader)
    {cursor later : Cursor} {value : α} (success : reader cursor = .ok value later) :
    later.unread.length < cursor.unread.length := by
  obtain ⟨piece, reads, nonempty⟩ := strict cursor
  have long := List.length_pos_iff.mpr (nonempty value later success)
  rw [success] at reads
  have split : cursor.unread = piece ++ later.unread := reads.1
  rw [split, List.length_append]
  omega

theorem forward_pure {α : Type} (value : α) : Forward (pure value : Reader α) :=
  fun cursor => ⟨[], Cursor.Reads.refl cursor⟩

theorem forward_throw {α : Type} (fault : Fault) : Forward (throw fault : Reader α) :=
  fun cursor => ⟨[], Cursor.Reads.refl cursor⟩

/-- A choice between two forward readers is forward. -/
theorem Forward.ite {α : Type} {condition : Prop} [Decidable condition] {first second : Reader α}
    (holds : Forward first) (fails : Forward second) :
    Forward (if condition then first else second) := by
  split
  · exact holds
  · exact fails

theorem forward_next? : Forward next? := by
  intro cursor
  unfold next?
  split
  · exact ⟨[], Cursor.Reads.refl cursor⟩
  · rename_i symbol rest ahead
    exact ⟨[symbol], by simp [cursorOf, Cursor.Reads, ahead]⟩

theorem strictlyForward_require : StrictlyForward require := by
  intro cursor
  unfold require
  split
  · exact ⟨[], Cursor.Reads.refl cursor, by simp⟩
  · rename_i symbol rest ahead
    exact ⟨[symbol], by simp [cursorOf, Cursor.Reads, ahead]⟩

theorem forward_takeWhile (test : Char → Bool) : Forward (takeWhile test) := fun cursor =>
  ⟨cursor.unread.takeWhile test, by
    simp [takeWhile, cursorOf, Cursor.Reads, List.takeWhile_append_dropWhile]⟩

/-- Reading on after a forward reading is forward. -/
theorem Forward.bind {α β : Type} {first : Reader α} {second : α → Reader β}
    (before : Forward first) (after : ∀ value, Forward (second value)) :
    Forward (first >>= second) := by
  intro cursor
  obtain ⟨front, readFront⟩ := before cursor
  change ∃ piece, cursor.Reads (cursorOf (EStateM.bind first second cursor)) piece
  unfold EStateM.bind
  cases outcome : first cursor with
  | error fault later => exact ⟨front, by simpa [outcome, cursorOf] using readFront⟩
  | ok value later =>
    obtain ⟨back, readBack⟩ := after value later
    rw [outcome] at readFront
    exact ⟨front ++ back, readFront.trans readBack⟩

/-- A reading with a strict first step is strict. -/
theorem StrictlyForward.bind {α β : Type} {first : Reader α} {second : α → Reader β}
    (before : StrictlyForward first) (after : ∀ value, Forward (second value)) :
    StrictlyForward (first >>= second) := by
  intro cursor
  obtain ⟨front, readFront, nonempty⟩ := before cursor
  change ∃ piece, cursor.Reads (cursorOf (EStateM.bind first second cursor)) piece ∧
    ∀ value later, EStateM.bind first second cursor = .ok value later → piece ≠ []
  unfold EStateM.bind
  cases outcome : first cursor with
  | error fault later => exact ⟨front, by simpa [outcome, cursorOf] using readFront, by simp⟩
  | ok value later =>
    obtain ⟨back, readBack⟩ := after value later
    rw [outcome] at readFront
    exact ⟨front ++ back, readFront.trans readBack, fun _ _ _ =>
      List.append_ne_nil_of_left_ne_nil (nonempty value later outcome) back⟩

/-- A reading with a strict last step is strict. -/
theorem Forward.bind_strict {α β : Type} {first : Reader α} {second : α → Reader β}
    (before : Forward first) (after : ∀ value, StrictlyForward (second value)) :
    StrictlyForward (first >>= second) := by
  intro cursor
  obtain ⟨front, readFront⟩ := before cursor
  change ∃ piece, cursor.Reads (cursorOf (EStateM.bind first second cursor)) piece ∧
    ∀ value later, EStateM.bind first second cursor = .ok value later → piece ≠ []
  unfold EStateM.bind
  cases outcome : first cursor with
  | error fault later => exact ⟨front, by simpa [outcome, cursorOf] using readFront, by simp⟩
  | ok value later =>
    obtain ⟨back, readBack, nonempty⟩ := after value later
    rw [outcome] at readFront
    exact ⟨front ++ back, readFront.trans readBack, fun found final success =>
      List.append_ne_nil_of_right_ne_nil front (nonempty found final success)⟩

end Token
end TextMacros
