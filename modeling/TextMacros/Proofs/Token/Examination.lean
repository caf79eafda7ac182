import Mathlib.Data.List.TakeWhile
import TextMacros.Proofs.Sequence
import TextMacros.Token.Reader

/-!
# Examinations

A run of characters is read together with the character that ends it, and both are judged at once;
a refusal is a fault at that character. Every reader is composed of such examinations, so what
holds of them and of reading on holds of every reader. Positions occur in faults only: no reader
uses the position of a character that it accepts.
-/

namespace TextMacros
namespace Token

variable {α β : Type}

/-! ## Places -/

/-- The place behind a front part of a piece. -/
theorem Cursor.Reads.split {cursor later : Cursor} {front back : Text}
    (reads : cursor.Reads later (front ++ back)) :
    ∃ middle, cursor.Reads middle front ∧ middle.Reads later back := by
  obtain ⟨ahead, behind⟩ := reads
  refine ⟨⟨cursor.offset + front.size, back ++ later.unread⟩, ⟨?_, rfl⟩, ⟨rfl, ?_⟩⟩
  · rw [ahead, List.append_assoc]
  · rw [behind, Text.size_append, Nat.add_assoc]

/-- A piece of the text ahead has a place behind it. -/
theorem Cursor.Reads.of_prefix {cursor : Cursor} {piece : Text} (ahead : piece <+: cursor.unread) :
    ∃ later, cursor.Reads later piece := by
  obtain ⟨rest, split⟩ := ahead
  exact ⟨⟨cursor.offset + piece.size, rest⟩, split.symm, rfl⟩

/-- A piece that was read stands ahead. -/
theorem Cursor.Reads.ahead {cursor later : Cursor} {piece : Text}
    (reads : cursor.Reads later piece) : piece <+: cursor.unread :=
  ⟨later.unread, reads.1.symm⟩

/-- One piece lies between two places. -/
theorem Cursor.Reads.piece_unique {cursor later : Cursor} {piece other : Text}
    (one : cursor.Reads later piece) (two : cursor.Reads later other) : piece = other :=
  List.append_cancel_right (one.1.symm.trans two.1)

/-- Reading a piece leads to one place. -/
theorem Cursor.Reads.unique {cursor first second : Cursor} {piece : Text}
    (one : cursor.Reads first piece) (other : cursor.Reads second piece) : first = second := by
  obtain ⟨firstOffset, firstUnread⟩ := first
  obtain ⟨secondOffset, secondUnread⟩ := second
  have unread : firstUnread = secondUnread := List.append_cancel_left (one.1.symm.trans other.1)
  have offset : firstOffset = secondOffset := one.2.trans other.2.symm
  rw [unread, offset]

/-! ## Runs and the character that ends them -/

/-- Reads a run of characters that pass a test and the first character that does not, and judges
them. A refusal is a fault at that character. -/
def examine (skips : Char → Bool) (verdict : Text → Char → Except Problem α) : Reader α := do
  let run ← takeWhile skips
  let (offset, symbol) ← require
  match verdict run symbol with
  | .ok value => return value
  | .error problem => throw ⟨offset, problem⟩

/-- Either all characters of a text pass a test, or there is a first one that does not. -/
theorem passes_or_stops (skips : Char → Bool) (text : Text) :
    (∀ symbol ∈ text, skips symbol = true) ∨
      ∃ (run : Text) (symbol : Char) (rest : Text), text = run ++ symbol :: rest ∧
        (∀ passed ∈ run, skips passed = true) ∧ skips symbol = false := by
  induction text with
  | nil => exact .inl (by simp)
  | cons first rest hypothesis =>
    cases passes : skips first with
    | false => exact .inr ⟨[], first, rest, rfl, by simp, passes⟩
    | true =>
      rcases hypothesis with all | ⟨run, symbol, tail, split, before, stop⟩
      · exact .inl (by simpa [passes] using all)
      · exact .inr ⟨first :: run, symbol, tail, by simp [split], by simpa [passes] using before,
          stop⟩

/-- A run that nothing stops is the whole text ahead. -/
theorem takeWhile_of_passes {skips : Char → Bool} {cursor : Cursor}
    (passes : ∀ symbol ∈ cursor.unread, skips symbol = true) :
    takeWhile skips cursor = .ok cursor.unread ⟨cursor.offset + cursor.unread.size, []⟩ := by
  have run : cursor.unread.takeWhile skips = cursor.unread :=
    List.takeWhile_eq_self_iff.mpr passes
  have rest : cursor.unread.dropWhile skips = [] := List.dropWhile_eq_nil_iff.mpr passes
  simp only [takeWhile, run, rest]

/-- A run ends before the first character that stops it. -/
theorem takeWhile_of_stops {skips : Char → Bool} {cursor : Cursor} {run rest : Text}
    {symbol : Char} (ahead : cursor.unread = run ++ symbol :: rest)
    (passes : ∀ passed ∈ run, skips passed = true) (stops : skips symbol = false) :
    takeWhile skips cursor = .ok run ⟨cursor.offset + run.size, symbol :: rest⟩ := by
  have taken : cursor.unread.takeWhile skips = run := by
    simp [ahead, List.takeWhile_append_of_pos passes, stops]
  have dropped : cursor.unread.dropWhile skips = symbol :: rest := by
    simp [ahead, List.dropWhile_append_of_pos passes, stops]
  simp only [takeWhile, taken, dropped]

/-- An examination of a text that passes throughout runs out of text. -/
theorem examine_of_passes {skips : Char → Bool} (verdict : Text → Char → Except Problem α)
    {cursor : Cursor} (passes : ∀ symbol ∈ cursor.unread, skips symbol = true) :
    examine skips verdict cursor = .error ⟨cursor.offset + cursor.unread.size, .unexpectedEnd⟩
      ⟨cursor.offset + cursor.unread.size, []⟩ := by
  unfold examine
  rw [bind_of_ok _ (takeWhile_of_passes passes)]
  exact bind_of_error _ rfl

/-- An examination judges the run before the first character that stops it. -/
theorem examine_of_stops {skips : Char → Bool} (verdict : Text → Char → Except Problem α)
    {cursor : Cursor} {run rest : Text} {symbol : Char}
    (ahead : cursor.unread = run ++ symbol :: rest)
    (passes : ∀ passed ∈ run, skips passed = true) (stops : skips symbol = false) :
    examine skips verdict cursor =
      match verdict run symbol with
      | .ok value => .ok value ⟨cursor.offset + run.size + symbol.utf8Size, rest⟩
      | .error problem => .error ⟨cursor.offset + run.size, problem⟩
          ⟨cursor.offset + run.size + symbol.utf8Size, rest⟩ := by
  have next : require ⟨cursor.offset + run.size, symbol :: rest⟩ =
      .ok (cursor.offset + run.size, symbol)
        ⟨cursor.offset + run.size + symbol.utf8Size, rest⟩ := rfl
  unfold examine
  rw [bind_of_ok _ (takeWhile_of_stops ahead passes stops), bind_of_ok _ next]
  dsimp only
  cases verdict run symbol <;> rfl

/-! ## The readers as examinations -/

/-- The examination behind `expectSymbol`, without the position it returns. -/
def mark (expected : Char) : Reader Unit :=
  examine (fun symbol => isIgnorable symbol ∧ symbol ≠ expected) fun _ symbol =>
    if symbol = expected then .ok () else .error (.unexpectedSymbol (.exactly expected) symbol)

/-- Nothing that reads on uses the position of an expected character. -/
theorem expectSymbol_bind (expected : Char) (next : Reader β) :
    (expectSymbol expected >>= fun _ => next) = mark expected >>= fun _ => next := by
  unfold expectSymbol mark examine
  simp only [bind_assoc]
  congr 1
  funext run
  congr 1
  funext (offset, symbol)
  dsimp only
  split
  · simp
  · rfl

/-- The test that refuses every character takes nothing. -/
theorem takeWhile_none : takeWhile (fun _ => false) = pure [] := by
  funext ⟨offset, unread⟩
  cases unread <;> rfl

/-- The delimiter is the next character. -/
theorem senseDelimiter_eq (parenthesisOpensList : Bool) :
    senseDelimiter parenthesisOpensList = examine (fun _ => false) fun _ symbol =>
      if parenthesisOpensList ∧ symbol = '(' then .error .parenthesisDelimiter else .ok symbol := by
  unfold senseDelimiter examine
  rw [takeWhile_none, pure_bind]
  congr 1
  funext (offset, symbol)
  dsimp only
  split <;> rfl

/-- The closing introducer is the next character. -/
theorem expectCloser_eq (delimiter : Char) :
    expectCloser delimiter = examine (fun _ => false) fun _ symbol =>
      if symbol = introducer then .ok () else .error (.missingCloser delimiter symbol) := by
  unfold expectCloser examine
  rw [takeWhile_none, pure_bind]
  congr 1
  funext (offset, symbol)
  dsimp only
  split <;> rfl

/-- The content is the run before the first delimiter. -/
theorem readContent_eq (delimiter : Char) :
    readContent delimiter = examine (· ≠ delimiter) (fun run _ => .ok run) >>= fun content =>
      expectCloser delimiter >>= fun _ => pure content := by
  unfold readContent examine
  simp only [bind_assoc, pure_bind]

/-- A token is an introducer, a delimiter and a content. -/
theorem readToken_eq :
    readToken = mark introducer >>= fun _ => senseDelimiter false >>= readContent :=
  expectSymbol_bind introducer (senseDelimiter false >>= readContent)

/-- The name is the run before the first delimiter or opening parenthesis. -/
theorem readName_eq (delimiter : Char) :
    readName delimiter = examine (fun symbol => symbol ≠ delimiter ∧ symbol ≠ '(')
      fun run symbol => .ok (run, if symbol = delimiter then .delimiter else .parameterList) := rfl

/-- A separator is the first character that is not ignorable. -/
theorem readSeparator_eq :
    readSeparator = examine isIgnorable fun _ symbol =>
      if symbol = ',' then .ok true else if symbol = ')' then .ok false
      else .error (.unexpectedSymbol .separator symbol) := by
  unfold readSeparator examine
  congr 1
  funext run
  congr 1
  funext (offset, symbol)
  dsimp only
  split
  · rfl
  · split <;> rfl

/-- A signature is a delimiter, a name, its parameters and the closing introducer. -/
theorem readSignature_eq :
    readSignature = senseDelimiter true >>= fun delimiter => readName delimiter >>= fun found =>
      readParameters delimiter found.2 >>= fun parameters => expectCloser delimiter >>= fun _ =>
        pure (found.1, parameters) := rfl

/-- A parameter list is a parameter and, behind a comma, the rest of the list. -/
theorem readParametersFrom_eq (index : Nat) :
    readParametersFrom index = readParameter index >>= fun found =>
      if found.2 then
        readParametersFrom (index + 1) >>= fun parameters => pure (found.1 :: parameters)
      else pure [found.1] := by
  funext cursor
  rw [readParametersFrom]
  split
  · rename_i outcome
    rw [bind_of_error _ outcome]
  · rename_i outcome
    rw [bind_of_ok _ outcome]
    rfl
  · rename_i outcome
    rw [bind_of_ok _ outcome]
    dsimp only
    rw [if_pos rfl]
    split
    · rename_i others
      rw [bind_of_error _ others]
    · rename_i others
      rw [bind_of_ok _ others]
      rfl

/-- The parameters of a name with a list are the list, up to the delimiter of the name. -/
theorem readParameters_parameterList (delimiter : Char) :
    readParameters delimiter .parameterList = readParametersFrom 1 >>= fun parameters =>
      mark delimiter >>= fun _ => pure parameters := by
  simp only [← expectSymbol_bind]
  rfl

end Token
end TextMacros
