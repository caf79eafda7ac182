import TextMacros.Proofs.Definition
import TextMacros.Proofs.Token.Locality

/-!
# Accounting for characters

A cursor that is moved by readers, in whatever order and also after failures, has read a front part
of its text and has the rest ahead. Each reading adds a piece to the front part, and the piece tells
what came of it: the contents that a success returns lie in the piece, a refusal is at the last
character of the piece, and where the text ends too early the piece is all that was left
(`Token.Accounted`). From the account of a single reading follows that of any sequence of them
(`Token.readings_accounted`).
-/

namespace TextMacros

/-- A piece of a text that begins and ends between two positions. -/
def Text.LiesBetween (text : Text) (start stop : Nat) (piece : Text) : Prop :=
  ∃ front back, text = front ++ piece ++ back ∧ start ≤ front.size ∧ (front ++ piece).size ≤ stop

namespace Token

variable {α β : Type}

/-! ## One reading -/

/-- What a reading came to, by the piece it has read. Some values hold contents of the text. -/
inductive Accounted (contents : α → List Text) (cursor : Cursor) :
    EStateM.Result Fault Cursor α → Prop
  /-- A success has read the contents it returns. -/
  | success {later : Cursor} {value : α} (piece : Text) (reads : cursor.Reads later piece)
    (inside : ∀ content ∈ contents value, content <:+: piece) :
    Accounted contents cursor (.ok value later)
  /-- A refusal has read the character that it shows, and nothing behind it. -/
  | refusal {later : Cursor} {problem : Problem} (front : Text) (symbol : Char)
    (shown : problem ≠ .unexpectedEnd) (reads : cursor.Reads later (front ++ [symbol])) :
    Accounted contents cursor (.error ⟨cursor.offset + front.size, problem⟩ later)
  /-- Where the text ends, all of it has been read. -/
  | exhaustion {later : Cursor} (reads : cursor.Reads later cursor.unread) :
    Accounted contents cursor (.error ⟨later.offset, .unexpectedEnd⟩ later)

namespace Accounted

variable {contents : α → List Text} {cursor later : Cursor} {fault : Fault} {text front : Text}

/-- Some piece has been read, whatever came of it. -/
theorem exists_reads {result : EStateM.Result Fault Cursor α}
    (accounted : Accounted contents cursor result) :
    ∃ piece, cursor.Reads (cursorOf result) piece := by
  cases accounted with
  | success piece reads inside => exact ⟨piece, reads⟩
  | refusal front symbol shown reads => exact ⟨_, reads⟩
  | exhaustion reads => exact ⟨_, reads⟩

/-- What a success returns lies between the places before and behind it. -/
theorem liesBetween {value : α} (accounted : Accounted contents cursor (.ok value later))
    (stands : (Cursor.start text).Reads cursor front) :
    ∀ content ∈ contents value, text.LiesBetween cursor.offset later.offset content := by
  intro content member
  obtain ⟨piece, reads, inside⟩ := accounted
  obtain ⟨first, last, rfl⟩ := inside content member
  obtain ⟨whole, split⟩ : text = front ++ cursor.unread ∧
      cursor.unread = first ++ content ++ last ++ later.unread := ⟨stands.1, reads.1⟩
  have start : cursor.offset = 0 + front.size := stands.2
  have stop : later.offset = cursor.offset + Text.size (first ++ content ++ last) := reads.2
  refine ⟨front ++ first, last ++ later.unread, ?_, ?_, ?_⟩
  · simp only [whole, split, List.append_assoc]
  · rw [Text.size_append]
    omega
  · simp only [Text.size_append] at stop ⊢
    omega

/-- Running out of text is a fault at the end, and nothing is left. -/
theorem exhausted (accounted : Accounted contents cursor (.error fault later))
    (ended : fault.problem = .unexpectedEnd) :
    fault.offset = later.offset ∧ later.unread = [] := by
  cases accounted with
  | refusal front symbol shown reads => exact absurd ended shown
  | exhaustion reads => exact ⟨rfl, List.self_eq_append_right.mp reads.1⟩

/-- Any other fault is at the last character that was read. -/
theorem refused (accounted : Accounted contents cursor (.error fault later))
    (stands : (Cursor.start text).Reads cursor front) (other : fault.problem ≠ .unexpectedEnd) :
    cursor.offset ≤ fault.offset ∧ ∃ symbol,
      text.dropBytes? fault.offset = some (symbol :: later.unread) ∧
        later.offset = fault.offset + symbol.utf8Size := by
  cases accounted with
  | exhaustion reads => exact absurd rfl other
  | @refusal _ problem passed symbol shown reads =>
    have start : cursor.offset = 0 + front.size := stands.2
    have stop : later.offset = cursor.offset + (passed ++ [symbol]).size := reads.2
    obtain ⟨whole, split⟩ : text = front ++ cursor.unread ∧
        cursor.unread = passed ++ [symbol] ++ later.unread := ⟨stands.1, reads.1⟩
    have parts : text = (front ++ passed) ++ symbol :: later.unread := by
      simp only [whole, split, List.append_assoc, List.singleton_append]
    have place : cursor.offset + passed.size = (front ++ passed).size := by
      rw [Text.size_append, start, Nat.zero_add]
    refine ⟨Nat.le_add_right _ _, symbol, ?_, ?_⟩
    · dsimp only
      rw [place, parts]
      exact Text.dropBytes?_size (front ++ passed) (symbol :: later.unread)
    · simp only [Text.size_append, Text.size_cons, Text.size_nil] at stop
      dsimp only
      omega

end Accounted

/-- A local reader is accounted for, when the spellings of what it recognizes hold the contents. -/
theorem Local.accounted {reader : Reader α} {form : α → Text → Prop} {contents : α → List Text}
    (isLocal : Local reader) (recognizes : Recognizes reader form)
    (spelled : ∀ value piece, form value piece → ∀ content ∈ contents value, content <:+: piece)
    (cursor : Cursor) : Accounted contents cursor (reader cursor) := by
  obtain ⟨offset, text⟩ := cursor
  cases isLocal text with
  | accepted value piece rest split always =>
    have success := always offset rest
    rw [← split] at success
    obtain ⟨read, written, reads⟩ := (recognizes _ _ _).mp success
    rw [success]
    exact .success read reads (spelled value read written)
  | refused problem front symbol rest split shown always =>
    have refusal := always offset rest
    rw [← split] at refusal
    rw [refusal]
    exact .refusal front symbol shown ⟨by simp [split], by simp [Nat.add_assoc]⟩
  | exhausted always =>
    have reads : Cursor.Reads ⟨offset, text⟩ ⟨offset + text.size, []⟩ text :=
      ⟨(List.append_nil text).symm, rfl⟩
    rw [always offset]
    exact .exhaustion reads

/-- A reader that returns no contents is accounted for with or without the value it returns. -/
theorem accounted_of_discarded {reader : Reader α} {cursor : Cursor}
    (accounted : Accounted (fun _ : Unit => []) cursor ((reader >>= fun _ => pure ()) cursor)) :
    Accounted (fun _ => []) cursor (reader cursor) := by
  cases outcome : reader cursor with
  | ok value later =>
    rw [bind_of_ok _ outcome] at accounted
    obtain ⟨piece, reads⟩ := accounted.exists_reads
    exact .success piece reads (by simp)
  | error fault later =>
    rw [bind_of_error _ outcome] at accounted
    cases accounted with
    | refusal front symbol shown reads => exact .refusal front symbol shown reads
    | exhaustion reads => exact .exhaustion reads

/-! ## The operations -/

/-- The readers that move a cursor, by what they return. -/
inductive Operation : Type → Type
  /-- The next character. -/
  | next : Operation (Option (Nat × Char))
  /-- The blanks ahead. -/
  | skipIgnorable : Operation Unit
  /-- A particular character. -/
  | expectSymbol (expected : Char) : Operation Nat
  /-- A delimiter. -/
  | senseDelimiter (parenthesisOpensList : Bool) : Operation Char
  /-- The introducer behind a closing delimiter. -/
  | expectCloser (delimiter : Char) : Operation Unit
  /-- The content of a token. -/
  | readContent (delimiter : Char) : Operation Text
  /-- A token. -/
  | readToken : Operation Text
  /-- A name. -/
  | readName (delimiter : Char) : Operation (Text × NameEnd)
  /-- A parameter list. -/
  | readParameterList : Operation (List Text)
  /-- The rest of the text. -/
  | expectOnlyIgnorable : Operation Unit

namespace Operation

/-- The reader of an operation. -/
def reader : Operation α → Reader α
  | next => next?
  | skipIgnorable => Token.skipIgnorable
  | expectSymbol expected => Token.expectSymbol expected
  | senseDelimiter parenthesisOpensList => Token.senseDelimiter parenthesisOpensList
  | expectCloser delimiter => Token.expectCloser delimiter
  | readContent delimiter => Token.readContent delimiter
  | readToken => Token.readToken
  | readName delimiter => Token.readName delimiter
  | readParameterList => Token.readParameterList
  | expectOnlyIgnorable => Token.expectOnlyIgnorable

/-- The contents and names in what an operation returns. -/
def contents : Operation α → α → List Text
  | readContent _, content => [content]
  | readToken, content => [content]
  | readName _, (name, _) => [name]
  | readParameterList, parameters => parameters
  | next, _ | skipIgnorable, _ | expectSymbol _, _ | senseDelimiter _, _ | expectCloser _, _
  | expectOnlyIgnorable, _ => []

end Operation

/-- The content of a token is a piece of the token. -/
theorem TokenForm.holds_content {content token : Text} (form : TokenForm content token) :
    content <:+: token := by
  obtain ⟨delimiter, outside⟩ := form
  exact ⟨[introducer, delimiter], [delimiter, introducer], rfl⟩

/-- The parameters of a list are pieces of the list. -/
theorem ListForm.holds_parameters {parameters : List Text} {list : Text}
    (form : ListForm parameters list) : ∀ parameter ∈ parameters, parameter <:+: list := by
  induction form with
  | @last parameter token before after gapBefore written gapAfter =>
    intro content member
    obtain rfl := List.mem_singleton.mp member
    exact written.holds_content.trans ⟨before, after ++ [')'], by simp⟩
  | @more parameter token before after others parameters gapBefore written gapAfter rest
      hypothesis =>
    intro content member
    rcases List.mem_cons.mp member with rfl | further
    · exact written.holds_content.trans ⟨before, after ++ [','] ++ others, by simp⟩
    · exact (hypothesis content further).trans ⟨before ++ token ++ after ++ [','], [], by simp⟩

namespace Operation

/-- Every operation is accounted for at every cursor. -/
theorem accounted (operation : Operation α) (cursor : Cursor) :
    Accounted operation.contents cursor (operation.reader cursor) := by
  cases operation with
  | next =>
    obtain ⟨piece, reads⟩ := forward_next? cursor
    change Accounted _ cursor (next? cursor)
    unfold next? at reads ⊢
    split at reads
    · exact .success piece reads (by simp [contents])
    · exact .success piece reads (by simp [contents])
  | skipIgnorable =>
    obtain ⟨piece, reads⟩ := forward_takeWhile isIgnorable cursor
    exact .success piece reads (by simp [contents])
  | expectSymbol expected =>
    have marked : Accounted (fun _ : Unit => []) cursor (mark expected cursor) :=
      (local_mark expected).accounted (recognizes_mark expected) (by simp) cursor
    have same : (Token.expectSymbol expected >>= fun _ => pure ()) = mark expected :=
      (expectSymbol_bind expected (pure ())).trans bind_pure_unit
    exact accounted_of_discarded (same ▸ marked)
  | senseDelimiter parenthesisOpensList =>
    exact (local_senseDelimiter parenthesisOpensList).accounted
      (recognizes_senseDelimiter parenthesisOpensList) (by simp [contents]) cursor
  | expectCloser delimiter =>
    exact (local_expectCloser delimiter).accounted (recognizes_expectCloser delimiter)
      (by simp [contents]) cursor
  | readContent delimiter =>
    refine (local_readContent delimiter).accounted (recognizes_readContent delimiter) ?_ cursor
    rintro value piece ⟨-, rfl⟩ content member
    obtain rfl := List.mem_singleton.mp member
    exact ⟨[], [delimiter, introducer], rfl⟩
  | readToken =>
    refine local_readToken.accounted recognizes_readToken ?_ cursor
    rintro value piece ⟨gap, token, -, written, rfl⟩ content member
    obtain rfl := List.mem_singleton.mp member
    exact written.holds_content.trans (List.suffix_append gap token).isInfix
  | readName delimiter =>
    refine (local_readName delimiter).accounted (recognizes_readName delimiter) ?_ cursor
    rintro ⟨name, ending⟩ piece ⟨-, -, ends⟩ content member
    obtain rfl := List.mem_singleton.mp member
    rcases ends with ⟨-, rfl⟩ | ⟨-, -, rfl⟩
    · exact (List.prefix_append _ _).isInfix
    · exact (List.prefix_append _ _).isInfix
  | readParameterList =>
    exact (local_readParametersFrom 1).accounted (recognizes_readParametersFrom 1)
      (fun _ _ form => form.holds_parameters) cursor
  | expectOnlyIgnorable =>
    change Accounted _ cursor (Token.expectOnlyIgnorable cursor)
    rcases passes_or_stops isIgnorable cursor.unread with
      blank | ⟨gap, symbol, rest, ahead, blank, stops⟩
    · rw [expectOnlyIgnorable_of_gap blank]
      exact .success cursor.unread ⟨(List.append_nil _).symm, rfl⟩ (by simp [contents])
    · rw [expectOnlyIgnorable_of_stops ahead blank stops]
      exact .refusal gap symbol (by simp) ⟨by simp [ahead], by simp [Nat.add_assoc]⟩

end Operation

/-! ## Sequences of readings -/

/-- The cursor behind some operations. An operation that fails is no reason to stop. -/
def Cursor.behind (performed : List (Sigma Operation)) (cursor : Cursor) : Cursor :=
  performed.foldl (fun cursor operation => cursorOf (operation.2.reader cursor)) cursor

/-- Operations in order have read a piece of the text. -/
theorem Cursor.reads_behind (performed : List (Sigma Operation)) (cursor : Cursor) :
    ∃ piece, cursor.Reads (cursor.behind performed) piece := by
  induction performed generalizing cursor with
  | nil => exact ⟨[], Reads.refl cursor⟩
  | cons operation performed hypothesis =>
    obtain ⟨front, reads⟩ := (operation.2.accounted cursor).exists_reads
    obtain ⟨back, readsMore⟩ := hypothesis (cursorOf (operation.2.reader cursor))
    exact ⟨front ++ back, reads.trans readsMore⟩

/-- Where a front part of a text has been read, the offset is a boundary of the text and the rest
of the text is ahead. -/
theorem Cursor.Reads.stands {text front : Text} {cursor : Cursor}
    (reads : (Cursor.start text).Reads cursor front) :
    text.dropBytes? cursor.offset = some cursor.unread ∧ cursor.offset ≤ text.size ∧
      (cursor.atEnd ↔ cursor.offset = text.size) := by
  obtain ⟨split, place⟩ := reads
  have whole : text = front ++ cursor.unread := split
  have offset : cursor.offset = front.size := by simpa [Cursor.start] using place
  have size : text.size = front.size + cursor.unread.size := by rw [whole, Text.size_append]
  refine ⟨?_, by omega, ?_⟩
  · rw [offset, whole]
    exact Text.dropBytes?_size front cursor.unread
  · have empty : cursor.atEnd ↔ cursor.unread.size = 0 := by
      rw [Text.size_eq_zero]
      exact List.isEmpty_iff
    rw [empty]
    omega

/-- Every character of a text is accounted for by the operations that move a cursor over it, in
whatever order they are performed and whether they fail or not. The offset is a boundary of the text
with the unread rest behind it, and it is the size of the text just at the end. One more operation
moves it forward, or leaves it. The contents and names that the operation returns are pieces of the
text between the two offsets. When the operation runs out of text, its fault is at the end of the
text and so is the cursor; any other fault is at the last character that was consumed, which the new
offset is directly behind. -/
theorem readings_accounted (text : Text) (performed : List (Sigma Operation))
    (operation : Operation α) :
    let before := (Cursor.start text).behind performed
    let result := operation.reader before
    let later := cursorOf result
    (text.dropBytes? before.offset = some before.unread ∧ before.offset ≤ text.size ∧
      (before.atEnd ↔ before.offset = text.size)) ∧
    before.offset ≤ later.offset ∧
    (text.dropBytes? later.offset = some later.unread ∧ later.offset ≤ text.size ∧
      (later.atEnd ↔ later.offset = text.size)) ∧
    (∀ value, result = .ok value later →
      ∀ content ∈ operation.contents value,
        text.LiesBetween before.offset later.offset content) ∧
    (∀ fault, result = .error fault later → fault.problem = .unexpectedEnd →
      fault.offset = text.size ∧ later.atEnd) ∧
    (∀ fault, result = .error fault later → fault.problem ≠ .unexpectedEnd →
      before.offset ≤ fault.offset ∧ ∃ symbol,
        text.dropBytes? fault.offset = some (symbol :: later.unread) ∧
        later.offset = fault.offset + symbol.utf8Size) := by
  intro before result later
  obtain ⟨front, reads⟩ := (Cursor.start text).reads_behind performed
  have accounted : Accounted operation.contents before result := operation.accounted before
  obtain ⟨piece, more⟩ := accounted.exists_reads
  have standsBefore := reads.stands
  have standsLater := (reads.trans more).stands
  have forward : before.offset ≤ later.offset := more.2 ▸ Nat.le_add_right _ _
  refine ⟨standsBefore, forward, standsLater, ?_, ?_, ?_⟩
  · intro value success
    rw [success] at accounted
    exact accounted.liesBetween reads
  · intro fault failure ended
    rw [failure] at accounted
    obtain ⟨place, nothing⟩ := accounted.exhausted ended
    have finished : later.atEnd := List.isEmpty_iff.mpr nothing
    exact ⟨place.trans (standsLater.2.2.mp finished), finished⟩
  · intro fault failure other
    rw [failure] at accounted
    exact accounted.refused reads other

end Token
end TextMacros
