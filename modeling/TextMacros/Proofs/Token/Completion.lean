import TextMacros.Proofs.Token.Locality
import TextMacros.Proofs.Token.Recognition

/-!
# Completion

A reader that runs out of text has met nothing wrong: some continuation of the text is accepted
(`Completable`). For a local reader that says where its faults are. It reports the end of the text
exactly for the proper front parts of accepted texts, and any other fault at the first character
that no accepted text has in this place.

To complete a text that two readers in order run out of, complete it for the first one, and then
complete the empty text for the second one. So completability is kept by reading on, and it is
enough to complete the text of a single examination: by one character that the examination approves.
-/

namespace TextMacros
namespace Token

variable {α β : Type}

/-! ## Accepted texts -/

/-- A reader accepts a text when it reads all of it. -/
def Accepts (reader : Reader α) (text : Text) : Prop :=
  ∃ value later, reader (Cursor.start text) = .ok value later ∧ later.unread = []

/-- A reader takes a piece with a value, wherever the piece stands and whatever is behind it. -/
def Takes (reader : Reader α) (piece : Text) (value : α) : Prop :=
  ∀ offset behind, reader ⟨offset, piece ++ behind⟩ = .ok value ⟨offset + piece.size, behind⟩

/-- A reader runs out of a text, wherever the text stands. -/
def Exhausts (reader : Reader α) (text : Text) : Prop :=
  ∀ offset, reader ⟨offset, text⟩ =
    .error ⟨offset + text.size, .unexpectedEnd⟩ ⟨offset + text.size, []⟩

/-- A reader refuses a character behind a front part, wherever they stand and whatever is behind. -/
def Refuses (reader : Reader α) (front : Text) (symbol : Char) (problem : Problem) : Prop :=
  ∀ offset behind, reader ⟨offset, front ++ symbol :: behind⟩ =
    .error ⟨offset + front.size, problem⟩ ⟨offset + front.size + symbol.utf8Size, behind⟩

/-- A piece that is taken is accepted. -/
theorem Takes.accepts {reader : Reader α} {piece : Text} {value : α}
    (takes : Takes reader piece value) : Accepts reader piece := by
  have whole := takes 0 []
  rw [List.append_nil] at whole
  exact ⟨value, _, whole, rfl⟩

/-- Where a piece that is taken stands ahead, reading succeeds. -/
theorem Takes.ok {reader : Reader α} {piece : Text} {value : α} (takes : Takes reader piece value)
    {cursor : Cursor} (begins : piece <+: cursor.unread) :
    ∃ later, reader cursor = .ok value later := by
  obtain ⟨offset, unread⟩ := cursor
  obtain ⟨behind, rfl⟩ := begins
  exact ⟨_, takes offset behind⟩

/-- With a character that is refused, no text is accepted. -/
theorem Refuses.not_accepts {reader : Reader α} {front : Text} {symbol : Char} {problem : Problem}
    (refuses : Refuses reader front symbol problem) (behind : Text) :
    ¬ Accepts reader (front ++ symbol :: behind) := by
  rintro ⟨value, later, success, -⟩
  cases success.symm.trans (refuses 0 behind)

/-- What a local reader does at a place, with the part of the text that decides it. -/
theorem Local.outcome {reader : Reader α} (isLocal : Local reader) (cursor : Cursor) :
    (∃ value piece later, reader cursor = .ok value later ∧ cursor.Reads later piece ∧
      Takes reader piece value) ∨
    (∃ (problem : Problem) (front : Text) (symbol : Char) (rest : Text) (later : Cursor),
      reader cursor = .error ⟨cursor.offset + front.size, problem⟩ later ∧
      cursor.unread = front ++ symbol :: rest ∧ problem ≠ .unexpectedEnd ∧
      Refuses reader front symbol problem) ∨
    ∃ later, reader cursor = .error ⟨cursor.offset + cursor.unread.size, .unexpectedEnd⟩ later ∧
      Exhausts reader cursor.unread := by
  obtain ⟨offset, text⟩ := cursor
  cases isLocal text with
  | accepted value piece rest split always =>
    have success := always offset rest
    rw [← split] at success
    exact .inl ⟨value, piece, _, success, ⟨split, rfl⟩, always⟩
  | refused problem front symbol rest split shown always =>
    have refusal := always offset rest
    rw [← split] at refusal
    exact .inr (.inl ⟨problem, front, symbol, rest, _, refusal, split, shown, always⟩)
  | exhausted always => exact .inr (.inr ⟨_, always offset, always⟩)

/-- A local reader that succeeds takes the piece that it has read. -/
theorem Local.takes_of_ok {reader : Reader α} (isLocal : Local reader) {cursor later : Cursor}
    {value : α} (success : reader cursor = .ok value later) :
    ∃ piece, cursor.Reads later piece ∧ Takes reader piece value := by
  rcases isLocal.outcome cursor with
    ⟨found, piece, last, reached, reads, takes⟩ | ⟨_, _, _, _, _, refusal, -⟩ | ⟨_, refusal, -⟩
  · cases success.symm.trans reached
    exact ⟨piece, reads, takes⟩
  · cases success.symm.trans refusal
  · cases success.symm.trans refusal

/-- A local reader that fails for the end of the text runs out of it wherever it stands. -/
theorem Local.exhausts {reader : Reader α} (isLocal : Local reader) {cursor later : Cursor}
    {fault : Fault} (failure : reader cursor = .error fault later)
    (ended : fault.problem = .unexpectedEnd) : Exhausts reader cursor.unread := by
  rcases isLocal.outcome cursor with
    ⟨_, _, _, success, -⟩ | ⟨_, _, _, _, _, refusal, _, shown, _⟩ | ⟨_, _, exhausts⟩
  · cases success.symm.trans failure
  · cases refusal.symm.trans failure
    exact absurd ended shown
  · exact exhausts

/-- A local reader that fails otherwise refuses a character. -/
theorem Local.refuses {reader : Reader α} (isLocal : Local reader) {cursor later : Cursor}
    {fault : Fault} (failure : reader cursor = .error fault later)
    (other : fault.problem ≠ .unexpectedEnd) :
    ∃ (front : Text) (symbol : Char) (rest : Text), cursor.unread = front ++ symbol :: rest ∧
      fault.offset = cursor.offset + front.size ∧ Refuses reader front symbol fault.problem := by
  rcases isLocal.outcome cursor with
    ⟨_, _, _, success, -⟩ | ⟨problem, front, symbol, rest, _, refusal, split, -, refuses⟩ |
      ⟨_, refusal, -⟩
  · cases success.symm.trans failure
  · cases refusal.symm.trans failure
    exact ⟨front, symbol, rest, split, rfl, refuses⟩
  · cases refusal.symm.trans failure
    exact absurd rfl other

/-- A local reader takes what it accepts. -/
theorem Local.takes {reader : Reader α} (isLocal : Local reader) {text : Text}
    (accepts : Accepts reader text) : ∃ value, Takes reader text value := by
  obtain ⟨value, later, success, atEnd⟩ := accepts
  obtain ⟨piece, ⟨split, -⟩, takes⟩ := isLocal.takes_of_ok success
  have whole : text = piece := by
    rw [atEnd, List.append_nil] at split
    exact split
  rw [whole]
  exact ⟨value, takes⟩

/-- The texts that a local reader accepts are prefix-free. -/
theorem Local.prefix_free {reader : Reader α} (isLocal : Local reader) {piece longer : Text}
    (accepts : Accepts reader piece) (also : Accepts reader longer) (begins : piece <+: longer) :
    piece = longer := by
  obtain ⟨value, takes⟩ := isLocal.takes accepts
  obtain ⟨found, later, success, atEnd⟩ := also
  obtain ⟨rest, rfl⟩ := begins
  have same := success.symm.trans (takes 0 rest)
  obtain ⟨-, rfl⟩ : found = value ∧ later = _ := by simpa using same
  have nothing : rest = [] := atEnd
  rw [nothing, List.append_nil]

/-- A local reader runs out of the text before a character that it refuses: without the character
the text is neither taken nor refused. -/
theorem Local.exhausts_front {reader : Reader α} (isLocal : Local reader) {front : Text}
    {symbol : Char} {problem : Problem} (refuses : Refuses reader front symbol problem) :
    Exhausts reader front := by
  cases outcome : reader ⟨0, front⟩ with
  | ok value later =>
    obtain ⟨piece, ⟨split, -⟩, takes⟩ := isLocal.takes_of_ok outcome
    have inside : front = piece ++ later.unread := split
    have success := takes 0 (later.unread ++ [symbol])
    rw [← List.append_assoc, ← inside] at success
    cases success.symm.trans (refuses 0 [])
  | error fault later =>
    by_cases ended : fault.problem = .unexpectedEnd
    · exact isLocal.exhausts outcome ended
    · obtain ⟨before, first, rest, split, -, also⟩ := isLocal.refuses outcome ended
      have inside : front = before ++ first :: rest := split
      have whole : front ++ [symbol] = before ++ first :: (rest ++ [symbol]) := by simp [inside]
      have refusal := also 0 (rest ++ [symbol])
      rw [← whole] at refusal
      have same := refusal.symm.trans (refuses 0 [])
      simp only [EStateM.Result.error.injEq, Fault.mk.injEq, Nat.zero_add] at same
      have place : before.size = front.size := same.1.1
      have positive := first.utf8Size_pos
      have longer : front.size = before.size + (first.utf8Size + rest.size) := by simp [inside]
      omega

/-! ## Completions -/

/-- When a reader runs out of a text, some continuation completes the text to a piece that it
takes. -/
def Completes (reader : Reader α) (text : Text) : Prop :=
  Exhausts reader text → ∃ more value, Takes reader (text ++ more) value

/-- A local reader for which every text can be completed. -/
structure Completable (reader : Reader α) : Prop where
  /-- The reader looks at what it reads. -/
  isLocal : Local reader
  /-- Where it runs out of a text, some continuation is accepted. -/
  completes : ∀ text, Completes reader text

/-- Nobody runs out of text by reading nothing. -/
theorem Completable.pure (value : α) : Completable (Pure.pure value) where
  isLocal := .pure value
  completes := by
    intro text exhausts
    cases exhausts 0

/-- Two pieces are taken in order by two readers in order. -/
theorem Takes.bind {first : Reader α} {second : α → Reader β} {front back : Text} {value : α}
    {found : β} (before : Takes first front value) (after : Takes (second value) back found) :
    Takes (first >>= second) (front ++ back) found := by
  intro offset behind
  rw [List.append_assoc, bind_of_ok _ (before offset (back ++ behind)), after, Text.size_append,
    Nat.add_assoc]

/-- Where nothing is ahead, a reader that is completed takes some piece. -/
theorem Completes.inhabited {reader : Reader α} (completes : Completes reader [])
    (isLocal : Local reader) : ∃ piece value, Takes reader piece value := by
  cases outcome : reader ⟨0, []⟩ with
  | ok value later =>
    obtain ⟨piece, -, takes⟩ := isLocal.takes_of_ok outcome
    exact ⟨piece, value, takes⟩
  | error fault later =>
    by_cases ended : fault.problem = .unexpectedEnd
    · exact completes (isLocal.exhausts outcome ended)
    · obtain ⟨front, symbol, rest, split, -, -⟩ := isLocal.refuses outcome ended
      simp at split

/-- A text that the first of two readers runs out of is completed for one after the other; if the
first one takes a front part, the rest is completed for the second one. -/
theorem Completes.bind {first : Reader α} {second : α → Reader β} {text : Text}
    (isLocal : Local first) (also : ∀ value, Local (second value))
    (before : Completes first text) (none : ∀ value, Completes (second value) [])
    (after : ∀ value piece rest, text = piece ++ rest → Takes first piece value →
      Completes (second value) rest) : Completes (first >>= second) text := by
  intro exhausts
  cases outcome : first ⟨0, text⟩ with
  | ok value middle =>
    obtain ⟨piece, ⟨split, -⟩, takes⟩ := isLocal.takes_of_ok outcome
    have failure := (bind_of_ok second outcome).symm.trans (exhausts 0)
    have runsOut : Exhausts (second value) middle.unread := (also value).exhausts failure rfl
    obtain ⟨more, found, onward⟩ := after value piece middle.unread split takes runsOut
    have inside : text = piece ++ middle.unread := split
    refine ⟨more, found, ?_⟩
    rw [inside, List.append_assoc]
    exact takes.bind onward
  | error fault later =>
    cases (bind_of_error second outcome).symm.trans (exhausts 0)
    obtain ⟨more, value, takes⟩ := before (isLocal.exhausts outcome rfl)
    obtain ⟨further, found, onward⟩ := (none value).inhabited (also value)
    refine ⟨more ++ further, found, ?_⟩
    rw [← List.append_assoc]
    exact takes.bind onward

/-- Reading on keeps completability. -/
theorem Completable.bind {first : Reader α} {second : α → Reader β} (before : Completable first)
    (after : ∀ value, Completable (second value)) : Completable (first >>= second) where
  isLocal := .bind before.isLocal fun value => (after value).isLocal
  completes text := by
    have onward := fun value => (after value).completes
    exact .bind before.isLocal (fun value => (after value).isLocal) (before.completes text)
      (fun value => onward value []) fun value _ rest _ _ => onward value rest

/-- An examination is completed by a character that it approves behind the run. -/
theorem completes_examine {skips : Char → Bool} {verdict : Text → Char → Except Problem α}
    (approves : ∀ run, ∃ symbol value, skips symbol = false ∧ verdict run symbol = .ok value)
    (text : Text) : Completes (examine skips verdict) text := by
  intro exhausts
  rcases passes_or_stops skips text with passes | ⟨run, symbol, rest, split, passes, stops⟩
  · obtain ⟨symbol, value, stops, approved⟩ := approves text
    refine ⟨[symbol], value, fun offset behind => ?_⟩
    have ahead : (⟨offset, text ++ [symbol] ++ behind⟩ : Cursor).unread =
        text ++ symbol :: behind := by simp
    rw [examine_of_stops verdict ahead passes stops, approved, Text.size_append, Text.size_cons,
      Text.size_nil, Nat.add_zero, Nat.add_assoc]
  · -- Where a character stops the run, the examination does not come to the end of the text.
    have ahead : (⟨0, text⟩ : Cursor).unread = run ++ symbol :: rest := split
    have same := (examine_of_stops verdict ahead passes stops).symm.trans (exhausts 0)
    have positive := symbol.utf8Size_pos
    have longer : text.size = run.size + (symbol.utf8Size + rest.size) := by simp [split]
    cases judged : verdict run symbol with
    | ok value => simp [judged] at same
    | error problem =>
      simp only [judged, Nat.zero_add, EStateM.Result.error.injEq, Fault.mk.injEq] at same
      have place : run.size = text.size := same.1.1
      omega

/-! ## The readers -/

theorem completable_mark (expected : Char) : Completable (mark expected) where
  isLocal := local_mark expected
  completes := completes_examine fun _ => ⟨expected, (), by simp, if_pos rfl⟩

theorem completable_senseDelimiter (parenthesisOpensList : Bool) :
    Completable (senseDelimiter parenthesisOpensList) where
  isLocal := local_senseDelimiter parenthesisOpensList
  completes := by
    rw [senseDelimiter_eq]
    exact completes_examine fun _ => ⟨'|', '|', rfl, by simp⟩

theorem completable_expectCloser (delimiter : Char) : Completable (expectCloser delimiter) where
  isLocal := local_expectCloser delimiter
  completes := by
    rw [expectCloser_eq]
    exact completes_examine fun _ => ⟨introducer, (), rfl, if_pos rfl⟩

theorem completable_readContent (delimiter : Char) : Completable (readContent delimiter) := by
  have content : Completable (examine (· ≠ delimiter) fun run _ => .ok run) :=
    { isLocal := local_examine _ fun run symbol problem judged => by cases judged
      completes := completes_examine fun run => ⟨delimiter, run, by simp, rfl⟩ }
  rw [readContent_eq]
  exact content.bind fun content =>
    (completable_expectCloser delimiter).bind fun _ => .pure content

theorem completable_readToken : Completable readToken := by
  rw [readToken_eq]
  exact (completable_mark introducer).bind fun _ =>
    (completable_senseDelimiter false).bind completable_readContent

/-- The token of a parameter runs out of the texts that a token runs out of. -/
theorem exhausts_readToken {index : Nat} {text : Text}
    (exhausts : Exhausts (readParameterToken index) text) : Exhausts readToken text := by
  have failure := exhausts 0
  unfold readParameterToken at failure
  cases outcome : readToken ⟨0, text⟩ with
  | ok parameter later => simp [outcome] at failure
  | error fault later =>
    obtain ⟨offset, problem⟩ := fault
    have ended : problem = .unexpectedEnd := by
      cases problem <;> simp [outcome, Fault.inParameter] at failure ⊢
    exact local_readToken.exhausts outcome ended

/-- The token of a parameter is completed like any token. -/
theorem completable_readParameterToken (index : Nat) :
    Completable (readParameterToken index) where
  isLocal := local_readParameterToken index
  completes := by
    intro text exhausts
    have token : Exhausts readToken text := exhausts_readToken exhausts
    obtain ⟨more, value, takes⟩ := completable_readToken.completes text token
    refine ⟨more, value, fun offset behind => ?_⟩
    simp only [readParameterToken, takes offset behind]

theorem completable_readSeparator : Completable readSeparator where
  isLocal := local_readSeparator
  completes := by
    rw [readSeparator_eq]
    exact completes_examine fun _ => ⟨')', false, by decide, rfl⟩

theorem completable_readParameter (index : Nat) : Completable (readParameter index) :=
  (completable_readParameterToken index).bind fun parameter =>
    completable_readSeparator.bind fun more => .pure (parameter, more)

/-- Where nothing is ahead, a list with one empty parameter is a completion. -/
theorem completes_readParametersFrom_nil (index : Nat) :
    Completes (readParametersFrom index) [] := by
  intro _
  have gap : Gap [] := by decide
  have outside : '!' ∉ ([] : Text) := by simp
  have form := ListForm.last gap (.delimited '!' outside) gap
  exact ⟨_, _, fun offset behind => readParametersFrom_of_listForm form index _ _ ⟨rfl, rfl⟩⟩

/-- What follows a parameter: the rest of the list behind a comma, and nothing behind a
parenthesis. -/
theorem completes_readParametersFrom_rest {index : Nat} {text : Text} (found : Text × Bool)
    (others : found.2 = true → Completes (readParametersFrom index) text) :
    Completes (if found.2 then
      readParametersFrom index >>= fun parameters => pure (found.1 :: parameters)
      else pure [found.1]) text := by
  have last := fun parameters : List Text => Completable.pure (found.1 :: parameters)
  split
  · rename_i more
    exact .bind (local_readParametersFrom index) (fun parameters => (last parameters).isLocal)
      (others more) (fun parameters => (last parameters).completes [])
      fun parameters _ rest _ _ => (last parameters).completes rest
  · exact (Completable.pure [found.1]).completes text

/-- A parameter list is completed within the parameter where it ends, and behind a comma by a list
of one parameter. -/
theorem completable_readParametersFrom (index : Nat) : Completable (readParametersFrom index) where
  isLocal := local_readParametersFrom index
  completes := by
    intro text
    induction remaining : text.length using Nat.strongRecOn generalizing index text with
    | ind length hypothesis =>
      have also : ∀ found : Text × Bool, Local (if found.2 then
          readParametersFrom (index + 1) >>= fun parameters => pure (found.1 :: parameters)
          else pure [found.1]) := by
        intro found
        split
        · exact .bind (local_readParametersFrom (index + 1)) fun parameters =>
            .pure (found.1 :: parameters)
        · exact .pure [found.1]
      rw [readParametersFrom_eq]
      have first := (completable_readParameter index).completes text
      refine .bind (local_readParameter index) also first (fun found => ?_)
        fun found piece rest split takes => ?_
      · exact completes_readParametersFrom_rest found fun _ =>
          completes_readParametersFrom_nil (index + 1)
      · have shorter := (strictlyForward_readParameter index).length_lt (takes 0 rest)
        have less : rest.length < length := by
          rw [← remaining, split]
          exact shorter
        exact completes_readParametersFrom_rest found fun _ =>
          hypothesis rest.length less (index + 1) rest rfl

theorem completable_readName (delimiter : Char) : Completable (readName delimiter) where
  isLocal := local_readName delimiter
  completes := by
    rw [readName_eq]
    exact completes_examine fun run => ⟨delimiter, (run, .delimiter), by simp, by simp⟩

theorem completable_readParameters (delimiter : Char) (ending : NameEnd) :
    Completable (readParameters delimiter ending) := by
  cases ending with
  | delimiter => exact .pure []
  | parameterList =>
    rw [readParameters_parameterList]
    exact (completable_readParametersFrom 1).bind fun parameters =>
      (completable_mark delimiter).bind fun _ => .pure parameters

/-- Where a signature runs out of text, some continuation is a signature. -/
theorem completable_readSignature : Completable readSignature := by
  rw [readSignature_eq]
  exact (completable_senseDelimiter true).bind fun delimiter =>
    (completable_readName delimiter).bind fun found =>
      (completable_readParameters delimiter found.2).bind fun parameters =>
        (completable_expectCloser delimiter).bind fun _ => .pure (found.1, parameters)

/-! ## Where faults are -/

/-- A fault is at the earliest place: the text before the character that shows it begins an accepted
text, and with the character it begins none. -/
def Earliest (reader : Reader α) (cursor : Cursor) (fault : Fault) : Prop :=
  ∃ (front : Text) (symbol : Char) (rest : Text), cursor.unread = front ++ symbol :: rest ∧
    fault.offset = cursor.offset + front.size ∧
    (∃ more, Accepts reader (front ++ more)) ∧ ∀ more, ¬ Accepts reader (front ++ symbol :: more)

/-- The end of the text is a fault exactly when the text is a proper front part of an accepted one
and does not begin with one. -/
theorem Completable.unexpectedEnd_iff {reader : Reader α} (completable : Completable reader)
    (cursor : Cursor) :
    (∃ fault later, reader cursor = .error fault later ∧ fault.problem = .unexpectedEnd) ↔
      (∃ more, more ≠ [] ∧ Accepts reader (cursor.unread ++ more)) ∧
        ∀ piece, piece <+: cursor.unread → ¬ Accepts reader piece := by
  constructor
  · rintro ⟨fault, later, failure, ended⟩
    have beginsNone : ∀ piece, piece <+: cursor.unread → ¬ Accepts reader piece := by
      intro piece begins accepts
      obtain ⟨value, takes⟩ := completable.isLocal.takes accepts
      obtain ⟨last, success⟩ := takes.ok begins
      cases success.symm.trans failure
    obtain ⟨more, value, takes⟩ :=
      completable.completes cursor.unread (completable.isLocal.exhausts failure ended)
    refine ⟨⟨more, ?_, takes.accepts⟩, beginsNone⟩
    rintro rfl
    have whole := takes.accepts
    rw [List.append_nil] at whole
    exact beginsNone cursor.unread (List.prefix_refl _) whole
  · rintro ⟨⟨more, -, accepts⟩, beginsNone⟩
    cases outcome : reader cursor with
    | ok value later =>
      obtain ⟨piece, ⟨split, -⟩, takes⟩ := completable.isLocal.takes_of_ok outcome
      exact absurd takes.accepts (beginsNone piece ⟨later.unread, split.symm⟩)
    | error fault later =>
      by_cases ended : fault.problem = .unexpectedEnd
      · exact ⟨fault, later, rfl, ended⟩
      · obtain ⟨front, symbol, rest, split, -, refuses⟩ :=
          completable.isLocal.refuses outcome ended
        rw [split, List.append_assoc] at accepts
        exact absurd accepts (refuses.not_accepts (rest ++ more))

/-- Any other fault is at the earliest place. -/
theorem Completable.earliest {reader : Reader α} (completable : Completable reader)
    {cursor later : Cursor} {fault : Fault} (failure : reader cursor = .error fault later)
    (other : fault.problem ≠ .unexpectedEnd) : Earliest reader cursor fault := by
  obtain ⟨front, symbol, rest, split, place, refuses⟩ := completable.isLocal.refuses failure other
  obtain ⟨more, value, takes⟩ :=
    completable.completes front (completable.isLocal.exhausts_front refuses)
  exact ⟨front, symbol, rest, split, place, ⟨more, takes.accepts⟩, refuses.not_accepts⟩

end Token
end TextMacros
