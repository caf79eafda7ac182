import TextMacros.Proofs.Token.Examination

/-!
# Locality

What a reader does depends on the characters it looks at, and on nothing before or behind them. A
success looks at the piece it reads. A refusal looks at a front part of the text and the character
that shows the fault. Only the end of the text makes a reader look at all of it. So a reader says
the same of a piece wherever it stands, up to the position (`Local`).
-/

namespace TextMacros
namespace Token

variable {α β : Type}

/-- The three ways to read a text, each with the part of the text that decides it. -/
inductive Reading (reader : Reader α) (text : Text) : Prop
  /-- A front part is read, whatever stands behind it. -/
  | accepted (value : α) (piece rest : Text) (split : text = piece ++ rest)
    (always : ∀ offset behind,
      reader ⟨offset, piece ++ behind⟩ = .ok value ⟨offset + piece.size, behind⟩)
  /-- A character is refused, whatever stands behind it. -/
  | refused (problem : Problem) (front : Text) (symbol : Char) (rest : Text)
    (split : text = front ++ symbol :: rest) (shown : problem ≠ .unexpectedEnd)
    (always : ∀ offset behind, reader ⟨offset, front ++ symbol :: behind⟩ =
      .error ⟨offset + front.size, problem⟩ ⟨offset + front.size + symbol.utf8Size, behind⟩)
  /-- The text ends too early. -/
  | exhausted (always : ∀ offset, reader ⟨offset, text⟩ =
      .error ⟨offset + text.size, .unexpectedEnd⟩ ⟨offset + text.size, []⟩)

/-- A reader that reads every text by what it looks at. -/
def Local (reader : Reader α) : Prop := ∀ text, Reading reader text

/-- To read nothing is local. -/
theorem Local.pure (value : α) : Local (Pure.pure value) := by
  intro text
  exact .accepted value [] text rfl fun offset behind => rfl

/-- How a text is read by two readers in order. -/
theorem Reading.bind {first : Reader α} {second : α → Reader β} {text : Text}
    (before : Reading first text)
    (after : ∀ value piece rest, text = piece ++ rest →
      (∀ offset behind,
        first ⟨offset, piece ++ behind⟩ = .ok value ⟨offset + piece.size, behind⟩) →
      Reading (second value) rest) : Reading (first >>= second) text := by
  cases before with
  | refused problem front symbol rest split shown always =>
    exact .refused problem front symbol rest split shown fun offset behind =>
      bind_of_error _ (always offset behind)
  | exhausted always => exact .exhausted fun offset => bind_of_error _ (always offset)
  | accepted value piece rest split always =>
    cases after value piece rest split always with
    | accepted found more last splitMore alwaysMore =>
      refine .accepted found (piece ++ more) last ?_ fun offset behind => ?_
      · rw [split, splitMore, List.append_assoc]
      · rw [List.append_assoc, bind_of_ok _ (always offset (more ++ behind)), alwaysMore,
          Text.size_append, Nat.add_assoc]
    | refused problem front symbol last splitMore shown alwaysMore =>
      refine .refused problem (piece ++ front) symbol last ?_ shown fun offset behind => ?_
      · rw [split, splitMore, List.append_assoc]
      · rw [List.append_assoc, bind_of_ok _ (always offset (front ++ symbol :: behind)),
          alwaysMore, Text.size_append, Nat.add_assoc]
    | exhausted alwaysMore =>
      refine .exhausted fun offset => ?_
      rw [split, bind_of_ok _ (always offset rest), alwaysMore, Text.size_append, Nat.add_assoc]

/-- Reading on is local. -/
theorem Local.bind {first : Reader α} {second : α → Reader β} (before : Local first)
    (after : ∀ value, Local (second value)) : Local (first >>= second) := by
  intro text
  exact (before text).bind fun value _ rest _ _ => after value rest

/-- An examination looks at a run and the character that ends it. -/
theorem local_examine (skips : Char → Bool) {verdict : Text → Char → Except Problem α}
    (shown : ∀ run symbol problem, verdict run symbol = .error problem →
      problem ≠ .unexpectedEnd) : Local (examine skips verdict) := by
  intro text
  rcases passes_or_stops skips text with passes | ⟨run, symbol, rest, split, passes, stops⟩
  · refine .exhausted fun offset => ?_
    have ahead : ∀ symbol ∈ (⟨offset, text⟩ : Cursor).unread, skips symbol = true := passes
    exact examine_of_passes verdict ahead
  · have ahead : ∀ offset behind, (⟨offset, run ++ symbol :: behind⟩ : Cursor).unread =
        run ++ symbol :: behind := fun _ _ => rfl
    have examined := fun offset behind =>
      examine_of_stops verdict (ahead offset behind) passes stops
    dsimp only at examined
    cases judged : verdict run symbol with
    | ok value =>
      refine .accepted value (run ++ [symbol]) rest (by simp [split]) fun offset behind => ?_
      have behindRun : run ++ [symbol] ++ behind = run ++ symbol :: behind := by simp
      have size : (run ++ [symbol]).size = run.size + symbol.utf8Size := by simp
      rw [behindRun, examined, judged, size, Nat.add_assoc]
    | error problem =>
      refine .refused problem run symbol rest split (shown run symbol problem judged) ?_
      intro offset behind
      rw [examined, judged]

/-! ## The readers -/

theorem local_mark (expected : Char) : Local (mark expected) := by
  refine local_examine _ fun run symbol problem judged => ?_
  split at judged
  · cases judged
  · cases judged
    simp

theorem local_senseDelimiter (parenthesisOpensList : Bool) :
    Local (senseDelimiter parenthesisOpensList) := by
  rw [senseDelimiter_eq]
  refine local_examine _ fun run symbol problem judged => ?_
  split at judged
  · cases judged
    simp
  · cases judged

theorem local_expectCloser (delimiter : Char) : Local (expectCloser delimiter) := by
  rw [expectCloser_eq]
  refine local_examine _ fun run symbol problem judged => ?_
  split at judged
  · cases judged
  · cases judged
    simp

theorem local_readContent (delimiter : Char) : Local (readContent delimiter) := by
  rw [readContent_eq]
  refine .bind (local_examine _ fun run symbol problem judged => ?_) fun content =>
    .bind (local_expectCloser delimiter) fun _ => .pure content
  cases judged

theorem local_readToken : Local readToken := by
  rw [readToken_eq]
  exact .bind (local_mark introducer) fun _ =>
    .bind (local_senseDelimiter false) local_readContent

/-- The token of a parameter is read like any token; its faults name the parameter. -/
theorem local_readParameterToken (index : Nat) : Local (readParameterToken index) := by
  intro text
  cases local_readToken text with
  | accepted value piece rest split always =>
    refine .accepted value piece rest split fun offset behind => ?_
    simp only [readParameterToken, always]
  | refused problem front symbol rest split shown always =>
    refine .refused (.malformedParameter index problem) front symbol rest split (by simp)
      fun offset behind => ?_
    simp only [readParameterToken, always]
    cases problem with
    | unexpectedEnd => exact absurd rfl shown
    | _ => rfl
  | exhausted always =>
    refine .exhausted fun offset => ?_
    simp only [readParameterToken, always]
    rfl

theorem local_readSeparator : Local readSeparator := by
  rw [readSeparator_eq]
  refine local_examine _ fun run symbol problem judged => ?_
  split at judged
  · cases judged
  · split at judged
    · cases judged
    · cases judged
      simp

theorem local_readParameter (index : Nat) : Local (readParameter index) :=
  .bind (local_readParameterToken index) fun parameter =>
    .bind local_readSeparator fun more => .pure (parameter, more)

/-- A parameter list is read by its parameters, each of which leaves less to read. -/
theorem local_readParametersFrom (index : Nat) : Local (readParametersFrom index) := by
  intro text
  induction remaining : text.length using Nat.strongRecOn generalizing index text with
  | ind length hypothesis =>
    rw [readParametersFrom_eq]
    refine (local_readParameter index text).bind fun found piece rest split always => ?_
    -- The length of the text decreases with each parameter, so the list is read to its end.
    cases more : found.2 with
    | false => exact Local.pure [found.1] rest
    | true =>
      have shorter := (strictlyForward_readParameter index).length_lt (always 0 rest)
      have less : rest.length < length := by
        rw [← remaining, split]
        exact shorter
      exact (hypothesis rest.length less (index + 1) rest rfl).bind fun parameters _ last _ _ =>
        Local.pure (found.1 :: parameters) last

theorem local_readName (delimiter : Char) : Local (readName delimiter) := by
  rw [readName_eq]
  refine local_examine _ fun run symbol problem judged => ?_
  cases judged

theorem local_readParameters (delimiter : Char) (ending : NameEnd) :
    Local (readParameters delimiter ending) := by
  cases ending with
  | delimiter => exact .pure []
  | parameterList =>
    rw [readParameters_parameterList]
    exact .bind (local_readParametersFrom 1) fun parameters =>
      .bind (local_mark delimiter) fun _ => .pure parameters

/-- A signature is read by what it looks at. -/
theorem local_readSignature : Local readSignature := by
  rw [readSignature_eq]
  exact .bind (local_senseDelimiter true) fun delimiter =>
    .bind (local_readName delimiter) fun found =>
      .bind (local_readParameters delimiter found.2) fun parameters =>
        .bind (local_expectCloser delimiter) fun _ => .pure (found.1, parameters)

end Token
end TextMacros
