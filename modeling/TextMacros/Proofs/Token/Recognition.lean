import TextMacros.Proofs.Token.Examination
import TextMacros.Proofs.Token.Form

/-!
# Recognition

A reader recognizes a form when its successes are exactly the pieces of that form: it returns a
value and stops behind a piece if and only if the piece is a spelling of the value. Since a reader
has one outcome, the spellings of a recognized form are prefix-free and have one value each
(`Recognizes.prefix_free`), so a form is unambiguous as soon as some reader recognizes it.

A run of characters is only recognized together with the character that ends it
(`recognizes_examine`); every other reader is composed from such examinations.
-/

namespace TextMacros
namespace Token

variable {α β : Type}

/-- A reader returns a value and stops behind a piece exactly when the piece spells the value. -/
def Recognizes (reader : Reader α) (form : α → Text → Prop) : Prop :=
  ∀ cursor value later,
    reader cursor = .ok value later ↔ ∃ piece, form value piece ∧ cursor.Reads later piece

namespace Recognizes

variable {reader : Reader α} {form : α → Text → Prop}

/-- Forms with the same spellings are recognized alike. -/
theorem congr {same : α → Text → Prop} (recognizes : Recognizes reader form)
    (agree : ∀ value piece, form value piece ↔ same value piece) : Recognizes reader same := by
  intro cursor value later
  rw [recognizes cursor value later]
  simp only [agree]

/-- The spellings of a recognized form are prefix-free, and each spells one value. -/
theorem prefix_free (recognizes : Recognizes reader form) {value other : α} {piece longer : Text}
    (spelled : form value piece) (also : form other longer) (begins : piece <+: longer) :
    piece = longer ∧ value = other := by
  obtain ⟨rest, rfl⟩ := begins
  have short := (recognizes ⟨0, piece ++ rest⟩ value ⟨piece.size, rest⟩).mpr
    ⟨piece, spelled, rfl, by simp⟩
  have long := (recognizes ⟨0, piece ++ rest⟩ other ⟨(piece ++ rest).size, []⟩).mpr
    ⟨piece ++ rest, also, by simp, by simp⟩
  rw [short] at long
  simp only [EStateM.Result.ok.injEq, Cursor.mk.injEq] at long
  obtain ⟨same, -, rfl⟩ := long
  exact ⟨by simp, same⟩

/-- Reading nothing is recognizing the empty piece. -/
theorem pure (found : α) :
    Recognizes (Pure.pure found) fun value piece => value = found ∧ piece = [] := by
  intro cursor value later
  change EStateM.Result.ok found cursor = .ok value later ↔ _
  constructor
  · rintro ⟨⟩
    exact ⟨[], ⟨rfl, rfl⟩, Cursor.Reads.refl cursor⟩
  · rintro ⟨_, ⟨rfl, rfl⟩, reads⟩
    rw [(Cursor.Reads.refl cursor).unique reads]

/-- Reading on recognizes the spellings of both forms in order. -/
theorem bind {second : α → Reader β} {next : α → β → Text → Prop}
    (before : Recognizes reader form) (after : ∀ found, Recognizes (second found) (next found)) :
    Recognizes (reader >>= second) fun value piece =>
      ∃ found front back, piece = front ++ back ∧ form found front ∧ next found value back := by
  intro cursor value later
  rw [bind_eq_ok]
  constructor
  · rintro ⟨found, middle, one, two⟩
    obtain ⟨front, spelled, readFront⟩ := (before cursor found middle).mp one
    obtain ⟨back, also, readBack⟩ := (after found middle value later).mp two
    exact ⟨front ++ back, ⟨found, front, back, rfl, spelled, also⟩, readFront.trans readBack⟩
  · rintro ⟨_, ⟨found, front, back, rfl, spelled, also⟩, reads⟩
    obtain ⟨middle, readFront, readBack⟩ := reads.split
    exact ⟨found, middle, (before cursor found middle).mpr ⟨front, spelled, readFront⟩,
      (after found middle value later).mpr ⟨back, also, readBack⟩⟩

end Recognizes

/-- An examination recognizes the runs, each with the character that ends it, that it approves. -/
theorem recognizes_examine (skips : Char → Bool) (verdict : Text → Char → Except Problem α) :
    Recognizes (examine skips verdict) fun value piece =>
      ∃ run symbol, piece = run ++ [symbol] ∧ (∀ passed ∈ run, skips passed = true) ∧
        skips symbol = false ∧ verdict run symbol = .ok value := by
  intro cursor value later
  constructor
  · intro success
    rcases passes_or_stops skips cursor.unread with all | ⟨run, symbol, rest, ahead, passes, stops⟩
    · simp [examine_of_passes verdict all] at success
    · rw [examine_of_stops verdict ahead passes stops] at success
      cases judged : verdict run symbol with
      | error problem => simp [judged] at success
      | ok found =>
        simp only [judged, EStateM.Result.ok.injEq] at success
        obtain ⟨rfl, rfl⟩ := success
        refine ⟨run ++ [symbol], ⟨run, symbol, rfl, passes, stops, judged⟩, ?_, ?_⟩
        · simp [ahead]
        · simp [Nat.add_assoc]
  · rintro ⟨_, ⟨run, symbol, rfl, passes, stops, approved⟩, reads⟩
    obtain ⟨laterOffset, laterUnread⟩ := later
    obtain ⟨ahead, behind⟩ := reads
    have split : cursor.unread = run ++ symbol :: laterUnread := by simpa using ahead
    have place : laterOffset = cursor.offset + run.size + symbol.utf8Size := by
      simpa [Nat.add_assoc] using behind
    rw [examine_of_stops verdict split passes stops, approved, place]


/-! ## What the readers recognize -/

/-- An expected character is recognized with the blanks before it. -/
theorem recognizes_mark (expected : Char) : Recognizes (mark expected) fun _ piece =>
    ∃ gap, Gap gap ∧ expected ∉ gap ∧ piece = gap ++ [expected] := by
  refine (recognizes_examine _ _).congr fun _ piece => ?_
  constructor
  · rintro ⟨run, symbol, rfl, passes, -, approved⟩
    split at approved
    · rename_i same
      subst same
      have both : ∀ passed ∈ run, isIgnorable passed = true ∧ passed ≠ symbol := by
        simpa using passes
      exact ⟨run, fun passed member => (both passed member).1,
        fun member => (both symbol member).2 rfl, rfl⟩
    · simp at approved
  · rintro ⟨gap, blank, outside, rfl⟩
    refine ⟨gap, expected, rfl, fun passed member => ?_, by simp, by simp⟩
    have differ : passed ≠ expected := fun same => outside (same ▸ member)
    simp [blank passed member, differ]

/-- An examination without a run recognizes the characters that it approves. -/
theorem recognizes_examine_next (verdict : Text → Char → Except Problem α) :
    Recognizes (examine (fun _ => false) verdict) fun value piece =>
      ∃ symbol, piece = [symbol] ∧ verdict [] symbol = .ok value := by
  refine (recognizes_examine _ _).congr fun value piece => ?_
  constructor
  · rintro ⟨run, symbol, rfl, passes, -, approved⟩
    obtain rfl : run = [] := List.eq_nil_iff_forall_not_mem.mpr fun passed member => by
      simpa using passes passed member
    exact ⟨symbol, rfl, approved⟩
  · rintro ⟨symbol, rfl, approved⟩
    exact ⟨[], symbol, rfl, by simp, rfl, approved⟩

/-- A delimiter is recognized as one character, which is no parenthesis where that opens a list. -/
theorem recognizes_senseDelimiter (parenthesisOpensList : Bool) :
    Recognizes (senseDelimiter parenthesisOpensList) fun delimiter piece =>
      piece = [delimiter] ∧ (parenthesisOpensList = true → delimiter ≠ '(') := by
  rw [senseDelimiter_eq]
  refine (recognizes_examine_next _).congr fun delimiter piece => ?_
  constructor
  · rintro ⟨symbol, rfl, approved⟩
    split at approved
    · simp at approved
    · rename_i refused
      obtain rfl : symbol = delimiter := by simpa using approved
      exact ⟨rfl, fun opens same => refused ⟨opens, same⟩⟩
  · rintro ⟨rfl, allowed⟩
    exact ⟨delimiter, rfl, if_neg fun both => allowed both.1 both.2⟩

/-- A closing introducer is recognized as one character. -/
theorem recognizes_expectCloser (delimiter : Char) :
    Recognizes (expectCloser delimiter) fun _ piece => piece = [introducer] := by
  rw [expectCloser_eq]
  refine (recognizes_examine_next _).congr fun _ piece => ?_
  constructor
  · rintro ⟨symbol, rfl, approved⟩
    split at approved
    · rename_i same
      rw [same]
    · simp at approved
  · rintro rfl
    exact ⟨introducer, rfl, if_pos rfl⟩

/-- The content of a token is recognized with its delimiter and the closing introducer. -/
theorem recognizes_readContent (delimiter : Char) :
    Recognizes (readContent delimiter) fun content piece =>
      delimiter ∉ content ∧ piece = content ++ [delimiter, introducer] := by
  rw [readContent_eq]
  refine ((recognizes_examine _ _).bind fun content =>
    (recognizes_expectCloser delimiter).bind fun _ => .pure content).congr fun content piece => ?_
  constructor
  · rintro ⟨found, front, back, rfl, ⟨run, symbol, rfl, passes, stops, approved⟩,
      _, closer, rest, rfl, rfl, rfl, rfl⟩
    obtain rfl : run = content := by simpa using approved
    obtain rfl : symbol = delimiter := by simpa using stops
    exact ⟨fun member => by simpa using passes symbol member, by simp⟩
  · rintro ⟨outside, rfl⟩
    refine ⟨content, content ++ [delimiter], [introducer], by simp,
      ⟨content, delimiter, rfl, fun passed member => ?_, by simp, rfl⟩,
      (), [introducer], [], by simp, rfl, rfl, rfl⟩
    have differ : passed ≠ delimiter := fun same => outside (same ▸ member)
    simp [differ]

/-- A token is recognized with the blanks before it. -/
theorem recognizes_readToken : Recognizes readToken fun content piece =>
    ∃ gap token, Gap gap ∧ TokenForm content token ∧ piece = gap ++ token := by
  rw [readToken_eq]
  refine ((recognizes_mark introducer).bind fun _ =>
    (recognizes_senseDelimiter false).bind recognizes_readContent).congr fun content piece => ?_
  constructor
  · rintro ⟨_, front, back, rfl, ⟨gap, blank, -, rfl⟩,
      delimiter, opening, closing, rfl, ⟨rfl, -⟩, outside, rfl⟩
    exact ⟨gap, _, blank, .delimited delimiter outside, by simp⟩
  · rintro ⟨gap, token, blank, ⟨delimiter, outside⟩, rfl⟩
    refine ⟨(), gap ++ [introducer], [delimiter] ++ (content ++ [delimiter, introducer]), by simp,
      ⟨gap, blank, fun member => ?_, rfl⟩,
      delimiter, [delimiter], _, rfl, ⟨rfl, by simp⟩, outside, rfl⟩
    exact absurd (blank introducer member) (by decide)

/-- A parameter token is recognized as a token. Its number shows only in faults. -/
theorem recognizes_readParameterToken (index : Nat) :
    Recognizes (readParameterToken index) fun content piece =>
      ∃ gap token, Gap gap ∧ TokenForm content token ∧ piece = gap ++ token := by
  intro cursor value later
  rw [← recognizes_readToken cursor value later]
  unfold readParameterToken
  cases readToken cursor <;> simp

/-- A separator is recognized with the blanks before it. -/
theorem recognizes_readSeparator : Recognizes readSeparator fun more piece =>
    ∃ gap, Gap gap ∧ piece = gap ++ [if more then ',' else ')'] := by
  rw [readSeparator_eq]
  refine (recognizes_examine _ _).congr fun more piece => ?_
  constructor
  · rintro ⟨gap, symbol, rfl, blank, -, approved⟩
    refine ⟨gap, blank, ?_⟩
    split at approved
    · rename_i comma
      obtain rfl : true = more := by simpa using approved
      rw [comma, if_pos rfl]
    · split at approved
      · rename_i closing
        obtain rfl : false = more := by simpa using approved
        rw [closing]
        rfl
      · simp at approved
  · rintro ⟨gap, blank, rfl⟩
    cases more with
    | true => exact ⟨gap, ',', rfl, blank, by decide, rfl⟩
    | false => exact ⟨gap, ')', rfl, blank, by decide, rfl⟩

/-- A parameter is recognized with what follows it. -/
theorem recognizes_readParameter (index : Nat) :
    Recognizes (readParameter index) fun value piece =>
      ∃ before token after, Gap before ∧ TokenForm value.1 token ∧ Gap after ∧
        piece = before ++ token ++ after ++ [if value.2 then ',' else ')'] := by
  refine ((recognizes_readParameterToken index).bind fun parameter =>
    recognizes_readSeparator.bind fun more => .pure (parameter, more)).congr
    fun (parameter, more) piece => ?_
  constructor
  · rintro ⟨_, front, back, rfl, ⟨before, token, blankBefore, written, rfl⟩,
      _, separator, rest, rfl, ⟨after, blankAfter, rfl⟩, ⟨⟩, rfl⟩
    exact ⟨before, token, after, blankBefore, written, blankAfter, by simp⟩
  · rintro ⟨before, token, after, blankBefore, written, blankAfter, rfl⟩
    exact ⟨parameter, before ++ token, after ++ [if more then ',' else ')'], by simp,
      ⟨before, token, blankBefore, written, rfl⟩,
      more, after ++ [if more then ',' else ')'], [], by simp, ⟨after, blankAfter, rfl⟩, rfl, rfl⟩

/-- What is read as a parameter list has the form of one. -/
theorem listForm_of_readParametersFrom {index : Nat} {cursor later : Cursor}
    {parameters : List Text} (success : readParametersFrom index cursor = .ok parameters later) :
    ∃ piece, ListForm parameters piece ∧ cursor.Reads later piece := by
  fun_induction readParametersFrom index cursor generalizing parameters with
  | case1 index cursor fault last outcome => simp at success
  | case2 index cursor parameter middle outcome =>
    obtain ⟨piece, ⟨before, token, after, blankBefore, written, blankAfter, rfl⟩, reads⟩ :=
      (recognizes_readParameter index cursor (parameter, false) middle).mp outcome
    simp only [EStateM.Result.ok.injEq] at success
    obtain ⟨rfl, rfl⟩ := success
    exact ⟨_, .last blankBefore written blankAfter, reads⟩
  | case3 index cursor parameter middle outcome fault last rest hypothesis => simp at success
  | case4 index cursor parameter middle outcome others last rest hypothesis =>
    obtain ⟨piece, ⟨before, token, after, blankBefore, written, blankAfter, rfl⟩, reads⟩ :=
      (recognizes_readParameter index cursor (parameter, true) middle).mp outcome
    simp only [EStateM.Result.ok.injEq] at success
    obtain ⟨rfl, rfl⟩ := success
    obtain ⟨back, form, readBack⟩ := hypothesis rest
    exact ⟨_, .more blankBefore written blankAfter form, reads.trans readBack⟩

/-- A text with the form of a parameter list is read as one. -/
theorem readParametersFrom_of_listForm {parameters : List Text} {piece : Text}
    (form : ListForm parameters piece) :
    ∀ index cursor later, cursor.Reads later piece →
      readParametersFrom index cursor = .ok parameters later := by
  induction form with
  | last blankBefore written blankAfter =>
    intro index cursor later reads
    have success := (recognizes_readParameter index cursor (_, false) later).mpr
      ⟨_, ⟨_, _, _, blankBefore, written, blankAfter, rfl⟩, reads⟩
    rw [readParametersFrom_eq, bind_of_ok _ success]
    rfl
  | more blankBefore written blankAfter rest hypothesis =>
    intro index cursor later reads
    obtain ⟨middle, readFront, readBack⟩ := reads.split
    have success := (recognizes_readParameter index cursor (_, true) middle).mpr
      ⟨_, ⟨_, _, _, blankBefore, written, blankAfter, rfl⟩, readFront⟩
    rw [readParametersFrom_eq, bind_of_ok _ success, if_pos rfl,
      bind_of_ok _ (hypothesis (index + 1) middle later readBack)]
    rfl

/-- A parameter list is recognized, whatever number its first parameter has. -/
theorem recognizes_readParametersFrom (index : Nat) :
    Recognizes (readParametersFrom index) ListForm := fun cursor _ later =>
  ⟨listForm_of_readParametersFrom, fun ⟨_, form, reads⟩ =>
    readParametersFrom_of_listForm form index cursor later reads⟩

/-- A name is recognized with the character that ends it. -/
theorem recognizes_readName (delimiter : Char) :
    Recognizes (readName delimiter) fun value piece =>
      delimiter ∉ value.1 ∧ '(' ∉ value.1 ∧
        (value.2 = .delimiter ∧ piece = value.1 ++ [delimiter] ∨
          value.2 = .parameterList ∧ delimiter ≠ '(' ∧ piece = value.1 ++ ['(']) := by
  rw [readName_eq]
  refine (recognizes_examine _ _).congr fun (name, ending) piece => ?_
  constructor
  · rintro ⟨run, symbol, rfl, passes, stops, approved⟩
    have both : ∀ passed ∈ run, passed ≠ delimiter ∧ passed ≠ '(' := by simpa using passes
    simp only [Except.ok.injEq, Prod.mk.injEq] at approved
    obtain ⟨rfl, rfl⟩ := approved
    refine ⟨fun member => (both delimiter member).1 rfl, fun member => (both '(' member).2 rfl, ?_⟩
    by_cases same : symbol = delimiter
    · exact .inl ⟨if_pos same, by rw [same]⟩
    · have opening : symbol = '(' := by simpa [same] using stops
      exact .inr ⟨if_neg same, fun equal => same (opening.trans equal.symm), by rw [opening]⟩
  · rintro ⟨outside, closed, ends⟩
    have passes : ∀ passed ∈ name, decide (passed ≠ delimiter ∧ passed ≠ '(') = true := by
      intro passed member
      have differ : passed ≠ delimiter := fun same => outside (same ▸ member)
      have inside : passed ≠ '(' := fun same => closed (same ▸ member)
      simp [differ, inside]
    rcases ends with ⟨rfl, rfl⟩ | ⟨rfl, differ, rfl⟩
    · exact ⟨name, delimiter, rfl, passes, by simp, by rw [if_pos rfl]⟩
    · exact ⟨name, '(', rfl, passes, by simp, by rw [if_neg differ.symm]⟩

/-- The parameters behind a name are recognized up to the delimiter of the name. -/
theorem recognizes_readParameters (delimiter : Char) (ending : NameEnd) :
    Recognizes (readParameters delimiter ending) fun parameters piece =>
      match ending with
      | .delimiter => parameters = [] ∧ piece = []
      | .parameterList => ∃ list gap, ListForm parameters list ∧ Gap gap ∧ delimiter ∉ gap ∧
          piece = list ++ gap ++ [delimiter] := by
  cases ending with
  | delimiter => exact .pure []
  | parameterList =>
    rw [readParameters_parameterList]
    refine ((recognizes_readParametersFrom 1).bind fun parameters =>
      (recognizes_mark delimiter).bind fun _ => .pure parameters).congr fun parameters piece => ?_
    constructor
    · rintro ⟨_, list, back, rfl, written, _, closing, rest, rfl, ⟨gap, blank, beyond, rfl⟩,
        rfl, rfl⟩
      exact ⟨list, gap, written, blank, beyond, by simp⟩
    · rintro ⟨list, gap, written, blank, beyond, rfl⟩
      exact ⟨parameters, list, gap ++ [delimiter], by simp, written, (), gap ++ [delimiter], [],
        by simp, ⟨gap, blank, beyond, rfl⟩, rfl, rfl⟩

/-- A signature is recognized. -/
theorem recognizes_readSignature :
    Recognizes readSignature fun value piece => SignatureForm value.1 value.2 piece := by
  rw [readSignature_eq]
  refine ((recognizes_senseDelimiter true).bind fun delimiter =>
    (recognizes_readName delimiter).bind fun found =>
      (recognizes_readParameters delimiter found.2).bind fun parameters =>
        (recognizes_expectCloser delimiter).bind fun _ => .pure (found.1, parameters)).congr
    fun (name, parameters) piece => ?_
  constructor
  · rintro ⟨delimiter, _, _, rfl, ⟨rfl, allowed⟩, ⟨_, ending⟩, _, _, rfl, ⟨outside, closed, ends⟩,
      _, _, _, rfl, listed, _, _, _, rfl, rfl, ⟨⟩, rfl⟩
    rcases ends with ⟨rfl, rfl⟩ | ⟨rfl, -, rfl⟩
    · obtain ⟨rfl, rfl⟩ := listed
      simpa using SignatureForm.plain delimiter (allowed rfl) outside closed
    · obtain ⟨list, gap, written, blank, beyond, rfl⟩ := listed
      simpa using SignatureForm.list delimiter (allowed rfl) outside closed written blank beyond
  · rintro (⟨delimiter, allowed, outside, closed⟩ |
      ⟨delimiter, allowed, outside, closed, written, blank, beyond⟩)
    · exact ⟨delimiter, [delimiter], name ++ [delimiter, introducer], by simp,
        ⟨rfl, fun _ => allowed⟩, (name, .delimiter), name ++ [delimiter], [introducer], by simp,
        ⟨outside, closed, .inl ⟨rfl, rfl⟩⟩, [], [], [introducer], rfl, ⟨rfl, rfl⟩,
        (), [introducer], [], rfl, rfl, rfl, rfl⟩
    · rename_i list gap
      exact ⟨delimiter, [delimiter], name ++ ['('] ++ list ++ gap ++ [delimiter, introducer],
        by simp, ⟨rfl, fun _ => allowed⟩, (name, .parameterList), name ++ ['('],
        list ++ gap ++ [delimiter, introducer], by simp,
        ⟨outside, closed, .inr ⟨rfl, allowed, rfl⟩⟩, parameters, list ++ gap ++ [delimiter],
        [introducer], by simp, ⟨list, gap, written, blank, beyond, rfl⟩,
        (), [introducer], [], rfl, rfl, rfl, rfl⟩

end Token
end TextMacros
