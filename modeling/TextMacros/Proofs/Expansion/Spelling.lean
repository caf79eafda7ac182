import TextMacros.Proofs.Expansion.Edit

/-!
# Spellings of an invocation

One invocation has many spellings: its name and each of its parameters choose a delimiter, blanks
stand around the tokens and in the name. To write an invocation in another way is an edit of the
text that makes no difference to what is expanded (`run_respelled`): what is read is the canonical
name, the parameters and the span, and of these the edit changes the span alone.
-/

namespace TextMacros

open Token

namespace Expansion

variable {State : Type} {edit : Edit}

/-- A version whose piece spells an invocation notes and resolves it at the span of the piece, and
the run goes on behind the piece; where the name is blank, the run ends there. -/
theorem runFrom_pieceStart (services : Services State) {edited : Bool} {written spelling : Text}
    {parameters : List Text} (piece : edit.piece edited = introducer :: spelling)
    (spelled : SignatureForm written parameters spelling) :
    runFrom services (edit.version edited) (pieceStart edit edited) =
      match Name.canonical? written with
      | none => throw ⟨.malformedMacro .emptyName, edit.version edited,
          ⟨edit.front.size, (edit.piece edited).size⟩⟩
      | some name =>
        note (.recognized edit.origin name parameters.length
          ⟨edit.front.size, (edit.piece edited).size⟩) >>= fun _ =>
            resolve services (ofText services) (edit.version edited)
              ⟨name, parameters, ⟨edit.front.size, (edit.piece edited).size⟩⟩ >>= fun value =>
                runFrom services (edit.version edited) (pieceEnd edit edited) >>= fun others =>
                  pure (value ++ others) := by
  have size : (edit.piece edited).size = 1 + spelling.size := by
    rw [piece, size_introducer_cons]
  have ahead : pieceStart edit edited =
      ⟨edit.front.size, introducer :: (spelling ++ edit.back)⟩ := by
    rw [pieceStart, piece, List.cons_append]
  rw [ahead, runFrom_of_signature spelled, pieceEnd, size, Nat.add_assoc]
  rfl

/-- Where the pieces spell invocations of one name with as many parameters, and these invocations
are resolved alike, runs do the same in the pieces and behind them. -/
theorem agree_runFrom_pieceStart_of_resolve (services : Services State)
    {parameters : Bool → List Text} {found : Option Text}
    (pieces : ∀ edited, ∃ written spelling, edit.piece edited = introducer :: spelling ∧
      SignatureForm written (parameters edited) spelling ∧ Name.canonical? written = found)
    (count : (parameters true).length = (parameters false).length)
    {contexts : Bool → Context State} (follow : BothFollow edit contexts)
    (resolved : ∀ name, found = some name → ∀ noted, BothFollow edit noted →
      (∀ edited, (contexts edited).Alike (noted edited)) →
      Agree (BothFollow edit) (FailuresMove edit) fun edited =>
        resolve services (ofText services) (edit.version edited)
          ⟨name, parameters edited, ⟨edit.front.size, (edit.piece edited).size⟩⟩
          (noted edited)) :
    Agree (BothFollow edit) (FailuresMove edit) fun edited =>
      runFrom services (edit.version edited) (pieceStart edit edited) (contexts edited) := by
  choose names spellings begins spelled canonical using pieces
  let spans := fun edited => (⟨edit.front.size, (edit.piece edited).size⟩ : Span)
  have moves : edit.Moves (spans false) (spans true) := .piece
  have number : ∀ edited, (parameters edited).length = (parameters false).length := by
    intro edited
    cases edited with
    | false => rfl
    | true => exact count
  simp only [fun edited => runFrom_pieceStart services (begins edited) (spelled edited), canonical,
    number]
  cases found with
  | none =>
    exact .failure _ contexts (failuresMove_own moves (.malformedMacro .emptyName)) follow
      fun _ => rfl
  | some name =>
    have noted := follow.recognized name (parameters false).length moves
    have agree := resolved name rfl _ noted fun edited => ⟨rfl, rfl, rfl, rfl⟩
    exact agree.bind fun value later kept =>
      (agree_runFrom_pieceEnd edit services later kept).bind fun others final ended =>
        .success (value ++ others) final ended fun _ => rfl

/-- Where the pieces are spellings of one invocation, runs do the same in them and behind them. -/
theorem agree_runFrom_pieceStart (services : Services State) {parameters : List Text}
    {found : Option Text}
    (pieces : ∀ edited, ∃ written spelling, edit.piece edited = introducer :: spelling ∧
      SignatureForm written parameters spelling ∧ Name.canonical? written = found)
    (contexts : Bool → Context State) (follow : BothFollow edit contexts) :
    Agree (BothFollow edit) (FailuresMove edit) fun edited =>
      runFrom services (edit.version edited) (pieceStart edit edited) (contexts edited) :=
  agree_runFrom_pieceStart_of_resolve services pieces rfl follow fun name _ noted kept _ =>
    (extensible_journalsMove.lasting services).agree_resolve name parameters
      (failuresMove_own .piece) (fun _ => failuresMove_of_shared) noted kept

/-- The spelling of an invocation does not matter. Behind a complete front part, from any context
and whatever follows, a run over the text with one spelling of an invocation has the same end as
with another one, when the names have the same canonical spelling and the parameters are the same.
The spans of what stands in front are the same, the span of the invocation is that of its spelling,
and the spans behind are moved. This holds for every prompt, so also for one that records what it is
asked and told, and for every retriever that answers by the locator alone. -/
theorem run_respelled (services : Services State) (context : Context State) (origin : Origin)
    {front back written rewritten spelling respelling : Text} {parameters : List Text}
    (complete : Complete front) (spelled : SignatureForm written parameters spelling)
    (respelled : SignatureForm rewritten parameters respelling)
    (same : Name.canonical? rewritten = Name.canonical? written) :
    Edit.SameEnd ⟨origin, front, introducer :: spelling, introducer :: respelling, back⟩
      (run services ⟨origin, front ++ introducer :: spelling ++ back⟩ context)
      (run services ⟨origin, front ++ introducer :: respelling ++ back⟩ context) := by
  let edit : Edit := ⟨origin, front, introducer :: spelling, introducer :: respelling, back⟩
  have pieces : ∀ edited, ∃ name piece, edit.piece edited = introducer :: piece ∧
      SignatureForm name parameters piece ∧
      Name.canonical? name = Name.canonical? written := by
    intro edited
    cases edited with
    | false => exact ⟨written, spelling, rfl, spelled, rfl⟩
    | true => exact ⟨rewritten, respelling, rfl, respelled, same⟩
  exact sameEnd_run complete services context (agree_runFrom_pieceStart services pieces)

/-- A comparison behind a line break, spelled with other blanks and with delimiters that are a tab,
a space and a comma. -/
theorem run_respelled_delimiters :
    let services : Services Unit := ⟨[], .silent, .offline⟩
    let context : Context Unit := ⟨⟨[.empty]⟩, .empty, .ofLimit 5, (), #[]⟩
    let front : Text := "1\\|new line|\\2".toList
    let spelling : Text := "|is greater than(\\!2!\\,\\!1!\\)|\\".toList
    let respelling : Text := "\tis  greater than (\\ 2 \\ ,\n\\,1,\\) \n\t\\".toList
    let parameters : List Text := [['2'], ['1']]
    Complete front ∧ SignatureForm "is greater than".toList parameters spelling ∧
    SignatureForm "is  greater than ".toList parameters respelling ∧
    Name.canonical? "is  greater than ".toList = Name.canonical? "is greater than".toList ∧
    Edit.SameEnd ⟨.body [], front, introducer :: spelling, introducer :: respelling, ['3']⟩
      (run services ⟨.body [], front ++ introducer :: spelling ++ ['3']⟩ context)
      (run services ⟨.body [], front ++ introducer :: respelling ++ ['3']⟩ context) := by
  intro services context front spelling respelling parameters
  have complete : Complete front := by
    let lineBreak : Passage := ⟨['1'], "new line".toList, [], "|new line|\\".toList⟩
    have spelled : SignatureForm lineBreak.name [] lineBreak.spelling :=
      .plain '|' (by decide) (by decide) (by decide)
    have last : Segmentation [] ['2'] ['2'] := .literal (by decide)
    have whole : Segmentation [lineBreak] ['2'] front := .passage (by decide) spelled last
    exact ⟨_, _, whole⟩
  have spelled : SignatureForm "is greater than".toList parameters spelling := by
    have first : TokenForm ['2'] "\\!2!\\".toList := .delimited '!' (by decide)
    have second : TokenForm ['1'] "\\!1!\\".toList := .delimited '!' (by decide)
    have gap : Gap [] := by decide
    have list : ListForm parameters "\\!2!\\,\\!1!\\)".toList :=
      .more gap first gap (.last gap second gap)
    exact .list '|' (by decide) (by decide) (by decide) list gap (by decide)
  have respelled : SignatureForm "is  greater than ".toList parameters respelling := by
    have first : TokenForm ['2'] "\\ 2 \\".toList := .delimited ' ' (by decide)
    have second : TokenForm ['1'] "\\,1,\\".toList := .delimited ',' (by decide)
    have none : Gap [] := by decide
    have space : Gap [' '] := by decide
    have line : Gap ['\n'] := by decide
    have list : ListForm parameters "\\ 2 \\ ,\n\\,1,\\)".toList :=
      .more none first space (.last line second none)
    have behind : Gap [' ', '\n'] := by decide
    exact .list '\t' (by decide) (by decide) (by decide) list behind (by decide)
  have same : Name.canonical? "is  greater than ".toList =
      Name.canonical? "is greater than".toList := by decide
  exact ⟨complete, spelled, respelled, same,
    run_respelled services context (.body []) complete spelled respelled same⟩

end Expansion
end TextMacros
