import Mathlib.Data.List.Forall2
import TextMacros.Proofs.Expansion.Journal
import TextMacros.Proofs.Expansion.Traversal

/-!
# Edited texts

A text in which one piece is replaced is, apart from that piece, two parts that both versions have
in common. Runs over the versions do the same in the part before the piece, which has to be
complete, and in the part behind it. So when they do the same in the piece, they end in the same way
(`sameEnd_run`): their outputs, causes and contexts are the same, the spans of the text move with
the edit (`Edit.Moves`), and a failure of the text itself quotes the version it was met in.
-/

namespace TextMacros

open Token

/-- A text in which one piece is replaced by another one. -/
structure Edit where
  /-- Where the text comes from. -/
  origin : Origin
  /-- The text before the piece. -/
  front : Text
  /-- The piece that is replaced. -/
  old : Text
  /-- The piece that replaces it. -/
  new : Text
  /-- The text behind the piece. -/
  back : Text

namespace Edit

/-- The piece, before and after the edit. -/
def piece (edit : Edit) (edited : Bool) : Text := if edited then edit.new else edit.old

/-- The text, before and after the edit. -/
def version (edit : Edit) (edited : Bool) : Fragment :=
  ⟨edit.origin, edit.front ++ edit.piece edited ++ edit.back⟩

/-- A span of the text, and the span of the edited text that marks the same. -/
inductive Moves (edit : Edit) : Span → Span → Prop
  /-- Before the piece, a span stays where it is. -/
  | front (span : Span) (inside : span.stop ≤ edit.front.size) : edit.Moves span span
  /-- The span of one piece is that of the other. -/
  | piece : edit.Moves ⟨edit.front.size, edit.old.size⟩ ⟨edit.front.size, edit.new.size⟩
  /-- Behind the piece, a span moves with the text. -/
  | back (span : Span) (inside : span.stop ≤ edit.back.size) :
    edit.Moves (span.shift (edit.front.size + edit.old.size))
      (span.shift (edit.front.size + edit.new.size))

/-- A piece of the same size leaves all spans where they are. -/
theorem Moves.span_eq {edit : Edit} {span moved : Span} (moves : edit.Moves span moved)
    (size : edit.new.size = edit.old.size) : moved = span := by
  cases moves with
  | front => rfl
  | piece => rw [size]
  | back => rw [size]

/-- A failure in the text, and the one in the edited text: the same failure of a nested text, or the
same cause at the span that marks the same. -/
inductive MovesFailure (edit : Edit) : Failure → Failure → Prop
  /-- A failure of a nested text does not know the text around it. -/
  | nested (failure : Failure) : edit.MovesFailure failure failure
  /-- A failure of the text itself is shown in the text as it is. -/
  | own (cause : Cause) {span moved : Span} (moves : edit.Moves span moved) :
    edit.MovesFailure ⟨cause, edit.version false, span⟩ ⟨cause, edit.version true, moved⟩

/-- An edit leaves the cause of a failure as it is. -/
theorem MovesFailure.cause_eq {edit : Edit} {failure moved : Failure}
    (moves : edit.MovesFailure failure moved) : moved.cause = failure.cause := by
  cases moves <;> rfl

/-- A piece of the same size leaves the span of a failure where it is. -/
theorem MovesFailure.span_eq {edit : Edit} {failure moved : Failure}
    (moves : edit.MovesFailure failure moved) (size : edit.new.size = edit.old.size) :
    moved.span = failure.span := by
  cases moves with
  | nested => rfl
  | own cause moves => exact moves.span_eq size

/-- An entry of the journal, and the one for the edited text: they differ in the span of an
invocation at most. -/
inductive MovesEntry (edit : Edit) : Entry → Entry → Prop
  /-- Most entries have no span. -/
  | same (entry : Entry) : edit.MovesEntry entry entry
  /-- A recognized invocation is noted with its span. -/
  | recognized (name : Text) (arity : Nat) {span moved : Span} (moves : edit.Moves span moved) :
    edit.MovesEntry (.recognized edit.origin name arity span)
      (.recognized edit.origin name arity moved)

/-- Two contexts that an edit does not tell apart: the scopes, the counters, the depth and the state
of the prompt are the same, and the journals differ in spans at most. -/
structure Follows {State : Type} (edit : Edit) (first second : Context State) : Prop extends
    first.Alike second where
  /-- The journals have the same entries, up to spans that have moved. -/
  journal : List.Forall₂ edit.MovesEntry first.journal.toList second.journal.toList

/-- Two ends of an expansion that an edit does not tell apart. -/
inductive SameEnd {State : Type} (edit : Edit) :
    EStateM.Result Failure (Context State) Text →
      EStateM.Result Failure (Context State) Text → Prop
  /-- Both succeed with the same output. -/
  | success (output : Text) {first second : Context State} (follows : edit.Follows first second) :
    edit.SameEnd (.ok output first) (.ok output second)
  /-- Both fail for the same cause. -/
  | failure {failure moved : Failure} {first second : Context State}
    (moves : edit.MovesFailure failure moved) (follows : edit.Follows first second) :
    edit.SameEnd (.error failure first) (.error moved second)

end Edit

namespace Expansion

variable {State : Type}

open Edit

section

variable (edit : Edit)

/-- The journals of the two versions, up to spans that have moved. -/
def JournalsMove (journals : Bool → Journal) : Prop :=
  List.Forall₂ edit.MovesEntry (journals false).toList (journals true).toList

/-- The contexts of the two versions. -/
def BothFollow : (Bool → Context State) → Prop := Recorded (JournalsMove edit)

/-- The failures of the two versions. -/
def FailuresMove (failures : Bool → Failure) : Prop :=
  edit.MovesFailure (failures false) (failures true)

end

variable {edit : Edit} {services : Services State}

/-- The same entries have the same spans. -/
theorem extensible_journalsMove : Extensible (JournalsMove edit) := by
  intro journals added matched
  have same : List.Forall₂ edit.MovesEntry added.toList added.toList :=
    List.forall₂_same.mpr fun entry _ => .same entry
  unfold JournalsMove
  simp only [Array.toList_append]
  exact List.rel_append matched same

/-- One context is not told apart from itself. -/
theorem bothFollow_refl (context : Context State) : BothFollow edit fun _ => context where
  alike := ⟨context, fun _ => .refl context⟩
  journals := List.forall₂_same.mpr fun entry _ => .same entry

/-- Each version notes an invocation at its own span. -/
theorem BothFollow.recognized {contexts : Bool → Context State} (follow : BothFollow edit contexts)
    (name : Text) (arity : Nat) {spans : Bool → Span}
    (moves : edit.Moves (spans false) (spans true)) :
    BothFollow edit fun edited =>
      (contexts edited).note (.recognized edit.origin name arity (spans edited)) where
  alike := follow.alike.note _
  journals := by
    have entry : List.Forall₂ edit.MovesEntry [.recognized edit.origin name arity (spans false)]
        [.recognized edit.origin name arity (spans true)] :=
      .cons (.recognized name arity moves) .nil
    have entries := List.rel_append follow.journals entry
    simp only [← Array.toList_push] at entries
    exact entries

/-- The two contexts of a family that follows an edit. -/
theorem BothFollow.follows {contexts : Bool → Context State} (follow : BothFollow edit contexts) :
    edit.Follows (contexts false) (contexts true) := by
  obtain ⟨⟨common, same⟩, journals⟩ := follow
  exact ⟨(same false).symm.trans (same true), journals⟩

/-- One failure of a nested text does not move. -/
theorem failuresMove_of_shared {failures : Bool → Failure} (same : Shared failures) :
    FailuresMove edit failures := by
  obtain ⟨common, rfl⟩ := same
  exact .nested common

/-- One cause in both versions, at spans that mark the same. -/
theorem failuresMove_own {spans : Bool → Span} (moves : edit.Moves (spans false) (spans true))
    (cause : Cause) : FailuresMove edit fun edited => ⟨cause, edit.version edited, spans edited⟩ :=
  .own cause moves

/-- Runs that agree in the sense of an edit have the same end. -/
theorem sameEnd_of_agree {results : Bool → EStateM.Result Failure (Context State) Text}
    (agree : Agree (BothFollow edit) (FailuresMove edit) results) :
    edit.SameEnd (results false) (results true) := by
  cases agree with
  | success output later kept outcome =>
    rw [outcome false, outcome true]
    exact .success output kept.follows
  | failure failure later moves kept outcome =>
    rw [outcome false, outcome true]
    exact .failure moves kept.follows

/-! ## The common parts -/

/-- The part before the piece, in the two versions and as a text of its own. -/
def editFront (edit : Edit) : Part (Option Bool) where
  text := edit.front
  origin _ := edit.origin
  before _ := []
  after
    | none => []
    | some edited => edit.piece edited ++ edit.back

/-- The part behind the piece. -/
def editBack (edit : Edit) : Part Bool where
  text := edit.back
  origin _ := edit.origin
  before edited := edit.front ++ edit.piece edited
  after _ := []

/-- Both versions hold the front part. -/
theorem editFront_host (edited : Bool) :
    (editFront edit).host (some edited) = edit.version edited := by
  simp [editFront, Part.host, version]

/-- Alone, the front part is the whole text. -/
theorem editFront_host_none : (editFront edit).host none = ⟨edit.origin, edit.front⟩ := by
  simp [editFront, Part.host]

/-- Both versions hold the back part. -/
theorem editBack_host (edited : Bool) : (editBack edit).host edited = edit.version edited := by
  simp [editBack, Part.host, version]

/-- Spans of the back part move. -/
theorem moves_editBack (span : Span) (inside : span.stop ≤ edit.back.size) :
    edit.Moves (span.shift ((editBack edit).before false).size)
      (span.shift ((editBack edit).before true).size) := by
  have moved : ∀ edited, span.shift ((editBack edit).before edited).size =
      span.shift (edit.front.size + (edit.piece edited).size) := by
    intro edited
    exact congrArg span.shift (Text.size_append edit.front (edit.piece edited))
  rw [moved, moved]
  exact .back span inside

/-- The contexts of the two versions, next to that of the front part alone. -/
def FrontFollows (edit : Edit) : (Option Bool → Context State) → Prop :=
  Recorded fun journals => JournalsMove edit fun edited => journals (some edited)

/-- Of contexts that follow the front part, the versions follow the edit. -/
theorem FrontFollows.both {contexts : Option Bool → Context State}
    (follow : FrontFollows edit contexts) :
    BothFollow edit fun edited => contexts (some edited) := by
  obtain ⟨⟨common, same⟩, journals⟩ := follow
  exact ⟨⟨common, fun edited => same (some edited)⟩, journals⟩

/-- Invocations of the front part are noted at the same span everywhere. -/
theorem carries_editFront (edit : Edit) (services : Services State) :
    (editFront edit).Carries services (FrontFollows edit) := by
  have extensible : Extensible fun journals : Option Bool → Journal =>
      JournalsMove edit fun edited => journals (some edited) :=
    fun _ added matched => extensible_journalsMove _ added matched
  have lasting : Lasting services (FrontFollows edit : (Option Bool → Context State) → Prop) :=
    extensible.lasting services
  refine ⟨lasting, fun name arity span contexts _ follow => ?_⟩
  exact lasting.note contexts (.recognized edit.origin name arity (span.shift 0)) rfl follow

/-- Invocations of the back part are noted at the spans to which they move. -/
theorem carries_editBack (edit : Edit) (services : Services State) :
    (editBack edit).Carries services (BothFollow edit) where
  toLasting := extensible_journalsMove.lasting services
  recognized := fun name arity span _ inside follow =>
    follow.recognized name arity (moves_editBack span inside)

/-- A failure in the front part stays. -/
theorem failuresMove_of_placed_front {failures : Option Bool → Failure}
    (placed : (editFront edit).Placed failures) :
    FailuresMove edit fun edited => failures (some edited) := by
  rcases placed with ⟨common, rfl⟩ | ⟨cause, span, inside, rfl⟩
  · exact .nested common
  · have moves : edit.Moves (span.shift 0) (span.shift 0) := by
      rw [Span.shift_zero]
      exact .front span inside
    unfold Part.fault
    simp only [editFront_host]
    exact failuresMove_own moves cause

/-- A failure in the back part moves. -/
theorem failuresMove_of_placed_back {failures : Bool → Failure}
    (placed : (editBack edit).Placed failures) : FailuresMove edit failures := by
  rcases placed with same | ⟨cause, span, inside, rfl⟩
  · exact failuresMove_of_shared same
  · unfold Part.fault
    simp only [editBack_host]
    exact failuresMove_own (moves_editBack span inside) cause

/-! ## Runs over the versions -/

/-- The place of a version in front of the piece. -/
def pieceStart (edit : Edit) (edited : Bool) : Cursor :=
  ⟨edit.front.size, edit.piece edited ++ edit.back⟩

/-- The place of a version behind the piece. -/
def pieceEnd (edit : Edit) (edited : Bool) : Cursor :=
  ⟨edit.front.size + (edit.piece edited).size, edit.back⟩

/-- Behind the piece, runs do the same, in contexts of any kind that runs keep. -/
theorem agree_runFrom_pieceEnd_of_carries {related : (Bool → Context State) → Prop}
    (carries : (editBack edit).Carries services related) (contexts : Bool → Context State)
    (start : related contexts) :
    Agree related (FailuresMove edit) fun edited =>
      runFrom services (edit.version edited) (pieceEnd edit edited) (contexts edited) := by
  have agree := carries.agree_of_closed (fun _ => rfl) contexts start
  have place : ∀ edited,
      (editBack edit).place [] (editBack edit).text edited = pieceEnd edit edited := by
    intro edited
    simp [editBack, Part.place, pieceEnd]
  simp only [editBack_host, place] at agree
  exact agree.weaken fun _ => failuresMove_of_placed_back

/-- Behind the piece, runs do the same. -/
theorem agree_runFrom_pieceEnd (edit : Edit) (services : Services State)
    (contexts : Bool → Context State) (follow : BothFollow edit contexts) :
    Agree (BothFollow edit) (FailuresMove edit) fun edited =>
      runFrom services (edit.version edited) (pieceEnd edit edited) (contexts edited) :=
  agree_runFrom_pieceEnd_of_carries (carries_editBack edit services) contexts follow

/-- Runs over the two versions of a text agree when they agree from the piece on. What stands before
the piece is complete, so it fails alike in both, or both come to the piece: in the context that it
leaves as a text of its own, up to the journal. -/
theorem agree_run {edit : Edit} (complete : Complete edit.front) (services : Services State)
    (context : Context State) {related : (Bool → Context State) → Prop}
    {fails : (Bool → Failure) → Prop}
    (follows : ∀ contexts, BothFollow edit contexts → related contexts)
    (moves : ∀ failures, FailuresMove edit failures → fails failures)
    (fromPiece : ∀ output reached contexts,
      run services ⟨edit.origin, edit.front⟩ context = .ok output reached →
      (∀ edited, reached.Alike (contexts edited)) → BothFollow edit contexts →
      Agree related fails fun edited =>
        runFrom services (edit.version edited) (pieceStart edit edited) (contexts edited)) :
    Agree related fails fun edited => run services (edit.version edited) context := by
  have whole : (editFront edit).text = [] ++ edit.front := rfl
  have start : ∀ edited, (editFront edit).place [] edit.front (some edited) =
      Cursor.start (edit.version edited).text := by
    intro edited
    simp [editFront, Part.place, Cursor.start, version]
  have passed : ∀ edited, (editFront edit).place (editFront edit).text [] (some edited) =
      pieceStart edit edited := by
    intro edited
    simp [editFront, Part.place, pieceStart]
  have alone : (editFront edit).place [] edit.front none = Cursor.start edit.front := by
    simp [editFront, Part.place, Cursor.start]
  have same : FrontFollows edit fun _ => context :=
    ⟨⟨context, fun _ => .refl context⟩, (bothFollow_refl context).journals⟩
  simp only [run_eq_runFrom]
  cases (carries_editFront edit services).traverse whole (fun _ => context) same with
  | through output later kept outcome =>
    have reached : run services ⟨edit.origin, edit.front⟩ context = .ok output (later none) := by
      have ended := outcome none
      rw [Part.runFrom_end _ rfl, pure_bind, List.append_nil, editFront_host_none, alone] at ended
      exact ended
    obtain ⟨common, alike⟩ := kept.alike
    have agree := fromPiece output (later none) (fun edited => later (some edited)) reached
      (fun edited => (alike none).symm.trans (alike (some edited))) kept.both
    have goes := fun edited => outcome (some edited)
    simp only [editFront_host, start, passed] at goes
    simp only [goes]
    exact agree.bind fun others final ended => .success _ final ended fun _ => rfl
  | stopped failure later placed kept outcome =>
    have ends := fun edited => outcome (some edited)
    simp only [editFront_host, start] at ends
    exact .failure _ _ (moves _ (failuresMove_of_placed_front placed)) (follows _ kept.both) ends
  | cut span later inside unfinished kept outcome => exact absurd complete unfinished

/-- Runs over the two versions of a text have the same end when they do the same from the piece on.
What stands before the piece is complete, so both come to the piece. -/
theorem sameEnd_run {edit : Edit} (complete : Complete edit.front) (services : Services State)
    (context : Context State)
    (fromPiece : ∀ contexts, BothFollow edit contexts →
      Agree (BothFollow edit) (FailuresMove edit) fun edited =>
        runFrom services (edit.version edited) (pieceStart edit edited) (contexts edited)) :
    edit.SameEnd (run services (edit.version false) context)
      (run services (edit.version true) context) :=
  sameEnd_of_agree <| agree_run complete services context (fun _ follow => follow)
    (fun _ moves => moves) fun _ _ contexts _ _ follow => fromPiece contexts follow

end Expansion
end TextMacros
