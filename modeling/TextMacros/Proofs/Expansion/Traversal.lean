import TextMacros.Proofs.Expansion.Run
import TextMacros.Proofs.Span
import TextMacros.Proofs.Token.Locality

/-!
# Traversals

One text can be a part of several fragments, with different texts before and behind it. A run that
comes to the beginning of that part does there what it does in any of these fragments: it reads the
same invocations, resolves them to the same values, and fails in the same way, with its spans moved
by what stands before the part (`Part.Carries.traverse`). Only the end of the part can make a
difference, when an invocation is still open there; at the end of a complete text none is.
-/

namespace TextMacros

open Token

namespace Expansion

variable {State Index : Type}

/-- One text as a part of several fragments. -/
structure Part (Index : Type) where
  /-- The common text. -/
  text : Text
  /-- Where each fragment comes from. -/
  origin : Index → Origin
  /-- What stands before the text. -/
  before : Index → Text
  /-- What stands behind the text. -/
  after : Index → Text

namespace Part

/-- A fragment that holds the text. -/
def host (part : Part Index) (index : Index) : Fragment :=
  ⟨part.origin index, part.before index ++ part.text ++ part.after index⟩

/-- The place in a fragment between two pieces of the text. -/
def place (part : Part Index) (front rest : Text) (index : Index) : Cursor :=
  ⟨(part.before index).size + front.size, rest ++ part.after index⟩

/-- A failure at a span of the text, in each of the fragments. -/
def fault (part : Part Index) (cause : Cause) (span : Span) (index : Index) : Failure :=
  ⟨cause, part.host index, span.shift (part.before index).size⟩

/-- Failures that may stand for each other in the fragments: one and the same failure of a nested
text, or one failure at a span of the common text. -/
def Placed (part : Part Index) (failure : Index → Failure) : Prop :=
  Shared failure ∨
    ∃ cause span, span.stop ≤ part.text.size ∧ failure = part.fault cause span

/-! ## Invocations in the text -/

/-- What an introducer in the text begins, in all the fragments. -/
inductive Recognition (part : Part Index) (front rest : Text) : Prop
  /-- An invocation that ends in the text. -/
  | invocation (name : Text) (parameters : List Text) (span : Span) (piece last : Text)
    (split : rest = piece ++ last)
    (spelled : ∃ written, SignatureForm written parameters piece)
    (inside : span.stop ≤ part.text.size)
    (outcome : ∀ index, (part.host index).readInvocation ((part.before index).size + front.size)
      ⟨(part.before index).size + front.size + 1, rest ++ part.after index⟩ =
        .ok ⟨name, parameters, span.shift (part.before index).size⟩
          (part.place (front ++ introducer :: piece) last index))
  /-- An invocation that is broken in the text. -/
  | broken (cause : Cause) (span : Span) (inside : span.stop ≤ part.text.size)
    (outcome : ∀ index, ∃ later, (part.host index).readInvocation
      ((part.before index).size + front.size)
      ⟨(part.before index).size + front.size + 1, rest ++ part.after index⟩ =
        .error (part.fault cause span index) later)
  /-- An invocation that is still open at the end of the text. -/
  | cut (span : Span) (inside : span.stop ≤ part.text.size)
    (unspelled : ∀ name parameters piece, SignatureForm name parameters piece → ¬ piece <+: rest)
    (outcome : ∀ index, part.after index = [] → ∃ later, (part.host index).readInvocation
      ((part.before index).size + front.size)
      ⟨(part.before index).size + front.size + 1, rest ++ part.after index⟩ =
        .error (part.fault (.malformedMacro .unclosed) span index) later)

/-- A signature that ends in the text makes an invocation there, unless its name is blank. -/
theorem recognition_of_accepted {part : Part Index} {front rest piece last name : Text}
    {parameters : List Text} (whole : part.text = front ++ introducer :: rest)
    (split : rest = piece ++ last) (spelled : SignatureForm name parameters piece) :
    part.Recognition front rest := by
  have reads : ∀ index, Cursor.Reads
      ⟨(part.before index).size + front.size + 1, rest ++ part.after index⟩
      ⟨(part.before index).size + front.size + 1 + piece.size, last ++ part.after index⟩ piece :=
    fun index => ⟨by rw [split, List.append_assoc], rfl⟩
  have read := fun index =>
    (part.host index).readInvocation_of_signatureForm spelled (reads index) rfl
  have size : (front ++ introducer :: piece).size = front.size + (1 + piece.size) := by
    rw [Text.size_append, size_introducer_cons]
  have inside : Span.stop ⟨front.size, 1 + piece.size⟩ ≤ part.text.size := by
    have room : part.text = (front ++ introducer :: piece) ++ last := by simp [whole, split]
    rw [room, Text.size_append _ last, size]
    exact Nat.le_add_right _ _
  cases canonical : Name.canonical? name with
  | none =>
    refine .broken (.malformedMacro .emptyName) ⟨front.size, 1 + piece.size⟩ inside fun index => ?_
    rw [read, canonical]
    exact ⟨_, rfl⟩
  | some found =>
    refine .invocation found parameters ⟨front.size, 1 + piece.size⟩ piece last split
      ⟨name, spelled⟩ inside fun index => ?_
    rw [read, canonical]
    simp only [place, size, Nat.add_assoc]
    rfl

/-- The cause of a broken invocation depends on what is wrong alone. -/
theorem invocationFailure_eq (problem : Problem) : ∃ cause, ∀ (fragment : Fragment) (offset : Nat),
    fragment.invocationFailure ⟨offset, problem⟩ =
      ⟨cause, fragment, Span.ofSymbolAt fragment.text offset⟩ :=
  ⟨((⟨.labelled [], []⟩ : Fragment).invocationFailure ⟨0, problem⟩).cause, fun _ _ => rfl⟩

/-- A signature that is refused at a character of the text breaks the invocation there. -/
theorem recognition_of_refused {part : Part Index} {front rest run last : Text}
    {symbol : Char} {problem : Problem} (whole : part.text = front ++ introducer :: rest)
    (split : rest = run ++ symbol :: last)
    (always : ∀ offset behind, readSignature ⟨offset, run ++ symbol :: behind⟩ =
      .error ⟨offset + run.size, problem⟩ ⟨offset + run.size + symbol.utf8Size, behind⟩) :
    part.Recognition front rest := by
  obtain ⟨cause, failure⟩ := invocationFailure_eq problem
  have inside : Span.stop ⟨front.size + 1 + run.size, symbol.utf8Size⟩ ≤ part.text.size := by
    have room : part.text.size =
        front.size + (1 + (run.size + (symbol.utf8Size + Text.size last))) := by
      rw [whole, split, Text.size_append, size_introducer_cons, Text.size_append, Text.size_cons]
    simp only [Span.stop]
    omega
  refine .broken cause ⟨front.size + 1 + run.size, symbol.utf8Size⟩ inside fun index => ?_
  have text : (part.host index).text =
      (part.before index ++ front ++ introducer :: run) ++ symbol ::
        (last ++ part.after index) := by
    simp [host, whole, split]
  have size : (part.before index ++ front ++ introducer :: run).size =
      (part.before index).size + front.size + 1 + run.size := by
    rw [Text.size_append, Text.size_append, size_introducer_cons, ← Nat.add_assoc]
  have ahead : rest ++ part.after index = run ++ symbol :: (last ++ part.after index) := by
    rw [split, List.append_assoc, List.cons_append]
  unfold Fragment.readInvocation
  rw [ahead, always]
  dsimp only
  rw [failure, ← size, Span.ofSymbolAt_of_split text, size]
  simp only [fault, Span.shift, Nat.add_assoc]
  exact ⟨_, rfl⟩

/-- Where the reader of signatures runs out of text, no signature is spelled. -/
theorem unspelled_of_exhausted {rest : Text}
    (always : ∀ offset, readSignature ⟨offset, rest⟩ =
      .error ⟨offset + rest.size, .unexpectedEnd⟩ ⟨offset + rest.size, []⟩) :
    ∀ name parameters piece, SignatureForm name parameters piece → ¬ piece <+: rest := by
  rintro name parameters piece spelled begins
  have reached : ∃ later, (⟨0, rest⟩ : Cursor).Reads later piece := Cursor.Reads.of_prefix begins
  obtain ⟨later, reads⟩ := reached
  have success := (recognizes_readSignature _ (name, parameters) later).mpr
    ⟨piece, spelled, reads⟩
  have clash := (always 0).symm.trans success
  cases clash

/-- A signature that runs out of text leaves the invocation open. -/
theorem recognition_of_exhausted {part : Part Index} {front rest : Text}
    (whole : part.text = front ++ introducer :: rest)
    (always : ∀ offset, readSignature ⟨offset, rest⟩ =
      .error ⟨offset + rest.size, .unexpectedEnd⟩ ⟨offset + rest.size, []⟩) :
    part.Recognition front rest := by
  obtain ⟨start, last, ending⟩ : ∃ (start : Text) (last : Char), part.text = start ++ [last] := by
    rcases List.eq_nil_or_concat part.text with empty | found
    · rw [whole] at empty
      simp at empty
    · simpa using found
  have inside : Span.stop ⟨start.size, last.utf8Size⟩ ≤ part.text.size := by
    rw [ending, Text.size_append]
    exact Nat.le_refl _
  have unspelled := unspelled_of_exhausted always
  refine .cut ⟨start.size, last.utf8Size⟩ inside unspelled fun index final => ?_
  have text : (part.host index).text = (part.before index ++ start) ++ [last] := by
    simp [host, ending, final]
  have bound : (part.before index ++ start).size ≤
      (part.before index).size + front.size + 1 + rest.size := by
    have size : part.text.size = front.size + (1 + rest.size) := by
      rw [whole, Text.size_append, size_introducer_cons]
    rw [ending] at size
    simp only [Text.size_append] at size ⊢
    omega
  unfold Fragment.readInvocation
  rw [final, List.append_nil, always]
  refine ⟨_, congrArg (EStateM.Result.error · _) ?_⟩
  change (⟨.malformedMacro .unclosed, part.host index, Span.ofSymbolAt (part.host index).text _⟩ :
    Failure) = _
  rw [Span.ofSymbolAt_of_end text bound, Text.size_append]
  rfl

/-- An introducer in the text begins the same in all the fragments. -/
theorem recognition (part : Part Index) {front rest : Text}
    (whole : part.text = front ++ introducer :: rest) : part.Recognition front rest := by
  cases local_readSignature rest with
  | accepted found piece last split always =>
    obtain ⟨name, parameters⟩ := found
    obtain ⟨spelling, spelled, reads⟩ := (recognizes_readSignature _ _ _).mp (always 0 [])
    have same : spelling = piece := reads.piece_unique ⟨rfl, rfl⟩
    exact recognition_of_accepted whole split (same ▸ spelled)
  | refused problem run symbol last split shown always =>
    exact recognition_of_refused whole split always
  | exhausted always => exact recognition_of_exhausted whole always

/-! ## Runs through the text -/

/-- A relation between the contexts of runs that come to the text: invocations keep it, and so do
the entries for the invocations in the text, which differ by origin and span. -/
structure Carries (part : Part Index) (services : Services State)
    (related : (Index → Context State) → Prop) : Prop extends Lasting services related where
  /-- An invocation in the text is noted in every context. -/
  recognized : ∀ name arity (span : Span) contexts, span.stop ≤ part.text.size →
    related contexts → related fun index => (contexts index).note
      (.recognized (part.origin index) name arity (span.shift (part.before index).size))

/-- Runs keep contexts alike, wherever they come to the text. -/
theorem carries_allAlike (part : Part Index) (services : Services State) :
    part.Carries services AllAlike where
  toLasting := (coherent_allAlike services).lasting
  recognized := fun _ _ _ _ _ alike => alike.note _

/-- What runs do that come to the beginning of a piece of the text, in all the fragments. -/
inductive Traversal (part : Part Index) (services : Services State)
    (related : (Index → Context State) → Prop) (rest : Text)
    (family : Index → Expansion State Text) (contexts : Index → Context State) : Prop
  /-- They come to the end of the text, and go on there. -/
  | through (output : Text) (later : Index → Context State) (kept : related later)
    (outcome : ∀ index, family index (contexts index) =
      (runFrom services (part.host index) (part.place part.text [] index) >>= fun others =>
        pure (output ++ others)) (later index))
  /-- They fail in the text. -/
  | stopped (failure : Index → Failure) (later : Index → Context State)
    (placed : part.Placed failure) (kept : related later)
    (outcome : ∀ index, family index (contexts index) = .error (failure index) (later index))
  /-- They come to an invocation that is still open at the end of the text. -/
  | cut (span : Span) (later : Index → Context State) (inside : span.stop ≤ part.text.size)
    (unfinished : ¬ Complete rest) (kept : related later)
    (outcome : ∀ index, part.after index = [] → family index (contexts index) =
      .error (part.fault (.malformedMacro .unclosed) span index) (later index))

section

variable {services : Services State} {related : (Index → Context State) → Prop}

/-- What is put out before a traversal stands in front of its output. -/
theorem Traversal.prepend {part : Part Index} {rest all : Text}
    {family : Index → Expansion State Text} {contexts : Index → Context State}
    (traversal : part.Traversal services related rest family contexts)
    {whole : Index → Expansion State Text} {start : Index → Context State} (output : Text)
    (complete : Complete all → Complete rest)
    (before : ∀ index, whole index (start index) =
      (family index >>= fun others => pure (output ++ others)) (contexts index)) :
    part.Traversal services related all whole start := by
  cases traversal with
  | through value later kept outcome =>
    refine .through (output ++ value) later kept fun index => ?_
    rw [before, bind_of_eq _ (outcome index)]
    simp only [bind_assoc, pure_bind, List.append_assoc]
  | stopped failure later placed kept outcome =>
    refine .stopped failure later placed kept fun index => ?_
    rw [before, bind_of_error _ (outcome index)]
  | cut span later inside unfinished kept outcome =>
    refine .cut span later inside (unfinished ∘ complete) kept fun index final => ?_
    rw [before, bind_of_error _ (outcome index final)]

/-- Where the rest of the text is plain, runs come to its end. -/
theorem traverse_of_plain (part : Part Index) {front rest : Text}
    (whole : part.text = front ++ rest) (plain : introducer ∉ rest)
    (contexts : Index → Context State) (start : related contexts) :
    part.Traversal services related rest
      (fun index => runFrom services (part.host index) (part.place front rest index))
      contexts := by
  refine .through rest contexts start fun index => ?_
  have ended : part.place part.text [] index =
      ⟨(part.before index).size + front.size + rest.size, part.after index⟩ := by
    simp [place, whole, Nat.add_assoc]
  rw [ended, ← runFrom_of_plain_front plain]
  rfl

/-- Where an introducer follows, runs go through the invocation that it begins and then as they do
from the place behind the invocation. -/
theorem Carries.traverse_of_introducer {part : Part Index} (carries : part.Carries services related)
    {front literal tail : Text} (whole : part.text = front ++ (literal ++ introducer :: tail))
    (plain : introducer ∉ literal)
    (behind : ∀ piece last, tail = piece ++ last → ∀ contexts : Index → Context State,
      related contexts → part.Traversal services related last
        (fun index => runFrom services (part.host index)
          (part.place (front ++ literal ++ introducer :: piece) last index)) contexts)
    (contexts : Index → Context State) (start : related contexts) :
    part.Traversal services related (literal ++ introducer :: tail)
      (fun index => runFrom services (part.host index)
        (part.place front (literal ++ introducer :: tail) index)) contexts := by
  have split : part.text = (front ++ literal) ++ introducer :: tail := by
    rw [whole, List.append_assoc]
  have position : ∀ index, (part.before index).size + (front ++ literal).size =
      (part.before index).size + front.size + literal.size := by
    intro index
    rw [Text.size_append, Nat.add_assoc]
  have ahead : ∀ index, part.place front (literal ++ introducer :: tail) index =
      ⟨(part.before index).size + front.size,
        literal ++ introducer :: (tail ++ part.after index)⟩ := by
    intro index
    simp [place]
  simp only [ahead, runFrom_of_introducer plain]
  cases part.recognition split with
  | broken cause span inside outcome =>
    refine .stopped (part.fault cause span) contexts (.inr ⟨cause, span, inside, rfl⟩) start
      fun index => ?_
    obtain ⟨later, broken⟩ := outcome index
    rw [← position, broken]
    rfl
  | cut span inside unspelled outcome =>
    have incomplete := not_complete_of_unspelled plain unspelled
    refine .cut span contexts inside incomplete start fun index final => ?_
    obtain ⟨later, broken⟩ := outcome index final
    rw [← position, broken]
    rfl
  | invocation name parameters span piece last found spelled inside outcome =>
    let entry := fun index => Entry.recognized (part.origin index) name parameters.length
      (span.shift (part.before index).size)
    have noted : ∀ index, (note (entry index) : Expansion State Unit) (contexts index) =
        .ok () ((contexts index).note (entry index)) := fun _ => rfl
    obtain ⟨written, spelled⟩ := spelled
    have complete : Complete (literal ++ introducer :: tail) → Complete last := by
      rw [found]
      exact fun whole => whole.rest plain spelled
    have own : ∀ cause, part.Placed fun index =>
        ⟨cause, part.host index, span.shift (part.before index).size⟩ :=
      fun cause => .inr ⟨cause, span, inside, rfl⟩
    have agree := carries.agree_resolve name parameters own (fun _ => .inl) _
      (carries.recognized name parameters.length span contexts inside start)
    cases agree with
    | success value later kept resolved =>
      refine (behind piece last found later kept).prepend (literal ++ value) complete
        fun index => ?_
      rw [← position, outcome]
      exact (bind_of_ok _ (noted index)).trans (bind_of_ok _ (resolved index))
    | failure failure later placed kept resolved =>
      refine .stopped failure later placed kept fun index => ?_
      rw [← position, outcome]
      exact (bind_of_ok _ (noted index)).trans (bind_of_error _ (resolved index))

/-- From any place of the text on, runs do the same in all the fragments. -/
theorem Carries.traverse {part : Part Index} (carries : part.Carries services related)
    {front rest : Text} (whole : part.text = front ++ rest) (contexts : Index → Context State)
    (start : related contexts) :
    part.Traversal services related rest
      (fun index => runFrom services (part.host index) (part.place front rest index))
      contexts := by
  -- An invocation takes a piece of what is ahead, so less remains behind it.
  induction remaining : rest.length using Nat.strongRecOn generalizing front rest contexts with
  | ind length hypothesis =>
    rcases plain_or_introducer rest with plain | ⟨literal, tail, rfl, plain⟩
    · exact part.traverse_of_plain whole plain contexts start
    · refine carries.traverse_of_introducer whole plain ?_ contexts start
      intro piece last split later kept
      have less : last.length < length := by
        rw [← remaining, split]
        simp only [List.length_append, List.length_cons]
        omega
      have further : part.text = (front ++ literal ++ introducer :: piece) ++ last := by
        rw [whole, split]
        simp only [List.append_assoc, List.cons_append]
      exact hypothesis last.length less further later kept rfl

/-- Behind a part that ends with its fragment, nothing is put out. -/
theorem runFrom_end (part : Part Index) {index : Index} (closed : part.after index = []) :
    runFrom services (part.host index) (part.place part.text [] index) = pure [] := by
  unfold place
  rw [closed]
  exact runFrom_of_plain (by simp)

/-- A run through a part that ends with each of its fragments agrees in all of them. -/
theorem Carries.agree_of_closed {part : Part Index} (carries : part.Carries services related)
    (closed : ∀ index, part.after index = []) (contexts : Index → Context State)
    (start : related contexts) :
    Agree related part.Placed fun index =>
      runFrom services (part.host index) (part.place [] part.text index) (contexts index) := by
  have whole : part.text = [] ++ part.text := rfl
  cases carries.traverse whole contexts start with
  | through output later kept outcome =>
    refine .success output later kept fun index => ?_
    rw [outcome, part.runFrom_end (closed index), pure_bind, List.append_nil]
    rfl
  | stopped failure later placed kept outcome => exact .failure failure later placed kept outcome
  | cut span later inside unfinished kept outcome =>
    exact .failure _ later (.inr ⟨.malformedMacro .unclosed, span, inside, rfl⟩) kept fun index =>
      outcome index (closed index)

end

end Part

end Expansion
end TextMacros
