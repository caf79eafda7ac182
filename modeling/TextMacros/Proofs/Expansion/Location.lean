import TextMacros.Proofs.Expansion.Run
import TextMacros.Proofs.Span
import TextMacros.Proofs.Token.Fault

/-!
# The places of failures

A failure names a fragment and a span. The span marks a piece of the text of that very fragment
(`Failure.Located`), wherever the failure was met.

There are four sources of spans: the place of a faulty token, the extent of an invocation, and the
whole of a text that is refused or that defines no macro. Each of them is located by itself. A
failure that comes from a nested text is passed on with the fragment it was met in, so the induction
on the levels that remain has nothing to add: an expansion whose nested texts fail at located places
does so too (`locates_ofFragment`).
-/

namespace TextMacros

open Token

/-- A failure whose span marks a piece of its own fragment. -/
def Failure.Located (failure : Failure) : Prop := failure.span.Marks failure.fragment.text

namespace Token

/-- The fault of a local reader is at a place of what lies ahead. -/
theorem Local.place_of_fault {α : Type} {reader : Reader α} (isLocal : Local reader)
    {cursor later : Cursor} {fault : Fault} (failure : reader cursor = .error fault later) :
    ∃ front rest, cursor.unread = front ++ rest ∧ fault.offset = cursor.offset + front.size := by
  rcases isLocal.outcome cursor with
    ⟨_, _, _, success, -⟩ | ⟨_, front, symbol, rest, _, refusal, split, -⟩ | ⟨_, refusal, -⟩
  · cases success.symm.trans failure
  · cases refusal.symm.trans failure
    exact ⟨front, symbol :: rest, split, rfl⟩
  · cases refusal.symm.trans failure
    exact ⟨cursor.unread, [], (List.append_nil _).symm, rfl⟩

/-- The fault of a definition is at a place of its text. -/
theorem place_of_fault_readDefinition {text : Text} {fault : Fault} {later : Cursor}
    (failure : readDefinition (Cursor.start text) = .error fault later) :
    ∃ front rest, text = front ++ rest ∧ fault.offset = front.size := by
  have start : (Cursor.start text).offset = 0 := rfl
  rcases readDefinition_eq_error failure with
    front | ⟨front, gap, symbol, rest, split, -, -, -, rfl⟩
  · obtain ⟨front, rest, split, place⟩ :=
      completable_readDefinitionFront.isLocal.place_of_fault front
    rw [start, Nat.zero_add] at place
    exact ⟨front, rest, split, place⟩
  · exact ⟨front ++ gap, symbol :: rest, split, by rw [start, Nat.zero_add]⟩

end Token

/-! ## The failures of a single fragment -/

/-- The failure of a text that should define a macro is located in that text. -/
theorem Macro.located_of_ofDefinition {fragment : Fragment} {failure : Failure}
    (refused : Macro.ofDefinition fragment = .error failure) : failure.Located := by
  unfold Macro.ofDefinition at refused
  dsimp only at refused
  cases outcome : readDefinition (Cursor.start fragment.text) with
  | error fault later =>
    rw [outcome] at refused
    cases refused
    obtain ⟨front, rest, split, place⟩ := place_of_fault_readDefinition outcome
    change (Span.ofSymbolAt fragment.text fault.offset).Marks fragment.text
    rw [place]
    exact Span.marks_ofSymbolAt split
  | ok found later =>
    obtain ⟨written, parameters, body⟩ := found
    -- A text that is read has an introducer at least, so the span of all of it is no longer than
    -- the text.
    have long : fragment.text ≠ [] := by
      intro empty
      rw [empty] at outcome
      cases outcome
    have positive : 0 < fragment.text.size :=
      Nat.pos_of_ne_zero fun none => long (Text.size_eq_zero.mp none)
    have whole : Span.between 0 fragment.text.size = ⟨0, fragment.text.size⟩ := by
      simp only [Span.between, Span.mk.injEq, true_and]
      omega
    have marked : (Span.between 0 fragment.text.size).Marks fragment.text := by
      rw [whole]
      exact Span.marks_whole fragment.text
    rw [outcome] at refused
    dsimp only at refused
    split at refused
    · cases refused
      exact marked
    · split at refused
      · cases refused
        exact marked
      · cases refused

/-- What a segment says of its fragment is located there. -/
def Segment.Located (fragment : Fragment) : Segment → Prop
  | .literal _ => True
  | .invocation found => found.span.Marks fragment.text
  | .broken failure => failure.Located

namespace Fragment

variable {fragment : Fragment} {before rest : Text}

/-- The span of a piece behind an introducer, together with the introducer. -/
theorem marks_of_spelling (split : fragment.text = before ++ introducer :: rest)
    {piece last : Text} (ahead : rest = piece ++ last) :
    Span.Marks ⟨before.size, 1 + piece.size⟩ fragment.text := by
  have whole : fragment.text = before ++ introducer :: piece ++ last := by
    rw [split, ahead, List.append_assoc, List.cons_append]
  exact .piece before (introducer :: piece) last whole rfl (by simp)

/-- The span of an invocation marks the piece from its introducer to its end, and the fragment is
read on from there. -/
theorem marks_of_readInvocation (split : fragment.text = before ++ introducer :: rest)
    {invocation : Invocation} {later : Cursor}
    (success : fragment.readInvocation before.size (placeBehind before rest) =
      .ok invocation later) :
    invocation.span.Marks fragment.text ∧
      ∃ front, (Cursor.start fragment.text).Reads later front := by
  cases signature : readSignature (placeBehind before rest) with
  | error fault last =>
    simp only [readInvocation, signature] at success
    cases success
  | ok found last =>
    obtain ⟨name, parameters⟩ := found
    obtain ⟨piece, spelled, reads⟩ := (recognizes_readSignature _ _ _).mp signature
    rw [fragment.readInvocation_of_signatureForm spelled reads rfl] at success
    cases canonical : Name.canonical? name with
    | none =>
      rw [canonical] at success
      cases success
    | some spelling =>
      rw [canonical] at success
      cases success
      refine ⟨marks_of_spelling split reads.1, before ++ introducer :: piece, ?_, ?_⟩
      · have ahead : rest = piece ++ later.unread := reads.1
        change fragment.text = before ++ introducer :: piece ++ later.unread
        rw [split, ahead, List.append_assoc, List.cons_append]
      · have stop : later.offset = before.size + 1 + piece.size := reads.2
        have size : (before ++ introducer :: piece).size = before.size + (1 + piece.size) :=
          Text.size_append _ _
        change later.offset = 0 + (before ++ introducer :: piece).size
        omega

/-- The fault of an invocation is at a place of the fragment. -/
theorem place_of_fault_readSignature (split : fragment.text = before ++ introducer :: rest)
    {fault : Fault} {later : Cursor}
    (failure : readSignature (placeBehind before rest) = .error fault later) :
    ∃ front others, fragment.text = front ++ others ∧ fault.offset = front.size := by
  obtain ⟨front, others, ahead, place⟩ := local_readSignature.place_of_fault failure
  refine ⟨before ++ introducer :: front, others, ?_, ?_⟩
  · have rest_eq : rest = front ++ others := ahead
    rw [split, rest_eq, List.append_assoc, List.cons_append]
  · have behind : fault.offset = before.size + 1 + front.size := place
    have size : (before ++ introducer :: front).size = before.size + (1 + front.size) :=
      Text.size_append _ _
    omega

/-- The failure of an introducer that begins no invocation is located. -/
theorem located_of_readInvocation (split : fragment.text = before ++ introducer :: rest)
    {failure : Failure} {later : Cursor}
    (refused : fragment.readInvocation before.size (placeBehind before rest) =
      .error failure later) : failure.Located := by
  cases signature : readSignature (placeBehind before rest) with
  | error fault last =>
    simp only [readInvocation, signature] at refused
    cases refused
    obtain ⟨front, others, whole, place⟩ := place_of_fault_readSignature split signature
    change (Span.ofSymbolAt fragment.text fault.offset).Marks fragment.text
    rw [place]
    exact Span.marks_ofSymbolAt whole
  | ok found last =>
    obtain ⟨name, parameters⟩ := found
    obtain ⟨piece, spelled, reads⟩ := (recognizes_readSignature _ _ _).mp signature
    rw [fragment.readInvocation_of_signatureForm spelled reads rfl] at refused
    cases canonical : Name.canonical? name with
    | some spelling =>
      rw [canonical] at refused
      cases refused
    | none =>
      rw [canonical] at refused
      cases refused
      exact marks_of_spelling split reads.1

/-- The segments from a place of a fragment are located in the fragment. -/
theorem located_of_segmentsFrom {cursor : Cursor} {front : Text}
    (stands : (Cursor.start fragment.text).Reads cursor front) :
    ∀ segment ∈ fragment.segmentsFrom cursor, segment.Located fragment := by
  induction remaining : cursor.unread.length using Nat.strongRecOn generalizing cursor front with
  | ind length hypothesis =>
    obtain ⟨offset, unread⟩ := cursor
    have whole : fragment.text = front ++ unread := stands.1
    have start : offset = front.size := by
      have counted : offset = 0 + front.size := stands.2
      rw [counted, Nat.zero_add]
    rcases plain_or_introducer unread with plain | ⟨literal, rest, rfl, plain⟩
    · rw [segmentsFrom_of_plain plain]
      intro segment member
      rw [List.mem_singleton] at member
      subst member
      trivial
    · have split : fragment.text = (front ++ literal) ++ introducer :: rest := by
        rw [whole, List.append_assoc]
      have place : offset + literal.size = (front ++ literal).size := by
        rw [start, Text.size_append]
      rw [segmentsFrom_of_introducer plain, place]
      cases outcome : fragment.readInvocation (front ++ literal).size
        ⟨(front ++ literal).size + 1, rest⟩ with
      | error failure later =>
        intro segment member
        simp only [List.mem_cons, List.not_mem_nil, or_false] at member
        rcases member with rfl | rfl
        · trivial
        · exact located_of_readInvocation split outcome
      | ok invocation later =>
        obtain ⟨marked, behind, standsBehind⟩ := marks_of_readInvocation split outcome
        have shorter : later.unread.length < length := by
          have less := readInvocation_length_lt outcome
          rw [← remaining, List.length_append, List.length_cons]
          dsimp only at less
          omega
        intro segment member
        simp only [List.mem_cons] at member
        rcases member with rfl | rfl | further
        · trivial
        · exact marked
        · exact hypothesis _ shorter standsBehind rfl segment further

/-- The segments of a fragment are located in it. -/
theorem located_of_segments (fragment : Fragment) :
    ∀ segment ∈ fragment.segments, segment.Located fragment :=
  located_of_segmentsFrom (Cursor.Reads.refl (Cursor.start fragment.text))

end Fragment

/-! ## The failures of an expansion -/

namespace Expansion

variable {State : Type}

/-- An expansion that fails at located places only. -/
def Locates {α : Type} (expansion : Expansion State α) : Prop :=
  ∀ context failure later, expansion context = .error failure later → failure.Located

/-- A located segment of a fragment admits located failures. -/
theorem admitsSegment_of_located {fragment : Fragment} {segment : Segment}
    (located : segment.Located fragment) :
    AdmitsSegment fragment (fun failure : Unit → Failure => (failure ()).Located) segment := by
  cases segment with
  | literal text => trivial
  | broken failure => exact located
  | invocation invocation =>
    exact { own := fun _ => located
            definition := fun _ _ refused => Macro.located_of_ofDefinition refused }

/-- A fragment fails at located places when its nested texts do. -/
theorem locates_ofFragment {services : Services State} {expand : Expander State}
    (nested : ∀ text bindings origin, Locates (expand text bindings origin))
    (fragment : Fragment) : Locates (ofFragment services expand fragment) := by
  intro context failure later failed
  have uniform : Uniform services (fun _ : Unit => expand) (fun failure => (failure ()).Located)
      fun _ => ofFragment services expand fragment :=
    .ofFragment_of_segments fragment fun segment member =>
      admitsSegment_of_located (fragment.located_of_segments segment member)
  have stable : Stable services fun _ : Unit → Context State => True :=
    { note := fun _ _ _ _ => trivial
      step := fun step contexts _ _ =>
        ⟨⟨(step.take services (contexts ())).1, fun _ => rfl⟩, trivial⟩ }
  have inside : ∀ text bindings origin (contexts : Unit → Context State), True →
      Agree (fun _ => True) (fun failure => (failure ()).Located) fun index =>
        expand text bindings origin (contexts index) := by
    intro text bindings origin contexts _
    cases outcome : expand text bindings origin (contexts ()) with
    | ok value last => exact .success value (fun _ => last) trivial fun _ => outcome
    | error failure last =>
      have located := nested text bindings origin _ _ _ outcome
      exact .failure (fun _ => failure) (fun _ => last) located trivial fun _ => outcome
  cases uniform.agree stable inside (fun _ => context) trivial with
  | success value last _ outcome => cases failed.symm.trans (outcome ())
  | failure found last located _ outcome =>
    cases failed.symm.trans (outcome ())
    exact located

/-- What is expanded within a fragment fails there. -/
theorem Locates.within {α : Type} {expansion : Expansion State α} (locates : Locates expansion)
    (bindings : List Macro) (origin : Origin) : Locates (within bindings origin expansion) := by
  intro context failure later failed
  unfold Expansion.within at failed
  cases outcome : expansion (context.enter bindings origin) with
  | ok value inside =>
    rw [outcome] at failed
    cases failed
  | error found inside =>
    rw [outcome] at failed
    cases failed
    exact locates _ _ _ outcome

/-- At every level, an expansion fails at located places. -/
theorem locates_ofTextWithin (services : Services State) (levels : Nat) (text : Text)
    (bindings : List Macro) (origin : Origin) :
    Locates (ofTextWithin services levels text bindings origin) := by
  induction levels generalizing text bindings origin with
  | zero =>
    -- The refusal of a text shows all of the text that is refused.
    intro context failure later failed
    cases failed
    exact Span.marks_whole text
  | succ levels hypothesis =>
    exact (locates_ofFragment hypothesis ⟨origin, text⟩).within bindings origin

end Expansion

/-- Whatever makes a document fail, at whatever depth, the failure shows a place of its own
fragment. The span ends inside the text of the fragment, it begins and ends between two characters
of that text, and it is empty only where the text is, at the beginning. Each locator has one answer
during the expansion, whatever it is. -/
theorem failure_located {State : Type} (settings : Settings) (prompt : Prompt State)
    (retriever : Retriever) (document : Text) (state : State) (journal : Journal)
    (failure : Failure)
    (failed : (expandDocument settings prompt retriever document state journal).result =
      .error failure) :
    let text := failure.fragment.text
    failure.span.stop ≤ text.size ∧
    (text.dropBytes? failure.span.offset).isSome ∧
    (text.dropBytes? failure.span.stop).isSome ∧
    (text ≠ [] → 0 < failure.span.length) ∧
    (text = [] → failure.span = ⟨0, 0⟩) := by
  have located : failure.Located := by
    unfold expandDocument at failed
    dsimp only at failed
    split at failed
    · cases failed
    · rename_i outcome
      cases failed
      exact Expansion.locates_ofTextWithin _ _ _ _ _ _ _ _ outcome
  exact located.inside

/-- A parenthesis that cannot be a delimiter, behind a character of two bytes and an introducer. -/
theorem failure_located_parenthesis :
    let document : Text := "é\\(".toList
    let settings : Settings := { Settings.default with sourceName := [] }
    let failure : Failure :=
      ⟨.malformedMacro (.token .parenthesisDelimiter), ⟨.labelled [], document⟩, ⟨3, 1⟩⟩
    (expandDocument settings .silent .offline document () #[]).result = .error failure ∧
    failure.span.stop ≤ document.size ∧
    (document.dropBytes? 3).isSome ∧ (document.dropBytes? 4).isSome ∧
    (document ≠ [] → 0 < failure.span.length) ∧ (document = [] → failure.span = ⟨0, 0⟩) := by
  intro document settings failure
  have failed :
      (expandDocument settings .silent .offline document () #[]).result = .error failure := by
    decide +kernel
  exact ⟨failed, failure_located settings .silent .offline document () #[] failure failed⟩

end TextMacros
