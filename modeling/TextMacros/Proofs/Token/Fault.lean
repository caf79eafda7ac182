import TextMacros.Proofs.Definition
import TextMacros.Proofs.Token.Completion

/-!
# Faults are early

Signatures and definitions are refused as early as possible. A signature is a completable reader
itself. A definition is one up to the end of the token of its body; behind that only blanks may
stand, so a definition that is accepted stays accepted with further blanks, and the first character
that is no blank is refused (`faults_earliest`).
-/

namespace TextMacros
namespace Token

/-- Where the front of a definition runs out of text, some continuation is a front of one. -/
theorem completable_readDefinitionFront : Completable readDefinitionFront :=
  (completable_mark introducer).bind fun _ => completable_readSignature.bind fun signature =>
    (completable_mark '=').bind fun _ => completable_readToken.bind fun body =>
      .pure (signature.1, signature.2, body)

/-- A definition is accepted exactly when its front is, with blanks behind it. -/
theorem accepts_readDefinition {text : Text} :
    Accepts readDefinition text ↔
      ∃ front gap, text = front ++ gap ∧ Accepts readDefinitionFront front ∧ Gap gap := by
  rw [readDefinition_eq]
  constructor
  · rintro ⟨found, later, success, -⟩
    obtain ⟨value, middle, front, back⟩ := bind_eq_ok.mp success
    obtain ⟨_, last, blanks, -⟩ := bind_eq_ok.mp back
    obtain ⟨piece, ⟨split, -⟩, takes⟩ := completable_readDefinitionFront.isLocal.takes_of_ok front
    exact ⟨piece, middle.unread, split, takes.accepts, gap_of_expectOnlyIgnorable blanks⟩
  · rintro ⟨front, gap, rfl, accepts, blank⟩
    obtain ⟨value, takes⟩ := completable_readDefinitionFront.isLocal.takes accepts
    have rest : Gap (⟨0 + front.size, gap⟩ : Cursor).unread := blank
    refine ⟨value, ⟨0 + front.size + gap.size, []⟩, ?_, rfl⟩
    unfold Cursor.start
    rw [bind_of_ok _ (takes 0 gap), bind_of_ok _ (expectOnlyIgnorable_of_gap rest)]
    rfl

/-- A front of a definition is a definition. -/
theorem accepts_readDefinition_of_front {text : Text} (accepts : Accepts readDefinitionFront text) :
    Accepts readDefinition text :=
  accepts_readDefinition.mpr ⟨text, [], (List.append_nil text).symm, accepts, by simp [Gap]⟩

/-- A definition fails with its front, or for what is behind it. -/
theorem readDefinition_eq_error {cursor later : Cursor} {fault : Fault}
    (failure : readDefinition cursor = .error fault later) :
    readDefinitionFront cursor = .error fault later ∨
      ∃ front gap symbol rest, cursor.unread = front ++ gap ++ symbol :: rest ∧
        Accepts readDefinitionFront front ∧ Gap gap ∧ isIgnorable symbol = false ∧
        fault = ⟨cursor.offset + (front ++ gap).size, .unexpectedSymbol .blanks symbol⟩ := by
  rw [readDefinition_eq] at failure
  cases outcome : readDefinitionFront cursor with
  | error failed last =>
    rw [bind_of_error _ outcome] at failure
    exact .inl failure
  | ok found middle =>
    obtain ⟨front, ⟨split, place⟩, takes⟩ :=
      completable_readDefinitionFront.isLocal.takes_of_ok outcome
    rw [bind_of_ok _ outcome] at failure
    rcases passes_or_stops isIgnorable middle.unread with
      blank | ⟨gap, symbol, rest, ahead, blank, stops⟩
    · rw [bind_of_ok _ (expectOnlyIgnorable_of_gap blank)] at failure
      cases failure
    · rw [bind_of_error _ (expectOnlyIgnorable_of_stops ahead blank stops)] at failure
      cases failure
      refine .inr ⟨front, gap, symbol, rest, ?_, takes.accepts, blank, stops, ?_⟩
      · rw [split, ahead, List.append_assoc]
      · rw [place, Text.size_append, Nat.add_assoc]

/-- A definition fails wherever its front does. -/
theorem readDefinition_of_front {cursor later : Cursor} {fault : Fault}
    (failure : readDefinitionFront cursor = .error fault later) :
    readDefinition cursor = .error fault later := by
  rw [readDefinition_eq]
  exact bind_of_error _ failure

/-- Two pieces at the front of one text: one begins the other. -/
theorem front_or_longer {front back piece rest : Text} (same : front ++ back = piece ++ rest) :
    piece <+: front ∨ ∃ symbol more, piece = front ++ symbol :: more := by
  rcases List.append_eq_append_iff.mp same with ⟨middle, longer, -⟩ | ⟨middle, longer, -⟩
  · cases middle with
    | nil => exact .inl ⟨[], by simp [longer]⟩
    | cons symbol more => exact .inr ⟨symbol, more, longer⟩
  · exact .inl ⟨middle, longer.symm⟩

/-- The end of the text is a fault of a definition exactly when the text is not accepted and begins
an accepted one. -/
theorem unexpectedEnd_readDefinition_iff (cursor : Cursor) :
    (∃ fault later, readDefinition cursor = .error fault later ∧ fault.problem = .unexpectedEnd) ↔
      ¬ Accepts readDefinition cursor.unread ∧
        ∃ more, Accepts readDefinition (cursor.unread ++ more) := by
  constructor
  · rintro ⟨fault, later, failure, ended⟩
    rcases readDefinition_eq_error failure with front | ⟨_, _, _, _, _, _, _, _, rfl⟩
    · obtain ⟨⟨more, -, accepts⟩, beginsNone⟩ :=
        (completable_readDefinitionFront.unexpectedEnd_iff cursor).mp ⟨fault, later, front, ended⟩
      refine ⟨fun whole => ?_, more, accepts_readDefinition_of_front accepts⟩
      obtain ⟨piece, gap, split, accepted, -⟩ := accepts_readDefinition.mp whole
      exact beginsNone piece ⟨gap, split.symm⟩ accepted
    · cases ended
  · rintro ⟨refused, more, accepts⟩
    obtain ⟨piece, gap, split, accepted, blank⟩ := accepts_readDefinition.mp accepts
    rcases front_or_longer split with ⟨rest, inside⟩ | ⟨symbol, others, longer⟩
    · -- The front is within the text, so the rest of the text is blank and the text is accepted.
      have behind : rest ++ more = gap := by
        rw [← inside, List.append_assoc] at split
        exact List.append_cancel_left split
      have restBlank : Gap rest := fun symbol member =>
        blank symbol (behind ▸ List.mem_append_left more member)
      exact absurd (accepts_readDefinition.mpr ⟨piece, rest, inside.symm, accepted, restBlank⟩)
        refused
    · have beginsNone : ∀ shorter, shorter <+: cursor.unread →
          ¬ Accepts readDefinitionFront shorter := by
        intro shorter begins also
        have within : shorter <+: piece := longer ▸ begins.trans (List.prefix_append _ _)
        have same := completable_readDefinitionFront.isLocal.prefix_free also accepted within
        have fits := begins.length_le
        simp only [same, longer, List.length_append, List.length_cons] at fits
        omega
      obtain ⟨fault, later, failure, ended⟩ :=
        (completable_readDefinitionFront.unexpectedEnd_iff cursor).mpr
          ⟨⟨symbol :: others, by simp, longer ▸ accepted⟩, beginsNone⟩
      exact ⟨fault, later, readDefinition_of_front failure, ended⟩

/-- Any other fault of a definition is at the earliest place. -/
theorem earliest_readDefinition {cursor later : Cursor} {fault : Fault}
    (failure : readDefinition cursor = .error fault later)
    (other : fault.problem ≠ .unexpectedEnd) : Earliest readDefinition cursor fault := by
  rcases readDefinition_eq_error failure with
    failed | ⟨front, gap, symbol, rest, split, accepted, blank, stops, rfl⟩
  · obtain ⟨front, symbol, rest, split, place, ⟨more, accepts⟩, none⟩ :=
      completable_readDefinitionFront.earliest failed other
    refine ⟨front, symbol, rest, split, place, ⟨more, accepts_readDefinition_of_front accepts⟩, ?_⟩
    intro others whole
    obtain ⟨piece, gap, same, accepted, -⟩ := accepts_readDefinition.mp whole
    rcases front_or_longer same with inside | ⟨next, tail, longer⟩
    · -- The front of a definition would be ahead, and yet reading it fails.
      obtain ⟨value, takes⟩ := completable_readDefinitionFront.isLocal.takes accepted
      have ahead : piece <+: cursor.unread :=
        split ▸ inside.trans (List.prefix_append front (symbol :: rest))
      obtain ⟨last, success⟩ := takes.ok ahead
      cases success.symm.trans failed
    · rw [longer, List.append_assoc] at same
      have first : symbol = next := by
        have cancelled := List.append_cancel_left same
        simp only [List.cons_append, List.cons.injEq] at cancelled
        exact cancelled.1
      rw [longer, ← first] at accepted
      exact none tail accepted
  · refine ⟨front ++ gap, symbol, rest, split, rfl, ⟨[], ?_⟩, ?_⟩
    · rw [List.append_nil]
      exact accepts_readDefinition.mpr ⟨front, gap, rfl, accepted, blank⟩
    · intro others whole
      obtain ⟨piece, behind, same, also, blankBehind⟩ := accepts_readDefinition.mp whole
      have isLocal := completable_readDefinitionFront.isLocal
      have unique : front = piece := by
        have one : front <+: front ++ gap ++ symbol :: others := by simp
        have another : piece <+: front ++ gap ++ symbol :: others := ⟨behind, same.symm⟩
        rcases List.prefix_or_prefix_of_prefix one another with begins | begins
        · exact isLocal.prefix_free accepted also begins
        · exact (isLocal.prefix_free also accepted begins).symm
      rw [← unique, List.append_assoc] at same
      have cancelled := List.append_cancel_left same
      have inside : symbol ∈ behind := by
        rw [← cancelled]
        simp
      have passes := blankBehind symbol inside
      rw [stops] at passes
      cases passes

/-- Faults are as early as they can be. A signature is refused for the end of the text exactly when
the text is a proper front part of a signature and does not begin with one; a definition, which may
be followed by blanks, exactly when the text is no definition and begins one. Any other fault is at
a character before which the text begins something that is accepted, and with which it begins
nothing that is. -/
theorem faults_earliest (cursor : Cursor) :
    ((∃ fault later, readSignature cursor = .error fault later ∧ fault.problem = .unexpectedEnd) ↔
      (∃ more, more ≠ [] ∧ Accepts readSignature (cursor.unread ++ more)) ∧
        ∀ piece, piece <+: cursor.unread → ¬ Accepts readSignature piece) ∧
    (∀ fault later, readSignature cursor = .error fault later → fault.problem ≠ .unexpectedEnd →
      Earliest readSignature cursor fault) ∧
    ((∃ fault later, readDefinition cursor = .error fault later ∧
        fault.problem = .unexpectedEnd) ↔
      ¬ Accepts readDefinition cursor.unread ∧
        ∃ more, Accepts readDefinition (cursor.unread ++ more)) ∧
    (∀ fault later, readDefinition cursor = .error fault later → fault.problem ≠ .unexpectedEnd →
      Earliest readDefinition cursor fault) := by
  refine ⟨completable_readSignature.unexpectedEnd_iff cursor, ?_,
    unexpectedEnd_readDefinition_iff cursor, ?_⟩
  · exact fun _ _ failure other => completable_readSignature.earliest failure other
  · exact fun _ _ failure other => earliest_readDefinition failure other

end Token
end TextMacros
