import TextMacros.Proofs.Expansion.Nesting
import TextMacros.Proofs.Segmentation

/-!
# Runs from a place

A run can be begun at any place of its fragment. What it does from there is told by the text ahead:
a text without introducers is put out as it stands, and the first introducer begins an invocation
that is either broken, which ends the run, or resolved, and the run goes on behind it.
-/

namespace TextMacros

open Token

namespace Fragment

/-- A text without introducers is one segment. -/
theorem segmentsFrom_of_plain {fragment : Fragment} {offset : Nat} {text : Text}
    (plain : introducer ∉ text) :
    fragment.segmentsFrom ⟨offset, text⟩ = [.literal text] := by
  rw [segmentsFrom]
  split
  · rw [takeWhile_of_plain plain]
  · rename_i ahead
    rw [dropWhile_of_plain plain] at ahead
    cases ahead

/-- Behind a plain literal, an invocation is followed by the segments behind it; a broken one is
the last segment. -/
theorem segmentsFrom_of_introducer {fragment : Fragment} {offset : Nat} {literal : Text}
    (plain : introducer ∉ literal) (rest : Text) :
    fragment.segmentsFrom ⟨offset, literal ++ introducer :: rest⟩ =
      match fragment.readInvocation (offset + literal.size)
        ⟨offset + literal.size + 1, rest⟩ with
      | .error failure _ => [.literal literal, .broken failure]
      | .ok invocation later =>
        .literal literal :: .invocation invocation :: fragment.segmentsFrom later := by
  have width : introducer.utf8Size = 1 := rfl
  rw [segmentsFrom]
  split
  · rename_i ahead
    rw [dropWhile_plain plain] at ahead
    cases ahead
  · rename_i ahead
    rw [dropWhile_plain plain] at ahead
    cases ahead
    dsimp only
    split
    · rename_i outcome
      rw [takeWhile_plain plain, width] at outcome
      rw [takeWhile_plain plain, outcome]
    · rename_i outcome
      rw [takeWhile_plain plain, width] at outcome
      rw [takeWhile_plain plain, outcome]

end Fragment

namespace Expansion

variable {State : Type}

/-- Expands a fragment from a place in it. -/
def runFrom (services : Services State) (fragment : Fragment) (cursor : Cursor) :
    Expansion State Text :=
  (fragment.segmentsFrom cursor).mapM (ofSegment services (ofText services) fragment) >>=
    fun results => pure results.flatten

/-- A run begins in front of the text. -/
theorem run_eq_runFrom (services : Services State) (fragment : Fragment) :
    run services fragment = runFrom services fragment (Cursor.start fragment.text) := rfl

variable {services : Services State} {fragment : Fragment} {offset : Nat}

/-- A run from a place is uniform. -/
theorem Uniform.runFrom {Index : Type} {fails : (Index → Failure) → Prop}
    (allowed : ∀ failure, fails fun _ => failure) (cursor : Cursor) :
    Uniform services (fun _ => ofText services) fails fun _ =>
      Expansion.runFrom services fragment cursor :=
  .bind (.mapM _ fun _ => .ofSegment (admitsSegment_of_allowed allowed)) fun results =>
    .pure results.flatten

/-- A text without introducers is put out as it stands. -/
theorem runFrom_of_plain {text : Text} (plain : introducer ∉ text) :
    runFrom services fragment ⟨offset, text⟩ = pure text := by
  unfold runFrom
  rw [Fragment.segmentsFrom_of_plain plain]
  simp [ofSegment]

/-- A run over a text without introducers puts it out as it stands. -/
theorem run_of_plain {origin : Origin} {text : Text} (plain : introducer ∉ text) :
    run services ⟨origin, text⟩ = pure text := runFrom_of_plain plain

/-- An invocation behind a plain literal is noted and resolved, and the run goes on behind it; a
broken one ends the run. -/
theorem runFrom_of_introducer {literal : Text} (plain : introducer ∉ literal) (rest : Text) :
    runFrom services fragment ⟨offset, literal ++ introducer :: rest⟩ =
      match fragment.readInvocation (offset + literal.size)
        ⟨offset + literal.size + 1, rest⟩ with
      | .error failure _ => throw failure
      | .ok invocation later =>
        note (.recognized fragment.origin invocation.name invocation.arity invocation.span) >>=
          fun _ => resolve services (ofText services) fragment invocation >>= fun value =>
            runFrom services fragment later >>= fun others =>
              pure (literal ++ value ++ others) := by
  unfold runFrom
  rw [Fragment.segmentsFrom_of_introducer plain]
  cases fragment.readInvocation (offset + literal.size) ⟨offset + literal.size + 1, rest⟩ with
  | error failure later =>
    simp only [List.mapM_cons, List.mapM_nil, ofSegment, pure_bind]
    rfl
  | ok invocation later => simp [ofSegment]

/-- An invocation whose spelling is ahead is noted and resolved, and the run goes on behind it;
where its name is blank, the run ends. -/
theorem runFrom_of_signature {written spelling : Text} {parameters : List Text}
    (spelled : SignatureForm written parameters spelling) (rest : Text) :
    runFrom services fragment ⟨offset, introducer :: (spelling ++ rest)⟩ =
      match Name.canonical? written with
      | none => throw ⟨.malformedMacro .emptyName, fragment, ⟨offset, 1 + spelling.size⟩⟩
      | some name =>
        note (.recognized fragment.origin name parameters.length ⟨offset, 1 + spelling.size⟩) >>=
          fun _ => resolve services (ofText services) fragment
            ⟨name, parameters, ⟨offset, 1 + spelling.size⟩⟩ >>= fun value =>
              runFrom services fragment ⟨offset + 1 + spelling.size, rest⟩ >>= fun others =>
                pure (value ++ others) := by
  have reads : (⟨offset + 1, spelling ++ rest⟩ : Cursor).Reads
      ⟨offset + 1 + spelling.size, rest⟩ spelling := ⟨rfl, rfl⟩
  have recognized := fragment.readInvocation_of_signatureForm spelled reads rfl
  have step : runFrom services fragment ⟨offset, introducer :: (spelling ++ rest)⟩ = _ :=
    runFrom_of_introducer List.not_mem_nil (spelling ++ rest)
  simp only [step, Text.size_nil, Nat.add_zero, recognized, List.nil_append]
  cases Name.canonical? written <;> rfl

/-- A text without introducers is put in front of what the rest of the run puts out. -/
theorem runFrom_of_plain_front {literal : Text} (plain : introducer ∉ literal) (rest : Text) :
    runFrom services fragment ⟨offset, literal ++ rest⟩ =
      runFrom services fragment ⟨offset + literal.size, rest⟩ >>= fun others =>
        pure (literal ++ others) := by
  rcases plain_or_introducer rest with plainRest | ⟨run, tail, rfl, plainRun⟩
  · have plainBoth : introducer ∉ literal ++ rest := by simp [plain, plainRest]
    rw [runFrom_of_plain plainBoth, runFrom_of_plain plainRest, pure_bind]
  · have plainBoth : introducer ∉ literal ++ run := by simp [plain, plainRun]
    have start : offset + (literal ++ run).size = offset + literal.size + run.size := by
      rw [Text.size_append, Nat.add_assoc]
    rw [← List.append_assoc, runFrom_of_introducer plainRun, runFrom_of_introducer plainBoth, start]
    cases fragment.readInvocation (offset + literal.size + run.size)
      ⟨offset + literal.size + run.size + 1, tail⟩ with
    | error failure later => rfl
    | ok invocation later => simp only [bind_assoc, pure_bind, List.append_assoc]

end Expansion
end TextMacros
