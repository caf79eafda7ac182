import TextMacros.Proofs.Expansion.Termination

/-!
# Invariants at reached points

An invariant that holds where an expansion is begun holds at every point that is reached. For a
point is needed only if another answer there can make a difference, and behind a point that meets
the invariant no other answer at a point that does not meet it can (`Needs.meets`). So the invariant
holds whenever a text is expanded, wherever a fragment is entered, and whenever an invocation is
resolved.
-/

namespace TextMacros

open Token

namespace Expansion

variable {State : Type} {services : Services State} {start point next : Point State}

/-- What is needed at a point that meets an invariant meets it as well. -/
theorem Needs.meets (invariant : Invariant services) (needs : Needs services point next)
    (meets : point.Meets invariant) : next.Meets invariant := by
  obtain ⟨other, elsewhere, differs⟩ := needs
  by_contra fails
  have agree : ∀ third : Point State, third.Meets invariant →
      third.answer other = third.answer (bounded services) := by
    intro third holds
    have apart : third ≠ next := fun same => fails (same ▸ holds)
    exact elsewhere third apart
  exact differs (invariant.recur_of_agree agree point meets)

/-- What is reached from a point that meets an invariant meets it as well. -/
theorem Reaches.meets (invariant : Invariant services) {opened : Nat}
    (reaches : Reaches services start opened point) (meets : start.Meets invariant) :
    point.Meets invariant := by
  induction reaches with
  | here => exact meets
  | further _ needs hypothesis => exact needs.meets invariant hypothesis

/-- Beyond a text, at least one fragment is open. -/
theorem Reaches.opened_pos {opened : Nat} (reaches : Reaches services start opened point)
    (text : 0 < start.task.opens) : point = start ∨ 0 < opened := by
  induction reaches with
  | here => exact .inl rfl
  | further before _ hypothesis =>
    rcases hypothesis with rfl | some
    · exact .inr (Nat.add_pos_right _ text)
    · exact .inr (Nat.add_pos_left some _)

/-- On the way from a point, an invocation of a fragment is resolved in a context. -/
inductive Resolves (services : Services State) (start : Point State) (fragment : Fragment)
    (invocation : Invocation) : Context State → Prop
  /-- The invocation is the next one at a place that is reached. -/
  | next {opened offset : Nat} {literal rest : Text} {later : Cursor} {context : Context State}
    (reaches : Reaches services start opened
      ⟨.place fragment ⟨offset, literal ++ introducer :: rest⟩, context⟩)
    (plain : introducer ∉ literal)
    (read : fragment.readInvocation (offset + literal.size)
      ⟨offset + literal.size + 1, rest⟩ = .ok invocation later) :
    Resolves services start fragment invocation
      (context.note (.recognized fragment.origin invocation.name invocation.arity invocation.span))

variable {fragment : Fragment} {invocation : Invocation} {context : Context State}

/-- The answer at the place of an invocation is what follows from resolving it. -/
theorem Resolves.answer (resolves : Resolves services start fragment invocation context) :
    ∃ opened cursor outside, ∃ others : Text → Expansion State Text,
      Reaches services start opened ⟨.place fragment cursor, outside⟩ ∧
      runFrom services fragment cursor outside =
        (resolve services (ofText services) fragment invocation >>= others) context := by
  cases resolves with
  | @next opened offset literal rest later outside reaches plain read =>
    let others : Text → Expansion State Text := fun value =>
      runFrom services fragment later >>= fun others => pure (literal ++ value ++ others)
    refine ⟨opened, _, outside, others, reaches, ?_⟩
    rw [runFrom_of_introducer plain, read]
    exact bind_of_ok _ rfl

/-- An invariant holds wherever an invocation is resolved. -/
theorem Resolves.holds (invariant : Invariant services)
    (resolves : Resolves services start fragment invocation context)
    (meets : start.Meets invariant) : invariant.holds context := by
  obtain ⟨reaches, -, -⟩ := resolves
  exact invariant.steady.note _ rfl (reaches.meets invariant meets).1

/-- Resolving an invocation of a macro of a scope expands its parameters and then its body, with the
values bound to the formal parameters. -/
theorem resolveBy_of_found {other : Interpreter State} {behind : Cursor}
    (user : Primitive.ofName? invocation.name = none) {index : Nat} {definition : Macro}
    (found : context.scopes.find? ⟨invocation.name, invocation.arity⟩ = some (index, definition))
    {values : List Text} {later : Context State}
    (evaluated : other.answer
        (.loop behind (parameterRounds definition.name invocation.parameters))
      (context.note (.macroFound invocation.name index)) = .ok values later) :
    resolveBy services other behind fragment invocation context =
      other.answer (.text definition.body
        (List.zipWith Macro.constant definition.parameters values) (.body definition.name))
        later := by
  have known : (get : Expansion State _) context = .ok context context := rfl
  have noted : (note (.macroFound invocation.name index) : Expansion State Unit) context =
      .ok () (context.note (.macroFound invocation.name index)) := rfl
  unfold resolveBy
  rw [user]
  dsimp only
  rw [bind_of_ok _ known, found]
  dsimp only
  rw [bind_of_ok _ noted]
  exact bind_of_ok _ evaluated

/-- The body of a macro of a scope is reached when the parameters of its call have been expanded,
with their values bound to the formal parameters. -/
theorem Resolves.reaches_body (resolves : Resolves services start fragment invocation context)
    (user : Primitive.ofName? invocation.name = none) {index : Nat} {definition : Macro}
    (found : context.scopes.find? ⟨invocation.name, invocation.arity⟩ = some (index, definition))
    {values : List Text} {later : Context State}
    (evaluated : (invocation.parameters.zipIdx.mapM fun (parameter, position) =>
        ofText services parameter [] (.parameter (position + 1) definition.name))
      (context.note (.macroFound invocation.name index)) = .ok values later) :
    ∃ opened, Reaches services start opened
      ⟨.text definition.body (List.zipWith Macro.constant definition.parameters values)
        (.body definition.name), later⟩ := by
  cases resolves with
  | @next opened offset literal rest behind outside reaches plain read =>
    refine ⟨_, reaches.further (needs_of_fails fun other failure elsewhere failed => ?_)⟩
    have loop : ∀ context, other.answer
        (.loop behind (parameterRounds definition.name invocation.parameters)) context =
          (bounded services).answer
            (.loop behind (parameterRounds definition.name invocation.parameters)) context := by
      intro context
      -- A loop opens no fragment and a text opens one, so this is another point than the body.
      apply elsewhere ⟨_, context⟩
      intro same
      have opens := congrArg (fun point : Point State => point.task.opens) same
      exact absurd opens Nat.zero_ne_one
    simp only [loop_parameterRounds] at loop
    have body : other.answer (.text definition.body
        (List.zipWith Macro.constant definition.parameters values) (.body definition.name))
        later = .error failure later := failed
    have called : resolveBy services other behind fragment invocation _ =
        .error failure later :=
      (resolveBy_of_found user found ((loop _).trans evaluated)).trans body
    refine ⟨later, ?_⟩
    show (recur services other).answer
      (.place fragment ⟨offset, literal ++ introducer :: rest⟩) outside = _
    rw [recur_place_of_introducer plain, read]
    exact (bind_of_ok _ rfl).trans (bind_of_error _ called)

end Expansion

/-- The journal of a document is the journal of a context of some kind, if the context behind its
text is of that kind and the last entry leads to such a context again. -/
theorem journal_expandDocument {State : Type} {settings : Settings} {prompt : Prompt State}
    {retriever : Retriever} {document : Text} {state : State} {journal : Journal}
    {kept : Context State → Prop}
    (ended : kept (Expansion.contextOf (Expansion.ofText ⟨settings.pageMarker, prompt, retriever⟩
      document [] (.labelled settings.sourceName)
      ((Context.initial settings.maxDepth state journal).note
        (.expanding settings.sourceName document.size)))))
    (finished : ∀ context size, kept context →
      kept (context.note (.expanded settings.sourceName size))) :
    ∃ last, kept last ∧
      (expandDocument settings prompt retriever document state journal).journal = last.journal := by
  unfold expandDocument
  dsimp only
  generalize Expansion.ofText _ document [] (.labelled settings.sourceName) _ = outcome at ended
  cases outcome with
  | ok output context => exact ⟨_, finished context output.size ended, rfl⟩
  | error failure context => exact ⟨context, ended, rfl⟩

end TextMacros
