import TextMacros.Proofs.Expansion.Invariant

/-!
# Termination within the limit of nesting

The recursion of an expansion ends, whatever the document and the replies are, because each of its
steps leads to smaller points alone. What a point leads to is told by its answer: a point needs
another one when the answer there makes a difference to its own (`Needs`). Along such a chain every
text that is left behind is a fragment that is still open, and each of them has taken a level
(`Reaches.levels_le`). So no more fragments are open at once than the limit admits, and an
interpreter that is cut off below that many nested texts is never asked there (`unrolled_eq`).
-/

namespace TextMacros

open Token

namespace Expansion

variable {State : Type}

/-! ## Interpreters with a bottom -/

/-- Expands a text under the guard of the depth, with an expander for its nested texts. -/
def guarded (services : Services State) (expand : Expander State) : Expander State :=
  fun text bindings origin context =>
    match context.depth.enter? with
    | none => .error ⟨.recursionLimit context.depth.limit, ⟨origin, text⟩, ⟨0, text.size⟩⟩ context
    | some _ => within bindings origin (ofFragment services expand ⟨origin, text⟩) context

/-- Expands a text with so many nested texts in each other; below them stands the bottom. -/
def unrolled (services : Services State) (bottom : Expander State) : Nat → Expander State
  | 0 => bottom
  | levels + 1 => guarded services (unrolled services bottom levels)

/-- With more texts in each other than there are levels left, the bottom is never asked. -/
theorem unrolled_eq {services : Services State} {bottom : Expander State} {levels : Nat}
    {text : Text} {bindings : List Macro} {origin : Origin} {context : Context State}
    (room : context.depth.remaining < levels) :
    unrolled services bottom levels text bindings origin context =
      ofText services text bindings origin context := by
  induction levels generalizing text bindings origin context with
  | zero => exact absurd room (Nat.not_lt_zero _)
  | succ levels hypothesis =>
    rw [ofText_eq]
    unfold unrolled guarded
    cases admitted : context.depth.enter? with
    | none => rfl
    | some deeper =>
      have left := Depth.remaining_ne_zero admitted
      have below : (context.enter bindings origin).depth.remaining < levels := by
        rw [Context.remaining_enter]
        omega
      have nested : ∀ inner others source (later : Context State),
          later.depth.remaining = (context.enter bindings origin).depth.remaining →
          unrolled services bottom levels inner others source later =
            ofText services inner others source later :=
        fun _ _ _ later same => hypothesis (lt_of_eq_of_lt same below)
      have fragment : ofFragment services (unrolled services bottom levels) ⟨origin, text⟩
            (context.enter bindings origin) =
          ofFragment services (ofText services) ⟨origin, text⟩ (context.enter bindings origin) :=
        ofFragment_congr nested (keeps_ofText services) _ _ rfl
      simp only [within, run, fragment]

/-! ## What a point needs -/

/-- The answer at a point depends on the answer at another one: another answer there, and nowhere
else, can change it. -/
def Needs (services : Services State) (point next : Point State) : Prop :=
  ∃ other : Interpreter State,
    (∀ third : Point State, third ≠ next → third.answer other = third.answer (bounded services)) ∧
    point.answer (recur services other) ≠ point.answer (bounded services)

section

variable {services : Services State} {point next start : Point State}

/-- A point needs smaller points only. -/
theorem Needs.smaller (needs : Needs services point next) : next.measure < point.measure := by
  obtain ⟨other, elsewhere, differs⟩ := needs
  by_contra large
  have agree : ∀ smaller : Point State, smaller.measure < point.measure →
      smaller.answer other = smaller.answer (bounded services) := by
    intro smaller less
    refine elsewhere smaller fun same => large ?_
    rw [← same]
    exact less
  exact differs (recur_of_smaller point agree)

/-- The fragments that are opened on the way from a task to what it needs. -/
def Task.opens {α : Type} : Task α → Nat
  | .text _ _ _ => 1
  | .place _ _ | .loop _ _ => 0

/-- Every fragment that is opened takes a level. -/
theorem Needs.levels_le (needs : Needs services point next) :
    next.levels + point.task.opens ≤ point.levels := by
  have less := Point.measure_lt_iff.mp needs.smaller
  obtain ⟨task, context⟩ := point
  cases task with
  | text text bindings origin =>
    simp only [Task.opens, Task.unread, Task.rounds, List.length_nil] at less ⊢
    omega
  | place fragment cursor =>
    simp only [Task.opens]
    omega
  | loop behind rounds =>
    simp only [Task.opens]
    omega

/-- A failure that is not the one of a result. -/
theorem exists_other_failure {α : Type} (result : EStateM.Result Failure (Context State) α) :
    ∃ failure, ∀ context, result ≠ .error failure context := by
  cases result with
  | ok value later =>
    exact ⟨⟨.recursionLimit 0, ⟨.labelled [], []⟩, ⟨0, 0⟩⟩, fun _ same => nomatch same⟩
  | error failure later =>
    refine ⟨{ failure with span := ⟨failure.span.offset + 1, 0⟩ }, fun context same => ?_⟩
    have failures : failure = { failure with span := ⟨failure.span.offset + 1, 0⟩ } := by
      injection same
    have offsets := congrArg (fun failure : Failure => failure.span.offset) failures
    simp at offsets

/-- A point needs another one if it fails whenever the other one does and nothing else differs. -/
theorem needs_of_fails (fails : ∀ (other : Interpreter State) (failure : Failure),
    (∀ third : Point State, third ≠ next →
      third.answer other = third.answer (bounded services)) →
    next.answer other = .error failure next.context →
    ∃ later, point.answer (recur services other) = .error failure later) :
    Needs services point next := by
  classical
  obtain ⟨failure, apart⟩ := exists_other_failure (point.answer (bounded services))
  let other : Interpreter State :=
    ⟨fun {α} task context =>
      if (⟨task, context⟩ : Point State) = next then .error failure context
      else (bounded services).answer task context⟩
  have elsewhere : ∀ third : Point State, third ≠ next →
      third.answer other = third.answer (bounded services) := fun third differs => if_neg differs
  have asked : next.answer other = .error failure next.context := if_pos rfl
  obtain ⟨later, failed⟩ := fails other failure elsewhere asked
  refine ⟨other, elsewhere, fun same => apart later ?_⟩
  rw [← same, failed]

/-- From a point on, so many fragments are opened on the way to another one. -/
inductive Reaches (services : Services State) (start : Point State) : Nat → Point State → Prop
  /-- The way begins at the point. -/
  | here : Reaches services start 0 start
  /-- The way goes on to a point that is needed. -/
  | further {opened : Nat} {point next : Point State} (before : Reaches services start opened point)
    (needs : Needs services point next) :
    Reaches services start (opened + point.task.opens) next

/-- The fragments that are open on the way to a point have taken a level each. -/
theorem Reaches.levels_le {opened : Nat} (reaches : Reaches services start opened point) :
    point.levels + opened ≤ start.levels := by
  induction reaches with
  | here => exact Nat.le_refl _
  | further before needs hypothesis =>
    have taken := needs.levels_le
    omega

end

/-- The expansion of a document ends, whatever the settings, the replies and the retrieved texts
are; a locator always has the same text. The recursion, which has no bound of its own, does at each
point what the smaller points settle; smaller is well-founded in the levels that are left, the text
that has not been read and the rounds that remain. So exactly one interpreter answers for itself,
and a document is answered by it. On the way to any point no more fragments are open at once than
the limit of nesting. An interpreter that is bounded by the levels that are left comes to the end of
its bound only where the guard refuses the text: with more texts in each other than that, it does
not matter what stands at the bottom. -/
theorem expansion_terminates (settings : Settings) (prompt : Prompt State) (retriever : Retriever)
    (document : Text) (state : State) (journal : Journal) :
    let services : Services State := ⟨settings.pageMarker, prompt, retriever⟩
    let begun := (Context.initial settings.maxDepth state journal).note
      (.expanding settings.sourceName document.size)
    let task : Task Text := .text document [] (.labelled settings.sourceName)
    (WellFounded fun smaller point : Point State => smaller.measure < point.measure) ∧
    (∀ (other : Interpreter State) (point : Point State),
      (∀ smaller : Point State, smaller.measure < point.measure →
        smaller.answer other = smaller.answer (bounded services)) →
      point.answer (recur services other) = point.answer (bounded services)) ∧
    (∀ other : Interpreter State, recur services other = other ↔ other = bounded services) ∧
    (expandDocument settings prompt retriever document state journal).result =
      (match (bounded services).answer task begun with
        | .ok output _ => .ok output
        | .error failure _ => .error failure) ∧
    (∀ opened point, Reaches services ⟨task, begun⟩ opened point → opened ≤ settings.maxDepth) ∧
    (∀ (bottom : Expander State) (levels : Nat) (text : Text) (bindings : List Macro)
      (origin : Origin) (context : Context State), context.depth.remaining < levels →
      unrolled services bottom levels text bindings origin context =
        ofTextWithin services context.depth.remaining text bindings origin context) := by
  intro services begun task
  refine ⟨Point.wellFounded_measure, fun other point => recur_of_smaller point,
    fun other => recur_eq_self_iff, ?_, ?_, ?_⟩
  · have answered : (bounded services).answer task begun =
        ofText services document [] (.labelled settings.sourceName) begun := rfl
    rw [answered]
    unfold expandDocument
    dsimp only
    cases ofText services document [] (.labelled settings.sourceName) begun with
    | ok output later => rfl
    | error failure later => rfl
  · intro opened point reaches
    have taken := reaches.levels_le
    have limit : (⟨task, begun⟩ : Point State).levels = settings.maxDepth :=
      Nat.sub_zero settings.maxDepth
    omega
  · exact fun bottom levels text bindings origin context room => unrolled_eq room

end Expansion
end TextMacros
