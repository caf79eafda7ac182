import TextMacros.Proofs.Expansion.Reference
import TextMacros.Proofs.Expansion.Spelling

/-!
# Texts that are not expanded

A comment expands to nothing, whatever it says, and a condition chooses one of two texts, whatever
the other one says. No run looks into such a text: it may be malformed, call macros that do not
exist, recur without end or have effects. To replace it is an edit that shows nowhere
(`run_unexpanded`).
-/

namespace TextMacros

open Token

namespace Expansion

variable {State : Type}

/-- Invocations of one name, by their parameters, that differ in a text which is not expanded in a
context. -/
inductive Unexpanded (services : Services State) (context : Context State) :
    (name : Text) → (parameters replaced : List Text) → Prop
  /-- The text of a comment. -/
  | comment (text replacement : Text) :
    Unexpanded services context Primitive.comment.name [text] [replacement]
  /-- The text for a false condition, where the condition is true. -/
  | whenFalse {condition whenTrue : Text} (whenFalse replacement : Text)
    (holds : ∀ value later, ofText services condition []
      (.parameter 1 Primitive.checkCondition.name) context = .ok value later →
        value.trim = truth true) :
    Unexpanded services context Primitive.checkCondition.name [condition, whenTrue, whenFalse]
      [condition, whenTrue, replacement]
  /-- The text for a true condition, where the condition is false. -/
  | whenTrue {condition whenFalse : Text} (whenTrue replacement : Text)
    (fails : ∀ value later, ofText services condition []
      (.parameter 1 Primitive.checkCondition.name) context = .ok value later →
        value.trim = truth false) :
    Unexpanded services context Primitive.checkCondition.name [condition, whenTrue, whenFalse]
      [condition, replacement, whenFalse]

/-- As many parameters are replaced as there are. -/
theorem Unexpanded.length_eq {services : Services State} {context : Context State} {name : Text}
    {parameters replaced : List Text}
    (same : Unexpanded services context name parameters replaced) :
    replaced.length = parameters.length := by
  cases same <;> rfl

section

variable {edit : Edit} (services : Services State) {contexts : Bool → Context State}

/-- One primitive with different parameters is resolved alike when its calls are performed alike. -/
theorem agree_resolve_of_perform {primitive : Primitive} {parameters : Bool → List Text}
    {calls : Bool → Call} {spans : Bool → Span}
    (called : Primitive.ofName? primitive.name = some primitive)
    (accepted : ∀ edited, Call.ofParameters? primitive (parameters edited) = some (calls edited))
    (follow : BothFollow edit contexts)
    (performed : ∀ noted, BothFollow edit noted →
      (∀ edited, (contexts edited).Alike (noted edited)) →
      Agree (BothFollow edit) (FailuresMove edit) fun edited =>
        perform services (ofText services)
          ⟨edit.version edited, ⟨primitive.name, parameters edited, spans edited⟩, primitive⟩
          (calls edited) (noted edited)) :
    Agree (BothFollow edit) (FailuresMove edit) fun edited =>
      resolve services (ofText services) (edit.version edited)
        ⟨primitive.name, parameters edited, spans edited⟩ (contexts edited) := by
  simp only [fun edited => resolve_eq_perform services (ofText services) (edit.version edited)
    (spans edited) called (accepted edited)]
  have noted := (extensible_journalsMove.lasting services).note contexts
    (.primitiveCalled primitive.name primitive) rfl follow
  exact performed _ noted fun edited => ⟨rfl, rfl, rfl, rfl⟩

/-- Where a condition is decided, the text for the other case makes no difference. The texts are
given by the version and by the truth value that chooses them. -/
theorem agree_perform_checkCondition {condition : Text} {texts : Bool → Bool → Text}
    {invocations : Bool → Invocation} {taken : Bool} (same : texts true taken = texts false taken)
    (follow : BothFollow edit contexts)
    (decided : ∀ value later, ofText services condition []
      (.parameter 1 Primitive.checkCondition.name) (contexts false) = .ok value later →
        value.trim = truth taken) :
    Agree (BothFollow edit) (FailuresMove edit) fun edited =>
      perform services (ofText services)
        ⟨edit.version edited, invocations edited, .checkCondition⟩
        (.checkCondition condition (texts edited true) (texts edited false)) (contexts edited) := by
  have lasting : Lasting services (BothFollow edit) := extensible_journalsMove.lasting services
  have nested : ∀ text origin contexts, BothFollow edit contexts →
      Agree (BothFollow edit) (FailuresMove edit) fun edited =>
        ofText services text [] origin (contexts edited) := fun text origin contexts follow =>
    (lasting.nested text [] origin contexts follow).weaken fun _ => failuresMove_of_shared
  have chosen : ∀ edited, texts edited taken = texts false taken := by
    intro edited
    cases edited with
    | false => rfl
    | true => exact same
  have apart : truth false ≠ truth true := by decide
  cases nested condition (.parameter 1 Primitive.checkCondition.name) contexts follow with
  | failure failure later moves kept outcome =>
    exact .failure failure later moves kept fun edited => bind_of_error _ (outcome edited)
  | success value later kept outcome =>
    have known := decided value _ (outcome false)
    have goes : ∀ edited, perform services (ofText services)
        ⟨edit.version edited, invocations edited, .checkCondition⟩
        (.checkCondition condition (texts edited true) (texts edited false)) (contexts edited) =
          ofText services (texts false taken) []
            (.parameter (cond taken 2 3) Primitive.checkCondition.name) (later edited) := by
      intro edited
      refine (bind_of_ok _ (outcome edited)).trans ?_
      rw [← chosen edited]
      cases taken with
      | true => exact congrFun (if_pos known) (later edited)
      | false =>
        have other : ¬ value.trim = truth true := known ▸ apart
        exact congrFun ((if_neg other).trans (if_pos known)) (later edited)
    simp only [goes]
    exact nested _ _ later kept

/-- Invocations that differ in a text which is not expanded are resolved alike. -/
theorem agree_resolve_of_unexpanded {reached : Context State} {name : Text}
    {parameters replaced : List Text}
    (same : Unexpanded services reached name parameters replaced) {spans : Bool → Span}
    (follow : BothFollow edit contexts) (alike : reached.Alike (contexts false)) :
    Agree (BothFollow edit) (FailuresMove edit) fun edited =>
      resolve services (ofText services) (edit.version edited)
        ⟨name, if edited then replaced else parameters, spans edited⟩ (contexts edited) := by
  -- The journal has no influence on the value of a condition.
  have decided : ∀ {condition : Text} {taken : Bool} {noted : Context State},
      (∀ value later, ofText services condition [] (.parameter 1 Primitive.checkCondition.name)
        reached = .ok value later → value.trim = truth taken) →
      (contexts false).Alike noted → ∀ value later, ofText services condition []
        (.parameter 1 Primitive.checkCondition.name) noted = .ok value later →
          value.trim = truth taken := by
    intro condition taken noted known close value later success
    have back : noted.Alike reached := (alike.trans close).symm
    obtain ⟨final, -, before⟩ := ofText_ok_of_alike back success
    exact known value final before
  cases same with
  | comment text replacement =>
    let texts : Bool → Text := fun edited => if edited then replacement else text
    have accepted : ∀ edited, Call.ofParameters? .comment
        (if edited then [replacement] else [text]) = some (.comment (texts edited)) := by
      intro edited
      cases edited <;> rfl
    exact agree_resolve_of_perform services (by decide) accepted follow fun noted kept _ =>
      .success [] noted kept fun _ => rfl
  | @whenFalse condition whenTrue whenFalse replacement holds =>
    let texts : Bool → Bool → Text := fun edited taken =>
      if taken then whenTrue else if edited then replacement else whenFalse
    have accepted : ∀ edited, Call.ofParameters? .checkCondition
        (if edited then [condition, whenTrue, replacement] else
          [condition, whenTrue, whenFalse]) =
            some (.checkCondition condition (texts edited true) (texts edited false)) := by
      intro edited
      cases edited <;> rfl
    exact agree_resolve_of_perform services (by decide) accepted follow fun noted kept close =>
      agree_perform_checkCondition services rfl kept (decided holds (close false))
  | @whenTrue condition whenFalse whenTrue replacement fails =>
    let texts : Bool → Bool → Text := fun edited taken =>
      if taken then if edited then replacement else whenTrue else whenFalse
    have accepted : ∀ edited, Call.ofParameters? .checkCondition
        (if edited then [condition, replacement, whenFalse] else
          [condition, whenTrue, whenFalse]) =
            some (.checkCondition condition (texts edited true) (texts edited false)) := by
      intro edited
      cases edited <;> rfl
    exact agree_resolve_of_perform services (by decide) accepted follow fun noted kept close =>
      agree_perform_checkCondition services rfl kept (decided fails (close false))

end

/-- A text that is not expanded has no influence. Take a complete front part, an invocation and any
text behind it, in any context. Replace the text of a comment, or the text for a false condition
where the condition is true in the context that the front part leaves, or the text for a true
condition where it is false, by any other text. Then the run has the same end: its output, or its
cause of failure, and its context are the same, and the spans behind the replaced text move with it.
This holds for every prompt, so also for one that records what it is asked and told, and for every
retriever that answers by the locator alone. -/
theorem run_unexpanded (services : Services State) (context : Context State) (origin : Origin)
    {front back written rewritten spelling respelling name : Text}
    {parameters replaced : List Text} (complete : Complete front)
    (spelled : SignatureForm written parameters spelling)
    (respelled : SignatureForm rewritten replaced respelling)
    (named : Name.canonical? written = some name) (renamed : Name.canonical? rewritten = some name)
    (unexpanded : ∀ output reached, run services ⟨origin, front⟩ context = .ok output reached →
      Unexpanded services reached name parameters replaced) :
    Edit.SameEnd ⟨origin, front, introducer :: spelling, introducer :: respelling, back⟩
      (run services ⟨origin, front ++ introducer :: spelling ++ back⟩ context)
      (run services ⟨origin, front ++ introducer :: respelling ++ back⟩ context) := by
  let edit : Edit := ⟨origin, front, introducer :: spelling, introducer :: respelling, back⟩
  let versions : Bool → List Text := fun edited => if edited then replaced else parameters
  have pieces : ∀ edited, ∃ name' piece, edit.piece edited = introducer :: piece ∧
      SignatureForm name' (versions edited) piece ∧ Name.canonical? name' = some name := by
    intro edited
    cases edited with
    | false => exact ⟨written, spelling, rfl, spelled, named⟩
    | true => exact ⟨rewritten, respelling, rfl, respelled, renamed⟩
  have agree : Agree (BothFollow edit) (FailuresMove edit) fun edited =>
      run services (edit.version edited) context := by
    refine agree_run complete services context (fun _ follow => follow) (fun _ moves => moves) ?_
    intro output reached contexts ran alike follow
    have same := unexpanded output reached ran
    refine agree_runFrom_pieceStart_of_resolve services pieces same.length_eq follow ?_
    rintro _ ⟨⟩ noted kept close
    exact agree_resolve_of_unexpanded services same kept ((alike false).trans (close false))
  exact sameEnd_of_agree agree

/-- A condition that is true between blanks. The text for the other case is replaced by a call that
recurs without end and an invocation that is never closed. -/
theorem run_unexpanded_endless :
    let services : Services Unit := ⟨[], .silent, .offline⟩
    let endless : Macro := ⟨['a'], [], "\\|a|\\".toList⟩
    let context : Context Unit := ⟨⟨[⟨[endless]⟩]⟩, .empty, .ofLimit 5, (), #[]⟩
    let name : Text := "check condition".toList
    let condition : Text := " \\|is zero(\\!0!\\)|\\ ".toList
    let spelling : Text :=
      "|check condition(\\# \\|is zero(\\!0!\\)|\\ #\\,\\!1!\\,\\!2!\\)|\\".toList
    let respelling : Text :=
      "|check condition(\\# \\|is zero(\\!0!\\)|\\ #\\,\\!1!\\,\\!\\|a|\\\\(!\\)|\\".toList
    Complete ['x'] ∧ SignatureForm name [condition, ['1'], ['2']] spelling ∧
    SignatureForm name [condition, ['1'], "\\|a|\\\\(".toList] respelling ∧
    Name.canonical? name = some name ∧
    (∀ output reached, run services ⟨.body [], ['x']⟩ context = .ok output reached →
      Unexpanded services reached name [condition, ['1'], ['2']]
        [condition, ['1'], "\\|a|\\\\(".toList]) ∧
    Edit.SameEnd ⟨.body [], ['x'], introducer :: spelling, introducer :: respelling, ['3']⟩
      (run services ⟨.body [], ['x'] ++ introducer :: spelling ++ ['3']⟩ context)
      (run services ⟨.body [], ['x'] ++ introducer :: respelling ++ ['3']⟩ context) := by
  intro services endless context name condition spelling respelling
  have complete : Complete ['x'] := ⟨[], ['x'], .literal (by decide)⟩
  have gap : Gap [] := by decide
  have first : TokenForm condition _ := .delimited '#' (by decide)
  have second : TokenForm ['1'] _ := .delimited '!' (by decide)
  have spelled : SignatureForm name [condition, ['1'], ['2']] spelling := by
    have third : TokenForm ['2'] _ := .delimited '!' (by decide)
    exact .list '|' (by decide) (by decide) (by decide)
      (.more gap first gap (.more gap second gap (.last gap third gap))) gap List.not_mem_nil
  have respelled : SignatureForm name [condition, ['1'], "\\|a|\\\\(".toList] respelling := by
    have third : TokenForm "\\|a|\\\\(".toList _ := .delimited '!' (by decide)
    exact .list '|' (by decide) (by decide) (by decide)
      (.more gap first gap (.more gap second gap (.last gap third gap))) gap List.not_mem_nil
  have named : Name.canonical? name = some name := by decide
  have unexpanded : ∀ output reached,
      run services ⟨.body [], ['x']⟩ context = .ok output reached →
      Unexpanded services reached name [condition, ['1'], ['2']]
        [condition, ['1'], "\\|a|\\\\(".toList] := by
    intro output reached ran
    have front : run services ⟨.body [], ['x']⟩ context = .ok ['x'] context :=
      congrFun (run_of_plain (by decide)) context
    cases front.symm.trans ran
    refine .whenFalse ['2'] "\\|a|\\\\(".toList fun value later success => ?_
    have valued : valueOf? (ofText services condition []
        (.parameter 1 Primitive.checkCondition.name) context) = some " true ".toList := by
      decide +kernel
    rw [success] at valued
    obtain rfl : value = " true ".toList := Option.some.inj valued
    decide
  exact ⟨complete, spelled, respelled, named, unexpanded,
    run_unexpanded services context (.body []) complete spelled respelled named named unexpanded⟩

end Expansion
end TextMacros
