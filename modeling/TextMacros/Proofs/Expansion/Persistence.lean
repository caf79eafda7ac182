import TextMacros.Proofs.Expansion.Installation
import TextMacros.Proofs.Expansion.Reference

/-!
# Definitions stay in force

A definition adds its macro to the current scope, and no scope gives an identity away again. So from
a definition on to the end of its fragment the current scope holds the macro, whatever the texts in
between do (`held_behind_define`). The current scope is the first in which an invocation of the
fragment is looked up, so the invocation finds that macro; and it is the scope to which a later
definition of the fragment would have to add its own, so a definition of the same identity is
refused (`define_persists`).
-/

namespace TextMacros

open Token

namespace Context

variable {State : Type}

/-- The current scope holds a macro. -/
def HoldsHere (context : Context State) (definition : Macro) : Prop :=
  ∃ scope outer, context.scopes.scopes = scope :: outer ∧
    scope.find? definition.key = some definition

variable {context later : Context State} {definition : Macro}

/-- The current scope holds what was added to it. -/
theorem holdsHere_of_insertCurrent? {extended : ScopeStack}
    (inserted : context.scopes.insertCurrent? definition = some extended) :
    HoldsHere { context with scopes := extended } definition := by
  unfold ScopeStack.insertCurrent? at inserted
  split at inserted
  · cases inserted
  · rename_i scope outer opened
    obtain ⟨grown, insertion, rfl⟩ := Option.map_eq_some_iff.mp inserted
    have found : grown.find? definition.key = some definition := by
      rw [Scope.find?_of_insert? insertion, if_pos rfl]
    exact ⟨grown, outer, rfl, found⟩

/-- The current scope keeps what it holds as the scopes grow. -/
theorem HoldsHere.of_grows (holds : context.HoldsHere definition)
    (growth : ScopeStack.Grows context.scopes.scopes later.scopes.scopes) :
    later.HoldsHere definition := by
  obtain ⟨scope, outer, opened, found⟩ := holds
  rw [opened] at growth
  generalize reached : later.scopes.scopes = scopes at growth
  cases growth with
  | @current _ after _ others grows global =>
    exact ⟨after, others, reached, grows.find?_eq_some found⟩

/-- What the current scope holds is found there. -/
theorem HoldsHere.find? (holds : context.HoldsHere definition) :
    context.scopes.find? definition.key = some (context.scopes.depth - 1, definition) := by
  obtain ⟨scope, outer, opened, found⟩ := holds
  have place : context.scopes.depth - 1 = outer.length := by
    unfold ScopeStack.depth
    rw [opened, List.length_cons, Nat.add_sub_cancel]
  rw [place]
  apply ScopeStack.find?_of_grows found
  rw [opened]
  exact .refl _

/-- The current scope refuses a macro with the identity of one that it holds. -/
theorem HoldsHere.refuses (holds : context.HoldsHere definition) {other : Macro}
    (same : other.key = definition.key) : context.scopes.insertCurrent? other = none := by
  obtain ⟨scope, outer, opened, found⟩ := holds
  have taken : (scope.find? other.key).isSome := by
    rw [same, found]
    rfl
  unfold ScopeStack.insertCurrent?
  rw [opened]
  dsimp only
  rw [Scope.insert?_eq_none.mpr taken]
  rfl

end Context

namespace Expansion

variable {State : Type} {services : Services State} {origin : Origin}
  {begun reached : Context State}

/-- When a text succeeds, so does a complete text at its front. -/
theorem run_front_of_ok {front back output : Text} (complete : Complete front)
    (success : run services ⟨origin, front ++ back⟩ begun = .ok output reached) :
    ∃ value middle, run services ⟨origin, front⟩ begun = .ok value middle := by
  rw [← runFrom_frontPart_none] at success
  have whole : (frontPart origin front back).text = [] ++ front := rfl
  cases ((frontPart origin front back).carries_allAlike services).traverse whole
    (fun _ => begun) ⟨begun, fun _ => .refl begun⟩ with
  | through value after alike outcome =>
    have alone := outcome (some origin)
    rw [Part.runFrom_end _ rfl, pure_bind, List.append_nil, runFrom_frontPart_some] at alone
    exact ⟨value, _, alone⟩
  | stopped failure after placed alike outcome =>
    have clash := (outcome none).symm.trans success
    cases clash
  | cut span after inside unfinished alike outcome => exact absurd complete unfinished

/-- What a definition does: it is read, and its macro is added to the current scope. -/
def defined (fragment : Fragment) (span : Span) (source : Text) (context : Context State) :
    EStateM.Result Failure (Context State) Text :=
  match Macro.ofDefinition ⟨.parameter 1 Primitive.define.name, source⟩ with
  | .error failure => .error failure context
  | .ok definition =>
    match context.scopes.insertCurrent? definition with
    | none => .error ⟨.duplicateMacro definition.name definition.arity .current, fragment, span⟩
        context
    | some scopes => .ok [] { context with scopes }

/-- An invocation of the primitive that defines does what a definition does. -/
theorem resolve_define (services : Services State) (fragment : Fragment) (span : Span)
    (source : Text) (context : Context State) :
    Matches (defined fragment span source context)
      (resolve services (ofText services) fragment ⟨Primitive.define.name, [source], span⟩
        context) := resolve_install services .current fragment span source context

/-- Where a text succeeds that has an invocation behind a complete front, the invocation has been
resolved in some context, and since then no scope has lost anything. -/
theorem resolved_of_run {front spelling middle passed written name output : Text}
    {parameters : List Text} (complete : Complete front)
    (spelled : SignatureForm written parameters spelling)
    (canonical : Name.canonical? written = some name)
    (split : passed = front ++ (introducer :: spelling ++ middle))
    (went : run services ⟨origin, passed⟩ begun = .ok output reached) :
    ∃ before value inside, resolve services (ofText services) ⟨origin, passed⟩
        ⟨name, parameters, ⟨front.size, 1 + spelling.size⟩⟩ before = .ok value inside ∧
      ScopeStack.Grows inside.scopes.scopes reached.scopes.scopes := by
  let whole : Fragment := ⟨origin, passed⟩
  let behind : Cursor := ⟨front.size + 1 + spelling.size, middle⟩
  have succeeds : run services ⟨origin, front ++ (introducer :: spelling ++ middle)⟩ begun =
      .ok output reached := split ▸ went
  obtain ⟨shown, before, ran⟩ := run_front_of_ok complete succeeds
  have passes := run_of_invocation ran spelled canonical split
  rw [went] at passes
  obtain ⟨last, alike, success⟩ := passes.symm.eq_ok
  -- The invocation is resolved and the run goes on behind it: neither of them fails.
  obtain ⟨value, inside, resolved, further⟩ := bind_eq_ok.mp success
  obtain ⟨others, final, went_on, finished⟩ := bind_eq_ok.mp further
  cases finished
  have uniform : Uniform services (fun _ : Unit => ofText services) (fun _ => True) fun _ =>
      runFrom services whole behind := .runFrom (fun _ => trivial) behind
  have extended := uniform.extends (keeps_ofText services) inside
  rw [went_on] at extended
  have growth : ScopeStack.Grows inside.scopes.scopes last.scopes.scopes := extended.scopes
  rw [alike.scopes] at growth
  exact ⟨before, value, inside, resolved, growth⟩

/-- Behind a definition that has succeeded, the current scope of the fragment holds its macro, as
far as the run over the fragment succeeds. -/
theorem held_behind_define {front spelling middle passed written source output : Text}
    (complete : Complete front) (spelled : SignatureForm written [source] spelling)
    (named : Name.canonical? written = some Primitive.define.name)
    (split : passed = front ++ (introducer :: spelling ++ middle))
    (went : run services ⟨origin, passed⟩ begun = .ok output reached) :
    ∃ definition, Macro.ofDefinition ⟨.parameter 1 Primitive.define.name, source⟩ =
        .ok definition ∧ reached.HoldsHere definition := by
  obtain ⟨before, value, inside, resolved, growth⟩ :=
    resolved_of_run complete spelled named split went
  let define : WrittenDefinition := ⟨.current, source, written, spelling, spelled, named⟩
  have does := resolve_install services .current ⟨origin, passed⟩ ⟨front.size, 1 + spelling.size⟩
    source before
  have success : Matches _ (.ok value inside) := resolved ▸ does
  obtain ⟨made, alike, installed⟩ := success.symm.eq_ok
  have installs : install define.region ⟨origin, passed⟩ ⟨front.size, 1 + spelling.size⟩
      define.source before = .ok value made := installed
  obtain ⟨scopes, ⟨definition, read, inserted⟩, -, rfl⟩ := install_eq_ok.mp installs
  have holds := Context.holdsHere_of_insertCurrent? inserted
  rw [← alike.scopes] at growth
  exact ⟨definition, read, holds.of_grows growth⟩

/-- An invocation that is resolved where the current scope holds its macro calls that macro. -/
theorem matches_resolve_of_held (services : Services State) {definition : Macro}
    (holds : reached.HoldsHere definition)
    (user : Primitive.ofName? definition.name = none) {parameters : List Text}
    (count : parameters.length = definition.arity) (fragment : Fragment) (span : Span) :
    Matches (callMacro (ofText services) definition parameters reached)
      (resolve services (ofText services) fragment ⟨definition.name, parameters, span⟩
        reached) := by
  have key : definition.key = ⟨definition.name, parameters.length⟩ := by
    rw [count]
    rfl
  have visible : reached.scopes.visible? ⟨definition.name, parameters.length⟩ =
      some definition := by
    unfold ScopeStack.visible?
    rw [← key, holds.find?]
    rfl
  obtain ⟨noted, alike, called⟩ :=
    resolve_of_visible services (ofText services) fragment span parameters user visible
  rw [called]
  exact Uniform.matches (.callMacro definition parameters) alike

/-- A definition that is made where the current scope holds its identity is refused. -/
theorem matches_resolve_define_of_held (services : Services State) {definition other : Macro}
    (holds : reached.HoldsHere definition) {source : Text}
    (read : Macro.ofDefinition ⟨.parameter 1 Primitive.define.name, source⟩ = .ok other)
    (same : other.key = definition.key) (fragment : Fragment) (span : Span) :
    Matches
      (.error ⟨.duplicateMacro definition.name definition.arity .current, fragment, span⟩ reached)
      (resolve services (ofText services) fragment ⟨Primitive.define.name, [source], span⟩
        reached) := by
  have does := resolve_define services fragment span source reached
  have name : other.name = definition.name := congrArg MacroKey.name same
  have arity : other.arity = definition.arity := congrArg MacroKey.arity same
  unfold defined at does
  rw [read] at does
  dsimp only at does
  rw [holds.refuses same, name, arity] at does
  exact does

/-- A definition stays in force to the end of its fragment. Take a fragment, in any context, with a
definition behind a complete front, and let the run succeed up to some place behind the definition.
There the current scope holds the macro that the definition read, whatever stands in between. So an
invocation at that place with the name and the arity of the macro calls it, with its own formal
parameters and its own body, if the name does not call a primitive. And a definition at that place
of the same name and arity fails as a duplicate, and leaves the macro where it is. -/
theorem define_persists (services : Services State) (origin : Origin) (begun : Context State)
    {front spelling middle passed written source output : Text} (complete : Complete front)
    (spelled : SignatureForm written [source] spelling)
    (named : Name.canonical? written = some Primitive.define.name)
    (split : passed = front ++ (introducer :: spelling ++ middle))
    (went : run services ⟨origin, passed⟩ begun = .ok output reached) :
    ∃ definition,
      Macro.ofDefinition ⟨.parameter 1 Primitive.define.name, source⟩ = .ok definition ∧
      reached.scopes.find? definition.key = some (reached.scopes.depth - 1, definition) ∧
      (Primitive.ofName? definition.name = none → ∀ (later call back : Text)
        (parameters : List Text), SignatureForm later parameters call →
        Name.canonical? later = some definition.name → parameters.length = definition.arity →
        let whole : Fragment := ⟨origin, passed ++ (introducer :: call ++ back)⟩
        Matches
          (continued services whole output ⟨passed.size + 1 + call.size, back⟩
            (callMacro (ofText services) definition parameters) reached)
          (run services whole begun)) ∧
      ∀ (later again back repeated : Text) (other : Macro), SignatureForm later [repeated] again →
        Name.canonical? later = some Primitive.define.name →
        Macro.ofDefinition ⟨.parameter 1 Primitive.define.name, repeated⟩ = .ok other →
        other.key = definition.key →
        let whole : Fragment := ⟨origin, passed ++ (introducer :: again ++ back)⟩
        ∃ final, run services whole begun =
            .error ⟨.duplicateMacro definition.name definition.arity .current, whole,
              ⟨passed.size, 1 + again.size⟩⟩ final ∧
          final.scopes.find? definition.key =
            some (final.scopes.depth - 1, definition) := by
  obtain ⟨definition, read, holds⟩ := held_behind_define complete spelled named split went
  refine ⟨definition, read, holds.find?, ?_, ?_⟩
  · intro user later call back parameters spelledCall canonical count whole
    have calls := matches_resolve_of_held services holds user count whole
      ⟨passed.size, 1 + call.size⟩
    exact (calls.continued whole output ⟨passed.size + 1 + call.size, back⟩).trans
      (run_of_invocation went spelledCall canonical rfl)
  · intro later again back repeated other spelledAgain canonical readAgain same whole
    let behind : Cursor := ⟨passed.size + 1 + again.size, back⟩
    let failure : Failure := ⟨.duplicateMacro definition.name definition.arity .current, whole,
      ⟨passed.size, 1 + again.size⟩⟩
    let refusal : Expansion State Text := throw failure
    have refused : Matches (refusal reached) _ := matches_resolve_define_of_held services holds
      readAgain same whole ⟨passed.size, 1 + again.size⟩
    have stops : continued services whole output behind refusal reached =
        .error failure reached := bind_of_error _ rfl
    have ended : Matches (continued services whole output behind refusal reached)
        (run services whole begun) :=
      (refused.continued whole output behind).trans
        (run_of_invocation went spelledAgain canonical rfl)
    rw [stops] at ended
    obtain ⟨final, alike, failed⟩ := ended.eq_error
    refine ⟨final, failed, ?_⟩
    rw [alike.scopes]
    exact holds.find?

/-- Behind a definition, a macro is called that defines the same identity in the scope of its body
and in the global scope. The fragment still finds its own macro, and refuses to define it again. -/
theorem define_persists_intruder :
    let services : Services Unit := ⟨[], .silent, .offline⟩
    let definition : Macro := ⟨"a".toList, [], "1".toList⟩
    let intruder : Macro := ⟨"h".toList, [], ("\\|define(\\#\\|a|\\=\\!2!\\#\\)|\\" ++
      "\\|global define(\\#\\|a|\\=\\!3!\\#\\)|\\\\|a|\\").toList⟩
    let begun : Context Unit := ⟨⟨[⟨[]⟩, ⟨[intruder]⟩]⟩, .empty, .ofLimit 500, (), #[]⟩
    let passed : Text := "x\\|define(\\#\\|a|\\=\\!1!\\#\\)|\\\\|h|\\".toList
    let whole : Fragment := ⟨.body [], passed ++ "\\;define(\\#\\| a|\\=\\!4!\\#\\);\\".toList⟩
    ∃ reached, run services ⟨.body [], passed⟩ begun = .ok "x2".toList reached ∧
      reached.scopes.find? definition.key = some (reached.scopes.depth - 1, definition) ∧
      ∃ final, run services whole begun =
        .error ⟨.duplicateMacro definition.name 0 .current, whole, ⟨33, 28⟩⟩ final := by
  intro services definition intruder begun passed whole
  have valued : valueOf? (run services ⟨.body [], passed⟩ begun) = some "x2".toList := by
    decide +kernel
  obtain ⟨reached, went⟩ := eq_ok_of_valueOf? valued
  have complete : Complete ['x'] := ⟨[], ['x'], .literal (by decide)⟩
  have gap : Gap [] := by decide
  -- A definition whose parameter is delimited by a number sign.
  have spelled (delimiter : Char) (source : Text) (allowed : delimiter ≠ '(')
      (outside : delimiter ∉ "define".toList) (absent : '#' ∉ source) :
      SignatureForm "define".toList [source] ([delimiter] ++ "define".toList ++ ['('] ++
        ([] ++ ([introducer, '#'] ++ source ++ ['#', introducer]) ++ [] ++ [')']) ++ [] ++
          [delimiter, introducer]) :=
    .list delimiter allowed outside (by decide) (.last gap (.delimited '#' absent) gap) gap
      List.not_mem_nil
  have first := spelled '|' "\\|a|\\=\\!1!\\".toList (by decide) (by decide) (by decide)
  have again := spelled ';' "\\| a|\\=\\!4!\\".toList (by decide) (by decide) (by decide)
  have named : Name.canonical? "define".toList = some Primitive.define.name := by decide
  have split : passed = ['x'] ++
      (introducer :: ("|define(\\#\\|a|\\=\\!1!\\#\\)|\\".toList) ++ "\\|h|\\".toList) := rfl
  obtain ⟨found, read, held, -, refuses⟩ := define_persists services (.body []) begun complete
    first named split went
  have same : found = definition := by
    have known : Macro.ofDefinition ⟨.parameter 1 Primitive.define.name,
        "\\|a|\\=\\!1!\\".toList⟩ = .ok definition := by decide +kernel
    exact Except.ok.inj (read.symm.trans known)
  subst same
  obtain ⟨final, failed, -⟩ := refuses "define".toList _ [] _ ⟨"a".toList, [], "4".toList⟩ again
    named (by decide +kernel) (by decide)
  exact ⟨reached, went, held, final, failed⟩

end Expansion
end TextMacros
