import Mathlib.Data.List.Nodup
import TextMacros.Proofs.Definition
import TextMacros.Proofs.Expansion.Concatenation
import TextMacros.Proofs.Expansion.Substitution

/-!
# Formal parameters

A call binds its values under the formal parameters as the definition spells them, and a reference
in the body is looked up by the canonical spelling of what it says. The two meet when the formal
parameter is spelled canonically. Its reference then finds the value, wherever in the body the run
comes to it: the scope of the body holds the binding before anything is expanded in it, and no
definition takes an identity that is held (`resolve_formal`).

Any other spelling of a formal parameter is bound as well and is never found. A reference to it
finds what the scopes outside hold under the canonical spelling, or nothing
(`resolve_formal_spaced`).
-/

namespace TextMacros

open Token

namespace Name

/-- A formal parameter that is not spelled canonically leaves its canonical spelling to the others,
and these have other canonical spellings. -/
theorem not_mem_of_spaced {formals : List Text} (distinct : (formals.map canonical?).Nodup)
    {formal name : Text} (member : formal ∈ formals) (canonical : canonical? formal = some name)
    (spaced : formal ≠ name) : name ∉ formals := by
  intro other
  have same : canonical? formal = canonical? name := by
    rw [canonical, canonical?_eq_self canonical]
  exact spaced (List.inj_on_of_nodup_map distinct member other same)

end Name

namespace Expansion

variable {State : Type} {services : Services State}

/-- A call that has a parameter with a value is made where a level is left. -/
theorem Evaluated.admitted {called parameter : Text} {index : Nat} {context later : Context State}
    {parameters values : List Text}
    (evaluated : Evaluated services called index context (parameter :: parameters) values later) :
    context.depth.remaining ≠ 0 := by
  intro spent
  cases evaluated with
  | more first rest =>
    rw [ofText_of_refused (Depth.enter?_eq_none.mpr spent)] at first
    cases first

/-- A call of a visible macro with parameters runs the body behind the parameters, in a scope that
binds their values. -/
theorem matches_resolve_of_evaluated {definition : Macro} {parameters values : List Text}
    {context later : Context State} (called : Primitive.ofName? definition.name = none)
    (visible : context.scopes.visible? ⟨definition.name, parameters.length⟩ = some definition)
    (evaluated : Evaluated services definition.name 0 context parameters values later)
    (some : parameters ≠ []) (caller : Fragment) (span : Span) :
    Matches
      (within (List.zipWith Macro.constant definition.parameters values) (.body definition.name)
        (run services ⟨.body definition.name, definition.body⟩) later)
      (resolve services (ofText services) caller ⟨definition.name, parameters, span⟩ context) := by
  obtain ⟨parameter, others, rfl⟩ := List.exists_cons_of_ne_nil some
  obtain ⟨noted, alike, resolved⟩ := resolve_of_visible services (ofText services) caller span
    (parameter :: others) called visible
  -- Some parameter was expanded and found a level left, so there is one for the body.
  have admitted : later.depth.remaining ≠ 0 := by
    rw [evaluated.depth_eq]
    exact evaluated.admitted
  have expanded := matches_callMacro services evaluated alike
  rw [ofText_of_admitted admitted, ← resolved] at expanded
  exact expanded

/-- A run that goes on behind an invocation, with the expansion of the invocation given and with
what it has put out before. -/
def continued (services : Services State) (fragment : Fragment) (output : Text) (behind : Cursor)
    (expansion : Expansion State Text) : Expansion State Text :=
  expansion >>= fun found => runFrom services fragment behind >>= fun others =>
    pure (output ++ (found ++ others))

/-- From alike contexts the rest of a run goes on alike. -/
theorem matches_rest (services : Services State) (fragment : Fragment) (behind : Cursor)
    (output : Text) {first second : Context State} (alike : first.Alike second) :
    Matches ((runFrom services fragment behind >>= fun others => pure (output ++ others)) first)
      ((runFrom services fragment behind >>= fun others => pure (output ++ others)) second) := by
  have others : Uniform services (fun _ : Bool => ofText services) Shared fun _ =>
      runFrom services fragment behind >>= fun others => pure (output ++ others) :=
    .bind (.runFrom shared behind) fun others => .pure _
  exact others.matches alike

/-- Matching expansions of an invocation are gone on with alike. -/
theorem Matches.continued {one other : Expansion State Text} {context another : Context State}
    (same : Matches (one context) (other another)) (fragment : Fragment) (output : Text)
    (behind : Cursor) :
    Matches (Expansion.continued services fragment output behind one context)
      (Expansion.continued services fragment output behind other another) :=
  same.bind fun found _ _ alike => by
    simp only [← List.append_assoc]
    exact matches_rest services fragment behind (output ++ found) alike

/-- From a place in front of an invocation, a run resolves the invocation and goes on behind it. -/
theorem matches_runFrom_of_invocation (services : Services State) (fragment : Fragment)
    {name written spelling : Text} {parameters : List Text}
    (spelled : SignatureForm written parameters spelling)
    (canonical : Name.canonical? written = some name) (offset : Nat) (rest : Text)
    (context : Context State) :
    Matches
      (continued services fragment [] ⟨offset + 1 + spelling.size, rest⟩
        (resolve services (ofText services) fragment
          ⟨name, parameters, ⟨offset, 1 + spelling.size⟩⟩) context)
      (runFrom services fragment ⟨offset, introducer :: spelling ++ rest⟩ context) := by
  obtain ⟨noted, alike, step⟩ :=
    runFrom_of_invocation services fragment spelled canonical offset rest context
  have admits : @AdmitsSegment Bool fragment Shared
      (.invocation ⟨name, parameters, ⟨offset, 1 + spelling.size⟩⟩) :=
    admitsSegment_of_allowed shared
  have uniform : Uniform services (fun _ : Bool => ofText services) Shared fun _ =>
      resolve services (ofText services) fragment
        ⟨name, parameters, ⟨offset, 1 + spelling.size⟩⟩ := .resolve name parameters admits
  rw [step]
  exact (uniform.matches alike).continued fragment [] ⟨offset + 1 + spelling.size, rest⟩

/-- The run over a text comes to an invocation in it when the text in front succeeds: the invocation
is resolved in the context that the text in front leaves, and the run goes on behind it. -/
theorem run_of_invocation {origin : Origin} {front spelling back written name output : Text}
    {parameters : List Text} {begun reached : Context State}
    (ran : run services ⟨origin, front⟩ begun = .ok output reached)
    (spelled : SignatureForm written parameters spelling)
    (canonical : Name.canonical? written = some name) {body : Text}
    (split : body = front ++ (introducer :: spelling ++ back)) :
    Matches
      (continued services ⟨origin, body⟩ output ⟨front.size + 1 + spelling.size, back⟩
        (resolve services (ofText services) ⟨origin, body⟩
          ⟨name, parameters, ⟨front.size, 1 + spelling.size⟩⟩) reached)
      (run services ⟨origin, body⟩ begun) := by
  subst split
  let whole : Fragment := ⟨origin, front ++ (introducer :: spelling ++ back)⟩
  -- The text in front leaves the run at the introducer, in a context that differs from the one
  -- reached without the rest of the text in its journal at most.
  obtain ⟨middle, alike, goes⟩ := run_append_of_ok ran (introducer :: spelling ++ back)
  have host : (backPart origin front (introducer :: spelling ++ back)).host none = whole :=
    backPart_host_none origin front _
  have place : (backPart origin front (introducer :: spelling ++ back)).place []
      (introducer :: spelling ++ back) none =
        ⟨front.size, introducer :: spelling ++ back⟩ := by
    simp [backPart, Part.place]
  rw [host, place] at goes
  have resolves :=
    matches_runFrom_of_invocation services whole spelled canonical front.size back reached
  have behind : continued services whole output ⟨front.size + 1 + spelling.size, back⟩
      (resolve services (ofText services) whole
        ⟨name, parameters, ⟨front.size, 1 + spelling.size⟩⟩) =
        continued services whole [] ⟨front.size + 1 + spelling.size, back⟩
          (resolve services (ofText services) whole
            ⟨name, parameters, ⟨front.size, 1 + spelling.size⟩⟩) >>= fun others =>
              pure (output ++ others) := by
    simp only [continued, bind_assoc, pure_bind, List.nil_append]
  rw [goes, behind]
  have further : Matches _ ((runFrom services whole ⟨front.size, introducer :: spelling ++ back⟩ >>=
      fun others => pure (output ++ others)) reached) :=
    resolves.bind fun others _ _ close => .ok (output ++ others) close
  exact further.trans (matches_rest services whole _ output alike)

/-- The binding of a formal parameter is found under the name of the formal parameter wherever in
the body the run has come to, in the scope of the body. -/
theorem find?_of_formal {formals values : List Text} (distinct : formals.Nodup)
    (count : values.length = formals.length) {index : Nat} {formal value : Text}
    (named : formals[index]? = some formal) (valued : values[index]? = some value)
    {origin : Origin} {text output : Text} {outside reached : Context State}
    (ran : run services ⟨origin, text⟩
      (outside.enter (List.zipWith Macro.constant formals values) origin) = .ok output reached) :
    reached.scopes.find? ⟨formal, 0⟩ =
      some (outside.scopes.depth, .constant formal value) := by
  let begun := outside.enter (List.zipWith Macro.constant formals values) origin
  have opened : begun.scopes.scopes = _ :: outside.scopes.scopes := congrArg ScopeStack.scopes
    (Context.scopes_enter (Context.nodup_keys_of_constants distinct values) origin outside)
  have growth : ScopeStack.Grows begun.scopes.scopes reached.scopes.scopes := by
    have extended := keeps_run services ⟨origin, text⟩ begun
    rw [ran] at extended
    exact extended.scopes
  have held : Scope.find? ⟨List.zipWith Macro.constant formals values⟩ ⟨formal, 0⟩ =
      some (.constant formal value) := by
    rw [Context.find?_constants distinct count named, List.getD_eq_getElem?_getD, valued]
    rfl
  rw [opened] at growth
  exact ScopeStack.find?_of_grows held growth

/-- A name that is not spelled by a formal parameter is found in the body as it is outside. -/
theorem find?_enter_of_not_mem {formals values : List Text} (distinct : formals.Nodup)
    {name : Text} (other : name ∉ formals) (origin : Origin) (outside : Context State) :
    (outside.enter (List.zipWith Macro.constant formals values) origin).scopes.find? ⟨name, 0⟩ =
      outside.scopes.find? ⟨name, 0⟩ := by
  have free : Scope.find? ⟨List.zipWith Macro.constant formals values⟩ ⟨name, 0⟩ = none := by
    rw [Scope.find?_eq_none]
    intro definition member same
    have key := List.mem_map_of_mem (f := Macro.key) member
    rw [Context.keys_of_constants, same] at key
    obtain ⟨formal, inside, equal⟩ := List.mem_map.mp key
    cases equal
    exact other (List.mem_of_mem_take inside)
  rw [Context.scopes_enter (Context.nodup_keys_of_constants distinct values)]
  have hidden : ∀ scope ∈ [Scope.mk (List.zipWith Macro.constant formals values)],
      scope.find? ⟨name, 0⟩ = none := by simpa using free
  exact ScopeStack.find?_append_of_free hidden outside.scopes.scopes

/-- A formal parameter that is spelled canonically is referred to in the body by its spelling,
whichever delimiter the reference uses. A call expands the body behind its parameters, and when the
run over the body comes to the reference, the macro that is found is the constant of that formal
parameter, in the scope of the body; the value is expanded there and the run goes on behind it. The
same macro is found in texts that are nested in the body, unless one of their own scopes holds the
name.

A formal parameter in another spelling is referred to in vain: its reference is resolved under the
canonical spelling, under which the call binds nothing. -/
theorem resolve_formal (services : Services State) {source : Fragment} {definition : Macro}
    (accepted : Macro.ofDefinition source = .ok definition)
    (distinct : (definition.parameters.map Name.canonical?).Nodup)
    (called : Primitive.ofName? definition.name = none) {context later : Context State}
    {parameters values : List Text}
    (visible : context.scopes.visible? ⟨definition.name, parameters.length⟩ = some definition)
    (evaluated : Evaluated services definition.name 0 context parameters values later)
    (caller : Fragment) (span : Span) {index : Nat} {formal name value : Text}
    (named : definition.parameters[index]? = some formal) (valued : values[index]? = some value)
    (canonical : Name.canonical? formal = some name) (user : Primitive.ofName? name = none)
    {front spelling back : Text} (spelled : SignatureForm formal [] spelling)
    (split : definition.body = front ++ (introducer :: spelling ++ back)) :
    let inside : Fragment := ⟨.body definition.name, definition.body⟩
    let bindings := List.zipWith Macro.constant definition.parameters values
    let begun := later.enter bindings inside.origin
    let reference : Invocation := ⟨name, [], ⟨front.size, 1 + spelling.size⟩⟩
    let behind : Cursor := ⟨front.size + 1 + spelling.size, back⟩
    Matches (within bindings inside.origin (run services inside) later)
      (resolve services (ofText services) caller ⟨definition.name, parameters, span⟩ context) ∧
    (∀ (output : Text) (reached : Context State),
      run services ⟨inside.origin, front⟩ begun = .ok output reached →
      Matches
        (continued services inside output behind
          (resolve services (ofText services) inside reference) reached)
        (run services inside begun) ∧
      (formal = name →
        (∀ inner : List Scope, (∀ scope ∈ inner, scope.find? ⟨name, 0⟩ = none) →
          ScopeStack.find? ⟨inner ++ reached.scopes.scopes⟩ ⟨name, 0⟩ =
            some (later.scopes.depth, .constant formal value)) ∧
        Matches
          (continued services inside output behind (ofText services value [] (.body formal))
            reached)
          (run services inside begun))) ∧
    (formal ≠ name → begun.scopes.find? ⟨name, 0⟩ = later.scopes.find? ⟨name, 0⟩) := by
  intro inside bindings begun reference behind
  obtain ⟨-, -, -, repeats⟩ := Macro.ofDefinition_eq_ok.mp accepted
  have key : definition.key = ⟨definition.name, parameters.length⟩ :=
    ScopeStack.key_of_visible? visible
  have arity : parameters.length = definition.parameters.length :=
    (congrArg MacroKey.arity key).symm
  have count : values.length = definition.parameters.length := evaluated.length_eq.trans arity
  have member : formal ∈ definition.parameters := List.mem_of_getElem? named
  refine ⟨?_, fun output reached ran => ?_, fun spaced => ?_⟩
  · have some : parameters ≠ [] := by
      refine List.ne_nil_of_length_pos ?_
      rw [arity]
      exact List.length_pos_of_mem member
    exact matches_resolve_of_evaluated called visible evaluated some caller span
  · have goes := run_of_invocation ran spelled canonical split
    refine ⟨goes, ?_⟩
    rintro rfl
    have found := find?_of_formal repeats count named valued ran
    have bound : reached.scopes.visible? ⟨formal, 0⟩ = some (.constant formal value) := by
      unfold ScopeStack.visible?
      rw [found]
      rfl
    have resolved := resolve_of_binding services inside reference.span user bound
    refine ⟨fun inner free => ?_, (resolved.continued inside output behind).trans goes⟩
    rw [ScopeStack.find?_append_of_free free]
    exact found
  · have other := Name.not_mem_of_spaced distinct member canonical spaced
    exact find?_enter_of_not_mem repeats other inside.origin later

/-- A macro that puts its parameter between brackets. -/
theorem resolve_formal_bracketed :
    let services : Services Unit := ⟨[], .silent, .offline⟩
    let source : Fragment := ⟨.labelled [], "\\|m(\\$x$\\)|\\=\\#<\\|x|\\>#\\".toList⟩
    let bracketed : Macro := ⟨['m'], [['x']], "<\\|x|\\>".toList⟩
    let inside : Fragment := ⟨.body ['m'], bracketed.body⟩
    let context : Context Unit := ⟨⟨[⟨[bracketed]⟩]⟩, .empty, .ofLimit 2, (), #[]⟩
    Macro.ofDefinition source = .ok bracketed ∧
    ∃ later, Evaluated services ['m'] 0 context [['a']] [['a']] later ∧
      Matches
        (within [.constant ['x'] ['a']] inside.origin
          (continued services inside ['<'] ⟨6, ['>']⟩ (ofText services ['a'] [] (.body ['x'])))
          later)
        (resolve services (ofText services) ⟨.labelled [], []⟩ ⟨['m'], [['a']], ⟨0, 0⟩⟩
          context) := by
  intro services source bracketed inside context
  have accepted : Macro.ofDefinition source = .ok bracketed := by decide +kernel
  have plain : introducer ∉ ['a'] := by decide
  have admitted : context.depth.remaining ≠ 0 := by decide
  have expanded : ∃ later, context.Alike later ∧
      ofText services ['a'] [] (.parameter 1 ['m']) context = .ok ['a'] later :=
    ofText_of_plain plain admitted
  obtain ⟨later, -, success⟩ := expanded
  have evaluated : Evaluated services ['m'] 0 context [['a']] [['a']] later :=
    .more success (.none 1 later)
  have spelled : SignatureForm ['x'] [] ['|', 'x', '|', '\\'] :=
    .plain '|' (by decide) (by decide) (by decide)
  have named : bracketed.parameters[0]? = some ['x'] := rfl
  have valued : [['a']][0]? = some ['a'] := rfl
  have canonical : Name.canonical? ['x'] = some ['x'] := by decide
  have split : bracketed.body = ['<'] ++ (introducer :: ['|', 'x', '|', '\\'] ++ ['>']) := rfl
  obtain ⟨calls, reaches, -⟩ := resolve_formal services accepted (by decide) (by decide) rfl
    evaluated ⟨.labelled [], []⟩ ⟨0, 0⟩ named valued canonical (by decide) spelled split
  let begun := later.enter [.constant ['x'] ['a']] inside.origin
  have front : run services ⟨inside.origin, ['<']⟩ begun = .ok ['<'] begun := by
    rw [run_eq_runFrom]
    unfold Cursor.start
    rw [runFrom_of_plain (by decide)]
    rfl
  obtain ⟨-, bound⟩ := reaches ['<'] begun front
  obtain ⟨-, goes⟩ := bound rfl
  have body : Matches (within _ inside.origin _ later)
      (within [.constant ['x'] ['a']] inside.origin (run services inside) later) := goes.within
  exact ⟨accepted, later, evaluated, body.trans calls⟩

/-- A formal parameter with a blank in front, which its own reference does not find: neither where
nothing has the canonical spelling as its name, nor where a macro outside has it. -/
theorem resolve_formal_spaced :
    let written : Text := "\\|m(\\$ x$\\)|\\=\\#\\| x|\\#\\".toList
    let spaced : Macro := ⟨['m'], [[' ', 'x']], "\\| x|\\".toList⟩
    let call : Text := "\\|define(\\!".toList ++ written ++ "!\\)|\\\\|m(\\!a!\\)|\\".toList
    let outer : Text := "\\|define(\\!\\|x|\\=\\#o#\\!\\)|\\".toList
    let expanded (document : Text) :=
      (expandDocument .default .silent .offline document () #[]).result
    Macro.ofDefinition ⟨.labelled [], written⟩ = .ok spaced ∧
    expanded call = .error ⟨.macroNotFound ['x'] 0, ⟨.body ['m'], spaced.body⟩, ⟨0, 6⟩⟩ ∧
    expanded (outer ++ call) = .ok ['o'] := by
  decide +kernel

end Expansion
end TextMacros
