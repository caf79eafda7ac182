import TextMacros.Proofs.Expansion.Interchange
import TextMacros.Proofs.Expansion.Parameter
import TextMacros.Proofs.Expansion.Run

/-!
# Substitution

A body that is made of plain literals and of references to the formal parameters is a template. Its
expansion puts the values in the place of the references, as long as the values are plain
themselves: each reference finds the constant that the call has bound, whatever the scopes outside
hold under that name, and expands it to itself. So a call whose parameters have plain values puts
out the filled template, and apart from the journal leaves what the parameters leave. A call with a
parameter that fails, fails there. The same holds of a loop over items, with its pattern as the
template (`resolve_substitutes`).
-/

namespace TextMacros

open Token

/-! ## Templates -/

/-- A piece of a template. -/
inductive Piece where
  /-- A text that stands for itself. -/
  | literal (text : Text)
  /-- A reference to a formal parameter, by its position. -/
  | reference (index : Nat)
deriving DecidableEq

/-- A piece with values in the place of the formal parameters. -/
def Piece.filled (values : List Text) : Piece → Text
  | .literal text => text
  | .reference index => values.getD index []

/-- A template with values in the place of the formal parameters. -/
def fill (values : List Text) (pieces : List Piece) : Text := pieces.flatMap (Piece.filled values)

/-- The spellings of a template: plain literals, and invocations of the formal parameters without
parameters. A reference may use any delimiter and any spelling of the name. -/
inductive TemplateForm (formals : List Text) : List Piece → Text → Prop
  /-- Nothing is the spelling of no pieces. -/
  | nothing : TemplateForm formals [] []
  /-- A plain literal is spelled as it is. -/
  | literal {text rest : Text} {pieces : List Piece} (plain : introducer ∉ text)
    (behind : TemplateForm formals pieces rest) :
    TemplateForm formals (.literal text :: pieces) (text ++ rest)
  /-- A reference is spelled as an invocation. -/
  | reference {index : Nat} {formal written spelling rest : Text} {pieces : List Piece}
    (named : formals[index]? = some formal) (spelled : SignatureForm written [] spelling)
    (canonical : Name.canonical? written = some formal)
    (behind : TemplateForm formals pieces rest) :
    TemplateForm formals (.reference index :: pieces) (introducer :: spelling ++ rest)

/-- The body of a macro is a template in its formal parameters. These differ from each other, and
none of them calls a primitive. -/
structure Macro.IsTemplate (definition : Macro) (pieces : List Piece) : Prop where
  /-- No formal parameter is repeated. -/
  distinct : definition.parameters.Nodup
  /-- The formal parameters are names of the user. -/
  user : ∀ formal ∈ definition.parameters, Primitive.ofName? formal = none
  /-- The body spells the pieces. -/
  body : TemplateForm definition.parameters pieces definition.body

/-! ## Bindings -/

variable {State : Type}

namespace Context

/-- Bindings that differ in their identities are all inserted, and show nowhere but in the scope of
the fragment that they are bound in. -/
theorem enter_of_distinct {bindings : List Macro} (distinct : (bindings.map Macro.key).Nodup)
    (origin : Origin) (context : Context State) :
    context.enter bindings origin =
      { context.enter [] origin with scopes := ⟨⟨bindings⟩ :: context.scopes.scopes⟩ } := by
  have bound : ∀ (held : List Macro) (inside : Context State) (outer : List Scope),
      inside.scopes = ⟨⟨held⟩ :: outer⟩ → ((held ++ bindings).map Macro.key).Nodup →
        bindings.foldl (Context.bind origin) inside =
          { inside with scopes := ⟨⟨held ++ bindings⟩ :: outer⟩ } := by
    clear distinct
    induction bindings with
    | nil =>
      intro held inside outer opened _
      rw [List.append_nil, ← opened]
      rfl
    | cons binding rest hypothesis =>
      intro held inside outer opened distinct
      have free : Scope.find? ⟨held⟩ binding.key = none := by
        rw [Scope.find?_eq_none]
        intro definition member same
        rw [List.map_append, List.nodup_append] at distinct
        exact distinct.2.2 _ (List.mem_map_of_mem member) _
          (List.mem_map_of_mem List.mem_cons_self) same
      have inserted : inside.bind origin binding =
          { inside with scopes := ⟨⟨held ++ [binding]⟩ :: outer⟩ } := by
        unfold Context.bind ScopeStack.insertCurrent? Scope.insert?
        rw [opened]
        dsimp only
        rw [free]
        rfl
      have together : held ++ binding :: rest = held ++ [binding] ++ rest := by simp
      rw [together] at distinct ⊢
      rw [List.foldl_cons, inserted]
      exact hypothesis (held ++ [binding]) _ outer rfl distinct
  exact bound [] (context.enter [] origin) context.scopes.scopes rfl distinct

/-- Bindings that differ in their identities make up the scope of the fragment that they are bound
in. -/
theorem scopes_enter {bindings : List Macro} (distinct : (bindings.map Macro.key).Nodup)
    (origin : Origin) (context : Context State) :
    (context.enter bindings origin).scopes = ⟨⟨bindings⟩ :: context.scopes.scopes⟩ := by
  rw [enter_of_distinct distinct]

/-- Each formal parameter is visible as a constant with its value. -/
def Binds (formals values : List Text) (context : Context State) : Prop :=
  ∀ (index : Nat) (formal : Text), formals[index]? = some formal →
    context.scopes.visible? ⟨formal, 0⟩ = some (.constant formal (values.getD index []))

/-- The journal has no influence on what is visible. -/
theorem Binds.of_alike {formals values : List Text} {context other : Context State}
    (binds : context.Binds formals values) (alike : context.Alike other) :
    other.Binds formals values := by
  intro index formal named
  rw [alike.scopes]
  exact binds index formal named

/-- The identities of the constants that a call binds. -/
theorem keys_of_constants (formals values : List Text) :
    (List.zipWith Macro.constant formals values).map Macro.key =
      (formals.take values.length).map fun formal => ⟨formal, 0⟩ := by
  induction formals generalizing values with
  | nil => simp
  | cons formal formals hypothesis =>
    cases values with
    | nil => rfl
    | cons value values =>
      rw [List.zipWith_cons_cons, List.map_cons, hypothesis values]
      rfl

/-- Constants of different names differ in their identities. -/
theorem nodup_keys_of_constants {formals : List Text} (distinct : formals.Nodup)
    (values : List Text) :
    ((List.zipWith Macro.constant formals values).map Macro.key).Nodup := by
  rw [keys_of_constants]
  have taken : (formals.take values.length).Nodup := distinct.sublist (List.take_sublist _ _)
  exact List.Pairwise.map _ (fun one another apart equal =>
    apart (congrArg MacroKey.name equal)) taken

/-- Each formal parameter is bound by a call as a constant with its value. -/
theorem find?_constants {formals values : List Text} (distinct : formals.Nodup)
    (same : values.length = formals.length) {index : Nat} {formal : Text}
    (named : formals[index]? = some formal) :
    Scope.find? ⟨List.zipWith Macro.constant formals values⟩ ⟨formal, 0⟩ =
      some (.constant formal (values.getD index [])) := by
  obtain ⟨inside, -⟩ := List.getElem?_eq_some_iff.mp named
  have valued : values[index]? = some (values.getD index []) := by
    have within : index < values.length := same ▸ inside
    simp [within]
  have member : Macro.constant formal (values.getD index []) ∈
      List.zipWith Macro.constant formals values := by
    refine List.mem_of_getElem? (i := index) ?_
    rw [List.getElem?_zipWith, named, valued]
  exact Scope.find?_of_mem (nodup_keys_of_constants distinct values) member

/-- The formal parameters of a call are visible in its body with their values, if they differ. -/
theorem binds_enter {formals values : List Text} (distinct : formals.Nodup)
    (same : values.length = formals.length) (origin : Origin) (context : Context State) :
    (context.enter (List.zipWith Macro.constant formals values) origin).Binds formals values := by
  intro index formal named
  rw [scopes_enter (nodup_keys_of_constants distinct values), ScopeStack.visible?_cons,
    find?_constants distinct same named]
  rfl

end Context

namespace Expansion

variable {services : Services State}

/-- A run that shows in the journal alone makes a text that does. -/
theorem ofText_of_run {text output : Text} {bindings : List Macro} {origin : Origin}
    {context inside : Context State} (admitted : context.depth.remaining ≠ 0)
    (alike : (context.enter bindings origin).Alike inside)
    (ran : run services ⟨origin, text⟩ (context.enter bindings origin) = .ok output inside) :
    ∃ final, context.Alike final ∧
      ofText services text bindings origin context = .ok output final := by
  refine ⟨inside.leave, (context.leave_enter bindings origin).trans alike.leave, ?_⟩
  rw [ofText_of_admitted admitted]
  unfold within
  rw [ran]

/-- A plain text is expanded to itself. -/
theorem ofText_of_plain {text : Text} (plain : introducer ∉ text) {bindings : List Macro}
    {origin : Origin} {context : Context State} (admitted : context.depth.remaining ≠ 0) :
    ∃ final, context.Alike final ∧
      ofText services text bindings origin context = .ok text final := by
  refine ofText_of_run admitted (.refl _) ?_
  rw [run_of_plain plain]
  rfl

/-- A visible macro of a scope is called. -/
theorem resolve_of_visible (services : Services State) (expand : Expander State)
    (fragment : Fragment) (span : Span) {name : Text} (parameters : List Text) {definition : Macro}
    {context : Context State} (user : Primitive.ofName? name = none)
    (visible : context.scopes.visible? ⟨name, parameters.length⟩ = some definition) :
    ∃ noted, context.Alike noted ∧
      resolve services expand fragment ⟨name, parameters, span⟩ context =
        callMacro expand definition parameters noted := by
  obtain ⟨value, alike⟩ := Step.take_lookup services context ⟨name, parameters.length⟩
  have looked : resolve services expand fragment ⟨name, parameters, span⟩ = _ :=
    resolve_of_not_primitive services expand user
  have found : (Step.lookup ⟨name, parameters.length⟩).expansion services context =
      .ok (some definition) ((Step.lookup ⟨name, parameters.length⟩).take services context).2 := by
    unfold Step.expansion
    rw [value, visible]
  refine ⟨_, alike, ?_⟩
  rw [looked]
  exact bind_of_ok _ found

/-- A reference to a visible constant expands its value, as the body of the constant. -/
theorem resolve_of_binding (services : Services State) (fragment : Fragment) (span : Span)
    {formal value : Text} {context : Context State} (user : Primitive.ofName? formal = none)
    (visible : context.scopes.visible? ⟨formal, 0⟩ = some (.constant formal value)) :
    Matches (ofText services value [] (.body formal) context)
      (resolve services (ofText services) fragment ⟨formal, [], span⟩ context) := by
  obtain ⟨noted, alike, called⟩ :=
    resolve_of_visible services (ofText services) fragment span [] user visible
  rw [called]
  exact matches_ofText alike

/-- A reference to a constant with a plain value is expanded to the value. -/
theorem resolve_of_constant (services : Services State) (fragment : Fragment) (span : Span)
    {formal value : Text} {context : Context State} (user : Primitive.ofName? formal = none)
    (visible : context.scopes.visible? ⟨formal, 0⟩ = some (.constant formal value))
    (plain : introducer ∉ value) (admitted : context.depth.remaining ≠ 0) :
    ∃ final, context.Alike final ∧
      resolve services (ofText services) fragment ⟨formal, [], span⟩ context =
        .ok value final := by
  have same := resolve_of_binding services fragment span user visible
  have expanded : ∃ later, context.Alike later ∧
      ofText services value [] (.body formal) context = .ok value later :=
    ofText_of_plain plain admitted
  obtain ⟨later, alike, success⟩ := expanded
  rw [success] at same
  obtain ⟨final, alikeFinal, reached⟩ := same.eq_ok
  exact ⟨final, alike.trans alikeFinal, reached⟩

/-- An invocation at the front of what is ahead is resolved, and the run goes on behind it. -/
theorem runFrom_of_invocation (services : Services State) (fragment : Fragment)
    {name written spelling : Text} {parameters : List Text}
    (spelled : SignatureForm written parameters spelling)
    (canonical : Name.canonical? written = some name) (offset : Nat) (rest : Text)
    (context : Context State) :
    ∃ noted, context.Alike noted ∧
      runFrom services fragment ⟨offset, introducer :: spelling ++ rest⟩ context =
        (resolve services (ofText services) fragment
          ⟨name, parameters, ⟨offset, 1 + spelling.size⟩⟩ >>= fun value =>
            runFrom services fragment ⟨offset + 1 + spelling.size, rest⟩ >>= fun others =>
              pure (value ++ others)) noted := by
  refine ⟨context.note (.recognized fragment.origin name parameters.length
    ⟨offset, 1 + spelling.size⟩), ⟨rfl, rfl, rfl, rfl⟩, ?_⟩
  rw [List.cons_append, runFrom_of_signature spelled, canonical]
  exact bind_of_ok _ rfl

/-- Where the formal parameters are bound to plain values, a template is expanded to the filled
template. -/
theorem runFrom_of_template (services : Services State) (fragment : Fragment)
    {formals values : List Text} (user : ∀ formal ∈ formals, Primitive.ofName? formal = none)
    (plain : ∀ value ∈ values, introducer ∉ value) {pieces : List Piece} {text : Text}
    (form : TemplateForm formals pieces text) (offset : Nat) {context : Context State}
    (binds : context.Binds formals values) (admitted : context.depth.remaining ≠ 0) :
    ∃ final, context.Alike final ∧
      runFrom services fragment ⟨offset, text⟩ context = .ok (fill values pieces) final := by
  induction form generalizing offset context with
  | nothing =>
    rw [runFrom_of_plain List.not_mem_nil]
    exact ⟨context, .refl context, rfl⟩
  | @literal text rest pieces plainText behind hypothesis =>
    obtain ⟨final, alike, ran⟩ := hypothesis (offset + text.size) binds admitted
    refine ⟨final, alike, ?_⟩
    rw [runFrom_of_plain_front plainText, bind_of_ok _ ran]
    rfl
  | @reference index formal written spelling rest pieces named spelled canonical _ hypothesis =>
    -- The reference is an invocation of the formal parameter. Resolving it adds to the journal
    -- only, so the rest of the template finds the same bindings.
    have member : formal ∈ formals := List.mem_of_getElem? named
    have plainValue : introducer ∉ values.getD index [] := by
      rw [List.getD_eq_getElem?_getD]
      cases held : values[index]? with
      | none => exact List.not_mem_nil
      | some value => exact plain value (List.mem_of_getElem? held)
    obtain ⟨noted, alike, step⟩ :=
      runFrom_of_invocation services fragment spelled canonical offset rest context
    have left : noted.depth.remaining ≠ 0 := alike.depth ▸ admitted
    obtain ⟨resolved, alikeResolved, outcome⟩ := resolve_of_constant services fragment
      ⟨offset, 1 + spelling.size⟩ (user formal member)
      (binds.of_alike alike index formal named) plainValue left
    have unchanged : context.Alike resolved := alike.trans alikeResolved
    have stillLeft : resolved.depth.remaining ≠ 0 := unchanged.depth ▸ admitted
    obtain ⟨final, alikeFinal, ran⟩ :=
      hypothesis (offset + 1 + spelling.size) (binds.of_alike unchanged) stillLeft
    refine ⟨final, unchanged.trans alikeFinal, ?_⟩
    rw [step, bind_of_ok _ outcome, bind_of_ok _ ran]
    rfl

/-- With two more levels, the body of a template is expanded to the filled template where its formal
parameters are bound to plain values. -/
theorem quiet_of_template (services : Services State) {definition : Macro}
    {pieces : List Piece} (template : definition.IsTemplate pieces) {values : List Text}
    (same : values.length = definition.parameters.length)
    (plain : ∀ value ∈ values, introducer ∉ value) (origin : Origin) {depth : Depth}
    (levels : 2 ≤ depth.remaining) :
    Quiet depth (ofText services definition.body
      (List.zipWith Macro.constant definition.parameters values) origin) (fill values pieces) := by
  intro context here
  let bindings := List.zipWith Macro.constant definition.parameters values
  have outside : 2 ≤ context.depth.remaining := here ▸ levels
  have inside : (context.enter bindings origin).depth.remaining ≠ 0 := by
    rw [Context.remaining_enter]
    omega
  have binds := Context.binds_enter template.distinct same origin context
  obtain ⟨final, alike, ran⟩ := runFrom_of_template services ⟨origin, definition.body⟩
    template.user plain template.body 0 binds inside
  have admitted : context.depth.remaining ≠ 0 := by omega
  exact ofText_of_run admitted alike ran

/-! ## Calls -/

section

variable (services : Services State) {context later : Context State} {values : List Text}
  {pieces : List Piece}

/-- A call expands the body of the macro behind the parameters, with the formal parameters bound to
the values. -/
theorem matches_callMacro {definition : Macro} {parameters : List Text}
    (evaluated : Evaluated services definition.name 0 context parameters values later)
    {other : Context State} (alike : context.Alike other) :
    Matches
      (ofText services definition.body (List.zipWith Macro.constant definition.parameters values)
        (.body definition.name) later)
      (callMacro (ofText services) definition parameters other) := by
  obtain ⟨bound, alikeBound, collected⟩ := evaluated.collect alike
  unfold callMacro
  rw [bind_of_ok _ collected]
  exact matches_ofText alikeBound

/-- Where the parameters have plain values, a template that is called is filled with them. -/
theorem callMacro_of_evaluated {definition : Macro} (template : definition.IsTemplate pieces)
    {parameters : List Text} (same : parameters.length = definition.parameters.length)
    (levels : 2 ≤ context.depth.remaining)
    (evaluated : Evaluated services definition.name 0 context parameters values later)
    (plain : ∀ value ∈ values, introducer ∉ value) {other : Context State}
    (alike : context.Alike other) :
    ∃ final, later.Alike final ∧
      callMacro (ofText services) definition parameters other = .ok (fill values pieces) final := by
  have count : values.length = definition.parameters.length := evaluated.length_eq.trans same
  have left : 2 ≤ later.depth.remaining := by
    rw [evaluated.depth_eq]
    exact levels
  obtain ⟨behind, alikeBehind, filled⟩ :=
    quiet_of_template services template count plain (.body definition.name) left later rfl
  have same := matches_callMacro services evaluated alike
  rw [filled] at same
  obtain ⟨final, alikeFinal, success⟩ := same.eq_ok
  exact ⟨final, alikeBehind.trans alikeFinal, success⟩

/-- A parameter that fails ends the call of a macro. -/
theorem callMacro_of_failed (definition : Macro) {front back : List Text} {parameter : Text}
    {middle : Context State} {failure : Failure}
    (evaluated : Evaluated services definition.name 0 context front values middle)
    (failed : ofText services parameter [] (.parameter (front.length + 1) definition.name) middle =
      .error failure later) {other : Context State} (alike : context.Alike other) :
    EndsIn services parameter (.parameter (front.length + 1) definition.name) failure middle later
      (callMacro (ofText services) definition (front ++ parameter :: back) other) := by
  have first : 0 + front.length + 1 = front.length + 1 := by rw [Nat.zero_add]
  rw [← first] at failed ⊢
  exact (evaluated.collect_error failed back alike).bind _

/-- The call of a primitive with parameters that it takes is noted and performed. -/
theorem resolve_eq_perform (expand : Expander State) (fragment : Fragment) (span : Span)
    {name : Text} {primitive : Primitive} {parameters : List Text} {call : Call}
    (called : Primitive.ofName? name = some primitive)
    (accepted : Call.ofParameters? primitive parameters = some call) :
    resolve services expand fragment ⟨name, parameters, span⟩ =
      note (.primitiveCalled name primitive) >>= fun _ =>
        perform services expand ⟨fragment, ⟨name, parameters, span⟩, primitive⟩ call := by
  simp only [resolve, called, accepted]

/-- A primitive with parameters that it takes is performed. -/
theorem resolve_of_primitive (expand : Expander State) (fragment : Fragment) (span : Span)
    {name : Text} {primitive : Primitive} {parameters : List Text} {call : Call}
    (called : Primitive.ofName? name = some primitive)
    (accepted : Call.ofParameters? primitive parameters = some call) (context : Context State) :
    ∃ noted, context.Alike noted ∧
      resolve services expand fragment ⟨name, parameters, span⟩ context =
        perform services expand ⟨fragment, ⟨name, parameters, span⟩, primitive⟩ call noted := by
  refine ⟨context.note (.primitiveCalled name primitive), ⟨rfl, rfl, rfl, rfl⟩, ?_⟩
  rw [resolve_eq_perform services expand fragment span called accepted]
  exact bind_of_ok _ rfl

/-- A loop over items is performed when it has an item. -/
theorem resolve_of_forEach (expand : Expander State)
    (fragment : Fragment) (span : Span) {name pattern : Text} {items : List Text}
    (called : Primitive.ofName? name = some .forEach) (some : items ≠ [])
    (context : Context State) :
    ∃ noted, context.Alike noted ∧
      resolve services expand fragment ⟨name, items ++ [pattern], span⟩ context =
        perform services expand ⟨fragment, ⟨name, items ++ [pattern], span⟩, .forEach⟩
          (.forEach items pattern) noted := by
  have call : Call.ofParameters? .forEach (items ++ [pattern]) =
      Option.some (.forEach items pattern) := by
    obtain ⟨first, rest, rfl⟩ := List.exists_cons_of_ne_nil some
    cases rest with
    | nil => rfl
    | cons second rest =>
      have dropped : (second :: rest ++ [pattern]).dropLast = second :: rest :=
        List.dropLast_concat
      have last : (second :: rest ++ [pattern]).getLast (by simp) = pattern :=
        List.getLast_concat
      simp only [List.cons_append] at dropped last
      simp only [List.cons_append, Call.ofParameters?, dropped, last]
  exact resolve_of_primitive services expand fragment span called call context

/-- A pattern that is a template in the name of the item. -/
theorem isTemplate_of_pattern {pattern : Text} (form : TemplateForm [itemName] pieces pattern) :
    (Macro.mk [] [itemName] pattern).IsTemplate pieces where
  distinct := by simp
  user := by
    intro formal member
    rw [List.mem_singleton.mp member]
    decide
  body := form

/-- The pattern of a loop is expanded quietly for every item with a plain value. -/
theorem quiet_of_pattern {pattern : Text} (form : TemplateForm [itemName] pieces pattern)
    (levels : 2 ≤ context.depth.remaining) (plain : ∀ value ∈ values, introducer ∉ value)
    (origin : Origin) :
    ∀ value ∈ values, Quiet context.depth
      (ofText services pattern [.constant itemName value] origin) (fill [value] pieces) := by
  intro value member
  have alone : ∀ held ∈ [value], introducer ∉ held := by
    intro held inside
    rw [List.mem_singleton.mp inside]
    exact plain value member
  have template := isTemplate_of_pattern form
  have count : [value].length = [itemName].length := rfl
  exact quiet_of_template services template count alone origin levels

/-- Where the items have plain values, a loop puts out its pattern filled with each of them. -/
theorem forEach_of_evaluated {pattern : Text} (form : TemplateForm [itemName] pieces pattern)
    (levels : 2 ≤ context.depth.remaining) {items : List Text}
    (evaluated : Evaluated services Primitive.forEach.name 0 context items values later)
    (plain : ∀ value ∈ values, introducer ∉ value) (fragment : Fragment) (invocation : Invocation)
    {other : Context State} (alike : context.Alike other) :
    ∃ final, later.Alike final ∧
      perform services (ofText services) ⟨fragment, invocation, .forEach⟩ (.forEach items pattern)
        other = .ok (values.flatMap fun value => fill [value] pieces) final := by
  have quiet := quiet_of_pattern services form levels plain
    (.parameter (items.length + 1) Primitive.forEach.name)
  obtain ⟨final, alikeFinal, collected⟩ := evaluated.mapM quiet alike
  exact ⟨final, alikeFinal, bind_of_ok _ collected⟩

/-- An item that fails behind items with plain values ends the loop. -/
theorem forEach_of_failed {pattern : Text} (form : TemplateForm [itemName] pieces pattern)
    (levels : 2 ≤ context.depth.remaining) {front back : List Text} {item : Text}
    {middle : Context State} {failure : Failure}
    (evaluated : Evaluated services Primitive.forEach.name 0 context front values middle)
    (plain : ∀ value ∈ values, introducer ∉ value)
    (failed : ofText services item [] (.parameter (front.length + 1) Primitive.forEach.name)
      middle = .error failure later) (fragment : Fragment) (invocation : Invocation)
    {other : Context State} (alike : context.Alike other) :
    EndsIn services item (.parameter (front.length + 1) Primitive.forEach.name) failure middle
      later (perform services (ofText services) ⟨fragment, invocation, .forEach⟩
        (.forEach (front ++ item :: back) pattern) other) := by
  have first : 0 + front.length + 1 = front.length + 1 := by rw [Nat.zero_add]
  have quiet := quiet_of_pattern services form levels plain
    (.parameter ((front ++ item :: back).length + 1) Primitive.forEach.name)
  rw [← first] at failed ⊢
  exact (evaluated.mapM_error quiet failed back alike).bind _

end

/-- The substitution law. A call of a visible macro whose body is a template puts out the template
filled with the values of its parameters, if these are plain, and leaves what the parameters leave;
if a parameter fails, the call ends in it. A loop over items puts out its pattern filled with the
value of each item in order, under the same conditions. -/
theorem resolve_substitutes (services : Services State) (fragment : Fragment) (span : Span)
    (context : Context State) (levels : 2 ≤ context.depth.remaining) :
    (∀ (name : Text) (parameters : List Text) (definition : Macro) (pieces : List Piece),
      Primitive.ofName? name = none →
      context.scopes.visible? ⟨name, parameters.length⟩ = some definition →
      definition.IsTemplate pieces →
      let call := resolve services (ofText services) fragment ⟨name, parameters, span⟩ context
      (∀ values later, Evaluated services name 0 context parameters values later →
        (∀ value ∈ values, introducer ∉ value) →
        ∃ final, later.Alike final ∧ call = .ok (fill values pieces) final) ∧
      (∀ front parameter back values middle failure later,
        parameters = front ++ parameter :: back →
        Evaluated services name 0 context front values middle →
        ofText services parameter [] (.parameter (front.length + 1) name) middle =
          .error failure later →
        EndsIn services parameter (.parameter (front.length + 1) name) failure middle later
          call)) ∧
    (∀ (name : Text) (items : List Text) (pattern : Text) (pieces : List Piece),
      Primitive.ofName? name = some .forEach → items ≠ [] →
      TemplateForm [itemName] pieces pattern →
      let call := resolve services (ofText services) fragment ⟨name, items ++ [pattern], span⟩
        context
      (∀ values later, Evaluated services Primitive.forEach.name 0 context items values later →
        (∀ value ∈ values, introducer ∉ value) →
        ∃ final, later.Alike final ∧
          call = .ok (values.flatMap fun value => fill [value] pieces) final) ∧
      (∀ front item back values middle failure later, items = front ++ item :: back →
        Evaluated services Primitive.forEach.name 0 context front values middle →
        (∀ value ∈ values, introducer ∉ value) →
        ofText services item [] (.parameter (front.length + 1) Primitive.forEach.name) middle =
          .error failure later →
        EndsIn services item (.parameter (front.length + 1) Primitive.forEach.name) failure middle
          later call)) := by
  refine ⟨?_, ?_⟩
  · intro name parameters definition pieces user visible template call
    have key : definition.key = ⟨name, parameters.length⟩ := ScopeStack.key_of_visible? visible
    obtain rfl : definition.name = name := congrArg MacroKey.name key
    have same : parameters.length = definition.parameters.length :=
      (congrArg MacroKey.arity key).symm
    obtain ⟨noted, alike, called⟩ :=
      resolve_of_visible services (ofText services) fragment span parameters user visible
    have calls : call = callMacro (ofText services) definition parameters noted := called
    rw [calls]
    refine ⟨fun values later evaluated plain => ?_, ?_⟩
    · exact callMacro_of_evaluated services template same levels evaluated plain alike
    · rintro front parameter back values middle failure later rfl evaluated failed
      exact callMacro_of_failed services definition evaluated failed alike
  · intro name items pattern pieces loop some form call
    obtain ⟨noted, alike, called⟩ := resolve_of_forEach services (ofText services) fragment span
      loop some context
    have calls : call = perform services (ofText services) ⟨fragment, _, .forEach⟩
      (.forEach items pattern) noted := called
    rw [calls]
    refine ⟨fun values later evaluated plain => ?_, ?_⟩
    · exact forEach_of_evaluated services form levels evaluated plain fragment _ alike
    · rintro front item back values middle failure later rfl evaluated plain failed
      exact forEach_of_failed services form levels evaluated plain failed fragment _ alike

/-- A macro that puts out its parameter twice, and a loop with one item that refers to it twice. -/
theorem resolve_substitutes_twice :
    let services : Services Unit := ⟨[], .silent, .offline⟩
    let twice : Macro :=
      ⟨['t'], [itemName], "\\|it|\\+\\! it !\\".toList⟩
    let pieces : List Piece := [.reference 0, .literal ['+'], .reference 0]
    let context : Context Unit := ⟨⟨[⟨[twice]⟩]⟩, .empty, .ofLimit 2, (), #[]⟩
    let fragment : Fragment := ⟨.body [], []⟩
    2 ≤ context.depth.remaining ∧ twice.IsTemplate pieces ∧
    (∃ final, context.Alike final ∧ resolve services (ofText services) fragment
      ⟨['t'], [['a']], ⟨0, 0⟩⟩ context = .ok ['a', '+', 'a'] final) ∧
    (∃ final, context.Alike final ∧ resolve services (ofText services) fragment
      ⟨"for each".toList, [['a'], twice.body], ⟨0, 0⟩⟩ context = .ok ['a', '+', 'a'] final) := by
  intro services twice pieces context fragment
  have levels : 2 ≤ context.depth.remaining := by decide
  have admitted : context.depth.remaining ≠ 0 := by decide
  have form : TemplateForm [itemName] pieces twice.body := by
    have first : SignatureForm itemName [] ['|', 'i', 't', '|', '\\'] :=
      .plain '|' (by decide) (by decide) (by decide)
    have second : SignatureForm [' ', 'i', 't', ' '] [] ['!', ' ', 'i', 't', ' ', '!', '\\'] :=
      .plain '!' (by decide) (by decide) (by decide)
    have last : TemplateForm [itemName] [.reference 0] _ :=
      .reference rfl second (by decide) .nothing
    have middle : TemplateForm [itemName] [.literal ['+'], .reference 0] _ :=
      .literal (by decide) last
    exact .reference rfl first (by decide) middle
  have template : twice.IsTemplate pieces := by
    refine ⟨by simp [twice], fun formal member => ?_, form⟩
    rw [List.mem_singleton.mp member]
    decide
  have plain : introducer ∉ ['a'] := by decide
  have plainValues : ∀ value ∈ [['a']], introducer ∉ value := by
    intro value member
    rw [List.mem_singleton.mp member]
    exact plain
  have expands : ∀ called, ∃ later, context.Alike later ∧
      Evaluated services called 0 context [['a']] [['a']] later := by
    intro called
    have expanded : ∃ later, context.Alike later ∧
        ofText services ['a'] [] (.parameter 1 called) context = .ok ['a'] later :=
      ofText_of_plain plain admitted
    obtain ⟨later, alike, success⟩ := expanded
    exact ⟨later, alike, .more success (.none 1 later)⟩
  obtain ⟨calls, loops⟩ := resolve_substitutes services fragment ⟨0, 0⟩ context levels
  refine ⟨levels, template, ?_, ?_⟩
  · obtain ⟨later, alike, evaluated⟩ := expands ['t']
    obtain ⟨substitutes, -⟩ := calls ['t'] [['a']] twice pieces (by decide) rfl template
    obtain ⟨final, alikeFinal, success⟩ := substitutes [['a']] later evaluated plainValues
    exact ⟨final, alike.trans alikeFinal, success⟩
  · obtain ⟨later, alike, evaluated⟩ := expands Primitive.forEach.name
    obtain ⟨substitutes, -⟩ :=
      loops "for each".toList [['a']] twice.body pieces (by decide) (by simp) form
    obtain ⟨final, alikeFinal, success⟩ := substitutes [['a']] later evaluated plainValues
    exact ⟨final, alike.trans alikeFinal, success⟩

end Expansion
end TextMacros
