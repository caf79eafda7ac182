import TextMacros.Proofs.Expansion.Substitution

/-!
# References to bindings

The value of a parameter is bound as a macro without parameters, so a reference to it is a call, and
the value is expanded once more where the reference stands (`ofText_of_reference`). Nothing tells a
value that was quoted or retrieved from one that was written in the document. Such a text stands
for itself where it is produced, and it does so behind a reference when it holds no introducer.
-/

namespace TextMacros

open Token

namespace Expansion

variable {State : Type} {services : Services State}

/-- Without introducers, a value is put out as it stands by the scope that binds it. -/
theorem within_of_plain {formal value : Text} (plain : introducer ∉ value) (bindings : List Macro)
    (origin : Origin) {context : Context State} (levels : 2 ≤ context.depth.remaining) :
    ∃ final, context.Alike final ∧
      within bindings origin (ofText services value [] (.body formal)) context =
        .ok value final := by
  have inside : (context.enter bindings origin).depth.remaining ≠ 0 := by
    rw [Context.remaining_enter]
    omega
  have expanded : ∃ later, (context.enter bindings origin).Alike later ∧
      ofText services value [] (.body formal) (context.enter bindings origin) =
        .ok value later := ofText_of_plain plain inside
  obtain ⟨later, alike, success⟩ := expanded
  refine ⟨later.leave, (context.leave_enter bindings origin).trans alike.leave, ?_⟩
  unfold within
  rw [success]

/-- A text that is one reference to a bound value expands the value, as the body of the binding, in
the scope that binds it. -/
theorem ofText_of_reference {formal text : Text} (user : Primitive.ofName? formal = none)
    (form : TemplateForm [formal] [.reference 0] text) (value : Text) (origin : Origin)
    {context : Context State} (admitted : context.depth.remaining ≠ 0) :
    Matches
      (within [.constant formal value] origin (ofText services value [] (.body formal)) context)
      (ofText services text [.constant formal value] origin context) := by
  cases form with
  | @reference _ named written spelling rest _ position spelled canonical behind =>
    cases behind
    obtain rfl : formal = named := by simpa using position
    let inside := context.enter [.constant formal value] origin
    have distinct : [formal].Nodup := by simp
    have count : [value].length = [formal].length := rfl
    have binds : inside.Binds [formal] [value] :=
      Context.binds_enter distinct count origin context
    -- The text is run in the scope that binds the value: the reference is recognized there, finds
    -- the binding, and nothing is left behind it.
    have ran : ∀ fragment : Fragment, Matches (ofText services value [] (.body formal) inside)
        (runFrom services fragment ⟨0, introducer :: spelling ++ []⟩ inside) := by
      intro fragment
      obtain ⟨noted, alike, step⟩ :=
        runFrom_of_invocation services fragment spelled canonical 0 [] inside
      have visible : noted.scopes.visible? ⟨formal, 0⟩ = some (.constant formal value) :=
        binds.of_alike alike 0 formal rfl
      have found := resolve_of_binding services fragment ⟨0, 1 + spelling.size⟩ user visible
      rw [step]
      simp only [runFrom_of_plain List.not_mem_nil, pure_bind, List.append_nil, bind_pure]
      exact (matches_ofText alike).trans found
    have same : Matches (ofText services value [] (.body formal) inside)
        (run services ⟨origin, introducer :: spelling ++ []⟩ inside) := ran _
    rw [ofText_of_admitted admitted]
    exact same.within

section

variable (services) (fragment : Fragment) (span : Span) {context later : Context State}

/-- A call of a macro whose body is one reference to its parameter. -/
theorem callMacro_of_reference {formal : Text} {definition : Macro}
    (user : Primitive.ofName? formal = none) (formals : definition.parameters = [formal])
    (form : TemplateForm [formal] [.reference 0] definition.body) {parameter value : Text}
    (admitted : context.depth.remaining ≠ 0)
    (evaluated : ofText services parameter [] (.parameter 1 definition.name) context =
      .ok value later) {other : Context State} (alike : context.Alike other) :
    Matches
      (within [.constant formal value] (.body definition.name)
        (ofText services value [] (.body formal)) later)
      (callMacro (ofText services) definition [parameter] other) := by
  have single : Evaluated services definition.name 0 context [parameter] [value] later :=
    .more evaluated (.none 1 later)
  have left : later.depth.remaining ≠ 0 := by
    rw [depth_of_ok evaluated]
    exact admitted
  have expanded : Matches _ (ofText services definition.body [.constant formal value]
      (.body definition.name) later) := ofText_of_reference user form value _ left
  have called := matches_callMacro services single alike
  rw [formals] at called
  exact expanded.trans called

/-- A loop over one item whose pattern is one reference to the item. -/
theorem forEach_of_reference {pattern item value : Text}
    (form : TemplateForm [itemName] [.reference 0] pattern) (admitted : context.depth.remaining ≠ 0)
    (evaluated : ofText services item [] (.parameter 1 Primitive.forEach.name) context =
      .ok value later) (invocation : Invocation) {other : Context State}
    (alike : context.Alike other) :
    Matches
      (within [.constant itemName value] (.parameter 2 Primitive.forEach.name)
        (ofText services value [] (.body itemName)) later)
      (perform services (ofText services) ⟨fragment, invocation, .forEach⟩
        (.forEach [item] pattern) other) := by
  have left : later.depth.remaining ≠ 0 := by
    rw [depth_of_ok evaluated]
    exact admitted
  have user : Primitive.ofName? itemName = none := by decide
  have expanded : Matches _ (ofText services pattern [.constant itemName value]
      (.parameter 2 Primitive.forEach.name) later) := ofText_of_reference user form value _ left
  obtain ⟨bound, alikeBound, success⟩ := ofText_ok_of_alike alike evaluated
  have once : perform services (ofText services) ⟨fragment, invocation, .forEach⟩
      (.forEach [item] pattern) =
        ofText services item [] (.parameter 1 Primitive.forEach.name) >>= fun value =>
          ofText services pattern [.constant itemName value]
            (.parameter 2 Primitive.forEach.name) := by
    simp only [perform, List.zipIdx_cons, List.zipIdx_nil, List.mapM_cons, List.mapM_nil,
      bind_assoc, pure_bind, List.flatten_cons, List.flatten_nil, List.append_nil, bind_pure]
    rfl
  rw [once, bind_of_ok _ success]
  exact expanded.trans (matches_ofText alikeBound)

/-! ## Texts that stand for themselves -/

/-- A quoted text is put out as it stands. -/
theorem resolve_noExpand {name : Text} (text : Text)
    (called : Primitive.ofName? name = some .noExpand) :
    ∃ final, context.Alike final ∧
      resolve services (ofText services) fragment ⟨name, [text], span⟩ context =
        .ok text final := by
  have accepted : Call.ofParameters? .noExpand [text] = some (.noExpand text) := rfl
  obtain ⟨noted, alike, performed⟩ :=
    resolve_of_primitive services (ofText services) fragment span called accepted context
  exact ⟨noted, alike, performed⟩

/-- A retrieved text is put out as it stands. -/
theorem resolve_getUrl {name locator place text : Text} {entries : List Entry}
    (called : Primitive.ofName? name = some .getUrl)
    (evaluated : ofText services locator [] (.parameter 1 Primitive.getUrl.name) context =
      .ok place later)
    (retrieved : services.retriever.fetch place = ⟨.ok text, entries⟩) :
    ∃ final, later.Alike final ∧
      resolve services (ofText services) fragment ⟨name, [locator], span⟩ context =
        .ok text final := by
  have accepted : Call.ofParameters? .getUrl [locator] = some (.getUrl locator) := rfl
  obtain ⟨noted, alike, performed⟩ :=
    resolve_of_primitive services (ofText services) fragment span called accepted context
  obtain ⟨reached, alikeReached, success⟩ := ofText_ok_of_alike alike evaluated
  have fetched : (Step.fetch place).expansion services reached =
      .ok (.ok text) (reached.noteAll entries) := by
    simp only [Step.expansion, Step.take, retrieved]
  refine ⟨reached.noteAll entries, alikeReached.trans ⟨rfl, rfl, rfl, rfl⟩, ?_⟩
  rw [performed, perform_getUrl]
  exact (bind_of_ok _ success).trans (bind_of_ok _ fetched)

/-- A reply that is to be used as it stands is put out so. -/
theorem resolve_inputText {name title initial shown offered : Text} {middle : Context State}
    {reply : Reply} {answered : State} {entries : List Entry}
    (called : Primitive.ofName? name = some .inputText)
    (titled : ofText services title [] (.parameter 1 Primitive.inputText.name) context =
      .ok shown middle)
    (begun : ofText services initial [] (.parameter 2 Primitive.inputText.name) middle =
      .ok offered later)
    (replied : services.prompt.ask shown offered later.prompt = ⟨(reply, answered), entries⟩)
    (verbatim : reply.expand = false) :
    ∃ final, Context.Alike { later with prompt := answered } final ∧
      resolve services (ofText services) fragment ⟨name, [title, initial], span⟩ context =
        .ok reply.text final := by
  have accepted : Call.ofParameters? .inputText [title, initial] =
      some (.inputText title initial) := rfl
  obtain ⟨noted, alike, performed⟩ :=
    resolve_of_primitive services (ofText services) fragment span called accepted context
  obtain ⟨between, alikeBetween, first⟩ := ofText_ok_of_alike alike titled
  obtain ⟨reached, alikeReached, second⟩ := ofText_ok_of_alike alikeBetween begun
  have asked : (Step.ask shown offered).expansion services reached =
      .ok reply ({ reached with prompt := answered }.noteAll entries) := by
    simp only [Step.expansion, Step.take, alikeReached.prompt, replied]
  refine ⟨{ reached with prompt := answered }.noteAll entries,
    ⟨alikeReached.scopes, alikeReached.counters, alikeReached.depth, rfl⟩, ?_⟩
  rw [performed, perform_inputText]
  refine (bind_of_ok _ first).trans ((bind_of_ok _ second).trans ((bind_of_ok _ asked).trans ?_))
  rw [verbatim]
  rfl

end

/-- A value that travels through a parameter is expanded once more where the parameter is referred
to, and nowhere else. A call of a macro whose body is one reference to its parameter ends as the
expansion of the value does, in the scope that binds it and behind the parameter; so does a loop
over one item whose pattern is one reference to the item. A value without introducers is put out as
it stands by each of them. Quoted texts, retrieved texts and replies that are used as they stand are
put out so where they are produced, introducers or not. -/
theorem resolve_reference (services : Services State) (fragment : Fragment) (span : Span)
    (context : Context State) (levels : 2 ≤ context.depth.remaining) :
    (∀ (name parameter formal body value : Text) (later : Context State),
      Primitive.ofName? name = none → Primitive.ofName? formal = none →
      TemplateForm [formal] [.reference 0] body →
      context.scopes.visible? ⟨name, 1⟩ = some ⟨name, [formal], body⟩ →
      ofText services parameter [] (.parameter 1 name) context = .ok value later →
      let call := resolve services (ofText services) fragment ⟨name, [parameter], span⟩ context
      Matches
        (within [.constant formal value] (.body name) (ofText services value [] (.body formal))
          later) call ∧
      (introducer ∉ value → ∃ final, later.Alike final ∧ call = .ok value final)) ∧
    (∀ (name item pattern value : Text) (later : Context State),
      Primitive.ofName? name = some .forEach → TemplateForm [itemName] [.reference 0] pattern →
      ofText services item [] (.parameter 1 Primitive.forEach.name) context = .ok value later →
      let call := resolve services (ofText services) fragment ⟨name, [item, pattern], span⟩ context
      Matches
        (within [.constant itemName value] (.parameter 2 Primitive.forEach.name)
          (ofText services value [] (.body itemName)) later) call ∧
      (introducer ∉ value → ∃ final, later.Alike final ∧ call = .ok value final)) ∧
    (∀ name text : Text, Primitive.ofName? name = some .noExpand →
      ∃ final, context.Alike final ∧
        resolve services (ofText services) fragment ⟨name, [text], span⟩ context =
          .ok text final) ∧
    (∀ (name locator place text : Text) (entries : List Entry) (later : Context State),
      Primitive.ofName? name = some .getUrl →
      ofText services locator [] (.parameter 1 Primitive.getUrl.name) context = .ok place later →
      services.retriever.fetch place = ⟨.ok text, entries⟩ →
      ∃ final, later.Alike final ∧
        resolve services (ofText services) fragment ⟨name, [locator], span⟩ context =
          .ok text final) ∧
    (∀ (name title initial shown offered : Text) (reply : Reply) (answered : State)
      (entries : List Entry) (middle later : Context State),
      Primitive.ofName? name = some .inputText →
      ofText services title [] (.parameter 1 Primitive.inputText.name) context =
        .ok shown middle →
      ofText services initial [] (.parameter 2 Primitive.inputText.name) middle =
        .ok offered later →
      services.prompt.ask shown offered later.prompt = ⟨(reply, answered), entries⟩ →
      reply.expand = false →
      ∃ final, Context.Alike { later with prompt := answered } final ∧
        resolve services (ofText services) fragment ⟨name, [title, initial], span⟩ context =
          .ok reply.text final) := by
  have admitted : context.depth.remaining ≠ 0 := by omega
  -- Behind the parameter there are as many levels as before it, enough for a plain value.
  have as_it_stands : ∀ {formal value parameter : Text} {bindings : List Macro}
      {origin source : Origin} {later : Context State}
      {call : EStateM.Result Failure (Context State) Text},
      ofText services parameter [] source context = .ok value later →
      Matches (within bindings origin (ofText services value [] (.body formal)) later) call →
      introducer ∉ value → ∃ final, later.Alike final ∧ call = .ok value final := by
    intro formal value parameter bindings origin source later call evaluated same plain
    have left : 2 ≤ later.depth.remaining := by
      rw [depth_of_ok evaluated]
      exact levels
    obtain ⟨reached, alike, success⟩ := within_of_plain plain bindings origin left
    rw [success] at same
    obtain ⟨final, alikeFinal, ended⟩ := same.eq_ok
    exact ⟨final, alike.trans alikeFinal, ended⟩
  refine ⟨?_, ?_, fun _ _ called => resolve_noExpand services fragment span _ called,
    fun _ _ _ _ _ _ called evaluated => resolve_getUrl services fragment span called evaluated,
    fun _ _ _ _ _ _ _ _ _ _ called titled begun =>
      resolve_inputText services fragment span called titled begun⟩
  · intro name parameter formal body value later user userFormal form visible evaluated call
    obtain ⟨noted, alike, called⟩ :=
      resolve_of_visible services (ofText services) fragment span [parameter] user visible
    let definition : Macro := ⟨name, [formal], body⟩
    have calls : call = callMacro (ofText services) definition [parameter] noted := called
    have formals : definition.parameters = [formal] := rfl
    have same : Matches (within [.constant formal value] (.body name)
        (ofText services value [] (.body formal)) later)
        (callMacro (ofText services) definition [parameter] noted) :=
      callMacro_of_reference services userFormal formals form admitted evaluated alike
    rw [← calls] at same
    exact ⟨same, as_it_stands evaluated same⟩
  · intro name item pattern value later loop form evaluated call
    have accepted : Call.ofParameters? .forEach [item, pattern] =
        some (.forEach [item] pattern) := rfl
    obtain ⟨noted, alike, called⟩ :=
      resolve_of_primitive services (ofText services) fragment span loop accepted context
    have same := forEach_of_reference services fragment form admitted evaluated
      ⟨name, [item, pattern], span⟩ alike
    rw [← called] at same
    exact ⟨same, as_it_stands evaluated same⟩

/-- A retrieved invocation that travels through a parameter, and the same for an item. By itself the
retrieval puts out the invocation; the macro that refers to its parameter, and the loop that refers
to its item, put out what the invocation does. -/
theorem resolve_reference_retrieved :
    let retrieved : Text := "\\|new line|\\".toList
    let services : Services Unit := ⟨[], .silent, .ofDocuments [("doc".toList, retrieved)]⟩
    let identity : Macro := ⟨"id".toList, ["x".toList], "\\|x|\\".toList⟩
    let context : Context Unit := ⟨⟨[⟨[identity]⟩]⟩, .empty, .ofLimit 500, (), #[]⟩
    let parameter : Text := "\\|get url(\\$doc$\\)|\\".toList
    let resolved (name : Text) (parameters : List Text) :=
      resolve services (ofText services) ⟨.body [], []⟩ ⟨name, parameters, ⟨0, 0⟩⟩ context
    valueOf? (ofText services parameter [] (.parameter 1 identity.name) context) = some retrieved ∧
    valueOf? (ofText services parameter [] (.parameter 1 Primitive.forEach.name) context) =
      some retrieved ∧
    valueOf? (resolved identity.name [parameter]) = some ['\n'] ∧
    valueOf? (resolved "for each".toList [parameter, "\\|it|\\".toList]) = some ['\n'] ∧
    retrieved ≠ ['\n'] := by
  decide +kernel

/-- A quoted invocation that travels through the same macro, two levels below the limit. -/
theorem resolve_reference_quoted :
    let quoted : Text := "\\|new line|\\".toList
    let services : Services Unit := ⟨[], .silent, .offline⟩
    let identity : Macro := ⟨"id".toList, ["x".toList], "\\|x|\\".toList⟩
    let context : Context Unit := ⟨⟨[⟨[identity]⟩]⟩, .empty, .ofLimit 2, (), #[]⟩
    let parameter : Text := "\\|no expand(\\!\\|new line|\\!\\)|\\".toList
    2 ≤ context.depth.remaining ∧
    ∃ later, ofText services parameter [] (.parameter 1 identity.name) context =
        .ok quoted later ∧
      Matches
        (within [.constant "x".toList quoted] (.body identity.name)
          (ofText services quoted [] (.body "x".toList)) later)
        (resolve services (ofText services) ⟨.body [], []⟩ ⟨identity.name, [parameter], ⟨0, 0⟩⟩
          context) := by
  intro quoted services identity context parameter
  have levels : 2 ≤ context.depth.remaining := by decide
  have valued : valueOf? (ofText services parameter [] (.parameter 1 identity.name) context) =
      some quoted := by decide +kernel
  obtain ⟨later, evaluated⟩ := eq_ok_of_valueOf? valued
  have form : TemplateForm ["x".toList] [.reference 0] identity.body := by
    have spelled : SignatureForm "x".toList [] ['|', 'x', '|', '\\'] :=
      .plain '|' (by decide) (by decide) (by decide)
    exact .reference rfl spelled (by decide) .nothing
  obtain ⟨calls, -⟩ := resolve_reference services ⟨.body [], []⟩ ⟨0, 0⟩ context levels
  obtain ⟨same, -⟩ := calls identity.name parameter "x".toList identity.body quoted later
    (by decide) (by decide) form rfl evaluated
  exact ⟨levels, later, evaluated, same⟩

end Expansion
end TextMacros
