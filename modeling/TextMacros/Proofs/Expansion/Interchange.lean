import TextMacros.Proofs.Expansion.Nesting
import TextMacros.Proofs.Visibility

/-!
# Interchangeable contexts

An expansion sees the open scopes through what is visible in them. From contexts whose stacks of
scopes are interchangeable, and which are otherwise the same, a text is expanded to the same value
or to the same failure, with the same questions and messages, and the contexts behind the expansion
are interchangeable again (`ofText_interchangeable`). So it makes no difference how many scopes
there are, which of them holds a macro, or what any scope but the global one holds under a name that
calls a primitive.

The proof compares two expansions of one text, level by level. Inside a fragment the stacks are
aligned; a nested text lets only the global scopes grow, and so it leaves them aligned.
-/

namespace TextMacros

/-- Values that are related stay so when a function is applied to both. -/
theorem rel_map {α β γ δ : Type} {related : α → β → Prop} {wanted : γ → δ → Prop}
    {function : α → γ} {other : β → δ} {first : Option α} {second : Option β}
    (rel : Option.Rel related first second)
    (maps : ∀ one another, related one another → wanted (function one) (other another)) :
    Option.Rel wanted (first.map function) (second.map other) := by
  cases rel with
  | none => exact .none
  | some kept => exact .some (maps _ _ kept)

namespace Counters

/-- Two stores in which every counter has the same value, or is missing from both. -/
def Same (first second : Counters) : Prop := ∀ name, first.get? name = second.get? name

/-- The same counters are declared in the same stores. -/
theorem Same.contains {first second : Counters} (same : first.Same second) (name : Text) :
    first.contains name = second.contains name := by
  unfold Counters.contains
  rw [same name]

/-- A declaration is refused by both of the same stores, or made in both. -/
theorem Same.create? {first second : Counters} (same : first.Same second) (name : Text) :
    Option.Rel Same (first.create? name) (second.create? name) := by
  unfold Counters.create?
  by_cases declared : second.contains name = true
  · have also : first.contains name = true := (same.contains name).trans declared
    rw [if_pos also, if_pos declared]
    exact .none
  · have also : ¬ first.contains name = true := by rwa [same.contains name]
    have created := fun counters (free : ¬ Counters.contains counters name = true) =>
      get?_of_create? (show counters.create? name = some _ from if_neg free)
    rw [if_neg also, if_neg declared]
    refine .some fun other => ?_
    rw [created first also, created second declared, same other]

/-- A change of a value is refused by both of the same stores, or made in both. -/
theorem Same.set? {first second : Counters} (same : first.Same second) (name : Text)
    (value : Integer) : Option.Rel Same (first.set? name value) (second.set? name value) := by
  unfold Counters.set?
  by_cases declared : second.contains name = true
  · have also : first.contains name = true := (same.contains name).trans declared
    have changed := fun counters (known : Counters.contains counters name = true) =>
      get?_of_set? (show counters.set? name value = some _ from if_pos known)
    rw [if_pos also, if_pos declared]
    refine .some fun other => ?_
    rw [changed first also, changed second declared, same other]
  · have also : ¬ first.contains name = true := by rwa [same.contains name]
    rw [if_neg also, if_neg declared]
    exact .none

end Counters

variable {State : Type}

namespace Context

/-- Two contexts with the same counters, the same depth and the same state of the prompt, whose
scopes are related in some way. The journals may differ. -/
structure Corresponds (related : ScopeStack → ScopeStack → Prop) (first second : Context State) :
    Prop where
  /-- The scopes are related. -/
  scopes : related first.scopes second.scopes
  /-- The same counters are declared, with the same values. -/
  counters : first.counters.Same second.counters
  /-- The depth and its limit are the same. -/
  depth : first.depth = second.depth
  /-- The prompt is in the same state. -/
  prompt : first.prompt = second.prompt

variable {related : ScopeStack → ScopeStack → Prop}

/-- A binding goes to both of two stacks that do the same, or is shadowed in both. -/
theorem Corresponds.bind (indistinct : ScopeStack.Indistinct related) {first second : Context State}
    (same : first.Corresponds related second) (origin : Origin) (binding : Macro) :
    (first.bind origin binding).Corresponds related (second.bind origin binding) := by
  have inserted := indistinct.insertCurrent? same.scopes binding
  unfold Context.bind
  generalize first.scopes.insertCurrent? binding = one at inserted
  generalize second.scopes.insertCurrent? binding = another at inserted
  cases inserted with
  | none => exact ⟨same.scopes, same.counters, same.depth, same.prompt⟩
  | some kept => exact ⟨kept, same.counters, same.depth, same.prompt⟩

/-- Entering a fragment relates contexts whose scopes are related with one more scope open. -/
theorem Corresponds.enter {outside : ScopeStack → ScopeStack → Prop}
    (indistinct : ScopeStack.Indistinct related) {first second : Context State}
    (same : first.Corresponds outside second)
    (opened : related first.scopes.push second.scopes.push) (bindings : List Macro)
    (origin : Origin) :
    (first.enter bindings origin).Corresponds related (second.enter bindings origin) := by
  have deeper : first.depth.deeper = second.depth.deeper := congrArg Depth.deeper same.depth
  refine List.foldl_rel ?_ fun binding _ one another inside =>
    inside.bind indistinct origin binding
  exact ⟨opened, same.counters, deeper, same.prompt⟩

/-- Leaving a fragment relates contexts whose scopes are related with one scope closed. -/
theorem Corresponds.leave {inside : ScopeStack → ScopeStack → Prop} {first second : Context State}
    (same : first.Corresponds inside second) (closed : related first.scopes.pop second.scopes.pop) :
    first.leave.Corresponds related second.leave := by
  have shallower : first.depth.exit = second.depth.exit := congrArg Depth.exit same.depth
  exact ⟨closed, same.counters, shallower, same.prompt⟩

/-- Contexts stay aligned behind a text that lets only their global scopes grow, if they stay
interchangeable. -/
theorem Corresponds.of_extends {first second first' second' : Context State}
    (same : first.Corresponds ScopeStack.Aligned second)
    (framed : first.Extends ScopeStack.GrowsGlobally first')
    (framed' : second.Extends ScopeStack.GrowsGlobally second')
    (later : first'.Corresponds ScopeStack.Interchangeable second') :
    first'.Corresponds ScopeStack.Aligned second' where
  scopes := same.scopes.of_growsGlobally framed.scopes framed'.scopes later.scopes
  counters := later.counters
  depth := later.depth
  prompt := later.prompt

end Context

namespace Expansion

variable {related : ScopeStack → ScopeStack → Prop}

/-- A change is refused in both of two contexts whose scopes do the same, or made in both. -/
theorem Change.made?_of_indistinct (indistinct : ScopeStack.Indistinct related)
    {first second : Context State} (same : first.Corresponds related second) (change : Change) :
    Option.Rel (Context.Corresponds related) (change.made? first) (change.made? second) := by
  cases change with
  | define region definition =>
    cases region with
    | current =>
      refine rel_map (indistinct.insertCurrent? same.scopes definition) fun one another kept => ?_
      exact ⟨kept, same.counters, same.depth, same.prompt⟩
    | global =>
      refine rel_map (indistinct.insertGlobal? same.scopes definition) fun one another kept => ?_
      exact ⟨kept, same.counters, same.depth, same.prompt⟩
  | createCounter name =>
    refine rel_map (same.counters.create? name) fun one another counters => ?_
    exact ⟨same.scopes, counters, same.depth, same.prompt⟩
  | setCounter name value =>
    refine rel_map (same.counters.set? name value) fun one another counters => ?_
    exact ⟨same.scopes, counters, same.depth, same.prompt⟩

/-- What is looked up is what is visible; only the journal learns which scope holds it. -/
theorem Step.take_lookup (services : Services State) (context : Context State) (key : MacroKey) :
    ((Step.lookup key).take services context).1 = context.scopes.visible? key ∧
      context.Alike ((Step.lookup key).take services context).2 := by
  unfold Step.take ScopeStack.visible?
  dsimp only
  cases context.scopes.find? key with
  | none => exact ⟨rfl, .refl context⟩
  | some place => exact ⟨rfl, rfl, rfl, rfl, rfl⟩

/-- A step of an invocation has one value in contexts whose scopes do the same, and leaves such
contexts. -/
theorem Step.take_of_indistinct {α : Type} (indistinct : ScopeStack.Indistinct related)
    (services : Services State) {first second : Context State}
    (same : first.Corresponds related second) (step : Step α) (permitted : step.Permitted) :
    (step.take services second).1 = (step.take services first).1 ∧
      (step.take services first).2.Corresponds related (step.take services second).2 := by
  cases step with
  | change change =>
    have made := Change.made?_of_indistinct indistinct same change
    simp only [Step.take]
    generalize change.made? first = one at made
    generalize change.made? second = another at made
    cases made with
    | none => exact ⟨rfl, same⟩
    | some changed => exact ⟨rfl, changed⟩
  | lookup key =>
    have shown := indistinct.visible same.scopes key permitted
    obtain ⟨value, alike⟩ := Step.take_lookup services first key
    obtain ⟨value', alike'⟩ := Step.take_lookup services second key
    refine ⟨by rw [value, value', shown], ?_⟩
    rw [alike.eq, alike'.eq]
    exact ⟨same.scopes, same.counters, same.depth, same.prompt⟩
  | counter name => exact ⟨(same.counters name).symm, same⟩
  | ask title initial =>
    unfold Step.take
    dsimp only
    rw [same.prompt]
    exact ⟨rfl, same.scopes, same.counters, same.depth, rfl⟩
  | notify title body =>
    unfold Step.take
    dsimp only
    rw [same.prompt]
    exact ⟨rfl, same.scopes, same.counters, same.depth, rfl⟩
  | fetch locator => exact ⟨rfl, same.scopes, same.counters, same.depth, same.prompt⟩

/-- Two contexts, as a family, correspond to each other. -/
def Pairwise (related : ScopeStack → ScopeStack → Prop) (contexts : Bool → Context State) : Prop :=
  (contexts false).Corresponds related (contexts true)

/-- Notes and steps keep contexts whose scopes do the same. -/
theorem stable_of_indistinct (indistinct : ScopeStack.Indistinct related)
    (services : Services State) : Stable services (Pairwise related) where
  note := fun contexts entry _ same => ⟨same.scopes, same.counters, same.depth, same.prompt⟩
  step := by
    intro α step contexts permitted same
    obtain ⟨value, later⟩ := Step.take_of_indistinct indistinct services same step permitted
    refine ⟨⟨(step.take services (contexts false)).1, fun index => ?_⟩, later⟩
    cases index with
    | false => rfl
    | true => exact value

/-- A nested text that is expanded alike leaves aligned contexts aligned. -/
theorem Agree.aligned {α : Type} {fails : (Bool → Failure) → Prop}
    {contexts : Bool → Context State}
    {results : Bool → EStateM.Result Failure (Context State) α}
    (agree : Agree (Pairwise ScopeStack.Interchangeable) fails results)
    (same : Pairwise ScopeStack.Aligned contexts)
    (framed : ∀ index,
      (contexts index).Extends ScopeStack.GrowsGlobally (contextOf (results index))) :
    Agree (Pairwise ScopeStack.Aligned) fails results := by
  have stay : ∀ later : Bool → Context State, (∀ index, contextOf (results index) = later index) →
      Pairwise ScopeStack.Interchangeable later → Pairwise ScopeStack.Aligned later := by
    intro later reached kept
    simp only [reached] at framed
    exact same.of_extends (framed false) (framed true) kept
  cases agree with
  | success value later kept outcome =>
    have reached : ∀ index, contextOf (results index) = later index := fun index => by
      rw [outcome index]
      rfl
    exact .success value later (stay later reached kept) outcome
  | failure failure later allowed kept outcome =>
    have reached : ∀ index, contextOf (results index) = later index := fun index => by
      rw [outcome index]
      rfl
    exact .failure failure later allowed (stay later reached kept) outcome

/-- At every level, a text is expanded alike from interchangeable contexts. -/
theorem agree_ofTextWithin_of_interchangeable (services : Services State) (levels : Nat)
    (text : Text) (bindings : List Macro) (origin : Origin) (contexts : Bool → Context State)
    (same : Pairwise ScopeStack.Interchangeable contexts) :
    Agree (Pairwise ScopeStack.Interchangeable) Shared fun index =>
      ofTextWithin services levels text bindings origin (contexts index) := by
  induction levels generalizing text bindings origin contexts with
  | zero =>
    refine .failure _ contexts (shared ⟨.recursionLimit (contexts false).depth.limit,
      ⟨origin, text⟩, ⟨0, text.size⟩⟩) same fun index => ?_
    cases index with
    | false => rfl
    | true =>
      rw [same.depth]
      rfl
  | succ levels hypothesis =>
    have uniform : Uniform services (fun _ : Bool => ofTextWithin services levels) Shared fun _ =>
        ofFragment services (ofTextWithin services levels) ⟨origin, text⟩ :=
      .ofFragment shared ⟨origin, text⟩
    -- Inside the fragment the scopes are aligned, and every nested text leaves them so.
    have nested : ∀ text bindings origin (contexts : Bool → Context State),
        Pairwise ScopeStack.Aligned contexts → Agree (Pairwise ScopeStack.Aligned) Shared
          fun index => ofTextWithin services levels text bindings origin (contexts index) := by
      intro text bindings origin contexts aligned
      have outside : Pairwise ScopeStack.Interchangeable contexts :=
        ⟨aligned.scopes.interchangeable, aligned.counters, aligned.depth, aligned.prompt⟩
      exact (hypothesis text bindings origin contexts outside).aligned aligned fun index =>
        keeps_ofTextWithin services levels text bindings origin (contexts index)
    have entered : Pairwise ScopeStack.Aligned fun index =>
        (contexts index).enter bindings origin :=
      same.enter ScopeStack.indistinct_aligned same.scopes.push bindings origin
    have stable := stable_of_indistinct ScopeStack.indistinct_aligned services
    exact (uniform.agree stable nested _ entered).within fun later inside =>
      inside.leave inside.scopes.pop

/-- From contexts with interchangeable scopes and the same counters, depth and prompt, a text is
expanded to the same output or to the same failure, and the contexts behind it are related in the
same way. This holds for every prompt, so also for one that records what it is asked and told, and
for every retriever that answers by the locator alone. -/
theorem ofText_interchangeable (services : Services State) (text : Text) (bindings : List Macro)
    (origin : Origin) {first second : Context State}
    (same : first.Corresponds ScopeStack.Interchangeable second) :
    (∃ output first' second', ofText services text bindings origin first = .ok output first' ∧
      ofText services text bindings origin second = .ok output second' ∧
      first'.Corresponds ScopeStack.Interchangeable second') ∨
    (∃ failure first' second',
      ofText services text bindings origin first = .error failure first' ∧
      ofText services text bindings origin second = .error failure second' ∧
      first'.Corresponds ScopeStack.Interchangeable second') := by
  have pair : Pairwise ScopeStack.Interchangeable fun index => cond index second first := same
  have agree := agree_ofTextWithin_of_interchangeable services first.depth.remaining text bindings
    origin _ pair
  have one : ofText services text bindings origin first =
      ofTextWithin services first.depth.remaining text bindings origin first := rfl
  have another : ofText services text bindings origin second =
      ofTextWithin services first.depth.remaining text bindings origin second := by
    rw [same.depth]
    rfl
  rw [one, another]
  cases agree with
  | success value later kept outcome =>
    exact .inl ⟨value, later false, later true, outcome false, outcome true, kept⟩
  | failure failure later allowed kept outcome =>
    obtain ⟨common, rfl⟩ := allowed
    exact .inr ⟨common, later false, later true, outcome false, outcome true, kept⟩

/-- One more scope, which holds a macro under the name of a primitive and hides nothing. -/
theorem ofText_interchangeable_hidden :
    let services : Services Unit := ⟨[], .silent, .offline⟩
    let greeting : Macro := .constant ['g'] ['h', 'i']
    let inert : Macro := .constant "new line".toList ['x']
    let first : Context Unit := ⟨⟨[⟨[greeting]⟩, .empty]⟩, .empty, .ofLimit 5, (), #[]⟩
    let second : Context Unit :=
      ⟨⟨[⟨[inert]⟩, ⟨[greeting]⟩, .empty]⟩, .empty, .ofLimit 5, (), #[]⟩
    let text : Text := "\\|g|\\".toList
    first.Corresponds ScopeStack.Interchangeable second ∧
    ((∃ output first' second', ofText services text [] (.body []) first = .ok output first' ∧
      ofText services text [] (.body []) second = .ok output second' ∧
      first'.Corresponds ScopeStack.Interchangeable second') ∨
    (∃ failure first' second', ofText services text [] (.body []) first = .error failure first' ∧
      ofText services text [] (.body []) second = .error failure second' ∧
      first'.Corresponds ScopeStack.Interchangeable second')) := by
  intro services greeting inert first second text
  have same : first.Corresponds ScopeStack.Interchangeable second := by
    refine ⟨⟨⟨by simp [first], by simp [second]⟩, fun key => rfl, fun key user => ?_⟩,
      fun name => rfl, rfl, rfl⟩
    have differ : inert.key ≠ key := by
      rintro rfl
      exact absurd user (by decide)
    have missing : Scope.find? ⟨[inert]⟩ key = none := by
      rw [Scope.find?_eq_none]
      simpa using differ
    have shown := ScopeStack.visible?_cons ⟨[inert]⟩ first.scopes.scopes key
    rw [missing] at shown
    exact shown.symm
  exact ⟨same, ofText_interchangeable services text [] (.body []) same⟩

end Expansion
end TextMacros
