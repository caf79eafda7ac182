import TextMacros.Proofs.Expansion.Invocation
import TextMacros.Proofs.Scope

/-!
# The frame of an expansion

An expansion of a text leaves the context as it found it, except for what is meant to last: macros
of the global scope, counters, answers and the journal. The scope of the text is closed and its
level is left on every way out, so the law holds of successes and of failures alike.

The proof is by induction on the levels that remain. Inside a fragment the current scope and the
global one can grow. When the fragment is left its own scope goes away, and of the scopes outside
only the global one has grown, whichever scope that is.
-/

namespace TextMacros

variable {State : Type}

namespace Context

/-- The depth is as before, the scopes have grown in some way, and no counter is gone. -/
structure Extends (growth : List Scope → List Scope → Prop) (before after : Context State) :
    Prop where
  /-- The level and the limit are as before. -/
  depth : after.depth = before.depth
  /-- The scopes have grown. -/
  scopes : growth before.scopes.scopes after.scopes.scopes
  /-- Every counter is still declared. -/
  counters : ∀ name, before.counters.contains name = true → after.counters.contains name = true

theorem Extends.refl {growth : List Scope → List Scope → Prop}
    (same : ∀ scopes, growth scopes scopes) (context : Context State) :
    Extends growth context context :=
  ⟨rfl, same context.scopes.scopes, fun _ declared => declared⟩

theorem Extends.trans {growth : List Scope → List Scope → Prop}
    (join : ∀ {first second third}, growth first second → growth second third →
      growth first third)
    {first second third : Context State} (before : Extends growth first second)
    (after : Extends growth second third) : Extends growth first third :=
  ⟨after.depth.trans before.depth, join before.scopes after.scopes,
    fun name declared => after.counters name (before.counters name declared)⟩

/-- A context inside a fragment, seen from the context outside: one more scope, one level deeper. -/
structure Entered (outside inside : Context State) : Prop where
  /-- One scope was opened. -/
  scopes : ∃ current, inside.scopes.scopes = current :: outside.scopes.scopes
  /-- One level was entered. -/
  depth : inside.depth = outside.depth.deeper
  /-- The counters are the same. -/
  counters : inside.counters = outside.counters

/-- A binding goes to the current scope and changes nothing else. -/
theorem Entered.bind {outside inside : Context State} (entered : Entered outside inside)
    (origin : Origin) (binding : Macro) : Entered outside (inside.bind origin binding) := by
  obtain ⟨current, opened⟩ := entered.scopes
  unfold Context.bind
  split
  · rename_i scopes inserted
    unfold ScopeStack.insertCurrent? at inserted
    rw [opened] at inserted
    obtain ⟨extended, -, rfl⟩ := Option.map_eq_some_iff.mp inserted
    exact ⟨⟨extended, rfl⟩, entered.depth, entered.counters⟩
  · exact ⟨⟨current, opened⟩, entered.depth, entered.counters⟩

/-- To enter a fragment is to open one scope and to go one level deeper. -/
theorem entered_enter (bindings : List Macro) (origin : Origin) (context : Context State) :
    Entered context (context.enter bindings origin) := by
  have bound : ∀ (bindings : List Macro) (inside : Context State), Entered context inside →
      Entered context (bindings.foldl (Context.bind origin) inside) := by
    intro bindings
    induction bindings with
    | nil => exact fun _ entered => entered
    | cons binding rest hypothesis =>
      exact fun inside entered => hypothesis _ (entered.bind origin binding)
  exact bound bindings _ ⟨⟨.empty, rfl⟩, rfl, rfl⟩

/-- Inside a fragment one level less remains. -/
theorem remaining_enter (bindings : List Macro) (origin : Origin) (context : Context State) :
    (context.enter bindings origin).depth.remaining = context.depth.remaining - 1 := by
  rw [(entered_enter bindings origin context).depth, Depth.remaining_deeper]

/-- What has grown inside a fragment has grown globally once the fragment is left. -/
theorem Entered.leave {outside inside later : Context State} (entered : Entered outside inside)
    (extended : Extends ScopeStack.Grows inside later) :
    Extends ScopeStack.GrowsGlobally outside later.leave := by
  obtain ⟨current, opened⟩ := entered.scopes
  have growth := extended.scopes
  rw [opened] at growth
  refine ⟨?_, ?_, ?_⟩
  · change later.depth.exit = outside.depth
    rw [extended.depth, entered.depth, Depth.exit_deeper]
  · change ScopeStack.GrowsGlobally outside.scopes.scopes later.scopes.scopes.tail
    generalize later.scopes.scopes = scopes at growth
    cases growth with
    | current _ global => exact global
  · intro name declared
    refine extended.counters name ?_
    rw [entered.counters]
    exact declared

end Context

namespace Expansion

/-- A change makes the current scope or the global one grow, or leaves the counters declared. -/
theorem Change.extends_of_made? {change : Change} {context changed : Context State}
    (made : change.made? context = some changed) :
    context.Extends ScopeStack.Grows changed := by
  cases change with
  | define region definition =>
    cases region with
    | current =>
      obtain ⟨scopes, inserted, rfl⟩ := Option.map_eq_some_iff.mp made
      exact ⟨rfl, ScopeStack.grows_of_insertCurrent? inserted, fun _ declared => declared⟩
    | global =>
      obtain ⟨scopes, inserted, rfl⟩ := Option.map_eq_some_iff.mp made
      exact ⟨rfl, (ScopeStack.growsGlobally_of_insertGlobal? inserted).grows,
        fun _ declared => declared⟩
  | createCounter name =>
    obtain ⟨counters, created, rfl⟩ := Option.map_eq_some_iff.mp made
    refine ⟨rfl, .refl _, fun other declared => ?_⟩
    unfold Counters.contains at declared ⊢
    rw [Counters.get?_of_create? created other]
    split
    · rfl
    · exact declared
  | setCounter name value =>
    obtain ⟨counters, set, rfl⟩ := Option.map_eq_some_iff.mp made
    refine ⟨rfl, .refl _, fun other declared => ?_⟩
    unfold Counters.contains at declared ⊢
    rw [Counters.get?_of_set? set other]
    split
    · rfl
    · exact declared

/-- Every step extends the context. -/
theorem Step.extends_take {α : Type} (services : Services State) (step : Step α)
    (context : Context State) :
    context.Extends ScopeStack.Grows (step.take services context).2 := by
  have same : context.Extends ScopeStack.Grows context := .refl .refl context
  cases step with
  | change change =>
    simp only [take]
    split
    · exact Change.extends_of_made? ‹_›
    · exact same
  | lookup key =>
    simp only [take]
    split
    · exact ⟨rfl, .refl _, same.counters⟩
    · exact same
  | counter name => exact same
  | ask title initial => exact ⟨rfl, .refl _, same.counters⟩
  | notify title body => exact ⟨rfl, .refl _, same.counters⟩
  | fetch locator => exact ⟨rfl, .refl _, same.counters⟩

/-- What is expanded within a fragment is framed when the fragment is left. -/
theorem Keeps.within {α : Type} {expansion : Expansion State α}
    (keeps : Keeps (Context.Extends ScopeStack.Grows) expansion) (bindings : List Macro)
    (origin : Origin) :
    Keeps (Context.Extends ScopeStack.GrowsGlobally) (within bindings origin expansion) := by
  intro context
  have entered := Context.entered_enter bindings origin context
  have inside := keeps (context.enter bindings origin)
  unfold Expansion.within
  cases outcome : expansion (context.enter bindings origin) with
  | ok value later =>
    rw [outcome] at inside
    exact entered.leave inside
  | error failure later =>
    rw [outcome] at inside
    exact entered.leave inside

/-- What is made of notes, steps and nested texts extends its context, when every nested text leaves
a frame. -/
theorem Uniform.extends {α : Type} {services : Services State} {expand : Expander State}
    {expansion : Expansion State α}
    (uniform : Uniform services (fun _ : Unit => expand) (fun _ => True) fun _ => expansion)
    (nested : ∀ text bindings origin,
      Keeps (Context.Extends ScopeStack.GrowsGlobally) (expand text bindings origin)) :
    Keeps (Context.Extends ScopeStack.Grows) expansion := by
  refine uniform.keeps (.refl .refl) (.trans .trans) ?_ (Step.extends_take services) ?_
  · exact fun context entry _ => ⟨rfl, .refl _, fun _ declared => declared⟩
  · intro text bindings origin context
    have framed := nested text bindings origin context
    exact ⟨framed.depth, framed.scopes.grows, framed.counters⟩

/-- A fragment extends its context when every nested text leaves a frame. -/
theorem keeps_ofFragment {services : Services State} {expand : Expander State}
    (nested : ∀ text bindings origin,
      Keeps (Context.Extends ScopeStack.GrowsGlobally) (expand text bindings origin))
    (fragment : Fragment) :
    Keeps (Context.Extends ScopeStack.Grows) (ofFragment services expand fragment) := by
  have uniform : Uniform services (fun _ : Unit => expand) (fun _ => True) fun _ =>
      ofFragment services expand fragment := .ofFragment (fun _ => trivial) fragment
  exact uniform.extends nested

/-- At every level, an expansion leaves a frame. -/
theorem keeps_ofTextWithin (services : Services State) (levels : Nat) (text : Text)
    (bindings : List Macro) (origin : Origin) :
    Keeps (Context.Extends ScopeStack.GrowsGlobally)
      (ofTextWithin services levels text bindings origin) := by
  induction levels generalizing text bindings origin with
  | zero => exact fun context => .refl .refl context
  | succ levels hypothesis =>
    -- The nested texts of the fragment have one level less, whatever their text is.
    exact (keeps_ofFragment hypothesis ⟨origin, text⟩).within bindings origin

/-- An expansion leaves a frame. -/
theorem keeps_ofText (services : Services State) (text : Text) (bindings : List Macro)
    (origin : Origin) :
    Keeps (Context.Extends ScopeStack.GrowsGlobally) (ofText services text bindings origin) :=
  fun context => keeps_ofTextWithin services context.depth.remaining text bindings origin context

/-- Without a level left, a text is refused and nothing happens. -/
theorem ofText_of_refused {services : Services State} {text : Text} {bindings : List Macro}
    {origin : Origin} {context : Context State} (refused : context.depth.enter? = none) :
    ofText services text bindings origin context =
      .error ⟨.recursionLimit context.depth.limit, ⟨origin, text⟩, ⟨0, text.size⟩⟩ context := by
  have levels : context.depth.remaining = 0 := Depth.enter?_eq_none.mp refused
  change ofTextWithin services context.depth.remaining text bindings origin context = _
  rw [levels]
  rfl

/-- Whether it succeeds or fails, at whatever level, the expansion of a text ends at the depth where
it began and with as many open scopes. Every scope but the global one is as it was. The global one
holds what it held, and what it gained stands behind that under identities that were free. No
counter is gone. When the depth does not admit the text, nothing changes at all. This holds for
every prompt, and for every retriever that answers by the locator alone. -/
theorem ofText_frame (services : Services State) (text : Text) (bindings : List Macro)
    (origin : Origin) (context : Context State) :
    let later := contextOf (ofText services text bindings origin context)
    later.depth = context.depth ∧
    later.scopes.depth = context.scopes.depth ∧
    later.scopes.scopes.dropLast = context.scopes.scopes.dropLast ∧
    (∀ scope, context.scopes.global? = some scope →
      ∃ grown, later.scopes.global? = some grown ∧ scope.Grows grown) ∧
    (∀ name, context.counters.contains name = true → later.counters.contains name = true) ∧
    (context.depth.enter? = none → ofText services text bindings origin context =
      .error ⟨.recursionLimit context.depth.limit, ⟨origin, text⟩, ⟨0, text.size⟩⟩ context) := by
  have framed := keeps_ofText services text bindings origin context
  exact ⟨framed.depth, framed.scopes.length_eq, framed.scopes.dropLast_eq,
    fun _ outermost => framed.scopes.getLast? outermost, framed.counters, ofText_of_refused⟩

end Expansion
end TextMacros
