import TextMacros.Proofs.Expansion.Frame

/-!
# Nested texts

Two laws that let the expansion of a fragment be used without a look at the levels below it. First,
a text that the depth admits is expanded by one run over its fragment, in which nested texts are
expanded as any text is (`ofText_eq`). Second, the journal has no influence: from contexts that
differ in their journals alone, a text is expanded to the same value or to the same failure, and to
contexts that differ in their journals alone (`agree_ofText`).
-/

namespace TextMacros

variable {State : Type}

namespace Context

/-- Two contexts that differ in their journals at most. -/
structure Alike (first second : Context State) : Prop where
  /-- The same scopes are open. -/
  scopes : second.scopes = first.scopes
  /-- The same counters are declared, with the same values. -/
  counters : second.counters = first.counters
  /-- The depth is the same. -/
  depth : second.depth = first.depth
  /-- The prompt is in the same state. -/
  prompt : second.prompt = first.prompt

theorem Alike.refl (context : Context State) : context.Alike context := ⟨rfl, rfl, rfl, rfl⟩

theorem Alike.symm {first second : Context State} (alike : first.Alike second) :
    second.Alike first :=
  ⟨alike.scopes.symm, alike.counters.symm, alike.depth.symm, alike.prompt.symm⟩

theorem Alike.trans {first second third : Context State} (before : first.Alike second)
    (after : second.Alike third) : first.Alike third :=
  ⟨after.scopes.trans before.scopes, after.counters.trans before.counters,
    after.depth.trans before.depth, after.prompt.trans before.prompt⟩

/-- An alike context has another journal. -/
theorem Alike.eq {first second : Context State} (alike : first.Alike second) :
    second = { first with journal := second.journal } := by
  obtain ⟨scopes, counters, depth, prompt⟩ := alike
  rw [← scopes, ← counters, ← depth, ← prompt]

/-- The journal has no influence on bindings, and where they come from shows there alone. -/
theorem Alike.bind {first second : Context State} (alike : first.Alike second)
    (origin other : Origin) (binding : Macro) :
    (first.bind origin binding).Alike (second.bind other binding) := by
  rw [alike.eq]
  unfold Context.bind
  cases first.scopes.insertCurrent? binding with
  | none => exact ⟨rfl, rfl, rfl, rfl⟩
  | some scopes => exact ⟨rfl, rfl, rfl, rfl⟩

/-- Alike contexts are entered alike, wherever the fragments come from. -/
theorem Alike.enter_origins {first second : Context State} (alike : first.Alike second)
    (bindings : List Macro) (origin other : Origin) :
    (first.enter bindings origin).Alike (second.enter bindings other) := by
  have bound : ∀ (bindings : List Macro) (first second : Context State), first.Alike second →
      (bindings.foldl (Context.bind origin) first).Alike
        (bindings.foldl (Context.bind other) second) := by
    intro bindings
    induction bindings with
    | nil => exact fun _ _ same => same
    | cons binding rest hypothesis =>
      exact fun _ _ same => hypothesis _ _ (same.bind origin other binding)
  rw [alike.eq]
  exact bound bindings _ _ ⟨rfl, rfl, rfl, rfl⟩

/-- Alike contexts are entered alike. -/
theorem Alike.enter {first second : Context State} (alike : first.Alike second)
    (bindings : List Macro) (origin : Origin) :
    (first.enter bindings origin).Alike (second.enter bindings origin) :=
  alike.enter_origins bindings origin origin

/-- Alike contexts are left alike. -/
theorem Alike.leave {first second : Context State} (alike : first.Alike second) :
    first.leave.Alike second.leave := by
  rw [alike.eq]
  exact ⟨rfl, rfl, rfl, rfl⟩

/-- Entering a fragment asks and tells nothing. -/
theorem prompt_enter (bindings : List Macro) (origin : Origin) (context : Context State) :
    (context.enter bindings origin).prompt = context.prompt := by
  have bound : ∀ inside : Context State,
      (bindings.foldl (Context.bind origin) inside).prompt = inside.prompt := by
    induction bindings with
    | nil => exact fun _ => rfl
    | cons binding rest hypothesis =>
      intro inside
      rw [List.foldl_cons, hypothesis]
      unfold Context.bind
      cases inside.scopes.insertCurrent? binding <;> rfl
  exact bound (context.enter [] origin)

/-- Entering a fragment and leaving it at once shows in the journal alone. -/
theorem leave_enter (bindings : List Macro) (origin : Origin) (context : Context State) :
    context.Alike (context.enter bindings origin).leave := by
  have entered := entered_enter bindings origin context
  obtain ⟨current, opened⟩ := entered.scopes
  refine ⟨?_, entered.counters, ?_, prompt_enter bindings origin context⟩
  · change ScopeStack.mk (context.enter bindings origin).scopes.scopes.tail = context.scopes
    rw [opened, List.tail_cons]
  · change (context.enter bindings origin).depth.exit = context.depth
    rw [entered.depth, Depth.exit_deeper]

end Context

namespace Expansion

variable {Index : Type}

/-- The journal has no influence on a change. -/
theorem Change.made?_alike {first second : Context State} (alike : first.Alike second)
    (change : Change) :
    change.made? second =
      (change.made? first).map fun changed => { changed with journal := second.journal } := by
  rw [alike.eq]
  cases change with
  | define region definition =>
    cases region with
    | current => simp only [made?, Option.map_map]; rfl
    | global => simp only [made?, Option.map_map]; rfl
  | createCounter name => simp only [made?, Option.map_map]; rfl
  | setCounter name value => simp only [made?, Option.map_map]; rfl

/-- A change leaves no entry in the journal. -/
theorem Change.journal_of_made? {change : Change} {context changed : Context State}
    (made : change.made? context = some changed) : changed.journal = context.journal := by
  have same := made?_alike (.refl context) change
  rw [made] at same
  have equal : changed = { changed with journal := context.journal } := Option.some.inj same
  calc changed.journal
      = ({ changed with journal := context.journal } : Context State).journal :=
        congrArg Context.journal equal
    _ = context.journal := rfl

/-- The journal has no influence on a step. -/
theorem Step.take_alike {α : Type} {services : Services State} {first second : Context State}
    (alike : first.Alike second) (step : Step α) :
    (step.take services second).1 = (step.take services first).1 ∧
      (step.take services first).2.Alike (step.take services second).2 := by
  cases step with
  | change change =>
    simp only [take, Change.made?_alike alike]
    cases change.made? first with
    | none => exact ⟨rfl, alike⟩
    | some changed => exact ⟨rfl, rfl, rfl, rfl, rfl⟩
  | lookup key =>
    simp only [take, alike.scopes]
    cases first.scopes.find? key with
    | none => exact ⟨rfl, alike⟩
    | some place => exact ⟨rfl, alike.scopes, alike.counters, alike.depth, alike.prompt⟩
  | counter name => exact ⟨congrArg (Counters.get? · name) alike.counters, alike⟩
  | ask title initial =>
    rw [alike.eq]
    exact ⟨rfl, rfl, rfl, rfl, rfl⟩
  | notify title body =>
    rw [alike.eq]
    exact ⟨rfl, rfl, rfl, rfl, rfl⟩
  | fetch locator => exact ⟨rfl, alike.scopes, alike.counters, alike.depth, alike.prompt⟩

/-- A family of contexts that differ in their journals alone. -/
def AllAlike (contexts : Index → Context State) : Prop :=
  ∃ common : Context State, ∀ index, common.Alike (contexts index)

/-- Notes make no difference, even where they differ. -/
theorem AllAlike.note {contexts : Index → Context State} (alike : AllAlike contexts)
    (entries : Index → Entry) : AllAlike fun index => (contexts index).note (entries index) := by
  obtain ⟨common, same⟩ := alike
  exact ⟨common, fun index =>
    ⟨(same index).scopes, (same index).counters, (same index).depth, (same index).prompt⟩⟩

/-- Notes and steps keep contexts alike. -/
theorem stable_allAlike (services : Services State) :
    Stable services (AllAlike : (Index → Context State) → Prop) where
  note := fun _ entry _ alike => alike.note fun _ => entry
  step := by
    rintro α step contexts - ⟨common, alike⟩
    exact ⟨⟨(step.take services common).1, fun index => (Step.take_alike (alike index) step).1⟩,
      ⟨(step.take services common).2, fun index => (Step.take_alike (alike index) step).2⟩⟩

/-- One failure for all members of a family. -/
def Shared (failure : Index → Failure) : Prop := ∃ common, failure = fun _ => common

theorem shared (failure : Failure) : Shared fun _ : Index => failure := ⟨failure, rfl⟩

/-- Members that agree in what happens inside a fragment agree behind it, when leaving the fragment
turns the relation inside into the one outside. -/
theorem Agree.within {α : Type} {related outside : (Index → Context State) → Prop}
    {fails : (Index → Failure) → Prop} {family : Index → Expansion State α}
    {bindings : List Macro} {origin : Origin} {contexts : Index → Context State}
    (inside : Agree related fails fun index =>
      family index ((contexts index).enter bindings origin))
    (leave : ∀ later, related later → outside fun index => (later index).leave) :
    Agree outside fails fun index => within bindings origin (family index) (contexts index) := by
  cases inside with
  | success value later kept outcome =>
    refine .success value _ (leave later kept) fun index => ?_
    simp only [Expansion.within, outcome]
  | failure failure later allowed kept outcome =>
    refine .failure failure _ allowed (leave later kept) fun index => ?_
    simp only [Expansion.within, outcome]

/-- Members that agree up to some failures agree up to more failures. -/
theorem Agree.weaken {α : Type} {related : (Index → Context State) → Prop}
    {fails allowed : (Index → Failure) → Prop}
    {results : Index → EStateM.Result Failure (Context State) α}
    (agree : Agree related fails results) (more : ∀ failure, fails failure → allowed failure) :
    Agree related allowed results := by
  cases agree with
  | success value later kept outcome => exact .success value later kept outcome
  | failure failure later may kept outcome =>
    exact .failure failure later (more failure may) kept outcome

/-- A relation between the contexts of a family that all parts of the expansion of a text keep: the
notes and the steps in it, and the fragments that are entered and left. -/
structure Coherent (services : Services State) (related : (Index → Context State) → Prop) : Prop
    extends Stable services related where
  /-- The depth is the same in all contexts. -/
  depth : ∀ contexts, related contexts → ∃ depth, ∀ index, (contexts index).depth = depth
  /-- A fragment is entered in every context. -/
  enter : ∀ bindings origin contexts, related contexts →
    related fun index => (contexts index).enter bindings origin
  /-- A fragment is left in every context. -/
  leave : ∀ contexts, related contexts → related fun index => (contexts index).leave

/-- At every level, a coherent relation is kept, and the outcome is the same in all contexts. -/
theorem Coherent.agree_ofTextWithin {services : Services State}
    {related : (Index → Context State) → Prop} (coherent : Coherent services related)
    (levels : Nat) (text : Text) (bindings : List Macro) (origin : Origin)
    (contexts : Index → Context State) (start : related contexts) :
    Agree related Shared fun index =>
      ofTextWithin services levels text bindings origin (contexts index) := by
  induction levels generalizing text bindings origin contexts with
  | zero =>
    obtain ⟨depth, same⟩ := coherent.depth contexts start
    refine .failure _ contexts
      (shared ⟨.recursionLimit depth.limit, ⟨origin, text⟩, ⟨0, text.size⟩⟩) start
      fun index => ?_
    rw [← same index]
    rfl
  | succ levels hypothesis =>
    have uniform : Uniform services (fun _ : Index => ofTextWithin services levels) Shared fun _ =>
        ofFragment services (ofTextWithin services levels) ⟨origin, text⟩ :=
      .ofFragment shared ⟨origin, text⟩
    have entered := coherent.enter bindings origin contexts start
    exact (uniform.agree coherent.toStable hypothesis _ entered).within coherent.leave

/-- A coherent relation is kept by the expansion of a text, and the outcome is the same in all
contexts. -/
theorem Coherent.agree_ofText {services : Services State}
    {related : (Index → Context State) → Prop} (coherent : Coherent services related) (text : Text)
    (bindings : List Macro) (origin : Origin) (contexts : Index → Context State)
    (start : related contexts) :
    Agree related Shared fun index => ofText services text bindings origin (contexts index) := by
  obtain ⟨depth, same⟩ := coherent.depth contexts start
  have level : (fun index => ofText services text bindings origin (contexts index)) = fun index =>
      ofTextWithin services depth.remaining text bindings origin (contexts index) := by
    funext index
    rw [← same index]
    rfl
  rw [level]
  exact coherent.agree_ofTextWithin _ text bindings origin contexts start

/-- A relation between the contexts of a family that an invocation keeps: steps keep it, and so do
the nested texts that are expanded as any text is. -/
structure Lasting (services : Services State) (related : (Index → Context State) → Prop) : Prop
    extends Stable services related where
  /-- A nested text is expanded in every context. -/
  nested : ∀ text bindings origin contexts, related contexts →
    Agree related Shared fun index => ofText services text bindings origin (contexts index)

/-- A coherent relation is kept by invocations. -/
theorem Coherent.lasting {services : Services State} {related : (Index → Context State) → Prop}
    (coherent : Coherent services related) : Lasting services related where
  toStable := coherent.toStable
  nested := coherent.agree_ofText

/-- An invocation is resolved alike in every context, whatever fragments hold it. -/
theorem Lasting.agree_resolve {services : Services State}
    {related : (Index → Context State) → Prop} (lasting : Lasting services related)
    {fails : (Index → Failure) → Prop} {fragments : Index → Fragment} {spans : Index → Span}
    (name : Text) (parameters : List Text)
    (own : ∀ cause, fails fun index => ⟨cause, fragments index, spans index⟩)
    (outside : ∀ failure, Shared failure → fails failure) (contexts : Index → Context State)
    (start : related contexts) :
    Agree related fails fun index => resolve services (ofText services) (fragments index)
      ⟨name, parameters, spans index⟩ (contexts index) := by
  have admits : Admits fragments (fun index => ⟨name, parameters, spans index⟩) fails :=
    { own := own
      definition := fun _ failure _ => outside _ (shared failure) }
  have uniform : Uniform services (fun _ : Index => ofText services) fails fun index =>
      resolve services (ofText services) (fragments index) ⟨name, parameters, spans index⟩ :=
    .resolve name parameters admits
  refine uniform.agree lasting.toStable ?_ contexts start
  intro text bindings origin contexts start
  exact (lasting.nested text bindings origin contexts start).weaken outside

/-- To differ in the journals alone is coherent. -/
theorem coherent_allAlike (services : Services State) :
    Coherent services (AllAlike : (Index → Context State) → Prop) where
  toStable := stable_allAlike services
  depth := fun _ ⟨common, same⟩ => ⟨common.depth, fun index => (same index).depth⟩
  enter := fun bindings origin _ ⟨_, same⟩ => ⟨_, fun index => (same index).enter bindings origin⟩
  leave := fun _ ⟨_, same⟩ => ⟨_, fun index => (same index).leave⟩

/-- The journal has no influence on an expansion. -/
theorem agree_ofText (services : Services State) (text : Text) (bindings : List Macro)
    (origin : Origin) (contexts : Index → Context State) (alike : AllAlike contexts) :
    Agree AllAlike Shared fun index => ofText services text bindings origin (contexts index) :=
  (coherent_allAlike services).agree_ofText text bindings origin contexts alike

/-! ## Runs -/

/-- Expands a fragment in the current scope, nested texts as any text. -/
def run (services : Services State) (fragment : Fragment) : Expansion State Text :=
  ofFragment services (ofText services) fragment

/-- Two expansions that do the same in all contexts of a kind, and end in contexts of that kind. -/
def SameWhere {α : Type} (here : Context State → Prop) (first second : Expansion State α) : Prop :=
  ∀ context, here context → first context = second context ∧ here (contextOf (second context))

/-- A kind of contexts that notes and steps lead to again. -/
structure Steady (services : Services State) (here : Context State → Prop) : Prop where
  /-- A note leads to a context of the kind. -/
  note : ∀ {context} entry, entry.severity = .debugging → here context → here (context.note entry)
  /-- A step of an invocation leads to a context of the kind. -/
  step : ∀ {α : Type} (step : Step α) {context}, step.Permitted → here context →
    here (step.take services context).2

section

variable {α β : Type} {here : Context State → Prop}

/-- To yield a value is the same everywhere. -/
theorem SameWhere.pure (value : α) :
    SameWhere here (Pure.pure value : Expansion State α) (Pure.pure value) :=
  fun _ holds => ⟨rfl, holds⟩

/-- To fail is the same everywhere. -/
theorem SameWhere.throw (failure : Failure) :
    SameWhere here (MonadExcept.throw failure : Expansion State α) (MonadExcept.throw failure) :=
  fun _ holds => ⟨rfl, holds⟩

/-- To note an entry is the same everywhere. -/
theorem SameWhere.note {services : Services State} (steady : Steady services here) (entry : Entry)
    (ordinary : entry.severity = .debugging) :
    SameWhere here (Expansion.note entry : Expansion State Unit) (Expansion.note entry) :=
  fun _ holds => ⟨rfl, steady.note entry ordinary holds⟩

/-- Where the first parts do the same, and so do the second ones, both do. -/
theorem SameWhere.bind {first other : Expansion State α} {second another : α → Expansion State β}
    (before : SameWhere here first other)
    (after : ∀ value, SameWhere here (second value) (another value)) :
    SameWhere here (first >>= second) (other >>= another) := by
  intro context holds
  obtain ⟨same, kept⟩ := before context holds
  cases outcome : other context with
  | ok value later =>
    rw [outcome] at same kept
    rw [bind_of_ok second same, bind_of_ok another outcome]
    exact after value later kept
  | error failure later =>
    rw [outcome] at same kept
    rw [bind_of_error second same, bind_of_error another outcome]
    exact ⟨rfl, kept⟩

/-- The two members of a uniform family do the same where their nested expanders do. -/
theorem Uniform.sameWhere {services : Services State} {inner : Bool → Expander State}
    {family : Bool → Expansion State α} (uniform : Uniform services inner Shared family)
    (steady : Steady services here) (nested : ∀ text bindings origin,
      SameWhere here (inner true text bindings origin) (inner false text bindings origin)) :
    SameWhere here (family true) (family false) := by
  induction uniform with
  | pure value => exact .pure value
  | fail failure allowed =>
    obtain ⟨common, rfl⟩ := allowed
    exact .throw common
  | note entry ordinary => exact .note steady entry ordinary
  | step step permitted => exact fun context holds => ⟨rfl, steady.step step permitted holds⟩
  | expand text bindings origin => exact nested text bindings origin
  | bind before after hypothesis hypotheses => exact hypothesis.bind hypotheses

end

/-- Notes and steps keep the levels that are left. -/
theorem steady_levels (services : Services State) (levels : Nat) :
    Steady services fun context => context.depth.remaining = levels where
  note := fun _ _ left => left
  step := by
    intro α step context _ left
    have depth := (Step.extends_take services step context).depth
    exact (congrArg Depth.remaining depth).trans left

/-- An expander that agrees with a framed one, where some levels are left, leaves them as well. -/
theorem sameWhere_of_framed {expand other : Expander State} {levels : Nat}
    (same : ∀ text bindings origin (context : Context State), context.depth.remaining = levels →
      other text bindings origin context = expand text bindings origin context)
    (framed : ∀ text bindings origin,
      Keeps (Context.Extends ScopeStack.GrowsGlobally) (expand text bindings origin))
    (text : Text) (bindings : List Macro) (origin : Origin) :
    SameWhere (fun context => context.depth.remaining = levels) (other text bindings origin)
      (expand text bindings origin) := by
  intro context left
  have depth := (framed text bindings origin context).depth
  exact ⟨same text bindings origin context left, (congrArg Depth.remaining depth).trans left⟩

/-- Where two nested expanders do the same with some levels left, they do the same for a fragment.
The levels that are left are the same before and behind every nested text. -/
theorem ofFragment_congr {services : Services State} {expand other : Expander State} {levels : Nat}
    (same : ∀ text bindings origin (context : Context State), context.depth.remaining = levels →
      other text bindings origin context = expand text bindings origin context)
    (framed : ∀ text bindings origin,
      Keeps (Context.Extends ScopeStack.GrowsGlobally) (expand text bindings origin))
    (fragment : Fragment) (context : Context State) (left : context.depth.remaining = levels) :
    ofFragment services other fragment context = ofFragment services expand fragment context := by
  -- Both expansions as one family: where it is swapped, the other expander is used.
  have uniform : Uniform services (fun swapped : Bool => cond swapped other expand) Shared
      fun swapped => ofFragment services (cond swapped other expand) fragment :=
    .ofFragment shared fragment
  have nested := sameWhere_of_framed same framed
  exact (uniform.sameWhere (steady_levels services levels) nested context left).1

/-- A run extends its context. -/
theorem keeps_run (services : Services State) (fragment : Fragment) :
    Keeps (Context.Extends ScopeStack.Grows) (run services fragment) :=
  keeps_ofFragment (keeps_ofText services) fragment

/-- A run is the expansion of the fragment with the levels that are left. -/
theorem run_eq_ofFragment (services : Services State) (fragment : Fragment)
    (context : Context State) :
    run services fragment context =
      ofFragment services (ofTextWithin services context.depth.remaining) fragment context := by
  refine ofFragment_congr ?_ (keeps_ofTextWithin services _) fragment context rfl
  intro text bindings origin other left
  rw [← left]
  rfl

/-- A text that the depth admits is expanded by a run in a scope of its own. -/
theorem ofText_eq (services : Services State) (text : Text) (bindings : List Macro)
    (origin : Origin) (context : Context State) :
    ofText services text bindings origin context =
      match context.depth.enter? with
      | none => .error ⟨.recursionLimit context.depth.limit, ⟨origin, text⟩, ⟨0, text.size⟩⟩ context
      | some _ => within bindings origin (run services ⟨origin, text⟩) context := by
  cases admitted : context.depth.enter? with
  | none => exact ofText_of_refused admitted
  | some inside =>
    obtain ⟨levels, left⟩ := Nat.exists_eq_succ_of_ne_zero (Depth.remaining_ne_zero admitted)
    have below : (context.enter bindings origin).depth.remaining = levels := by
      rw [Context.remaining_enter, left]
      rfl
    have runs := run_eq_ofFragment services ⟨origin, text⟩ (context.enter bindings origin)
    change ofTextWithin services context.depth.remaining text bindings origin context = _
    rw [left]
    change within bindings origin (ofFragment services (ofTextWithin services levels)
      ⟨origin, text⟩) context = _
    unfold within
    rw [runs, below]

/-- Where a level is left, a text is expanded by a run in a scope of its own. -/
theorem ofText_of_admitted {services : Services State} {text : Text} {bindings : List Macro}
    {origin : Origin} {context : Context State} (admitted : context.depth.remaining ≠ 0) :
    ofText services text bindings origin context =
      within bindings origin (run services ⟨origin, text⟩) context := by
  rw [ofText_eq]
  cases entered : context.depth.enter? with
  | none => exact absurd (Depth.enter?_eq_none.mp entered) admitted
  | some deeper => rfl

end Expansion
end TextMacros
