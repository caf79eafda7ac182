import TextMacros.Proofs.Expansion.Step

/-!
# Prompts that answer alike

What an expansion comes to depends on the replies of its prompt and on nothing else of it. Two
prompts that give one reply to each question, from states that are related, lead to one result: the
same text, or the same failure (`result_expandDocument_of_alike`). What the prompts show, what they
keep in their states and what they leave in the journal may differ.

The states may be of different types, so two expansions are compared here, and not the members of a
family. Two expansions correspond when they end alike from corresponding contexts
(`Expansion.Corresponding`). Each way to put expansions together keeps this, so it is enough that
the steps of an expansion correspond.
-/

namespace TextMacros

variable {First Second : Type}

/-- Two prompts that give one reply to a question and lead from related states to related ones. -/
structure Prompt.Alike (first : Prompt First) (second : Prompt Second)
    (related : First → Second → Prop) : Prop where
  /-- A question has one reply. -/
  ask : ∀ title initial {state other}, related state other →
    (second.ask title initial other).value.1 = (first.ask title initial state).value.1 ∧
      related (first.ask title initial state).value.2 (second.ask title initial other).value.2
  /-- A message leads to related states. -/
  notify : ∀ title body {state other}, related state other →
    related (first.notify title body state).value (second.notify title body other).value

/-- Two services that differ in their prompts, which answer alike. -/
structure Services.Alike (services : Services First) (others : Services Second)
    (related : First → Second → Prop) : Prop where
  /-- Pages are marked alike. -/
  pageMarker : others.pageMarker = services.pageMarker
  /-- The prompts answer alike. -/
  prompt : services.prompt.Alike others.prompt related
  /-- The same texts are retrieved. -/
  retriever : others.retriever = services.retriever

namespace Context

/-- Two contexts that differ in their journals, and in the states of their prompts, which are
related. -/
structure Parallel (related : First → Second → Prop) (first : Context First)
    (second : Context Second) : Prop where
  /-- The open scopes are the same. -/
  scopes : second.scopes = first.scopes
  /-- The counters are the same. -/
  counters : second.counters = first.counters
  /-- The depth is the same. -/
  depth : second.depth = first.depth
  /-- The states of the prompts are related. -/
  prompt : related first.prompt second.prompt

section

variable {related : First → Second → Prop} {first : Context First} {second : Context Second}

/-- A binding is added to both contexts or to none. -/
theorem Parallel.bind (parallel : first.Parallel related second) (origin : Origin)
    (binding : Macro) :
    (first.bind origin binding).Parallel related (second.bind origin binding) := by
  unfold Context.bind
  rw [parallel.scopes]
  cases first.scopes.insertCurrent? binding with
  | none => exact ⟨parallel.scopes, parallel.counters, parallel.depth, parallel.prompt⟩
  | some scopes => exact ⟨rfl, parallel.counters, parallel.depth, parallel.prompt⟩

/-- A fragment is entered from both contexts. -/
theorem Parallel.enter (parallel : first.Parallel related second) (bindings : List Macro)
    (origin : Origin) :
    (first.enter bindings origin).Parallel related (second.enter bindings origin) := by
  have bound : ∀ (bindings : List Macro) (first : Context First) (second : Context Second),
      first.Parallel related second →
        (bindings.foldl (Context.bind origin) first).Parallel related
          (bindings.foldl (Context.bind origin) second) := by
    intro bindings
    induction bindings with
    | nil => exact fun _ _ same => same
    | cons binding rest hypothesis =>
      exact fun _ _ same => hypothesis _ _ (same.bind origin binding)
  exact bound bindings _ _ ⟨congrArg ScopeStack.push parallel.scopes, parallel.counters,
    congrArg Depth.deeper parallel.depth, parallel.prompt⟩

/-- A fragment is left in both contexts. -/
theorem Parallel.leave (parallel : first.Parallel related second) :
    first.leave.Parallel related second.leave :=
  ⟨congrArg ScopeStack.pop parallel.scopes, parallel.counters,
    congrArg Depth.exit parallel.depth, parallel.prompt⟩

end

end Context

namespace Expansion

variable {α β : Type} {related : First → Second → Prop}

/-- Two results with one value or one failure, in parallel contexts. -/
inductive SameResult (related : First → Second → Prop) :
    EStateM.Result Failure (Context First) α → EStateM.Result Failure (Context Second) α → Prop
  /-- Both succeed. -/
  | success (value : α) {first : Context First} {second : Context Second}
    (parallel : first.Parallel related second) :
    SameResult related (.ok value first) (.ok value second)
  /-- Both fail. -/
  | failure (failure : Failure) {first : Context First} {second : Context Second}
    (parallel : first.Parallel related second) :
    SameResult related (.error failure first) (.error failure second)

/-- Two expansions that end alike from parallel contexts. -/
def Corresponding (related : First → Second → Prop) (first : Expansion First α)
    (second : Expansion Second α) : Prop :=
  ∀ context other, context.Parallel related other →
    SameResult related (first context) (second other)

/-- Two expanders by which every text is expanded correspondingly. -/
def CorrespondingExpanders (related : First → Second → Prop) (expand : Expander First)
    (another : Expander Second) : Prop :=
  ∀ text bindings origin,
    Corresponding related (expand text bindings origin) (another text bindings origin)

/-- A change is made in both of two parallel contexts or in none. -/
theorem Change.made?_of_parallel {first : Context First} {second : Context Second}
    (parallel : first.Parallel related second) (change : Change) :
    Option.Rel (Context.Parallel related) (change.made? first) (change.made? second) := by
  cases change with
  | define region definition =>
    cases region with
    | current =>
      simp only [made?, parallel.scopes]
      cases first.scopes.insertCurrent? definition with
      | none => exact .none
      | some scopes => exact .some ⟨rfl, parallel.counters, parallel.depth, parallel.prompt⟩
    | global =>
      simp only [made?, parallel.scopes]
      cases first.scopes.insertGlobal? definition with
      | none => exact .none
      | some scopes => exact .some ⟨rfl, parallel.counters, parallel.depth, parallel.prompt⟩
  | createCounter name =>
    simp only [made?, parallel.counters]
    cases first.counters.create? name with
    | none => exact .none
    | some counters => exact .some ⟨parallel.scopes, rfl, parallel.depth, parallel.prompt⟩
  | setCounter name value =>
    simp only [made?, parallel.counters]
    cases first.counters.set? name value with
    | none => exact .none
    | some counters => exact .some ⟨parallel.scopes, rfl, parallel.depth, parallel.prompt⟩

namespace Corresponding

/-! ## Ways to put expansions together -/

/-- The same value. -/
theorem pure (value : α) :
    Corresponding related (pure value : Expansion First α) (pure value : Expansion Second α) :=
  fun _ _ parallel => .success value parallel

/-- The same failure. -/
theorem throw (failure : Failure) :
    Corresponding related (throw failure : Expansion First α)
      (throw failure : Expansion Second α) :=
  fun _ _ parallel => .failure failure parallel

/-- The same entry of the journal. -/
theorem note (entry : Entry) :
    Corresponding related (note entry : Expansion First Unit)
      (note entry : Expansion Second Unit) :=
  fun _ _ parallel => .success ()
    ⟨parallel.scopes, parallel.counters, parallel.depth, parallel.prompt⟩

/-- Two parts in order. -/
theorem bind {first : Expansion First α} {second : Expansion Second α}
    {behind : α → Expansion First β} {after : α → Expansion Second β}
    (before : Corresponding related first second)
    (further : ∀ value, Corresponding related (behind value) (after value)) :
    Corresponding related (first >>= behind) (second >>= after) := by
  intro context other parallel
  have result := before context other parallel
  generalize one : first context = outcome at result
  generalize another : second other = ending at result
  cases result with
  | success value reached =>
    rw [bind_of_ok behind one, bind_of_ok after another]
    exact further value _ _ reached
  | failure failure reached =>
    rw [bind_of_error behind one, bind_of_error after another]
    exact .failure failure reached

/-- A loop over a list. -/
theorem mapM (items : List β) {each : β → Expansion First α} {every : β → Expansion Second α}
    (corresponding : ∀ item, Corresponding related (each item) (every item)) :
    Corresponding related (items.mapM each) (items.mapM every) := by
  induction items with
  | nil =>
    simp only [List.mapM_nil]
    exact pure []
  | cons item rest hypothesis =>
    simp only [List.mapM_cons]
    exact bind (corresponding item) fun value => bind hypothesis fun values =>
      pure (value :: values)

/-- A repetition. -/
theorem times (count : Nat) {first : Expansion First Text} {second : Expansion Second Text}
    (corresponding : Corresponding related first second) :
    Corresponding related (times count first) (times count second) := by
  have collect : ∀ results, Corresponding related (times.collect first count results)
      (times.collect second count results) := by
    induction count with
    | zero => exact fun results => pure results.reverse
    | succ remaining hypothesis =>
      exact fun results => bind corresponding fun result => hypothesis (result :: results)
  unfold Expansion.times
  simp only [map_eq_pure_bind]
  exact bind (collect []) fun results => pure results.flatten

/-- What is expanded inside a fresh scope. -/
theorem within {first : Expansion First α} {second : Expansion Second α}
    (corresponding : Corresponding related first second) (bindings : List Macro)
    (origin : Origin) :
    Corresponding related (within bindings origin first) (within bindings origin second) := by
  intro context other parallel
  have inside := corresponding _ _ (parallel.enter bindings origin)
  unfold Expansion.within
  generalize first (context.enter bindings origin) = outcome at inside
  generalize second (other.enter bindings origin) = ending at inside
  cases inside with
  | success value reached => exact .success value reached.leave
  | failure failure reached => exact .failure failure reached.leave

/-! ## Steps -/

section

variable {services : Services First} {others : Services Second}
  {expand : Expander First} {another : Expander Second}

/-- A step of both has one value. -/
theorem step (alike : services.Alike others related) (step : Step α) :
    Corresponding related (step.expansion services) (step.expansion others) := by
  intro context other parallel
  unfold Step.expansion
  cases step with
  | change change =>
    have changed := change.made?_of_parallel parallel
    simp only [Step.take]
    generalize change.made? context = one at changed
    generalize change.made? other = another at changed
    cases changed with
    | none => exact .success false parallel
    | some made => exact .success true made
  | lookup key =>
    simp only [Step.take, parallel.scopes]
    cases context.scopes.find? key with
    | none => exact .success none parallel
    | some place =>
      exact .success (some place.2)
        ⟨parallel.scopes, parallel.counters, parallel.depth, parallel.prompt⟩
  | counter name =>
    simp only [Step.take, parallel.counters]
    exact .success (context.counters.get? name) parallel
  | ask title initial =>
    obtain ⟨replied, kept⟩ := alike.prompt.ask title initial parallel.prompt
    simp only [Step.take, replied]
    exact .success _ ⟨parallel.scopes, parallel.counters, parallel.depth, kept⟩
  | notify title body =>
    have kept := alike.prompt.notify title body parallel.prompt
    exact .success () ⟨parallel.scopes, parallel.counters, parallel.depth, kept⟩
  | fetch locator =>
    simp only [Step.take, alike.retriever]
    exact .success _ ⟨parallel.scopes, parallel.counters, parallel.depth, parallel.prompt⟩

/-! ## Calls -/

/-- A value that may be missing. -/
theorem orFail (site : Site) (cause : Cause) (value? : Option α) :
    Corresponding related (site.orFail cause value? : Expansion First α)
      (site.orFail cause value? : Expansion Second α) := by
  cases value? with
  | none => exact throw _
  | some value => exact pure value

/-- A change that may be refused. -/
theorem change (alike : services.Alike others related) (site : Site) (cause : Cause)
    (change : Change) :
    Corresponding related (changeOrFail services site cause change)
      (changeOrFail others site cause change) := by
  refine bind (step alike (.change change)) fun made => ?_
  cases made with
  | false => exact throw _
  | true => exact pure ()

/-- The value of a counter. -/
theorem counter (alike : services.Alike others related) (site : Site) (name : Text) :
    Corresponding related (site.counter name : Expansion First Integer)
      (site.counter name : Expansion Second Integer) := by
  rw [counter_eq services, counter_eq others]
  exact bind (step alike (.counter name)) fun value? => orFail site _ value?

/-- A call of a primitive, whose nested texts are expanded correspondingly. -/
theorem perform (alike : services.Alike others related)
    (nested : CorrespondingExpanders related expand another) (site : Site) (call : Call) :
    Corresponding related (perform services expand site call)
      (perform others another site call) := by
  cases call with
  | comment text => exact pure []
  | define region written =>
    simp only [perform_define]
    cases Macro.ofDefinition ⟨site.parameter 1, written⟩ with
    | error failure => exact throw failure
    | ok definition =>
      exact bind (note _) fun _ => bind (change alike site _ _) fun _ => pure []
  | newLine => exact pure ['\n']
  | newPage =>
    simp only [Expansion.perform, alike.pageMarker]
    exact pure services.pageMarker
  | noExpand text => exact pure text
  | repetition count body =>
    refine bind (nested count [] _) fun count => bind (orFail site _ _) fun count => ?_
    split
    · exact throw _
    · exact times _ (nested body [] _)
  | forEach items pattern =>
    refine bind (mapM _ fun place => ?_) fun results => pure results.flatten
    exact bind (nested place.1 [] _) fun value => nested pattern _ _
  | inputText title initial =>
    simp only [perform_inputText]
    refine bind (nested title [] _) fun title => bind (nested initial [] _) fun initial =>
      bind (step alike (.ask title initial)) fun reply => ?_
    split
    · exact nested reply.text [] _
    · exact pure reply.text
  | sendMessage title body =>
    simp only [perform_sendMessage]
    exact bind (nested title [] _) fun title => bind (nested body [] _) fun body =>
      bind (step alike (.notify title body)) fun _ => pure []
  | newCounter name =>
    simp only [perform_newCounter]
    exact bind (nested name [] _) fun name => bind (change alike site _ _) fun _ =>
      bind (note _) fun _ => pure []
  | setCounter name value =>
    simp only [perform_setCounter]
    exact bind (nested name [] _) fun name => bind (nested value [] _) fun value =>
      bind (orFail site _ _) fun value => bind (change alike site _ _) fun _ => pure []
  | counter name =>
    exact bind (nested name [] _) fun name => bind (counter alike site name) fun value =>
      pure value.text
  | adjust amount operand =>
    exact bind (nested operand [] _) fun operand => bind (orFail site _ _) fun operand =>
      bind (orFail site _ _) fun adjusted => pure adjusted.text
  | adjustCounter amount name =>
    simp only [perform_adjustCounter]
    exact bind (nested name [] _) fun name => bind (counter alike site name) fun value =>
      bind (orFail site _ _) fun _ => bind (change alike site _ _) fun _ => pure []
  | checkCondition condition whenTrue whenFalse =>
    refine bind (nested condition [] _) fun condition => ?_
    split
    · exact nested whenTrue [] _
    · split
      · exact nested whenFalse [] _
      · exact throw _
  | isZero operand =>
    exact bind (nested operand [] _) fun operand => bind (orFail site _ _) fun operand =>
      pure (truth (operand.value = 0))
  | compare order left right =>
    exact bind (nested left [] _) fun left => bind (orFail site _ _) fun left =>
      bind (nested right [] _) fun right => bind (orFail site _ _) fun right =>
        pure (truth (compare left.value right.value = order))
  | getUrl locator =>
    simp only [perform_getUrl]
    refine bind (nested locator [] _) fun locator => bind (step alike (.fetch locator))
      fun result => ?_
    cases result with
    | ok text => exact pure text
    | error error => exact throw _

/-- A call of a macro of a scope. -/
theorem callMacro (nested : CorrespondingExpanders related expand another) (definition : Macro)
    (parameters : List Text) :
    Corresponding related (callMacro expand definition parameters)
      (callMacro another definition parameters) :=
  bind (mapM _ fun place => nested place.1 [] _) fun _ => nested definition.body _ _

/-- An invocation. -/
theorem resolve (alike : services.Alike others related)
    (nested : CorrespondingExpanders related expand another) (fragment : Fragment)
    (invocation : Invocation) :
    Corresponding related (resolve services expand fragment invocation)
      (resolve others another fragment invocation) := by
  cases called : Primitive.ofName? invocation.name with
  | some primitive =>
    simp only [Expansion.resolve, called]
    refine bind (note _) fun _ => ?_
    cases Call.ofParameters? primitive invocation.parameters with
    | none => exact throw _
    | some call => exact perform alike nested _ call
  | none =>
    rw [resolve_of_not_primitive services expand called,
      resolve_of_not_primitive others another called]
    refine bind (step alike (.lookup _)) fun found => ?_
    cases found with
    | none => exact throw _
    | some definition => exact callMacro nested definition invocation.parameters

/-- A fragment. -/
theorem ofFragment (alike : services.Alike others related)
    (nested : CorrespondingExpanders related expand another) (fragment : Fragment) :
    Corresponding related (ofFragment services expand fragment)
      (ofFragment others another fragment) := by
  refine bind (mapM _ fun segment => ?_) fun results => pure results.flatten
  cases segment with
  | literal text => exact pure text
  | invocation invocation =>
    exact bind (note _) fun _ => resolve alike nested fragment invocation
  | broken failure => exact throw failure

/-- Texts within a number of levels. -/
theorem ofTextWithin (alike : services.Alike others related) (levels : Nat) :
    CorrespondingExpanders related (ofTextWithin services levels)
      (ofTextWithin others levels) := by
  induction levels with
  | zero =>
    intro text bindings origin context other parallel
    have limit : other.depth.limit = context.depth.limit := congrArg Depth.limit parallel.depth
    change SameResult related (.error ⟨.recursionLimit context.depth.limit, _, _⟩ context)
      (.error ⟨.recursionLimit other.depth.limit, _, _⟩ other)
    rw [limit]
    exact .failure _ parallel
  | succ levels hypothesis =>
    intro text bindings origin
    exact (ofFragment alike hypothesis ⟨origin, text⟩).within bindings origin

/-- Texts. -/
theorem ofText (alike : services.Alike others related) :
    CorrespondingExpanders related (ofText services) (ofText others) := by
  intro text bindings origin context other parallel
  have within := ofTextWithin alike context.depth.remaining text bindings origin _ _ parallel
  change SameResult related (Expansion.ofTextWithin services context.depth.remaining _ _ _ context)
    (Expansion.ofTextWithin others other.depth.remaining _ _ _ other)
  rw [parallel.depth]
  exact within

end

end Corresponding
end Expansion

/-- Prompts that answer alike make one result of a document, whatever they show, keep and note. -/
theorem result_expandDocument_of_alike {first : Prompt First} {second : Prompt Second}
    {related : First → Second → Prop} (alike : first.Alike second related) {state : First}
    {other : Second} (start : related state other) (settings : Settings) (retriever : Retriever)
    (document : Text) (journal another : Journal) :
    (expandDocument settings first retriever document state journal).result =
      (expandDocument settings second retriever document other another).result := by
  let services : Services First := ⟨settings.pageMarker, first, retriever⟩
  let others : Services Second := ⟨settings.pageMarker, second, retriever⟩
  have same : services.Alike others related := ⟨rfl, alike, rfl⟩
  have outcome := Expansion.Corresponding.ofText same document []
    (.labelled settings.sourceName)
    ((Context.initial settings.maxDepth state journal).note
      (.expanding settings.sourceName document.size))
    ((Context.initial settings.maxDepth other another).note
      (.expanding settings.sourceName document.size)) ⟨rfl, rfl, rfl, start⟩
  unfold expandDocument
  dsimp only
  generalize Expansion.ofText services document [] (.labelled settings.sourceName) _ = one
    at outcome
  generalize Expansion.ofText others document [] (.labelled settings.sourceName) _ = another
    at outcome
  cases outcome with
  | success value parallel => rfl
  | failure failure parallel => rfl

end TextMacros
