import TextMacros.Proofs.Expansion.Nesting
import TextMacros.Proofs.Expansion.Prompting

/-!
# Raising the limit of nesting

An expansion notices the limit of nesting only when it is refused a level, and then it fails at
once. So an expansion that ends in any other way ends in the same way under a higher limit, and one
that is refused has asked and told what it would have asked and told at first under a higher limit
(`ofText_withLimit`).

The proof runs an expansion under both limits, part by part. The two go together until the lower one
is refused; from there on the lower one does nothing, and the higher one can only add to the
history of its prompt.
-/

namespace TextMacros

variable {State Item : Type}

namespace Context

/-- A context under another limit. -/
def withLimit (limit : Nat) (context : Context State) : Context State :=
  { context with depth := { context.depth with limit } }

/-- Bindings do not depend on the limit. -/
theorem bind_withLimit (limit : Nat) (origin : Origin) (context : Context State)
    (binding : Macro) :
    (context.withLimit limit).bind origin binding =
      (context.bind origin binding).withLimit limit := by
  have same : (context.withLimit limit).scopes = context.scopes := rfl
  unfold Context.bind
  rw [same]
  cases context.scopes.insertCurrent? binding <;> rfl

/-- A fragment is entered alike under both limits. -/
theorem Alike.enter_withLimit {limit : Nat} {low high : Context State}
    (alike : (low.withLimit limit).Alike high) (bindings : List Macro) (origin : Origin) :
    ((low.enter bindings origin).withLimit limit).Alike (high.enter bindings origin) := by
  have opened : ((low.enter [] origin).withLimit limit).Alike (high.enter [] origin) := by
    rw [alike.eq]
    exact ⟨rfl, rfl, rfl, rfl⟩
  let related := fun one another : Context State => (one.withLimit limit).Alike another
  have bound : related (bindings.foldl (Context.bind origin) (low.enter [] origin))
      (bindings.foldl (Context.bind origin) (high.enter [] origin)) := by
    refine List.foldl_rel opened fun binding _ one another same => ?_
    have further := Alike.bind same origin origin binding
    rw [bind_withLimit] at further
    exact further
  exact bound

/-- A fragment is left alike under both limits. -/
theorem Alike.leave_withLimit {limit : Nat} {low high : Context State}
    (alike : (low.withLimit limit).Alike high) :
    (low.leave.withLimit limit).Alike high.leave := alike.leave

end Context

namespace Expansion

/-- Changes do not depend on the limit. -/
theorem Change.made?_withLimit (limit : Nat) (context : Context State) (change : Change) :
    change.made? (context.withLimit limit) =
      (change.made? context).map fun changed => changed.withLimit limit := by
  cases change with
  | define region definition =>
    cases region with
    | current => simp only [made?, Option.map_map]; rfl
    | global => simp only [made?, Option.map_map]; rfl
  | createCounter name => simp only [made?, Option.map_map]; rfl
  | setCounter name value => simp only [made?, Option.map_map]; rfl

/-- Steps do not depend on the limit. -/
theorem Step.take_withLimit {α : Type} (services : Services State) (limit : Nat)
    (context : Context State) (step : Step α) :
    step.take services (context.withLimit limit) =
      ((step.take services context).1, (step.take services context).2.withLimit limit) := by
  cases step with
  | change change =>
    simp only [take, Change.made?_withLimit]
    cases change.made? context <;> rfl
  | lookup key =>
    have same : (context.withLimit limit).scopes = context.scopes := rfl
    simp only [take, same]
    cases context.scopes.find? key <;> rfl
  | counter name => rfl
  | ask title initial => rfl
  | notify title body => rfl
  | fetch locator => rfl

/-- A step is taken alike under both limits. -/
theorem Step.take_alike_withLimit {α : Type} (services : Services State) {limit : Nat}
    {low high : Context State} (alike : (low.withLimit limit).Alike high) (step : Step α) :
    (step.take services high).1 = (step.take services low).1 ∧
      ((step.take services low).2.withLimit limit).Alike (step.take services high).2 := by
  have taken : (step.take services high).1 = (step.take services (low.withLimit limit)).1 ∧
      (step.take services (low.withLimit limit)).2.Alike (step.take services high).2 :=
    Step.take_alike alike step
  rw [Step.take_withLimit] at taken
  exact taken

/-! ## Histories only grow -/

/-- The history behind an expansion begins with the history before it. -/
def Extending (history : State → List Item) (before after : Context State) : Prop :=
  history before.prompt <+: history after.prompt

/-- Where nothing is asked or told, the history is as before. -/
theorem Extending.of_prompt_eq {history : State → List Item} {before after : Context State}
    (unasked : after.prompt = before.prompt) : Extending history before after :=
  ⟨[], by rw [unasked, List.append_nil]⟩

section

variable {services : Services State} {history : State → List Item}

/-- At every level, an expansion adds to the history of the prompt. -/
theorem extending_ofTextWithin (records : services.prompt.Records history) (levels : Nat)
    (text : Text) (bindings : List Macro) (origin : Origin) :
    Keeps (Extending history) (ofTextWithin services levels text bindings origin) :=
  along_ofTextWithin records.follows levels text bindings origin

/-- One member of a uniform family, on its own. -/
theorem Uniform.member {Index α : Type} {inner : Index → Expander State}
    {fails : (Index → Failure) → Prop} {family : Index → Expansion State α}
    (uniform : Uniform services inner fails family) (index : Index) :
    Uniform services (fun _ : Unit => inner index) (fun _ => True) fun _ => family index := by
  induction uniform with
  | pure value => exact .pure value
  | fail failure allowed => exact .fail _ trivial
  | note entry ordinary => exact .note entry ordinary
  | step step permitted => exact .step step permitted
  | expand text bindings origin => exact .expand text bindings origin
  | bind before after hypothesis hypotheses => exact .bind hypothesis hypotheses

/-! ## Two limits -/

/-- How an expansion under a limit ends, next to the same expansion under a higher one. -/
inductive Outgrows (history : State → List Item) (raised : Nat) {α : Type}
    (low high : EStateM.Result Failure (Context State) α) : Prop
  /-- Both succeed with one value. -/
  | success (value : α) (later final : Context State) (alike : (later.withLimit raised).Alike final)
    (ended : low = .ok value later) (reached : high = .ok value final)
  /-- Both fail with one failure. -/
  | failure (failure : Failure) (later final : Context State)
    (alike : (later.withLimit raised).Alike final) (ended : low = .error failure later)
    (reached : high = .error failure final)
  /-- The lower one is refused a level, when it has asked and told what the higher one begins
  with. -/
  | refused (failure : Failure) (limit : Nat) (later : Context State)
    (cause : failure.cause = .recursionLimit limit) (ended : low = .error failure later)
    (extending : Extending history later (contextOf high))

/-- Where the lower one succeeds, so does the higher one. -/
theorem Outgrows.of_ok {α : Type} {raised : Nat} {value : α} {later : Context State}
    {high : EStateM.Result Failure (Context State) α}
    (outgrows : Outgrows history raised (.ok value later) high) :
    ∃ final, (later.withLimit raised).Alike final ∧ high = .ok value final := by
  cases outgrows with
  | success _ _ final alike ended reached =>
    cases ended
    exact ⟨final, alike, reached⟩
  | failure _ _ _ _ ended _ => cases ended
  | refused _ _ _ _ ended _ => cases ended

/-- Where the lower one fails and is not refused a level, the higher one fails too. -/
theorem Outgrows.of_error {α : Type} {raised : Nat} {failure : Failure} {later : Context State}
    {high : EStateM.Result Failure (Context State) α}
    (outgrows : Outgrows history raised (.error failure later) high)
    (other : ∀ limit, failure.cause ≠ .recursionLimit limit) :
    ∃ final, (later.withLimit raised).Alike final ∧ high = .error failure final := by
  cases outgrows with
  | success _ _ _ _ ended _ => cases ended
  | failure _ _ final alike ended reached =>
    cases ended
    exact ⟨final, alike, reached⟩
  | refused _ limit _ cause ended _ =>
    cases ended
    exact absurd cause (other limit)

/-- However the lower one ends, its history begins that of the higher one. -/
theorem Outgrows.extending {α : Type} {raised : Nat}
    {low high : EStateM.Result Failure (Context State) α}
    (outgrows : Outgrows history raised low high) :
    Extending history (contextOf low) (contextOf high) := by
  cases outgrows with
  | success value later final alike ended reached =>
    rw [ended, reached]
    exact .of_prompt_eq alike.prompt
  | failure failure later final alike ended reached =>
    rw [ended, reached]
    exact .of_prompt_eq alike.prompt
  | refused failure limit later cause ended extending =>
    rw [ended]
    exact extending

/-- When first parts go together up to a refusal, and second parts do behind every success, so do
both. Behind a refusal, the second part can only add to the history. -/
theorem Outgrows.bind {α β : Type} {raised : Nat} {first other : Expansion State α}
    {second further : α → Expansion State β} {low high : Context State}
    (before : Outgrows history raised (first low) (other high))
    (after : ∀ value later final, (later.withLimit raised).Alike final →
      Outgrows history raised (second value later) (further value final))
    (growing : ∀ value, Keeps (Extending history) (further value)) :
    Outgrows history raised ((first >>= second) low) ((other >>= further) high) := by
  cases before with
  | success value later final alike ended reached =>
    rw [bind_of_ok _ ended, bind_of_ok _ reached]
    exact after value later final alike
  | failure failure later final alike ended reached =>
    exact .failure failure later final alike (bind_of_error _ ended) (bind_of_error _ reached)
  | refused failure limit later cause ended extending =>
    refine .refused failure limit later cause (bind_of_error _ ended) ?_
    cases outcome : other high with
    | ok value final =>
      rw [outcome] at extending
      rw [bind_of_ok _ outcome]
      exact extending.trans (growing value final)
    | error failed final =>
      rw [outcome] at extending
      rw [bind_of_error _ outcome]
      exact extending

/-- What goes together inside a fragment goes together outside of it. -/
theorem Outgrows.within {α : Type} {raised : Nat} {expansion other : Expansion State α}
    {bindings : List Macro} {origin : Origin} {low high : Context State}
    (inside : Outgrows history raised (expansion (low.enter bindings origin))
      (other (high.enter bindings origin))) :
    Outgrows history raised (within bindings origin expansion low)
      (within bindings origin other high) := by
  cases inside with
  | success value later final alike ended reached =>
    refine .success value _ _ alike.leave_withLimit ?_ ?_
    · simp only [Expansion.within, ended]
    · simp only [Expansion.within, reached]
  | failure failure later final alike ended reached =>
    refine .failure failure _ _ alike.leave_withLimit ?_ ?_
    · simp only [Expansion.within, ended]
    · simp only [Expansion.within, reached]
  | refused failure limit later cause ended extending =>
    refine .refused failure limit later.leave cause ?_ ?_
    · simp only [Expansion.within, ended]
    · unfold Expansion.within
      cases outcome : other (high.enter bindings origin) with
      | ok value final =>
        rw [outcome] at extending
        exact extending
      | error failed final =>
        rw [outcome] at extending
        exact extending

/-- Two expansions of one form go together up to a refusal, if their nested texts do. -/
theorem Uniform.outgrows {α : Type} {raised : Nat} {inner : Bool → Expander State}
    {family : Bool → Expansion State α} (uniform : Uniform services inner Shared family)
    (records : services.prompt.Records history)
    (nested : ∀ text bindings origin (low high : Context State),
      (low.withLimit raised).Alike high → Outgrows history raised
        (inner false text bindings origin low) (inner true text bindings origin high))
    (growing : ∀ text bindings origin,
      Keeps (Extending history) (inner true text bindings origin))
    (low high : Context State) (alike : (low.withLimit raised).Alike high) :
    Outgrows history raised (family false low) (family true high) := by
  induction uniform generalizing low high with
  | pure value => exact .success value low high alike rfl rfl
  | fail failure allowed =>
    obtain ⟨common, rfl⟩ := allowed
    exact .failure common low high alike rfl rfl
  | note entry ordinary =>
    have noted : ((low.note entry).withLimit raised).Alike (high.note entry) :=
      ⟨alike.scopes, alike.counters, alike.depth, alike.prompt⟩
    exact .success () _ _ noted rfl rfl
  | step step permitted =>
    obtain ⟨value, later⟩ := Step.take_alike_withLimit services alike step
    refine .success _ _ _ later rfl ?_
    rw [← value]
    rfl
  | expand text bindings origin => exact nested text bindings origin low high alike
  | bind before after hypothesis hypotheses =>
    exact (hypothesis low high alike).bind hypotheses fun value =>
      ((after value).member true).along records.follows growing

/-- With some levels, and with more levels under a higher limit, a text is expanded alike up to a
refusal. -/
theorem outgrows_ofTextWithin (records : services.prompt.Records history)
    (raised extra levels : Nat) (text : Text) (bindings : List Macro) (origin : Origin)
    (low high : Context State) (alike : (low.withLimit raised).Alike high) :
    Outgrows history raised (ofTextWithin services levels text bindings origin low)
      (ofTextWithin services (levels + extra) text bindings origin high) := by
  induction levels generalizing text bindings origin low high with
  | zero =>
    -- Here the lower limit refuses the text, and the higher one goes on from the same history.
    refine .refused _ low.depth.limit low rfl rfl ?_
    have further := extending_ofTextWithin records (0 + extra) text bindings origin high
    exact (Extending.of_prompt_eq alike.prompt).trans further
  | succ levels hypothesis =>
    have uniform : Uniform services
        (fun higher => ofTextWithin services (cond higher (levels + extra) levels)) Shared
        fun higher => ofFragment services
          (ofTextWithin services (cond higher (levels + extra) levels)) ⟨origin, text⟩ :=
      .ofFragment shared ⟨origin, text⟩
    have inside := uniform.outgrows records hypothesis
      (extending_ofTextWithin records (levels + extra)) (low.enter bindings origin)
      (high.enter bindings origin) (alike.enter_withLimit bindings origin)
    have further : levels + 1 + extra = levels + extra + 1 := Nat.add_right_comm levels 1 extra
    rw [further]
    exact inside.within

end

/-- Under a higher limit, a text that was not refused a level is expanded to the same output or to
the same failure, and the contexts behind it differ in the limit and the journal at most. A text
that was refused a level had asked and told the user what is asked and told at first under the
higher limit: whatever history the prompt keeps, the shorter one begins the longer. The retriever
answers by the locator alone, so it answers alike under both limits. -/
theorem ofText_withLimit (services : Services State) (text : Text) (bindings : List Macro)
    (origin : Origin) (context : Context State) {raised : Nat}
    (higher : context.depth.limit ≤ raised) :
    (∀ output later, ofText services text bindings origin context = .ok output later →
      ∃ final, (later.withLimit raised).Alike final ∧
        ofText services text bindings origin (context.withLimit raised) = .ok output final) ∧
    (∀ failure later, ofText services text bindings origin context = .error failure later →
      (∀ limit, failure.cause ≠ .recursionLimit limit) →
      ∃ final, (later.withLimit raised).Alike final ∧
        ofText services text bindings origin (context.withLimit raised) =
          .error failure final) ∧
    (∀ failure later limit, ofText services text bindings origin context = .error failure later →
      failure.cause = .recursionLimit limit →
      ∀ {Item : Type} (history : State → List Item), services.prompt.Records history →
        history later.prompt <+:
          history (contextOf (ofText services text bindings origin
            (context.withLimit raised))).prompt) := by
  obtain ⟨extra, more⟩ : ∃ extra, (context.withLimit raised).depth.remaining =
      context.depth.remaining + extra := by
    refine Nat.exists_eq_add_of_le ?_
    change context.depth.limit - context.depth.level ≤ raised - context.depth.level
    omega
  have low : ofText services text bindings origin context =
      ofTextWithin services context.depth.remaining text bindings origin context := rfl
  have high : ofText services text bindings origin (context.withLimit raised) =
      ofTextWithin services (context.depth.remaining + extra) text bindings origin
        (context.withLimit raised) := by
    rw [← more]
    rfl
  have together := fun {Item : Type} (history : State → List Item)
      (records : services.prompt.Records history) =>
    outgrows_ofTextWithin records raised extra context.depth.remaining text bindings origin context
      (context.withLimit raised) (.refl _)
  rw [← low, ← high] at together
  have silent : services.prompt.Records fun _ => ([] : List Unit) :=
    ⟨fun _ _ _ => List.prefix_refl _, fun _ _ _ => List.prefix_refl _⟩
  refine ⟨fun output later outcome => ?_, fun failure later outcome other => ?_,
    fun failure later limit outcome _ Item history records => ?_⟩
  · have ended := together _ silent
    rw [outcome] at ended
    exact ended.of_ok
  · have ended := together _ silent
    rw [outcome] at ended
    exact ended.of_error other
  · have ended := (together history records).extending
    rw [outcome] at ended
    exact ended

/-- Three texts under a limit of three and a limit of four: one that succeeds, one that fails for
another reason, and a call of a macro that asks, tells and calls itself. The call is refused a level
under both limits. A script records a question and a message under the first, and two of each under
the second. -/
theorem ofText_withLimit_script :
    let services : Services Script := ⟨[], Script.prompt, .offline⟩
    let caller : Macro := .constant ['g'] ("\\|input text(\\!q!\\,\\!i!\\)|\\" ++
      "\\|send message(\\!t!\\,\\!b!\\)|\\\\|g|\\").toList
    let low : Context Script := ⟨⟨[⟨[caller]⟩]⟩, .empty, .ofLimit 3, .ofReplies [], #[]⟩
    let expanded := fun (text : Text) context => ofText services text [] (.body []) context
    let line : Text := "\\|new line|\\".toList
    let unknown : Text := "\\|h|\\".toList
    let call : Text := "\\|g|\\".toList
    let further := (contextOf (expanded call (low.withLimit 4))).prompt
    low.depth.limit ≤ 4 ∧
    (∃ later final, expanded line low = .ok ['\n'] later ∧ (later.withLimit 4).Alike final ∧
      expanded line (low.withLimit 4) = .ok ['\n'] final) ∧
    (∃ failure later final, failure.cause = .macroNotFound ['h'] 0 ∧
      expanded unknown low = .error failure later ∧ (later.withLimit 4).Alike final ∧
      expanded unknown (low.withLimit 4) = .error failure final) ∧
    ∃ failure later, failure.cause = .recursionLimit 3 ∧
      expanded call low = .error failure later ∧
      later.prompt.asked = [(['q'], ['i'])] ∧ later.prompt.notified = [(['t'], ['b'])] ∧
      further.asked = [(['q'], ['i']), (['q'], ['i'])] ∧
      further.notified = [(['t'], ['b']), (['t'], ['b'])] ∧
      later.prompt.asked <+: further.asked ∧ later.prompt.notified <+: further.notified := by
  intro services caller low expanded line unknown call further
  have raised : low.depth.limit ≤ 4 := by decide
  have under (text : Text) := ofText_withLimit services text [] (.body []) low raised
  refine ⟨raised, ?_, ?_, ?_⟩
  · have valued : valueOf? (expanded line low) = some ['\n'] := by decide +kernel
    obtain ⟨later, success⟩ := eq_ok_of_valueOf? valued
    obtain ⟨final, alike, again⟩ := (under line).1 _ later success
    exact ⟨later, final, success, alike, again⟩
  · let missing : Failure := ⟨.macroNotFound ['h'] 0, ⟨.body [], unknown⟩, ⟨0, 5⟩⟩
    have failed : failureOf? (expanded unknown low) = some missing := by decide +kernel
    obtain ⟨later, failure⟩ := eq_error_of_failureOf? failed
    obtain ⟨final, alike, again⟩ := (under unknown).2.1 _ later failure nofun
    exact ⟨missing, later, final, rfl, failure, alike, again⟩
  · let refused : Failure :=
      ⟨.recursionLimit 3, ⟨.parameter 1 Primitive.inputText.name, ['q']⟩, ⟨0, 1⟩⟩
    have failed : failureOf? (expanded call low) = some refused := by decide +kernel
    have shown : (contextOf (expanded call low)).prompt.asked = [(['q'], ['i'])] ∧
        (contextOf (expanded call low)).prompt.notified = [(['t'], ['b'])] := by decide +kernel
    have more : further.asked = [(['q'], ['i']), (['q'], ['i'])] ∧
        further.notified = [(['t'], ['b']), (['t'], ['b'])] := by decide +kernel
    obtain ⟨later, failure⟩ := eq_error_of_failureOf? failed
    rw [failure] at shown
    obtain ⟨-, -, begins⟩ := under call
    exact ⟨refused, later, rfl, failure, shown.1, shown.2, more.1, more.2,
      begins refused later 3 failure rfl Script.asked Script.records_asked,
      begins refused later 3 failure rfl Script.notified Script.records_notified⟩

end Expansion
end TextMacros
