import TextMacros.Proofs.Expansion.Reachable
import TextMacros.Proofs.Visibility

/-!
# Scopes and depth in lockstep

Every fragment has a scope and a level of its own, so as many scopes are open as the guard counts
levels, whatever happens in between. This is an invariant of the recursion, so it holds at every
point that is reached from a document (`expandDocument_lockstep`). Inside a fragment a scope is
open, and a definition is refused for one reason only: the scope already holds a macro of its
identity.

Each fragment opens its scope and closes it again on every way out. In the journal the records of
this are brackets, and the record of a scope that is closed has the index of the scope that was
opened (`Bracketed`).
-/

namespace TextMacros

variable {State : Type}

/-- As many scopes are open as the guard counts levels, and no more than the limit. -/
structure Context.Lockstep (limit : Nat) (context : Context State) : Prop where
  /-- Each level has a scope. -/
  scopes : context.scopes.depth = context.depth.level
  /-- The limit is the one of the document. -/
  same : context.depth.limit = limit
  /-- The limit is observed. -/
  within : context.depth.level ≤ limit

namespace Context.Lockstep

variable {limit : Nat} {context : Context State}

/-- What keeps the depth and the number of open scopes keeps the lockstep. -/
theorem of_extends {later : Context State} (lockstep : context.Lockstep limit)
    (extended : context.Extends ScopeStack.Grows later) : later.Lockstep limit where
  scopes := by
    have same : later.scopes.depth = context.scopes.depth := extended.scopes.length_eq
    rw [same, extended.depth]
    exact lockstep.scopes
  same := by
    rw [extended.depth]
    exact lockstep.same
  within := by
    rw [extended.depth]
    exact lockstep.within

/-- Entering a fragment opens a scope and takes a level. -/
theorem enter (lockstep : context.Lockstep limit) (bindings : List Macro) (origin : Origin)
    (admitted : context.depth.enter? ≠ none) : (context.enter bindings origin).Lockstep limit := by
  have entered := context.entered_enter bindings origin
  obtain ⟨current, opened⟩ := entered.scopes
  have one : (context.enter bindings origin).scopes.depth = context.scopes.depth + 1 :=
    congrArg List.length opened
  have level : (context.enter bindings origin).depth.level = context.depth.level + 1 := by
    rw [entered.depth]
    rfl
  have bound : (context.enter bindings origin).depth.limit = context.depth.limit := by
    rw [entered.depth]
    rfl
  have room : context.depth.remaining ≠ 0 := mt Depth.enter?_eq_none.mpr admitted
  have before := lockstep.scopes
  have same := lockstep.same
  unfold Depth.remaining at room
  exact { scopes := by omega, same := by omega, within := by omega }

/-- Leaving a fragment closes a scope and gives a level back. -/
theorem leave (lockstep : context.Lockstep limit) : context.leave.Lockstep limit := by
  have closed : context.leave.scopes.depth = context.scopes.depth - 1 := List.length_tail
  have level : context.leave.depth.level = context.depth.level - 1 := rfl
  have before := lockstep.scopes
  have within := lockstep.within
  exact { scopes := by omega, same := lockstep.same, within := by omega }

end Context.Lockstep

namespace Expansion

variable {services : Services State}

/-- The lockstep of scopes and depth is an invariant, whatever is bound. -/
def lockstep (services : Services State) (limit : Nat) : Invariant services where
  holds := Context.Lockstep limit
  bound := fun _ => True
  steady :=
    { note := fun _ _ holds => ⟨holds.scopes, holds.same, holds.within⟩
      step := by
        intro α step context _ holds
        exact holds.of_extends (Step.extends_take services step context) }
  nothing := trivial
  item := fun _ => trivial
  call := fun _ _ _ => trivial
  enter := fun origin admitted holds _ => holds.enter _ origin admitted
  leave := fun holds => holds.leave

end Expansion

/-! ## The journal -/

/-- The entries that tell of a scope that is opened or closed. -/
def Entry.IsScopeRecord : Entry → Prop
  | .scopePushed _ | .scopePopped _ => True
  | _ => False

/-- The entries that a prompt or a retriever leaves in the journal. -/
def Services.Notes (services : Services State) (entry : Entry) : Prop :=
  (∃ title initial state, entry ∈ (services.prompt.ask title initial state).entries) ∨
  (∃ title body state, entry ∈ (services.prompt.notify title body state).entries) ∨
  ∃ locator, entry ∈ (services.retriever.fetch locator).entries

/-- Entries in which the records of scopes are balanced brackets, where so many scopes are open at
the beginning. A scope that is opened has the number of the scopes outside it as its index, and the
record of its end has the same index. A prompt and a retriever may leave what entries they like. -/
inductive Bracketed (services : Services State) : Nat → List Entry → Prop
  /-- Nothing happened. -/
  | nothing {outside : Nat} : Bracketed services outside []
  /-- Something happened that does not tell of a scope. -/
  | other {outside : Nat} {entry : Entry} {rest : List Entry}
    (unrelated : ¬ entry.IsScopeRecord ∨ services.Notes entry)
    (behind : Bracketed services outside rest) : Bracketed services outside (entry :: rest)
  /-- A scope was opened and closed. -/
  | scope {outside : Nat} {inside rest : List Entry}
    (within : Bracketed services (outside + 1) inside)
    (behind : Bracketed services outside rest) :
    Bracketed services outside (.scopePushed outside :: inside ++ .scopePopped outside :: rest)

namespace Bracketed

variable {services : Services State} {outside : Nat}

/-- What happened in two parts, one after the other. -/
theorem append {first second : List Entry} (before : Bracketed services outside first)
    (after : Bracketed services outside second) :
    Bracketed services outside (first ++ second) := by
  induction before with
  | nothing => exact after
  | other unrelated _ hypothesis => exact .other unrelated (hypothesis after)
  | @scope outside inside rest within _ _ hypothesis =>
    have joined := Bracketed.scope within (hypothesis after)
    simpa using joined

/-- Entries none of which tells of a scope. -/
theorem of_unrelated {entries : List Entry}
    (unrelated : ∀ entry ∈ entries, ¬ entry.IsScopeRecord ∨ services.Notes entry) :
    Bracketed services outside entries := by
  induction entries with
  | nil => exact .nothing
  | cons entry rest hypothesis =>
    have others := hypothesis fun other member =>
      unrelated other (List.mem_cons_of_mem entry member)
    exact .other (unrelated entry List.mem_cons_self) others

end Bracketed

namespace Context

/-- As many scopes are open as before, and what was written to the journal meanwhile is
bracketed. -/
def Records (services : Services State) (before after : Context State) : Prop :=
  after.scopes.depth = before.scopes.depth ∧
    ∃ written, after.journal.toList = before.journal.toList ++ written ∧
      Bracketed services before.scopes.depth written

/-- The journal when a fragment has been entered: its level, its scope, and the bindings that were
left out. -/
theorem journal_enter (bindings : List Macro) (origin : Origin) (context : Context State) :
    ∃ shadowed : List Entry, (∀ entry ∈ shadowed, entry = .bindingShadowed origin) ∧
      (context.enter bindings origin).journal.toList = context.journal.toList ++
        .entered context.depth.deeper.level context.depth.limit ::
          .scopePushed context.scopes.depth :: shadowed := by
  have bound : ∀ (bindings : List Macro) (inside : Context State), ∃ shadowed : List Entry,
      (∀ entry ∈ shadowed, entry = .bindingShadowed origin) ∧
      (bindings.foldl (Context.bind origin) inside).journal.toList =
        inside.journal.toList ++ shadowed := by
    intro bindings
    induction bindings with
    | nil => exact fun inside => ⟨[], by simp, by simp⟩
    | cons binding rest hypothesis =>
      intro inside
      obtain ⟨shadowed, same, written⟩ := hypothesis (inside.bind origin binding)
      rw [List.foldl_cons, written]
      unfold Context.bind
      cases inside.scopes.insertCurrent? binding with
      | some scopes => exact ⟨shadowed, same, rfl⟩
      | none =>
        refine ⟨.bindingShadowed origin :: shadowed, ?_, ?_⟩
        · intro entry member
          rcases List.mem_cons.mp member with rfl | behind
          · rfl
          · exact same entry behind
        · simp [Context.note]
  obtain ⟨shadowed, same, written⟩ := bound bindings (context.enter [] origin)
  refine ⟨shadowed, same, ?_⟩
  show (bindings.foldl (Context.bind origin) (context.enter [] origin)).journal.toList = _
  rw [written]
  simp [Context.enter, Context.pushScope, Context.note, Depth.deeper]

variable {services : Services State} {first second third context : Context State}

theorem Records.refl (context : Context State) : Records services context context :=
  ⟨rfl, [], by simp, .nothing⟩

theorem Records.trans (before : Records services first second)
    (after : Records services second third) : Records services first third := by
  obtain ⟨depth, early, wrote, bracketed⟩ := before
  obtain ⟨depthAfter, late, wroteAfter, bracketedAfter⟩ := after
  rw [depth] at bracketedAfter
  refine ⟨depthAfter.trans depth, early ++ late, ?_, bracketed.append bracketedAfter⟩
  rw [wroteAfter, wrote, List.append_assoc]

/-- What happens inside a fragment is put into brackets when the fragment is left. -/
theorem Records.leave {inside : Context State} (bindings : List Macro) (origin : Origin)
    (records : Records services (context.enter bindings origin) inside) :
    Records services context inside.leave := by
  have entered := context.entered_enter bindings origin
  obtain ⟨current, opened⟩ := entered.scopes
  have one : (context.enter bindings origin).scopes.depth = context.scopes.depth + 1 :=
    congrArg List.length opened
  obtain ⟨depth, written, wrote, bracketed⟩ := records
  obtain ⟨shadowed, same, entering⟩ := journal_enter bindings origin context
  have closed : inside.leave.scopes.depth = inside.scopes.depth - 1 := List.length_tail
  have outside : inside.leave.scopes.depth = context.scopes.depth := by omega
  refine ⟨outside, .entered context.depth.deeper.level context.depth.limit ::
    .scopePushed context.scopes.depth :: (shadowed ++ written) ++
      [.scopePopped context.scopes.depth], ?_, ?_⟩
  · have leaving : inside.leave.journal.toList =
        inside.journal.toList ++ [.scopePopped inside.leave.scopes.depth] := by
      show (inside.journal.push _).toList = _
      simp [Context.leave, Context.popScope, Context.note]
    rw [leaving, wrote, entering, outside]
    simp
  · have silent : Bracketed services (context.scopes.depth + 1) shadowed := by
      apply Bracketed.of_unrelated
      intro entry member
      left
      rw [same entry member]
      exact not_false
    rw [one] at bracketed
    have pair : Bracketed services context.scopes.depth
        (.scopePushed context.scopes.depth :: (shadowed ++ written) ++
          .scopePopped context.scopes.depth :: []) := .scope (silent.append bracketed) .nothing
    exact .other (.inl not_false) pair

end Context

namespace Expansion

variable {services : Services State}

/-- The entries that invocations note themselves do not tell of scopes. -/
theorem not_isScopeRecord_of_debugging {entry : Entry} (ordinary : entry.severity = .debugging) :
    ¬ entry.IsScopeRecord := by
  cases entry with
  | scopePushed index => cases ordinary
  | scopePopped index => cases ordinary
  | _ => exact not_false

/-- One entry that does not tell of a scope. -/
theorem records_note {context : Context State} {entry : Entry}
    (unrelated : ¬ entry.IsScopeRecord) : Context.Records services context (context.note entry) :=
  ⟨rfl, [entry], by simp [Context.note], .other (.inl unrelated) .nothing⟩

/-- A step leaves entries of the prompt and the retriever, or notes the macro that it finds. -/
theorem records_take {α : Type} (services : Services State) (step : Step α)
    (context : Context State) :
    Context.Records services context (step.take services context).2 := by
  have noted : ∀ (prompt : State) (entries : List Entry),
      (∀ entry ∈ entries, services.Notes entry) →
      Context.Records services context ({ context with prompt }.noteAll entries) := by
    intro prompt entries own
    refine ⟨rfl, entries, by simp [Context.noteAll], .of_unrelated fun entry member => ?_⟩
    exact .inr (own entry member)
  cases step with
  | change change =>
    simp only [Step.take]
    split
    · rename_i changed made
      have depth := (Change.extends_of_made? made).scopes.length_eq
      refine ⟨depth, [], ?_, .nothing⟩
      rw [Change.journal_of_made? made, List.append_nil]
    · exact .refl context
  | lookup key =>
    simp only [Step.take]
    split
    · exact records_note (not_isScopeRecord_of_debugging rfl)
    · exact .refl context
  | counter name => exact .refl context
  | ask title initial =>
    exact noted _ _ fun entry member => .inl ⟨_, _, _, member⟩
  | notify title body =>
    exact noted _ _ fun entry member => .inr (.inl ⟨_, _, _, member⟩)
  | fetch locator =>
    exact noted context.prompt _ fun entry member => .inr (.inr ⟨_, member⟩)

/-- What is expanded within a fragment is bracketed. -/
theorem keeps_records_within {expansion : Expansion State Text} (bindings : List Macro)
    (origin : Origin) (keeps : Keeps (Context.Records services) expansion) :
    Keeps (Context.Records services) (within bindings origin expansion) := by
  intro context
  have inside := keeps (context.enter bindings origin)
  unfold within
  cases outcome : expansion (context.enter bindings origin) with
  | ok value later =>
    rw [outcome] at inside
    exact inside.leave bindings origin
  | error failure later =>
    rw [outcome] at inside
    exact inside.leave bindings origin

/-- At every level, the records of scopes are bracketed. -/
theorem keeps_records (services : Services State) (levels : Nat) (text : Text)
    (bindings : List Macro) (origin : Origin) :
    Keeps (Context.Records services) (ofTextWithin services levels text bindings origin) := by
  induction levels generalizing text bindings origin with
  | zero => exact fun context => .refl context
  | succ levels hypothesis =>
    have uniform : Uniform services (fun _ : Unit => ofTextWithin services levels)
        (fun _ => True) fun _ => ofFragment services (ofTextWithin services levels)
          ⟨origin, text⟩ := .ofFragment (fun _ => trivial) ⟨origin, text⟩
    have inside : Keeps (Context.Records services)
        (ofFragment services (ofTextWithin services levels) ⟨origin, text⟩) :=
      uniform.keeps .refl .trans
        (fun _ _ ordinary => records_note (not_isScopeRecord_of_debugging ordinary))
        (records_take services) hypothesis
    exact keeps_records_within bindings origin inside

/-! ## Definitions -/

end Expansion

/-- The scope in which a definition is made. -/
def Region.scope? (stack : ScopeStack) : Region → Option Scope
  | .current => stack.current?
  | .global => stack.global?

namespace ScopeStack

variable {stack : ScopeStack}

/-- Where a scope is open, the current one refuses the identities that it holds and no others. -/
theorem insertCurrent?_eq_none (opened : 1 ≤ stack.depth) (definition : Macro) :
    stack.insertCurrent? definition = none ↔
      ∃ scope, stack.current? = some scope ∧ (scope.find? definition.key).isSome := by
  obtain ⟨scopes⟩ := stack
  cases scopes with
  | nil => exact absurd opened (Nat.not_succ_le_zero 0)
  | cons scope outer =>
    have refused : insertCurrent? ⟨scope :: outer⟩ definition = none ↔
        scope.insert? definition = none := Option.map_eq_none_iff
    rw [refused, Scope.insert?_eq_none]
    constructor
    · exact fun held => ⟨scope, rfl, held⟩
    · rintro ⟨_, ⟨⟩, held⟩
      exact held

/-- Where a scope is open, the global one refuses the identities that it holds and no others. -/
theorem insertGlobal?_eq_none (opened : 1 ≤ stack.depth) (definition : Macro) :
    stack.insertGlobal? definition = none ↔
      ∃ scope, stack.global? = some scope ∧ (scope.find? definition.key).isSome := by
  have some_open : stack.scopes ≠ [] := List.ne_nil_of_length_pos opened
  have refused : stack.insertGlobal? definition = none ↔
      insertOutermost? definition stack.scopes = none := Option.map_eq_none_iff
  rw [refused, insertOutermost?_eq_none some_open]
  show (stack.globalMacro? definition.key).isSome = true ↔ _
  unfold globalMacro?
  cases stack.global? with
  | none => simp
  | some scope => simp

end ScopeStack

namespace Expansion

variable {services : Services State}

/-- A definition that is refused as a duplicate is one: the scope it should go to holds a macro of
this identity. -/
theorem held_of_duplicateMacro (services : Services State) {expand : Expander State}
    {site : Site} {region : Region} {written : Text} {context later : Context State}
    (opened : 1 ≤ context.scopes.depth) {name : Text} {arity : Nat} {refusing : Region}
    {fragment : Fragment} {span : Span}
    (failed : perform services expand site (.define region written) context =
      .error ⟨.duplicateMacro name arity refusing, fragment, span⟩ later) :
    refusing = region ∧
      ∃ scope, region.scope? context.scopes = some scope ∧ (scope.find? ⟨name, arity⟩).isSome := by
  rw [perform_define] at failed
  cases outcome : Macro.ofDefinition ⟨site.parameter 1, written⟩ with
  | error failure =>
    obtain ⟨fault, place, malformed⟩ := Macro.malformed_of_ofDefinition outcome
    rw [outcome] at failed
    cases failed
    cases malformed
  | ok definition =>
    let noted := context.note
      (.definitionRead definition.name definition.parameters definition.body.size)
    have step : (note (.definitionRead definition.name definition.parameters
        definition.body.size) : Expansion State Unit) context = .ok () noted := rfl
    rw [outcome] at failed
    dsimp only at failed
    rw [bind_of_ok _ step] at failed
    have change := changeOrFail_apply services site
      (.duplicateMacro definition.name definition.arity region) (.define region definition) noted
    cases made : (Change.define region definition).made? noted with
    | some changed =>
      rw [made] at change
      rw [bind_of_ok _ change] at failed
      cases failed
    | none =>
      rw [made] at change
      rw [bind_of_error _ change] at failed
      injection failed with failures
      cases failures
      refine ⟨rfl, ?_⟩
      cases region with
      | current =>
        have refused : context.scopes.insertCurrent? definition = none :=
          Option.map_eq_none_iff.mp made
        exact (ScopeStack.insertCurrent?_eq_none opened definition).mp refused
      | global =>
        have refused : context.scopes.insertGlobal? definition = none :=
          Option.map_eq_none_iff.mp made
        exact (ScopeStack.insertGlobal?_eq_none opened definition).mp refused

section

variable {limit opened : Nat} {start point : Point State}

/-- From outside all fragments, every fragment that is opened on the way takes a level. -/
theorem Reaches.opened_le_level (reaches : Reaches services start opened point)
    (begins : start.Meets (lockstep services limit)) (outside : start.context.depth.level = 0) :
    opened ≤ point.context.depth.level := by
  have taken : point.context.depth.limit - point.context.depth.level + opened ≤
      start.context.depth.limit - start.context.depth.level := reaches.levels_le
  have before : start.context.Lockstep limit := begins.1
  have after : point.context.Lockstep limit := (reaches.meets _ begins).1
  have same := before.same
  have still := after.same
  have within := after.within
  omega

/-- Beyond a text that is begun outside all fragments, a scope is open. -/
theorem Reaches.inside (reaches : Reaches services start opened point)
    (begins : start.Meets (lockstep services limit)) (outside : start.context.depth.level = 0)
    (text : 0 < start.task.opens) :
    point = start ∨ (point.context.Lockstep limit ∧ 1 ≤ point.context.depth.level) := by
  rcases reaches.opened_pos text with same | some
  · exact .inl same
  · have level : 1 ≤ point.context.depth.level :=
      le_trans some (reaches.opened_le_level begins outside)
    exact .inr ⟨(reaches.meets _ begins).1, level⟩

/-- Where an invocation is resolved, a scope is open. -/
theorem Resolves.inside {fragment : Fragment} {invocation : Invocation} {context : Context State}
    (resolves : Resolves services start fragment invocation context)
    (begins : start.Meets (lockstep services limit)) (outside : start.context.depth.level = 0)
    (text : 0 < start.task.opens) :
    context.Lockstep limit ∧ 1 ≤ context.depth.level := by
  obtain ⟨reaches, -, -⟩ := resolves
  rcases reaches.inside begins outside text with same | ⟨holds, level⟩
  · -- A place opens no fragment, so it is not the text that was begun with.
    rw [← same] at text
    exact absurd text (Nat.lt_irrefl 0)
  · exact ⟨⟨holds.scopes, holds.same, holds.within⟩, level⟩

end

end Expansion

/-- The records of scopes in the journal of a document are balanced brackets. -/
theorem bracketed_expandDocument (settings : Settings) (prompt : Prompt State)
    (retriever : Retriever) (document : Text) (state : State) (journal : Journal) :
    ∃ written, (expandDocument settings prompt retriever document state journal).journal.toList =
      journal.toList ++ written ∧
      Bracketed ⟨settings.pageMarker, prompt, retriever⟩ 0 written := by
  let services : Services State := ⟨settings.pageMarker, prompt, retriever⟩
  let initial := Context.initial settings.maxDepth state journal
  let begun := initial.note (.expanding settings.sourceName document.size)
  have noted : Context.Records services initial begun := Expansion.records_note not_false
  have expanded : Context.Records services begun (Expansion.contextOf (Expansion.ofText services
      document [] (.labelled settings.sourceName) begun)) :=
    Expansion.keeps_records services _ document [] _ begun
  have finished : ∀ context size, Context.Records services initial context →
      Context.Records services initial (context.note (.expanded settings.sourceName size)) :=
    fun context size before => before.trans (Expansion.records_note not_false)
  obtain ⟨last, recorded, same⟩ := journal_expandDocument (noted.trans expanded) finished
  rw [same]
  exact recorded.2

/-- In every run of a document, scopes and depth move in lockstep. At every point that is reached
but the document itself, and in every fragment that is entered, as many scopes are open as the guard
counts levels, at least one and at most the limit. The same holds when the handler of a primitive
runs. So an insertion into the current or the global scope is refused only if that scope holds a
macro of the same name and arity, and no definition is refused as a duplicate that is none. Over the
whole run, the records of scopes in the journal are balanced brackets. -/
theorem expandDocument_lockstep (settings : Settings) (prompt : Prompt State)
    (retriever : Retriever) (document : Text) (state : State) (journal : Journal) :
    let services : Services State := ⟨settings.pageMarker, prompt, retriever⟩
    let begun := (Context.initial settings.maxDepth state journal).note
      (.expanding settings.sourceName document.size)
    let start : Expansion.Point State :=
      ⟨.text document [] (.labelled settings.sourceName), begun⟩
    let Inside (context : Context State) : Prop :=
      context.Lockstep settings.maxDepth ∧ 1 ≤ context.depth.level
    (∀ opened point, Expansion.Reaches services start opened point →
      point = start ∨ Inside point.context) ∧
    (∀ opened text bindings origin context,
      Expansion.Reaches services start opened ⟨.text text bindings origin, context⟩ →
      context.depth.enter? ≠ none → Inside (context.enter bindings origin)) ∧
    (∀ fragment invocation context primitive call,
      Expansion.Resolves services start fragment invocation context →
      Primitive.ofName? invocation.name = some primitive →
      Call.ofParameters? primitive invocation.parameters = some call →
      let running := context.note (.primitiveCalled invocation.name primitive)
      Inside running ∧
      (∀ definition, running.scopes.insertCurrent? definition = none ↔
        ∃ scope, running.scopes.current? = some scope ∧ (scope.find? definition.key).isSome) ∧
      (∀ definition, running.scopes.insertGlobal? definition = none ↔
        ∃ scope, running.scopes.global? = some scope ∧ (scope.find? definition.key).isSome) ∧
      ∀ name arity region source span later,
        Expansion.perform services (Expansion.ofText services) ⟨fragment, invocation, primitive⟩
          call running = .error ⟨.duplicateMacro name arity region, source, span⟩ later →
        ∀ target written, call = .define target written →
        region = target ∧ ∃ scope, target.scope? running.scopes = some scope ∧
          (scope.find? ⟨name, arity⟩).isSome) ∧
    ∃ written, (expandDocument settings prompt retriever document state journal).journal.toList =
      journal.toList ++ written ∧ Bracketed services 0 written := by
  intro services begun start Inside
  let lockstep := Expansion.lockstep services settings.maxDepth
  have begins : start.Meets lockstep := ⟨⟨rfl, rfl, Nat.zero_le _⟩, trivial⟩
  refine ⟨?_, ?_, ?_, ?_⟩
  · intro opened point reaches
    exact reaches.inside begins rfl Nat.one_pos
  · intro opened text bindings origin context reaches admitted
    have holds : context.Lockstep settings.maxDepth := (reaches.meets lockstep begins).1
    have level : (context.enter bindings origin).depth.level = context.depth.level + 1 := by
      rw [(context.entered_enter bindings origin).depth]
      rfl
    exact ⟨holds.enter bindings origin admitted, by omega⟩
  · intro fragment invocation context primitive call resolves called accepted running
    have inside : Inside context := resolves.inside begins rfl Nat.one_pos
    have opened : 1 ≤ running.scopes.depth := by
      have depth : context.scopes.depth = context.depth.level := inside.1.scopes
      have level : 1 ≤ context.depth.level := inside.2
      show 1 ≤ context.scopes.depth
      omega
    refine ⟨⟨⟨inside.1.scopes, inside.1.same, inside.1.within⟩, inside.2⟩, ?_, ?_, ?_⟩
    · exact ScopeStack.insertCurrent?_eq_none opened
    · exact ScopeStack.insertGlobal?_eq_none opened
    · rintro name arity region source span later failed target written rfl
      exact Expansion.held_of_duplicateMacro services opened failed
  · exact bracketed_expandDocument settings prompt retriever document state journal

end TextMacros
