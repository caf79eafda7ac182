import TextMacros.Proofs.Expansion.Nesting

/-!
# The journal of an expansion

The journal is only written, and only at its end, so the entries that a text adds do not depend on
those that are there already: one context, seen behind several journals, is one context behind these
journals again when a text has been expanded in it (`coherent_behind`). A relation between journals
that is kept when the same entries are added to all of them is therefore kept by every invocation
(`Extensible.lasting`).
-/

namespace TextMacros

variable {State Index : Type}

namespace Context

/-- The context with more entries in front of its journal. -/
def withEarlier (context : Context State) (earlier : Journal) : Context State :=
  { context with journal := earlier ++ context.journal }

/-- Of two alike contexts, the second is the first one behind the journal of the second. -/
theorem Alike.eq_withEarlier {first second : Context State} (alike : first.Alike second) :
    second = { first with journal := #[] }.withEarlier second.journal := by
  unfold withEarlier
  rw [Array.append_empty]
  exact alike.eq

variable (context : Context State) (earlier : Journal)

/-- A note is added behind the earlier entries. -/
theorem note_withEarlier (entry : Entry) :
    (context.withEarlier earlier).note entry = (context.note entry).withEarlier earlier := by
  simp only [note, withEarlier, Array.append_push]

/-- Entries are added behind the earlier ones. -/
theorem noteAll_withEarlier (entries : List Entry) :
    (context.withEarlier earlier).noteAll entries =
      (context.noteAll entries).withEarlier earlier := by
  have added : earlier ++ context.journal ++ entries = earlier ++ (context.journal ++ entries) := by
    rw [← Array.toList_inj]
    simp only [Array.toList_append, Array.toList_appendList, List.append_assoc]
  simp only [noteAll, withEarlier, added]

/-- A binding is added, or noted behind the earlier entries. -/
theorem bind_withEarlier (origin : Origin) (binding : Macro) :
    (context.withEarlier earlier).bind origin binding =
      (context.bind origin binding).withEarlier earlier := by
  have same : (context.withEarlier earlier).scopes.insertCurrent? binding =
      context.scopes.insertCurrent? binding := rfl
  unfold bind
  rw [same]
  cases context.scopes.insertCurrent? binding with
  | some scopes => rfl
  | none => exact note_withEarlier context earlier _

/-- A fragment is entered behind the earlier entries. -/
theorem enter_withEarlier (bindings : List Macro) (origin : Origin) :
    (context.withEarlier earlier).enter bindings origin =
      (context.enter bindings origin).withEarlier earlier := by
  have bound : ∀ inside : Context State,
      bindings.foldl (Context.bind origin) (inside.withEarlier earlier) =
        (bindings.foldl (Context.bind origin) inside).withEarlier earlier := by
    induction bindings with
    | nil => exact fun _ => rfl
    | cons binding rest hypothesis =>
      intro inside
      rw [List.foldl_cons, List.foldl_cons, bind_withEarlier, hypothesis]
  rw [enter, enter, ← bound]
  simp only [note, withEarlier, pushScope, Array.append_push]

/-- A fragment is left behind the earlier entries. -/
theorem leave_withEarlier :
    (context.withEarlier earlier).leave = context.leave.withEarlier earlier := by
  simp only [leave, note, withEarlier, popScope, Array.append_push]

end Context

namespace Expansion

/-- A step is made behind the earlier entries. -/
theorem Step.take_withEarlier {α : Type} (services : Services State) (context : Context State)
    (earlier : Journal) (step : Step α) :
    step.take services (context.withEarlier earlier) =
      ((step.take services context).1, (step.take services context).2.withEarlier earlier) := by
  cases step with
  | change change =>
    have alike : context.Alike (context.withEarlier earlier) := ⟨rfl, rfl, rfl, rfl⟩
    simp only [take, Change.made?_alike alike]
    cases made : change.made? context with
    | none => rfl
    | some changed =>
      simp only [Option.map_some, Context.withEarlier, Change.journal_of_made? made]
  | lookup key =>
    have same : (context.withEarlier earlier).scopes.find? key = context.scopes.find? key := rfl
    simp only [take, same]
    cases context.scopes.find? key with
    | none => rfl
    | some place =>
      obtain ⟨index, definition⟩ := place
      exact congrArg (some definition, ·) (context.note_withEarlier earlier _)
  | counter name => rfl
  | ask title initial =>
    let answer := services.prompt.ask title initial context.prompt
    have added := { context with prompt := answer.value.2 }.noteAll_withEarlier earlier
      answer.entries
    exact congrArg (answer.value.1, ·) added
  | notify title body =>
    let told := services.prompt.notify title body context.prompt
    have added := { context with prompt := told.value }.noteAll_withEarlier earlier told.entries
    exact congrArg ((), ·) added
  | fetch locator =>
    exact congrArg (_, ·) (context.noteAll_withEarlier earlier _)

/-- One context behind several journals. -/
def Behind (journals : Index → Journal) (contexts : Index → Context State) : Prop :=
  ∃ common : Context State, contexts = fun index => common.withEarlier (journals index)

/-- All parts of an expansion write behind the journals that are there already. -/
theorem coherent_behind (services : Services State) (journals : Index → Journal) :
    Coherent services (Behind journals) where
  note := by
    rintro - entry - ⟨common, rfl⟩
    exact ⟨common.note entry, funext fun index => common.note_withEarlier (journals index) entry⟩
  step := by
    rintro α step - - ⟨common, rfl⟩
    simp only [Step.take_withEarlier]
    exact ⟨⟨_, fun _ => rfl⟩, (step.take services common).2, rfl⟩
  depth := by
    rintro - ⟨common, rfl⟩
    exact ⟨common.depth, fun _ => rfl⟩
  enter := by
    rintro bindings origin - ⟨common, rfl⟩
    exact ⟨common.enter bindings origin,
      funext fun index => common.enter_withEarlier (journals index) bindings origin⟩
  leave := by
    rintro - ⟨common, rfl⟩
    exact ⟨common.leave, funext fun index => common.leave_withEarlier (journals index)⟩

/-- Contexts that differ in their journals alone, with journals in some relation. -/
structure Recorded (matching : (Index → Journal) → Prop) (contexts : Index → Context State) :
    Prop where
  /-- Apart from their journals the contexts are the same. -/
  alike : AllAlike contexts
  /-- The journals are in the relation. -/
  journals : matching fun index => (contexts index).journal

/-- A relation between journals that is kept when the same entries are added to all of them. -/
def Extensible (matching : (Index → Journal) → Prop) : Prop :=
  ∀ journals added, matching journals → matching fun index => journals index ++ added

section

variable {matching : (Index → Journal) → Prop} {contexts : Index → Context State}

/-- Contexts with related journals are one context behind related journals. -/
theorem Recorded.behind (recorded : Recorded matching contexts) :
    ∃ journals, matching journals ∧ Behind journals contexts := by
  obtain ⟨⟨common, same⟩, matched⟩ := recorded
  have split : contexts = fun index =>
      { common with journal := #[] }.withEarlier (contexts index).journal :=
    funext fun index => (same index).eq_withEarlier
  exact ⟨_, matched, _, split⟩

/-- One context behind related journals has related journals. -/
theorem Extensible.recorded (extensible : Extensible matching) {journals : Index → Journal}
    (matched : matching journals) (behind : Behind journals contexts) :
    Recorded matching contexts := by
  obtain ⟨common, rfl⟩ := behind
  exact ⟨⟨common, fun _ => ⟨rfl, rfl, rfl, rfl⟩⟩, extensible journals common.journal matched⟩

/-- Members that agree for given journals agree for related ones. -/
theorem Extensible.agree {α : Type} {fails : (Index → Failure) → Prop}
    {results : Index → EStateM.Result Failure (Context State) α} {journals : Index → Journal}
    (extensible : Extensible matching) (matched : matching journals)
    (agree : Agree (Behind journals) fails results) : Agree (Recorded matching) fails results := by
  cases agree with
  | success value later kept outcome =>
    exact .success value later (extensible.recorded matched kept) outcome
  | failure failure later allowed kept outcome =>
    exact .failure failure later allowed (extensible.recorded matched kept) outcome

/-- Invocations add the same entries to all journals. -/
theorem Extensible.lasting (extensible : Extensible matching) (services : Services State) :
    Lasting services (Recorded matching : (Index → Context State) → Prop) where
  note := by
    intro contexts entry ordinary recorded
    obtain ⟨journals, matched, behind⟩ := recorded.behind
    have noted := (coherent_behind services journals).note contexts entry ordinary behind
    exact extensible.recorded matched noted
  step := by
    intro α step contexts permitted recorded
    obtain ⟨journals, matched, behind⟩ := recorded.behind
    obtain ⟨value, made⟩ := (coherent_behind services journals).step step contexts permitted behind
    exact ⟨value, extensible.recorded matched made⟩
  nested := by
    intro text bindings origin contexts recorded
    obtain ⟨journals, matched, behind⟩ := recorded.behind
    exact extensible.agree matched
      ((coherent_behind services journals).agree_ofText text bindings origin contexts behind)

end

end Expansion
end TextMacros
