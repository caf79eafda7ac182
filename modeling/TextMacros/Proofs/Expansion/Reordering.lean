import TextMacros.Proofs.Expansion.Edit
import TextMacros.Proofs.Expansion.Installation
import TextMacros.Proofs.Expansion.Reference

/-!
# Reordered definitions

To put two definitions of a text in the other order is an edit. If they succeed in the one order,
they succeed in the other as well, and leave scopes that hold the same macros. From there on no
expansion tells the two orders apart (`coherent_same`): it enters and leaves fragments, looks macros
up and defines more of them, and scopes that hold the same macros do the same for all of this. So
the runs over both versions end alike (`run_reordered`).
-/

namespace TextMacros

open Token

variable {State : Type}

namespace Context

/-- Two contexts that differ in the order of the macros in their scopes, and in their journals, at
most. -/
structure Reordered (first second : Context State) : Prop extends
    first.Corresponds ScopeStack.Same second where
  /-- Every look-up has the same answer. -/
  answers : ∀ key, first.scopes.find? key = second.scopes.find? key

/-- Scopes that hold the same macros give the same answers. -/
theorem Corresponds.reordered {first second : Context State}
    (same : first.Corresponds ScopeStack.Same second) : first.Reordered second :=
  ⟨same, same.scopes.find?⟩

/-- The journal has no influence on how contexts correspond. -/
theorem Corresponds.of_alike {related : ScopeStack → ScopeStack → Prop}
    {first second first' second' : Context State} (same : first.Corresponds related second)
    (alike : first.Alike first') (alike' : second.Alike second') :
    first'.Corresponds related second' := by
  rw [alike.eq, alike'.eq]
  exact ⟨same.scopes, same.counters, same.depth, same.prompt⟩

end Context

namespace Expansion

/-- Two ends of an expansion that differ in the order of definitions at most. -/
inductive SameUpToOrder : (first second : EStateM.Result Failure (Context State) Text) → Prop
  /-- Both succeed with the same output. -/
  | success (output : Text) {first second : Context State} (same : first.Reordered second) :
    SameUpToOrder (.ok output first) (.ok output second)
  /-- Both fail for the same cause at the same span. -/
  | failure {failure moved : Failure} {first second : Context State}
    (cause : moved.cause = failure.cause) (span : moved.span = failure.span)
    (same : first.Reordered second) :
    SameUpToOrder (.error failure first) (.error moved second)

/-- No part of an expansion tells scopes apart that hold the same macros. -/
theorem coherent_same (services : Services State) :
    Coherent services (Pairwise ScopeStack.Same) where
  toStable := stable_of_indistinct ScopeStack.indistinct_same services
  depth := fun contexts same => by
    refine ⟨(contexts false).depth, fun index => ?_⟩
    cases index with
    | false => rfl
    | true => exact same.depth.symm
  enter := fun bindings origin _ same =>
    same.enter ScopeStack.indistinct_same same.scopes.push bindings origin
  leave := fun _ same => same.leave same.scopes.pop

variable {services : Services State} {edit : Edit}

/-- Behind an edit, runs keep scopes that hold the same macros. -/
theorem carries_same (edit : Edit) (services : Services State) :
    (editBack edit).Carries services (Pairwise ScopeStack.Same) where
  toLasting := (coherent_same services).lasting
  recognized := fun _ _ _ _ _ same => ⟨same.scopes, same.counters, same.depth, same.prompt⟩

/-- Contexts that an edit does not tell apart have the same scopes. -/
theorem BothFollow.same {contexts : Bool → Context State} (follow : BothFollow edit contexts) :
    Pairwise ScopeStack.Same contexts := by
  have alike := follow.follows.toAlike
  rw [Pairwise, alike.eq]
  exact ⟨.refl _, fun _ => rfl, rfl, rfl⟩

/-- A run goes on behind two definitions that are made one after the other, with both macros
added. -/
theorem runFrom_of_both (services : Services State) (fragment : Fragment) (offset : Nat)
    {one other : WrittenDefinition} (rest : Text) {context : Context State}
    {middle later : ScopeStack} (first : one.Installs context.scopes middle)
    (second : other.Installs middle later) :
    Matches
      (runFrom services fragment ⟨offset + (one.text ++ other.text).size, rest⟩
        { context with scopes := later })
      (runFrom services fragment ⟨offset, one.text ++ other.text ++ rest⟩ context) := by
  have inner : other.Installs ({ context with scopes := middle } : Context State).scopes later :=
    second
  have behind := runFrom_of_installs services fragment (offset + one.text.size) rest inner
  rw [Text.size_append, ← Nat.add_assoc, List.append_assoc]
  exact behind.trans (runFrom_of_installs services fragment offset (other.text ++ rest) first)

/-- Where a text of two definitions succeeds, both are made. -/
theorem installs_of_run {origin : Origin} {one other : WrittenDefinition} {output : Text}
    {context later : Context State}
    (success : run services ⟨origin, one.text ++ other.text⟩ context = .ok output later) :
    ∃ middle final, one.Installs context.scopes middle ∧ other.Installs middle final := by
  rw [run_eq_runFrom] at success
  obtain ⟨middle, last, first, behind⟩ := installs_of_runFrom success
  rw [← List.append_nil other.text] at behind
  obtain ⟨final, _, second, -⟩ := installs_of_runFrom behind
  exact ⟨middle, final, first, second⟩

/-- From the definitions on, the runs over both orders agree. -/
theorem agree_runFrom_reordered {origin : Origin} {front back : Text}
    {one other : WrittenDefinition} {contexts : Bool → Context State} {reached : Context State}
    {middle later : ScopeStack} (alike : ∀ edited, reached.Alike (contexts edited))
    (first : one.Installs reached.scopes middle) (second : other.Installs middle later) :
    let edit : Edit := ⟨origin, front, one.text ++ other.text, other.text ++ one.text, back⟩
    Agree (Pairwise ScopeStack.Same) (FailuresMove edit) fun edited =>
      runFrom services (edit.version edited) (pieceStart edit edited) (contexts edited) := by
  intro edit
  obtain ⟨between, final, before, after, same⟩ := first.comm second
  -- The contexts behind the definitions, in the one order and in the other.
  let behind : Bool → Context State := fun edited =>
    { contexts edited with scopes := if edited then final else later }
  have start : Pairwise ScopeStack.Same behind := by
    have counters := (alike true).counters.trans (alike false).counters.symm
    have depth := (alike true).depth.trans (alike false).depth.symm
    have prompt := (alike true).prompt.trans (alike false).prompt.symm
    exact ⟨same, fun name => by rw [counters], depth.symm, prompt.symm⟩
  have goes : ∀ edited, Matches
      (runFrom services (edit.version edited) (pieceEnd edit edited) (behind edited))
      (runFrom services (edit.version edited) (pieceStart edit edited) (contexts edited)) := by
    intro edited
    have opened := (alike edited).scopes
    cases edited with
    | false =>
      rw [← opened] at first
      exact runFrom_of_both services _ _ back first second
    | true =>
      rw [← opened] at before
      exact runFrom_of_both services _ _ back before after
  exact (agree_runFrom_pieceEnd_of_carries (carries_same edit services) behind start).of_matches
    goes fun _ _ kept close => kept.of_alike (close false) (close true)

/-- Runs that agree up to the order of two definitions end alike. -/
theorem sameUpToOrder_of_agree {edit : Edit} (size : edit.new.size = edit.old.size)
    {results : Bool → EStateM.Result Failure (Context State) Text}
    (agree : Agree (Pairwise ScopeStack.Same) (FailuresMove edit) results) :
    SameUpToOrder (results false) (results true) := by
  cases agree with
  | success output later kept outcome =>
    rw [outcome false, outcome true]
    exact .success output kept.reordered
  | failure failure later moves kept outcome =>
    rw [outcome false, outcome true]
    exact .failure moves.cause_eq (moves.span_eq size) kept.reordered

/-- The order of adjacent definitions does not matter. Take a complete front part, two well-formed
definitions, each in the current or in the global scope, and any text behind them. If the
definitions succeed one after the other in the context that the front part leaves, then the runs
over the text with the definitions in the one order and in the other have the same output, or fail
for the same cause at the same span. Behind them the counters and the state of the prompt are the
same, every scope holds the same macros, and every look-up has the same answer. This holds for every
prompt, so also for one that records what it is asked and told, and for every retriever that answers
by the locator alone. Definitions of one identity in one scope never succeed one after the other,
and where only one scope is open it is both the current and the global one. -/
theorem run_reordered (services : Services State) (begun : Context State) (origin : Origin)
    {front back : Text} (complete : Complete front) (one other : WrittenDefinition)
    (succeed : ∀ output reached, run services ⟨origin, front⟩ begun = .ok output reached →
      ∃ value later, run services ⟨origin, one.text ++ other.text⟩ reached = .ok value later) :
    SameUpToOrder (run services ⟨origin, front ++ (one.text ++ other.text) ++ back⟩ begun)
      (run services ⟨origin, front ++ (other.text ++ one.text) ++ back⟩ begun) := by
  let edit : Edit := ⟨origin, front, one.text ++ other.text, other.text ++ one.text, back⟩
  have size : edit.new.size = edit.old.size := by
    change (other.text ++ one.text).size = (one.text ++ other.text).size
    rw [Text.size_append, Text.size_append, Nat.add_comm]
  have agree : Agree (Pairwise ScopeStack.Same) (FailuresMove edit) fun edited =>
      run services (edit.version edited) begun := by
    refine agree_run complete services begun (fun _ follow => follow.same) (fun _ moves => moves) ?_
    intro output reached contexts ran alike _
    obtain ⟨value, later, success⟩ := succeed output reached ran
    obtain ⟨middle, final, first, second⟩ := installs_of_run success
    exact agree_runFrom_reordered alike first second
  exact sameUpToOrder_of_agree size agree

/-- With one open scope, a definition in it and one in the global scope, of one name and different
numbers of parameters. Behind them both macros are called, and the first definition is repeated,
which fails. -/
theorem run_reordered_one_scope :
    let services : Services Unit := ⟨[], .silent, .offline⟩
    let begun : Context Unit := ⟨⟨[.empty]⟩, .empty, .ofLimit 5, (), #[]⟩
    let one : WrittenDefinition :=
      .delimited .current '#' "\\|a|\\=\\!1!\\".toList (by decide)
    let other : WrittenDefinition :=
      .delimited .global '#' "\\|a(\\!x!\\)|\\=\\!2!\\".toList (by decide)
    let back : Text := "\\|a|\\\\|a(\\!3!\\)|\\".toList ++ one.text
    one.text = "\\|define(\\#\\|a|\\=\\!1!\\#\\)|\\".toList ∧ Complete ['x'] ∧
    (∀ output reached, run services ⟨.body [], ['x']⟩ begun = .ok output reached →
      ∃ value later, run services ⟨.body [], one.text ++ other.text⟩ reached = .ok value later) ∧
    SameUpToOrder (run services ⟨.body [], ['x'] ++ (one.text ++ other.text) ++ back⟩ begun)
      (run services ⟨.body [], ['x'] ++ (other.text ++ one.text) ++ back⟩ begun) := by
  intro services begun one other back
  have complete : Complete ['x'] := ⟨[], ['x'], .literal (by decide)⟩
  have succeed : ∀ output reached, run services ⟨.body [], ['x']⟩ begun = .ok output reached →
      ∃ value later, run services ⟨.body [], one.text ++ other.text⟩ reached =
        .ok value later := by
    intro output reached ran
    have front : run services ⟨.body [], ['x']⟩ begun = .ok ['x'] begun :=
      congrFun (run_of_plain (by decide)) begun
    cases front.symm.trans ran
    have valued : valueOf? (run services ⟨.body [], one.text ++ other.text⟩ begun) = some [] := by
      decide +kernel
    obtain ⟨later, success⟩ := eq_ok_of_valueOf? valued
    exact ⟨[], later, success⟩
  exact ⟨by decide, complete, succeed,
    run_reordered services begun (.body []) complete one other succeed⟩

end Expansion
end TextMacros
