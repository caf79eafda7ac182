import Mathlib.Logic.Function.Iterate
import TextMacros.Proofs.Expansion.Formal

/-!
# Cycles of calls

Macros without parameters that call each other in a cycle, each of them before anything else in its
body can fail or make a change. A call of one of them opens one fragment after another, and none of
these puts anything out, so the call can end in one way only: the limit of nesting refuses a
fragment. The refusal is handed through all the fragments that are open, and each of them is left
again (`resolve_cycle`).

The induction is on the number of levels that are left. What carries it is that a fragment opens an
empty scope, which hides none of the macros.
-/

namespace TextMacros

open Token

/-- Macros without parameters that call each other in a cycle. Each body is a plain literal, an
invocation of the next macro, in any spelling, and any text. -/
structure CallCycle where
  /-- The number of the macros, apart from the first. -/
  others : Nat
  /-- The names of the macros. -/
  name : Fin (others + 1) → Text
  /-- The text of each body in front of the call. -/
  front : Fin (others + 1) → Text
  /-- The name that each body calls, as it is written there. -/
  written : Fin (others + 1) → Text
  /-- The call in each body, behind its introducer. -/
  spelling : Fin (others + 1) → Text
  /-- The text of each body behind the call. -/
  back : Fin (others + 1) → Text
  /-- No name calls a primitive. -/
  user : ∀ index, Primitive.ofName? (name index) = none
  /-- Nothing is called in front of the call. -/
  plain : ∀ index, introducer ∉ front index
  /-- The call has no parameters. -/
  spelled : ∀ index, SignatureForm (written index) [] (spelling index)
  /-- The call is one of the next macro, and the last macro calls the first one. -/
  next : ∀ index, Name.canonical? (written index) = some (name (index + 1))

namespace CallCycle

variable (cycle : CallCycle)

/-- The body of a macro of the cycle. -/
def body (index : Fin (cycle.others + 1)) : Text :=
  cycle.front index ++ (introducer :: cycle.spelling index ++ cycle.back index)

/-- A macro of the cycle. -/
def definition (index : Fin (cycle.others + 1)) : Macro :=
  .constant (cycle.name index) (cycle.body index)

/-- The macro that is reached from another one with some number of further calls. -/
def reached (index : Fin (cycle.others + 1)) (calls : Nat) : Fin (cycle.others + 1) :=
  (fun index => index + 1)^[calls] index

/-- All macros of the cycle are visible. -/
def VisibleIn (stack : ScopeStack) : Prop :=
  ∀ index, stack.visible? ⟨cycle.name index, 0⟩ = some (cycle.definition index)

/-- The failure of a call at some depth: the body that would lie beyond the limit is refused. -/
def refusal (index : Fin (cycle.others + 1)) (depth : Depth) : Failure :=
  let last := cycle.reached index depth.remaining
  ⟨.recursionLimit depth.limit, ⟨.body (cycle.name last), cycle.body last⟩,
    ⟨0, (cycle.body last).size⟩⟩

variable {cycle}

/-- One fragment deeper, the same body is refused on the way from the next macro. -/
theorem refusal_deeper (index : Fin (cycle.others + 1)) {depth : Depth}
    (left : depth.remaining ≠ 0) :
    cycle.refusal (index + 1) depth.deeper = cycle.refusal index depth := by
  obtain ⟨levels, equal⟩ := Nat.exists_eq_succ_of_ne_zero left
  have deeper : depth.deeper.remaining = levels := by
    rw [Depth.remaining_deeper, equal]
    rfl
  have same : cycle.reached (index + 1) levels = cycle.reached index (levels + 1) := rfl
  unfold refusal
  rw [deeper, equal, same]
  rfl

end CallCycle

namespace Expansion

variable {State : Type} {cycle : CallCycle}

/-- Where the macros of a cycle are visible, a call of one expands its body. -/
theorem matches_resolve_of_cycle (services : Services State) {context : Context State}
    (visible : cycle.VisibleIn context.scopes) (fragment : Fragment) (span : Span)
    (index : Fin (cycle.others + 1)) :
    Matches (ofText services (cycle.body index) [] (.body (cycle.name index)) context)
      (resolve services (ofText services) fragment ⟨cycle.name index, [], span⟩ context) :=
  resolve_of_binding services fragment span (cycle.user index) (visible index)

/-- A run over a plain text and a call ends as the call does, if the call fails. -/
theorem matches_run_of_call (services : Services State) (origin : Origin)
    {context later : Context State} {front written spelling name : Text} {failure : Failure}
    (plain : introducer ∉ front) (spelled : SignatureForm written [] spelling)
    (canonical : Name.canonical? written = some name) (back : Text)
    (failed : ∀ fragment span, Matches (.error failure later)
      (resolve services (ofText services) fragment ⟨name, [], span⟩ context)) :
    Matches (.error failure later)
      (run services ⟨origin, front ++ (introducer :: spelling ++ back)⟩ context) := by
  have ran : run services ⟨origin, front⟩ context = .ok front context :=
    congrFun (run_of_plain plain) context
  have goes : Matches _
      (run services ⟨origin, front ++ (introducer :: spelling ++ back)⟩ context) :=
    run_of_invocation ran spelled canonical rfl
  refine Matches.trans ?_ goes
  obtain ⟨final, alike, refused⟩ := (failed ⟨origin, front ++ (introducer :: spelling ++ back)⟩
    ⟨front.size, 1 + spelling.size⟩).eq_error
  unfold continued
  rw [bind_of_error _ refused]
  exact .error failure alike

/-- The body of a macro of a visible cycle is refused, at whatever depth it is expanded. -/
theorem ofText_of_cycle (services : Services State) {context : Context State}
    (visible : cycle.VisibleIn context.scopes) (index : Fin (cycle.others + 1)) :
    Matches (.error (cycle.refusal index context.depth) context)
      (ofText services (cycle.body index) [] (.body (cycle.name index)) context) := by
  induction remaining : context.depth.remaining generalizing context index with
  | zero =>
    rw [ofText_of_refused (Depth.enter?_eq_none.mpr remaining)]
    unfold CallCycle.refusal
    rw [remaining]
    exact .error _ (.refl context)
  | succ levels hypothesis =>
    have left : context.depth.remaining ≠ 0 := by omega
    let inside := context.enter [] (.body (cycle.name index))
    have deeper : inside.depth.remaining = levels := by
      rw [Context.remaining_enter]
      omega
    have depth : inside.depth = context.depth.deeper := rfl
    -- The scope of the fragment is empty.
    have still : cycle.VisibleIn inside.scopes := visible
    have called : ∀ fragment span, Matches (.error (cycle.refusal (index + 1) inside.depth) inside)
        (resolve services (ofText services) fragment ⟨cycle.name (index + 1), [], span⟩ inside) :=
      fun fragment span => (hypothesis still (index + 1) deeper).trans
        (matches_resolve_of_cycle services still fragment span (index + 1))
    have ended := matches_run_of_call services (.body (cycle.name index)) (cycle.plain index)
      (cycle.spelled index) (cycle.next index) (cycle.back index) called
    rw [depth, CallCycle.refusal_deeper index left] at ended
    obtain ⟨final, alike, refused⟩ := ended.eq_error
    rw [ofText_of_admitted left]
    unfold within
    have refusedBody : run services ⟨.body (cycle.name index), cycle.body index⟩ inside =
      .error (cycle.refusal index context.depth) final := refused
    rw [refusedBody]
    exact .error _ ((context.leave_enter [] _).trans alike.leave)

/-- Unconditional recursion is always caught, and reported as such. Take macros without parameters
that call each other in a cycle of any length, all of them visible. From any context, a call of one
of them fails at the limit of nesting, in any fragment that it stands in and whatever the bodies
hold behind their calls; and so does the run over a text that has nothing but a plain literal in
front of the call. The failure tells the limit of the context and shows the body that was refused.
The scopes, the counters, the depth and the state of the prompt are what they were before the
call. -/
theorem resolve_cycle (services : Services State) (cycle : CallCycle) {context : Context State}
    (visible : cycle.VisibleIn context.scopes) (index : Fin (cycle.others + 1)) :
    (∀ (fragment : Fragment) (span : Span), ∃ final, context.Alike final ∧
      resolve services (ofText services) fragment ⟨cycle.name index, [], span⟩ context =
        .error (cycle.refusal index context.depth) final) ∧
    ∀ (origin : Origin) (front written spelling back : Text), introducer ∉ front →
      SignatureForm written [] spelling → Name.canonical? written = some (cycle.name index) →
      ∃ final, context.Alike final ∧
        run services ⟨origin, front ++ (introducer :: spelling ++ back)⟩ context =
          .error (cycle.refusal index context.depth) final := by
  have refused : ∀ fragment span, Matches (.error (cycle.refusal index context.depth) context)
      (resolve services (ofText services) fragment ⟨cycle.name index, [], span⟩ context) :=
    fun fragment span => (ofText_of_cycle services visible index).trans
      (matches_resolve_of_cycle services visible fragment span index)
  refine ⟨fun fragment span => (refused fragment span).eq_error, ?_⟩
  intro origin front written spelling back plain spelled canonical
  exact (matches_run_of_call services origin plain spelled canonical back refused).eq_error

/-- Two macros in different scopes, each with an invocation behind its call that is never closed.
The first one is called where two of five levels are in use. -/
theorem resolve_cycle_pair :
    let services : Services Unit := ⟨[], .silent, .offline⟩
    let cycle : CallCycle :=
      { others := 1
        name := fun index => if index = 0 then ['a'] else ['b']
        front := fun _ => ['x']
        written := fun index => if index = 0 then ['b'] else ['a']
        spelling := fun index => ['|'] ++ (if index = 0 then ['b'] else ['a']) ++ ['|', introducer]
        back := fun _ => [introducer, '|']
        user := by decide
        plain := by decide
        spelled := fun index => .plain '|' (by decide) (by revert index; decide)
          (by revert index; decide)
        next := by decide }
    let context : Context Unit :=
      ⟨⟨[⟨[cycle.definition 0]⟩, ⟨[cycle.definition 1]⟩]⟩, .empty, ⟨2, 5⟩, (), #[]⟩
    cycle.definition 0 = ⟨['a'], [], "x\\|b|\\\\|".toList⟩ ∧ cycle.VisibleIn context.scopes ∧
    ∃ final, context.Alike final ∧
      run services ⟨.reply [], "y\\|a|\\\\|counter|\\".toList⟩ context =
        .error ⟨.recursionLimit 5, ⟨.body ['b'], "x\\|a|\\\\|".toList⟩, ⟨0, 8⟩⟩ final := by
  intro services cycle context
  have visible : cycle.VisibleIn context.scopes := by
    unfold CallCycle.VisibleIn
    decide
  have spelled : SignatureForm ['a'] [] ['|', 'a', '|', introducer] :=
    .plain '|' (by decide) (by decide) (by decide)
  have refused := (resolve_cycle services cycle visible 0).2 (.reply []) ['y'] ['a'] _
    "\\|counter|\\".toList (by decide) spelled (by decide)
  -- Three levels are left, so the third further call is refused.
  have last : cycle.refusal 0 context.depth =
      ⟨.recursionLimit 5, ⟨.body ['b'], "x\\|a|\\\\|".toList⟩, ⟨0, 8⟩⟩ := by
    decide
  rw [last] at refused
  exact ⟨by decide, visible, refused⟩

end Expansion
end TextMacros
