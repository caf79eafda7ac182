import Mathlib.Data.Prod.Lex
import TextMacros.Proofs.Expansion.Run

/-!
# The recursion of an expansion

The expansion of a text leads to other tasks: to the fragment of the text at each of its places, to
the rounds of a loop in an invocation, and to nested texts. Here the recursion is written with no
bound on it at all: one step of it performs a task and leaves every further task to an interpreter
(`recur`). Its guard is the depth, which refuses a text that is nested too deeply.

The expansion with its bound is such an interpreter, and answers for itself (`recur_bounded`). A
task at a context has a measure: the levels that are left, then the text that has not been read,
then the rounds that remain.
-/

namespace TextMacros

open Token

namespace Expansion

variable {State : Type}

/-! ## Tasks -/

/-- One round of a loop in an invocation: a text, and perhaps a pattern that is expanded next, with
the value of the text as the current item. -/
structure Round where
  /-- The text. -/
  text : Text
  /-- Where the text comes from. -/
  origin : Origin
  /-- The pattern and where it comes from, if there is one. -/
  pattern : Option (Text × Origin)

/-- Performs one round, with an expander for nested texts. -/
def Round.expand (expand : Expander State) (round : Round) : Expansion State Text := do
  let value ← expand round.text [] round.origin
  match round.pattern with
  | none => return value
  | some (pattern, origin) => expand pattern [.constant itemName value] origin

/-- A round without a pattern expands its text. -/
@[simp] theorem Round.expand_alone (expand : Expander State) (text : Text) (origin : Origin) :
    Round.expand expand ⟨text, origin, none⟩ = expand text [] origin := bind_pure _

/-- What the recursion is asked to do, by the value that it yields. -/
inductive Task : Type → Type
  /-- Expands a text in a scope of its own. -/
  | text (text : Text) (bindings : List Macro) (origin : Origin) : Task Text
  /-- Expands a fragment from a place on. -/
  | place (fragment : Fragment) (cursor : Cursor) : Task Text
  /-- Performs the rounds that remain of a loop in the invocation before a place. -/
  | loop (behind : Cursor) (rounds : List Round) : Task (List Text)

/-- A way to perform every task. -/
@[ext]
structure Interpreter (State : Type) where
  /-- What is done for a task. -/
  answer : {α : Type} → Task α → Expansion State α

/-- The way an interpreter expands texts. -/
def Interpreter.expander (interpreter : Interpreter State) : Expander State :=
  fun text bindings origin => interpreter.answer (.text text bindings origin)

/-! ## One step of the recursion -/

section

variable (services : Services State) (interpreter : Interpreter State) (behind : Cursor)

/-- The rounds of a call for each item. -/
def itemRounds (site : Site) (items : List Text) (pattern : Text) : List Round :=
  items.zipIdx.map fun (item, index) =>
    ⟨item, site.parameter (index + 1), some (pattern, site.parameter (items.length + 1))⟩

/-- The rounds that evaluate the parameters of a macro. -/
def parameterRounds (name : Text) (parameters : List Text) : List Round :=
  parameters.zipIdx.map fun (parameter, index) => ⟨parameter, .parameter (index + 1) name, none⟩

/-- Performs a call of a primitive. Every nested text and every loop is a task. -/
def performBy (site : Site) : Call → Expansion State Text
  | .repetition count body => do
    let count ← site.integer (← interpreter.expander count [] (site.parameter 1))
    if count.value ≤ 0 then
      site.fail (.invalidRepetition count)
    else
      let round : Round := ⟨body, site.parameter 2, none⟩
      List.flatten <$> interpreter.answer (.loop behind (List.replicate count.value.toNat round))
  | .forEach items pattern => do
    List.flatten <$> interpreter.answer (.loop behind (itemRounds site items pattern))
  | call => perform services interpreter.expander site call

/-- Calls a macro of a scope. Its parameters are a loop and its body is a nested text. -/
def callMacroBy (definition : Macro) (parameters : List Text) : Expansion State Text := do
  let values ← interpreter.answer (.loop behind (parameterRounds definition.name parameters))
  interpreter.expander definition.body (List.zipWith Macro.constant definition.parameters values)
    (.body definition.name)

/-- Expands an invocation that ends at a place of its fragment. -/
def resolveBy (fragment : Fragment) (invocation : Invocation) : Expansion State Text := do
  match Primitive.ofName? invocation.name with
  | some primitive => do
    note (.primitiveCalled invocation.name primitive)
    let site : Site := ⟨fragment, invocation, primitive⟩
    match Call.ofParameters? primitive invocation.parameters with
    | some call => performBy services interpreter behind site call
    | none => site.fail (.argumentNumberMismatch primitive invocation.parameters)
  | none => do
    match (← get).scopes.find? ⟨invocation.name, invocation.arity⟩ with
    | some (index, definition) => do
      note (.macroFound invocation.name index)
      callMacroBy interpreter behind definition invocation.parameters
    | none =>
      throw ⟨.macroNotFound invocation.name invocation.arity, fragment, invocation.span⟩

/-- One step of the recursion: performs a task, and leaves every task that this leads to to an
interpreter. -/
def recur : Interpreter State where
  answer
    | .text text bindings origin => fun context =>
      match context.depth.enter? with
      | none =>
        .error ⟨.recursionLimit context.depth.limit, ⟨origin, text⟩, ⟨0, text.size⟩⟩ context
      | some _ =>
        within bindings origin
          (interpreter.answer (.place ⟨origin, text⟩ (Cursor.start text))) context
    | .place fragment cursor =>
      let literal := cursor.unread.takeWhile (· ≠ introducer)
      match cursor.unread.dropWhile (· ≠ introducer) with
      | [] => pure literal
      | _ :: rest =>
        let start := cursor.offset + Text.size literal
        match fragment.readInvocation start ⟨start + introducer.utf8Size, rest⟩ with
        | .error failure _ => throw failure
        | .ok invocation later => do
          note (.recognized fragment.origin invocation.name invocation.arity invocation.span)
          let value ← resolveBy services interpreter later fragment invocation
          let others ← interpreter.answer (.place fragment later)
          return literal ++ value ++ others
    | .loop _ [] => pure []
    | .loop behind (round :: rounds) => do
      let result ← round.expand interpreter.expander
      let results ← interpreter.answer (.loop behind rounds)
      return result :: results

end

/-- The interpreter that is bounded by the levels that are left. -/
def bounded (services : Services State) : Interpreter State where
  answer
    | .text text bindings origin => ofText services text bindings origin
    | .place fragment cursor => runFrom services fragment cursor
    | .loop _ rounds => rounds.mapM (Round.expand (ofText services))

/-! ## The bounded interpreter answers for itself -/

section

variable {services : Services State} {interpreter : Interpreter State} {fragment : Fragment}
  {offset : Nat}

/-- What is done for a text. -/
theorem recur_text {text : Text} {bindings : List Macro} {origin : Origin}
    {context : Context State} :
    (recur services interpreter).answer (.text text bindings origin) context =
      match context.depth.enter? with
      | none => .error ⟨.recursionLimit context.depth.limit, ⟨origin, text⟩, ⟨0, text.size⟩⟩ context
      | some _ =>
        within bindings origin
          (interpreter.answer (.place ⟨origin, text⟩ (Cursor.start text))) context := rfl

/-- A text without introducers is put out as it stands. -/
theorem recur_place_of_plain {text : Text} (plain : introducer ∉ text) :
    (recur services interpreter).answer (.place fragment ⟨offset, text⟩) = pure text := by
  simp only [recur, takeWhile_of_plain plain, dropWhile_of_plain plain]

/-- Behind a plain literal, an invocation is resolved and the place behind it is a task; a broken
one is the end. -/
theorem recur_place_of_introducer {literal : Text} (plain : introducer ∉ literal) (rest : Text) :
    (recur services interpreter).answer
        (.place fragment ⟨offset, literal ++ introducer :: rest⟩) =
      match fragment.readInvocation (offset + literal.size)
        ⟨offset + literal.size + 1, rest⟩ with
      | .error failure _ => throw failure
      | .ok invocation later =>
        note (.recognized fragment.origin invocation.name invocation.arity invocation.span) >>=
          fun _ => resolveBy services interpreter later fragment invocation >>= fun value =>
            interpreter.answer (.place fragment later) >>= fun others =>
              pure (literal ++ value ++ others) := by
  have width : introducer.utf8Size = 1 := rfl
  simp only [recur, takeWhile_plain plain, dropWhile_plain plain, width]

end

section

variable {services : Services State} {behind : Cursor}

/-- A repetition is a loop of equal rounds. -/
theorem times_eq (expand : Expander State) (count : Nat) (text : Text) (origin : Origin) :
    times count (expand text [] origin) =
      List.flatten <$> (List.replicate count ⟨text, origin, none⟩).mapM (Round.expand expand) := by
  have collected : ∀ results, times.collect (expand text [] origin) count results =
      (results.reverse ++ ·) <$>
        (List.replicate count ⟨text, origin, none⟩).mapM (Round.expand expand) := by
    induction count with
    | zero => simp [times.collect]
    | succ remaining hypothesis =>
      intro results
      simp [times.collect, hypothesis, List.replicate_succ]
  simp [times, collected]

theorem performBy_bounded (site : Site) (call : Call) :
    performBy services (bounded services) behind site call =
      perform services (ofText services) site call := by
  cases call with
  | repetition count body =>
    simp only [performBy, perform, times_eq]
    rfl
  | forEach items pattern =>
    simp only [performBy, perform, itemRounds, bounded, List.mapM_map, map_eq_pure_bind]
    rfl
  | _ => rfl

/-- The rounds that evaluate the parameters of a macro expand them in order. -/
theorem loop_parameterRounds (services : Services State) (behind : Cursor) (name : Text)
    (parameters : List Text) :
    (bounded services).answer (.loop behind (parameterRounds name parameters)) =
      parameters.zipIdx.mapM fun (parameter, index) =>
        ofText services parameter [] (.parameter (index + 1) name) := by
  simp only [parameterRounds, bounded, List.mapM_map, Function.comp_def, Round.expand_alone]

theorem callMacroBy_bounded (definition : Macro) (parameters : List Text) :
    callMacroBy (bounded services) behind definition parameters =
      callMacro (ofText services) definition parameters := by
  simp only [callMacroBy, callMacro, loop_parameterRounds]
  rfl

theorem resolveBy_bounded (fragment : Fragment) (invocation : Invocation) :
    resolveBy services (bounded services) behind fragment invocation =
      resolve services (ofText services) fragment invocation := by
  unfold resolveBy
  simp only [performBy_bounded, callMacroBy_bounded]
  rfl

/-- One step of the recursion, with the bounded interpreter for every further task, is what the
bounded interpreter does. -/
theorem recur_bounded (services : Services State) :
    recur services (bounded services) = bounded services := by
  refine Interpreter.ext (funext fun α => funext fun task => funext fun context => ?_)
  cases task with
  | text text bindings origin =>
    change _ = ofText services text bindings origin context
    rw [recur_text, ofText_eq]
    rfl
  | place fragment cursor =>
    obtain ⟨offset, unread⟩ := cursor
    change _ = runFrom services fragment ⟨offset, unread⟩ context
    rcases plain_or_introducer unread with plain | ⟨literal, rest, rfl, plain⟩
    · rw [recur_place_of_plain plain, runFrom_of_plain plain]
    · rw [recur_place_of_introducer plain, runFrom_of_introducer plain]
      simp only [resolveBy_bounded]
      rfl
  | loop behind rounds =>
    cases rounds with
    | nil => rfl
    | cons round rounds =>
      change _ = (round :: rounds).mapM (Round.expand (ofText services)) context
      rw [List.mapM_cons]
      rfl

end

/-! ## The measure -/

/-- A task at a context. -/
structure Point (State : Type) where
  /-- The type of what the task yields. -/
  {Value : Type}
  /-- The task. -/
  task : Task Value
  /-- The context at which the task is begun. -/
  context : Context State

/-- The text that the task has not read. A text of its own counts under the next level. -/
def Task.unread {α : Type} : Task α → Text
  | .text _ _ _ => []
  | .place _ cursor => cursor.unread
  | .loop behind _ => behind.unread

/-- The rounds that remain. -/
def Task.rounds {α : Type} : Task α → List Round
  | .text _ _ _ | .place _ _ => []
  | .loop _ rounds => rounds

namespace Point

/-- What an interpreter answers at a point. -/
def answer (interpreter : Interpreter State) (point : Point State) :
    EStateM.Result Failure (Context State) point.Value :=
  interpreter.answer point.task point.context

/-- How many more fragments may be opened. -/
def levels (point : Point State) : Nat := point.context.depth.remaining

/-- The levels that are left, then the text that has not been read, then the rounds that remain. -/
def measure (point : Point State) : ℕ ×ₗ ℕ ×ₗ ℕ :=
  toLex (point.levels, toLex (point.task.unread.length, point.task.rounds.length))

/-- A point is smaller than another one when a part of its measure is smaller and all parts before
are equal. -/
theorem measure_lt_iff {point other : Point State} :
    point.measure < other.measure ↔
      point.levels < other.levels ∨ point.levels = other.levels ∧
        (point.task.unread.length < other.task.unread.length ∨
          point.task.unread.length = other.task.unread.length ∧
            point.task.rounds.length < other.task.rounds.length) := by
  simp only [measure, Prod.Lex.toLex_lt_toLex]

/-- There is no endless chain of ever smaller points. -/
theorem wellFounded_measure :
    WellFounded fun smaller point : Point State => smaller.measure < point.measure :=
  InvImage.wf measure wellFounded_lt

end Point

end Expansion
end TextMacros
