import TextMacros.Proofs.Expansion.Recursion

/-!
# Invariants of the recursion

One step of the recursion depends on the interpreter at tasks of a smaller measure alone, because
every nested text leaves the levels as they were. It depends on even less. An invariant is a
property of contexts that notes, steps, entering a fragment and leaving it lead to again, together
with a property of the bindings that texts are expanded with. Where a task is begun as the invariant
asks, one step depends on the interpreter at smaller tasks that are begun so as well, and it ends in
a context of the invariant (`Invariant.recur_of_smaller`). By induction on the measure, every task
that is begun in an invariant ends in it (`Invariant.holds_answer`).

With the invariant that says nothing, one step depends on smaller points (`recur_of_smaller`), so
there is one interpreter that answers for itself (`recur_eq_self_iff`).
-/

namespace TextMacros

open Token

namespace Expansion

variable {State : Type}

/-- A property of contexts, and one of the bindings of a text, that the parts of an expansion lead
to again. -/
structure Invariant (services : Services State) where
  /-- The property of contexts. -/
  holds : Context State → Prop
  /-- The property of bindings. -/
  bound : List Macro → Prop
  /-- Notes and steps lead to such contexts. -/
  steady : Steady services holds
  /-- A text may be expanded without bindings. -/
  nothing : bound []
  /-- The item of a loop may be bound to any value. -/
  item : ∀ value, bound [.constant itemName value]
  /-- The formal parameters of a visible macro may be bound to any values. -/
  call : ∀ {context key index definition}, holds context →
    context.scopes.find? key = some (index, definition) →
    ∀ values, bound (List.zipWith Macro.constant definition.parameters values)
  /-- To enter a fragment leads to such a context, if the depth admits the fragment. -/
  enter : ∀ {context bindings} origin, context.depth.enter? ≠ none → holds context →
    bound bindings → holds (context.enter bindings origin)
  /-- To leave a fragment leads to such a context. -/
  leave : ∀ {context}, holds context → holds context.leave

namespace Invariant

/-- The invariant that says nothing. -/
def trivial (services : Services State) : Invariant services where
  holds := fun _ => True
  bound := fun _ => True
  steady := ⟨fun _ _ _ => .intro, fun _ _ _ _ => .intro⟩
  nothing := .intro
  item := fun _ => .intro
  call := fun _ _ _ => .intro
  enter := fun _ _ _ _ => .intro
  leave := fun _ => .intro

variable {services : Services State} (invariant : Invariant services)

/-- A context of an invariant with some levels left. -/
def At (levels : Nat) (context : Context State) : Prop :=
  invariant.holds context ∧ context.depth.remaining = levels

/-- Notes and steps keep an invariant and the levels that are left. -/
theorem steady_at (levels : Nat) : Steady services (invariant.At levels) where
  note := fun entry ordinary here => ⟨invariant.steady.note entry ordinary here.1, here.2⟩
  step := by
    intro α step context permitted here
    have left := (steady_levels services levels).step step permitted here.2
    exact ⟨invariant.steady.step step permitted here.1, left⟩

end Invariant

/-- The bindings of a task are as an invariant asks. Only a text has bindings. -/
def Task.Proper {services : Services State} (invariant : Invariant services) {α : Type} :
    Task α → Prop
  | .text _ bindings _ => invariant.bound bindings
  | .place _ _ | .loop _ _ => True

/-- A point at which a task is begun as an invariant asks. -/
def Point.Meets {services : Services State} (point : Point State)
    (invariant : Invariant services) : Prop :=
  invariant.holds point.context ∧ point.task.Proper invariant

section

variable {services : Services State} {levels : Nat}

/-! ## The depth -/

/-- What is made of notes, steps and nested texts keeps the depth. -/
theorem Uniform.keeps_depth {α : Type} {expansion : Expansion State α}
    (uniform : Uniform services (fun _ : Unit => ofText services) (fun _ => True)
      fun _ => expansion) :
    Keeps (fun before after => after.depth = before.depth) expansion :=
  uniform.keeps (fun _ => rfl) (fun before after => after.trans before) (fun _ _ _ => rfl)
    (fun step context => (Step.extends_take services step context).depth)
    fun text bindings origin context => (keeps_ofText services text bindings origin context).depth

/-- A round is performed uniformly. -/
theorem Uniform.round {Index : Type} {inner : Index → Expander State}
    {fails : (Index → Failure) → Prop} (round : Round) :
    Uniform services inner fails fun index => round.expand (inner index) := by
  refine .bind (.expand round.text [] round.origin) fun value => ?_
  cases round.pattern with
  | none => exact .pure value
  | some pattern => exact .expand pattern.1 [.constant itemName value] pattern.2

/-- The bounded interpreter comes back to the depth at which it begins a task. -/
theorem keeps_depth_bounded {α : Type} (task : Task α) :
    Keeps (fun before after => after.depth = before.depth) ((bounded services).answer task) := by
  cases task with
  | text text bindings origin =>
    exact fun context => (keeps_ofText services text bindings origin context).depth
  | place fragment cursor =>
    have uniform : Uniform services (fun _ : Unit => ofText services) (fun _ => True)
        fun _ => runFrom services fragment cursor := .runFrom (fun _ => trivial) cursor
    exact uniform.keeps_depth
  | loop behind rounds =>
    have uniform : Uniform services (fun _ : Unit => ofText services) (fun _ => True)
        fun _ => rounds.mapM (Round.expand (ofText services)) := .mapM rounds Uniform.round
    exact uniform.keeps_depth

/-! ## One step depends on smaller points -/

/-- A call of a primitive binds nothing but the item of a loop, so it does the same for two
expanders that do the same with such bindings. -/
theorem perform_congr {expand other : Expander State}
    (nothing : ∀ text origin, expand text [] origin = other text [] origin)
    (item : ∀ text value origin, expand text [.constant itemName value] origin =
      other text [.constant itemName value] origin) (site : Site) (call : Call) :
    perform services expand site call = perform services other site call := by
  cases call with
  | forEach items pattern => simp only [perform, nothing, item]
  | _ => simp only [perform, nothing]

/-- Two interpreters do the same for the nested texts and the loops of an invocation, in the
contexts of an invariant with some levels left. -/
structure SameNested (invariant : Invariant services) (levels : Nat) (behind : Cursor)
    (other known : Interpreter State) : Prop where
  /-- They expand texts alike. -/
  texts : ∀ text bindings origin, invariant.bound bindings →
    SameWhere (invariant.At levels) (other.expander text bindings origin)
      (known.expander text bindings origin)
  /-- They perform loops alike. -/
  loops : ∀ rounds, SameWhere (invariant.At levels) (other.answer (.loop behind rounds))
    (known.answer (.loop behind rounds))

namespace SameNested

variable {invariant : Invariant services} {other known : Interpreter State} {behind : Cursor}

/-- A call of a primitive does the same for nested texts. -/
theorem perform (same : SameNested invariant levels behind other known) (site : Site)
    (call : Call) :
    SameWhere (invariant.At levels) (Expansion.perform services other.expander site call)
      (Expansion.perform services known.expander site call) := by
  classical
  -- Texts with other bindings never occur. In the family both members treat them alike.
  let inner : Bool → Expander State := fun swapped text bindings origin =>
    if invariant.bound bindings then
      (cond swapped other.expander known.expander) text bindings origin
    else pure []
  have admits : Admits (fun _ : Bool => site.fragment) (fun _ => site.invocation) Shared :=
    ⟨fun cause => shared _, fun _ failure _ => shared failure⟩
  have uniform : Uniform services inner Shared fun swapped =>
      Expansion.perform services (inner swapped) site call := .perform admits call
  have performed : ∀ swapped, Expansion.perform services (inner swapped) site call =
      Expansion.perform services (cond swapped other.expander known.expander) site call :=
    fun swapped => perform_congr (fun _ _ => if_pos invariant.nothing)
      (fun _ value _ => if_pos (invariant.item value)) site call
  have nested : ∀ text bindings origin, SameWhere (invariant.At levels)
      (inner true text bindings origin) (inner false text bindings origin) := by
    intro text bindings origin
    by_cases proper : invariant.bound bindings
    · simp only [inner, if_pos proper]
      exact same.texts text bindings origin proper
    · simp only [inner, if_neg proper]
      exact .pure []
  have whole := uniform.sameWhere (invariant.steady_at levels) nested
  rw [performed true, performed false] at whole
  exact whole

/-- A call of a primitive does the same for nested texts and loops. -/
theorem performBy (same : SameNested invariant levels behind other known) (site : Site)
    (call : Call) :
    SameWhere (invariant.At levels) (Expansion.performBy services other behind site call)
      (Expansion.performBy services known behind site call) := by
  have flattened : ∀ rounds, SameWhere (invariant.At levels)
      (List.flatten <$> other.answer (.loop behind rounds))
      (List.flatten <$> known.answer (.loop behind rounds)) := by
    intro rounds
    simp only [map_eq_pure_bind]
    exact (same.loops rounds).bind fun results => .pure results.flatten
  have performed := same.perform site call
  cases call with
  | repetition count body =>
    refine (same.texts count [] (site.parameter 1) invariant.nothing).bind fun count => ?_
    have integer : SameWhere (invariant.At levels) (site.integer count : Expansion State Integer)
        (site.integer count) := by
      unfold Site.integer
      cases Integer.parse? count with
      | none => exact .throw _
      | some value => exact .pure value
    refine integer.bind fun count => ?_
    split
    · exact .throw _
    · exact flattened _
  | forEach items pattern => exact flattened _
  | _ => exact performed

/-- The call of a macro does the same for its parameters and its body. -/
theorem callMacroBy (same : SameNested invariant levels behind other known) (definition : Macro)
    (parameters : List Text)
    (proper : ∀ values,
      invariant.bound (List.zipWith Macro.constant definition.parameters values)) :
    SameWhere (invariant.At levels) (Expansion.callMacroBy other behind definition parameters)
      (Expansion.callMacroBy known behind definition parameters) :=
  (same.loops _).bind fun values => same.texts _ _ _ (proper values)

/-- An invocation is resolved to the same. -/
theorem resolveBy (same : SameNested invariant levels behind other known) (fragment : Fragment)
    (invocation : Invocation) :
    SameWhere (invariant.At levels)
      (Expansion.resolveBy services other behind fragment invocation)
      (Expansion.resolveBy services known behind fragment invocation) := by
  have noted := fun entry ordinary => SameWhere.note (invariant.steady_at levels) entry ordinary
  unfold Expansion.resolveBy
  cases Primitive.ofName? invocation.name with
  | some primitive =>
    refine (noted (.primitiveCalled _ _) rfl).bind fun _ => ?_
    dsimp only
    cases Call.ofParameters? primitive invocation.parameters with
    | some call => exact same.performBy _ call
    | none => exact .throw _
  | none =>
    intro context here
    have known : (get : Expansion State _) context = .ok context context := rfl
    dsimp only
    rw [bind_of_ok _ known, bind_of_ok _ known]
    cases found : context.scopes.find? ⟨invocation.name, invocation.arity⟩ with
    | none => exact SameWhere.throw _ context here
    | some place =>
      obtain ⟨index, definition⟩ := place
      have called := same.callMacroBy definition invocation.parameters
        (invariant.call here.1 found)
      exact ((noted (.macroFound _ _) rfl).bind fun _ => called) context here

end SameNested

/-- The text that is left behind an invocation is shorter than the text from its literal on. -/
theorem unread_lt_of_readInvocation {fragment : Fragment} {start : Nat} {rest : Text}
    {cursor later : Cursor} {invocation : Invocation} (literal : Text)
    (ahead : cursor.unread = rest)
    (success : fragment.readInvocation start cursor = .ok invocation later) :
    later.unread.length < (literal ++ introducer :: rest).length := by
  have shorter := Fragment.readInvocation_length_lt success
  rw [ahead] at shorter
  rw [List.length_append, List.length_cons]
  omega

/-- An interpreter agrees with the bounded one at all points of an invariant that are smaller than a
point, and the bounded one ends in the invariant there. -/
def AgreesBelow (invariant : Invariant services) (other : Interpreter State)
    (point : Point State) : Prop :=
  ∀ smaller : Point State, smaller.measure < point.measure → smaller.Meets invariant →
    smaller.answer other = smaller.answer (bounded services) ∧
      invariant.holds (contextOf (smaller.answer (bounded services)))

namespace AgreesBelow

variable {invariant : Invariant services} {other : Interpreter State} {context : Context State}

/-- On a task that is smaller wherever the levels are those of the point, the interpreters do the
same. -/
theorem sameWhere {point : Point State} (agree : AgreesBelow invariant other point) {α : Type}
    {task : Task α}
    (less : task.unread.length < point.task.unread.length ∨
      task.unread.length = point.task.unread.length ∧
        task.rounds.length < point.task.rounds.length)
    (meets : ∀ context, invariant.holds context →
      (⟨task, context⟩ : Point State).Meets invariant) :
    SameWhere (invariant.At point.levels) (other.answer task) ((bounded services).answer task) := by
  intro later here
  have smaller : (⟨task, later⟩ : Point State).measure < point.measure :=
    Point.measure_lt_iff.mpr (.inr ⟨here.2, less⟩)
  have depth : (contextOf ((bounded services).answer task later)).depth = later.depth :=
    keeps_depth_bounded task later
  obtain ⟨same, kept⟩ := agree ⟨task, later⟩ smaller (meets later here.1)
  exact ⟨same, kept, (congrArg Depth.remaining depth).trans here.2⟩

/-- A text is expanded alike: its fragment has a level less. -/
theorem text {text : Text} {bindings : List Macro} {origin : Origin}
    (agree : AgreesBelow invariant other ⟨.text text bindings origin, context⟩)
    (holds : invariant.holds context) (proper : invariant.bound bindings) :
    (recur services other).answer (.text text bindings origin) context =
      (recur services (bounded services)).answer (.text text bindings origin) context ∧
    invariant.holds (contextOf
      ((recur services (bounded services)).answer (.text text bindings origin) context)) := by
  rw [recur_text, recur_text]
  cases admitted : context.depth.enter? with
  | none => exact ⟨rfl, holds⟩
  | some deeper =>
    have left := Depth.remaining_ne_zero admitted
    have below : (context.enter bindings origin).depth.remaining < context.depth.remaining := by
      rw [Context.remaining_enter]
      omega
    have inside : invariant.holds (context.enter bindings origin) :=
      invariant.enter origin (by simp [admitted]) holds proper
    have same : other.answer (.place ⟨origin, text⟩ (Cursor.start text))
          (context.enter bindings origin) =
        (bounded services).answer (.place ⟨origin, text⟩ (Cursor.start text))
          (context.enter bindings origin) ∧
        invariant.holds (contextOf ((bounded services).answer
          (.place ⟨origin, text⟩ (Cursor.start text)) (context.enter bindings origin))) :=
      agree ⟨_, context.enter bindings origin⟩ (Point.measure_lt_iff.mpr (.inl below))
        ⟨inside, .intro⟩
    obtain ⟨equal, kept⟩ := same
    simp only [within, equal, true_and]
    cases outcome : (bounded services).answer (.place ⟨origin, text⟩ (Cursor.start text))
      (context.enter bindings origin) with
    | ok value later =>
      rw [outcome] at kept
      exact invariant.leave kept
    | error failure later =>
      rw [outcome] at kept
      exact invariant.leave kept

/-- A fragment is expanded alike from a place on: behind an invocation there is less to read, for
the loops of the invocation as well. -/
theorem place {fragment : Fragment} {cursor : Cursor}
    (agree : AgreesBelow invariant other ⟨.place fragment cursor, context⟩)
    (holds : invariant.holds context) :
    (recur services other).answer (.place fragment cursor) context =
      (recur services (bounded services)).answer (.place fragment cursor) context ∧
    invariant.holds (contextOf
      ((recur services (bounded services)).answer (.place fragment cursor) context)) := by
  obtain ⟨offset, unread⟩ := cursor
  rcases plain_or_introducer unread with plain | ⟨literal, rest, rfl, plain⟩
  · rw [recur_place_of_plain plain, recur_place_of_plain plain]
    exact ⟨rfl, holds⟩
  · rw [recur_place_of_introducer plain, recur_place_of_introducer plain]
    cases outcome : fragment.readInvocation (offset + literal.size)
      ⟨offset + literal.size + 1, rest⟩ with
    | error failure later => exact ⟨rfl, holds⟩
    | ok invocation later =>
      have shorter := unread_lt_of_readInvocation literal rfl outcome
      have some_ahead : 0 < (literal ++ introducer :: rest).length :=
        List.length_pos_iff.mpr (by simp)
      have nested : SameNested invariant context.depth.remaining later other (bounded services) :=
        { texts := fun text bindings origin proper =>
            agree.sameWhere (.inl some_ahead) fun _ holds => ⟨holds, proper⟩
          loops := fun rounds => agree.sameWhere (.inl shorter) fun _ holds => ⟨holds, .intro⟩ }
      have resolved := nested.resolveBy fragment invocation
      have further : SameWhere (invariant.At context.depth.remaining)
          (other.answer (.place fragment later))
          ((bounded services).answer (.place fragment later)) :=
        agree.sameWhere (.inl shorter) fun _ holds => ⟨holds, .intro⟩
      have noted := SameWhere.note (invariant.steady_at context.depth.remaining)
        (.recognized fragment.origin invocation.name invocation.arity invocation.span) rfl
      have whole := noted.bind fun _ => resolved.bind fun value =>
        further.bind fun others => .pure (literal ++ value ++ others)
      obtain ⟨same, kept, -⟩ := whole context ⟨holds, rfl⟩
      exact ⟨same, kept⟩

/-- A loop is performed alike: its other rounds are fewer, and a text counts under the next
level. -/
theorem loop {behind : Cursor} {rounds : List Round}
    (agree : AgreesBelow invariant other ⟨.loop behind rounds, context⟩)
    (holds : invariant.holds context) :
    (recur services other).answer (.loop behind rounds) context =
      (recur services (bounded services)).answer (.loop behind rounds) context ∧
    invariant.holds (contextOf
      ((recur services (bounded services)).answer (.loop behind rounds) context)) := by
  cases rounds with
  | nil => exact ⟨rfl, holds⟩
  | cons round rounds =>
    have texts : ∀ text bindings origin, invariant.bound bindings →
        SameWhere (invariant.At context.depth.remaining) (other.expander text bindings origin)
          ((bounded services).expander text bindings origin) := by
      intro text bindings origin proper
      have meets : ∀ later, invariant.holds later →
          (⟨.text text bindings origin, later⟩ : Point State).Meets invariant :=
        fun _ holds => ⟨holds, proper⟩
      rcases Nat.eq_zero_or_pos behind.unread.length with none | some
      · exact agree.sameWhere (.inr ⟨none.symm, Nat.succ_pos _⟩) meets
      · exact agree.sameWhere (.inl some) meets
    have expanded : SameWhere (invariant.At context.depth.remaining)
        (round.expand other.expander) (round.expand (bounded services).expander) := by
      refine (texts round.text [] round.origin invariant.nothing).bind fun value => ?_
      cases round.pattern with
      | none => exact .pure value
      | some pattern => exact texts pattern.1 _ pattern.2 (invariant.item value)
    have further : SameWhere (invariant.At context.depth.remaining)
        (other.answer (.loop behind rounds)) ((bounded services).answer (.loop behind rounds)) :=
      agree.sameWhere (.inr ⟨rfl, Nat.lt_succ_self _⟩) fun _ holds => ⟨holds, .intro⟩
    have whole := expanded.bind fun result =>
      further.bind fun results => .pure (result :: results)
    obtain ⟨same, kept, -⟩ := whole context ⟨holds, rfl⟩
    exact ⟨same, kept⟩

end AgreesBelow

/-- What one step of the recursion does where a task is begun in an invariant is settled by the
smaller points of the invariant, and ends in the invariant. -/
theorem Invariant.recur_of_smaller (invariant : Invariant services) {other : Interpreter State}
    (point : Point State) (meets : point.Meets invariant)
    (agree : AgreesBelow invariant other point) :
    point.answer (recur services other) = point.answer (bounded services) ∧
      invariant.holds (contextOf (point.answer (bounded services))) := by
  rw [← recur_bounded services]
  obtain ⟨task, context⟩ := point
  cases task with
  | text text bindings origin => exact agree.text meets.1 meets.2
  | place fragment cursor => exact agree.place meets.1
  | loop behind rounds => exact agree.loop meets.1

/-- A task that is begun in an invariant ends in it. -/
theorem Invariant.holds_answer (invariant : Invariant services) (point : Point State)
    (meets : point.Meets invariant) :
    invariant.holds (contextOf (point.answer (bounded services))) := by
  induction point using Point.wellFounded_measure.induction with
  | _ point hypothesis =>
    have agree : AgreesBelow invariant (bounded services) point :=
      fun smaller less meets => ⟨rfl, hypothesis smaller less meets⟩
    exact (invariant.recur_of_smaller point meets agree).2

/-- Where an interpreter agrees with the bounded one at all points of an invariant, so does one more
step of the recursion. -/
theorem Invariant.recur_of_agree (invariant : Invariant services) {other : Interpreter State}
    (agree : ∀ point : Point State, point.Meets invariant →
      point.answer other = point.answer (bounded services))
    (point : Point State) (meets : point.Meets invariant) :
    point.answer (recur services other) = point.answer (bounded services) :=
  (invariant.recur_of_smaller point meets fun smaller _ meets =>
    ⟨agree smaller meets, invariant.holds_answer smaller meets⟩).1

/-- What one step of the recursion does at a point is settled by the smaller points: an interpreter
that agrees with the bounded one there is as good as it. -/
theorem recur_of_smaller {other : Interpreter State} (point : Point State)
    (agree : ∀ smaller : Point State, smaller.measure < point.measure →
      smaller.answer other = smaller.answer (bounded services)) :
    point.answer (recur services other) = point.answer (bounded services) := by
  have meets : point.Meets (Invariant.trivial services) := by
    obtain ⟨task, context⟩ := point
    cases task <;> exact ⟨.intro, .intro⟩
  have below : AgreesBelow (Invariant.trivial services) other point :=
    fun smaller less _ => ⟨agree smaller less, .intro⟩
  exact ((Invariant.trivial services).recur_of_smaller point meets below).1

/-- There is one interpreter that answers for itself, the bounded one. -/
theorem recur_eq_self_iff {other : Interpreter State} :
    recur services other = other ↔ other = bounded services := by
  constructor
  · intro fixed
    have settled : ∀ point : Point State, point.answer other = point.answer (bounded services) := by
      intro point
      induction point using Point.wellFounded_measure.induction with
      | _ point hypothesis =>
        calc point.answer other
            = point.answer (recur services other) := by rw [fixed]
          _ = point.answer (bounded services) := recur_of_smaller point hypothesis
    exact Interpreter.ext (funext fun α => funext fun task => funext fun context =>
      settled ⟨task, context⟩)
  · rintro rfl
    exact recur_bounded services

end

end Expansion
end TextMacros
