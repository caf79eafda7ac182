import Mathlib.Data.Finmap
import TextMacros.Proofs.Scope.Place

/-!
# Histories of scopes

Scopes are opened, filled and closed in any order, and nothing is ever overwritten. So what a scope
holds under an identity is told by the history of the stack: it is the macro of the first insertion
that succeeded in that scope since it was opened (`held?_eq_some_iff_firstInserted`). A stack is
also a stack of finite maps in which an entry, once written, stays (`Represents.apply`).

Between the opening and the closing of a scope the scopes outside it are out of reach, but for the
global one, which takes macros from anywhere (`ScopeStack.split_of_run`).
-/

namespace TextMacros

/-- What is done to a stack of scopes. -/
inductive ScopeOperation where
  /-- A scope is opened. -/
  | push
  /-- The current scope is closed. -/
  | pop
  /-- A macro is inserted into the scope of a region. -/
  | insert (region : Region) (definition : Macro)

namespace ScopeStack

/-- The stack behind an operation. A macro that is refused leaves the stack as it is. -/
def apply (stack : ScopeStack) : ScopeOperation → ScopeStack
  | .push => stack.push
  | .pop => stack.pop
  | .insert region definition => (stack.insert? definition region).getD stack

/-- The stack behind some operations, one after the other. -/
def run (stack : ScopeStack) (operations : List ScopeOperation) : ScopeStack :=
  operations.foldl apply stack

variable {stack : ScopeStack} {operations : List ScopeOperation} {operation : ScopeOperation}
  {index time : Nat} {key : MacroKey} {definition other : Macro} {region : Region}

theorem run_operations_append (stack : ScopeStack) (before after : List ScopeOperation) :
    stack.run (before ++ after) = (stack.run before).run after := List.foldl_append

theorem run_concat (stack : ScopeStack) (operations : List ScopeOperation)
    (operation : ScopeOperation) :
    stack.run (operations ++ [operation]) = (stack.run operations).apply operation :=
  run_operations_append stack operations [operation]

/-- An insertion is refused and changes nothing, or it is done. -/
theorem apply_insert (stack : ScopeStack) (region : Region) (definition : Macro) :
    (stack.insert? definition region = none ∧ stack.apply (.insert region definition) = stack) ∨
      stack.insert? definition region = some (stack.apply (.insert region definition)) := by
  show _ ∧ (stack.insert? definition region).getD stack = stack ∨
    _ = some ((stack.insert? definition region).getD stack)
  cases stack.insert? definition region with
  | none => exact .inl ⟨rfl, rfl⟩
  | some extended => exact .inr rfl

/-! ## Single operations -/

/-- A scope that stays open keeps what it holds. -/
theorem held?_apply_of_held? (held : stack.held? index key = some definition)
    (stays : index < (stack.apply operation).depth) :
    (stack.apply operation).held? index key = some definition := by
  cases operation with
  | push => exact held?_push.trans held
  | pop =>
    have inside : index < stack.pop.depth := stays
    rw [depth_pop] at inside
    have outer : index + 1 < stack.depth := by omega
    exact (held?_pop.trans (if_pos outer)).trans held
  | insert region inserted =>
    rcases stack.apply_insert region inserted with ⟨-, same⟩ | done
    · rw [same]
      exact held
    · rw [held?_of_insert? done, if_neg]
      · exact held
      · rintro ⟨rfl, rfl⟩
        have missing := held?_eq_none_of_insert? done
        rw [missing] at held
        cases held

/-- What a scope holds behind an operation was held before, or the operation has inserted it. -/
theorem held?_of_apply (held : (stack.apply operation).held? index key = some definition) :
    stack.held? index key = some definition ∨ ∃ region, operation = .insert region definition ∧
      stack.target region = index ∧ (stack.insert? definition region).isSome := by
  cases operation with
  | push => exact .inl (held?_push.symm.trans held)
  | pop =>
    have before : (if index + 1 < stack.depth then stack.held? index key else none) =
        some definition := held?_pop.symm.trans held
    split at before
    · exact .inl before
    · cases before
  | insert region inserted =>
    rcases stack.apply_insert region inserted with ⟨-, same⟩ | done
    · rw [same] at held
      exact .inl held
    · rw [held?_of_insert? done] at held
      split at held
      · rename_i here
        cases held
        exact .inr ⟨region, rfl, here.1.symm, Option.isSome_of_mem done⟩
      · exact .inl held

/-! ## Finite maps -/

/-- A stack of finite maps from identities to macros, the outermost first. -/
abbrev Frames := List (Finmap fun _ : MacroKey => Macro)

/-- Writes an entry, unless there is one of its identity. -/
def writeOnce (definition : Macro) (frame : Finmap fun _ : MacroKey => Macro) :
    Finmap fun _ : MacroKey => Macro :=
  if definition.key ∈ frame then frame else frame.insert definition.key definition

/-- What an operation does to a stack of finite maps. -/
def Frames.apply (frames : Frames) : ScopeOperation → Frames
  | .push => frames ++ [∅]
  | .pop => frames.dropLast
  | .insert .current definition => frames.modify (frames.length - 1) (writeOnce definition)
  | .insert .global definition => frames.modify 0 (writeOnce definition)

/-- Each scope answers as the finite map of its index does. -/
structure Represents (stack : ScopeStack) (frames : Frames) : Prop where
  /-- There are as many scopes as maps. -/
  depth : stack.depth = frames.length
  /-- The answers are the same. -/
  held? : ∀ index key, stack.held? index key = frames[index]?.bind (·.lookup key)

/-- An insertion writes an entry of one map, unless that map has one. -/
theorem Represents.insert {frames : Frames} (represents : stack.Represents frames)
    (definition : Macro) (region : Region) :
    (stack.apply (.insert region definition)).Represents
      (frames.modify (stack.target region) (writeOnce definition)) := by
  have answers := represents.held? (stack.target region) definition.key
  rcases stack.apply_insert region definition with ⟨refused, same⟩ | done
  · rw [same]
    refine ⟨represents.depth.trans (List.length_modify _ _ _).symm, fun index key => ?_⟩
    rw [represents.held? index key]
    by_cases here : stack.target region = index
    · subst here
      rw [List.getElem?_modify_eq]
      cases present : frames[stack.target region]? with
      | none => rfl
      | some frame =>
        -- No scope is open or the identity is taken, and here a scope is open.
        have taken : definition.key ∈ frame := by
          rw [present, Option.bind_some] at answers
          rcases insert?_eq_none.mp refused with closed | taken
          · rw [represents.depth] at closed
            have bound := (List.getElem?_eq_some_iff.mp present).1
            omega
          · rw [answers] at taken
            exact Finmap.lookup_isSome.mp taken
        have kept : writeOnce definition frame = frame := if_pos taken
        show _ = (some (writeOnce definition frame)).bind _
        rw [kept]
    · rw [List.getElem?_modify_ne _ _ here]
  · have missing := held?_eq_none_of_insert? done
    obtain ⟨depth, scope, -, present, -, -⟩ := exists_scope?_of_insert? done
    refine ⟨?_, fun index key => ?_⟩
    · rw [depth, represents.depth, List.length_modify]
    · rw [held?_of_insert? done, represents.held? index key]
      by_cases here : stack.target region = index
      · subst here
        have opened : stack.target region < frames.length := by
          rw [← represents.depth]
          by_contra closed
          rw [scope?_eq_none.mpr (Nat.le_of_not_lt closed)] at present
          cases present
        rw [List.getElem?_modify_eq, List.getElem?_eq_getElem opened]
        rw [List.getElem?_eq_getElem opened, Option.bind_some, missing] at answers
        have free : definition.key ∉ frames[stack.target region] :=
          Finmap.lookup_eq_none.mp answers.symm
        have written : writeOnce definition frames[stack.target region] =
            frames[stack.target region].insert definition.key definition := if_neg free
        show _ = (some (writeOnce definition frames[stack.target region])).bind _
        rw [written, Option.bind_some, Option.bind_some]
        by_cases same : definition.key = key
        · rw [if_pos ⟨rfl, same⟩, ← same, Finmap.lookup_insert]
        · rw [if_neg fun both => same both.2, Finmap.lookup_insert_of_ne _ (Ne.symm same)]
      · rw [if_neg fun both => here both.1.symm, List.getElem?_modify_ne _ _ here]

/-- Every operation on a stack is the one on the finite maps that it represents. -/
theorem Represents.apply {frames : Frames} (represents : stack.Represents frames)
    (operation : ScopeOperation) :
    (stack.apply operation).Represents (frames.apply operation) := by
  cases operation with
  | push =>
    have depth : stack.push.depth = (frames ++ [∅]).length := by
      rw [depth_push, represents.depth, List.length_append, List.length_singleton]
    refine ⟨depth, fun index key => ?_⟩
    show stack.push.held? index key = (frames ++ [∅])[index]?.bind _
    rw [held?_push, represents.held?, List.getElem?_append]
    by_cases inside : index < frames.length
    · rw [if_pos inside]
    · rw [if_neg inside, List.getElem?_eq_none (Nat.le_of_not_lt inside), Option.bind_none]
      by_cases next : index - frames.length = 0
      · rw [next]
        rfl
      · rw [List.getElem?_eq_none (by rw [List.length_singleton]; omega), Option.bind_none]
  | pop =>
    have depth : stack.pop.depth = frames.dropLast.length := by
      rw [depth_pop, represents.depth, List.length_dropLast]
    refine ⟨depth, fun index key => ?_⟩
    show stack.pop.held? index key = frames.dropLast[index]?.bind _
    rw [held?_pop, represents.held?, List.getElem?_dropLast, represents.depth]
    by_cases inside : index + 1 < frames.length
    · rw [if_pos inside, if_pos (by omega)]
    · rw [if_neg inside, if_neg (by omega), Option.bind_none]
  | insert region definition =>
    have inserted := represents.insert definition region
    cases region with
    | current =>
      unfold target at inserted
      rw [represents.depth] at inserted
      exact inserted
    | global => exact inserted

/-- A history makes of a stack what it makes of the finite maps. -/
theorem Represents.run {frames : Frames} (represents : stack.Represents frames)
    (operations : List ScopeOperation) :
    (stack.run operations).Represents (operations.foldl Frames.apply frames) := by
  induction operations generalizing stack frames with
  | nil => exact represents
  | cons operation operations hypothesis => exact hypothesis (represents.apply operation)

/-- No scopes represent no maps. -/
theorem represents_empty : empty.Represents [] := ⟨rfl, fun _ _ => rfl⟩

/-! ## Insertions that succeeded -/

/-- The operation at a time is an insertion that succeeds in the scope with an index, and this scope
is open ever after. -/
def InsertedAt (operations : List ScopeOperation) (time index : Nat) (definition : Macro) : Prop :=
  ∃ region, operations[time]? = some (.insert region definition) ∧
    (empty.run (operations.take time)).target region = index ∧
    ((empty.run (operations.take time)).insert? definition region).isSome ∧
    ∀ later, time < later → index < (empty.run (operations.take later)).depth

/-- A macro is the first that was inserted under an identity into the scope with an index, since
this scope was opened. -/
def FirstInserted (operations : List ScopeOperation) (index : Nat) (key : MacroKey)
    (definition : Macro) : Prop :=
  ∃ time, InsertedAt operations time index definition ∧ definition.key = key ∧
    ∀ earlier other, earlier < time → InsertedAt operations earlier index other → other.key ≠ key

/-- A scope that is open all the time keeps what it holds. -/
theorem held?_run_of_held? (held : stack.held? index key = some definition)
    (stays : ∀ count, index < (stack.run (operations.take count)).depth) :
    (stack.run operations).held? index key = some definition := by
  induction operations generalizing stack with
  | nil => exact held
  | cons operation operations hypothesis =>
    exact hypothesis (held?_apply_of_held? held (stays 1)) fun count => stays (count + 1)

/-- What was inserted into a scope is held as long as the scope is open. -/
theorem InsertedAt.held? (inserted : InsertedAt operations time index definition) :
    (empty.run operations).held? index definition.key = some definition := by
  obtain ⟨region, present, target, success, stays⟩ := inserted
  obtain ⟨extended, done⟩ := Option.isSome_iff_exists.mp success
  have behind : operations = operations.take (time + 1) ++ operations.drop (time + 1) :=
    (List.take_append_drop _ _).symm
  have taken : operations.take (time + 1) =
      operations.take time ++ [.insert region definition] := by
    rw [List.take_add_one, present]
    rfl
  have reached : empty.run (operations.take (time + 1)) = extended := by
    rw [taken, run_concat]
    exact (congrArg (Option.getD · _) done).trans rfl
  have added : extended.held? index definition.key = some definition := by
    rw [held?_of_insert? done, if_pos ⟨target.symm, rfl⟩]
  rw [behind, run_operations_append, reached]
  refine held?_run_of_held? added fun count => ?_
  have still := stays (time + 1 + count) (by omega)
  rw [List.take_add, run_operations_append, reached] at still
  exact still

/-- What has been inserted at a time had been inserted by then. -/
theorem InsertedAt.take {now : Nat} (inserted : InsertedAt operations time index definition)
    (past : time < now) : InsertedAt (operations.take now) time index definition := by
  obtain ⟨region, present, target, success, stays⟩ := inserted
  have before : (operations.take now).take time = operations.take time := by
    rw [List.take_take, Nat.min_eq_left (Nat.le_of_lt past)]
  refine ⟨region, ?_, ?_, ?_, fun later after => ?_⟩
  · rw [List.getElem?_take_of_lt past]
    exact present
  · rw [before]
    exact target
  · rw [before]
    exact success
  · rw [List.take_take]
    exact stays (min later now) (by omega)

/-- What has been inserted stays inserted while its scope is open. -/
theorem InsertedAt.concat (inserted : InsertedAt operations time index definition)
    (stays : index < (empty.run (operations ++ [operation])).depth) :
    InsertedAt (operations ++ [operation]) time index definition := by
  obtain ⟨region, present, target, success, open_since⟩ := inserted
  have past : time < operations.length := (List.getElem?_eq_some_iff.mp present).1
  have before : (operations ++ [operation]).take time = operations.take time :=
    List.take_append_of_le_length (Nat.le_of_lt past)
  refine ⟨region, ?_, ?_, ?_, fun later after => ?_⟩
  · rw [List.getElem?_append_left past]
    exact present
  · rw [before]
    exact target
  · rw [before]
    exact success
  · by_cases within : later ≤ operations.length
    · rw [List.take_append_of_le_length within]
      exact open_since later after
    · have whole : (operations ++ [operation]).take later = operations ++ [operation] :=
        List.take_of_length_le (by rw [List.length_append, List.length_singleton]; omega)
      rw [whole]
      exact stays

/-- Whatever a scope holds was inserted into it at some time. -/
theorem exists_insertedAt (held : (empty.run operations).held? index key = some definition) :
    ∃ time, InsertedAt operations time index definition := by
  induction operations using List.reverseRecOn with
  | nil => cases held
  | append_singleton operations operation hypothesis =>
    have stays : index < (empty.run (operations ++ [operation])).depth := lt_depth_of_held? held
    rw [run_concat] at held
    rcases held?_of_apply held with before | ⟨region, rfl, target, success⟩
    · obtain ⟨time, inserted⟩ := hypothesis before
      exact ⟨time, inserted.concat stays⟩
    · have before : (operations ++ [ScopeOperation.insert region definition]).take
          operations.length = operations := List.take_left
      refine ⟨operations.length, region, List.getElem?_concat_length, ?_, ?_, fun later after => ?_⟩
      · rw [before]
        exact target
      · rw [before]
        exact success
      · rw [List.take_of_length_le (by rw [List.length_append, List.length_singleton]; omega)]
        exact stays

/-- Two insertions that succeeded in one scope differ in their identities. -/
theorem InsertedAt.key_ne {earlier : Nat} (inserted : InsertedAt operations time index definition)
    (first : InsertedAt operations earlier index other) (order : earlier < time) :
    other.key ≠ definition.key := by
  intro same
  have held := (first.take order).held?
  obtain ⟨region, -, target, success, -⟩ := inserted
  obtain ⟨extended, done⟩ := Option.isSome_iff_exists.mp success
  have missing := held?_eq_none_of_insert? done
  rw [target, ← same, held] at missing
  cases missing

/-- A scope holds a macro under an identity exactly when it is the first that was inserted under
this identity since the scope was opened. -/
theorem held?_eq_some_iff_firstInserted :
    (empty.run operations).held? index key = some definition ↔
      FirstInserted operations index key definition := by
  constructor
  · intro held
    have same : definition.key = key := key_of_held? held
    obtain ⟨time, inserted⟩ := exists_insertedAt held
    refine ⟨time, inserted, same, fun earlier other order first => ?_⟩
    rw [← same]
    exact inserted.key_ne first order
  · rintro ⟨time, inserted, rfl, -⟩
    exact inserted.held?

/-! ## Scopes that were opened and are closed again -/

/-- A macro for the global scope passes all scopes inside some others. -/
theorem insertGlobal?_append (inner : List Scope) {outer : List Scope} (opened : outer ≠ [])
    (definition : Macro) : insertGlobal? ⟨inner ++ outer⟩ definition =
      (insertGlobal? ⟨outer⟩ definition).map fun stack => ⟨inner ++ stack.scopes⟩ := by
  induction inner with
  | nil =>
    rw [List.nil_append]
    cases insertGlobal? ⟨outer⟩ definition <;> rfl
  | cons scope inner hypothesis =>
    have others : inner ++ outer ≠ [] := List.append_ne_nil_of_right_ne_nil inner opened
    rw [List.cons_append, insertGlobal?_cons scope others, hypothesis, Option.map_map]
    rfl

/-- An operation that leaves more scopes open than some outer ones changes of these only the global
one, and this only by an insertion into it. -/
theorem split_of_apply {inner outer : List Scope} (some_inner : inner ≠ []) (opened : outer ≠ [])
    (stays : outer.length < (apply ⟨inner ++ outer⟩ operation).depth) :
    ∃ later grown, apply ⟨inner ++ outer⟩ operation = ⟨later ++ grown⟩ ∧ later ≠ [] ∧
      GrowsGlobally outer grown ∧
      ∀ held, HeldIn grown held → HeldIn outer held ∨ operation = .insert .global held := by
  obtain ⟨scope, others, rfl⟩ := List.exists_cons_of_ne_nil some_inner
  cases operation with
  | push => exact ⟨.empty :: scope :: others, outer, rfl, by simp, .refl outer, fun _ => .inl⟩
  | pop =>
    have more : outer.length < (others ++ outer).length := stays
    have present : others ≠ [] := by
      rintro rfl
      exact Nat.lt_irrefl _ more
    exact ⟨others, outer, rfl, present, .refl outer, fun _ => .inl⟩
  | insert region definition =>
    rcases apply_insert ⟨scope :: others ++ outer⟩ region definition with ⟨-, same⟩ | done
    · exact ⟨scope :: others, outer, same, by simp, .refl outer, fun _ => .inl⟩
    · cases region with
      | current =>
        obtain ⟨extended, -, reached⟩ := Option.map_eq_some_iff.mp done
        exact ⟨extended :: others, outer, reached.symm, by simp, .refl outer, fun _ => .inl⟩
      | global =>
        have through : insertGlobal? ⟨scope :: others ++ outer⟩ definition = some _ := done
        rw [insertGlobal?_append _ opened] at through
        obtain ⟨grown, inserted, reached⟩ := Option.map_eq_some_iff.mp through
        refine ⟨scope :: others, grown.scopes, reached.symm, by simp,
          growsGlobally_of_insertGlobal? inserted, fun held holds => ?_⟩
        rcases heldIn_of_insertGlobal? inserted holds with rfl | before
        · exact .inr rfl
        · exact .inl before

/-- Operations that always leave more scopes open than some outer ones change of these only the
global one, and this only by insertions into it. -/
theorem split_of_run {inner outer : List Scope} (some_inner : inner ≠ []) (opened : outer ≠ [])
    (stays : ∀ count, outer.length < (run ⟨inner ++ outer⟩ (operations.take count)).depth) :
    ∃ later grown, run ⟨inner ++ outer⟩ operations = ⟨later ++ grown⟩ ∧ later ≠ [] ∧
      GrowsGlobally outer grown ∧
      ∀ held, HeldIn grown held → HeldIn outer held ∨ .insert .global held ∈ operations := by
  induction operations generalizing inner outer with
  | nil => exact ⟨inner, outer, rfl, some_inner, .refl outer, fun _ => .inl⟩
  | cons operation operations hypothesis =>
    obtain ⟨middle, between, reached, some_middle, growth, added⟩ :=
      split_of_apply some_inner opened (stays 1)
    have length : between.length = outer.length := growth.length_eq
    have still : ∀ count,
        between.length < (run ⟨middle ++ between⟩ (operations.take count)).depth := by
      intro count
      rw [length, ← reached]
      exact stays (count + 1)
    obtain ⟨later, grown, final, some_later, further, more⟩ :=
      hypothesis some_middle (growth.ne_nil opened) still
    refine ⟨later, grown, ?_, some_later, growth.trans further, fun held holds => ?_⟩
    · rw [← final, ← reached]
      rfl
    · rcases more held holds with before | inserted
      · rcases added held before with first | rfl
        · exact .inl first
        · exact .inr List.mem_cons_self
      · exact .inr (List.mem_cons_of_mem _ inserted)

/-- A scope that is opened on open scopes and closed again leaves them as they were, but that the
global one may have gained macros under free identities, each by an insertion into it. -/
theorem growsGlobally_of_closed {body : List ScopeOperation} (opened : stack.depth ≠ 0)
    (stays : ∀ count, stack.depth < (stack.run (.push :: body.take count)).depth)
    (ends : (stack.run (.push :: body)).depth = stack.depth + 1) :
    let closed := stack.run (.push :: body ++ [.pop])
    GrowsGlobally stack.scopes closed.scopes ∧
      ∀ held, HeldIn closed.scopes held →
        HeldIn stack.scopes held ∨ .insert .global held ∈ body := by
  intro closed
  have outer : stack.scopes ≠ [] := fun nothing => opened (List.length_eq_zero_iff.mpr nothing)
  obtain ⟨later, grown, reached, some_later, growth, added⟩ :=
    split_of_run (List.cons_ne_nil Scope.empty []) outer stays
  have behind : stack.run (.push :: body) = ⟨later ++ grown⟩ := reached
  have single : later.length = 1 := by
    rw [behind] at ends
    have counted : (later ++ grown).length = stack.scopes.length + 1 := ends
    rw [List.length_append, growth.length_eq] at counted
    omega
  obtain ⟨current, rfl⟩ := List.length_eq_one_iff.mp single
  have restored : closed = ⟨grown⟩ := by
    show stack.run (.push :: body ++ [.pop]) = _
    rw [run_concat, behind]
    rfl
  rw [restored]
  exact ⟨growth, added⟩

/-! ## All histories -/

/-- In every scope of a history the macros differ in their identities. -/
theorem nodup_of_run (operations : List ScopeOperation) {scope : Scope}
    (present : (empty.run operations).scope? index = some scope) :
    (scope.macros.map Macro.key).Nodup := by
  induction operations using List.reverseRecOn generalizing index scope with
  | nil => cases present
  | append_singleton operations operation hypothesis =>
    rw [run_concat] at present
    cases operation with
    | push =>
      have opened : (if index = _ then some Scope.empty else _) = some scope :=
        scope?_push.symm.trans present
      split at opened
      · cases opened
        exact List.nodup_nil
      · exact hypothesis opened
    | pop =>
      have outer : (if index + 1 < _ then _ else none) = some scope :=
        scope?_pop.symm.trans present
      split at outer
      · exact hypothesis outer
      · cases outer
    | insert region definition =>
      rcases apply_insert (empty.run operations) region definition with ⟨-, same⟩ | done
      · rw [same] at present
        exact hypothesis present
      · obtain ⟨-, before, grown, found, taken, scopes⟩ := exists_scope?_of_insert? done
        rw [scopes index] at present
        split at present
        · cases present
          have free := Scope.find?_eq_none.mp (Scope.exists_insert?_iff.mp ⟨_, taken⟩)
          rw [Scope.macros_of_insert? taken, List.map_append, List.nodup_append]
          refine ⟨hypothesis found, List.nodup_singleton _, ?_⟩
          intro key held other inserted
          obtain ⟨known, member, rfl⟩ := List.mem_map.mp held
          rw [List.mem_singleton.mp inserted]
          exact free known member
        · exact hypothesis present

/-- A stack of scopes is a stack of finite maps whose entries are written once. For every history
from no scopes:
* the scopes answer as the maps do;
* the macros of a scope differ in their identities, and each is found under its own;
* what is found is the macro that was first inserted, with success, under the identity into the
  scope of the index that is told, since that scope was opened, and no scope inside it holds the
  identity;
* a macro is refused exactly when no scope is open or its identity is taken, and leaves the stack as
  it is;
* an insertion changes no look-up of another identity, and that of its own exactly when no scope
  inside the one that takes the macro holds it;
* opening a scope on open ones, working as long as it is open, and closing it restores all scopes,
  but for macros that were inserted into the global one under identities that were free. -/
theorem run_writesOnce (operations : List ScopeOperation) :
    let stack := empty.run operations
    stack.Represents (operations.foldl Frames.apply []) ∧
    (∀ index scope, stack.scope? index = some scope →
      (scope.macros.map Macro.key).Nodup ∧ ∀ key definition,
        scope.find? key = some definition ↔ definition ∈ scope.macros ∧ definition.key = key) ∧
    (∀ index key definition, stack.find? key = some (index, definition) ↔
      FirstInserted operations index key definition ∧
        ∀ above, index < above → stack.held? above key = none) ∧
    (∀ region definition,
      (stack.insert? definition region = none ↔
        stack.depth = 0 ∨ (stack.held? (stack.target region) definition.key).isSome) ∧
      (stack.insert? definition region = none →
        stack.apply (.insert region definition) = stack)) ∧
    (∀ region definition extended, stack.insert? definition region = some extended →
      (∀ key, key ≠ definition.key → extended.find? key = stack.find? key) ∧
      (extended.find? definition.key ≠ stack.find? definition.key ↔
        ∀ above, stack.target region < above → stack.held? above definition.key = none)) ∧
    ∀ body : List ScopeOperation, stack.depth ≠ 0 →
      (∀ count, stack.depth < (stack.run (.push :: body.take count)).depth) →
      (stack.run (.push :: body)).depth = stack.depth + 1 →
      let closed := stack.run (.push :: body ++ [.pop])
      GrowsGlobally stack.scopes closed.scopes ∧
        ∀ held, HeldIn closed.scopes held →
          HeldIn stack.scopes held ∨ .insert .global held ∈ body := by
  intro stack
  refine ⟨represents_empty.run operations, ?_, ?_, ?_, ?_, ?_⟩
  · intro index scope present
    have distinct := nodup_of_run operations present
    refine ⟨distinct, fun key definition => ⟨fun found => ?_, ?_⟩⟩
    · exact ⟨List.mem_of_find?_eq_some found, Scope.key_of_find? found⟩
    · rintro ⟨member, rfl⟩
      exact Scope.find?_of_mem distinct member
  · intro index key definition
    rw [find?_eq_some_iff, held?_eq_some_iff_firstInserted]
  · intro region definition
    refine ⟨insert?_eq_none, fun refused => ?_⟩
    rcases stack.apply_insert region definition with ⟨-, same⟩ | done
    · exact same
    · rw [refused] at done
      cases done
  · intro region definition extended inserted
    refine ⟨fun key other => find?_congr fun index => ?_, find?_ne_iff_of_insert? inserted⟩
    rw [held?_of_insert? inserted, if_neg fun both => other both.2.symm]
  · exact fun body opened stays ends => growsGlobally_of_closed opened stays ends

/-- Inside a scope that is opened, a macro hides one of its name, which is found again when the
scope is closed, beside a macro that went to the global scope. -/
example :
    let outer := Macro.constant ['v'] ['1']
    let inner := Macro.constant ['v'] ['2']
    let shared := Macro.constant ['w'] ['3']
    let stack := empty.run [.push, .insert .current outer, .push]
    let body : List ScopeOperation :=
      [.insert .current inner, .insert .global inner, .push, .insert .global shared, .pop]
    (stack.run (.push :: body)).find? inner.key = some (2, inner) ∧
      (stack.run (.push :: body ++ [.pop])).find? inner.key = some (0, outer) ∧
      (stack.run (.push :: body ++ [.pop])).find? shared.key = some (0, shared) := by
  decide

end ScopeStack
end TextMacros
