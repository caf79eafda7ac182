import TextMacros.Proofs.Expansion.Location
import TextMacros.Proofs.Expansion.Partial

/-!
# No expansion panics

The partial operations of an expansion are used only where they are defined, so the expansion with
partial operations is the expansion without (`Partial.ofText_eq`), and no panic is ever met.

There are two reasons, one for each operation. A number of parameters that the arity of a primitive
accepts makes a call, which tells how many parameters there are, so every index that is used is one
of theirs (`Partial.handler_eq`). And a fault of a recognizer is at a place of the text that it
reads, so the text can be cut there (`Span.ofSymbolAt?_of_split`).
-/

namespace TextMacros

open Token

/-- At a place of a text, the text can be cut. -/
theorem Span.ofSymbolAt?_of_split {text front rest : Text} (split : text = front ++ rest) :
    ofSymbolAt? text front.size = some (ofSymbolAt text front.size) := by
  have boundary := (marks_ofSymbolAt split).inside.2.1
  unfold ofSymbolAt at boundary ⊢
  unfold ofSymbolAt?
  cases final : text.getLast? with
  | none => rfl
  | some last =>
    rw [final] at boundary
    dsimp only at boundary ⊢
    cases dropped : text.dropBytes? (min front.size (text.size - last.utf8Size)) with
    | none => simp [dropped] at boundary
    | some ahead => cases ahead <;> rfl

/-- Within a character, a text cannot be cut. -/
example : Span.ofSymbolAt? "éa".toList 1 = none := by decide

/-- At a place of a fragment, the failure has the span of the character there. -/
theorem Stop.atSymbol_of_split {fragment : Fragment} {front rest : Text} (cause : Cause)
    (split : fragment.text = front ++ rest) :
    atSymbol cause fragment front.size =
      .failure ⟨cause, fragment, Span.ofSymbolAt fragment.text front.size⟩ := by
  unfold atSymbol
  rw [Span.ofSymbolAt?_of_split split]

namespace Expansion

variable {State : Type}

/-- A repetition is the expansion once and then the times that remain. -/
theorem times_succ (remaining : Nat) (expansion : Expansion State Text) :
    times (remaining + 1) expansion = do
      let result ← expansion
      let others ← times remaining expansion
      return result ++ others := by
  have collected : ∀ count results, times.collect expansion count results =
      (fun others => results.reverse ++ others) <$> times.collect expansion count [] := by
    intro count
    induction count with
    | zero => simp [times.collect]
    | succ count hypothesis =>
      intro results
      simp only [times.collect, hypothesis (_ :: results), hypothesis [_]]
      simp
  simp only [times, times.collect, collected remaining [_]]
  simp

end Expansion

namespace Partial

open Expansion

variable {State α β : Type}

/-! ## Laws of lifting -/

@[simp]
theorem lift_pure (value : α) : lift (pure value : Expansion State α) = pure value := rfl

@[simp]
theorem lift_throw (failure : Failure) :
    lift (throw failure : Expansion State α) = throw (.failure failure) := rfl

@[simp]
theorem lift_bind (first : Expansion State α) (second : α → Expansion State β) :
    lift (first >>= second) = lift first >>= fun value => lift (second value) := by
  funext context
  cases outcome : first context with
  | ok value later =>
    have lifted : lift first context = .ok value later := by simp only [lift, outcome]
    rw [bind_of_ok _ lifted]
    simp only [lift, bind_of_ok _ outcome]
  | error failure later =>
    have lifted : lift first context = .error (.failure failure) later := by
      simp only [lift, outcome]
    rw [bind_of_error _ lifted]
    simp only [lift, bind_of_error _ outcome]

@[simp]
theorem lift_ite (condition : Prop) [Decidable condition] (first second : Expansion State α) :
    lift (if condition then first else second) =
      if condition then lift first else lift second := apply_ite lift condition first second

@[simp]
theorem lift_map (function : α → β) (expansion : Expansion State α) :
    lift (function <$> expansion) = function <$> lift expansion := by
  simp only [map_eq_pure_bind, lift_bind, lift_pure]

@[simp]
theorem lift_mapM (items : List α) (each : α → Expansion State β) :
    lift (items.mapM each) = items.mapM fun item => lift (each item) := by
  induction items with
  | nil => simp
  | cons item rest hypothesis => simp [hypothesis]

/-- A repetition is lifted with what is repeated. -/
theorem lift_times (count : Nat) (expansion : Expansion State Text) :
    lift (Expansion.times count expansion) = times count (lift expansion) := by
  induction count with
  | zero => rfl
  | succ remaining hypothesis =>
    simp only [Expansion.times_succ, times, lift_bind, lift_pure, hypothesis]

/-- What is lifted never panics. -/
theorem lift_ne_panic (expansion : Expansion State α) (context : Context State) (panic : Panic)
    (later : Context State) : lift expansion context ≠ .error (.panic panic) later := by
  unfold lift
  cases expansion context <;> simp

/-! ## Recognizers -/

/-- Behind an introducer, an invocation is read as without partial operations. -/
theorem readInvocation_eq {fragment : Fragment} {before rest : Text}
    (split : fragment.text = before ++ introducer :: rest) :
    readInvocation fragment before.size (Fragment.placeBehind before rest) =
      match fragment.readInvocation before.size (Fragment.placeBehind before rest) with
      | .ok invocation later => .ok invocation later
      | .error failure later => .error (.failure failure) later := by
  unfold readInvocation Fragment.readInvocation
  cases outcome : readSignature (Fragment.placeBehind before rest) with
  | ok signature later =>
    dsimp only
    cases Name.canonical? signature.1 <;> rfl
  | error fault later =>
    obtain ⟨front, others, whole, place⟩ :=
      Fragment.place_of_fault_readSignature split outcome
    dsimp only
    rw [place, Stop.atSymbol_of_split _ whole, ← place]
    rfl

/-- A definition is read as without partial operations. -/
theorem ofDefinition_eq (fragment : Fragment) :
    ofDefinition fragment = (Macro.ofDefinition fragment).mapError .failure := by
  unfold ofDefinition
  cases outcome : readDefinition (Cursor.start fragment.text) with
  | ok found later => rfl
  | error fault later =>
    obtain ⟨front, rest, whole, place⟩ := place_of_fault_readDefinition outcome
    dsimp only
    rw [place, Stop.atSymbol_of_split _ whole, ← place]
    unfold Macro.ofDefinition
    rw [outcome]
    rfl

/-! ## Primitives -/

section

variable {services : Services State} {nested : Expansion.Expander State} {site : Site}

/-- A parameter that the invocation has is taken. -/
theorem raw_of_getElem? {index : Nat} {text : Text}
    (found : site.invocation.parameters[index]? = some text) :
    (raw site index : Partial State Text) = pure text := by
  unfold raw
  rw [found]

/-- A parameter that the invocation has is expanded. -/
theorem parameter_of_getElem? {index : Nat} {text : Text}
    (found : site.invocation.parameters[index]? = some text) :
    parameter (ofExpander nested) site index =
      lift (nested text [] (site.parameter (index + 1))) := by
  unfold parameter
  rw [raw_of_getElem? found, pure_bind]
  rfl

/-- A loop over the indices of some parameters takes these parameters in order. -/
theorem mapM_raw (each : Nat → Text → Partial State α) (front items back : List Text)
    (found : site.invocation.parameters = front ++ items ++ back) :
    ((List.range' front.length items.length).mapM fun index => raw site index >>= each index) =
      (items.zipIdx front.length).mapM fun (item, index) => each index item := by
  induction items generalizing front with
  | nil => rfl
  | cons item rest hypothesis =>
    have here : site.invocation.parameters[front.length]? = some item := by
      rw [found]
      simp
    have further := hypothesis (front ++ [item]) (by simp [found])
    rw [List.length_append, List.length_singleton] at further
    simp only [List.length_cons, List.range'_succ, List.zipIdx_cons, List.mapM_cons,
      raw_of_getElem? here, pure_bind, further]

/-- A definition that the invocation has is read and kept. -/
theorem install_eq {definition : Text} (taken : site.invocation.parameters = [definition])
    (region : Region) :
    install site region = lift (perform services nested site (.define region definition)) := by
  simp only [install, raw, taken, List.getElem?_cons_zero, pure_bind, ofDefinition_eq, perform]
  cases Macro.ofDefinition ⟨site.parameter 1, definition⟩ <;> rfl

/-- A pattern behind some items is expanded once for each of them. -/
theorem forEach_eq {items : List Text} {pattern : Text}
    (taken : site.invocation.parameters = items ++ [pattern]) :
    forEach (ofExpander nested) site =
      lift (perform services nested site (.forEach items pattern)) := by
  let each : Nat → Text → Partial State Text := fun index item => do
    let value ← lift (nested item [] (site.parameter (index + 1)))
    lift (nested pattern [.constant itemName value] (site.parameter (items.length + 1)))
  have last : site.invocation.parameters.getLast? = some pattern := by simp [taken]
  have number : site.invocation.parameters.length - 1 = items.length := by simp [taken]
  have loop := mapM_raw each [] items [pattern] taken
  have results : ((List.range items.length).mapM fun index => do
      let value ← parameter (ofExpander nested) site index
      ofExpander nested pattern [.constant itemName value] (site.parameter (items.length + 1))) =
        items.zipIdx.mapM fun (item, index) => each index item := by
    rw [List.range_eq_range']
    simp only [parameter, bind_assoc]
    exact loop
  simp only [forEach, last, number, results, perform, lift_bind, lift_mapM, lift_pure]
  rfl

/-- Where the parameters of an invocation make a call, each index that the primitive uses is one of
theirs: it performs the call. -/
theorem handler_eq {call : Call}
    (formed : Call.ofParameters? site.primitive site.invocation.parameters = some call) :
    handler services (ofExpander nested) site site.primitive =
      lift (perform services nested site call) := by
  generalize wanted : site.primitive = primitive at formed ⊢
  generalize taken : site.invocation.parameters = parameters at formed
  unfold Call.ofParameters? at formed
  split at formed
  all_goals cases formed
  case h_2 => exact install_eq taken .current
  case h_3 => exact install_eq taken .global
  case h_8 first second rest =>
    refine forEach_eq (taken.trans ?_)
    rw [List.cons_append, List.dropLast_concat_getLast]
  case h_23 locator =>
    have here : site.invocation.parameters[0]? = some locator := by rw [taken]; rfl
    rw [perform_getUrl, lift_bind]
    exact congrArg (· >>= _) (parameter_of_getElem? here)
  -- The others take their parameters and go on as the call does.
  all_goals
    simp only [handler, adjust, adjustCounter, ordered, integer, parameter, raw, taken, ofExpander,
      List.getElem?_cons_zero, List.getElem?_cons_succ, ↓perform_inputText, ↓perform_sendMessage,
      ↓perform_newCounter, ↓perform_setCounter, ↓perform_adjustCounter, perform,
      pure_bind, bind_assoc, lift_bind, lift_pure, lift_ite, lift_times, Nat.reduceAdd]

end

/-! ## Fragments -/

section

variable (services : Services State) (nested : Expansion.Expander State)

/-- A call of a macro takes no parameter by its index. -/
theorem callMacro_eq (definition : Macro) (parameters : List Text) :
    callMacro (ofExpander nested) definition parameters =
      lift (Expansion.callMacro nested definition parameters) := by
  simp only [callMacro, Expansion.callMacro, ofExpander, lift_bind, lift_mapM]

/-- The number of parameters is checked before any of them is taken. -/
theorem dispatch_eq (site : Site) :
    dispatch services (ofExpander nested) site =
      lift (match Call.ofParameters? site.primitive site.invocation.parameters with
        | some call => perform services nested site call
        | none => site.fail
          (.argumentNumberMismatch site.primitive site.invocation.parameters)) := by
  have accepted :=
    Call.isSome_ofParameters? site.primitive site.invocation.parameters
  unfold dispatch
  rw [← accepted]
  cases formed : Call.ofParameters? site.primitive site.invocation.parameters with
  | none => rfl
  | some call => exact handler_eq formed

/-- An invocation is resolved as without partial operations. -/
theorem resolve_eq (fragment : Fragment) (invocation : Invocation) :
    resolve services (ofExpander nested) fragment invocation =
      lift (Expansion.resolve services nested fragment invocation) := by
  cases called : Primitive.ofName? invocation.name with
  | some primitive =>
    simp only [resolve, Expansion.resolve, called]
    refine Eq.trans ?_ (lift_bind _ _).symm
    exact congrArg (lift (note _) >>= ·) (funext fun _ => dispatch_eq services nested _)
  | none =>
    rw [resolve_of_not_primitive services nested called, lift_bind]
    simp only [resolve, called]
    congr 1
    funext found
    cases found with
    | none => rfl
    | some definition => exact callMacro_eq nested definition invocation.parameters

/-- A text without introducers is put out as it stands. -/
theorem runFrom_of_plain {expand : Expander State} {fragment : Fragment} {offset : Nat}
    {text : Text} (plain : introducer ∉ text) :
    runFrom services expand fragment ⟨offset, text⟩ = pure text := by
  rw [runFrom]
  split
  · rw [takeWhile_of_plain plain]
  · rename_i ahead
    rw [dropWhile_of_plain plain] at ahead
    cases ahead

/-- The first introducer begins an invocation that is resolved, and the run goes on behind it; or
the run stops there. -/
theorem runFrom_of_introducer {expand : Expander State} {fragment : Fragment} {offset : Nat}
    {literal : Text} (plain : introducer ∉ literal) (rest : Text) :
    runFrom services expand fragment ⟨offset, literal ++ introducer :: rest⟩ =
      match readInvocation fragment (offset + literal.size)
        ⟨offset + literal.size + 1, rest⟩ with
      | .error stop _ => throw stop
      | .ok invocation later => do
        lift (note
          (.recognized fragment.origin invocation.name invocation.arity invocation.span))
        let value ← resolve services expand fragment invocation
        let others ← runFrom services expand fragment later
        return literal ++ value ++ others := by
  have width : introducer.utf8Size = 1 := rfl
  rw [runFrom]
  split
  · rename_i ahead
    rw [dropWhile_plain plain] at ahead
    cases ahead
  · rename_i ahead
    rw [dropWhile_plain plain] at ahead
    cases ahead
    dsimp only
    split
    · rename_i outcome
      rw [takeWhile_plain plain, width] at outcome
      rw [outcome]
    · rename_i outcome
      rw [takeWhile_plain plain, width] at outcome
      rw [takeWhile_plain plain, outcome]

/-- From every place, a fragment is expanded as without partial operations. -/
theorem runFrom_eq {fragment : Fragment} {cursor : Cursor} {front : Text}
    (stands : (Cursor.start fragment.text).Reads cursor front) :
    runFrom services (ofExpander nested) fragment cursor =
      lift ((fragment.segmentsFrom cursor).mapM (ofSegment services nested fragment) >>=
        fun results => pure results.flatten) := by
  induction remaining : cursor.unread.length using Nat.strongRecOn generalizing cursor front with
  | ind length hypothesis =>
    obtain ⟨offset, unread⟩ := cursor
    have whole : fragment.text = front ++ unread := stands.1
    have start : offset = front.size := by
      have counted : offset = 0 + front.size := stands.2
      rw [counted, Nat.zero_add]
    rcases plain_or_introducer unread with plain | ⟨literal, rest, rfl, plain⟩
    · rw [runFrom_of_plain services plain, Fragment.segmentsFrom_of_plain plain]
      simp [ofSegment]
    · have split : fragment.text = (front ++ literal) ++ introducer :: rest := by
        rw [whole, List.append_assoc]
      have place : offset + literal.size = (front ++ literal).size := by
        rw [start, Text.size_append]
      have read := readInvocation_eq split
      unfold Fragment.placeBehind at read
      rw [runFrom_of_introducer services plain, Fragment.segmentsFrom_of_introducer plain, place,
        read]
      cases outcome : fragment.readInvocation (front ++ literal).size
        ⟨(front ++ literal).size + 1, rest⟩ with
      | error failure later =>
        simp only [List.mapM_cons, List.mapM_nil, ofSegment, pure_bind]
        rfl
      | ok invocation later =>
        obtain ⟨-, behind, standsBehind⟩ := Fragment.marks_of_readInvocation split outcome
        have shorter : later.unread.length < length := by
          have less := Fragment.readInvocation_length_lt outcome
          rw [← remaining, List.length_append, List.length_cons]
          dsimp only at less
          omega
        have others := hypothesis _ shorter standsBehind rfl
        simp [ofSegment, resolve_eq, others]

/-- Within a scope, an expansion is lifted. -/
theorem within_lift (bindings : List Macro) (origin : Origin) (expansion : Expansion State α) :
    within bindings origin (lift expansion) =
      lift (Expansion.within bindings origin expansion) := by
  funext context
  unfold within lift Expansion.within
  cases expansion (context.enter bindings origin) <;> rfl

/-- At every level, a text is expanded as without partial operations. -/
theorem ofTextWithin_eq (levels : Nat) :
    ofTextWithin services levels = ofExpander (Expansion.ofTextWithin services levels) := by
  induction levels with
  | zero => rfl
  | succ levels hypothesis =>
    funext text bindings origin
    have run := runFrom_eq services (Expansion.ofTextWithin services levels)
      (Cursor.Reads.refl (Cursor.start (Fragment.mk origin text).text))
    unfold ofTextWithin
    rw [hypothesis, run, within_lift]
    rfl

/-- A text is expanded as without partial operations. -/
theorem ofText_eq (text : Text) (bindings : List Macro) (origin : Origin) :
    ofText services text bindings origin =
      lift (Expansion.ofText services text bindings origin) := by
  funext context
  unfold ofText
  have levels : ofTextWithin services =
      fun levels => ofExpander (Expansion.ofTextWithin services levels) :=
    funext (ofTextWithin_eq services)
  rw [levels]
  rfl

/-- Whatever is expanded, wherever and with whatever services, no partial operation is used where
it is not defined, and the outcome is that of the expansion without partial operations, which the
retriever serves with the same answers. A primitive whose arity accepts the number of parameters
takes none that is not there, whatever its nested texts do. The fault of an invocation is at a
boundary of the fragment that holds the introducer, and the fault of a definition at a boundary of
the text that should define a macro. -/
theorem ofText_never_panics :
    (∀ text bindings origin context panic later,
      ofText services text bindings origin context ≠ .error (.panic panic) later) ∧
    (∀ text bindings origin,
      ofText services text bindings origin =
        lift (Expansion.ofText services text bindings origin)) ∧
    (∀ (expand : Expansion.Expander State) (site : Site) context panic later,
      site.primitive.arity.accepts site.invocation.parameters.length = true →
      handler services (ofExpander expand) site site.primitive context ≠
        .error (.panic panic) later) ∧
    (∀ (fragment : Fragment) before rest fault later,
      fragment.text = before ++ introducer :: rest →
      readSignature (Fragment.placeBehind before rest) = .error fault later →
      (fragment.text.dropBytes? fault.offset).isSome) ∧
    (∀ text fault later, readDefinition (Cursor.start text) = .error fault later →
      (text.dropBytes? fault.offset).isSome) := by
  refine ⟨?_, ofText_eq services, ?_, ?_, ?_⟩
  · intro text bindings origin
    rw [ofText_eq]
    exact lift_ne_panic _
  · intro expand site context panic later accepted
    rw [← Call.isSome_ofParameters?, Option.isSome_iff_exists] at accepted
    obtain ⟨call, formed⟩ := accepted
    rw [handler_eq formed]
    exact lift_ne_panic _ context panic later
  · intro fragment before rest fault later split failure
    obtain ⟨front, others, whole, place⟩ :=
      Fragment.place_of_fault_readSignature split failure
    rw [whole, place, Text.dropBytes?_size]
    rfl
  · intro text fault later failure
    obtain ⟨front, rest, whole, place⟩ := place_of_fault_readDefinition failure
    rw [whole, place, Text.dropBytes?_size]
    rfl

end

/-- Without the check of their number, a parameter that is not there would be taken. -/
example (services : Services Unit) (expand : Expander Unit) (fragment : Fragment) (span : Span)
    (context : Context Unit) :
    let site : Site := ⟨fragment, ⟨"no expand".toList, [], span⟩, .noExpand⟩
    handler services expand site .noExpand context = .error (.panic (.parameter 0)) context := rfl

end Partial
end TextMacros
