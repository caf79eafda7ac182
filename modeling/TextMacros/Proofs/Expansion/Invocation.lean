import TextMacros.Proofs.Definition
import TextMacros.Proofs.Expansion.Uniform

/-!
# Invocations are uniform

What an invocation does depends on its name and its parameters. The fragment that holds it and its
span there occur in failures alone, so one invocation at several places is a uniform family
(`Uniform.resolve`), whatever expander is used for its parameters at each of them. The proof goes
through the calls of primitives one by one, and through the call of a macro of a scope.
-/

namespace TextMacros
namespace Expansion

variable {State Index : Type}

/-- Failures at invocations in several fragments, and failures of the definitions in their
parameters, may stand for each other. -/
structure Admits (fragment : Index → Fragment) (invocation : Index → Invocation)
    (fails : (Index → Failure) → Prop) : Prop where
  /-- A failure at the invocation. -/
  own : ∀ cause, fails fun index => ⟨cause, fragment index, (invocation index).span⟩
  /-- A failure in the parameter that should define a macro. -/
  definition : ∀ fragment failure, Macro.ofDefinition fragment = .error failure →
    fails fun _ => failure

/-- The failures that a segment of one fragment ends in by itself are allowed. -/
def AdmitsSegment (whole : Fragment) (fails : (Index → Failure) → Prop) : Segment → Prop
  | .literal _ => True
  | .invocation found => Admits (fun _ => whole) (fun _ => found) fails
  | .broken failure => fails fun _ => failure

/-- Where all failures are allowed, so are those of every segment. -/
theorem admitsSegment_of_allowed {whole : Fragment} {fails : (Index → Failure) → Prop}
    {segment : Segment} (allowed : ∀ failure, fails fun _ => failure) :
    AdmitsSegment whole fails segment := by
  cases segment with
  | literal text => trivial
  | invocation found =>
    exact { own := fun cause => allowed ⟨cause, whole, found.span⟩
            definition := fun _ failure _ => allowed failure }
  | broken failure => exact allowed failure

namespace Uniform

section

variable {services : Services State} {inner : Index → Expander State}
  {fails : (Index → Failure) → Prop} {fragment : Index → Fragment}
  {invocation : Index → Invocation} {primitive : Primitive} {α : Type}

/-! ## Parts of a call -/

/-- The expansion of a parameter. -/
theorem parameter (text : Text) (bindings : List Macro) (position : Nat) :
    Uniform services inner fails fun index => inner index text bindings
      ((Site.mk (fragment index) (invocation index) primitive).parameter position) :=
  .expand text bindings (.parameter position primitive.name)

/-- A failure at an invocation. -/
theorem siteFail (admits : Admits fragment invocation fails) (cause : Cause) :
    Uniform services inner fails fun index =>
      ((Site.mk (fragment index) (invocation index) primitive).fail cause : Expansion State α) :=
  .fail _ (admits.own cause)

/-- A value that may be missing. -/
theorem orFail (admits : Admits fragment invocation fails) (cause : Cause) (value? : Option α) :
    Uniform services inner fails fun index =>
      (Site.mk (fragment index) (invocation index) primitive).orFail cause value? := by
  cases value? with
  | none => exact siteFail admits cause
  | some value => exact .pure value

/-- An integer that is read from a text. -/
theorem integer (admits : Admits fragment invocation fails) (text : Text) :
    Uniform services inner fails fun index =>
      (Site.mk (fragment index) (invocation index) primitive).integer text :=
  orFail admits (.notAnInteger primitive text) (Integer.parse? text)

/-- A sum that may be out of range. -/
theorem add (admits : Admits fragment invocation fails) (operand : Integer) (amount : Int) :
    Uniform services inner fails fun index =>
      (Site.mk (fragment index) (invocation index) primitive).add operand amount :=
  orFail admits (.notAnInteger primitive operand.text) (operand.add? amount)

/-- The value of a counter. -/
theorem counter (admits : Admits fragment invocation fails) (name : Text) :
    Uniform services inner fails fun index =>
      (Site.mk (fragment index) (invocation index) primitive).counter name := by
  simp only [counter_eq services]
  exact .bind (.step (.counter name) trivial) fun value? => orFail admits _ value?

/-- A change that may be refused. -/
theorem change (admits : Admits fragment invocation fails) (cause : Cause) (change : Change)
    (permitted : (Step.change change).Permitted) :
    Uniform services inner fails fun index =>
      changeOrFail services (Site.mk (fragment index) (invocation index) primitive) cause
        change := by
  refine .bind (.step (.change change) permitted) fun made => ?_
  cases made with
  | false => exact siteFail admits cause
  | true => exact .pure ()

/-- The definition of a macro whose formal parameters differ. -/
theorem define (admits : Admits fragment invocation fails) (region : Region)
    (definition : Macro) (distinct : definition.parameters.Nodup) :
    Uniform services inner fails fun index =>
      Expansion.define (Site.mk (fragment index) (invocation index) primitive) region
        definition := by
  simp only [define_eq services]
  exact change admits _ (.define region definition) distinct

/-! ## Calls -/

/-- The call of a primitive is uniform. -/
theorem perform (admits : Admits fragment invocation fails) (call : Call) :
    Uniform services inner fails fun index =>
      Expansion.perform services (inner index)
        (Site.mk (fragment index) (invocation index) primitive) call := by
  cases call with
  | comment text => exact .pure []
  | define region definition =>
    have located : ∀ index, (Site.mk (fragment index) (invocation index) primitive).parameter 1 =
      .parameter 1 primitive.name := fun _ => rfl
    simp only [Expansion.perform, located]
    cases outcome : Macro.ofDefinition ⟨.parameter 1 primitive.name, definition⟩ with
    | error failure => exact .fail _ (admits.definition _ failure outcome)
    | ok found =>
      obtain ⟨-, -, -, distinct⟩ := Macro.ofDefinition_eq_ok.mp outcome
      exact .bind (.note _ rfl) fun _ => .bind (define admits region found distinct) fun _ =>
        .pure []
  | newLine => exact .pure ['\n']
  | newPage => exact .pure services.pageMarker
  | noExpand text => exact .pure text
  | repetition count body =>
    refine .bind (parameter count [] 1) fun count => .bind (integer admits count) fun count => ?_
    split
    · exact siteFail admits _
    · exact times _ (parameter body [] 2)
  | forEach items pattern =>
    refine .bind (mapM _ fun (item, index) => ?_) fun results => .pure results.flatten
    exact .bind (parameter item [] (index + 1)) fun value => parameter pattern _ _
  | inputText title initial =>
    simp only [perform_inputText]
    refine .bind (parameter title [] 1) fun title => .bind (parameter initial [] 2) fun initial =>
      .bind (.step (.ask title initial) trivial) fun reply => ?_
    split
    · exact .expand reply.text [] (.reply primitive.name)
    · exact .pure reply.text
  | sendMessage title body =>
    simp only [perform_sendMessage]
    exact .bind (parameter title [] 1) fun title => .bind (parameter body [] 2) fun body =>
      .bind (.step (.notify title body) trivial) fun _ => .pure []
  | newCounter name =>
    simp only [perform_newCounter]
    exact .bind (parameter name [] 1) fun name => .bind (change admits _ _ trivial) fun _ =>
      .bind (.note _ rfl) fun _ => .pure []
  | setCounter name value =>
    simp only [perform_setCounter]
    exact .bind (parameter name [] 1) fun name => .bind (parameter value [] 2) fun value =>
      .bind (integer admits value) fun value => .bind (change admits _ _ trivial) fun _ => .pure []
  | counter name =>
    exact .bind (parameter name [] 1) fun name => .bind (counter admits name) fun value =>
      .pure value.text
  | adjust amount operand =>
    exact .bind (parameter operand [] 1) fun operand =>
      .bind (integer admits operand) fun operand =>
        .bind (add admits operand amount) fun adjusted => .pure adjusted.text
  | adjustCounter amount name =>
    simp only [perform_adjustCounter]
    exact .bind (parameter name [] 1) fun name => .bind (counter admits name) fun value =>
      .bind (add admits value amount) fun _ => .bind (change admits _ _ trivial) fun _ => .pure []
  | checkCondition condition whenTrue whenFalse =>
    refine .bind (parameter condition [] 1) fun condition => ?_
    split
    · exact parameter whenTrue [] 2
    · split
      · exact parameter whenFalse [] 3
      · exact siteFail admits _
  | isZero operand =>
    exact .bind (parameter operand [] 1) fun operand =>
      .bind (integer admits operand) fun operand => .pure (truth (operand.value = 0))
  | compare order left right =>
    exact .bind (parameter left [] 1) fun left => .bind (integer admits left) fun left =>
      .bind (parameter right [] 2) fun right => .bind (integer admits right) fun right =>
        .pure (truth (compare left.value right.value = order))
  | getUrl locator =>
    simp only [perform_getUrl]
    refine .bind (parameter locator [] 1) fun locator =>
      .bind (.step (.fetch locator) trivial) fun result => ?_
    cases result with
    | ok text => exact .pure text
    | error error => exact siteFail admits _

/-- The call of a macro of a scope is uniform. -/
theorem callMacro (definition : Macro) (parameters : List Text) :
    Uniform services inner fails fun index =>
      Expansion.callMacro (inner index) definition parameters :=
  .bind (mapM _ fun (parameter, position) =>
      .expand parameter [] (.parameter (position + 1) definition.name)) fun values =>
    .expand definition.body (List.zipWith Macro.constant definition.parameters values)
      (.body definition.name)

/-- One invocation in several fragments is resolved uniformly. -/
theorem resolve {span : Index → Span} (name : Text) (parameters : List Text)
    (admits : Admits fragment (fun index => ⟨name, parameters, span index⟩) fails) :
    Uniform services inner fails fun index =>
      Expansion.resolve services (inner index) (fragment index)
        ⟨name, parameters, span index⟩ := by
  cases called : Primitive.ofName? name with
  | some primitive =>
    simp only [Expansion.resolve, called]
    refine .bind (.note _ rfl) fun _ => ?_
    cases Call.ofParameters? primitive parameters with
    | none => exact siteFail admits _
    | some call => exact perform admits call
  | none =>
    have user : ∀ index, Expansion.resolve services (inner index) (fragment index)
        ⟨name, parameters, span index⟩ = _ := fun index =>
      resolve_of_not_primitive services (inner index) called
    simp only [user]
    refine .bind (.step (.lookup ⟨name, parameters.length⟩) called) fun found => ?_
    cases found with
    | none => exact .fail _ (admits.own (.macroNotFound name parameters.length))
    | some definition => exact callMacro definition parameters

/-- One segment is expanded uniformly, if its own failures are allowed. -/
theorem ofSegment {whole : Fragment} {segment : Segment}
    (admits : AdmitsSegment whole fails segment) :
    Uniform services inner fails fun index =>
      Expansion.ofSegment services (inner index) whole segment := by
  cases segment with
  | literal text => exact .pure text
  | invocation found =>
    exact .bind (.note _ rfl) fun _ => resolve found.name found.parameters admits
  | broken failure => exact .fail _ admits

/-- One fragment is expanded uniformly, whatever the nested expander is, if the failures of its own
segments are allowed. -/
theorem ofFragment_of_segments (whole : Fragment)
    (admits : ∀ segment ∈ whole.segments, AdmitsSegment whole fails segment) :
    Uniform services inner fails fun index =>
      Expansion.ofFragment services (inner index) whole :=
  .bind (mapM_of_mem whole.segments fun segment member => ofSegment (admits segment member))
    fun results => .pure results.flatten

/-- One fragment is expanded uniformly if all failures are allowed. -/
theorem ofFragment (allowed : ∀ failure, fails fun _ => failure) (whole : Fragment) :
    Uniform services inner fails fun index =>
      Expansion.ofFragment services (inner index) whole :=
  ofFragment_of_segments whole fun _ _ => admitsSegment_of_allowed allowed

end

end Uniform

end Expansion
end TextMacros
