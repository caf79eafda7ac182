import TextMacros.Proofs.Counter
import TextMacros.Proofs.Expansion.Substitution

/-!
# Documents that count

A document of plain literals and counter operations is a program for the machine on finite maps. Its
expansion runs the program: the parameters of an operation are plain, so they are expanded to
themselves, and what the operation then does to the stored counters is what the machine does to its
map. The induction is on the items that are ahead. It carries the two facts that the next operation
needs: the counters represent the map, and one more level may be opened for a parameter.
-/

namespace TextMacros

open Token

/-! ## Programs -/

/-- A counter operation with plain parameters, as an invocation spells it. The delimiters and the
blanks are free, and so is the spacing of the name. -/
structure WrittenOperation where
  /-- The operation. -/
  operation : CounterOperation
  /-- The invocation behind its introducer. -/
  spelling : Text
  /-- The parameters hold no introducer. -/
  plain : ∀ parameter ∈ operation.parameters, introducer ∉ parameter
  /-- The invocation calls the primitive of the operation with its parameters. -/
  spelled : ∃ written, SignatureForm written operation.parameters spelling ∧
    Name.canonical? written = some operation.primitive.name

/-- A part of a document that counts. -/
inductive CounterItem where
  /-- A text that stands for itself. -/
  | literal (text : Text) (plain : introducer ∉ text)
  /-- An operation. -/
  | operation (written : WrittenOperation)

/-- Where and why the machine stops. -/
structure CounterStop where
  /-- Why the operation is refused. -/
  cause : Cause
  /-- The span of the operation in its document. -/
  span : Span
  /-- The map, which the refused operation leaves as it is. -/
  tally : Tally

namespace CounterItem

/-- An item as it is written. -/
def text : CounterItem → Text
  | literal text _ => text
  | operation written => introducer :: written.spelling

/-- The document of some items. -/
def document (items : List CounterItem) : Text := items.flatMap text

/-- Runs the items in order from an offset of their document. The machine stops at the first
operation that it refuses. -/
def run (offset : Nat) (tally : Tally) : List CounterItem → Except CounterStop (Text × Tally)
  | [] => .ok ([], tally)
  | literal text _ :: rest =>
    (run (offset + text.size) tally rest).map fun (output, later) => (text ++ output, later)
  | operation written :: rest =>
    match written.operation.take tally with
    | .error cause => .error ⟨cause, ⟨offset, 1 + written.spelling.size⟩, tally⟩
    | .ok (value, middle) =>
      (run (offset + 1 + written.spelling.size) middle rest).map fun (output, later) =>
        (value ++ output, later)

/-- The map when a run ends, whether it comes to the end of its items or stops. -/
def tallyOf : Except CounterStop (Text × Tally) → Tally
  | .ok (_, tally) => tally
  | .error stop => stop.tally

/-- What a run puts out has no influence on the map. -/
theorem tallyOf_map (front : Text) (ended : Except CounterStop (Text × Tally)) :
    tallyOf (ended.map fun (output, tally) => (front ++ output, tally)) = tallyOf ended := by
  cases ended <;> rfl

/-- One more operation changes no number under another name. -/
theorem lookup_tallyOf_run (items : List CounterItem) (written : WrittenOperation) (offset : Nat)
    (tally : Tally) {name : Text} (other : name ≠ written.operation.target) :
    (tallyOf (run offset tally (items ++ [operation written]))).lookup name =
      (tallyOf (run offset tally items)).lookup name := by
  induction items generalizing offset tally with
  | nil =>
    show (tallyOf (run offset tally [operation written])).lookup name = tally.lookup name
    unfold run
    cases outcome : written.operation.take tally with
    | error cause => rfl
    | ok ended => exact CounterOperation.lookup_of_take outcome other
  | cons item rest hypothesis =>
    rw [List.cons_append]
    cases item with
    | literal text plain =>
      unfold run
      rw [tallyOf_map, tallyOf_map]
      exact hypothesis (offset + text.size) tally
    | operation first =>
      unfold run
      dsimp only
      cases first.operation.take tally with
      | error cause => rfl
      | ok ended =>
        obtain ⟨value, middle⟩ := ended
        dsimp only
        rw [tallyOf_map, tallyOf_map]
        exact hypothesis _ middle

end CounterItem

/-! ## The simulation -/

namespace Expansion

variable {State : Type} {services : Services State}

/-- A context counts as a map does, and a parameter may be expanded in it. -/
structure Counts (tally : Tally) (context : Context State) : Prop where
  /-- The counters are those of the map. -/
  represents : context.counters.Represents tally
  /-- One more level is left. -/
  admitted : context.depth.remaining ≠ 0

/-- What is outside of the counters and the depth has no influence. -/
theorem Counts.of_alike {tally : Tally} {context other : Context State}
    (counts : Counts tally context) (alike : context.Alike other) : Counts tally other where
  represents := alike.counters ▸ counts.represents
  admitted := alike.depth ▸ counts.admitted

/-- The outcome of an operation at an invocation is that of the machine: the same output and the
new map, or a failure at the invocation and the old map. -/
def Takes (fragment : Fragment) (span : Span) (tally : Tally)
    (machine : Except Cause (Text × Tally))
    (result : EStateM.Result Failure (Context State) Text) : Prop :=
  match machine with
  | .ok (output, later) => ∃ final, result = .ok output final ∧ Counts later final
  | .error cause => ∃ final, result = .error ⟨cause, fragment, span⟩ final ∧ Counts tally final

section

variable {site : Site} {tally : Tally} {context : Context State}

/-- The value of a counter is the number under its name. -/
theorem counter_apply (site : Site) (name : Text) (counts : Counts tally context) :
    (tally.lookup name = none ∧ site.counter name context =
      .error ⟨.counterNotFound name, site.fragment, site.invocation.span⟩ context) ∨
    ∃ integer : Integer, tally.lookup name = some integer.value ∧
      site.counter name context = .ok integer context := by
  have same := counts.represents name
  have known : (get : Expansion State _) context = .ok context context := rfl
  unfold Site.counter
  rw [bind_of_ok _ known, ← same]
  cases context.counters.get? name with
  | none => exact .inl ⟨rfl, rfl⟩
  | some integer => exact .inr ⟨integer, rfl, rfl⟩

/-- A counter that is in the map takes every value. -/
theorem changeOrFail_setCounter (services : Services State) (site : Site) (cause : Cause)
    (name : Text) (value : Integer) (counts : Counts tally context) :
    (name ∉ tally ∧ changeOrFail services site cause (.setCounter name value) context =
      .error ⟨cause, site.fragment, site.invocation.span⟩ context) ∨
    (name ∈ tally ∧ ∃ final, changeOrFail services site cause (.setCounter name value) context =
      .ok () final ∧ Counts (tally.insert name value.value) final) := by
  have made : (Change.setCounter name value).made? context =
      (context.counters.set? name value).map fun counters => { context with counters } := rfl
  rw [changeOrFail_apply, made]
  rcases counts.represents.set? name value with ⟨absent, refused⟩ | ⟨present, changed, set, holds⟩
  · rw [refused]
    exact .inl ⟨absent, rfl⟩
  · rw [set]
    exact .inr ⟨present, _, rfl, ⟨holds, counts.admitted⟩⟩

/-- A counter that is not in the map is added to it with zero. -/
theorem changeOrFail_createCounter (services : Services State) (site : Site) (cause : Cause)
    (name : Text) (counts : Counts tally context) :
    (name ∈ tally ∧ changeOrFail services site cause (.createCounter name) context =
      .error ⟨cause, site.fragment, site.invocation.span⟩ context) ∨
    (name ∉ tally ∧ ∃ final, changeOrFail services site cause (.createCounter name) context =
      .ok () final ∧ Counts (tally.insert name 0) final) := by
  have made : (Change.createCounter name).made? context =
      (context.counters.create? name).map fun counters => { context with counters } := rfl
  rw [changeOrFail_apply, made]
  rcases counts.represents.create? name with ⟨present, refused⟩ | ⟨absent, extended, created, holds⟩
  · rw [refused]
    exact .inl ⟨present, rfl⟩
  · rw [created]
    exact .inr ⟨absent, _, rfl, ⟨holds, counts.admitted⟩⟩

/-- A plain name is expanded to itself, and the counters stay. -/
theorem expands_plain (services : Services State) {text : Text} (plain : introducer ∉ text)
    (origin : Origin) (counts : Counts tally context) :
    ∃ final, Counts tally final ∧ ofText services text [] origin context = .ok text final := by
  have expanded : ∃ final, context.Alike final ∧
      ofText services text [] origin context = .ok text final :=
    ofText_of_plain plain counts.admitted
  obtain ⟨final, alike, success⟩ := expanded
  exact ⟨final, counts.of_alike alike, success⟩

/-- A counter is declared as its name is. -/
theorem takes_newCounter (site : Site) {name : Text} (plain : introducer ∉ name)
    (counts : Counts tally context) :
    Takes site.fragment site.invocation.span tally
      (CounterOperation.take tally (.declare name))
      (perform services (ofText services) site (.newCounter name) context) := by
  obtain ⟨later, held, named⟩ := expands_plain services plain (site.parameter 1) counts
  rw [perform_newCounter, bind_of_ok _ named]
  simp only [CounterOperation.take]
  rcases changeOrFail_createCounter services site (.duplicateCounter name) name held with
    ⟨present, refused⟩ | ⟨absent, final, created, ends⟩
  · rw [if_pos present]
    exact ⟨later, bind_of_error _ refused, held⟩
  · rw [if_neg absent]
    exact ⟨_, bind_of_ok _ created, ends.of_alike ⟨rfl, rfl, rfl, rfl⟩⟩

/-- A counter is set as the number under its name is. The value is read first. -/
theorem takes_setCounter (site : Site) (set : site.primitive = .setCounter) {name value : Text}
    (plain : introducer ∉ name) (plainValue : introducer ∉ value) (counts : Counts tally context) :
    Takes site.fragment site.invocation.span tally
      (CounterOperation.take tally (.assign name value))
      (perform services (ofText services) site (.setCounter name value) context) := by
  obtain ⟨middle, still, named⟩ := expands_plain services plain (site.parameter 1) counts
  obtain ⟨later, held, valued⟩ := expands_plain services plainValue (site.parameter 2) still
  rw [perform_setCounter, bind_of_ok _ named, bind_of_ok _ valued]
  simp only [CounterOperation.take, Site.integer]
  cases Integer.parse? value with
  | none =>
    rw [set]
    exact ⟨later, rfl, held⟩
  | some integer =>
    have read : site.orFail (.notAnInteger site.primitive value) (some integer) later =
        .ok integer later := rfl
    rw [bind_of_ok _ read]
    dsimp only
    rcases changeOrFail_setCounter services site (.counterNotFound name) name integer held with
      ⟨absent, refused⟩ | ⟨present, final, changed, ends⟩
    · rw [if_neg absent]
      exact ⟨later, bind_of_error _ refused, held⟩
    · rw [if_pos present]
      exact ⟨final, bind_of_ok _ changed, ends⟩

/-- A counter is read as the number under its name is. -/
theorem takes_counter (site : Site) {name : Text} (plain : introducer ∉ name)
    (counts : Counts tally context) :
    Takes site.fragment site.invocation.span tally (CounterOperation.take tally (.read name))
      (perform services (ofText services) site (.counter name) context) := by
  obtain ⟨later, held, named⟩ := expands_plain services plain (site.parameter 1) counts
  have performed : perform services (ofText services) site (.counter name) context =
      (site.counter name >>= fun value => pure value.text) later := bind_of_ok _ named
  rw [performed]
  simp only [CounterOperation.take]
  rcases counter_apply site name held with ⟨absent, missing⟩ | ⟨integer, present, found⟩
  · rw [absent]
    exact ⟨later, bind_of_error _ missing, held⟩
  · rw [present]
    dsimp only
    rw [← integer.text_eq_toString]
    exact ⟨later, bind_of_ok _ found, held⟩

/-- A sum in the range of integers is the value of an integer, and any other one is a failure on the
operand. -/
theorem add_apply (site : Site) (operand : Integer) (amount : Int) (context : Context State) :
    (¬ (-2 ^ 63 ≤ operand.value + amount ∧ operand.value + amount ≤ 2 ^ 63 - 1) ∧
      site.add operand amount context = .error
        ⟨.notAnInteger site.primitive operand.text, site.fragment, site.invocation.span⟩
        context) ∨
    ((-2 ^ 63 ≤ operand.value + amount ∧ operand.value + amount ≤ 2 ^ 63 - 1) ∧
      ∃ sum : Integer, sum.value = operand.value + amount ∧
        site.add operand amount context = .ok sum context) := by
  by_cases inRange : -2 ^ 63 ≤ operand.value + amount ∧ operand.value + amount ≤ 2 ^ 63 - 1
  · have bounds : -integerBound ≤ operand.value + amount ∧
        operand.value + amount < integerBound := by
      unfold integerBound
      omega
    have sum : operand.add? amount = some ⟨operand.value + amount, bounds.1, bounds.2⟩ :=
      Integer.ofInt?_eq_some.mpr rfl
    unfold Site.add
    rw [sum]
    exact .inr ⟨inRange, _, rfl, rfl⟩
  · have none : operand.add? amount = none := by
      unfold Integer.add? Integer.ofInt? integerBound
      rw [dif_neg]
      omega
    unfold Site.add
    rw [none]
    exact .inl ⟨inRange, rfl⟩

/-- A counter is adjusted as the number under its name is. -/
theorem takes_adjustCounter (site : Site) {name : Text} (plain : introducer ∉ name) (amount : Int)
    (counts : Counts tally context) :
    Takes site.fragment site.invocation.span tally
      (CounterOperation.change site.primitive name amount tally)
      (perform services (ofText services) site (.adjustCounter amount name) context) := by
  obtain ⟨later, held, named⟩ := expands_plain services plain (site.parameter 1) counts
  rw [perform_adjustCounter, bind_of_ok _ named]
  unfold CounterOperation.change
  rcases counter_apply site name held with ⟨absent, missing⟩ | ⟨integer, present, found⟩
  · rw [absent, bind_of_error _ missing]
    exact ⟨later, rfl, held⟩
  · rw [present, bind_of_ok _ found]
    dsimp only
    have member : name ∈ tally := by
      rw [Finmap.mem_iff]
      exact ⟨integer.value, present⟩
    rcases add_apply site integer amount later with ⟨outside, failed⟩ | ⟨inside, sum, value, added⟩
    · rw [if_neg outside, bind_of_error _ failed, ← integer.text_eq_toString]
      exact ⟨later, rfl, held⟩
    · rw [if_pos inside, bind_of_ok _ added, ← value]
      rcases changeOrFail_setCounter services site (.counterNotFound name) name sum held with
        ⟨missing, -⟩ | ⟨-, final, set, ends⟩
      · exact absurd member missing
      · rw [bind_of_ok _ set]
        exact ⟨final, rfl, ends⟩

/-- An operation with plain parameters does to the counters what the machine does to the map. -/
theorem takes_perform (services : Services State) (operation : CounterOperation)
    (plain : ∀ parameter ∈ operation.parameters, introducer ∉ parameter) (fragment : Fragment)
    (invocation : Invocation) (counts : Counts tally context) :
    Takes fragment invocation.span tally (operation.take tally)
      (perform services (ofText services) ⟨fragment, invocation, operation.primitive⟩
        operation.call context) := by
  have named : introducer ∉ operation.target := by
    apply plain
    cases operation <;> exact List.mem_cons_self
  cases operation with
  | declare name => exact takes_newCounter _ named counts
  | assign name value =>
    have plainValue : introducer ∉ value :=
      plain value (List.mem_cons_of_mem name List.mem_cons_self)
    exact takes_setCounter _ rfl named plainValue counts
  | read name => exact takes_counter _ named counts
  | increment name =>
    exact takes_adjustCounter ⟨fragment, invocation, .incrementCounter⟩ named 1 counts
  | decrement name =>
    exact takes_adjustCounter ⟨fragment, invocation, .decrementCounter⟩ named (-1) counts

end

/-- The outcome of a run is that of the machine: the same output, or a failure where the machine
stops. The counters are those of the map at the end. -/
def Runs (fragment : Fragment) (machine : Except CounterStop (Text × Tally))
    (result : EStateM.Result Failure (Context State) Text) : Prop :=
  (contextOf result).counters.Represents (CounterItem.tallyOf machine) ∧
  match machine with
  | .ok (output, _) => ∃ final, result = .ok output final
  | .error stop => ∃ final, result = .error ⟨stop.cause, fragment, stop.span⟩ final

/-- A run that puts out some text and goes on puts the text in front of what follows. -/
theorem Runs.append {fragment : Fragment} {machine : Except CounterStop (Text × Tally)}
    {expansion : Expansion State Text} {context : Context State}
    (runs : Runs fragment machine (expansion context)) (front : Text) :
    Runs fragment (machine.map fun (output, tally) => (front ++ output, tally))
      ((expansion >>= fun others => pure (front ++ others)) context) := by
  obtain ⟨represents, ends⟩ := runs
  cases machine with
  | error stop =>
    obtain ⟨final, failed⟩ := ends
    rw [failed] at represents
    have same := bind_of_error (fun others => pure (front ++ others)) failed
    rw [same]
    exact ⟨represents, final, rfl⟩
  | ok ended =>
    obtain ⟨output, tally⟩ := ended
    obtain ⟨final, success⟩ := ends
    rw [success] at represents
    have same := bind_of_ok (fun others => pure (front ++ others)) success
    rw [same]
    exact ⟨represents, final, rfl⟩

/-- Leaving a fragment changes no counter. -/
theorem Runs.within {fragment : Fragment} {machine : Except CounterStop (Text × Tally)}
    {expansion : Expansion State Text} {bindings : List Macro} {origin : Origin}
    {context : Context State}
    (runs : Runs fragment machine (expansion (context.enter bindings origin))) :
    Runs fragment machine (within bindings origin expansion context) := by
  obtain ⟨represents, ends⟩ := runs
  unfold Expansion.within
  cases outcome : expansion (context.enter bindings origin) with
  | ok value inside =>
    rw [outcome] at represents ends
    refine ⟨represents, ?_⟩
    cases machine with
    | error stop =>
      obtain ⟨final, failed⟩ := ends
      cases failed
    | ok ended =>
      obtain ⟨final, success⟩ := ends
      cases success
      exact ⟨inside.leave, rfl⟩
  | error failure inside =>
    rw [outcome] at represents ends
    refine ⟨represents, ?_⟩
    cases machine with
    | error stop =>
      obtain ⟨final, failed⟩ := ends
      cases failed
      exact ⟨inside.leave, rfl⟩
    | ok ended =>
      obtain ⟨final, success⟩ := ends
      cases success

/-- The items of a document are run as the machine runs them. -/
theorem runs_runFrom (services : Services State) (fragment : Fragment) (items : List CounterItem)
    (offset : Nat) {tally : Tally} {context : Context State} (counts : Counts tally context) :
    Runs fragment (CounterItem.run offset tally items)
      (runFrom services fragment ⟨offset, CounterItem.document items⟩ context) := by
  induction items generalizing offset tally context with
  | nil =>
    have nothing : introducer ∉ ([] : Text) := List.not_mem_nil
    show Runs fragment (.ok ([], tally)) (runFrom services fragment ⟨offset, []⟩ context)
    rw [runFrom_of_plain nothing]
    exact ⟨counts.represents, context, rfl⟩
  | cons item rest hypothesis =>
    cases item with
    | literal text plain =>
      show Runs fragment _
        (runFrom services fragment ⟨offset, text ++ CounterItem.document rest⟩ context)
      rw [runFrom_of_plain_front plain]
      exact (hypothesis (offset + text.size) counts).append text
    | operation written =>
      obtain ⟨operation, spelling, plain, name, spelled, canonical⟩ := written
      obtain ⟨noted, alike, step⟩ := runFrom_of_invocation services fragment spelled canonical
        offset (CounterItem.document rest) context
      let invocation : Invocation :=
        ⟨operation.primitive.name, operation.parameters, ⟨offset, 1 + spelling.size⟩⟩
      have resolved : ∃ called, noted.Alike called ∧
          resolve services (ofText services) fragment invocation noted =
            perform services (ofText services) ⟨fragment, invocation, operation.primitive⟩
              operation.call called :=
        resolve_of_primitive services (ofText services) fragment _ operation.ofName?_name
          operation.ofParameters?_eq_call noted
      obtain ⟨called, alikeCalled, performed⟩ := resolved
      have taken := takes_perform services operation plain fragment invocation
        ((counts.of_alike alike).of_alike alikeCalled)
      show Runs fragment _ (runFrom services fragment
        ⟨offset, introducer :: spelling ++ CounterItem.document rest⟩ context)
      rw [step]
      unfold CounterItem.run
      dsimp only
      cases outcome : operation.take tally with
      | error cause =>
        rw [outcome, ← performed] at taken
        obtain ⟨final, failed, ends⟩ := taken
        rw [bind_of_error _ failed]
        exact ⟨ends.represents, final, rfl⟩
      | ok ended =>
        obtain ⟨value, middle⟩ := ended
        rw [outcome, ← performed] at taken
        obtain ⟨final, success, ends⟩ := taken
        rw [bind_of_ok _ success]
        exact (hypothesis _ ends).append value

/-- A document without counters runs as the machine runs it from the empty map. -/
theorem runs_ofText (services : Services State) (items : List CounterItem) (origin : Origin)
    {context : Context State} (empty : context.counters.Represents ∅)
    (levels : 2 ≤ context.depth.remaining) :
    Runs ⟨origin, CounterItem.document items⟩ (CounterItem.run 0 ∅ items)
      (ofText services (CounterItem.document items) [] origin context) := by
  have admitted : context.depth.remaining ≠ 0 := by omega
  have counts : Counts ∅ (context.enter [] origin) := by
    refine ⟨?_, ?_⟩
    · rw [(context.entered_enter [] origin).counters]
      exact empty
    · rw [context.remaining_enter]
      omega
  have inside := runs_runFrom services ⟨origin, CounterItem.document items⟩ items 0
    counts
  rw [ofText_of_admitted admitted, run_eq_runFrom]
  exact inside.within

end Expansion

/-- The counters when the expansion of a document ends. -/
def countersAfter {State : Type} (settings : Settings) (prompt : Prompt State)
    (retriever : Retriever) (document : Text) (state : State) (journal : Journal) : Counters :=
  let begun := (Context.initial settings.maxDepth state journal).note
    (.expanding settings.sourceName document.size)
  (Expansion.contextOf (Expansion.ofText ⟨settings.pageMarker, prompt, retriever⟩ document []
    (.labelled settings.sourceName) begun)).counters

/-- Documents that count are programs for the machine on finite maps. With two levels or more, the
expansion of a document of plain literals and counter operations puts out what the machine puts
out, or fails at the first operation that the machine refuses, for the same cause; and the counters
at the end are those of the map. One more operation changes no counter but its own. -/
theorem expandDocument_counts {State : Type} (settings : Settings) (prompt : Prompt State)
    (retriever : Retriever) (items : List CounterItem) (state : State) (journal : Journal)
    (levels : 2 ≤ settings.maxDepth) :
    let document := CounterItem.document items
    let machine := CounterItem.run 0 ∅ items
    let fragment : Fragment := ⟨.labelled settings.sourceName, document⟩
    (expandDocument settings prompt retriever document state journal).result =
      (match machine with
        | .ok (output, _) => .ok output
        | .error stop => .error ⟨stop.cause, fragment, stop.span⟩) ∧
    (countersAfter settings prompt retriever document state journal).Represents
      (CounterItem.tallyOf machine) ∧
    ∀ (written : WrittenOperation) (name : Text), name ≠ written.operation.target →
      (countersAfter settings prompt retriever
        (CounterItem.document (items ++ [.operation written])) state journal).get? name =
      (countersAfter settings prompt retriever document state journal).get? name := by
  intro document machine fragment
  have runs : ∀ items : List CounterItem, Expansion.Runs
      ⟨.labelled settings.sourceName, CounterItem.document items⟩ (CounterItem.run 0 ∅ items)
      (Expansion.ofText ⟨settings.pageMarker, prompt, retriever⟩ (CounterItem.document items) []
        (.labelled settings.sourceName) ((Context.initial settings.maxDepth state journal).note
          (.expanding settings.sourceName (CounterItem.document items).size))) :=
    fun items => Expansion.runs_ofText _ items _ Counters.represents_empty levels
  refine ⟨?_, (runs items).1, ?_⟩
  · obtain ⟨-, ends⟩ := runs items
    unfold expandDocument
    dsimp only
    cases outcome : machine with
    | error stop =>
      have stops : CounterItem.run 0 ∅ items = .error stop := outcome
      rw [stops] at ends
      obtain ⟨final, failed⟩ := ends
      rw [failed]
    | ok ended =>
      have completes : CounterItem.run 0 ∅ items = .ok ended := outcome
      rw [completes] at ends
      obtain ⟨final, success⟩ := ends
      rw [success]
  · intro written name other
    have before := (runs items).1 name
    have behind := (runs (items ++ [.operation written])).1 name
    have same := CounterItem.lookup_tallyOf_run items written 0 ∅ other
    rw [← before, ← behind] at same
    exact Option.map_injective Integer.value_injective same

set_option maxRecDepth 4000 in
/-- A counter without a name is set to the greatest integer and read, and is not incremented any
more. -/
theorem expandDocument_counts_boundary :
    let document : Text := ("\\|new counter(\\!!\\)|\\" ++
      "\\;set  counter(\\,,\\ , \\| +9223372036854775807 |\\) ;\\" ++
      "<\\\\counter(\\,,\\)\\\\>\\|increment counter(\\,,\\)|\\").toList
    let settings : Settings := { Settings.default with maxDepth := 2 }
    ∃ items : List CounterItem, CounterItem.document items = document ∧ 2 ≤ settings.maxDepth ∧
      (expandDocument settings .silent .offline document () #[]).result =
        .error ⟨.notAnInteger .incrementCounter "9223372036854775807".toList,
          ⟨.labelled settings.sourceName, document⟩, ⟨92, 27⟩⟩ ∧
      (countersAfter settings .silent .offline document () #[]).get? [] =
        Integer.ofInt? 9223372036854775807 := by
  intro document settings
  have unnamed : TokenForm [] ['\\', ',', ',', '\\'] := .delimited ',' (by decide)
  have number : TokenForm " +9223372036854775807 ".toList
      (['\\', '|'] ++ " +9223372036854775807 ".toList ++ ['|', '\\']) :=
    .delimited '|' (by decide)
  have gap : Gap [] := by decide
  have one : ListForm [[]] ['\\', ',', ',', '\\', ')'] := .last gap unnamed gap
  have first : ListForm [[]] ['\\', '!', '!', '\\', ')'] :=
    .last gap (.delimited '!' (by decide)) gap
  have two : ListForm [[], " +9223372036854775807 ".toList] _ :=
    .more gap unnamed (by decide : Gap [' ']) (.last (by decide : Gap [' ']) number gap)
  let declare : WrittenOperation := ⟨.declare [], _, by decide, "new counter".toList,
    .list '|' (by decide) (by decide) (by decide) first gap (by decide), by decide⟩
  let assign : WrittenOperation := ⟨.assign [] " +9223372036854775807 ".toList, _, by decide,
    "set  counter".toList,
    .list ';' (by decide) (by decide) (by decide) two (by decide : Gap [' ']) (by decide),
    by decide⟩
  let read : WrittenOperation := ⟨.read [], _, by decide, "counter".toList,
    .list '\\' (by decide) (by decide) (by decide) one gap (by decide), by decide⟩
  let increment : WrittenOperation := ⟨.increment [], _, by decide, "increment counter".toList,
    .list '|' (by decide) (by decide) (by decide) one gap (by decide), by decide⟩
  let items : List CounterItem := [.operation declare, .operation assign,
    .literal ['<'] (by decide), .operation read, .literal ['>'] (by decide), .operation increment]
  have written : CounterItem.document items = document := rfl
  have levels : 2 ≤ settings.maxDepth := by decide
  obtain ⟨result, represents, -⟩ :=
    expandDocument_counts settings .silent .offline items () #[] levels
  rw [written] at result represents
  have stops : CounterItem.run 0 ∅ items =
      .error ⟨.notAnInteger .incrementCounter "9223372036854775807".toList, ⟨92, 27⟩,
        ((∅ : Tally).insert [] 0).insert [] 9223372036854775807⟩ := rfl
  rw [stops] at result represents
  have held : (((∅ : Tally).insert [] 0).insert [] 9223372036854775807).lookup [] =
      some 9223372036854775807 := Finmap.lookup_insert _
  have stored := (represents []).trans held
  refine ⟨items, written, levels, result, ?_⟩
  obtain ⟨integer, present, value⟩ := Option.map_eq_some_iff.mp stored
  rw [present]
  exact (Integer.ofInt?_eq_some.mpr value).symm

end TextMacros
