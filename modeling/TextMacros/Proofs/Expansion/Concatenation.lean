import TextMacros.Proofs.Expansion.Traversal

/-!
# Concatenated texts

A run over a concatenation is a run over the first text and then one over the second, from the
context that the first one leaves. Nothing is read ahead across the border and nothing behind it is
looked at, so the first text fails as it does alone, unless it fails because it ends inside an
invocation. Failures of nested texts are the same in both; failures of the fragment itself are shown
in the whole text, behind the first one where they belong to the second (`run_append`).
-/

namespace TextMacros

open Token

namespace Expansion

variable {State Index : Type} {services : Services State}

/-- The run over a text fails in the text itself and not in a text nested in it: the failure is
reported against the fragment, whatever origin the fragment is given. -/
def FailsItself (services : Services State) (text : Text) (context : Context State) : Prop :=
  ∀ origin, ∃ failure later, run services ⟨origin, text⟩ context = .error failure later ∧
    failure.fragment = ⟨origin, text⟩

/-- A failure that is the same for every origin is a failure of a nested text. -/
theorem not_failsItself_of_shared {text : Text} {context : Context State} {failure : Failure}
    (outcome : ∀ origin, ∃ later, run services ⟨origin, text⟩ context = .error failure later) :
    ¬ FailsItself services text context := by
  intro itself
  have reported : ∀ origin, failure.fragment = ⟨origin, text⟩ := by
    intro origin
    obtain ⟨found, last, failed, fragment⟩ := itself origin
    obtain ⟨later, alsoFailed⟩ := outcome origin
    rw [alsoFailed] at failed
    cases failed
    exact fragment
  -- Two origins would give one and the same fragment.
  have clash := (reported (.body [])).symm.trans (reported (.reply []))
  cases clash

/-- A failure at a span of a text that is a fragment of its own is a failure of the text itself. -/
theorem failsItself_of_fault {part : Part (Option Origin)} {text : Text} {context : Context State}
    {cause : Cause} {span : Span} (hosts : ∀ other, part.host (some other) = ⟨other, text⟩)
    (alone : ∀ other, ∃ later, run services ⟨other, text⟩ context =
      .error (part.fault cause span (some other)) later) :
    FailsItself services text context := by
  intro other
  obtain ⟨later, failed⟩ := alone other
  exact ⟨_, later, failed, hosts other⟩

/-- Placed failures tell whether a text that is a fragment of its own fails itself. -/
theorem failsItself_or_shared {part : Part (Option Origin)} {text : Text}
    {context : Context State} {failure : Option Origin → Failure}
    (hosts : ∀ other, part.host (some other) = ⟨other, text⟩)
    (alone : ∀ other, ∃ later, run services ⟨other, text⟩ context =
      .error (failure (some other)) later) (placed : part.Placed failure) :
    (FailsItself services text context ∧ ∃ cause span, failure = part.fault cause span) ∨
      (¬ FailsItself services text context ∧ Shared failure) := by
  rcases placed with ⟨nested, rfl⟩ | ⟨cause, span, -, rfl⟩
  · exact .inr ⟨not_failsItself_of_shared alone, nested, rfl⟩
  · exact .inl ⟨failsItself_of_fault hosts alone, cause, span, rfl⟩

/-- A text in front of another one, under one origin, and alone, under every origin. -/
def frontPart (origin : Origin) (first second : Text) : Part (Option Origin) where
  text := first
  origin index := index.getD origin
  before _ := []
  after index := if index.isNone then second else []

/-- A text behind another one, under one origin, and alone, under every origin. -/
def backPart (origin : Origin) (first second : Text) : Part (Option Origin) where
  text := second
  origin index := index.getD origin
  before index := if index.isNone then first else []
  after _ := []

/-- Alone, the front part is the whole fragment. -/
theorem frontPart_host_some (origin other : Origin) (first second : Text) :
    (frontPart origin first second).host (some other) = ⟨other, first⟩ := by
  simp [frontPart, Part.host]

/-- Alone, the back part is the whole fragment. -/
theorem backPart_host_some (origin other : Origin) (first second : Text) :
    (backPart origin first second).host (some other) = ⟨other, second⟩ := by
  simp [backPart, Part.host]

/-- The concatenation holds the front part. -/
theorem frontPart_host_none (origin : Origin) (first second : Text) :
    (frontPart origin first second).host none = ⟨origin, first ++ second⟩ := rfl

/-- The concatenation holds the back part. -/
theorem backPart_host_none (origin : Origin) (first second : Text) :
    (backPart origin first second).host none = ⟨origin, first ++ second⟩ := by
  simp [backPart, Part.host]

/-- The front part alone is run as the whole text. -/
theorem runFrom_frontPart_some (origin other : Origin) (first second : Text) :
    runFrom services ((frontPart origin first second).host (some other))
      ((frontPart origin first second).place [] first (some other)) =
        run services ⟨other, first⟩ := by
  rw [frontPart_host_some, run_eq_runFrom]
  simp [frontPart, Part.place, Cursor.start]

/-- The concatenation is run from the front part on. -/
theorem runFrom_frontPart_none (origin : Origin) (first second : Text) :
    runFrom services ((frontPart origin first second).host none)
      ((frontPart origin first second).place [] first none) =
        run services ⟨origin, first ++ second⟩ := rfl

/-- The back part alone is run as the whole text. -/
theorem runFrom_backPart_some (origin other : Origin) (first second : Text) :
    runFrom services ((backPart origin first second).host (some other))
      ((backPart origin first second).place [] second (some other)) =
        run services ⟨other, second⟩ := by
  rw [backPart_host_some, run_eq_runFrom]
  simp [backPart, Part.place, Cursor.start]

/-- Behind the front part, the concatenation is run from the back part on. -/
theorem runFrom_frontPart_end (origin : Origin) (first second : Text) :
    runFrom services ((frontPart origin first second).host none)
      ((frontPart origin first second).place first [] none) =
        runFrom services ((backPart origin first second).host none)
          ((backPart origin first second).place [] second none) := by
  rw [frontPart_host_none, backPart_host_none]
  simp [frontPart, backPart, Part.place]

/-- When the first text succeeds, the run over the concatenation goes on with the second one. -/
theorem run_append_of_ok {origin : Origin} {context later : Context State} {first output : Text}
    (success : run services ⟨origin, first⟩ context = .ok output later) (second : Text) :
    ∃ middle, later.Alike middle ∧ run services ⟨origin, first ++ second⟩ context =
      (runFrom services ((backPart origin first second).host none)
        ((backPart origin first second).place [] second none) >>= fun others =>
          pure (output ++ others)) middle := by
  rw [← runFrom_frontPart_end, ← runFrom_frontPart_none]
  rw [← runFrom_frontPart_some origin origin first second] at success
  have whole : (frontPart origin first second).text = [] ++ first := rfl
  cases ((frontPart origin first second).carries_allAlike services).traverse whole
    (fun _ => context) ⟨context, fun _ => .refl context⟩ with
  | through value after alike outcome =>
    have alone := outcome (some origin)
    rw [Part.runFrom_end _ rfl, pure_bind, List.append_nil] at alone
    obtain ⟨rfl, rfl⟩ : value = output ∧ after (some origin) = later := by
      have same := alone.symm.trans success
      cases same
      exact ⟨rfl, rfl⟩
    obtain ⟨common, same⟩ := alike
    exact ⟨after none, (same (some origin)).symm.trans (same none), outcome none⟩
  | stopped failure after placed alike outcome =>
    have clash := (outcome (some origin)).symm.trans success
    cases clash
  | cut span after inside unfinished alike outcome =>
    have clash := (outcome (some origin) rfl).symm.trans success
    cases clash

/-- When the first text fails, and not because it ends inside an invocation, the run over the
concatenation fails with it. -/
theorem run_append_of_error {origin : Origin} {context later : Context State} {first : Text}
    {failure : Failure} (failed : run services ⟨origin, first⟩ context = .error failure later)
    (complete : ¬ (failure.cause = .malformedMacro .unclosed ∧
      FailsItself services first context)) (second : Text) :
    ∃ moved final, later.Alike final ∧
      run services ⟨origin, first ++ second⟩ context = .error moved final ∧
      moved.cause = failure.cause ∧ moved.span = failure.span ∧
      (FailsItself services first context → moved.fragment = ⟨origin, first ++ second⟩) ∧
      (¬ FailsItself services first context → moved.fragment = failure.fragment) := by
  rw [← runFrom_frontPart_none]
  rw [← runFrom_frontPart_some origin origin first second] at failed
  have whole : (frontPart origin first second).text = [] ++ first := rfl
  cases ((frontPart origin first second).carries_allAlike services).traverse whole
    (fun _ => context) ⟨context, fun _ => .refl context⟩ with
  | through value after alike outcome =>
    have alone := outcome (some origin)
    rw [Part.runFrom_end _ rfl, pure_bind, List.append_nil] at alone
    have clash := alone.symm.trans failed
    cases clash
  | stopped found after placed alike outcome =>
    obtain ⟨rfl, rfl⟩ : found (some origin) = failure ∧ after (some origin) = later := by
      have same := (outcome (some origin)).symm.trans failed
      cases same
      exact ⟨rfl, rfl⟩
    obtain ⟨common, same⟩ := alike
    have alone : ∀ other, ∃ last, run services ⟨other, first⟩ context =
        .error (found (some other)) last := by
      intro other
      rw [← runFrom_frontPart_some origin other first second]
      exact ⟨_, outcome (some other)⟩
    refine ⟨found none, after none, (same (some origin)).symm.trans (same none), outcome none, ?_⟩
    rcases failsItself_or_shared (frontPart_host_some origin · first second) alone placed with
      ⟨itself, cause, span, rfl⟩ | ⟨outside, nested, rfl⟩
    · exact ⟨rfl, rfl, fun _ => rfl, fun outside => absurd itself outside⟩
    · exact ⟨rfl, rfl, fun itself => absurd itself outside, fun _ => rfl⟩
  | cut span after inside unfinished alike outcome =>
    -- The second text could close the invocation, so this failure is the one that is left out.
    have alone : ∀ other, ∃ last, run services ⟨other, first⟩ context =
        .error ((frontPart origin first second).fault (.malformedMacro .unclosed) span
          (some other)) last := by
      intro other
      rw [← runFrom_frontPart_some origin other first second]
      exact ⟨_, outcome (some other) rfl⟩
    have same := (outcome (some origin) rfl).symm.trans failed
    cases same
    have itself : FailsItself services first context :=
      failsItself_of_fault (frontPart_host_some origin · first second) alone
    exact absurd ⟨rfl, itself⟩ complete

/-- The contexts of the back part: one for the concatenation, and one for the text alone. -/
def backContexts (middle later : Context State) (index : Option Origin) : Context State :=
  if index.isNone then middle else later

/-- Behind the first text, the second one does what it does alone. -/
theorem agree_backPart (services : Services State) (origin : Origin) (first second : Text)
    {middle later : Context State} (alike : later.Alike middle) :
    Agree AllAlike (backPart origin first second).Placed fun index =>
      runFrom services ((backPart origin first second).host index)
        ((backPart origin first second).place [] second index)
        (backContexts middle later index) := by
  refine ((backPart origin first second).carries_allAlike services).agree_of_closed (fun _ => rfl)
    _ ⟨later, fun index => ?_⟩
  cases index with
  | none => exact alike
  | some other => exact .refl later

/-- Where the second text succeeds behind the first one, so does the concatenation. -/
theorem run_append_ok {origin : Origin} {context later last : Context State}
    {first second output more : Text}
    (success : run services ⟨origin, first⟩ context = .ok output later)
    (further : run services ⟨origin, second⟩ later = .ok more last) :
    ∃ final, last.Alike final ∧
      run services ⟨origin, first ++ second⟩ context = .ok (output ++ more) final := by
  obtain ⟨middle, alike, whole⟩ := run_append_of_ok success second
  rw [← runFrom_backPart_some origin origin first second] at further
  cases agree_backPart services origin first second alike with
  | success value after kept outcome =>
    obtain ⟨rfl, rfl⟩ : value = more ∧ after (some origin) = last := by
      have same := (outcome (some origin)).symm.trans further
      cases same
      exact ⟨rfl, rfl⟩
    obtain ⟨common, same⟩ := kept
    refine ⟨after none, (same (some origin)).symm.trans (same none), ?_⟩
    rw [whole]
    exact bind_of_ok _ (outcome none)
  | failure found after placed kept outcome =>
    have clash := (outcome (some origin)).symm.trans further
    cases clash

/-- Where the second text fails behind the first one, so does the concatenation. -/
theorem run_append_error {origin : Origin} {context later last : Context State}
    {first second output : Text} {failure : Failure}
    (success : run services ⟨origin, first⟩ context = .ok output later)
    (failed : run services ⟨origin, second⟩ later = .error failure last) :
    ∃ moved final, last.Alike final ∧
      run services ⟨origin, first ++ second⟩ context = .error moved final ∧
      moved.cause = failure.cause ∧
      (FailsItself services second later → moved.fragment = ⟨origin, first ++ second⟩ ∧
        moved.span = failure.span.shift first.size) ∧
      (¬ FailsItself services second later → moved = failure) := by
  obtain ⟨middle, alike, whole⟩ := run_append_of_ok success second
  rw [← runFrom_backPart_some origin origin first second] at failed
  cases agree_backPart services origin first second alike with
  | success value after kept outcome =>
    have clash := (outcome (some origin)).symm.trans failed
    cases clash
  | failure found after placed kept outcome =>
    obtain ⟨rfl, rfl⟩ : found (some origin) = failure ∧ after (some origin) = last := by
      have same := (outcome (some origin)).symm.trans failed
      cases same
      exact ⟨rfl, rfl⟩
    obtain ⟨common, same⟩ := kept
    have alone : ∀ other, ∃ final, run services ⟨other, second⟩ later =
        .error (found (some other)) final := by
      intro other
      rw [← runFrom_backPart_some origin other first second]
      exact ⟨_, outcome (some other)⟩
    have failed : run services ⟨origin, first ++ second⟩ context =
        .error (found none) (after none) := by
      rw [whole]
      exact bind_of_error _ (outcome none)
    refine ⟨found none, after none, (same (some origin)).symm.trans (same none), failed, ?_⟩
    rcases failsItself_or_shared (backPart_host_some origin · first second) alone placed with
      ⟨itself, cause, span, rfl⟩ | ⟨outside, nested, rfl⟩
    · have moved : (span.shift 0).shift first.size = span.shift first.size := by
        simp [Span.shift]
      exact ⟨rfl, fun _ => ⟨backPart_host_none origin first second, moved.symm⟩,
        fun outside => absurd itself outside⟩
    · exact ⟨rfl, fun itself => absurd itself outside, fun _ => rfl⟩

/-- A run over a concatenation, from any context. A first text without introducers is put out and
changes nothing. Behind a first text that succeeds, the run goes on as over the second one: it puts
its output behind that of the first, or fails for the same cause, at a span that is moved by the
size of the first text when it belongs to the fragment itself. When the first text fails, the
concatenation fails for the same cause at the same span, unless the first text ends inside an
invocation of its own. The contexts behind the runs differ in their journals at most. The retriever
answers by the locator alone, so it answers alike in all runs. -/
theorem run_append (services : Services State) (origin : Origin) (context : Context State)
    (first second : Text) :
    (introducer ∉ first → run services ⟨origin, first⟩ context = .ok first context) ∧
    (∀ output later, run services ⟨origin, first⟩ context = .ok output later →
      (∀ more last, run services ⟨origin, second⟩ later = .ok more last →
        ∃ final, last.Alike final ∧
          run services ⟨origin, first ++ second⟩ context = .ok (output ++ more) final) ∧
      (∀ failure last, run services ⟨origin, second⟩ later = .error failure last →
        ∃ moved final, last.Alike final ∧
          run services ⟨origin, first ++ second⟩ context = .error moved final ∧
          moved.cause = failure.cause ∧
          (FailsItself services second later → moved.fragment = ⟨origin, first ++ second⟩ ∧
            moved.span = failure.span.shift first.size) ∧
          (¬ FailsItself services second later → moved = failure))) ∧
    (∀ failure later, run services ⟨origin, first⟩ context = .error failure later →
      ¬ (failure.cause = .malformedMacro .unclosed ∧ FailsItself services first context) →
      ∃ moved final, later.Alike final ∧
        run services ⟨origin, first ++ second⟩ context = .error moved final ∧
        moved.cause = failure.cause ∧ moved.span = failure.span ∧
        (FailsItself services first context → moved.fragment = ⟨origin, first ++ second⟩) ∧
        (¬ FailsItself services first context → moved.fragment = failure.fragment)) := by
  refine ⟨fun plain => ?_, fun output later success => ⟨?_, ?_⟩, ?_⟩
  · rw [run_eq_runFrom]
    exact congrFun (runFrom_of_plain plain) context
  · exact fun more last further => run_append_ok success further
  · exact fun failure last failed => run_append_error success failed
  · exact fun failure later failed complete => run_append_of_error failed complete second

end Expansion
end TextMacros
