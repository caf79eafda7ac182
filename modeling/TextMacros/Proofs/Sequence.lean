/-!
# Steps in sequence

What a sequence of two stateful steps does, by what its first step does. Readers of tokens and
expansions are both such steps.
-/

namespace TextMacros

variable {Failed State α β : Type}

/-- A success goes on with the second step. -/
theorem bind_of_ok {first : EStateM Failed State α} {state middle : State} {found : α}
    (second : α → EStateM Failed State β) (success : first state = .ok found middle) :
    (first >>= second) state = second found middle := by
  change EStateM.bind first second state = _
  simp only [EStateM.bind, success]

/-- A failure is final. -/
theorem bind_of_error {first : EStateM Failed State α} {state later : State} {failure : Failed}
    (second : α → EStateM Failed State β) (failed : first state = .error failure later) :
    (first >>= second) state = .error failure later := by
  change EStateM.bind first second state = _
  simp only [EStateM.bind, failed]

/-- First steps with one outcome are gone on with alike. -/
theorem bind_of_eq {first other : EStateM Failed State α} {state another : State}
    (second : α → EStateM Failed State β) (same : first state = other another) :
    (first >>= second) state = (other >>= second) another := by
  change EStateM.bind first second state = EStateM.bind other second another
  simp only [EStateM.bind, same]

/-- A sequence succeeds when both steps succeed. -/
theorem bind_eq_ok {first : EStateM Failed State α} {second : α → EStateM Failed State β}
    {state later : State} {value : β} :
    (first >>= second) state = .ok value later ↔
      ∃ found middle, first state = .ok found middle ∧ second found middle = .ok value later := by
  cases outcome : first state with
  | error failure last => simp [bind_of_error second outcome]
  | ok found middle =>
    rw [bind_of_ok second outcome]
    constructor
    · exact fun success => ⟨found, middle, rfl, success⟩
    · rintro ⟨_, _, ⟨⟩, success⟩
      exact success

/-- A loop over a list that succeeds yields one value for each item. -/
theorem length_of_mapM {each : α → EStateM Failed State β} {items : List α} {values : List β}
    {state later : State} (success : items.mapM each state = .ok values later) :
    values.length = items.length := by
  induction items generalizing values state with
  | nil =>
    rw [List.mapM_nil] at success
    cases success
    rfl
  | cons item rest hypothesis =>
    rw [List.mapM_cons] at success
    obtain ⟨value, middle, -, others⟩ := bind_eq_ok.mp success
    obtain ⟨found, last, behind, together⟩ := bind_eq_ok.mp others
    cases together
    rw [List.length_cons, List.length_cons, hypothesis behind]

end TextMacros
