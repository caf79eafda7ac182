import TextMacros.Proofs.Expansion.Edit
import TextMacros.Proofs.Expansion.Effect
import TextMacros.Proofs.Expansion.Formal
import TextMacros.Proofs.Expansion.Recursion
import TextMacros.Proofs.Expansion.Reference

/-!
# Loops

A repetition and a loop over items perform a list of rounds in order, and nothing else
(`sameEffect_resolve_of_isLoop`). A list of rounds can be cut in two anywhere (`loop_append`), so
one loop does the same as two loops next to each other that share its rounds (`run_split`). The
rounds of the two ways differ in their origins alone, and origins have no influence on an effect.

Each round is expanded in scopes of its own. From one round to the next only the global scope, the
counters and the state of the prompt carry something over (`leavesRoom_of_loop`).
-/

namespace TextMacros

open Token

variable {State : Type}

/-- What rounds leave for the next one: whatever they have defined, a scope that is opened behind
them takes every macro whose identity is not bound in it. -/
structure Context.LeavesRoom (begun reached : Context State) : Prop where
  /-- The next round begins at the same depth. -/
  depth : reached.depth = begun.depth
  /-- No scope has changed, unless it is the global one. -/
  scopes : ScopeStack.GrowsGlobally begun.scopes.scopes reached.scopes.scopes
  /-- The scope of the next round has room. -/
  room : ∀ (bindings : List Macro) (origin : Origin) (definition : Macro),
    (bindings.map Macro.key).Nodup → definition.key ∉ bindings.map Macro.key →
      ∃ extended, (reached.enter bindings origin).scopes.insertCurrent? definition = some extended

namespace Expansion

/-! ## Rounds -/

/-- The texts of a round. The rest of a round tells where they come from. -/
def Round.texts (round : Round) : Text × Option Text := (round.text, round.pattern.map Prod.fst)

/-- Performs rounds in order and joins what they yield. -/
def loop (services : Services State) (rounds : List Round) : Expansion State Text :=
  List.flatten <$> rounds.mapM (Round.expand (ofText services))

section

variable (services : Services State)

theorem loop_nil : loop services [] = pure [] := by
  simp [loop]

theorem loop_cons (round : Round) (rounds : List Round) :
    loop services (round :: rounds) =
      round.expand (ofText services) >>= fun value => loop services rounds >>= fun others =>
        pure (value ++ others) := by
  simp [loop]

/-- Rounds that follow others are performed behind them. -/
theorem loop_append (first second : List Round) :
    loop services (first ++ second) =
      loop services first >>= fun output => loop services second >>= fun others =>
        pure (output ++ others) := by
  induction first with
  | nil => simp [loop_nil]
  | cons round rounds hypothesis =>
    simp only [List.cons_append, loop_cons, hypothesis, bind_assoc, pure_bind, List.append_assoc]

/-- Where no level is left, the first round is refused. -/
theorem loop_of_refused {rounds : List Round} (someRound : rounds ≠ []) {context : Context State}
    (refused : context.depth.remaining = 0) :
    ∃ failure, failure.cause = .recursionLimit context.depth.limit ∧
      loop services rounds context = .error failure context := by
  obtain ⟨round, others, rfl⟩ := List.exists_cons_of_ne_nil someRound
  have first : ofText services round.text [] round.origin context = _ :=
    ofText_of_refused (Depth.enter?_eq_none.mpr refused)
  rw [loop_cons]
  exact ⟨_, rfl, bind_of_error _ (bind_of_error _ first)⟩

variable {first second : Context State}

/-- Rounds with the same texts have the same effect. -/
theorem sameEffect_round {round other : Round} (same : other.texts = round.texts)
    (alike : first.Alike second) :
    SameEffect (round.expand (ofText services) first) (other.expand (ofText services) second) := by
  obtain ⟨_, origin, pattern⟩ := round
  obtain ⟨text, origin', pattern'⟩ := other
  obtain ⟨rfl, patterns⟩ := Prod.mk.inj same
  have evaluated := sameEffect_ofText services text [] origin origin' alike
  refine evaluated.bind fun value one another close => ?_
  match pattern, pattern', patterns with
  | none, none, _ => exact .success value close
  | some (text, place), some (_, place'), equal =>
    obtain rfl := Option.some.inj equal
    exact sameEffect_ofText services _ [.constant itemName value] place place' close

/-- Loops whose rounds have the same texts have the same effect. -/
theorem sameEffect_loop {rounds others : List Round}
    (same : others.map Round.texts = rounds.map Round.texts) (alike : first.Alike second) :
    SameEffect (loop services rounds first) (loop services others second) := by
  induction rounds generalizing others first second with
  | nil =>
    obtain rfl := List.map_eq_nil_iff.mp same
    exact .success [] alike
  | cons round rounds hypothesis =>
    obtain ⟨other, behind, rfl, head, tail⟩ := List.map_eq_cons_iff.mp same
    simp only [loop_cons]
    refine (sameEffect_round services head alike).bind fun value one another close => ?_
    exact (hypothesis tail close).bind fun output _ _ last => .success (value ++ output) last

end

/-! ## What carries over -/

/-- What two expansions keep, they keep in sequence. -/
theorem Keeps.bind {α β : Type} {relation : Context State → Context State → Prop}
    (trans : ∀ {first second third}, relation first second → relation second third →
      relation first third) {first : Expansion State α} {second : α → Expansion State β}
    (before : Keeps relation first) (after : ∀ value, Keeps relation (second value)) :
    Keeps relation (first >>= second) := by
  intro context
  have kept := before context
  cases outcome : first context with
  | ok value later =>
    rw [outcome] at kept
    rw [bind_of_ok second outcome]
    exact trans kept (after value later)
  | error failure later =>
    rw [outcome] at kept
    rw [bind_of_error second outcome]
    exact kept

/-- A round lets only the global scope grow. -/
theorem keeps_round (services : Services State) (round : Round) :
    Keeps (Context.Extends ScopeStack.GrowsGlobally) (round.expand (ofText services)) := by
  refine Keeps.bind (.trans .trans) (keeps_ofText services _ _ _) fun value => ?_
  cases round.pattern with
  | none => exact fun context => .refl .refl context
  | some pattern => exact keeps_ofText services _ _ _

/-- A loop lets only the global scope grow. -/
theorem keeps_loop (services : Services State) (rounds : List Round) :
    Keeps (Context.Extends ScopeStack.GrowsGlobally) (loop services rounds) := by
  induction rounds with
  | nil =>
    rw [loop_nil]
    exact fun context => .refl .refl context
  | cons round rounds hypothesis =>
    rw [loop_cons]
    refine Keeps.bind (.trans .trans) (keeps_round services round) fun value => ?_
    exact Keeps.bind (.trans .trans) hypothesis fun others context => .refl .refl context

/-- Behind rounds that succeed there is room for the definitions of the next one. -/
theorem leavesRoom_of_loop {services : Services State} {rounds : List Round} {output : Text}
    {begun reached : Context State} (success : loop services rounds begun = .ok output reached) :
    begun.LeavesRoom reached := by
  have extended := keeps_loop services rounds begun
  rw [success] at extended
  refine ⟨extended.depth, extended.scopes, fun bindings origin definition distinct free => ?_⟩
  have absent : Scope.find? ⟨bindings⟩ definition.key = none := by
    rw [Scope.find?_eq_none]
    intro held member same
    exact free (same ▸ List.mem_map_of_mem member)
  obtain ⟨grown, inserted⟩ := Scope.exists_insert?_iff.mpr absent
  rw [Context.scopes_enter distinct]
  refine ⟨⟨grown :: reached.scopes.scopes⟩, ?_⟩
  unfold ScopeStack.insertCurrent?
  dsimp only
  rw [inserted]
  rfl

/-- Rounds that leave the context as it was do not get in the way of each other: however many of
them there are, each yields what the first one does. -/
theorem loop_replicate {services : Services State} {text value : Text} {origin : Origin}
    {context later : Context State}
    (round : ofText services text [] origin context = .ok value later)
    (unchanged : context.Alike later) (number : Nat) :
    ∃ final, context.Alike final ∧
      loop services (List.replicate number ⟨text, origin, none⟩) context =
        .ok (List.replicate number value).flatten final := by
  have repeated : ∀ begun, context.Alike begun → ∃ final, context.Alike final ∧
      loop services (List.replicate number ⟨text, origin, none⟩) begun =
        .ok (List.replicate number value).flatten final := by
    induction number with
    | zero =>
      intro begun alike
      exact ⟨begun, alike, congrFun (loop_nil services) begun⟩
    | succ number hypothesis =>
      intro begun alike
      obtain ⟨reached, close, again⟩ := ofText_ok_of_alike alike round
      obtain ⟨final, same, others⟩ := hypothesis reached (unchanged.trans close)
      refine ⟨final, same, ?_⟩
      rw [List.replicate_succ, loop_cons, Round.expand_alone, bind_of_ok _ again,
        bind_of_ok _ others]
      rfl
  exact repeated context (.refl context)

/-! ## Loops in a text -/

/-- A text that stands for a number of rounds. -/
structure RoundCount (text : Text) (number : Integer) : Prop where
  /-- Nothing is expanded in it. -/
  plain : introducer ∉ text
  /-- It is read as the number. -/
  read : Integer.parse? text = some number
  /-- There is at least one round. -/
  positive : 1 ≤ number.value

/-- The rounds of a loop over items. -/
def roundsOf (items : List Text) (pattern : Text) : List Round :=
  items.zipIdx.map fun (item, index) =>
    ⟨item, .parameter (index + 1) Primitive.forEach.name,
      some (pattern, .parameter (items.length + 1) Primitive.forEach.name)⟩

/-- Each item meets the pattern. -/
theorem texts_roundsOf (items : List Text) (pattern : Text) :
    (roundsOf items pattern).map Round.texts = items.map fun item => (item, some pattern) := by
  have first : (fun item : Text => (item, some pattern)) ∘ (Prod.fst : Text × Nat → Text) =
      fun place => (place.1, some pattern) := rfl
  calc (roundsOf items pattern).map Round.texts
      = items.zipIdx.map fun place => (place.1, some pattern) := by
        unfold roundsOf
        rw [List.map_map]
        rfl
    _ = items.map fun item => (item, some pattern) := by
        rw [← first, ← List.map_map, List.zipIdx_map_fst]

/-- The invocations that are loops, with their rounds. -/
inductive IsLoop : (name : Text) → (parameters : List Text) → (rounds : List Round) → Prop
  /-- A repetition has a number of equal rounds. -/
  | repetition {count : Text} {number : Integer} (counts : RoundCount count number) (body : Text) :
    IsLoop Primitive.repetition.name [count, body]
      (List.replicate number.value.toNat ⟨body, .parameter 2 Primitive.repetition.name, none⟩)
  /-- A loop over items has a round for each of them. -/
  | forEach {items : List Text} (someItem : items ≠ []) (pattern : Text) :
    IsLoop Primitive.forEach.name (items ++ [pattern]) (roundsOf items pattern)

section

variable (services : Services State) (fragment : Fragment) (span : Span)

/-- A count is expanded and read. -/
theorem performed_of_roundCount {count : Text} {number : Integer} (counts : RoundCount count number)
    (body : Text) (invocation : Invocation) {context : Context State}
    (admitted : context.depth.remaining ≠ 0) :
    ∃ reached, context.Alike reached ∧
      perform services (ofText services) ⟨fragment, invocation, .repetition⟩
        (.repetition count body) context =
          loop services (List.replicate number.value.toNat
            ⟨body, .parameter 2 Primitive.repetition.name, none⟩) reached := by
  have expanded : ∃ reached, context.Alike reached ∧ ofText services count []
      (.parameter 1 Primitive.repetition.name) context = .ok count reached :=
    ofText_of_plain counts.plain admitted
  obtain ⟨reached, alike, success⟩ := expanded
  let site : Site := ⟨fragment, invocation, .repetition⟩
  have integer : (site.integer count : Expansion State Integer) = pure number := by
    unfold Site.integer
    rw [counts.read]
    rfl
  have positive : ¬ number.value ≤ 0 := by
    have := counts.positive
    omega
  refine ⟨reached, alike, (bind_of_ok _ success).trans ?_⟩
  change (site.integer count >>= fun count => _) reached = _
  rw [integer, pure_bind, if_neg positive, times_eq]
  rfl

/-- The call of a loop performs its rounds in order. Where no level is left both are refused. -/
theorem sameEffect_resolve_of_isLoop {name : Text} {parameters : List Text} {rounds : List Round}
    (isLoop : IsLoop name parameters rounds) (context : Context State) :
    SameEffect (loop services rounds context)
      (resolve services (ofText services) fragment ⟨name, parameters, span⟩ context) := by
  cases isLoop with
  | @repetition count number counts body =>
    have called : Primitive.ofName? Primitive.repetition.name = some .repetition := by decide
    have accepted : Call.ofParameters? .repetition [count, body] =
        some (.repetition count body) := rfl
    obtain ⟨noted, alike, performed⟩ :=
      resolve_of_primitive services (ofText services) fragment span called accepted context
    rw [performed]
    by_cases refused : noted.depth.remaining = 0
    · have spent : context.depth.remaining = 0 := alike.depth ▸ refused
      have someRound : List.replicate number.value.toNat
          (⟨body, .parameter 2 Primitive.repetition.name, none⟩ : Round) ≠ [] := by
        have := counts.positive
        rw [ne_eq, List.replicate_eq_nil_iff]
        omega
      obtain ⟨failure, cause, failed⟩ := loop_of_refused services someRound spent
      have counting : ofText services count [] (.parameter 1 Primitive.repetition.name) noted = _ :=
        ofText_of_refused (Depth.enter?_eq_none.mpr refused)
      have stopped : perform services (ofText services)
          ⟨fragment, ⟨Primitive.repetition.name, [count, body], span⟩, .repetition⟩
          (.repetition count body) noted = _ := bind_of_error _ counting
      rw [failed, stopped]
      refine .failure ?_ alike
      rw [cause, alike.depth]
    · obtain ⟨reached, close, looped⟩ := performed_of_roundCount services fragment counts body
        ⟨Primitive.repetition.name, [count, body], span⟩ refused
      rw [looped]
      exact sameEffect_loop services rfl (alike.trans close)
  | @forEach items someItem pattern =>
    have called : Primitive.ofName? Primitive.forEach.name = some .forEach := by decide
    obtain ⟨noted, alike, performed⟩ :=
      resolve_of_forEach services (ofText services) fragment span called someItem context
    have looped : perform services (ofText services)
        ⟨fragment, ⟨Primitive.forEach.name, items ++ [pattern], span⟩, .forEach⟩
        (.forEach items pattern) = loop services _ :=
      (@performBy_bounded _ services (Cursor.start []) _ (.forEach items pattern)).symm
    rw [performed, looped]
    exact sameEffect_loop services rfl alike

/-- A text that is an invocation with some name and some parameters, in any spelling. -/
def Spells (text name : Text) (parameters : List Text) : Prop :=
  ∃ written spelling, text = introducer :: spelling ∧ SignatureForm written parameters spelling ∧
    Name.canonical? written = some name

/-- Expansions of an invocation with the same effect are gone on with to the same effect. -/
theorem SameEffect.continued {one other : Expansion State Text} {context another : Context State}
    (same : SameEffect (one context) (other another)) (output : Text) (behind : Cursor) :
    SameEffect (Expansion.continued services fragment output behind one context)
      (Expansion.continued services fragment output behind other another) :=
  same.bind fun found _ _ alike => by
    simp only [← List.append_assoc]
    exact .of_matches (matches_rest services fragment behind (output ++ found) alike)

/-- At a loop, a run performs the rounds and goes on behind it. -/
theorem sameEffect_runFrom_of_isLoop {name text : Text} {parameters : List Text}
    {rounds : List Round} (isLoop : IsLoop name parameters rounds)
    (spells : Spells text name parameters) (offset : Nat) (rest : Text)
    {first second : Context State} (alike : first.Alike second) :
    SameEffect
      (continued services fragment [] ⟨offset + text.size, rest⟩ (loop services rounds) first)
      (runFrom services fragment ⟨offset, text ++ rest⟩ second) := by
  obtain ⟨written, spelling, rfl, spelled, canonical⟩ := spells
  have goes := matches_runFrom_of_invocation services fragment spelled canonical offset rest second
  have place : offset + 1 + Text.size spelling = offset + Text.size (introducer :: spelling) := by
    rw [size_introducer_cons, Nat.add_assoc]
  rw [place] at goes
  have looped : SameEffect (loop services rounds first) (loop services rounds second) :=
    sameEffect_loop services rfl alike
  have resolved := looped.trans (sameEffect_resolve_of_isLoop services fragment
    ⟨offset, 1 + Text.size spelling⟩ isLoop second)
  exact (resolved.continued services fragment [] _).trans (.of_matches goes)

end

/-! ## Splits -/

/-- A loop, and two loops that share its rounds, by the name of each and its parameters. -/
inductive LoopSplit : (name : Text) → (whole first second : List Text) → Prop
  /-- Two repetitions of one text that have as many rounds together. -/
  | repetition {count one other : Text} {number first second : Integer}
    (counts : RoundCount count number) (countsOne : RoundCount one first)
    (countsOther : RoundCount other second)
    (sum : number.value = first.value + second.value) (body : Text) :
    LoopSplit Primitive.repetition.name [count, body] [one, body] [other, body]
  /-- Two loops with one pattern that have the items together. -/
  | forEach {items others : List Text} (someItem : items ≠ []) (someOther : others ≠ [])
    (pattern : Text) :
    LoopSplit Primitive.forEach.name (items ++ others ++ [pattern]) (items ++ [pattern])
      (others ++ [pattern])

/-- The two loops have the rounds of the one in order, up to where their texts come from. -/
theorem LoopSplit.rounds {name : Text} {whole first second : List Text}
    (split : LoopSplit name whole first second) :
    ∃ rounds one other, IsLoop name whole rounds ∧ IsLoop name first one ∧
      IsLoop name second other ∧ (one ++ other).map Round.texts = rounds.map Round.texts := by
  cases split with
  | @repetition count one other number first second counts countsOne countsOther sum body =>
    refine ⟨_, _, _, .repetition counts body, .repetition countsOne body,
      .repetition countsOther body, ?_⟩
    have positive := countsOne.positive
    have positiveOther := countsOther.positive
    have total : number.value.toNat = first.value.toNat + second.value.toNat := by omega
    rw [total, List.replicate_add]
  | @forEach items others someItem someOther pattern =>
    have someBoth : items ++ others ≠ [] := by simp [someItem]
    refine ⟨_, _, _, .forEach someBoth pattern, .forEach someItem pattern,
      .forEach someOther pattern, ?_⟩
    rw [List.map_append, texts_roundsOf, texts_roundsOf, texts_roundsOf, List.map_append]

/-- From the loops on, the runs with one loop and with two have the same effect. -/
theorem sameEffect_runFrom_of_split (services : Services State) (origin : Origin)
    (front back : Text) {whole one other name : Text} {parameters first second : List Text}
    (split : LoopSplit name parameters first second) (spellsWhole : Spells whole name parameters)
    (spellsOne : Spells one name first) (spellsOther : Spells other name second)
    {contexts : Bool → Context State} (alike : (contexts false).Alike (contexts true)) :
    let edit : Edit := ⟨origin, front, whole, one ++ other, back⟩
    SameEffect
      (runFrom services (edit.version false) (pieceStart edit false) (contexts false))
      (runFrom services (edit.version true) (pieceStart edit true) (contexts true)) := by
  intro edit
  obtain ⟨rounds, oneRounds, otherRounds, isLoop, isOne, isOther, same⟩ := split.rounds
  let before := edit.version false
  let after := edit.version true
  have single : SameEffect
      (continued services before [] (pieceEnd edit false) (loop services rounds) (contexts false))
      (runFrom services before (pieceStart edit false) (contexts false)) :=
    sameEffect_runFrom_of_isLoop services before isLoop spellsWhole front.size back (.refl _)
  -- The rounds are the same, and so is what stands behind them.
  have across : SameEffect
      (continued services before [] (pieceEnd edit false) (loop services rounds) (contexts false))
      (continued services after [] (pieceEnd edit true)
        (loop services (oneRounds ++ otherRounds)) (contexts true)) := by
    refine (sameEffect_loop services same alike).bind fun found here there close => ?_
    let pair : Bool → Context State := fun index => cond index there here
    have behind := agree_runFrom_pieceEnd_of_carries
      ((editBack edit).carries_allAlike services) pair (allAlike_pair close)
    have ended := SameEffect.of_agree (behind.weaken fun _ moves => moves.cause_eq)
    exact ended.bind fun others _ _ last => .success (found ++ others) last
  have apart : continued services after [] (pieceEnd edit true)
      (loop services (oneRounds ++ otherRounds)) =
        loop services oneRounds >>= fun found =>
          continued services after [] (pieceEnd edit true) (loop services otherRounds) >>=
            fun others => pure (found ++ others) := by
    simp only [continued, loop_append, bind_assoc, pure_bind, List.nil_append, List.append_assoc]
  have inner : ∀ {here there : Context State}, here.Alike there → SameEffect
      (continued services after [] (pieceEnd edit true) (loop services otherRounds) here)
      (runFrom services after ⟨front.size + one.size, other ++ back⟩ there) := by
    intro here there close
    have place : pieceEnd edit true = ⟨front.size + one.size + other.size, back⟩ := by
      simp [pieceEnd, Edit.piece, edit, Nat.add_assoc]
    rw [place]
    exact sameEffect_runFrom_of_isLoop services after isOther spellsOther _ back close
  have double : SameEffect
      (continued services after [] (pieceEnd edit true)
        (loop services (oneRounds ++ otherRounds)) (contexts true))
      (runFrom services after (pieceStart edit true) (contexts true)) := by
    have outer := sameEffect_runFrom_of_isLoop services after isOne spellsOne front.size
      (other ++ back) (.refl (contexts true))
    have ahead : pieceStart edit true = ⟨front.size, one ++ (other ++ back)⟩ := by
      simp [pieceStart, Edit.piece, edit]
    rw [ahead, apart]
    refine SameEffect.trans ?_ outer
    refine (sameEffect_loop services rfl (.refl _)).bind fun found here there close => ?_
    exact (inner close).bind fun others _ _ last => .success (found ++ others) last
  exact single.symm.trans (across.trans double)

/-- A loop does what two loops next to each other do that have its rounds between them. Behind a
complete front part, from any context and whatever follows, the run over the text with the one loop
and the run over the text with the two have the same effect: the same output, or failures for the
same cause, with the same counters, the same scopes and the same state of the prompt behind them.
This holds for every prompt, so also for one that records what it is asked and told, and for every
retriever that answers by the locator alone.

A loop performs its rounds in order and nothing else. Behind any rounds that succeed the depth and
the scopes are as they were, but for macros of the global scope, and whatever the rounds have
defined, the scope of the next one takes every macro that is not bound in it. So a text that makes
definitions in its own scope alone can be repeated any number of times. -/
theorem run_split (services : Services State) (context : Context State) (origin : Origin)
    {front back : Text} (complete : Complete front) :
    (∀ {name whole one other : Text} {parameters first second : List Text},
      LoopSplit name parameters first second → Spells whole name parameters →
      Spells one name first → Spells other name second →
      SameEffect (run services ⟨origin, front ++ whole ++ back⟩ context)
        (run services ⟨origin, front ++ (one ++ other) ++ back⟩ context)) ∧
    (∀ {name : Text} {parameters : List Text} {rounds : List Round},
      IsLoop name parameters rounds → ∀ (fragment : Fragment) (span : Span)
        (begun : Context State), SameEffect (loop services rounds begun)
          (resolve services (ofText services) fragment ⟨name, parameters, span⟩ begun)) ∧
    (∀ (rounds : List Round) (output : Text) (begun reached : Context State),
      loop services rounds begun = .ok output reached → begun.LeavesRoom reached) ∧
    ∀ (text value : Text) (place : Origin) (begun later : Context State),
      ofText services text [] place begun = .ok value later → begun.Alike later →
      ∀ number, ∃ final, begun.Alike final ∧
        loop services (List.replicate number ⟨text, place, none⟩) begun =
          .ok (List.replicate number value).flatten final := by
  refine ⟨?_, ?_, fun _ _ _ _ success => leavesRoom_of_loop success,
    fun _ _ _ _ _ round unchanged => loop_replicate round unchanged⟩
  · intro name whole one other parameters first second split spellsWhole spellsOne spellsOther
    let edit : Edit := ⟨origin, front, whole, one ++ other, back⟩
    have agree : Agree AllAlike SameCause fun edited =>
        run services (edit.version edited) context := by
      refine agree_run complete services context (fun _ follow => follow.alike)
        (fun _ moves => moves.cause_eq) ?_
      intro output reached contexts _ _ follow
      exact SameEffect.agree (sameEffect_runFrom_of_split services origin front back split
        spellsWhole spellsOne spellsOther follow.follows.toAlike)
    exact .of_agree agree
  · intro name parameters rounds isLoop fragment span begun
    exact sameEffect_resolve_of_isLoop services fragment span isLoop begun

/-- Three rounds, and one round with two behind it. Each defines a macro in its own scope and counts
on, and what they put out is counted behind them. -/
theorem run_split_counted :
    let services : Services Unit := ⟨[], .silent, .offline⟩
    let context : Context Unit := ⟨⟨[.empty]⟩, .empty, .ofLimit 5, (), #[]⟩
    let body : Text := ("\\|define(\\#\\|a|\\=\\!x!\\#\\)|\\" ++
      "\\|increment counter(\\!n!\\)|\\\\|a|\\\\|counter(\\!n!\\)|\\").toList
    let front : Text := "\\|new counter(\\!n!\\)|\\".toList
    let back : Text := "\\|counter(\\!n!\\)|\\".toList
    let times : Char → Text := fun count =>
      "\\|repeat(\\!".toList ++ [count] ++ "!\\,\\;".toList ++ body ++ ";\\)|\\".toList
    Complete front ∧
    LoopSplit Primitive.repetition.name [['3'], body] [['1'], body] [['2'], body] ∧
    Spells (times '3') Primitive.repetition.name [['3'], body] ∧
    Spells (times '1') Primitive.repetition.name [['1'], body] ∧
    Spells (times '2') Primitive.repetition.name [['2'], body] ∧
    valueOf? (run services ⟨.body [], front ++ times '3' ++ back⟩ context) =
      some "x1x2x33".toList ∧
    SameEffect (run services ⟨.body [], front ++ times '3' ++ back⟩ context)
      (run services ⟨.body [], front ++ (times '1' ++ times '2') ++ back⟩ context) := by
  intro services context body front back times
  have gap : Gap [] := by decide
  have complete : Complete front := by
    let declaration : Passage :=
      ⟨[], "new counter".toList, [['n']], "|new counter(\\!n!\\)|\\".toList⟩
    have spelled : SignatureForm declaration.name declaration.parameters declaration.spelling :=
      .list '|' (by decide) (by decide) (by decide) (.last gap (.delimited '!' (by decide)) gap)
        gap List.not_mem_nil
    have whole : Segmentation [declaration] [] front :=
      .passage List.not_mem_nil spelled (.literal List.not_mem_nil)
    exact ⟨_, _, whole⟩
  have spells : ∀ count : Char, count ≠ '!' →
      Spells (times count) Primitive.repetition.name [[count], body] := by
    intro count apart
    have first : TokenForm [count] _ := .delimited '!' (by simpa using apart.symm)
    have second : TokenForm body _ := .delimited ';' (by decide)
    exact ⟨"repeat".toList, _, rfl, .list '|' (by decide) (by decide) (by decide)
      (.more gap first gap (.last gap second gap)) gap List.not_mem_nil, by decide⟩
  have count : ∀ (digit : Char) (number : Integer), digit ≠ introducer →
      Integer.parse? [digit] = some number → 1 ≤ number.value → RoundCount [digit] number :=
    fun digit number apart read positive => ⟨by simpa using apart.symm, read, positive⟩
  have split : LoopSplit Primitive.repetition.name [['3'], body] [['1'], body] [['2'], body] := by
    have three := count '3' ⟨3, by decide, by decide⟩ (by decide) (by decide) (by decide)
    have one := count '1' ⟨1, by decide, by decide⟩ (by decide) (by decide) (by decide)
    have two := count '2' ⟨2, by decide, by decide⟩ (by decide) (by decide) (by decide)
    exact .repetition three one two rfl body
  have three := spells '3' (by decide)
  have one := spells '1' (by decide)
  have two := spells '2' (by decide)
  exact ⟨complete, split, three, one, two, by decide +kernel,
    (run_split services context (.body []) complete).1 split three one two⟩

end Expansion
end TextMacros
