import TextMacros.Proofs.Commutation
import TextMacros.Proofs.Expansion.Formal

/-!
# Definitions in a text

A definition is an invocation of one of the two primitives that define, with the text that is read
as a macro for its parameter. It does one of three things: the text is no definition, or the scope
holds the identity of the macro already, or the macro is added to the scope (`resolve_install`). So
a run goes on behind a definition exactly when its macro is added, and then from the context with
the macro added (`runFrom_of_installs`, `installs_of_runFrom`).
-/

namespace TextMacros

open Token

/-- The primitive that defines macros in a region. -/
def Region.primitive : Region → Primitive
  | .current => .define
  | .global => .globalDefine

/-- A definition as it stands in a text: an invocation of the primitive of a region, well formed,
with one parameter. Whether the parameter can be read as a macro is left open. -/
structure WrittenDefinition where
  /-- Where the macro is defined. -/
  region : Region
  /-- The text that is read as a macro. -/
  source : Text
  /-- The name of the primitive, as it is written. -/
  written : Text
  /-- The invocation behind its introducer. -/
  spelling : Text
  /-- The invocation is well formed. -/
  spelled : SignatureForm written [source] spelling
  /-- The primitive is called by its canonical name. -/
  named : Name.canonical? written = some region.primitive.name

namespace WrittenDefinition

/-- The invocation in the text. -/
def text (written : WrittenDefinition) : Text := introducer :: written.spelling

/-- The plain spelling of a definition, with a delimiter for its parameter. -/
def delimited (region : Region) (delimiter : Char) (source : Text) (outside : delimiter ∉ source) :
    WrittenDefinition where
  region := region
  source := source
  written := region.primitive.name
  spelling := ['|'] ++ region.primitive.name ++ ['('] ++
    ([] ++ ([introducer, delimiter] ++ source ++ [delimiter, introducer]) ++ [] ++ [')']) ++ [] ++
      ['|', introducer]
  spelled := by
    have gap : Gap [] := by decide
    have list := ListForm.last gap (.delimited delimiter outside) gap
    cases region with
    | current => exact .list '|' (by decide) (by decide) (by decide) list gap List.not_mem_nil
    | global => exact .list '|' (by decide) (by decide) (by decide) list gap List.not_mem_nil
  named := by cases region <;> decide

/-- The macro that the definition defines. -/
def macro? (written : WrittenDefinition) : Except Failure Macro :=
  Macro.ofDefinition ⟨.parameter 1 written.region.primitive.name, written.source⟩

/-- The definition is read as a macro, and its scope has room for it. -/
def Installs (written : WrittenDefinition) (before after : ScopeStack) : Prop :=
  ∃ definition, written.macro? = .ok definition ∧
    before.insert? definition written.region = some after

/-- Two definitions that can be made one after the other can be made in the other order, and leave
the same macros in every scope. -/
theorem Installs.comm {one other : WrittenDefinition} {stack middle later : ScopeStack}
    (first : one.Installs stack middle) (second : other.Installs middle later) :
    ∃ between final, other.Installs stack between ∧ one.Installs between final ∧
      later.Same final := by
  obtain ⟨definition, read, inserted⟩ := first
  obtain ⟨another, readOther, insertedOther⟩ := second
  obtain ⟨-, between, final, before, after, same⟩ := ScopeStack.insert?_comm inserted insertedOther
  exact ⟨between, final, ⟨another, readOther, before⟩, ⟨definition, read, after⟩, same⟩

end WrittenDefinition

namespace Expansion

variable {State : Type}

/-- What a definition does: its parameter is read, and the macro is added to the scope of the
region. -/
def install (region : Region) (fragment : Fragment) (span : Span) (source : Text) :
    Expansion State Text := fun context =>
  match Macro.ofDefinition ⟨.parameter 1 region.primitive.name, source⟩ with
  | .error failure => .error failure context
  | .ok definition =>
    match context.scopes.insert? definition region with
    | none => .error ⟨.duplicateMacro definition.name definition.arity region, fragment, span⟩
        context
    | some scopes => .ok [] { context with scopes }

/-- A definition succeeds when its macro is read and added, and changes nothing else. -/
theorem install_eq_ok {written : WrittenDefinition} {fragment : Fragment} {span : Span}
    {context later : Context State} {output : Text} :
    install written.region fragment span written.source context = .ok output later ↔
      ∃ scopes, written.Installs context.scopes scopes ∧ output = [] ∧
        later = { context with scopes } := by
  unfold install WrittenDefinition.Installs WrittenDefinition.macro?
  cases Macro.ofDefinition ⟨.parameter 1 written.region.primitive.name, written.source⟩ with
  | error failure => simp
  | ok definition =>
    cases inserted : context.scopes.insert? definition written.region with
    | none => simp [inserted]
    | some scopes =>
      dsimp only
      rw [inserted]
      constructor
      · rintro ⟨⟩
        exact ⟨scopes, ⟨definition, rfl, inserted⟩, rfl, rfl⟩
      · rintro ⟨_, ⟨_, ⟨⟩, also⟩, rfl, rfl⟩
        cases inserted.symm.trans also
        rfl

/-- A definition changes the scopes alone. -/
theorem Change.made?_define (context : Context State) (region : Region) (definition : Macro) :
    (Change.define region definition).made? context =
      (context.scopes.insert? definition region).map fun scopes => { context with scopes } := by
  cases region <;> rfl

/-- An invocation of the primitive of a region does what a definition does. -/
theorem resolve_install (services : Services State) (region : Region) (fragment : Fragment)
    (span : Span) (source : Text) (context : Context State) :
    Matches (install region fragment span source context)
      (resolve services (ofText services) fragment ⟨region.primitive.name, [source], span⟩
        context) := by
  have called : Primitive.ofName? region.primitive.name = some region.primitive := by
    cases region <;> decide
  have accepted : Call.ofParameters? region.primitive [source] = some (.define region source) := by
    cases region <;> rfl
  obtain ⟨noted, alike, performed⟩ :=
    resolve_of_primitive services (ofText services) fragment span called accepted context
  let site : Site := ⟨fragment, ⟨region.primitive.name, [source], span⟩, region.primitive⟩
  have place : site.parameter 1 = .parameter 1 region.primitive.name := rfl
  rw [performed, perform_define, place]
  unfold install
  cases read : Macro.ofDefinition ⟨.parameter 1 region.primitive.name, source⟩ with
  | error failure => exact .error failure alike
  | ok definition =>
    let told := noted.note
      (.definitionRead definition.name definition.parameters definition.body.size)
    have step : (note (.definitionRead definition.name definition.parameters
        definition.body.size) : Expansion State Unit) noted = .ok () told := rfl
    have alikeTold : context.Alike told := ⟨alike.scopes, alike.counters, alike.depth, alike.prompt⟩
    have change := changeOrFail_apply services site
      (.duplicateMacro definition.name definition.arity region) (.define region definition) told
    rw [Change.made?_define, alikeTold.scopes] at change
    dsimp only
    rw [bind_of_ok _ step]
    cases inserted : context.scopes.insert? definition region with
    | none =>
      rw [inserted] at change
      rw [bind_of_error _ change]
      exact .error _ alikeTold
    | some scopes =>
      rw [inserted] at change
      rw [bind_of_ok _ change]
      exact .ok [] ⟨rfl, alikeTold.counters, alikeTold.depth, alikeTold.prompt⟩

section

variable {services : Services State} {fragment : Fragment} {offset : Nat}
  {written : WrittenDefinition} {rest : Text} {context : Context State}

/-- At a definition, a run does what the definition does and goes on behind it. -/
theorem matches_runFrom_of_written (services : Services State) (fragment : Fragment)
    (offset : Nat) (written : WrittenDefinition) (rest : Text) (context : Context State) :
    Matches
      (continued services fragment [] ⟨offset + written.text.size, rest⟩
        (install written.region fragment ⟨offset, written.text.size⟩ written.source) context)
      (runFrom services fragment ⟨offset, written.text ++ rest⟩ context) := by
  have size : written.text.size = 1 + written.spelling.size := size_introducer_cons _
  have resolved := resolve_install services written.region fragment ⟨offset, written.text.size⟩
    written.source context
  have goes := matches_runFrom_of_invocation services fragment written.spelled written.named offset
    rest context
  rw [Nat.add_assoc, ← size] at goes
  exact (resolved.continued fragment [] _).trans goes

/-- A run goes on behind a definition that is made, with the macro added. -/
theorem runFrom_of_installs (services : Services State) (fragment : Fragment) (offset : Nat)
    (rest : Text) {scopes : ScopeStack} (installs : written.Installs context.scopes scopes) :
    Matches
      (runFrom services fragment ⟨offset + written.text.size, rest⟩ { context with scopes })
      (runFrom services fragment ⟨offset, written.text ++ rest⟩ context) := by
  have goes := matches_runFrom_of_written services fragment offset written rest context
  have made : install written.region fragment ⟨offset, written.text.size⟩ written.source context =
      .ok [] { context with scopes } := install_eq_ok.mpr ⟨scopes, installs, rfl, rfl⟩
  unfold continued at goes
  rw [bind_of_ok _ made] at goes
  simpa only [List.nil_append, bind_pure] using goes

/-- Where a run succeeds from a definition on, the definition is made and the run succeeds behind
it. -/
theorem installs_of_runFrom {output : Text} {later : Context State}
    (success : runFrom services fragment ⟨offset, written.text ++ rest⟩ context =
      .ok output later) :
    ∃ scopes last, written.Installs context.scopes scopes ∧
      runFrom services fragment ⟨offset + written.text.size, rest⟩ { context with scopes } =
        .ok output last := by
  have goes := matches_runFrom_of_written services fragment offset written rest context
  rw [success] at goes
  obtain ⟨_, -, through⟩ := goes.symm.eq_ok
  obtain ⟨_, _, made, -⟩ := bind_eq_ok.mp through
  obtain ⟨scopes, installs, -, -⟩ := install_eq_ok.mp made
  have behind := runFrom_of_installs services fragment offset rest installs
  rw [success] at behind
  obtain ⟨last, -, ended⟩ := behind.symm.eq_ok
  exact ⟨scopes, last, installs, ended⟩

end

end Expansion
end TextMacros
