import TextMacros.Proofs.Expansion.Counting
import TextMacros.Proofs.Integer

/-!
# Arithmetic

A primitive that counts expands its operand, reads it as an integer, and puts out the canonical text
of the result, which is read again as that result. A result that is not in range is a failure on the
operand, so nothing wraps (`resolve_adjust`).
-/

namespace TextMacros
namespace Expansion

variable {State : Type}

/-- The operand of a primitive is expanded when its invocation is resolved in a context: to a text,
with a context behind it. -/
def Yields (expand : Expander State) (primitive : Primitive) (operand : Text)
    (context : Context State) (value : Text) (later : Context State) : Prop :=
  expand operand [] (.parameter 1 primitive.name)
    (context.note (.primitiveCalled primitive.name primitive)) = .ok value later

variable (services : Services State) (fragment : Fragment) (span : Span)
  {expand : Expander State} {primitive : Primitive} {operand value : Text} {integer : Integer}
  {context later : Context State}

/-- A primitive is performed behind the note that it is called. -/
theorem resolve_eq_perform_noted {name : Text} {parameters : List Text} {call : Call}
    (called : Primitive.ofName? name = some primitive)
    (accepted : Call.ofParameters? primitive parameters = some call) :
    resolve services expand fragment ⟨name, parameters, span⟩ context =
      perform services expand ⟨fragment, ⟨name, parameters, span⟩, primitive⟩ call
        (context.note (.primitiveCalled name primitive)) := by
  rw [resolve_eq_perform services expand fragment span called accepted]
  exact bind_of_ok _ rfl

/-- The value of a counter is put out. -/
theorem resolve_counter (yields : Yields expand .counter operand context value later)
    (held : later.counters.get? value = some integer) :
    resolve services expand fragment ⟨Primitive.counter.name, [operand], span⟩ context =
      .ok (toString integer.value).toList later := by
  have called : Primitive.ofName? Primitive.counter.name = some .counter := by decide
  let site : Site := ⟨fragment, ⟨Primitive.counter.name, [operand], span⟩, .counter⟩
  have found : (site.counter value : Expansion State Integer) later = .ok integer later := by
    have known : (get : Expansion State _) later = .ok later later := rfl
    unfold Site.counter
    rw [bind_of_ok _ known, held]
    rfl
  have performed : perform services expand site (.counter operand)
      (context.note (.primitiveCalled Primitive.counter.name .counter)) =
        (site.counter value >>= fun value => pure value.text) later := bind_of_ok _ yields
  rw [resolve_eq_perform_noted services fragment span called rfl, performed,
    ← integer.text_eq_toString]
  exact bind_of_ok _ found

/-- An operand that spells an integer is changed by the amount of the primitive, or is refused when
the sum is not in range. -/
theorem resolve_adjust {amount : Int} (called : Primitive.ofName? primitive.name = some primitive)
    (accepted : Call.ofParameters? primitive [operand] = some (.adjust amount operand))
    (yields : Yields expand primitive operand context value later)
    (spells : Numeral.Spells value integer.value) :
    resolve services expand fragment ⟨primitive.name, [operand], span⟩ context =
      if -2 ^ 63 ≤ integer.value + amount ∧ integer.value + amount ≤ 2 ^ 63 - 1 then
        .ok (toString (integer.value + amount)).toList later
      else
        .error ⟨.notAnInteger primitive (toString integer.value).toList, fragment, span⟩ later := by
  let site : Site := ⟨fragment, ⟨primitive.name, [operand], span⟩, primitive⟩
  have read : (site.integer value : Expansion State Integer) later = .ok integer later := by
    unfold Site.integer
    rw [Integer.parse?_eq_some_iff.mpr spells]
    rfl
  have performed : perform services expand site (.adjust amount operand)
      (context.note (.primitiveCalled primitive.name primitive)) =
        (site.integer value >>= fun integer =>
          site.add integer amount >>= fun sum => pure sum.text) later := bind_of_ok _ yields
  rw [resolve_eq_perform_noted services fragment span called accepted, performed,
    bind_of_ok _ read]
  rcases add_apply site integer amount later with ⟨outside, refused⟩ | ⟨inside, sum, same, added⟩
  · rw [if_neg outside, bind_of_error _ refused, integer.text_eq_toString]
  · rw [if_pos inside, ← same, ← sum.text_eq_toString]
    exact bind_of_ok _ added

/-- An operand that spells an integer is incremented, but for the greatest one. -/
theorem resolve_increment (yields : Yields expand .increment operand context value later)
    (spells : Numeral.Spells value integer.value) :
    resolve services expand fragment ⟨Primitive.increment.name, [operand], span⟩ context =
      if integer.value < 2 ^ 63 - 1 then .ok (toString (integer.value + 1)).toList later
      else .error ⟨.notAnInteger .increment (toString integer.value).toList, fragment, span⟩
        later := by
  have lower := integer.lower
  have inRange : (-2 ^ 63 ≤ integer.value + 1 ∧ integer.value + 1 ≤ 2 ^ 63 - 1) ↔
      integer.value < 2 ^ 63 - 1 := by
    unfold integerBound at lower
    omega
  rw [resolve_adjust services fragment span (by decide) rfl yields spells]
  exact if_congr inRange rfl rfl

/-- An operand that spells an integer is decremented, but for the least one. -/
theorem resolve_decrement (yields : Yields expand .decrement operand context value later)
    (spells : Numeral.Spells value integer.value) :
    resolve services expand fragment ⟨Primitive.decrement.name, [operand], span⟩ context =
      if -2 ^ 63 < integer.value then .ok (toString (integer.value - 1)).toList later
      else .error ⟨.notAnInteger .decrement (toString integer.value).toList, fragment, span⟩
        later := by
  have upper := integer.upper
  have inRange : (-2 ^ 63 ≤ integer.value + -1 ∧ integer.value + -1 ≤ 2 ^ 63 - 1) ↔
      -2 ^ 63 < integer.value := by
    unfold integerBound at upper
    omega
  rw [resolve_adjust services fragment span (by decide) rfl yields spells]
  exact if_congr inRange rfl rfl

/-- Integers and their texts. A text is read as an integer exactly when it spells that integer, and
as none when it spells no number from -2^63 to 2^63 - 1. What counting puts out is the canonical
text of an integer, which is read again as that integer: the value of a counter; the next integer of
any spelling of one, which is decremented to the canonical text of that one; and the integer before.
The greatest integer is not incremented and the least one not decremented: each is a failure that
tells the operand. -/
theorem integers_read_back (context : Context State) (expand : Expander State) :
    (∀ text integer, Integer.parse? text = some integer ↔ Numeral.Spells text integer.value) ∧
    (∀ text, Integer.parse? text = none ↔
      ∀ number, Numeral.Spells text number → ¬ (-2 ^ 63 ≤ number ∧ number ≤ 2 ^ 63 - 1)) ∧
    (∀ integer : Integer, Integer.parse? (toString integer.value).toList = some integer) ∧
    (∀ operand name later integer, Yields expand .counter operand context name later →
      later.counters.get? name = some integer →
      resolve services expand fragment ⟨Primitive.counter.name, [operand], span⟩ context =
        .ok (toString integer.value).toList later) ∧
    (∀ operand spelling later (integer : Integer),
      Yields expand .increment operand context spelling later →
      Numeral.Spells spelling integer.value →
      resolve services expand fragment ⟨Primitive.increment.name, [operand], span⟩ context =
        if integer.value < 2 ^ 63 - 1 then .ok (toString (integer.value + 1)).toList later
        else .error ⟨.notAnInteger .increment (toString integer.value).toList, fragment, span⟩
          later) ∧
    (∀ operand later (integer : Integer), integer.value < 2 ^ 63 - 1 →
      Yields expand .decrement operand context (toString (integer.value + 1)).toList later →
      resolve services expand fragment ⟨Primitive.decrement.name, [operand], span⟩ context =
        .ok (toString integer.value).toList later) ∧
    ∀ operand spelling later (integer : Integer),
      Yields expand .decrement operand context spelling later →
      Numeral.Spells spelling integer.value →
      resolve services expand fragment ⟨Primitive.decrement.name, [operand], span⟩ context =
        if -2 ^ 63 < integer.value then .ok (toString (integer.value - 1)).toList later
        else .error ⟨.notAnInteger .decrement (toString integer.value).toList, fragment, span⟩
          later := by
  refine ⟨fun _ _ => Integer.parse?_eq_some_iff, fun _ => Integer.parse?_eq_none_iff,
    fun integer => Integer.parse?_eq_some_iff.mpr integer.spells_toString, ?_, ?_, ?_, ?_⟩
  · exact fun operand name later integer => resolve_counter services fragment span
  · exact fun operand spelling later integer => resolve_increment services fragment span
  · intro operand later integer below yields
    have lower := integer.lower
    unfold integerBound at lower
    obtain ⟨next, value⟩ : ∃ next : Integer, next.value = integer.value + 1 :=
      ⟨⟨integer.value + 1, by unfold integerBound; omega, by unfold integerBound; omega⟩, rfl⟩
    rw [← value] at yields
    rw [resolve_decrement services fragment span yields next.spells_toString, value,
      if_pos (by omega), Int.add_sub_cancel]
  · exact fun operand spelling later integer => resolve_decrement services fragment span

/-- A spelling with a sign, leading zeros and blanks is incremented and decremented again; the least
integer is not decremented. -/
example :
    let output (document : String) :=
      (expandDocument .default .silent .offline document.toList () #[]).result.toOption
    output "\\|decrement(\\!\\|increment(\\#\t+007 #\\)|\\!\\)|\\" = some ['7'] ∧
      output "\\|decrement(\\!-09223372036854775808!\\)|\\" = none := by
  decide +kernel

end Expansion
end TextMacros
