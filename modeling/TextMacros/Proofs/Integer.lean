import Mathlib.Data.Nat.Digits.Defs
import TextMacros.Integer
import TextMacros.Proofs.Counter
import TextMacros.Proofs.Line

/-!
# Numerals and the numbers they denote

A numeral denotes a number by the places of its digits (`Numeral.placeValue`), a sign in front
tells the opposite, and white space around it does not count. An integer is read from such a text
exactly when it denotes a number in range (`Integer.parse?_eq_some_iff`). Many texts denote one
integer; the canonical one is among them (`Integer.spells_toString`).
-/

namespace TextMacros

namespace Text

/-- Blanks around a text without blanks are trimmed. -/
theorem trim_of_enclosed {before core after : Text} (front : ∀ symbol ∈ before, isBlank symbol)
    (bare : ∀ symbol ∈ core, ¬ isBlank symbol) (back : ∀ symbol ∈ after, isBlank symbol) :
    (before ++ core ++ after).trim = core := by
  have keeps : ∀ text : Text, (∀ symbol ∈ text, ¬ isBlank symbol) →
      text.dropWhile isBlank = text := by
    intro text plain
    cases text with
    | nil => rfl
    | cons symbol rest => exact List.dropWhile_cons_of_neg (plain symbol List.mem_cons_self)
  have kept : trimEndBy isBlank core = core := by
    unfold trimEndBy
    rw [keeps core.reverse fun symbol member => bare symbol (List.mem_reverse.mp member),
      List.reverse_reverse]
  unfold trim trimStartBy
  rw [List.append_assoc, List.dropWhile_append_of_pos front]
  by_cases empty : core = []
  · subst empty
    have nothing : (after ++ []).dropWhile isBlank = [].dropWhile isBlank :=
      List.dropWhile_append_of_pos back
    rw [List.append_nil] at nothing
    rw [List.nil_append, nothing]
    rfl
  · obtain ⟨symbol, rest, rfl⟩ := List.exists_cons_of_ne_nil empty
    rw [List.cons_append, List.dropWhile_cons_of_neg (bare symbol List.mem_cons_self),
      ← List.cons_append, trimEndBy_append back, kept]

/-- A text is its trimmed text with blanks around it. -/
theorem exists_eq_trim (text : Text) : ∃ before after, text = before ++ text.trim ++ after ∧
    (∀ symbol ∈ before, isBlank symbol) ∧ ∀ symbol ∈ after, isBlank symbol := by
  let middle := text.dropWhile isBlank
  have passed : ∀ whole : Text, ∀ symbol ∈ whole.takeWhile isBlank, isBlank symbol :=
    fun whole symbol member => List.all_eq_true.mp List.all_takeWhile symbol member
  have first : text.takeWhile isBlank ++ middle = text := List.takeWhile_append_dropWhile
  have last : middle = text.trim ++ (middle.reverse.takeWhile isBlank).reverse := by
    have turned : middle.reverse.takeWhile isBlank ++ middle.reverse.dropWhile isBlank =
        middle.reverse := List.takeWhile_append_dropWhile
    have whole := congrArg List.reverse turned
    rw [List.reverse_append, List.reverse_reverse] at whole
    exact whole.symm
  refine ⟨text.takeWhile isBlank, (middle.reverse.takeWhile isBlank).reverse, ?_, passed text, ?_⟩
  · rw [List.append_assoc, ← last, first]
  · exact fun symbol member => passed middle.reverse symbol (List.mem_reverse.mp member)

end Text

namespace Numeral

/-! ## Digits -/

/-- The number that digits denote by their places: the last one counts ones, the one before it tens,
and so on. -/
def placeValue (digits : Text) : Nat :=
  Nat.ofDigits 10 (digits.reverse.map fun digit => digit.toNat - '0'.toNat)

/-- Digits that are read one after the other have their places. -/
theorem accumulate_eq (number : Nat) (digits : Text) :
    accumulate number digits = number * 10 ^ digits.length + placeValue digits := by
  induction digits generalizing number with
  | nil =>
    show number = number * 10 ^ 0 + 0
    omega
  | cons digit rest hypothesis =>
    have read : accumulate number (digit :: rest) =
        accumulate (10 * number + (digit.toNat - '0'.toNat)) rest := rfl
    have places : placeValue (digit :: rest) =
        placeValue rest + 10 ^ rest.length * (digit.toNat - '0'.toNat) := by
      unfold placeValue
      rw [List.reverse_cons, List.map_append, Nat.ofDigits_append, List.length_map,
        List.length_reverse, List.map_singleton, Nat.ofDigits_singleton]
    rw [read, hypothesis, places, List.length_cons, Nat.pow_succ]
    ring

/-- A numeral is read when it has digits and nothing else, and denotes what its places tell. -/
theorem natural?_eq_some_iff {digits : Text} {number : Nat} : natural? digits = some number ↔
    digits ≠ [] ∧ (∀ digit ∈ digits, digit.isDigit) ∧ placeValue digits = number := by
  have value : accumulate 0 digits = placeValue digits := by rw [accumulate_eq, Nat.zero_mul,
    Nat.zero_add]
  unfold natural?
  rw [value]
  by_cases empty : digits = []
  · subst empty
    exact iff_of_false nofun fun proper => proper.1 rfl
  by_cases proper : ∀ digit ∈ digits, digit.isDigit
  · have accepted : ¬ (digits.isEmpty ∨ ¬ digits.all Char.isDigit) := by
      simpa [empty] using proper
    rw [if_neg accepted, Option.some.injEq]
    exact ⟨fun same => ⟨empty, proper, same⟩, fun denoted => denoted.2.2⟩
  · have refused : digits.isEmpty ∨ ¬ digits.all Char.isDigit :=
      .inr (by simpa [List.all_eq_true] using proper)
    rw [if_pos refused]
    exact iff_of_false nofun fun denoted => proper denoted.2.1

/-- The canonical numeral of a number denotes it. -/
theorem placeValue_ofNat (number : Nat) : placeValue (ofNat number) = number := by
  have read : accumulate 0 (ofNat number) = number :=
    Nat.ofDigitChars_toDigits (by decide) (by decide)
  rw [accumulate_eq, Nat.zero_mul, Nat.zero_add] at read
  exact read

/-- A digit is no white space. -/
theorem not_isBlank_of_isDigit {digit : Char} (proper : digit.isDigit) : ¬ isBlank digit := by
  let singles : List Char := [' ', '\t', '\n', '\r', '\x0b', '\x0c', '\u0085', '\u00a0', '\u1680',
    '\u2028', '\u2029', '\u202f', '\u205f', '\u3000']
  have no_digits : singles.all (fun symbol => !symbol.isDigit) = true := by decide
  have upper : digit.val ≤ '9'.val := by
    have bounds : '0'.val ≤ digit.val ∧ digit.val ≤ '9'.val := by simpa [Char.isDigit] using proper
    exact bounds.2
  intro blank
  have listed : '\u2000' ≤ digit ∨ digit ∈ singles := by
    simp only [isBlank, isNameBlank, isIgnorable, decide_eq_true_eq, Bool.decide_or,
      Bool.or_eq_true] at blank
    simp only [singles, List.mem_cons, List.not_mem_nil, or_false]
    tauto
  rcases listed with low | single
  · have beyond : ('\u2000' : Char).val ≤ '9'.val := UInt32.le_trans low upper
    exact absurd beyond (by decide)
  · have other := List.all_eq_true.mp no_digits digit single
    rw [proper] at other
    cases other

/-! ## Signs and white space -/

/-- A run of digits with at most one sign in front, and the number that it denotes. -/
inductive Signed : Text → Int → Prop where
  /-- Digits alone denote the number of their places. -/
  | bare {digits : Text} (present : digits ≠ []) (proper : ∀ digit ∈ digits, digit.isDigit) :
    Signed digits (placeValue digits)
  /-- A plus sign changes nothing. -/
  | plus {digits : Text} (present : digits ≠ []) (proper : ∀ digit ∈ digits, digit.isDigit) :
    Signed ('+' :: digits) (placeValue digits)
  /-- A minus sign tells the opposite. -/
  | minus {digits : Text} (present : digits ≠ []) (proper : ∀ digit ∈ digits, digit.isDigit) :
    Signed ('-' :: digits) (-placeValue digits)

/-- A text spells a number: it holds a numeral that denotes it, with Unicode white space around. -/
def Spells (text : Text) (number : Int) : Prop :=
  ∃ before numeral after, text = before ++ numeral ++ after ∧
    (∀ symbol ∈ before, isBlank symbol) ∧ (∀ symbol ∈ after, isBlank symbol) ∧
    Signed numeral number

/-- A numeral holds no white space. -/
theorem Signed.not_isBlank {numeral : Text} {number : Int} (signed : Signed numeral number) :
    ∀ symbol ∈ numeral, ¬ isBlank symbol := by
  have behind : ∀ {sign : Char} {digits : Text}, ¬ isBlank sign →
      (∀ digit ∈ digits, digit.isDigit) → ∀ symbol ∈ sign :: digits, ¬ isBlank symbol := by
    intro sign digits visible proper symbol member
    rcases List.mem_cons.mp member with rfl | digit
    · exact visible
    · exact not_isBlank_of_isDigit (proper symbol digit)
  cases signed with
  | bare present proper => exact fun symbol member => not_isBlank_of_isDigit (proper symbol member)
  | plus present proper => exact behind (by decide) proper
  | minus present proper => exact behind (by decide) proper

/-- What a text spells is told by its trimmed text. -/
theorem spells_iff_trim {text : Text} {number : Int} :
    Spells text number ↔ Signed text.trim number := by
  constructor
  · rintro ⟨before, numeral, after, rfl, front, back, signed⟩
    rw [Text.trim_of_enclosed front signed.not_isBlank back]
    exact signed
  · intro signed
    obtain ⟨before, after, whole, front, back⟩ := text.exists_eq_trim
    exact ⟨before, text.trim, after, whole, front, back, signed⟩

end Numeral

namespace Integer

open Numeral

/-- An integer in range is read from digits, or its opposite is. -/
theorem bind_ofInt?_eq_some_iff {digits : Text} {sign : Nat → Int} {integer : Integer} :
    ((natural? digits).bind fun number => ofInt? (sign number)) = some integer ↔
      digits ≠ [] ∧ (∀ digit ∈ digits, digit.isDigit) ∧
        integer.value = sign (placeValue digits) := by
  rw [Option.bind_eq_some_iff]
  constructor
  · rintro ⟨number, read, inRange⟩
    obtain ⟨present, proper, rfl⟩ := natural?_eq_some_iff.mp read
    exact ⟨present, proper, ofInt?_eq_some.mp inRange⟩
  · rintro ⟨present, proper, value⟩
    exact ⟨_, natural?_eq_some_iff.mpr ⟨present, proper, rfl⟩, ofInt?_eq_some.mpr value⟩

/-- An integer is read from the texts that spell it, and from no others. -/
theorem parse?_eq_some_iff {text : Text} {integer : Integer} :
    parse? text = some integer ↔ Spells text integer.value := by
  rw [spells_iff_trim]
  unfold parse?
  generalize text.trim = numeral
  split
  · rename_i digits
    rw [bind_ofInt?_eq_some_iff]
    constructor
    · rintro ⟨present, proper, value⟩
      rw [value]
      exact .minus present proper
    · intro signed
      generalize number : integer.value = value at signed
      cases signed with
      | bare present proper => exact absurd (proper '-' List.mem_cons_self) (by decide)
      | minus present proper => exact ⟨present, proper, rfl⟩
  · rename_i digits
    rw [bind_ofInt?_eq_some_iff]
    constructor
    · rintro ⟨present, proper, value⟩
      rw [value]
      exact .plus present proper
    · intro signed
      generalize number : integer.value = value at signed
      cases signed with
      | bare present proper => exact absurd (proper '+' List.mem_cons_self) (by decide)
      | plus present proper => exact ⟨present, proper, rfl⟩
  · rename_i no_minus no_plus
    rw [bind_ofInt?_eq_some_iff]
    constructor
    · rintro ⟨present, proper, value⟩
      rw [value]
      exact .bare present proper
    · intro signed
      generalize number : integer.value = value at signed
      cases signed with
      | bare present proper => exact ⟨present, proper, rfl⟩
      | plus present proper => exact absurd rfl (no_plus _)
      | minus present proper => exact absurd rfl (no_minus _)

/-- No integer is read exactly from the texts that spell no number in range. -/
theorem parse?_eq_none_iff {text : Text} : parse? text = none ↔
    ∀ number, Spells text number → ¬ (-2 ^ 63 ≤ number ∧ number ≤ 2 ^ 63 - 1) := by
  rw [Option.eq_none_iff_forall_ne_some]
  constructor
  · rintro refused number spells ⟨lower, upper⟩
    have low : -integerBound ≤ number := by unfold integerBound; omega
    have high : number < integerBound := by unfold integerBound; omega
    exact refused ⟨number, low, high⟩ (parse?_eq_some_iff.mpr spells)
  · intro outside integer read
    have lower := integer.lower
    have upper := integer.upper
    unfold integerBound at lower upper
    exact outside integer.value (parse?_eq_some_iff.mp read) ⟨by omega, by omega⟩

/-- The canonical text of an integer spells it. -/
theorem spells_toString (integer : Integer) :
    Spells (toString integer.value).toList integer.value := by
  have signed : Signed integer.text integer.value := by
    have digits : ∀ number, ∀ digit ∈ ofNat number, digit.isDigit :=
      fun number digit member => Nat.isDigit_of_mem_toDigits (by decide) (by decide) member
    have present : ∀ number, ofNat number ≠ [] := fun number => Nat.toDigits_ne_nil
    unfold text
    dsimp only
    by_cases negative : integer.value < 0
    · have opposite : integer.value = -placeValue (ofNat integer.value.natAbs) := by
        rw [placeValue_ofNat]
        omega
      rw [if_pos negative]
      conv => rhs; rw [opposite]
      exact .minus (present _) (digits _)
    · have same : integer.value = placeValue (ofNat integer.value.natAbs) := by
        rw [placeValue_ofNat]
        omega
      rw [if_neg negative]
      conv => rhs; rw [same]
      exact .bare (present _) (digits _)
  rw [← integer.text_eq_toString]
  exact ⟨[], integer.text, [], by rw [List.nil_append, List.append_nil], nofun, nofun, signed⟩

end Integer
end TextMacros
