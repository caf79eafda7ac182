import TextMacros.Proofs.Name
import TextMacros.Proofs.Token.Recognition
import TextMacros.Segment

/-!
# Segmentations

A text is cut at its introducers: each begins an invocation, and the plain literals are what lies
between. The pieces that an introducer can begin are the spellings of a signature, which are
prefix-free, so the end of an invocation depends on nothing behind it and a text is cut in at most
one way (`Segmentation.unique`). Behind any introducer the reader of invocations finds exactly that
piece (`Fragment.invocation_exact`).
-/

namespace TextMacros

open Token

/-- An introducer takes one byte. -/
theorem size_introducer_cons (text : Text) : Text.size (introducer :: text) = 1 + text.size := by
  rw [Text.size_cons]
  rfl

/-- No character of a plain literal is an introducer. -/
theorem passes_of_plain {literal : Text} (plain : introducer ∉ literal) :
    ∀ symbol ∈ literal, decide (symbol ≠ introducer) = true := by
  intro symbol member
  have differ : symbol ≠ introducer := fun same => plain (same ▸ member)
  simpa using differ

/-- All of a text without introducers is plain. -/
theorem takeWhile_of_plain {text : Text} (plain : introducer ∉ text) :
    text.takeWhile (· ≠ introducer) = text :=
  List.takeWhile_eq_self_iff.mpr (passes_of_plain plain)

/-- Nothing lies behind the plain part of a text without introducers. -/
theorem dropWhile_of_plain {text : Text} (plain : introducer ∉ text) :
    text.dropWhile (· ≠ introducer) = [] :=
  List.dropWhile_eq_nil_iff.mpr (passes_of_plain plain)

/-- A plain literal ends at the first introducer. -/
theorem takeWhile_plain {literal : Text} (plain : introducer ∉ literal) (rest : Text) :
    (literal ++ introducer :: rest).takeWhile (· ≠ introducer) = literal := by
  rw [List.takeWhile_append_of_pos (passes_of_plain plain)]
  simp

/-- What lies behind a plain literal begins with the first introducer. -/
theorem dropWhile_plain {literal : Text} (plain : introducer ∉ literal) (rest : Text) :
    (literal ++ introducer :: rest).dropWhile (· ≠ introducer) = introducer :: rest := by
  rw [List.dropWhile_append_of_pos (passes_of_plain plain)]
  simp

/-- The first introducer of a text is at one place only. -/
theorem plain_front_unique {literal other tail rest : Text} (plain : introducer ∉ literal)
    (also : introducer ∉ other)
    (same : literal ++ introducer :: tail = other ++ introducer :: rest) :
    literal = other ∧ tail = rest := by
  have literals : literal = other := by
    rw [← takeWhile_plain plain, same, takeWhile_plain also]
  rw [literals] at same
  exact ⟨literals, by simpa using same⟩

/-- A text is plain, or it falls into a plain literal and what the first introducer begins. -/
theorem plain_or_introducer (text : Text) :
    introducer ∉ text ∨
      ∃ literal rest, text = literal ++ introducer :: rest ∧ introducer ∉ literal := by
  rcases passes_or_stops (· ≠ introducer) text with
    all | ⟨literal, symbol, rest, split, passes, stops⟩
  · exact .inl fun member => by simpa using all introducer member
  · have first : symbol = introducer := by simpa using stops
    have plain : introducer ∉ literal := fun member => by simpa using passes introducer member
    exact .inr ⟨literal, rest, first ▸ split, plain⟩

/-- A literal and the invocation behind it. -/
structure Passage where
  /-- The text before the introducer. -/
  literal : Text
  /-- The name as it is written. -/
  name : Text
  /-- The parameters as they are written. -/
  parameters : List Text
  /-- What stands behind the introducer, up to the end of the invocation. -/
  spelling : Text

/-- The ways to cut a text into passages and a last literal. -/
inductive Segmentation : List Passage → Text → Text → Prop
  /-- A text without introducers is one literal. -/
  | literal {last : Text} (plain : introducer ∉ last) : Segmentation [] last last
  /-- A plain literal, an introducer and a signature are cut off the front of a text. -/
  | passage {passage : Passage} {passages : List Passage} {last rest : Text}
    (plain : introducer ∉ passage.literal)
    (spelled : SignatureForm passage.name passage.parameters passage.spelling)
    (others : Segmentation passages last rest) :
    Segmentation (passage :: passages) last
      (passage.literal ++ [introducer] ++ passage.spelling ++ rest)

/-- No spelling of a signature begins another one, and each spells one name with its parameters. -/
theorem signature_prefix_free {name other : Text} {parameters others : List Text}
    {piece longer : Text} (spelled : SignatureForm name parameters piece)
    (also : SignatureForm other others longer) (begins : piece <+: longer) :
    piece = longer ∧ name = other ∧ parameters = others := by
  have same : piece = longer ∧ (name, parameters) = (other, others) :=
    recognizes_readSignature.prefix_free spelled also begins
  exact ⟨same.1, congrArg Prod.fst same.2, congrArg Prod.snd same.2⟩

/-- Two spellings of signatures in front of equal texts are one and the same. -/
theorem signature_front_unique {name other : Text} {parameters others : List Text}
    {piece piece' rest rest' : Text} (spelled : SignatureForm name parameters piece)
    (also : SignatureForm other others piece') (same : piece ++ rest = piece' ++ rest') :
    (piece = piece' ∧ name = other ∧ parameters = others) ∧ rest = rest' := by
  have equal : piece = piece' ∧ name = other ∧ parameters = others := by
    rcases List.prefix_or_prefix_of_prefix (List.prefix_append piece rest)
      (same ▸ List.prefix_append piece' rest') with begins | begins
    · exact signature_prefix_free spelled also begins
    · obtain ⟨pieces, names, lists⟩ := signature_prefix_free also spelled begins
      exact ⟨pieces.symm, names.symm, lists.symm⟩
  refine ⟨equal, ?_⟩
  rw [equal.1] at same
  exact List.append_cancel_left same

/-- A text is cut into passages and a last literal in at most one way. -/
theorem Segmentation.unique {passages others : List Passage} {last final text : Text}
    (first : Segmentation passages last text) (second : Segmentation others final text) :
    passages = others ∧ last = final := by
  induction first generalizing others with
  | literal plain =>
    cases second with
    | literal => exact ⟨rfl, rfl⟩
    | passage => simp at plain
  | @passage passage passages last rest plain spelled _ hypothesis =>
    generalize cut : passage.literal ++ [introducer] ++ passage.spelling ++ rest = text at second
    cases second with
    | literal also => simp [← cut] at also
    | @passage passage' passages' _ rest' plain' spelled' others' =>
      have front : passage.literal ++ introducer :: (passage.spelling ++ rest) =
          passage'.literal ++ introducer :: (passage'.spelling ++ rest') := by simpa using cut
      obtain ⟨literals, behind⟩ := plain_front_unique plain plain' front
      obtain ⟨⟨spellings, names, lists⟩, rests⟩ :=
        signature_front_unique spelled spelled' behind
      obtain ⟨others, lasts⟩ := hypothesis (rests ▸ others')
      obtain ⟨literal, name, parameters, spelling⟩ := passage
      obtain ⟨literal', name', parameters', spelling'⟩ := passage'
      simp only at literals names lists spellings
      subst literals names lists spellings
      exact ⟨by rw [others], lasts⟩

/-- A text is complete when it is a sequence of literals and invocations: none of its invocations is
broken, and none is open at its end. -/
def Complete (text : Text) : Prop := ∃ passages last, Segmentation passages last text

/-- The first introducer of a complete text begins an invocation, and what stands behind it is
complete again. -/
theorem Complete.behind {literal tail : Text} (complete : Complete (literal ++ introducer :: tail))
    (plain : introducer ∉ literal) :
    ∃ name parameters piece rest, SignatureForm name parameters piece ∧ tail = piece ++ rest ∧
      Complete rest := by
  obtain ⟨passages, last, segmented⟩ := complete
  generalize cut : literal ++ introducer :: tail = text at segmented
  cases segmented with
  | literal also => simp [← cut] at also
  | @passage passage passages _ rest plain' spelled others =>
    have front : literal ++ introducer :: tail =
        passage.literal ++ introducer :: (passage.spelling ++ rest) := by simpa using cut
    obtain ⟨-, tails⟩ := plain_front_unique plain plain' front
    exact ⟨passage.name, passage.parameters, passage.spelling, rest, spelled, tails, passages, last,
      others⟩

/-- What stands behind the first invocation of a complete text is complete. -/
theorem Complete.rest {literal piece rest name : Text} {parameters : List Text}
    (complete : Complete (literal ++ introducer :: (piece ++ rest))) (plain : introducer ∉ literal)
    (spelled : SignatureForm name parameters piece) : Complete rest := by
  obtain ⟨other, others, longer, remaining, also, same, completeRest⟩ := complete.behind plain
  obtain ⟨-, rests⟩ := signature_front_unique spelled also same
  exact rests ▸ completeRest

/-- An introducer that no spelling of a signature follows leaves a text incomplete. -/
theorem not_complete_of_unspelled {literal tail : Text} (plain : introducer ∉ literal)
    (unspelled : ∀ name parameters piece, SignatureForm name parameters piece → ¬ piece <+: tail) :
    ¬ Complete (literal ++ introducer :: tail) := by
  intro complete
  obtain ⟨name, parameters, piece, rest, spelled, split, -⟩ := complete.behind plain
  exact unspelled name parameters piece spelled ⟨rest, split.symm⟩

namespace Fragment

/-- The place behind the introducer that follows a front part of a text. -/
def placeBehind (before rest : Text) : Cursor := ⟨before.size + 1, rest⟩

/-- Where a signature is spelled behind an introducer, the invocation has its parameters, its name
in canonical spelling, and the span from the introducer on; a blank name is a fault. -/
theorem readInvocation_of_signatureForm (fragment : Fragment) {start : Nat}
    {cursor later : Cursor} {name : Text} {parameters : List Text} {piece : Text}
    (spelled : SignatureForm name parameters piece) (reads : cursor.Reads later piece)
    (behind : cursor.offset = start + 1) :
    fragment.readInvocation start cursor =
      match Name.canonical? name with
      | some canonical => .ok ⟨canonical, parameters, ⟨start, 1 + piece.size⟩⟩ later
      | none => .error ⟨.malformedMacro .emptyName, fragment, ⟨start, 1 + piece.size⟩⟩ later := by
  have success := (recognizes_readSignature cursor (name, parameters) later).mpr
    ⟨piece, spelled, reads⟩
  have stop : later.offset = start + 1 + piece.size := by rw [reads.2, behind]
  have span : Span.between start later.offset = ⟨start, 1 + piece.size⟩ := by
    simp only [Span.between, stop, Span.mk.injEq, true_and]
    omega
  simp only [readInvocation, success, span]
  cases Name.canonical? name <;> rfl

/-- An invocation behind an introducer of a text is read exactly where the text goes on with the
spelling of a signature. No such spelling begins another one, so a text is cut into plain literals
and invocations in at most one way. The invocation read has the parameters as written, the name in
canonical spelling and the span from the introducer to the end of the spelling; a blank name is
refused there. -/
theorem invocation_exact (origin : Origin) (before rest : Text) :
    (∀ (name : Text) (parameters : List Text) (piece : Text),
      (∃ later, readSignature (placeBehind before rest) = .ok (name, parameters) later ∧
        (placeBehind before rest).Reads later piece) ↔
      piece <+: rest ∧ SignatureForm name parameters piece) ∧
    (∀ name parameters piece other others longer, SignatureForm name parameters piece →
      SignatureForm other others longer → piece <+: longer →
      piece = longer ∧ name = other ∧ parameters = others) ∧
    (∀ passages others last final text, Segmentation passages last text →
      Segmentation others final text → passages = others ∧ last = final) ∧
    (∀ (name : Text) (parameters : List Text) (piece : Text), piece <+: rest →
      SignatureForm name parameters piece →
      (readInvocation ⟨origin, before ++ introducer :: rest⟩ before.size (placeBehind before rest) =
        match Name.canonical? name with
        | some canonical => .ok ⟨canonical, parameters, ⟨before.size, 1 + piece.size⟩⟩
            ⟨before.size + 1 + piece.size, rest.drop piece.length⟩
        | none => .error ⟨.malformedMacro .emptyName, ⟨origin, before ++ introducer :: rest⟩,
            ⟨before.size, 1 + piece.size⟩⟩
            ⟨before.size + 1 + piece.size, rest.drop piece.length⟩) ∧
      (Name.canonical? name = none ↔ ∀ symbol ∈ name, isNameBlank symbol = true)) := by
  refine ⟨fun name parameters piece => ⟨?_, ?_⟩, ?_, ?_, ?_⟩
  · rintro ⟨later, success, reads⟩
    obtain ⟨spelling, spelled, readSpelling⟩ := (recognizes_readSignature _ _ _).mp success
    have same : spelling = piece := readSpelling.piece_unique reads
    exact ⟨reads.ahead, same ▸ spelled⟩
  · rintro ⟨ahead, spelled⟩
    have reached : ∃ later, (placeBehind before rest).Reads later piece :=
      Cursor.Reads.of_prefix ahead
    obtain ⟨later, reads⟩ := reached
    exact ⟨later, (recognizes_readSignature _ _ _).mpr ⟨piece, spelled, reads⟩, reads⟩
  · intro name parameters piece other others longer spelled also begins
    exact signature_prefix_free spelled also begins
  · intro passages others last final text first second
    exact first.unique second
  · rintro name parameters piece ⟨behind, rfl⟩ spelled
    have reads : (placeBehind before (piece ++ behind)).Reads
        ⟨before.size + 1 + piece.size, behind⟩ piece := ⟨rfl, rfl⟩
    rw [List.drop_left]
    exact ⟨readInvocation_of_signatureForm _ spelled reads rfl, Name.canonical?_eq_none_iff_blank⟩

end Fragment

end TextMacros
