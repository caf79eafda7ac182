import TextMacros.Definition
import TextMacros.Proofs.Name
import TextMacros.Proofs.Token.Recognition

/-!
# Recognized definitions

A fragment defines a macro exactly when its whole text is a spelling of a definition whose name has
words and whose formal parameters differ from each other. The macro has the canonical spelling of
the name, and its parameters and body are taken over as they are written
(`Macro.definition_exact`). Any other fragment is refused, always for the definition itself.
-/

namespace TextMacros

namespace Token

/-- Reads a definition up to the end of the token of its body. -/
def readDefinitionFront : Reader (Text × List Text × Text) :=
  mark introducer >>= fun _ => readSignature >>= fun signature => mark '=' >>= fun _ =>
    readToken >>= fun body => pure (signature.1, signature.2, body)

/-- A definition ends behind the token of its body, but for blanks. -/
theorem readDefinition_eq :
    readDefinition = readDefinitionFront >>= fun found => expectOnlyIgnorable >>= fun _ =>
      pure found := by
  unfold readDefinition readDefinitionFront
  simp only [expectSymbol_bind, bind_assoc, pure_bind]

/-- The front of a definition is recognized: all of its form but the blanks behind it. -/
theorem recognizes_readDefinitionFront : Recognizes readDefinitionFront fun found piece =>
    ∃ first signature second third token, Gap first ∧ SignatureForm found.1 found.2.1 signature ∧
      Gap second ∧ Gap third ∧ TokenForm found.2.2 token ∧
      piece = first ++ [introducer] ++ signature ++ second ++ ['='] ++ third ++ token := by
  refine ((recognizes_mark introducer).bind fun _ => recognizes_readSignature.bind fun signature =>
    (recognizes_mark '=').bind fun _ => recognizes_readToken.bind fun body =>
      .pure (signature.1, signature.2, body)).congr fun (name, parameters, body) piece => ?_
  constructor
  · rintro ⟨_, _, _, rfl, ⟨first, gapFirst, -, rfl⟩, _, signature, _, rfl, head,
      _, _, _, rfl, ⟨second, gapSecond, -, rfl⟩, _, _, _, rfl,
      ⟨third, token, gapThird, written, rfl⟩, ⟨⟩, rfl⟩
    exact ⟨first, signature, second, third, token, gapFirst, head, gapSecond, gapThird, written,
      by simp⟩
  · rintro ⟨first, signature, second, third, token, gapFirst, head, gapSecond, gapThird, written,
      rfl⟩
    have beforeIntroducer : introducer ∉ first := fun member =>
      absurd (gapFirst introducer member) (by decide)
    have beforeEquals : '=' ∉ second := fun member => absurd (gapSecond '=' member) (by decide)
    exact ⟨(), first ++ [introducer], signature ++ (second ++ ['='] ++ (third ++ token)), by simp,
      ⟨first, gapFirst, beforeIntroducer, rfl⟩,
      (name, parameters), signature, second ++ ['='] ++ (third ++ token), rfl, head,
      (), second ++ ['='], third ++ token, rfl, ⟨second, gapSecond, beforeEquals, rfl⟩,
      body, third ++ token, [], by simp, ⟨third, token, gapThird, written, rfl⟩, rfl, rfl⟩

/-- A blank rest is read to its end. -/
theorem expectOnlyIgnorable_of_gap {cursor : Cursor} (blank : Gap cursor.unread) :
    expectOnlyIgnorable cursor = .ok () ⟨cursor.offset + cursor.unread.size, []⟩ := by
  unfold expectOnlyIgnorable
  rw [bind_of_ok _ (takeWhile_of_passes blank)]
  rfl

/-- A rest that is not blank is refused at its first character that is no blank. -/
theorem expectOnlyIgnorable_of_stops {cursor : Cursor} {gap rest : Text} {symbol : Char}
    (ahead : cursor.unread = gap ++ symbol :: rest) (blank : Gap gap)
    (stops : isIgnorable symbol = false) :
    expectOnlyIgnorable cursor =
      .error ⟨cursor.offset + gap.size, .unexpectedSymbol .blanks symbol⟩
        ⟨cursor.offset + gap.size + symbol.utf8Size, rest⟩ := by
  have found : next? ⟨cursor.offset + gap.size, symbol :: rest⟩ =
      .ok (some (cursor.offset + gap.size, symbol))
        ⟨cursor.offset + gap.size + symbol.utf8Size, rest⟩ := rfl
  unfold expectOnlyIgnorable
  rw [bind_of_ok _ (takeWhile_of_stops ahead blank stops), bind_of_ok _ found]
  rfl

/-- A rest that is read to its end is blank. -/
theorem gap_of_expectOnlyIgnorable {cursor later : Cursor}
    (success : expectOnlyIgnorable cursor = .ok () later) : Gap cursor.unread := by
  rcases passes_or_stops isIgnorable cursor.unread with
    all | ⟨run, symbol, rest, ahead, passes, stops⟩
  · exact all
  · cases success.symm.trans (expectOnlyIgnorable_of_stops ahead passes stops)

/-- A definition is read from a text exactly when the text is a spelling of it. -/
theorem readDefinition_iff {text name body : Text} {parameters : List Text} :
    (∃ later, readDefinition (Cursor.start text) = .ok (name, parameters, body) later) ↔
      DefinitionForm name parameters body text := by
  rw [readDefinition_eq]
  constructor
  · rintro ⟨later, success⟩
    obtain ⟨found, middle, front, back⟩ := bind_eq_ok.mp success
    obtain ⟨_, last, blanks, result⟩ := bind_eq_ok.mp back
    obtain ⟨piece, ⟨first, signature, second, third, token, gapFirst, head, gapSecond, gapThird,
      written, rfl⟩, reads⟩ := (recognizes_readDefinitionFront _ _ _).mp front
    obtain rfl : found = (name, parameters, body) := by
      cases result
      rfl
    have whole : text = first ++ [introducer] ++ signature ++ second ++ ['='] ++ third ++ token ++
        middle.unread := reads.1
    rw [whole]
    exact .whole gapFirst head gapSecond gapThird written (gap_of_expectOnlyIgnorable blanks)
  · rintro ⟨gapFirst, head, gapSecond, gapThird, written, gapFourth⟩
    rename_i first second third fourth signature token
    obtain ⟨middle, front, rest⟩ : ∃ middle, readDefinitionFront (Cursor.start (first ++
        [introducer] ++ signature ++ second ++ ['='] ++ third ++ token ++ fourth)) =
        .ok (name, parameters, body) middle ∧ middle.unread = fourth :=
      ⟨⟨_, fourth⟩, (recognizes_readDefinitionFront _ _ _).mpr ⟨_, ⟨first, signature, second, third,
        token, gapFirst, head, gapSecond, gapThird, written, rfl⟩, rfl, rfl⟩, rfl⟩
    have blank : Gap middle.unread := rest ▸ gapFourth
    have blanks := expectOnlyIgnorable_of_gap blank
    refine ⟨⟨middle.offset + middle.unread.size, []⟩, ?_⟩
    rw [bind_of_ok _ front, bind_of_ok _ blanks]
    rfl

end Token

namespace Macro

/-- A definition that is read has the canonical spelling of its name and no repeated parameters. -/
theorem ofDefinition_eq_ok {fragment : Fragment} {definition : Macro} :
    ofDefinition fragment = .ok definition ↔
      ∃ written, Token.DefinitionForm written definition.parameters definition.body fragment.text ∧
        Name.canonical? written = some definition.name ∧ definition.parameters.Nodup := by
  simp only [← Token.readDefinition_iff]
  unfold ofDefinition
  cases outcome : Token.readDefinition (Token.Cursor.start fragment.text) with
  | error fault later => simp
  | ok found later =>
    obtain ⟨written, parameters, body⟩ := found
    obtain ⟨name', parameters', body'⟩ := definition
    cases canonical : Name.canonical? written with
    | none => simp +contextual [canonical]
    | some name =>
      cases repeated : firstRepeated? parameters with
      | some parameter =>
        have differ : ¬ parameters.Nodup := by
          rw [← firstRepeated?_eq_none, repeated]
          simp
        constructor
        · intro success
          simp [canonical, repeated] at success
        · rintro ⟨_, ⟨_, ⟨⟩⟩, _, distinct⟩
          exact absurd distinct differ
      | none =>
        have distinct : parameters.Nodup := firstRepeated?_eq_none.mp repeated
        constructor
        · intro success
          obtain ⟨rfl, rfl, rfl⟩ : name = name' ∧ parameters = parameters' ∧ body = body' := by
            simpa [canonical, repeated] using success
          exact ⟨written, ⟨later, rfl⟩, canonical, distinct⟩
        · rintro ⟨_, ⟨_, ⟨⟩⟩, same, _⟩
          obtain rfl : name = name' := by simpa [canonical] using same
          simp [canonical, repeated]

/-- A fragment that defines nothing is refused for what is wrong with the definition. -/
theorem malformed_of_ofDefinition {fragment : Fragment} {failure : Failure}
    (refused : ofDefinition fragment = .error failure) :
    ∃ fault span, failure = ⟨.malformedDefinition fault, fragment, span⟩ := by
  unfold ofDefinition at refused
  dsimp only at refused
  split at refused
  · cases refused
    exact ⟨_, _, rfl⟩
  · split at refused
    · cases refused
      exact ⟨_, _, rfl⟩
    · split at refused
      · cases refused
        exact ⟨_, _, rfl⟩
      · cases refused

/-- A fragment defines a macro exactly when its text is a spelling of a definition whose name is not
blank and whose parameters differ from each other; the macro has the canonical spelling of the
name, and the parameters and the body as they are written. Every other fragment is refused for the
definition itself. -/
theorem definition_exact (fragment : Fragment) :
    (∀ definition : Macro, ofDefinition fragment = .ok definition ↔
      ∃ written,
        Token.DefinitionForm written definition.parameters definition.body fragment.text ∧
        ¬ (∀ symbol ∈ written, isNameBlank symbol = true) ∧ definition.parameters.Nodup ∧
        Name.canonical? written = some definition.name) ∧
    ((∃ definition, ofDefinition fragment = .ok definition) ∨
      ∃ fault span, ofDefinition fragment =
        .error ⟨.malformedDefinition fault, fragment, span⟩) := by
  refine ⟨fun definition => ?_, ?_⟩
  · rw [ofDefinition_eq_ok]
    constructor
    · rintro ⟨written, form, canonical, distinct⟩
      refine ⟨written, form, fun blank => ?_, distinct, canonical⟩
      rw [Name.canonical?_eq_none_iff_blank.mpr blank] at canonical
      cases canonical
    · rintro ⟨written, form, _, distinct, canonical⟩
      exact ⟨written, form, canonical, distinct⟩
  · cases outcome : ofDefinition fragment with
    | ok definition => exact .inl ⟨definition, rfl⟩
    | error failure =>
      obtain ⟨fault, span, rfl⟩ := malformed_of_ofDefinition outcome
      exact .inr ⟨fault, span, rfl⟩

end Macro

end TextMacros
