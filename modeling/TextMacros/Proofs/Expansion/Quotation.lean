import TextMacros.Proofs.Expansion.Reference

/-!
# Quotations

A text is quoted by an invocation that puts out its parameter as it stands. Nothing in the text has
a meaning there but the delimiter of the parameter, which can be any character that the text does
not hold, so every text that leaves some character out can be quoted as a whole. A quotation does
its work at every place of every fragment and in every context (`runFrom_of_quotation`). A document
of literals and quotations expands to what they say, under every limit that admits the document
(`expandDocument_quotes`). Any text can be written as such a document, since it is enough to quote
its introducers (`QuotedItem.spell`).
-/

namespace TextMacros

open Token

/-- A text in quotes: the delimiter of the parameter, the delimiter of the invocation, the name as
it is written and the blanks behind the parameter list, each where it is allowed. -/
structure Quotation where
  /-- The text that is quoted. -/
  text : Text
  /-- The delimiter of the parameter. -/
  inner : Char
  /-- The delimiter of the invocation. -/
  outer : Char
  /-- The name of the primitive, as it is written. -/
  name : Text
  /-- The blanks between the parameter list and the delimiter. -/
  gap : Text
  /-- The text does not hold the delimiter of the parameter. -/
  absent : inner ∉ text
  /-- An opening parenthesis delimits no name. -/
  allowed : outer ≠ '('
  /-- The name does not hold its delimiter. -/
  outside : outer ∉ name
  /-- The name does not hold an opening parenthesis. -/
  closed : '(' ∉ name
  /-- The name calls the primitive. -/
  named : Name.canonical? name = some Primitive.noExpand.name
  /-- Behind the parameter list there are blanks alone. -/
  blank : Gap gap
  /-- The blanks do not hold the delimiter of the invocation. -/
  beyond : outer ∉ gap

namespace Quotation

/-- The quotation behind its first introducer. -/
def spelling (quotation : Quotation) : Text :=
  [quotation.outer] ++ quotation.name ++ ['('] ++
    ([introducer, quotation.inner] ++ quotation.text ++ [quotation.inner, introducer] ++ [')']) ++
    quotation.gap ++ [quotation.outer, introducer]

/-- The quotation as it is written. -/
def written (quotation : Quotation) : Text := introducer :: quotation.spelling

/-- A quotation spells an invocation with the text as its parameter. -/
theorem signatureForm (quotation : Quotation) :
    SignatureForm quotation.name [quotation.text] quotation.spelling := by
  have nothing : Gap [] := by decide
  have token : TokenForm quotation.text
      ([introducer, quotation.inner] ++ quotation.text ++ [quotation.inner, introducer]) :=
    .delimited quotation.inner quotation.absent
  have list := ListForm.last nothing token nothing
  rw [List.nil_append, List.append_nil] at list
  exact .list quotation.outer quotation.allowed quotation.outside quotation.closed list
    quotation.blank quotation.beyond

end Quotation

/-- A part of a document that quotes. -/
inductive QuotedItem where
  /-- A literal without introducers. -/
  | literal (text : Text) (plain : introducer ∉ text)
  /-- A quotation. -/
  | quotation (quoted : Quotation)

namespace QuotedItem

/-- The item as it is written. -/
def written : QuotedItem → Text
  | .literal text _ => text
  | .quotation quoted => quoted.written

/-- What the item says. -/
def said : QuotedItem → Text
  | .literal text _ => text
  | .quotation quoted => quoted.text

/-- The document of some items. -/
def document (items : List QuotedItem) : Text := items.flatMap written

/-- What some items say, one after another. -/
def plainText (items : List QuotedItem) : Text := items.flatMap said

/-- An introducer in quotes. -/
def introducerQuoted : Quotation where
  text := [introducer]
  inner := '!'
  outer := '|'
  name := Primitive.noExpand.name
  gap := []
  absent := by decide
  allowed := by decide
  outside := by decide
  closed := by decide
  named := by decide
  blank := by decide
  beyond := by decide

/-- One character as an item. -/
def ofSymbol (symbol : Char) : QuotedItem :=
  if same : symbol = introducer then .quotation introducerQuoted
  else .literal [symbol] (by simpa [eq_comm] using same)

/-- A text as items, its introducers in quotes. -/
def spell (text : Text) : List QuotedItem := text.map ofSymbol

/-- The items of a text say the text. -/
theorem plainText_spell (text : Text) : plainText (spell text) = text := by
  have single : ∀ symbol, said (ofSymbol symbol) = [symbol] := by
    intro symbol
    unfold ofSymbol
    by_cases same : symbol = introducer
    · rw [dif_pos same, same]
      rfl
    · rw [dif_neg same]
      rfl
  unfold plainText spell
  rw [List.flatMap_map]
  induction text with
  | nil => rfl
  | cons symbol rest hypothesis =>
    rw [List.flatMap_cons, hypothesis, single, List.singleton_append]

end QuotedItem

namespace Expansion

variable {State : Type} (services : Services State) (fragment : Fragment)

/-- A quotation puts out its text, and shows in the journal alone. -/
theorem runFrom_of_quotation (quoted : Quotation) (offset : Nat) (rest : Text)
    (context : Context State) :
    ∃ final, context.Alike final ∧
      runFrom services fragment ⟨offset, quoted.written ++ rest⟩ context =
        (runFrom services fragment ⟨offset + quoted.written.size, rest⟩ >>= fun others =>
          pure (quoted.text ++ others)) final := by
  obtain ⟨noted, alike, step⟩ := runFrom_of_invocation services fragment quoted.signatureForm
    quoted.named offset rest context
  have called : Primitive.ofName? Primitive.noExpand.name = some .noExpand := by decide
  have resolved : ∃ final, noted.Alike final ∧ _ = EStateM.Result.ok quoted.text final :=
    resolve_noExpand services fragment ⟨offset, 1 + quoted.spelling.size⟩ quoted.text called
  obtain ⟨final, alikeFinal, success⟩ := resolved
  refine ⟨final, alike.trans alikeFinal, ?_⟩
  have width : quoted.written.size = 1 + quoted.spelling.size := rfl
  rw [width, ← Nat.add_assoc]
  exact step.trans (bind_of_ok _ success)

/-- Literals and quotations put out what they say, and show in the journal alone. -/
theorem runFrom_of_items (items : List QuotedItem) (offset : Nat) (context : Context State) :
    ∃ final, context.Alike final ∧
      runFrom services fragment ⟨offset, QuotedItem.document items⟩ context =
        .ok (QuotedItem.plainText items) final := by
  induction items generalizing offset context with
  | nil =>
    have nothing : introducer ∉ ([] : Text) := List.not_mem_nil
    refine ⟨context, .refl context, ?_⟩
    show runFrom services fragment ⟨offset, []⟩ context = _
    rw [runFrom_of_plain nothing]
    rfl
  | cons item rest hypothesis =>
    cases item with
    | literal text plain =>
      obtain ⟨final, alike, ran⟩ := hypothesis (offset + text.size) context
      refine ⟨final, alike, ?_⟩
      show runFrom services fragment ⟨offset, text ++ QuotedItem.document rest⟩ context = _
      rw [runFrom_of_plain_front plain, bind_of_ok _ ran]
      rfl
    | quotation quoted =>
      obtain ⟨behind, alike, step⟩ := runFrom_of_quotation services fragment quoted offset
        (QuotedItem.document rest) context
      obtain ⟨final, alikeFinal, ran⟩ := hypothesis (offset + quoted.written.size) behind
      refine ⟨final, alike.trans alikeFinal, ?_⟩
      show runFrom services fragment ⟨offset, quoted.written ++ QuotedItem.document rest⟩
        context = _
      rw [step, bind_of_ok _ ran]
      rfl

/-- A document of literals and quotations expands to what they say, in every context that admits
it. -/
theorem ofText_of_items (items : List QuotedItem) (bindings : List Macro) (origin : Origin)
    {context : Context State} (admitted : context.depth.remaining ≠ 0) :
    ∃ final, context.Alike final ∧
      ofText services (QuotedItem.document items) bindings origin context =
        .ok (QuotedItem.plainText items) final := by
  obtain ⟨inside, alike, ran⟩ := runFrom_of_items services
    ⟨origin, QuotedItem.document items⟩ items 0 (context.enter bindings origin)
  exact ofText_of_run admitted alike ran

end Expansion

/-- Every text can be quoted. At every place of every fragment and in every context, a quotation
puts out its text; scopes, counters and prompt are as before, and the run goes on behind it. Under
every limit that admits the document, literals and quotations expand to what they say, and the user
is neither asked nor told anything. So every text is the expansion of some document. -/
theorem expandDocument_quotes {State : Type} (settings : Settings) (prompt : Prompt State)
    (retriever : Retriever) (admitted : 1 ≤ settings.maxDepth) :
    (∀ (services : Services State) (fragment : Fragment) (quoted : Quotation)
      (offset : Nat) (rest : Text) (context : Context State),
      ∃ final, context.Alike final ∧
        Expansion.runFrom services fragment ⟨offset, quoted.written ++ rest⟩ context =
          (Expansion.runFrom services fragment ⟨offset + quoted.written.size, rest⟩ >>=
            fun others => pure (quoted.text ++ others)) final) ∧
    (∀ (items : List QuotedItem) (state : State) (journal : Journal),
      let outcome := expandDocument settings prompt retriever (QuotedItem.document items) state
        journal
      outcome.result = .ok (QuotedItem.plainText items) ∧ outcome.prompt = state) ∧
    ∀ text : Text, ∃ document, ∀ (state : State) (journal : Journal),
      (expandDocument settings prompt retriever document state journal).result = .ok text := by
  have quotes : ∀ (items : List QuotedItem) (state : State) (journal : Journal),
      let outcome := expandDocument settings prompt retriever (QuotedItem.document items) state
        journal
      outcome.result = .ok (QuotedItem.plainText items) ∧ outcome.prompt = state := by
    intro items state journal outcome
    let services : Services State := ⟨settings.pageMarker, prompt, retriever⟩
    let begun : Context State := (Context.initial settings.maxDepth state journal).note
      (.expanding settings.sourceName (QuotedItem.document items).size)
    have levels : begun.depth.remaining ≠ 0 := by
      show settings.maxDepth - 0 ≠ 0
      omega
    obtain ⟨final, alike, success⟩ := Expansion.ofText_of_items services items []
      (.labelled settings.sourceName) levels
    have ended : outcome.result = .ok (QuotedItem.plainText items) ∧
        outcome.prompt = final.prompt := by
      unfold outcome expandDocument
      dsimp only
      rw [success]
      exact ⟨rfl, rfl⟩
    exact ⟨ended.1, ended.2.trans alike.prompt⟩
  refine ⟨Expansion.runFrom_of_quotation, quotes, fun text => ?_⟩
  refine ⟨QuotedItem.document (QuotedItem.spell text), fun state journal => ?_⟩
  have said := (quotes (QuotedItem.spell text) state journal).1
  rw [QuotedItem.plainText_spell] at said
  exact said

/-- A text that holds its own outer delimiter, a closing parenthesis and an invocation, quoted with
an opening parenthesis, next to one that is quoted with introducers, under a limit of one. -/
theorem expandDocument_quotes_adversary :
    let first : Text := "\\,no expand)\\),\\".toList
    let second : Text := "),(".toList
    let document : Text := ("a" ++ "\\,no expand(\\(" ++ "\\,no expand)\\),\\" ++ "(\\)\n,\\" ++
      "\\\\ no\texpand (\\\\" ++ "),(" ++ "\\\\) \\\\").toList
    let settings : Settings := { Settings.default with maxDepth := 1 }
    1 ≤ settings.maxDepth ∧
      (expandDocument settings .silent .offline document () #[]).result =
        .ok ("a".toList ++ first ++ second) := by
  intro first second document settings
  have admitted : 1 ≤ settings.maxDepth := by decide
  let one : Quotation := ⟨first, '(', ',', "no expand".toList, ['\n'], by decide, by decide,
    by decide, by decide, by decide, by decide, by decide⟩
  let other : Quotation := ⟨second, '\\', '\\', " no\texpand ".toList, [' '], by decide, by decide,
    by decide, by decide, by decide, by decide, by decide⟩
  let items : List QuotedItem := [.literal ['a'] (by decide), .quotation one, .quotation other]
  have written : QuotedItem.document items = document := by decide
  obtain ⟨-, quotes, -⟩ := expandDocument_quotes settings (.silent : Prompt Unit) .offline admitted
  have said := (quotes items () #[]).1
  rw [written] at said
  exact ⟨admitted, said⟩

end TextMacros
