import TextMacros.Text.Blank

/-!
# Words of a text

The words of a text are its runs of characters that do not separate, each as long as it can be
(`runs_iff`). A separator parts the words before it from the words behind it, and a text that is not
empty and holds no separator is its only word: whatever else is said of words follows from these
two. So words that are joined with a separator between two of them are read back, and what is in no
word is a separator (`flatten_wordsBy`).
-/

namespace TextMacros
namespace Text

/-- What can be a word. -/
structure IsWord (separates : Char → Bool) (text : Text) : Prop where
  /-- A word has a character. -/
  present : text ≠ []
  /-- No character of a word separates. -/
  whole : ∀ symbol ∈ text, separates symbol = false

/-- The words of a text by where they stand: before each there are separators or nothing, and behind
each there is a separator or nothing. -/
inductive Runs (separates : Char → Bool) : Text → List Text → Prop where
  /-- Separators hold no word. -/
  | gap {gap : Text} (separators : ∀ symbol ∈ gap, separates symbol = true) : Runs separates gap []
  /-- A word stands in front of the others. -/
  | word {gap word rest : Text} {words : List Text}
    (separators : ∀ symbol ∈ gap, separates symbol = true) (proper : IsWord separates word)
    (ends : ∀ symbol ∈ rest.head?, separates symbol = true) (others : Runs separates rest words) :
    Runs separates (gap ++ word ++ rest) (word :: words)

variable {separates : Char → Bool}

/-- The words around a separator are those before it and those behind it. -/
theorem wordsBy_append_cons {symbol : Char} (separator : separates symbol = true)
    (front rest : Text) :
    wordsBy separates (front ++ symbol :: rest) =
      wordsBy separates front ++ wordsBy separates rest := by
  unfold wordsBy
  rw [List.splitOnP_append_cons front rest separator, List.filter_append]

/-- What can be a word is its only word. -/
theorem IsWord.wordsBy {word : Text} (proper : IsWord separates word) :
    word.wordsBy separates = [word] := by
  unfold Text.wordsBy
  rw [List.splitOnP_eq_singleton proper.whole]
  simp [proper.present]

@[simp] theorem wordsBy_nil : wordsBy separates [] = [] := by simp [wordsBy]

/-- A separator in front of a text is in no word. -/
theorem wordsBy_cons {symbol : Char} (separator : separates symbol = true) (rest : Text) :
    wordsBy separates (symbol :: rest) = wordsBy separates rest := by
  have apart := wordsBy_append_cons separator [] rest
  rwa [List.nil_append, wordsBy_nil, List.nil_append] at apart

/-- A text of separators alone has no words, and any other text has one. -/
theorem wordsBy_eq_nil {text : Text} :
    text.wordsBy separates = [] ↔ ∀ symbol ∈ text, separates symbol = true := by
  induction text with
  | nil => simp
  | cons symbol rest hypothesis =>
    by_cases separator : separates symbol = true
    · rw [wordsBy_cons separator, hypothesis]
      simp [separator]
    · obtain ⟨first, others, split⟩ := List.exists_cons_of_ne_nil
        (List.splitOnP_ne_nil separates rest)
      unfold wordsBy
      rw [List.splitOnP_cons_eq_if_modifyHead, if_neg separator, split]
      simp [separator]

/-- The pieces between separators hold none. -/
theorem not_separates_of_mem_splitOnP {text piece : Text}
    (member : piece ∈ text.splitOnP separates) : ∀ symbol ∈ piece, separates symbol = false := by
  induction text generalizing piece with
  | nil =>
    simp only [List.splitOnP_nil, List.mem_singleton] at member
    simp [member]
  | cons first rest hypothesis =>
    rw [List.splitOnP_cons_eq_if_modifyHead] at member
    by_cases separator : separates first = true
    · rw [if_pos separator] at member
      rcases List.mem_cons.mp member with rfl | behind
      · simp
      · exact hypothesis behind
    · rw [if_neg separator] at member
      obtain ⟨front, others, split⟩ := List.exists_cons_of_ne_nil
        (List.splitOnP_ne_nil separates rest)
      rw [split, List.modifyHead_cons] at member
      rw [split] at hypothesis
      rcases List.mem_cons.mp member with rfl | behind
      · intro symbol inside
        rcases List.mem_cons.mp inside with rfl | further
        · simpa using separator
        · exact hypothesis List.mem_cons_self symbol further
      · exact hypothesis (List.mem_cons_of_mem front behind)

/-- The words of a text can be words. -/
theorem isWord_of_mem_wordsBy {text word : Text} (member : word ∈ text.wordsBy separates) :
    IsWord separates word := by
  obtain ⟨piece, long⟩ := List.mem_filter.mp member
  exact ⟨by simpa using long, not_separates_of_mem_splitOnP piece⟩

/-! ## Joining -/

/-- One text is joined to nothing. -/
@[simp] theorem join_singleton (separator text : Text) : join separator [text] = text := by
  simp [join]

/-- What is joined are the first texts, the separator and the texts behind them. -/
theorem join_append {symbol : Char} {front back : List Text} (begun : front ≠ [])
    (present : back ≠ []) :
    join [symbol] (front ++ back) = join [symbol] front ++ symbol :: join [symbol] back := by
  induction front with
  | nil => exact absurd rfl begun
  | cons text rest hypothesis =>
    cases rest with
    | nil =>
      obtain ⟨next, others, rfl⟩ := List.exists_cons_of_ne_nil present
      simp [join]
    | cons next others =>
      have behind := hypothesis (List.cons_ne_nil next others)
      simp only [join, List.cons_append, List.intercalate_cons_cons] at behind ⊢
      simp [behind]

/-- A text in front of others is followed by the separator. -/
theorem join_cons {symbol : Char} {rest : List Text} (text : Text) (present : rest ≠ []) :
    join [symbol] (text :: rest) = text ++ symbol :: join [symbol] rest := by
  have apart : join [symbol] ([text] ++ rest) = _ := join_append (List.cons_ne_nil text []) present
  rwa [List.singleton_append, join_singleton] at apart

/-- Words with single separators between them are read back. -/
theorem wordsBy_join {symbol : Char} (separator : separates symbol = true) {words : List Text}
    (proper : ∀ word ∈ words, IsWord separates word) :
    (join [symbol] words).wordsBy separates = words := by
  induction words with
  | nil => simp [join]
  | cons word rest hypothesis =>
    have alone : word.wordsBy separates = [word] := (proper word List.mem_cons_self).wordsBy
    have behind := hypothesis fun other member => proper other (List.mem_cons_of_mem word member)
    by_cases last : rest = []
    · rw [last, join_singleton, alone]
    · rw [join_cons word last, wordsBy_append_cons separator, alone, behind,
        List.singleton_append]

/-! ## Runs -/

/-- Separators in front of a text are in no word. -/
theorem wordsBy_append_of_separators {gap : Text}
    (separators : ∀ symbol ∈ gap, separates symbol = true) (rest : Text) :
    wordsBy separates (gap ++ rest) = wordsBy separates rest := by
  induction gap with
  | nil => rfl
  | cons symbol gap hypothesis =>
    rw [List.cons_append, wordsBy_cons (separators symbol List.mem_cons_self)]
    exact hypothesis fun other member => separators other (List.mem_cons_of_mem symbol member)

/-- The runs of a text are its words. -/
theorem Runs.wordsBy_eq {text : Text} {words : List Text} (runs : Runs separates text words) :
    text.wordsBy separates = words := by
  induction runs with
  | gap separators => exact wordsBy_eq_nil.mpr separators
  | @word gap word rest words separators proper ends others hypothesis =>
    rw [List.append_assoc, wordsBy_append_of_separators separators]
    cases rest with
    | nil =>
      rw [List.append_nil, proper.wordsBy, ← hypothesis, wordsBy_nil]
    | cons symbol rest =>
      have separator : separates symbol = true := ends symbol rfl
      rw [wordsBy_cons separator] at hypothesis
      rw [wordsBy_append_cons separator, proper.wordsBy, hypothesis]
      rfl

/-- Every text has runs. -/
theorem exists_runs (separates : Char → Bool) (text : Text) :
    ∃ words, Runs separates text words := by
  induction text with
  | nil => exact ⟨[], .gap (by simp)⟩
  | cons symbol rest hypothesis =>
    obtain ⟨words, runs⟩ := hypothesis
    by_cases separator : separates symbol = true
    · -- the gap in front grows
      cases runs with
      | gap separators => exact ⟨[], .gap (List.forall_mem_cons.mpr ⟨separator, separators⟩)⟩
      | @word gap word rest words separators proper ends others =>
        exact ⟨word :: words,
          .word (List.forall_mem_cons.mpr ⟨separator, separators⟩) proper ends others⟩
    · have alone : IsWord separates [symbol] := ⟨by simp, by simpa using separator⟩
      have nothing : ∀ symbol ∈ ([] : Text), separates symbol = true := by simp
      cases runs with
      | gap separators =>
        have ends : ∀ other ∈ rest.head?, separates other = true :=
          fun other first => separators other (List.mem_of_mem_head? first)
        exact ⟨[[symbol]], .word nothing alone ends (.gap separators)⟩
      | @word gap word rest words separators proper ends others =>
        cases gap with
        | nil =>
          -- the first word grows
          have longer : IsWord separates (symbol :: word) :=
            ⟨by simp, List.forall_mem_cons.mpr ⟨by simpa using separator, proper.whole⟩⟩
          exact ⟨(symbol :: word) :: words, .word nothing longer ends others⟩
        | cons first gap =>
          have opens : separates first = true := separators first List.mem_cons_self
          exact ⟨[symbol] :: word :: words,
            .word nothing alone (by simpa using opens) (.word separators proper ends others)⟩

/-- The runs of a text and its words are the same. -/
theorem runs_iff {text : Text} {words : List Text} :
    Runs separates text words ↔ text.wordsBy separates = words := by
  constructor
  · exact Runs.wordsBy_eq
  · rintro rfl
    obtain ⟨words, runs⟩ := exists_runs separates text
    rw [runs.wordsBy_eq]
    exact runs

/-- The words of a text hold its characters that do not separate, in their order. -/
theorem flatten_wordsBy (separates : Char → Bool) (text : Text) :
    (text.wordsBy separates).flatten = text.filter fun symbol => !separates symbol := by
  obtain ⟨words, runs⟩ := exists_runs separates text
  rw [runs.wordsBy_eq]
  have none : ∀ gap : Text, (∀ symbol ∈ gap, separates symbol = true) →
      gap.filter (fun symbol => !separates symbol) = [] := by
    intro gap separators
    rw [List.filter_eq_nil_iff]
    simpa using separators
  induction runs with
  | gap separators => rw [none _ separators, List.flatten_nil]
  | @word gap word rest words separators proper ends others hypothesis =>
    have whole : word.filter (fun symbol => !separates symbol) = word := by
      rw [List.filter_eq_self]
      simpa using proper.whole
    rw [List.flatten_cons, hypothesis, List.filter_append, List.filter_append, none gap separators,
      whole, List.nil_append]

end Text
end TextMacros
