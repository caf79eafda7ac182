import Mathlib.Data.List.Chain
import TextMacros.Name
import TextMacros.Proofs.Words

/-!
# Names and blanks

A written name has no words, and so no canonical spelling, exactly when it holds nothing but blanks.
Otherwise its canonical spelling is the one text that has its words and is spelled canonically,
which is said of the text alone (`canonical?_eq_some`). So two written names have the same
canonical spelling exactly when they have the same words, and what is spelled canonically is its own
canonical spelling.
-/

namespace TextMacros
namespace Name

/-! ## Blanks -/

/-- The white space of ASCII: space, tab, line feed, carriage return, vertical tab and form feed. -/
def asciiBlanks : List Char := [' ', '\t', '\n', '\r', '\x0b', '\x0c']

/-- The blanks that separate the words of a name are those of ASCII. -/
theorem isNameBlank_iff {symbol : Char} : isNameBlank symbol = true ↔ symbol ∈ asciiBlanks := by
  simp [isNameBlank, isIgnorable, asciiBlanks, or_assoc]

theorem isNameBlank_eq_false {symbol : Char} :
    isNameBlank symbol = false ↔ symbol ∉ asciiBlanks := by
  rw [← isNameBlank_iff, Bool.not_eq_true]

theorem isNameBlank_eq : isNameBlank = fun symbol => decide (symbol ∈ asciiBlanks) := by
  funext symbol
  rw [Bool.eq_iff_iff, isNameBlank_iff, decide_eq_true_eq]

/-- A written name has no canonical spelling exactly when it is blank. -/
theorem canonical?_eq_none_iff_blank {written : Text} :
    canonical? written = none ↔ ∀ symbol ∈ written, isNameBlank symbol = true := by
  rw [canonical?_eq_none, words, Text.wordsBy_eq_nil]

/-! ## Canonical spellings -/

/-- A text that is spelled canonically: single spaces stand between its words, and there is no other
blank. -/
structure IsCanonical (name : Text) : Prop where
  /-- A name has a character. -/
  present : name ≠ []
  /-- No blank stands in front. -/
  starts : ∀ symbol ∈ name.head?, symbol ∉ asciiBlanks
  /-- No blank stands at the end. -/
  ends : ∀ symbol ∈ name.getLast?, symbol ∉ asciiBlanks
  /-- Every blank is a space. -/
  spaces : ∀ symbol ∈ name, symbol ∈ asciiBlanks → symbol = ' '
  /-- No blank follows a blank. -/
  single : name.IsChain fun symbol next => symbol ∉ asciiBlanks ∨ next ∉ asciiBlanks

/-- A word is spelled canonically. -/
theorem isCanonical_of_isWord {word : Text} (proper : Text.IsWord isNameBlank word) :
    IsCanonical word := by
  have whole : ∀ symbol ∈ word, symbol ∉ asciiBlanks :=
    fun symbol member => isNameBlank_eq_false.mp (proper.whole symbol member)
  exact {
    present := proper.present
    starts := fun symbol first => whole symbol (List.mem_of_mem_head? first)
    ends := fun symbol last => whole symbol (List.mem_of_mem_getLast? last)
    spaces := fun symbol member blank => absurd blank (whole symbol member)
    single := (List.pairwise_of_forall_mem_list fun symbol member _ _ =>
      Or.inl (whole symbol member)).isChain }

/-- A word, a space and a canonical spelling make a canonical spelling. -/
theorem IsCanonical.behind_word {word name : Text} (proper : Text.IsWord isNameBlank word)
    (canonical : IsCanonical name) : IsCanonical (word ++ ' ' :: name) := by
  have alone : IsCanonical word := isCanonical_of_isWord proper
  exact {
    present := by simp
    starts := by
      rw [List.head?_append_of_ne_nil word proper.present]
      exact alone.starts
    ends := by
      rw [List.getLast?_append_cons, List.getLast?_cons_of_ne_nil canonical.present]
      exact canonical.ends
    spaces := by
      intro symbol member blank
      rcases List.mem_append.mp member with before | behind
      · exact alone.spaces symbol before blank
      · rcases List.mem_cons.mp behind with space | further
        · exact space
        · exact canonical.spaces symbol further blank
    single := by
      have opens : (' ' :: name).IsChain fun symbol next =>
          symbol ∉ asciiBlanks ∨ next ∉ asciiBlanks :=
        List.isChain_cons.mpr ⟨fun next first => Or.inr (canonical.starts next first),
          canonical.single⟩
      exact List.isChain_append.mpr
        ⟨alone.single, opens, fun symbol last _ _ => Or.inl (alone.ends symbol last)⟩ }

/-- What a blank in a canonical spelling leaves behind it is a canonical spelling, and the blank is
a space. -/
theorem IsCanonical.rest {front rest : Text} {symbol : Char}
    (canonical : IsCanonical (front ++ symbol :: rest)) (blank : symbol ∈ asciiBlanks) :
    symbol = ' ' ∧ IsCanonical rest := by
  have last : (front ++ symbol :: rest).getLast? = (symbol :: rest).getLast? :=
    List.getLast?_append_cons front symbol rest
  have present : rest ≠ [] := by
    rintro rfl
    exact canonical.ends symbol (by simp [last]) blank
  have opens := List.IsChain.right_of_append canonical.single
  obtain ⟨next, single⟩ := List.isChain_cons.mp opens
  refine ⟨canonical.spaces symbol (by simp) blank, {
    present := present
    starts := fun first member => (next first member).resolve_left (not_not_intro blank)
    ends := fun final member => canonical.ends final ?_
    spaces := fun other member => canonical.spaces other (by simp [member])
    single := single }⟩
  rw [last, List.getLast?_cons_of_ne_nil present]
  exact member

/-- Words with single spaces between them are spelled canonically. -/
theorem isCanonical_join {words : List Text} (some : words ≠ [])
    (proper : ∀ word ∈ words, Text.IsWord isNameBlank word) :
    IsCanonical (Text.join [' '] words) := by
  induction words with
  | nil => exact absurd rfl some
  | cons word rest hypothesis =>
    have first : Text.IsWord isNameBlank word := proper word List.mem_cons_self
    by_cases last : rest = []
    · rw [last, Text.join_singleton]
      exact isCanonical_of_isWord first
    · rw [Text.join_cons word last]
      have behind : IsCanonical (Text.join [' '] rest) :=
        hypothesis last fun other member => proper other (List.mem_cons_of_mem word member)
      exact behind.behind_word first

/-- A canonical spelling has words. -/
theorem IsCanonical.words_ne_nil {name : Text} (canonical : IsCanonical name) :
    words name ≠ [] := by
  intro none
  have blank : ∀ symbol ∈ name, isNameBlank symbol = true := Text.wordsBy_eq_nil.mp none
  obtain ⟨first, rest, rfl⟩ := List.exists_cons_of_ne_nil canonical.present
  exact canonical.starts first rfl (isNameBlank_iff.mp (blank first List.mem_cons_self))

/-- A canonical spelling is its words with single spaces between them. -/
theorem IsCanonical.join_words {name : Text} (canonical : IsCanonical name) :
    Text.join [' '] (words name) = name := by
  -- by induction on the words: what stands behind a word and its space is spelled canonically again
  generalize split : words name = list
  induction list generalizing name with
  | nil => exact absurd split canonical.words_ne_nil
  | cons word list hypothesis =>
    have runs : Text.Runs isNameBlank name (word :: list) := Text.runs_iff.mpr split
    cases runs with
    | @word gap word rest list separators proper ends others =>
    have nothing : gap = [] := by
      cases gap with
      | nil => rfl
      | cons symbol gap =>
        have blank : isNameBlank symbol = true := separators symbol List.mem_cons_self
        exact absurd (isNameBlank_iff.mp blank) (canonical.starts symbol rfl)
    rw [nothing, List.nil_append] at canonical ⊢
    cases rest with
    | nil =>
      have last : list = [] := others.wordsBy_eq.symm
      rw [last, Text.join_singleton, List.append_nil]
    | cons symbol rest =>
      have separator : isNameBlank symbol = true := ends symbol rfl
      obtain ⟨space, behind⟩ := canonical.rest (isNameBlank_iff.mp separator)
      have further : words rest = list := by
        rw [words, ← Text.wordsBy_cons separator, others.wordsBy_eq]
      have some : list ≠ [] := further ▸ behind.words_ne_nil
      rw [Text.join_cons word some, hypothesis behind further, space]

/-- The canonical spelling of a name is the one canonical spelling with its words. -/
theorem canonical?_eq_some {written name : Text} :
    canonical? written = some name ↔ IsCanonical name ∧ words name = words written := by
  unfold canonical?
  constructor
  · intro spelled
    split at spelled
    · cases spelled
    · rename_i some
      cases spelled
      have space : isNameBlank ' ' = true := by decide
      have proper : ∀ word ∈ words written, Text.IsWord isNameBlank word :=
        fun word member => Text.isWord_of_mem_wordsBy member
      exact ⟨isCanonical_join (by simpa using some) proper, Text.wordsBy_join space proper⟩
  · rintro ⟨canonical, same⟩
    have some : ¬ (words written).isEmpty = true := by
      rw [← same, List.isEmpty_iff]
      exact canonical.words_ne_nil
    rw [if_neg some, ← same, canonical.join_words]

/-- Two written names have the same canonical spelling exactly when they have the same words. -/
theorem canonical?_eq_iff {written other : Text} :
    canonical? written = canonical? other ↔ words written = words other := by
  constructor
  · intro same
    cases spelled : canonical? written with
    | none =>
      rw [spelled] at same
      rw [canonical?_eq_none.mp spelled, canonical?_eq_none.mp same.symm]
    | some name =>
      rw [spelled] at same
      exact (canonical?_eq_some.mp spelled).2.symm.trans (canonical?_eq_some.mp same.symm).2
  · intro same
    rw [canonical?, canonical?, same]

/-- A canonical spelling is its own canonical spelling. -/
theorem canonical?_eq_self {written name : Text} (canonical : canonical? written = some name) :
    canonical? name = some name :=
  canonical?_eq_some.mpr ⟨(canonical?_eq_some.mp canonical).1, rfl⟩

/-- The words of a name are its runs of characters that are not blanks of ASCII. -/
theorem words_eq_iff_runs {written : Text} {list : List Text} :
    words written = list ↔ Text.Runs (· ∈ asciiBlanks) written list := by
  rw [Text.runs_iff, words, isNameBlank_eq]

/-- A canonical spelling keeps the characters that are not blank, in their order. -/
theorem filter_of_canonical? {written name : Text} (spelled : canonical? written = some name) :
    name.filter (· ∉ asciiBlanks) = written.filter (· ∉ asciiBlanks) := by
  have kept : ∀ text : Text, text.filter (· ∉ asciiBlanks) = (words text).flatten := by
    intro text
    rw [words, Text.flatten_wordsBy, isNameBlank_eq]
    simp only [decide_not]
  rw [kept, kept, (canonical?_eq_some.mp spelled).2]

/-- Names have a canonical spelling, unless they are blank. It is spelled canonically, keeps all but
the blanks, and is its own canonical spelling; and two names share it exactly when blanks part them
into the same words. -/
theorem canonical_exact (written other : Text) :
    (canonical? written = none ↔ ∀ symbol ∈ written, symbol ∈ asciiBlanks) ∧
    ((∃ symbol ∈ written, symbol ∉ asciiBlanks) ↔
      ∃ name, canonical? written = some name ∧ IsCanonical name ∧
        name.filter (· ∉ asciiBlanks) = written.filter (· ∉ asciiBlanks) ∧
        canonical? name = some name) ∧
    (canonical? written = canonical? other ↔
      ∃ words, Text.Runs (· ∈ asciiBlanks) written words ∧
        Text.Runs (· ∈ asciiBlanks) other words) := by
  have blank : canonical? written = none ↔ ∀ symbol ∈ written, symbol ∈ asciiBlanks := by
    rw [canonical?_eq_none_iff_blank]
    simp only [isNameBlank_iff]
  refine ⟨blank, ⟨?_, ?_⟩, ?_, ?_⟩
  · rintro ⟨symbol, member, letter⟩
    cases spelled : canonical? written with
    | none => exact absurd (blank.mp spelled symbol member) letter
    | some name =>
      exact ⟨name, rfl, (canonical?_eq_some.mp spelled).1, filter_of_canonical? spelled,
        canonical?_eq_self spelled⟩
  · rintro ⟨name, spelled, -⟩
    have some : ¬ ∀ symbol ∈ written, symbol ∈ asciiBlanks := by
      rw [← blank, spelled]
      exact Option.some_ne_none name
    simpa using some
  · intro same
    have parted : words other = words written := (canonical?_eq_iff.mp same).symm
    exact ⟨words written, words_eq_iff_runs.mp rfl, words_eq_iff_runs.mp parted⟩
  · rintro ⟨list, first, second⟩
    rw [canonical?_eq_iff, words_eq_iff_runs.mpr first, words_eq_iff_runs.mpr second]

-- A no-break space is a character of its word.
example : canonical? "\x0b new\t\r\n\u00a0line ".toList = some "new \u00a0line".toList := by decide

end Name
end TextMacros
