import Mathlib.Data.List.Chain
import Mathlib.Data.List.Forall2
import TextMacros.Text.Wrap
import TextMacros.Proofs.Words

/-!
# Greedy wrapping

`Wraps` says what lines show a paragraph, without saying how they are found: they hold the words of
the paragraph, none of them is too long if it can be helped, and none is ended too early. There is
one way to do so, and it is the one that `fill` takes. `Greedy` says the same of the rows of words
that stand on the lines. A greedy arrangement of any words exists, and filling follows every greedy
arrangement row by row: within a row the width admits the next word, and between two rows it does
not.
-/

namespace TextMacros
namespace Text

/-- How lines show a paragraph within a width. -/
structure Wraps (width : Nat) (paragraph : Text) (lines : List Text) : Prop where
  /-- There is a line. -/
  shown : lines ≠ []
  /-- A paragraph without words is shown as one empty line. -/
  blank : paragraph.wordsBy isBlank = [] → lines = [[]]
  /-- There is a word on every line of any other paragraph. -/
  begun : paragraph.wordsBy isBlank ≠ [] → ∀ line ∈ lines, line.wordsBy isBlank ≠ []
  /-- The words of the lines, in order, are those of the paragraph. -/
  kept : lines.flatMap (wordsBy isBlank) = paragraph.wordsBy isBlank
  /-- A line is its words with single spaces between them. -/
  spaced : ∀ line ∈ lines, line = join [' '] (line.wordsBy isBlank)
  /-- A line is not longer than the width, but for one word that is longer. -/
  narrow : ∀ line ∈ lines,
    line.length ≤ width ∨ ∃ word, line.wordsBy isBlank = [word] ∧ width < word.length
  /-- The first word of a line would not have fitted, behind a space, on the line before it. -/
  full : lines.IsChain fun line next =>
    ∃ word, (next.wordsBy isBlank).head? = some word ∧ width < line.length + 1 + word.length

/-- A row of words is not longer than the width, but for one word that is longer. -/
def Narrow (width : Nat) (row : List Text) : Prop :=
  (join [' '] row).length ≤ width ∨ ∃ word, row = [word] ∧ width < word.length

/-- How the words of a paragraph are arranged in the rows that its lines show. -/
structure Greedy (width : Nat) (rows : List (List Text)) : Prop where
  /-- There is a word in every row. -/
  begun : ∀ row ∈ rows, row ≠ []
  /-- No row is too long if it can be helped. -/
  narrow : ∀ row ∈ rows, Narrow width row
  /-- The first word of a row would not have fitted, behind a space, in the row before it. -/
  full : rows.IsChain fun row next =>
    ∃ word, next.head? = some word ∧ width < (join [' '] row).length + 1 + word.length

/-! ## Rows -/

/-- A word is placed behind a row with a space before it. -/
theorem join_concat {row : List Text} (begun : row ≠ []) (word : Text) :
    join [' '] (row ++ [word]) = join [' '] row ++ ' ' :: word := by
  rw [join_append begun (List.cons_ne_nil word []), join_singleton]

/-- A row of words is not shown as an empty line. -/
theorem join_ne_nil {row : List Text} (begun : row ≠ [])
    (proper : ∀ word ∈ row, IsWord isBlank word) : join [' '] row ≠ [] := by
  intro empty
  have back : (join [' '] row).wordsBy isBlank = row := wordsBy_join (by decide) proper
  rw [empty, wordsBy_nil] at back
  exact begun back.symm

/-- What stands in the rows of a paragraph are words. -/
theorem isWord_of_flatten {paragraph : Text} {rows : List (List Text)}
    (placed : rows.flatten = paragraph.wordsBy isBlank) :
    ∀ row ∈ rows, ∀ word ∈ row, IsWord isBlank word := by
  intro row among word member
  have kept : word ∈ rows.flatten := List.mem_flatten.mpr ⟨row, among, member⟩
  exact isWord_of_mem_wordsBy (placed ▸ kept)

/-- Behind a line that is begun, a word fits or opens the next line. -/
theorem fillFrom_cons {width : Nat} {current : Text} (begun : current ≠ []) (word : Text)
    (words : List Text) :
    fillFrom width current (word :: words) =
      if width < current.length + 1 + word.length then
        current :: fillFrom width word words
      else
        fillFrom width (current ++ ' ' :: word) words := by
  rw [fillFrom, if_neg (by simpa using begun)]

/-- One word is a row that is not too long if it can be helped. -/
theorem narrow_singleton (width : Nat) (word : Text) : Narrow width [word] := by
  by_cases short : word.length ≤ width
  · exact .inl (by simpa using short)
  · exact .inr ⟨word, rfl, Nat.lt_of_not_le short⟩

/-- Words that fit in a row with those before them are placed there. -/
theorem fillFrom_append {width : Nat} {row more : List Text} (begun : row ≠ [])
    (proper : ∀ word ∈ row ++ more, IsWord isBlank word)
    (fits : more = [] ∨ (join [' '] (row ++ more)).length ≤ width) (words : List Text) :
    fillFrom width (join [' '] row) (more ++ words) =
      fillFrom width (join [' '] (row ++ more)) words := by
  induction more generalizing row with
  | nil => simp
  | cons word more hypothesis =>
    have split : row ++ word :: more = (row ++ [word]) ++ more := by simp
    have short : (join [' '] (row ++ word :: more)).length ≤ width :=
      fits.resolve_left (List.cons_ne_nil word more)
    have placed := join_concat begun word
    -- what stands in a row up to a word is not longer than the row
    have bound : (join [' '] (row ++ [word])).length ≤ width := by
      by_cases last : more = []
      · rwa [last] at short
      · rw [split, join_append (by simp) last, List.length_append] at short
        omega
    have admitted : ¬ width < (join [' '] row).length + 1 + word.length := by
      rw [placed, List.length_append, List.length_cons] at bound
      omega
    have shown : join [' '] row ≠ [] :=
      join_ne_nil begun fun other member => proper other (List.mem_append_left _ member)
    rw [split] at proper short ⊢
    rw [List.cons_append, fillFrom_cons shown, if_neg admitted, ← placed]
    exact hypothesis (by simp) proper (.inr short)

namespace Greedy

variable {width : Nat} {row more : List Text} {rows : List (List Text)}

/-- A row that was begun admits the words that are still to be placed in it. -/
theorem admits (greedy : Greedy width ((row ++ more) :: rows)) (begun : row ≠ []) :
    more = [] ∨ (join [' '] (row ++ more)).length ≤ width := by
  rcases greedy.narrow (row ++ more) List.mem_cons_self with short | ⟨word, alone, -⟩
  · exact .inr short
  · obtain ⟨first, others, rfl⟩ := List.exists_cons_of_ne_nil begun
    rw [List.cons_append, List.cons.injEq] at alone
    exact .inl (List.append_eq_nil_iff.mp alone.2).2

/-- A row can be put before rows that open with a word it does not admit. -/
theorem cons (begun : row ≠ []) (narrow : Narrow width row)
    (full : ∀ next ∈ rows.head?,
      ∃ word, next.head? = some word ∧ width < (join [' '] row).length + 1 + word.length)
    (greedy : Greedy width rows) : Greedy width (row :: rows) :=
  ⟨List.forall_mem_cons.mpr ⟨begun, greedy.begun⟩, List.forall_mem_cons.mpr ⟨narrow, greedy.narrow⟩,
    greedy.full.cons full⟩

/-- The rows behind the first row are arranged greedily too. -/
theorem tail (greedy : Greedy width (row :: rows)) : Greedy width rows :=
  ⟨fun other member => greedy.begun other (List.mem_cons_of_mem row member),
    fun other member => greedy.narrow other (List.mem_cons_of_mem row member),
    greedy.full.tail⟩

/-- Filling follows a greedy arrangement from any place within its first row. -/
theorem fillFrom_eq (greedy : Greedy width ((row ++ more) :: rows)) (begun : row ≠ [])
    (proper : ∀ words ∈ (row ++ more) :: rows, ∀ word ∈ words, IsWord isBlank word) :
    fillFrom width (join [' '] row) (more ++ rows.flatten) =
      ((row ++ more) :: rows).map (join [' ']) := by
  induction rows generalizing row more with
  | nil =>
    rw [fillFrom_append begun (proper _ List.mem_cons_self) (greedy.admits begun)]
    rfl
  | cons next rows hypothesis =>
    rw [fillFrom_append begun (proper _ List.mem_cons_self) (greedy.admits begun)]
    obtain ⟨word, opens, long⟩ := List.isChain_cons_cons.mp greedy.full |>.1
    obtain ⟨rest, rfl⟩ := List.head?_eq_some_iff.mp opens
    have shown : join [' '] (row ++ more) ≠ [] :=
      join_ne_nil (greedy.begun _ List.mem_cons_self) (proper _ List.mem_cons_self)
    have behind : fillFrom width (join [' '] [word]) (rest ++ rows.flatten) =
        ((word :: rest) :: rows).map (join [' ']) :=
      hypothesis greedy.tail (List.cons_ne_nil word [])
        fun words member => proper words (List.mem_cons_of_mem _ member)
    rw [join_singleton] at behind
    rw [List.flatten_cons, List.cons_append, fillFrom_cons shown, if_pos long, behind]
    rfl

/-- Words can be arranged greedily behind those that already stand in a row. -/
theorem exists_of_narrow (words : List Text) (begun : row ≠ []) (narrow : Narrow width row) :
    ∃ more rows, Greedy width ((row ++ more) :: rows) ∧ more ++ rows.flatten = words := by
  induction words generalizing row with
  | nil =>
    have nothing : Greedy width [] := ⟨by simp, by simp, .nil⟩
    have placed : Greedy width [row] := nothing.cons begun narrow (by simp)
    exact ⟨[], [], by simpa using placed, rfl⟩
  | cons word words hypothesis =>
    by_cases long : width < (join [' '] row).length + 1 + word.length
    · obtain ⟨more, rows, greedy, placed⟩ :=
        hypothesis (List.cons_ne_nil word []) (narrow_singleton width word)
      have opened : Greedy width (row :: (word :: more) :: rows) :=
        greedy.cons begun narrow (by simpa using long)
      exact ⟨[], (word :: more) :: rows, by simpa using opened, by simp [placed]⟩
    · have short : (join [' '] (row ++ [word])).length ≤ width := by
        rw [join_concat begun, List.length_append, List.length_cons]
        omega
      have longer : row ++ [word] ≠ [] := by simp
      obtain ⟨more, rows, greedy, placed⟩ := hypothesis longer (.inl short)
      exact ⟨word :: more, rows, by simpa using greedy, by simp [placed]⟩

/-- The lines that hold the words of a paragraph show any greedy arrangement of them. -/
theorem fill_eq (greedy : Greedy width rows) {paragraph : Text}
    (placed : rows.flatten = paragraph.wordsBy isBlank)
    (nonblank : paragraph.wordsBy isBlank ≠ []) :
    fill width paragraph = rows.map (join [' ']) := by
  cases rows with
  | nil => exact absurd placed.symm nonblank
  | cons row rows =>
    obtain ⟨word, more, rfl⟩ := List.exists_cons_of_ne_nil (greedy.begun row List.mem_cons_self)
    have filled : fillFrom width (join [' '] [word]) (more ++ rows.flatten) =
        ((word :: more) :: rows).map (join [' ']) :=
      greedy.fillFrom_eq (List.cons_ne_nil word []) (isWord_of_flatten placed)
    rw [join_singleton] at filled
    rw [fill, ← placed]
    exact filled

end Greedy

/-! ## Lines -/

variable {width : Nat} {paragraph : Text}

/-- Rows of words are arranged greedily exactly when the lines that show them wrap the paragraph. -/
theorem wraps_map_join {rows : List (List Text)}
    (proper : ∀ row ∈ rows, ∀ word ∈ row, IsWord isBlank word)
    (nonblank : paragraph.wordsBy isBlank ≠ []) :
    Wraps width paragraph (rows.map (join [' '])) ↔
      Greedy width rows ∧ rows.flatten = paragraph.wordsBy isBlank := by
  have back : ∀ row ∈ rows, (join [' '] row).wordsBy isBlank = row :=
    fun row member => wordsBy_join (by decide) (proper row member)
  have kept : (rows.map (join [' '])).flatMap (wordsBy isBlank) = rows.flatten := by
    rw [List.flatMap_map, List.flatMap_def, List.map_congr_left back, List.map_id']
  have full : (rows.map (join [' '])).IsChain (fun line next =>
        ∃ word, (next.wordsBy isBlank).head? = some word ∧ width < line.length + 1 + word.length) ↔
      rows.IsChain fun row next =>
        ∃ word, next.head? = some word ∧ width < (join [' '] row).length + 1 + word.length := by
    rw [List.isChain_map]
    exact List.IsChain.iff_of_mem_imp fun row next _ member => by rw [back next member]
  constructor
  · intro wraps
    refine ⟨⟨fun row member => ?_, fun row member => ?_, full.mp wraps.full⟩, kept ▸ wraps.kept⟩
    · have begun := wraps.begun nonblank _ (List.mem_map_of_mem member)
      rwa [back row member] at begun
    · have narrow := wraps.narrow _ (List.mem_map_of_mem member)
      rwa [back row member] at narrow
  · rintro ⟨greedy, placed⟩
    have present : rows ≠ [] := by
      rintro rfl
      exact nonblank placed.symm
    refine ⟨by simpa using present, fun blank => absurd blank nonblank, fun _ => ?_,
      kept.trans placed, ?_, ?_, full.mpr greedy.full⟩
    · refine List.forall_mem_map.mpr fun row member => ?_
      rw [back row member]
      exact greedy.begun row member
    · refine List.forall_mem_map.mpr fun row member => ?_
      rw [back row member]
    · refine List.forall_mem_map.mpr fun row member => ?_
      rw [back row member]
      exact greedy.narrow row member

/-- The lines that hold the words of a paragraph are the only ones that wrap it. -/
theorem wraps_iff {lines : List Text} :
    Wraps width paragraph lines ↔ lines = fill width paragraph := by
  by_cases nonblank : paragraph.wordsBy isBlank = []
  · have single : fill width paragraph = [[]] := by rw [fill, nonblank, fillFrom]
    rw [single]
    constructor
    · exact fun wraps => wraps.blank nonblank
    · rintro rfl
      exact ⟨by simp, fun _ => rfl, fun some => absurd nonblank some, by simp [nonblank],
        by simp [join], by simp, List.isChain_singleton []⟩
  · constructor
    · intro wraps
      have proper : ∀ row ∈ lines.map (wordsBy isBlank), ∀ word ∈ row, IsWord isBlank word :=
        List.forall_mem_map.mpr fun line _ word member => isWord_of_mem_wordsBy member
      have spaced : (lines.map (wordsBy isBlank)).map (join [' ']) = lines := by
        have each : ∀ line ∈ lines, join [' '] (line.wordsBy isBlank) = id line :=
          fun line member => (wraps.spaced line member).symm
        rw [List.map_map]
        exact (List.map_congr_left each).trans (List.map_id lines)
      have rows_wrap := wraps
      rw [← spaced, wraps_map_join proper nonblank] at rows_wrap
      obtain ⟨greedy, placed⟩ := rows_wrap
      rw [greedy.fill_eq placed nonblank, spaced]
    · rintro rfl
      obtain ⟨word, words, split⟩ := List.exists_cons_of_ne_nil nonblank
      obtain ⟨more, rows, greedy, rest⟩ := Greedy.exists_of_narrow words
        (List.cons_ne_nil word []) (narrow_singleton width word)
      have placed : (([word] ++ more) :: rows).flatten = paragraph.wordsBy isBlank := by
        rw [split, ← rest]
        rfl
      rw [greedy.fill_eq placed nonblank]
      exact (wraps_map_join (isWord_of_flatten placed) nonblank).mpr ⟨greedy, placed⟩

/-- A message is shown line by line, each in the one way that wraps it, where words are the runs of
characters that are no white space. -/
theorem wrap_greedy (width : Nat) (message : Text) :
    (∀ text words, text.wordsBy isBlank = words ↔ Runs isBlank text words) ∧
    ∃ blocks, wrap width message = blocks.flatten ∧
      ∀ others, List.Forall₂ (Wraps width) message.lines others ↔ others = blocks := by
  refine ⟨fun _ _ => runs_iff.symm, message.lines.map (fill width), ?_, fun others => ?_⟩
  · rw [wrap, List.flatMap_def]
  · have relation : Wraps width = fun paragraph lines => fill width paragraph = lines := by
      funext paragraph lines
      exact propext (wraps_iff.trans eq_comm)
    rw [relation, ← List.forall₂_map_left_iff, List.forall₂_eq_eq_eq, eq_comm]

/-- A line break in the message is kept, and a word that is too long stands alone. -/
example : wrap 9 "the  old cat\n\nunderstands it".toList =
    ["the old".toList, "cat".toList, [], "understands".toList, "it".toList] := by
  decide +kernel

end Text
end TextMacros
