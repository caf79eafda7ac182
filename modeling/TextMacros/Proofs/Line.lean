import TextMacros.Text.Line

/-!
# Lines that are joined and taken apart again

Joining puts a line feed between two lines and none behind the last; taking apart drops a carriage
return in front of every line feed, and a remainder that is empty. So the two are inverse for some
lines only. `reread` is what becomes of lines that are joined and taken apart, and `Storable` says
which lines become themselves. Everything here is about lines that hold no line feed, since a line
feed inside a line would be taken for its end.
-/

namespace TextMacros
namespace Text

/-- Lines as they are after they were joined and taken apart again. -/
def reread (lines : List Text) : List Text :=
  let remainder := lines.getLast?.getD []
  lines.dropLast.map dropCarriageReturn ++ if remainder.isEmpty then [] else [remainder]

/-- Lines that can be joined and taken apart without a loss. -/
structure Storable (lines : List Text) : Prop where
  /-- The last line is not empty. -/
  closed : lines.getLast? ≠ some []
  /-- No line that another follows ends in a carriage return. -/
  bare : ∀ line ∈ lines.dropLast, line.getLast? ≠ some '\r'

instance (lines : List Text) : Decidable (Storable lines) :=
  decidable_of_iff (lines.getLast? ≠ some [] ∧ ∀ line ∈ lines.dropLast, line.getLast? ≠ some '\r')
    ⟨fun ⟨closed, bare⟩ => ⟨closed, bare⟩, fun storable => ⟨storable.closed, storable.bare⟩⟩

/-- Only a carriage return at the end is dropped. -/
theorem dropCarriageReturn_eq_self {line : Text} :
    dropCarriageReturn line = line ↔ line.getLast? ≠ some '\r' := by
  by_cases ending : line.getLast? = some '\r'
  · have present : line ≠ [] := by
      intro empty
      rw [empty] at ending
      cases ending
    have shorter : line.dropLast ≠ line := by
      intro same
      have lengths := congrArg List.length same
      have positive := List.length_pos_iff.mpr present
      rw [List.length_dropLast] at lengths
      omega
    rw [dropCarriageReturn, if_pos ending]
    exact iff_of_false shorter (fun bare => bare ending)
  · rw [dropCarriageReturn, if_neg ending]
    exact iff_of_true rfl ending

/-- Nothing is added to a line by dropping its carriage return. -/
theorem not_mem_dropCarriageReturn {line : Text} {symbol : Char} (absent : symbol ∉ line) :
    symbol ∉ dropCarriageReturn line := by
  rw [dropCarriageReturn]
  split
  · exact fun present => absent (List.dropLast_subset line present)
  · exact absent

theorem reread_append (front : List Text) (last : Text) :
    reread (front ++ [last]) =
      front.map dropCarriageReturn ++ if last.isEmpty then [] else [last] := by
  simp [reread]

/-- The lines that become themselves are the storable ones. -/
theorem reread_eq_self {lines : List Text} : reread lines = lines ↔ Storable lines := by
  rcases List.eq_nil_or_concat lines with rfl | ⟨front, last, rfl⟩
  · exact iff_of_true rfl ⟨by simp, by simp⟩
  · rw [List.concat_eq_append, reread_append]
    by_cases empty : last = []
    · subst empty
      have shorter : front.map dropCarriageReturn ++ [] ≠ front ++ [[]] := by
        intro same
        have lengths := congrArg List.length same
        simp at lengths
      exact iff_of_false shorter (fun storable => storable.closed (by simp))
    · have shown : last.isEmpty = false := by simpa using empty
      rw [shown, if_neg Bool.false_ne_true, List.append_cancel_right_eq]
      have pointwise : front.map dropCarriageReturn = front ↔
          ∀ line ∈ front, line.getLast? ≠ some '\r' := by
        have same : front.map dropCarriageReturn = front.map id ↔
            ∀ line ∈ front, dropCarriageReturn line = id line := List.map_inj_left
        simpa only [List.map_id, id, dropCarriageReturn_eq_self] using same
      rw [pointwise]
      constructor
      · exact fun bare => ⟨by simpa using empty, by simpa using bare⟩
      · exact fun storable => by simpa using storable.bare

/-- Joined lines are taken apart at the line feeds between them. -/
theorem splitOn_ofLines {lines : List Text} (present : lines ≠ [])
    (framed : ∀ line ∈ lines, '\n' ∉ line) : (ofLines lines).splitOn '\n' = lines :=
  List.splitOn_intercalate '\n' framed present

/-- Lines that are joined to one text are the same lines, but that no line and one empty line are
joined alike. -/
theorem eq_of_ofLines_eq {first second : List Text} (present : second ≠ [])
    (framed : ∀ line ∈ first, '\n' ∉ line) (others : ∀ line ∈ second, '\n' ∉ line)
    (same : ofLines first = ofLines second) :
    first = second ∨ first = [] ∧ second = [[]] := by
  have apart : (ofLines second).splitOn '\n' = second := splitOn_ofLines present others
  by_cases none_first : first = []
  · subst none_first
    have single : second = [[]] := by rw [← apart, ← same]; rfl
    exact .inr ⟨rfl, single⟩
  · have first_apart := splitOn_ofLines none_first framed
    rw [same, apart] at first_apart
    exact .inl first_apart.symm

/-- What becomes of joined lines when they are taken apart. -/
theorem lines_ofLines {lines : List Text} (framed : ∀ line ∈ lines, '\n' ∉ line) :
    (ofLines lines).lines = reread lines := by
  by_cases present : lines = []
  · subst present
    rfl
  · have apart := splitOn_ofLines present framed
    unfold Text.lines reread
    rw [apart]

/-- The parts between the separators hold no separator. -/
theorem not_mem_of_mem_splitOn {text part : Text} {separator : Char}
    (member : part ∈ text.splitOn separator) : separator ∉ part := by
  induction text generalizing part with
  | nil =>
    rw [List.splitOn_nil, List.mem_singleton] at member
    subst member
    exact List.not_mem_nil
  | cons symbol rest hypothesis =>
    rw [List.splitOn_cons_eq_if_modifyHead] at member
    split at member
    · rcases List.mem_cons.mp member with rfl | later
      · exact List.not_mem_nil
      · exact hypothesis later
    · rename_i other
      cases apart : rest.splitOn separator with
      | nil => exact absurd apart (List.splitOn_ne_nil _ _)
      | cons first parts =>
        rw [apart, List.modifyHead_cons] at member
        rw [apart] at hypothesis
        rcases List.mem_cons.mp member with rfl | later
        · have behind : separator ∉ first := hypothesis List.mem_cons_self
          have differs : separator ≠ symbol := by
            intro same
            exact other (by simp [same])
          exact List.not_mem_cons_of_ne_of_not_mem differs behind
        · exact hypothesis (List.mem_cons_of_mem _ later)

/-- The lines of a text hold no line feed. -/
theorem framed_lines {text line : Text} (member : line ∈ text.lines) : '\n' ∉ line := by
  have remainder : '\n' ∉ (text.splitOn '\n').getLast?.getD [] := by
    cases ending : (text.splitOn '\n').getLast? with
    | none => exact List.not_mem_nil
    | some last => exact not_mem_of_mem_splitOn (List.mem_of_getLast? ending)
  rcases List.mem_append.mp member with ended | last
  · obtain ⟨part, among, rfl⟩ := List.mem_map.mp ended
    have framed := not_mem_of_mem_splitOn (List.dropLast_subset _ among)
    exact not_mem_dropCarriageReturn framed
  · split at last
    · cases last
    · rw [List.mem_singleton.mp last]
      exact remainder

/-- Lines that are read again give the same text when they are storable, and when there is but one
empty line. -/
theorem ofLines_reread {lines : List Text} (framed : ∀ line ∈ lines, '\n' ∉ line) :
    ofLines (reread lines) = ofLines lines ↔ lines = [[]] ∨ Storable lines := by
  constructor
  · intro same
    by_cases present : lines = []
    · subst present
      exact .inr (reread_eq_self.mp rfl)
    · have reread_framed : ∀ line ∈ reread lines, '\n' ∉ line := by
        rw [← lines_ofLines framed]
        exact fun line member => framed_lines member
      rcases eq_of_ofLines_eq present reread_framed framed same with equal | ⟨-, single⟩
      · exact .inr (reread_eq_self.mp equal)
      · exact .inl single
  · rintro (rfl | storable)
    · rfl
    · rw [reread_eq_self.mpr storable]

/-! ## Lines as they are typed -/

/-- What passes a test at the end of a text is trimmed with what stands before it. -/
theorem trimEndBy_append {test : Char → Bool} {front ending : Text}
    (passing : ∀ symbol ∈ ending, test symbol) :
    trimEndBy test (front ++ ending) = trimEndBy test front := by
  have reversed : ∀ symbol ∈ ending.reverse, test symbol :=
    fun symbol member => passing symbol (List.mem_reverse.mp member)
  unfold trimEndBy
  rw [List.reverse_append, List.dropWhile_append_of_pos reversed]

/-- A typed line is its trimmed line with line end characters behind it. -/
theorem eq_trimLineEnd_append (line : Text) :
    ∃ ending, line = line.trimLineEnd ++ ending ∧
      ∀ symbol ∈ ending, symbol = '\n' ∨ symbol = '\r' := by
  let test : Char → Bool := fun symbol => symbol = '\n' ∨ symbol = '\r'
  refine ⟨(line.reverse.takeWhile test).reverse, ?_, fun symbol member => ?_⟩
  · have whole : line.reverse.takeWhile test ++ line.reverse.dropWhile test = line.reverse :=
      List.takeWhile_append_dropWhile
    rw [← List.reverse_inj, List.reverse_append, List.reverse_reverse]
    exact ((congrArg _ (List.reverse_reverse _)).trans whole).symm
  · have passed := List.all_takeWhile (p := test) (l := line.reverse)
    have holds := List.all_eq_true.mp passed symbol (List.mem_reverse.mp member)
    exact of_decide_eq_true holds

/-- Line end characters are white space, so they do not count when white space is trimmed. -/
theorem trim_trimLineEnd (line : Text) : line.trimLineEnd.trim = line.trim := by
  obtain ⟨ending, split_off, characters⟩ := eq_trimLineEnd_append line
  have blank : ∀ symbol ∈ ending, isBlank symbol := by
    intro symbol member
    rcases characters symbol member with rfl | rfl
    · decide
    · decide
  rw [show line.trim = (line.trimLineEnd ++ ending).trim from congrArg trim split_off]
  unfold trim trimStartBy
  rw [List.dropWhile_append]
  by_cases nothing : line.trimLineEnd.dropWhile isBlank = []
  · have nothing_behind : (ending ++ []).dropWhile isBlank = [].dropWhile isBlank :=
      List.dropWhile_append_of_pos blank
    rw [List.append_nil, List.dropWhile_nil] at nothing_behind
    rw [nothing, List.isEmpty_nil, if_pos rfl, nothing_behind]
  · have something : (line.trimLineEnd.dropWhile isBlank).isEmpty = false := by simpa using nothing
    rw [something, if_neg Bool.false_ne_true, trimEndBy_append blank]

end Text
end TextMacros
