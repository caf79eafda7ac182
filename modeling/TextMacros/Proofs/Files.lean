import TextMacros.Files

/-!
# Files that are written and read

What is written to a path is read from the same path (`Files.read_of_write`). Writing follows all
names of the path but the last, and reading follows them again: they lead to the same directory,
because writing takes no directory away (`Files.isDirectory_put`), and there the last name leads to
the file with the new content (`Files.exists_route_of_write`).
-/

namespace TextMacros
namespace Files

variable {files later : Files} {route other : Route} {content : List UInt8}

/-- A route leads to a directory when something known lies on it or behind it. -/
theorem isDirectory_iff :
    files.isDirectory route ↔ route <+: files.workingDirectory ∨
      (∃ known ∈ files.directories, route <+: known) ∨
      ∃ entry ∈ files.contents, route <+: entry.1 ∧ route ≠ entry.1 := by
  simp [isDirectory]

/-- The content that was put somewhere is found there. -/
theorem content?_put : (files.put route content).content? route = some content := by
  simp [content?, put]

/-- Every other content is what it was. -/
theorem content?_put_of_ne (apart : other ≠ route) :
    (files.put route content).content? other = files.content? other := by
  have differs : (other == route) = false := by simpa using apart
  have kept : ∀ contents : List (Route × List UInt8),
      (contents.filter fun entry => entry.1 ≠ route).lookup other = contents.lookup other := by
    intro contents
    induction contents with
    | nil => rfl
    | cons entry rest hypothesis =>
      obtain ⟨known, found⟩ := entry
      by_cases same : known = route
      · rw [List.filter_cons_of_neg (by simpa using same), hypothesis, List.lookup_cons, same,
          differs]
      · rw [List.filter_cons_of_pos (by simpa using same), List.lookup_cons, List.lookup_cons,
          hypothesis]
  unfold content? put
  rw [List.lookup_cons, differs]
  exact kept files.contents

/-- A content that is put somewhere makes directories of the routes that lead there, and takes none
away. -/
theorem isDirectory_put :
    (files.put route content).isDirectory other ↔
      files.isDirectory other ∨ other <+: route ∧ other ≠ route := by
  have kept : (∃ entry ∈ (files.put route content).contents, other <+: entry.1 ∧ other ≠ entry.1) ↔
      (∃ entry ∈ files.contents, other <+: entry.1 ∧ other ≠ entry.1) ∨
        other <+: route ∧ other ≠ route := by
    constructor
    · rintro ⟨entry, member, leads⟩
      rcases List.mem_cons.mp member with rfl | before
      · exact .inr leads
      · exact .inl ⟨entry, (List.mem_filter.mp before).1, leads⟩
    · rintro (⟨entry, member, leads⟩ | leads)
      · by_cases same : entry.1 = route
        · exact ⟨_, List.mem_cons_self, same ▸ leads⟩
        · have remains : entry ∈ (files.put route content).contents.tail :=
            List.mem_filter.mpr ⟨member, by simpa using same⟩
          exact ⟨entry, List.mem_of_mem_tail remains, leads⟩
      · exact ⟨_, List.mem_cons_self, leads⟩
  rw [isDirectory_iff, kept, isDirectory_iff, put]
  simp only [or_assoc]

/-- The route itself is no directory after a content was put there, unless it was one before. -/
theorem isDirectory_put_self (free : files.isDirectory route = false) :
    (files.put route content).isDirectory route = false := by
  rw [← Bool.not_eq_true] at free ⊢
  rw [isDirectory_put]
  rintro (before | ⟨-, apart⟩)
  · exact free before
  · exact apart rfl

/-- Names that lead to a directory still lead there after something was put somewhere. -/
theorem follow_put {start middle : Route} {names : List Text}
    (led : files.follow start names = .ok (.directory middle)) :
    (files.put route content).follow start names = .ok (.directory middle) := by
  fun_induction Files.follow files start names with
  | case1 start =>
    rw [follow]
    exact led
  | case2 start name rest stays hypothesis =>
    rw [follow, if_pos stays]
    exact hypothesis led
  | case3 start rest moves hypothesis =>
    rw [follow, if_neg moves, if_pos rfl]
    exact hypothesis led
  | case4 start name rest moves ahead next found hypothesis =>
    have remains : (files.put route content).isDirectory (start ++ [name]) :=
      isDirectory_put.mpr (.inl found)
    rw [follow, if_neg moves, if_neg ahead]
    simp only [remains, if_true]
    exact hypothesis led
  | case5 => cases led
  | case6 => cases led
  | case7 => cases led

/-- When the first names lead to a directory, the others are followed from there. -/
theorem follow_append {start middle : Route} {front behind : List Text}
    (led : files.follow start front = .ok (.directory middle)) :
    files.follow start (front ++ behind) = files.follow middle behind := by
  fun_induction Files.follow files start front with
  | case1 start =>
    cases led
    rfl
  | case2 start name rest stays hypothesis =>
    rw [List.cons_append, follow, if_pos stays]
    exact hypothesis led
  | case3 start rest moves hypothesis =>
    rw [List.cons_append, follow, if_neg moves, if_pos rfl]
    exact hypothesis led
  | case4 start name rest moves ahead next found hypothesis =>
    rw [List.cons_append, follow, if_neg moves, if_neg ahead]
    simp only [next] at found
    simp only [found, if_true]
    exact hypothesis led
  | case5 => cases led
  | case6 => cases led
  | case7 => cases led

/-- Names without the empty ones behind them are the same names only when the last is not empty. -/
theorem not_isEmpty_of_trimmed {front : List Text} {name : Text}
    (kept : ((front ++ [name]).reverse.dropWhile List.isEmpty).reverse = front ++ [name]) :
    name.isEmpty = false := by
  rw [← Bool.not_eq_true]
  intro empty
  rw [List.reverse_append, List.reverse_singleton, List.singleton_append,
    List.dropWhile_cons_of_pos empty] at kept
  have shorter := (List.dropWhile_suffix (p := List.isEmpty) (l := front.reverse)).length_le
  have lengths := congrArg List.length kept
  simp only [List.length_reverse, List.length_append, List.length_singleton] at shorter lengths
  omega

/-- What a path must be for something to be written there, and what writing does. -/
theorem exists_of_write {path : Text} (written : files.write path content = .ok later) :
    path.contains '\x00' = false ∧ path.isEmpty = false ∧ ∃ front name directory,
      Path.names path = front ++ [name] ∧ ¬(name.isEmpty ∨ name = ['.']) ∧ name ≠ ['.', '.'] ∧
      files.follow (files.origin path) front = .ok (.directory directory) ∧
      files.isDirectory (directory ++ [name]) = false ∧
      later = files.put (directory ++ [name]) content := by
  unfold write at written
  split at written
  · cases written
  split at written
  · cases written
  rename_i plain present
  dsimp only at written
  split at written
  · cases written
  rename_i name ending
  split at written
  · cases written
  · cases written
  rename_i directory led
  split at written
  · cases written
  rename_i free
  obtain ⟨short, here, back, taken⟩ : _ ∧ _ ∧ _ ∧ _ := by simpa only [not_or] using free
  have trimmed : ((Path.names path).reverse.dropWhile List.isEmpty).reverse = Path.names path := by
    have within := List.reverse_prefix.mpr
      (List.dropWhile_suffix (p := List.isEmpty) (l := (Path.names path).reverse))
    rw [List.reverse_reverse] at within
    exact within.eq_of_length_le (by omega)
  rw [trimmed] at ending led
  obtain ⟨front, split_off⟩ := List.getLast?_eq_some_iff.mp ending
  rw [split_off, List.dropLast_concat] at led
  have named := not_isEmpty_of_trimmed (split_off ▸ trimmed)
  have moves : ¬(name.isEmpty ∨ name = ['.']) := by
    rintro (empty | stays)
    · rw [named] at empty
      cases empty
    · exact here stays
  exact ⟨by simpa using plain, by simpa using present, front, name, directory, split_off, moves,
    back, led, by simpa using taken, (Except.ok.inj written).symm⟩

/-- A file is new or has a new content, and everything else is as it was. -/
structure Replaces (files later : Files) (target : Route) (content : List UInt8) : Prop where
  /-- The file has the content. -/
  written : later.content? target = some content
  /-- Every other file has the content that it had, or is still not there. -/
  others : ∀ other, other ≠ target → later.content? other = files.content? other
  /-- Paths begin where they did. -/
  workingDirectory : later.workingDirectory = files.workingDirectory
  /-- No directory was made or taken away. -/
  directories : later.directories = files.directories

/-- A path whose names but the last lead to a directory leads to the file of the last name there. -/
theorem locate_of_follow {path name : Text} {front : List Text} {directory : Route}
    (plain : path.contains '\x00' = false) (present : path.isEmpty = false)
    (split_off : Path.names path = front ++ [name]) (moves : ¬(name.isEmpty ∨ name = ['.']))
    (ahead : name ≠ ['.', '.'])
    (led : files.follow (files.origin path) front = .ok (.directory directory))
    (free : files.isDirectory (directory ++ [name]) = false) :
    files.locate path =
      match files.content? (directory ++ [name]) with
      | none => .error .notFound
      | some content => .ok (.file (directory ++ [name]) content) := by
  unfold locate
  rw [plain, present, split_off, follow_append led, follow, if_neg moves, if_neg ahead]
  cases found : files.content? (directory ++ [name]) <;>
    simp only [free, found, List.isEmpty_nil, if_true, Bool.false_eq_true, if_false]

/-- What is written to a path replaces the content of the file that the path leads to. Before, the
path led to the same file or to nothing. -/
theorem exists_route_of_write {path : Text} (written : files.write path content = .ok later) :
    ∃ route, later.locate path = .ok (.file route content) ∧
      (files.locate path = .error .notFound ∨
        ∃ before, files.locate path = .ok (.file route before)) ∧
      files.Replaces later route content := by
  obtain ⟨plain, present, front, name, directory, split_off, moves, ahead, led, free, rfl⟩ :=
    exists_of_write written
  have before := locate_of_follow plain present split_off moves ahead led free
  have free_behind :
      (files.put (directory ++ [name]) content).isDirectory (directory ++ [name]) = false :=
    isDirectory_put_self free
  have behind := locate_of_follow plain present split_off moves ahead (follow_put led) free_behind
  rw [content?_put] at behind
  refine ⟨directory ++ [name], behind, ?_, content?_put, fun _ => content?_put_of_ne, rfl, rfl⟩
  cases found : files.content? (directory ++ [name]) with
  | none =>
    rw [found] at before
    exact .inl before
  | some old =>
    rw [found] at before
    exact .inr ⟨old, before⟩

/-- What is read from a path is what was written there last. -/
theorem read_of_write {path : Text} (written : files.write path content = .ok later) :
    later.read path = .ok content := by
  obtain ⟨route, leads, -⟩ := exists_route_of_write written
  unfold read
  rw [leads]

/-- A text that was written is the text that is read. -/
theorem readText_of_write {path text : Text}
    (written : files.write path text.bytes = .ok later) : later.readText path = .ok text := by
  unfold readText
  rw [read_of_write written]
  dsimp only
  rw [Text.ofBytes?_bytes]

end Files
end TextMacros
