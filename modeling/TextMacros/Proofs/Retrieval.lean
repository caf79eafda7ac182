import TextMacros.Files

/-!
# Locators of the network and locators of files

One test of a locator decides whether it leads to the network; the retriever of files makes its own
test, by which a locator names a path, is malformed or has a scheme that is not supported. The two
agree: a locator leads to the network exactly when the retriever of files refuses it for a scheme of
the network (`Locator.isNetwork_iff_refused`). A router over both therefore sends each locator to
one of them, and never to the one that must not have it (`Retriever.routed_by_scheme`).

Both tests look for the first mark behind a scheme. A scheme of the network holds no colon, so what
stands before such a mark is a scheme of the network wherever else in the locator marks may stand.
-/

namespace TextMacros

namespace Text

/-- The parts of a text, with the pattern between them, are the text. -/
theorem eq_append_of_splitOnce? {text pattern before after : Text}
    (found : text.splitOnce? pattern = some (before, after)) :
    text = before ++ pattern ++ after := by
  induction text generalizing before with
  | nil =>
    rw [splitOnce?] at found
    split at found
    · rename_i begins
      cases found
      exact (List.prefix_iff_eq_append.mp (List.isPrefixOf_iff_prefix.mp begins)).symm
    · cases found
  | cons symbol rest hypothesis =>
    rw [splitOnce?] at found
    split at found
    · rename_i begins
      cases found
      exact (List.prefix_iff_eq_append.mp (List.isPrefixOf_iff_prefix.mp begins)).symm
    · obtain ⟨⟨front, back⟩, inner, same⟩ := Option.map_eq_some_iff.mp found
      cases same
      rw [hypothesis inner]
      rfl

/-- A pattern is found behind a front part that does not hold its first character. -/
theorem splitOnce?_of_free {before after pattern : Text} {first : Char} (free : first ∉ before) :
    splitOnce? (before ++ first :: pattern ++ after) (first :: pattern) = some (before, after) := by
  induction before with
  | nil =>
    have begins : (first :: pattern).isPrefixOf (first :: pattern ++ after) :=
      List.isPrefixOf_iff_prefix.mpr (List.prefix_append _ _)
    rw [List.nil_append, splitOnce?.eq_def, if_pos begins, List.drop_left]
  | cons symbol before hypothesis =>
    have differ : first ≠ symbol := fun same => free (same ▸ List.mem_cons_self)
    have apart :
        ¬ (first :: pattern).isPrefixOf (symbol :: (before ++ first :: pattern ++ after)) := by
      simp [List.isPrefixOf, differ]
    rw [List.cons_append, List.cons_append, splitOnce?, if_neg apart,
      hypothesis fun member => free (List.mem_cons_of_mem symbol member)]
    rfl

end Text

namespace Locator

/-- The schemes that lead to the network. -/
def IsNetworkScheme (scheme : Text) : Prop :=
  equalIgnoringCase scheme "http".toList ∨ equalIgnoringCase scheme "https".toList

instance (scheme : Text) : Decidable (IsNetworkScheme scheme) :=
  inferInstanceAs (Decidable (_ ∨ _))

/-- A character that is a letter in lower case is a letter. -/
theorem isAlpha_of_toLower {symbol : Char} (lower : symbol.toLower.isAlpha) : symbol.isAlpha := by
  unfold Char.toLower at lower
  split at lower
  · rename_i upper
    exact Bool.or_eq_true_iff.mpr (.inl (decide_eq_true upper))
  · exact lower

/-- A text that is equal to letters up to the case holds letters only. -/
theorem isAlpha_of_equalIgnoringCase {text letters : Text} (same : equalIgnoringCase text letters)
    (plain : (letters.map Char.toLower).all Char.isAlpha) :
    ∀ symbol ∈ text, symbol.isAlpha := by
  intro symbol member
  have equal : text.map Char.toLower = letters.map Char.toLower := by
    simpa [equalIgnoringCase] using same
  have lowered : symbol.toLower ∈ letters.map Char.toLower := equal ▸ List.mem_map_of_mem member
  exact isAlpha_of_toLower (List.all_eq_true.mp plain _ lowered)

namespace IsNetworkScheme

variable {scheme : Text}

/-- A scheme of the network holds letters only. -/
theorem isAlpha (network : IsNetworkScheme scheme) : ∀ symbol ∈ scheme, symbol.isAlpha := by
  rcases network with same | same
  · exact isAlpha_of_equalIgnoringCase same (by decide)
  · exact isAlpha_of_equalIgnoringCase same (by decide)

/-- So it holds no colon. -/
theorem colon_not_mem (network : IsNetworkScheme scheme) : ':' ∉ scheme := fun member =>
  absurd (network.isAlpha ':' member) (by decide)

/-- A scheme of the network has the form of a scheme. -/
theorem isScheme (network : IsNetworkScheme scheme) : isScheme scheme := by
  cases scheme with
  | nil => exact absurd network (by decide)
  | cons first rest =>
    have letters := network.isAlpha
    have others : ∀ symbol ∈ rest, symbol.isAlphanum := fun symbol member => by
      simp [Char.isAlphanum, letters symbol (List.mem_cons_of_mem first member)]
    simp only [Locator.isScheme, letters first List.mem_cons_self, List.all_eq_true, true_and,
      decide_eq_true_eq]
    exact fun symbol member => .inl (others symbol member)

/-- The scheme of files is no scheme of the network. -/
theorem ne_file (network : IsNetworkScheme scheme) : scheme ≠ "file".toList := by
  rintro rfl
  exact absurd network (by decide)

end IsNetworkScheme

/-- What stands before the first mark of a network locator is a scheme of the network. -/
theorem isNetwork_iff_splitOnce? {locator : Text} :
    isNetwork locator ↔
      ∃ scheme rest, locator.trim.splitOnce? schemeMark = some (scheme, rest) ∧
        IsNetworkScheme scheme := by
  unfold isNetwork
  cases locator.trim.splitOnce? schemeMark with
  | none => simp
  | some parts =>
    obtain ⟨scheme, rest⟩ := parts
    simp only [decide_eq_true_eq, Option.some.injEq, Prod.mk.injEq]
    constructor
    · exact fun network => ⟨scheme, rest, ⟨rfl, rfl⟩, network⟩
    · rintro ⟨_, _, ⟨rfl, rfl⟩, network⟩
      exact network

/-- A locator leads to the network when it begins with a scheme of the network and the mark behind
it, and not otherwise. -/
theorem isNetwork_iff_begins {locator : Text} :
    isNetwork locator ↔
      ∃ scheme rest, locator.trim = scheme ++ schemeMark ++ rest ∧ IsNetworkScheme scheme := by
  rw [isNetwork_iff_splitOnce?]
  constructor
  · rintro ⟨scheme, rest, found, network⟩
    exact ⟨scheme, rest, Text.eq_append_of_splitOnce? found, network⟩
  · rintro ⟨scheme, rest, split, network⟩
    refine ⟨scheme, rest, ?_, network⟩
    rw [split]
    exact Text.splitOnce?_of_free network.colon_not_mem

/-- A locator without a scheme names a path or is malformed. -/
theorem plain_ne_unsupported {locator scheme : Text} :
    path.plain locator ≠ .error (.unsupportedScheme scheme) := by
  unfold path.plain
  split <;> nofun

/-- The scheme that is not supported is what stands before the first mark. -/
theorem path_eq_unsupported_iff {locator scheme : Text} :
    path locator = .error (.unsupportedScheme scheme) ↔
      (∃ rest, locator.splitOnce? schemeMark = some (scheme, rest)) ∧
        scheme ≠ "file".toList ∧ isScheme scheme := by
  unfold path
  split
  · rename_i empty
    obtain rfl : locator = [] := List.isEmpty_iff.mp empty
    exact ⟨nofun, fun ⟨⟨_, found⟩, _⟩ => nomatch found⟩
  · cases locator.splitOnce? schemeMark with
    | none => simp [plain_ne_unsupported]
    | some parts =>
      obtain ⟨found, rest⟩ := parts
      dsimp only
      split
      · rename_i file
        constructor
        · intro refused
          split at refused <;> cases refused
        · rintro ⟨⟨_, ⟨⟩⟩, other, -⟩
          exact absurd file other
      · rename_i other
        split
        · rename_i formed
          constructor
          · rintro ⟨⟩
            exact ⟨⟨rest, rfl⟩, other, formed⟩
          · rintro ⟨⟨_, ⟨⟩⟩, -⟩
            rfl
        · rename_i unformed
          constructor
          · exact fun refused => absurd refused plain_ne_unsupported
          · rintro ⟨⟨_, ⟨⟩⟩, -, formed⟩
            exact absurd formed unformed

/-- The directory has no part in a refusal. -/
theorem resolve_eq_error_iff {directory? : Option Text} {locator : Text} {error : RetrievalError} :
    resolve directory? locator = .error error ↔ path locator = .error error := by
  unfold resolve
  cases path locator <;> simp [Except.map]

/-- A locator leads to the network exactly when the retriever of files refuses it for a scheme of
the network. -/
theorem isNetwork_iff_refused {directory? : Option Text} {locator : Text} :
    isNetwork locator ↔
      ∃ scheme, resolve directory? locator.trim = .error (.unsupportedScheme scheme) ∧
        IsNetworkScheme scheme := by
  simp only [resolve_eq_error_iff, path_eq_unsupported_iff, isNetwork_iff_splitOnce?]
  constructor
  · rintro ⟨scheme, rest, found, network⟩
    exact ⟨scheme, ⟨⟨rest, found⟩, network.ne_file, network.isScheme⟩, network⟩
  · rintro ⟨scheme, ⟨⟨rest, found⟩, -⟩, network⟩
    exact ⟨scheme, rest, found, network⟩

end Locator

namespace Retriever

variable {network : Retriever} {files : Files} {directory? : Option Text} {locator : Text}

/-- What the retriever of files refuses as an unsupported scheme is refused for the form of the
locator, whatever the files are. -/
theorem resolve_of_unsupported {scheme : Text}
    (refused : ((ofFiles files directory?).fetch locator).value =
      .error (.unsupportedScheme scheme)) :
    Locator.resolve directory? locator.trim = .error (.unsupportedScheme scheme) := by
  unfold ofFiles at refused
  dsimp only at refused
  cases resolved : Locator.resolve directory? locator.trim with
  | error error =>
    rw [resolved] at refused
    exact refused
  | ok path =>
    rw [resolved] at refused
    dsimp only at refused
    split at refused <;> cases refused

/-- A router answers a locator as its network part does, whatever its parts are. -/
def AsksNetwork (locator : Text) : Prop :=
  ∀ network files, (routed network files).fetch locator = network.fetch locator

/-- A router answers a locator as its file part does, whatever its parts are. -/
def AsksFiles (locator : Text) : Prop :=
  ∀ network files, (routed network files).fetch locator = files.fetch locator

/-- The network part is asked for the locators of the network. -/
theorem asksNetwork_iff : AsksNetwork locator ↔ Locator.isNetwork locator := by
  constructor
  · intro asks
    -- Two parts that give different answers tell which of them was asked.
    have answered := asks offline ⟨fun _ => ⟨.ok [], []⟩⟩
    by_cases leads : Locator.isNetwork locator
    · exact leads
    · simp [routed, leads, offline] at answered
  · intro leads network files
    simp [routed, leads]

/-- The file part is asked for all other locators. -/
theorem asksFiles_iff : AsksFiles locator ↔ ¬ Locator.isNetwork locator := by
  constructor
  · intro asks leads
    have answered := asks offline ⟨fun _ => ⟨.ok [], []⟩⟩
    simp [routed, leads, offline] at answered
  · intro other network files
    simp [routed, other]

/-- The router and the retriever of files agree on what a locator of the network is. A locator leads
to the network exactly when it begins, behind blanks, with `http://` or `https://` in any case, and
exactly when the retriever of files refuses it for such a scheme, from whatever directory; what it
refuses it does not open. A router over a network part and the retriever of files asks exactly one
of them. For a locator of the network that is the network part, so no file is opened; for a locator
that names a path or is malformed it is the file part; and where the file part is asked, it never
refuses a scheme of the network. -/
theorem routed_by_scheme (locator : Text) (directory? : Option Text) :
    (Locator.isNetwork locator ↔ ∃ scheme rest,
      locator.trim = scheme ++ Locator.schemeMark ++ rest ∧ Locator.IsNetworkScheme scheme) ∧
    (Locator.isNetwork locator ↔ ∃ scheme,
      Locator.resolve directory? locator.trim = .error (.unsupportedScheme scheme) ∧
        Locator.IsNetworkScheme scheme) ∧
    (∀ files refusal, Locator.resolve directory? locator.trim = .error refusal →
      (ofFiles files directory?).fetch locator = ⟨.error refusal, []⟩) ∧
    (AsksNetwork locator ∨ AsksFiles locator) ∧ ¬ (AsksNetwork locator ∧ AsksFiles locator) ∧
    (AsksNetwork locator ↔ Locator.isNetwork locator) ∧
    (∀ path, Locator.resolve directory? locator.trim = .ok path → AsksFiles locator) ∧
    (∀ fault, Locator.resolve directory? locator.trim =
      .error (.invalidLocator locator.trim fault) → AsksFiles locator) ∧
    (AsksFiles locator → ∀ network files scheme,
      ((routed network (ofFiles files directory?)).fetch locator).value =
        .error (.unsupportedScheme scheme) → ¬ Locator.IsNetworkScheme scheme) := by
  have refused := @Locator.isNetwork_iff_refused directory? locator
  refine ⟨Locator.isNetwork_iff_begins, refused, ?_, ?_, ?_, asksNetwork_iff, ?_, ?_, ?_⟩
  · intro files refusal unresolved
    unfold ofFiles
    dsimp only
    rw [unresolved]
  · rw [asksNetwork_iff, asksFiles_iff]
    exact Decidable.em _
  · rw [asksNetwork_iff, asksFiles_iff]
    exact fun both => both.2 both.1
  · intro path resolved
    rw [asksFiles_iff, refused]
    rintro ⟨scheme, unsupported, -⟩
    cases resolved.symm.trans unsupported
  · intro fault resolved
    rw [asksFiles_iff, refused]
    rintro ⟨scheme, unsupported, -⟩
    cases resolved.symm.trans unsupported
  · intro asks network files scheme answer isNetworkScheme
    rw [asks] at answer
    exact asksFiles_iff.mp asks
      (refused.mpr ⟨scheme, resolve_of_unsupported answer, isNetworkScheme⟩)

end Retriever
end TextMacros
