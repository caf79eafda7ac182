import Mathlib.Control.Monad.Basic
import TextMacros.CommandLine.Run
import TextMacros.Proofs.Expansion.Simulation
import TextMacros.Proofs.Files

/-!
# The command to expand

The command to expand files is all or nothing (`CommandLine.expand_all_or_nothing`). Whatever fails,
be it the settings, an input, the expansion or the delivery, nothing is printed and no file is
changed, because the files and the output are the last things to be touched. Where nothing fails,
the expansion of all inputs as one document is what is printed, or what the output file holds. How
settings are read from a text has no part in this, so nothing is assumed of the readers of settings.

Where nobody answers at the terminal, the terminal keeps every initial text, as the silent prompt
does. So it makes no difference to the expansion whether the prompt is silent
(`CommandLine.result_expansion`), and what the command comes to is told without its input.
-/

namespace TextMacros

/-- A message leaves it open whether someone answers. -/
theorem Terminal.interactive_notify (terminal : Terminal) (title body : Text) :
    (notify title body terminal).value.interactive = terminal.interactive := by
  have kept : (terminal.write (message title body)).2.interactive = terminal.interactive := rfl
  unfold notify
  split
  · rename_i written
    rw [written] at kept
    exact kept
  · rename_i written
    rw [written] at kept
    exact kept

/-- Where nobody answers, a terminal answers as the silent prompt does. -/
theorem Terminal.alike_silent : Terminal.prompt.Alike (Prompt.silent : Prompt Unit)
    fun terminal _ => terminal.interactive = false where
  ask := by
    intro title initial terminal other unattended
    change (Prompt.silent.ask title initial other).value.1 = (ask title initial terminal).value.1 ∧
      (ask title initial terminal).value.2.interactive = false
    unfold ask
    rw [unattended]
    exact ⟨rfl, unattended⟩
  notify := by
    intro title body terminal other unattended
    exact (interactive_notify terminal title body).trans unattended

/-- Silent prompts answer alike, whatever their states are. -/
theorem Prompt.alike_silent {First Second : Type} :
    (Prompt.silent : Prompt First).Alike (Prompt.silent : Prompt Second) fun _ _ => True where
  ask := fun _ _ _ _ _ => ⟨rfl, trivial⟩
  notify := fun _ _ _ _ _ => trivial

namespace CommandLine

variable {formats : SettingsFormats} {files : Files} {config? : Option Text} {settings : Settings}
  {inputs : List Text}

/-- The settings that are chosen: those of a file that holds settings, or the default ones when no
file is named. -/
inductive Chooses (formats : SettingsFormats) (files : Files) : Option Text → Settings → Prop
  /-- No file is named. -/
  | default : Chooses formats files none .default
  /-- A file is named, and it holds settings. -/
  | file {path text : Text} {settings : Settings} (read : files.readText path = .ok text)
    (parsed : formats.parse? path text = some settings) :
    Chooses formats files (some path) settings

/-- The chosen settings are loaded, with the limit of its flag. -/
theorem loadSettings_of_chooses (chooses : Chooses formats files config? settings)
    (maxDepth? : Option Nat) :
    (loadSettings formats files config? maxDepth?).value =
      .ok { settings with maxDepth := maxDepth?.getD settings.maxDepth } := by
  cases chooses with
  | default => rfl
  | file read parsed =>
    simp only [loadSettings, SettingsFormats.load, read, parsed]
    rfl

/-- Inputs that can all be read are read one after the other. -/
theorem readInputs_of_texts {texts : List Text}
    (read : inputs.map files.readText = texts.map .ok) :
    readInputs files inputs = .ok texts.flatten := by
  induction inputs generalizing texts with
  | nil =>
    cases texts with
    | nil => rfl
    | cons text rest => cases read
  | cons path paths hypothesis =>
    cases texts with
    | nil => cases read
    | cons text rest =>
      simp only [List.map_cons, List.cons.injEq] at read
      simp only [readInputs, read.1, hypothesis read.2]
      rfl

/-- The first input that cannot be read is named. -/
theorem readInputs_of_unreadable {front back : List Text} {path : Text} {cause : AccessError}
    (read : ∀ earlier ∈ front, ∃ text, files.readText earlier = .ok text)
    (refused : files.readText path = .error cause) :
    readInputs files (front ++ path :: back) = .error (.unreadable path cause) := by
  induction front with
  | nil =>
    simp only [List.nil_append, readInputs, refused]
    rfl
  | cons earlier front hypothesis =>
    obtain ⟨text, here⟩ := read earlier List.mem_cons_self
    have further := hypothesis fun other member => read other (List.mem_cons_of_mem earlier member)
    simp only [List.cons_append, readInputs, here, further]
    rfl

/-- What a document made of some inputs expands to, where nobody answers. -/
def expansion (files : Files) (network : Retriever) (settings : Settings) (inputs : List Text)
    (document : Text) : Except Failure Text :=
  (expandDocument { settings with sourceName := sourceName inputs } (.silent : Prompt Unit)
    (.routed network (.ofFiles files none)) document () #[]).result

/-- How a run ends that begins with some files: it fails and leaves nothing, or it prints a text
and leaves some files. -/
def Run.EndsAs (run : Run) (before : Files) : Except ProgramError (Text × Files) → Prop
  | .error error => run.result = .error error ∧ run.output = [] ∧ run.files = before
  | .ok (output, after) => run.result = .ok () ∧ run.output = output ∧ run.files = after

section

variable (surroundings : Surroundings) (settings : Settings) (inputs : List Text)
  (output? : Option Text) (batch : Bool)

/-- Where nobody answers, it makes no difference to an expansion whether the prompt is silent. -/
theorem result_expansion (unattended : surroundings.interactive = false) (document : Text)
    (journal : Journal) :
    (expandDocument { settings with sourceName := sourceName inputs }
      (if batch then Prompt.silent else Terminal.prompt)
      (surroundings.retriever surroundings.files) document surroundings.terminal journal).result =
        expansion surroundings.files surroundings.network settings inputs document := by
  cases batch with
  | true => exact result_expandDocument_of_alike Prompt.alike_silent trivial ..
  | false =>
    have start : surroundings.terminal.interactive = false := unattended
    exact result_expandDocument_of_alike Terminal.alike_silent start ..

/-- The inputs are read, expanded as one document, and delivered. -/
theorem expandFiles_endsAs (unattended : surroundings.interactive = false) (journal : Journal) :
    (expandFiles surroundings settings inputs output? batch journal).EndsAs surroundings.files
      (readInputs surroundings.files inputs >>= fun document =>
        (expansion surroundings.files surroundings.network settings inputs document).mapError
          ProgramError.expansion >>= deliver surroundings.files output?) := by
  unfold expandFiles
  cases readInputs surroundings.files inputs with
  | error error => exact ⟨rfl, rfl, rfl⟩
  | ok document =>
    dsimp only
    rw [result_expansion surroundings settings inputs batch unattended document journal]
    change Run.EndsAs _ _ ((expansion _ _ settings inputs document).mapError
      ProgramError.expansion >>= deliver surroundings.files output?)
    generalize (expansion _ _ settings inputs document).mapError ProgramError.expansion >>=
      deliver surroundings.files output? = delivered
    cases delivered with
    | error error => exact ⟨rfl, rfl, rfl⟩
    | ok delivered => exact ⟨rfl, rfl, rfl⟩

end

/-- What the command comes to, stage by stage. Neither the input of the program nor whether the
prompt is silent has a part in it. -/
def attempt (formats : SettingsFormats) (files : Files) (network : Retriever)
    (config? : Option Text) (maxDepth? : Option Nat) (inputs : List Text) (output? : Option Text) :
    Except ProgramError (Text × Files) := do
  let settings ← (loadSettings formats files config? maxDepth?).value.mapError
    ProgramError.settings
  let document ← readInputs files inputs
  let expanded ← (expansion files network settings inputs document).mapError
    ProgramError.expansion
  deliver files output? expanded

section

variable {network : Retriever} {maxDepth? : Option Nat} {output? : Option Text}

/-- Without a settings file that can be read, nothing is attempted. -/
theorem attempt_of_unreadable_settings {path : Text} {cause : AccessError}
    (unreadable : files.readText path = .error cause) :
    attempt formats files network (some path) maxDepth? inputs output? =
      .error (.settings (.unreadable path cause)) := by
  simp only [attempt, loadSettings, SettingsFormats.load, unreadable]
  rfl

/-- Without settings in the settings file, nothing is attempted. -/
theorem attempt_of_malformed_settings {path text : Text} (read : files.readText path = .ok text)
    (malformed : formats.parse? path text = none) :
    attempt formats files network (some path) maxDepth? inputs output? =
      .error (.settings (.malformed path)) := by
  simp only [attempt, loadSettings, SettingsFormats.load, read, malformed]
  rfl

/-- The attempt fails at the first input that cannot be read. -/
theorem attempt_of_unreadable (chooses : Chooses formats files config? settings)
    {front back : List Text} {path : Text} {cause : AccessError}
    (read : ∀ earlier ∈ front, ∃ text, files.readText earlier = .ok text)
    (refused : files.readText path = .error cause) :
    attempt formats files network config? maxDepth? (front ++ path :: back) output? =
      .error (.unreadable path cause) := by
  simp only [attempt, loadSettings_of_chooses chooses, readInputs_of_unreadable read refused]
  rfl

/-- When all inputs can be read, the expansion of the document is delivered. -/
theorem attempt_of_texts (chooses : Chooses formats files config? settings) {texts : List Text}
    (read : inputs.map files.readText = texts.map .ok) :
    attempt formats files network config? maxDepth? inputs output? =
      (expansion files network { settings with maxDepth := maxDepth?.getD settings.maxDepth }
        inputs texts.flatten).mapError ProgramError.expansion >>= deliver files output? := by
  simp only [attempt, loadSettings_of_chooses chooses, readInputs_of_texts read]
  rfl

end

section

variable (formats : SettingsFormats) (files : Files) (input : List UInt8) (network : Retriever)
  (verbose : Nat) (config? : Option Text) (maxDepth? : Option Nat) (inputs : List Text)
  (output? : Option Text) (batch : Bool)

/-- Where nobody answers, the command ends as its stages do. -/
theorem run_endsAs_attempt :
    (run formats ⟨files, input, false, network⟩
      ⟨verbose, config?, maxDepth?, .expand inputs output? batch⟩).EndsAs files
        (attempt formats files network config? maxDepth? inputs output?) := by
  unfold run attempt
  dsimp only
  cases (loadSettings formats files config? maxDepth?).value with
  | error error => exact ⟨rfl, rfl, rfl⟩
  | ok settings =>
    exact expandFiles_endsAs ⟨files, input, false, network⟩ settings inputs output? batch rfl _

/-- To expand files from the command line is all or nothing, where nobody answers at the terminal
and retrievers only read.

A run that fails has printed nothing and changed no file. It fails when the settings file cannot be
read or holds no settings; when an input cannot be read as a text, and then the error names the
first such input; and when the document made of all inputs in order cannot be expanded. Otherwise
the expansion, under the chosen settings with the limit of its flag, is printed and no file is
changed; or, where an output file is named and can be written, the file that its path leads to holds
the expansion and every other file is what it was, whether or not the output file is one of the
inputs. -/
theorem expand_all_or_nothing :
    let run := run formats ⟨files, input, false, network⟩
      ⟨verbose, config?, maxDepth?, .expand inputs output? batch⟩
    (∀ error, run.result = .error error → run.output = [] ∧ run.files = files) ∧
    (∀ path cause, config? = some path → files.readText path = .error cause →
      run.result = .error (.settings (.unreadable path cause))) ∧
    (∀ path text, config? = some path → files.readText path = .ok text →
      formats.parse? path text = none → run.result = .error (.settings (.malformed path))) ∧
    ∀ settings, Chooses formats files config? settings →
      (∀ front path back cause, inputs = front ++ path :: back →
        (∀ earlier ∈ front, ∃ text, files.readText earlier = .ok text) →
        files.readText path = .error cause → run.result = .error (.unreadable path cause)) ∧
      ∀ texts : List Text, inputs.map files.readText = texts.map .ok →
        let limited := { settings with maxDepth := maxDepth?.getD settings.maxDepth }
        let expanded := expansion files network limited inputs texts.flatten
        (∀ failure, expanded = .error failure → run.result = .error (.expansion failure)) ∧
        ∀ text, expanded = .ok text →
          (output? = none → run.result = .ok () ∧ run.output = text ∧ run.files = files) ∧
          ∀ path, output? = some path →
            (∀ cause, files.write path text.bytes = .error cause →
              run.result = .error (.unwritable path cause)) ∧
            ∀ later, files.write path text.bytes = .ok later →
              run.result = .ok () ∧ run.files = later ∧ later.read path = .ok text.bytes ∧
                ∃ route, later.locate path = .ok (.file route text.bytes) ∧
                  (files.locate path = .error .notFound ∨
                    ∃ before, files.locate path = .ok (.file route before)) ∧
                  files.Replaces later route text.bytes := by
  intro run
  have ends : run.EndsAs files (attempt formats files network config? maxDepth? inputs output?) :=
    run_endsAs_attempt ..
  have fails : ∀ {error},
      attempt formats files network config? maxDepth? inputs output? = .error error →
        run.result = .error error := by
    intro error failed
    rw [failed] at ends
    exact ends.1
  refine ⟨?_, ?_, ?_, ?_⟩
  · intro error failed
    cases outcome : attempt formats files network config? maxDepth? inputs output? with
    | error other =>
      rw [outcome] at ends
      exact ends.2
    | ok delivered =>
      rw [outcome] at ends
      cases failed.symm.trans ends.1
  · rintro path cause rfl unreadable
    exact fails (attempt_of_unreadable_settings unreadable)
  · rintro path text rfl read malformed
    exact fails (attempt_of_malformed_settings read malformed)
  intro settings chooses
  refine ⟨?_, ?_⟩
  · rintro front path back cause rfl read unreadable
    exact fails (attempt_of_unreadable chooses read unreadable)
  intro texts read limited expanded
  have reached : attempt formats files network config? maxDepth? inputs output? =
      expanded.mapError ProgramError.expansion >>= deliver files output? :=
    attempt_of_texts chooses read
  refine ⟨?_, ?_⟩
  · intro failure failed
    rw [failed] at reached
    exact fails reached
  intro text succeeded
  rw [succeeded] at reached
  have delivered : attempt formats files network config? maxDepth? inputs output? =
      deliver files output? text := reached
  rw [delivered] at ends
  refine ⟨?_, ?_⟩
  · rintro rfl
    exact ends
  rintro path rfl
  refine ⟨?_, ?_⟩
  · intro cause refused
    have unwritten : deliver files (some path) text = .error (.unwritable path cause) := by
      simp only [deliver, refused]
      rfl
    exact fails (delivered.trans unwritten)
  · intro later written
    simp only [deliver, written] at ends
    exact ⟨ends.1, ends.2.2, Files.read_of_write written, Files.exists_route_of_write written⟩

end

/-- A line break in a file is expanded in place, under the limit of a settings file: the output file
is the only input. With a second input that is missing, the same run leaves everything as it was. -/
theorem expand_all_or_nothing_in_place :
    let chosen : Text := "\x7b\"max_depth\":3\x7d".toList
    let limited : Settings := { Settings.default with maxDepth := 3 }
    let formats : SettingsFormats :=
      ⟨fun text => if text = chosen then some limited else none, fun _ => none⟩
    let document : Text := "x\\|new line|\\y".toList
    let text : Text := "x\ny".toList
    let files : Files :=
      ⟨[], [(["a".toList], document.bytes), (["c.json".toList], chosen.bytes)], []⟩
    let started := fun inputs : List Text => run formats ⟨files, [], false, .offline⟩
      ⟨0, some "c.json".toList, none, .expand inputs (some "a".toList) false⟩
    let whole := started ["a".toList]
    let broken := started ["a".toList, "b".toList]
    whole.result = .ok () ∧ whole.files.read "a".toList = .ok text.bytes ∧
      whole.files.read "c.json".toList = .ok chosen.bytes ∧
      broken.result = .error (.unreadable "b".toList .notFound) ∧ broken.output = [] ∧
      broken.files = files := by
  intro chosen limited formats document text files started whole broken
  have settings : Chooses formats files (some "c.json".toList) limited := by
    have read : files.readText "c.json".toList = .ok chosen := by decide +kernel
    exact .file read (by decide +kernel)
  have there : files.readText "a".toList = .ok document := by decide +kernel
  have missing : files.readText "b".toList = .error .notFound := by decide +kernel
  have ends (inputs : List Text) := expand_all_or_nothing formats files [] .offline 0
    (some "c.json".toList) none inputs (some "a".toList) false
  have written : files.write "a".toList text.bytes = .ok (files.put ["a".toList] text.bytes) := by
    rfl
  have expanded : expansion files .offline limited ["a".toList] [document].flatten = .ok text := by
    decide +kernel
  obtain ⟨-, -, -, readable⟩ := ends ["a".toList]
  have read : ["a".toList].map files.readText = [document].map .ok :=
    congrArg (fun one => [one]) there
  obtain ⟨-, succeeded⟩ := (readable limited settings).2 [document] read
  obtain ⟨result, left, content, -⟩ := (succeeded text expanded).2 "a".toList rfl |>.2 _ written
  have other : (files.put ["a".toList] text.bytes).read "c.json".toList = .ok chosen.bytes := by
    decide +kernel
  obtain ⟨untouched, -, -, unreadable⟩ := ends ["a".toList, "b".toList]
  have failed : broken.result = .error (.unreadable "b".toList .notFound) :=
    (unreadable limited settings).1 ["a".toList] "b".toList [] .notFound rfl
      (List.forall_mem_singleton.mpr ⟨document, there⟩) missing
  obtain ⟨nothing, same⟩ := untouched _ failed
  exact ⟨result, left ▸ content, left ▸ other, failed, nothing, same⟩

end CommandLine
end TextMacros
