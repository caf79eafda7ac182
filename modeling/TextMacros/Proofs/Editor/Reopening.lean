import TextMacros.Editor
import TextMacros.Proofs.Files
import TextMacros.Proofs.Line

/-!
# Buffers that are saved and opened again

A buffer is saved as its lines with a line feed between each two, and a file is opened by the lines
it ends with line feeds. What a session holds after it saved its buffer and opened the file is
therefore its buffer read again (`Text.reread`): the same lines when the last one is not empty and
no line in front of it ends in a carriage return, and fewer or shorter ones otherwise.
-/

namespace TextMacros
namespace Session

/-- The sessions that come about by typing lines, emptying the buffer and opening files. -/
inductive Held : Session → Prop where
  /-- A session begins with an empty buffer. -/
  | started (settings : Settings) : Held (.ofSettings settings)
  /-- A line is typed. -/
  | typed {session : Session} {line : Text} (held : Held session) (framed : '\n' ∉ line) :
      Held (session.pushLine line)
  /-- The buffer is emptied. -/
  | cleared {session : Session} (held : Held session) : Held session.clear
  /-- A file is opened. -/
  | opened {session opened : Session} {files : Files} {path : Text} (held : Held session)
      (success : session.openFile files path = .ok opened) : Held opened

/-- A file that is opened replaces the lines by those of its text, and nothing else. -/
theorem openFile_eq_ok {session opened : Session} {files : Files} {path : Text} :
    session.openFile files path = .ok opened ↔
      ∃ text, files.readText path = .ok text ∧ opened = { session with lines := text.lines } := by
  unfold openFile
  cases files.readText path with
  | error cause => simp [Except.map]
  | ok text => simp [Except.map, eq_comm]

/-- No line of a buffer holds a line feed. -/
theorem Held.framed {session : Session} (held : Held session) :
    ∀ line ∈ session.lines, '\n' ∉ line := by
  induction held with
  | started settings => exact fun line member => absurd member List.not_mem_nil
  | typed held framed hypothesis =>
    intro line member
    rcases List.mem_append.mp member with before | last
    · exact hypothesis line before
    · rw [List.mem_singleton.mp last]
      exact framed
  | cleared held hypothesis => exact fun line member => absurd member List.not_mem_nil
  | opened held success hypothesis =>
    obtain ⟨text, -, rfl⟩ := openFile_eq_ok.mp success
    exact fun line member => Text.framed_lines member

/-- A saved buffer that is opened again is the buffer read again. It is the same buffer just when
its last line is not empty and none of the others ends in a carriage return, and the same text also
when it is one empty line. -/
theorem openFile_of_saveFile {session : Session} {files later : Files} {path : Text}
    (held : session.Held) (saved : session.saveFile files path = .ok later) :
    ∃ reopened, session.openFile later path = .ok reopened ∧
      reopened.lines = Text.reread session.lines ∧
      (reopened = session ↔ Text.Storable session.lines) ∧
      (reopened.text = session.text ↔ session.lines = [[]] ∨ Text.Storable session.lines) := by
  have apart : session.text.lines = Text.reread session.lines := Text.lines_ofLines held.framed
  have opened : session.openFile later path =
      .ok { session with lines := Text.reread session.lines } :=
    openFile_eq_ok.mpr ⟨session.text, Files.readText_of_write saved, by rw [apart]⟩
  refine ⟨_, opened, rfl, ?_, Text.ofLines_reread held.framed⟩
  rw [← Text.reread_eq_self]
  constructor
  · exact fun same => congrArg Session.lines same
  · intro same
    rw [same]

/-- Empty lines in front of others are kept, and so is a carriage return at the very end. -/
theorem openFile_of_saveFile_kept :
    let session := ((Session.ofSettings .default).pushLine []).pushLine "a\r".toList
    let later : Files := ⟨[], [(["f".toList], Text.bytes "\na\r".toList)], []⟩
    session.Held ∧ session.saveFile ⟨[], [], []⟩ "f".toList = .ok later ∧
      ∃ reopened, session.openFile later "f".toList = .ok reopened ∧ reopened = session := by
  intro session later
  have held : session.Held := .typed (.typed (.started .default) (by decide)) (by decide)
  have saved : session.saveFile ⟨[], [], []⟩ "f".toList = .ok later := rfl
  have storable : Text.Storable session.lines := by decide
  obtain ⟨reopened, opened, -, same, -⟩ := openFile_of_saveFile held saved
  exact ⟨held, saved, reopened, opened, same.mpr storable⟩

/-- An empty line at the end is lost. -/
theorem openFile_of_saveFile_lost :
    let session := ((Session.ofSettings .default).pushLine "a".toList).pushLine []
    let later : Files := ⟨[], [(["f".toList], Text.bytes "a\n".toList)], []⟩
    session.Held ∧ session.lines = ["a".toList, []] ∧
      session.saveFile ⟨[], [], []⟩ "f".toList = .ok later ∧
        ∃ reopened, session.openFile later "f".toList = .ok reopened ∧
          reopened.lines = ["a".toList] ∧ reopened.text ≠ session.text := by
  intro session later
  have held : session.Held := .typed (.typed (.started .default) (by decide)) (by decide)
  have saved : Files.write ⟨[], [], []⟩ "f".toList (Text.bytes "a\n".toList) = .ok later := rfl
  have opened : session.openFile later "f".toList =
      .ok { session with lines := ["a".toList] } :=
    openFile_eq_ok.mpr ⟨_, Files.readText_of_write saved, rfl⟩
  exact ⟨held, rfl, saved, _, opened, by decide, by decide⟩

end Session
end TextMacros
