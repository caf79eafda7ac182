import TextMacros.Failure
import TextMacros.Name
import TextMacros.Token.Reader

/-!
# Segments

A fragment is a sequence of literal texts and invocations. An introducer always begins an
invocation; everything else is literal. When an introducer does not begin a well-formed invocation
the fragment is broken there, and nothing behind it is read.

How a fragment falls into segments depends on its text alone and not on what any macro means, so
the segments are computed before anything is expanded.
-/

namespace TextMacros

/-- A call of a macro, as recognized in a fragment. -/
structure Invocation where
  /-- The name in its canonical spelling. -/
  name : Text
  /-- The parameters as they were written. -/
  parameters : List Text
  /-- The piece of the fragment from the introducer to the closing one. -/
  span : Span
deriving DecidableEq

/-- The number of parameters. -/
def Invocation.arity (invocation : Invocation) : Nat := invocation.parameters.length

/-- A piece of a fragment. -/
inductive Segment where
  /-- A text without introducers, perhaps empty. -/
  | literal (text : Text)
  /-- A call of a macro. -/
  | invocation (invocation : Invocation)
  /-- An introducer that does not begin an invocation. -/
  | broken (failure : Failure)
deriving DecidableEq

namespace Fragment

/-- The failure of a fragment in which an invocation has a faulty token. -/
def invocationFailure (fragment : Fragment) (fault : Token.Fault) : Failure where
  cause := match fault.problem with
    | .malformedParameter index reason => .malformedArgument (.malformedParameter index reason)
    | .unexpectedEnd => .malformedMacro .unclosed
    | problem => .malformedMacro (.token problem)
  fragment := fragment
  span := Span.ofSymbolAt fragment.text fault.offset

/-- Reads the invocation whose introducer stands at a position, from the cursor behind it. -/
def readInvocation (fragment : Fragment) (start : Nat) (cursor : Token.Cursor) :
    EStateM.Result Failure Token.Cursor Invocation :=
  match Token.readSignature cursor with
  | .error fault later => .error (fragment.invocationFailure fault) later
  | .ok (written, parameters) later =>
    let span := Span.between start later.offset
    match Name.canonical? written with
    | none => .error ⟨.malformedMacro .emptyName, fragment, span⟩ later
    | some name => .ok ⟨name, parameters, span⟩ later

/-- An invocation takes at least one character behind its introducer. -/
theorem readInvocation_length_lt {fragment : Fragment} {start : Nat} {cursor later : Token.Cursor}
    {invocation : Invocation}
    (success : fragment.readInvocation start cursor = .ok invocation later) :
    later.unread.length < cursor.unread.length := by
  unfold readInvocation at success
  cases outcome : Token.readSignature cursor with
  | error fault last => simp [outcome] at success
  | ok signature last =>
    have shorter := Token.strictlyForward_readSignature.length_lt outcome
    simp only [outcome] at success
    split at success
    · simp at success
    · simp only [EStateM.Result.ok.injEq] at success
      rw [← success.2]
      exact shorter

/-- The segments from a cursor to the end of the fragment, or to where it is broken. -/
def segmentsFrom (fragment : Fragment) (cursor : Token.Cursor) : List Segment :=
  let literal := cursor.unread.takeWhile (· ≠ Token.introducer)
  match _ahead : cursor.unread.dropWhile (· ≠ Token.introducer) with
  | [] => [.literal literal]
  | _ :: rest =>
    let start := cursor.offset + Text.size literal
    match _success : fragment.readInvocation start ⟨start + Token.introducer.utf8Size, rest⟩ with
    | .error failure _ => [.literal literal, .broken failure]
    | .ok invocation later =>
      .literal literal :: .invocation invocation :: fragment.segmentsFrom later
termination_by cursor.unread.length
decreasing_by
  have shorter := readInvocation_length_lt _success
  have suffix := (List.dropWhile_suffix (l := cursor.unread) (· ≠ Token.introducer)).length_le
  rw [_ahead] at suffix
  simp at shorter suffix
  omega

/-- The segments of a whole fragment. -/
def segments (fragment : Fragment) : List Segment :=
  fragment.segmentsFrom (Token.Cursor.start fragment.text)

end Fragment
end TextMacros
