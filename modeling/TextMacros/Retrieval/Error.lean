import TextMacros.Text

/-!
# Failures to read and write

What can go wrong when bytes are read or written, and when the text at a location is retrieved. A
retrieval names the locator it failed on; when reading failed, the cause is told behind it.
-/

namespace TextMacros

/-- Why bytes could not be read or written. -/
inductive AccessError where
  /-- There is no such file. -/
  | notFound
  /-- A part of the path that must be a directory is none. -/
  | notADirectory
  /-- A directory stands where a file is needed. -/
  | isADirectory
  /-- The bytes are not the encoding of a text. -/
  | invalidEncoding
  /-- A path cannot hold the null character. -/
  | nullInPath
  /-- The output takes no more bytes. -/
  | writerFull
deriving DecidableEq

/-- The failure in words. -/
def AccessError.describe : AccessError → String
  | .notFound => "No such file or directory (os error 2)"
  | .notADirectory => "Not a directory (os error 20)"
  | .isADirectory => "Is a directory (os error 21)"
  | .invalidEncoding => "stream did not contain valid UTF-8"
  | .nullInPath => "file name contained an unexpected NUL byte"
  | .writerFull => "the writer is full"

/-- What is wrong with a locator. -/
inductive LocatorFault where
  /-- There is nothing in it. -/
  | empty
  /-- A file URL has nothing behind its scheme. -/
  | noPath
  /-- A file URL has no slashes behind its scheme. -/
  | noSlashes
deriving DecidableEq

/-- The fault in words. -/
def LocatorFault.describe : LocatorFault → String
  | .empty => "the locator is empty"
  | .noPath => "the file URL has no path"
  | .noSlashes => "expected 'file://' followed by a path"

/-- Why the text at a location could not be retrieved. -/
inductive RetrievalError where
  /-- The locator does not have the form of one. -/
  | invalidLocator (locator : Text) (fault : LocatorFault)
  /-- There is nothing at the location. -/
  | notFound (locator : Text)
  /-- The locator has a scheme that is not understood. -/
  | unsupportedScheme (scheme : Text)
  /-- The location cannot be reached. -/
  | unreachable (locator : Text) (reason : String)
  /-- What is at the location cannot be read. -/
  | unreadable (locator : Text) (cause : AccessError)
deriving DecidableEq

namespace RetrievalError

/-- The failure in words, without its cause. -/
def describe : RetrievalError → String
  | invalidLocator locator fault => s!"invalid locator '{locator.string}': {fault.describe}"
  | notFound locator => s!"nothing found at '{locator.string}'"
  | unsupportedScheme scheme => s!"scheme '{scheme.string}' is not supported"
  | unreachable locator reason => s!"could not reach '{locator.string}': {reason}"
  | unreadable locator _ => s!"could not read '{locator.string}'"

/-- The failure in words, followed by its cause. -/
def explain (error : RetrievalError) : String :=
  match error with
  | unreadable _ cause => s!"{error.describe}: {cause.describe}"
  | _ => error.describe

end RetrievalError
end TextMacros
