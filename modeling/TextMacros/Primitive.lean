import TextMacros.Text.Numeral

/-!
# Primitives

The primitives are the built-in macros. Each has a fixed phrase as its name and a fixed arity. A
phrase names a primitive before any scope is consulted, so it cannot be redefined.
-/

namespace TextMacros

/-- How many parameters a primitive takes. -/
inductive Arity where
  /-- Exactly this many. -/
  | exactly (count : Nat)
  /-- This many or more. -/
  | atLeast (count : Nat)
deriving DecidableEq

namespace Arity

/-- Whether a call may have this many parameters. -/
def accepts : Arity → Nat → Bool
  | exactly required, count => count = required
  | atLeast required, count => required ≤ count

/-- The arity in words. -/
def describe : Arity → String
  | exactly count => s!"{count}"
  | atLeast count => s!"at least {count}"

end Arity

/-- The built-in macros. -/
inductive Primitive where
  /-- Drops its parameter. -/
  | comment
  /-- Defines a macro for the fragment that holds the call. -/
  | define
  /-- Defines a macro for the whole document. -/
  | globalDefine
  /-- Stands for a line break. -/
  | newLine
  /-- Stands for a page break. -/
  | newPage
  /-- Stands for its parameter as it is written. -/
  | noExpand
  /-- Expands a text a number of times. -/
  | repetition
  /-- Expands a pattern once for each item. -/
  | forEach
  /-- Asks the user to edit a text. -/
  | inputText
  /-- Shows the user a message. -/
  | sendMessage
  /-- Declares a counter. -/
  | newCounter
  /-- Gives a counter a new value. -/
  | setCounter
  /-- Stands for the value of a counter. -/
  | counter
  /-- Stands for the next integer. -/
  | increment
  /-- Stands for the integer before. -/
  | decrement
  /-- Adds one to a counter. -/
  | incrementCounter
  /-- Takes one from a counter. -/
  | decrementCounter
  /-- Expands one of two texts. -/
  | checkCondition
  /-- Tells whether an integer is zero. -/
  | isZero
  /-- Tells whether one integer is greater than another. -/
  | isGreaterThan
  /-- Tells whether one integer is less than another. -/
  | isLessThan
  /-- Tells whether two integers are equal. -/
  | isEqual
  /-- Stands for the text at a location. -/
  | getUrl
deriving DecidableEq, Repr

namespace Primitive

/-- All primitives, in the order in which they are listed to a user. -/
def all : List Primitive :=
  [comment, define, globalDefine, newLine, newPage, noExpand, repetition, forEach, inputText,
    sendMessage, newCounter, setCounter, counter, increment, decrement, incrementCounter,
    decrementCounter, checkCondition, isZero, isGreaterThan, isLessThan, isEqual, getUrl]

/-- The canonical phrase that calls a primitive. -/
def phrase : Primitive → String
  | comment => "comment"
  | define => "define"
  | globalDefine => "global define"
  | newLine => "new line"
  | newPage => "new page"
  | noExpand => "no expand"
  | repetition => "repeat"
  | forEach => "for each"
  | inputText => "input text"
  | sendMessage => "send message"
  | newCounter => "new counter"
  | setCounter => "set counter"
  | counter => "counter"
  | increment => "increment"
  | decrement => "decrement"
  | incrementCounter => "increment counter"
  | decrementCounter => "decrement counter"
  | checkCondition => "check condition"
  | isZero => "is zero"
  | isGreaterThan => "is greater than"
  | isLessThan => "is less than"
  | isEqual => "is equal"
  | getUrl => "get url"

/-- The canonical phrase as a name. -/
def name (primitive : Primitive) : Text := primitive.phrase.toList

/-- The number of parameters of a primitive. -/
def arity : Primitive → Arity
  | newLine | newPage => .exactly 0
  | comment | define | globalDefine | noExpand | newCounter | counter | increment | decrement
  | incrementCounter | decrementCounter | isZero | getUrl => .exactly 1
  | repetition | inputText | sendMessage | setCounter | isGreaterThan | isLessThan | isEqual =>
    .exactly 2
  | checkCondition => .exactly 3
  | forEach => .atLeast 2

/-- What a primitive does, in one line. -/
def summary : Primitive → String
  | comment => "discards its parameter without expanding it"
  | define => "defines a macro in the current scope"
  | globalDefine => "defines a macro in the global scope"
  | newLine => "a line break"
  | newPage => "the page break marker"
  | noExpand => "its parameter, verbatim"
  | repetition => "expands the second parameter n times"
  | forEach => "expands the last parameter once per item, with `it` bound"
  | inputText => "asks the user to edit a text"
  | sendMessage => "shows a message to the user"
  | newCounter => "declares a counter starting at 0"
  | setCounter => "overwrites a counter"
  | counter => "the value of a counter"
  | increment => "an integer plus one"
  | decrement => "an integer minus one"
  | incrementCounter => "adds one to a counter"
  | decrementCounter => "subtracts one from a counter"
  | checkCondition => "the second or third parameter, by a true/false test"
  | isZero => "whether an integer is zero"
  | isGreaterThan => "whether the first integer is greater"
  | isLessThan => "whether the first integer is smaller"
  | isEqual => "whether two integers are equal"
  | getUrl => "the text stored at a location"

/-- Further phrases that call a primitive. -/
def aliases : List (String × Primitive) :=
  [("get from google drive", getUrl), ("upload to google drive", getUrl)]

/-- The primitive that a canonical name calls. -/
def ofName? (name : Text) : Option Primitive :=
  let phrases := all.map (fun primitive => (primitive.phrase, primitive)) ++ aliases
  (phrases.find? fun (phrase, _) => phrase.toList = name).map Prod.snd

end Primitive
end TextMacros
