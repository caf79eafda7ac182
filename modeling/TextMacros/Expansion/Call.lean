import TextMacros.Failure

/-!
# Calls of primitives

A call is a primitive together with the parameters it takes, each under its own name. The parameters
of an invocation make a call exactly when the arity of the primitive accepts their number
(`Call.isSome_ofParameters?`), so performing a call never asks for a parameter that is not there.
-/

namespace TextMacros

/-- A primitive with its parameters, as they were written. -/
inductive Call where
  /-- Expands to nothing. -/
  | comment (text : Text)
  /-- Defines a macro in a scope. -/
  | define (region : Region) (definition : Text)
  /-- Expands to a line break. -/
  | newLine
  /-- Expands to the page marker. -/
  | newPage
  /-- Expands to a text as it is written. -/
  | noExpand (text : Text)
  /-- Expands a text a number of times. -/
  | repetition (count body : Text)
  /-- Expands a pattern once for each item. -/
  | forEach (items : List Text) (pattern : Text)
  /-- Asks the user to edit a text. -/
  | inputText (title initial : Text)
  /-- Shows the user a message. -/
  | sendMessage (title body : Text)
  /-- Declares a counter. -/
  | newCounter (name : Text)
  /-- Changes the value of a counter. -/
  | setCounter (name value : Text)
  /-- Expands to the value of a counter. -/
  | counter (name : Text)
  /-- Expands to an integer changed by an amount. -/
  | adjust (amount : Int) (operand : Text)
  /-- Changes a counter by an amount. -/
  | adjustCounter (amount : Int) (name : Text)
  /-- Expands one of two texts by a condition. -/
  | checkCondition (condition whenTrue whenFalse : Text)
  /-- Tells whether an integer is zero. -/
  | isZero (operand : Text)
  /-- Tells whether two integers are in an order. -/
  | compare (order : Ordering) (left right : Text)
  /-- Expands to the text at a location. -/
  | getUrl (locator : Text)
deriving DecidableEq

namespace Call

/-- The call of a primitive with some parameters, unless their number is wrong. -/
def ofParameters? : Primitive → List Text → Option Call
  | .comment, [text] => some (comment text)
  | .define, [definition] => some (define .current definition)
  | .globalDefine, [definition] => some (define .global definition)
  | .newLine, [] => some newLine
  | .newPage, [] => some newPage
  | .noExpand, [text] => some (noExpand text)
  | .repetition, [count, body] => some (repetition count body)
  | .forEach, first :: second :: rest =>
    some (forEach (first :: (second :: rest).dropLast)
      ((second :: rest).getLast (List.cons_ne_nil second rest)))
  | .inputText, [title, initial] => some (inputText title initial)
  | .sendMessage, [title, body] => some (sendMessage title body)
  | .newCounter, [name] => some (newCounter name)
  | .setCounter, [name, value] => some (setCounter name value)
  | .counter, [name] => some (counter name)
  | .increment, [operand] => some (adjust 1 operand)
  | .decrement, [operand] => some (adjust (-1) operand)
  | .incrementCounter, [name] => some (adjustCounter 1 name)
  | .decrementCounter, [name] => some (adjustCounter (-1) name)
  | .checkCondition, [condition, whenTrue, whenFalse] =>
    some (checkCondition condition whenTrue whenFalse)
  | .isZero, [operand] => some (isZero operand)
  | .isGreaterThan, [left, right] => some (compare .gt left right)
  | .isLessThan, [left, right] => some (compare .lt left right)
  | .isEqual, [left, right] => some (compare .eq left right)
  | .getUrl, [locator] => some (getUrl locator)
  | _, _ => none

/-- Parameters make a call exactly when the arity accepts their number. -/
theorem isSome_ofParameters? (primitive : Primitive) (parameters : List Text) :
    (ofParameters? primitive parameters).isSome = primitive.arity.accepts parameters.length := by
  match parameters with
  | [] => cases primitive <;> rfl
  | [_] => cases primitive <;> rfl
  | [_, _] => cases primitive <;> rfl
  | [_, _, _] => cases primitive <;> rfl
  | _ :: _ :: _ :: _ :: rest =>
    cases primitive <;> simp [ofParameters?, Primitive.arity, Arity.accepts]

end Call
end TextMacros
