import TextMacros.Text.Line

/-!
# Wrapping

A message is shown in lines of bounded width, counted in characters. Each line of the message is a
paragraph of its own. Its words are placed greedily: a word goes on the current line when it fits
there behind a space, and opens a new line otherwise. A word wider than the line stands alone, and
a paragraph without words is one empty line.
-/

namespace TextMacros
namespace Text

/-- Places words behind a line that is already begun; an empty line is one not begun. -/
def fillFrom (width : Nat) (current : Text) : List Text → List Text
  | [] => [current]
  | word :: words =>
    if current.isEmpty then
      fillFrom width word words
    else if width < current.length + 1 + word.length then
      current :: fillFrom width word words
    else
      fillFrom width (current ++ ' ' :: word) words

/-- The lines that hold the words of one paragraph. -/
def fill (width : Nat) (paragraph : Text) : List Text :=
  fillFrom width [] (wordsBy isBlank paragraph)

/-- The lines that show a message. -/
def wrap (width : Nat) (message : Text) : List Text := message.lines.flatMap (fill width)

end Text
end TextMacros
