import Morphing.Text.Basic

/-!
# Lines

A line ends with a line feed, which belongs to it. Only the last line of a text may be unterminated,
and an empty text has no line at all.
-/

namespace Morphing.Text

/-- The lines of a text, each with its terminator. -/
def lines (t : Text) : List Text := t.splitBy fun a _ => a != '\n'

/-- The content of a line and its terminator: a line feed, with a carriage return before it if there
is one, or nothing. -/
def splitTerminator (line : Text) : Text × Text :=
  match line.reverse with
  | '\n' :: '\r' :: content => (content.reverse, ['\r', '\n'])
  | '\n' :: content => (content.reverse, ['\n'])
  | _ => (line, [])

/-- A line without its terminator. -/
def content (line : Text) : Text := (splitTerminator line).1

/-- What ends a line, which is empty for an unterminated one. -/
def terminator (line : Text) : Text := (splitTerminator line).2

theorem content_append_terminator (line : Text) : content line ++ terminator line = line := by
  have h : line = line.reverse.reverse := by simp
  simp only [content, terminator, splitTerminator]
  split
  next rest heq => rw [h, heq]; simp
  next rest _ heq => rw [h, heq]; simp
  next => simp

end Morphing.Text
