/-!
# BtrfsStore.Text.Lines

Splitting a text into lines. A line ends at a newline; one carriage return
directly before that newline belongs to the line ending. A carriage return
anywhere else, also at the very end of the text, is part of the line.
-/

namespace BtrfsStore.Text

/-- The lines of a list of characters, without their endings. The empty rest
after a final newline is no line. -/
def linesOf : List Char → List (List Char)
  | [] => []
  | c :: cs =>
    if c = '\n' then [] :: linesOf cs
    else if c = '\r' && cs.head? == some '\n' then linesOf cs
    else
      match linesOf cs with
      | [] => [[c]]
      | l :: ls => (c :: l) :: ls

/-- The lines of a text. -/
def lines (s : String) : List String := (linesOf s.toList).map String.ofList

@[simp] theorem linesOf_nil : linesOf [] = [] := rfl

@[simp] theorem linesOf_newline (cs : List Char) : linesOf ('\n' :: cs) = [] :: linesOf cs := by
  rw [linesOf]; simp

@[simp] theorem linesOf_crlf (cs : List Char) :
    linesOf ('\r' :: '\n' :: cs) = [] :: linesOf cs := by
  rw [linesOf]; simp

end BtrfsStore.Text
