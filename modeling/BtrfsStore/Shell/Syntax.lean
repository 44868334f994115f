/-!
# BtrfsStore.Shell.Syntax

The commands of shell scripts. A word keeps its quoted and unquoted pieces
apart, since only unquoted expansions are split into fields and only unquoted
characters are special in a pattern.

A command that has a document of lines after it refers to the document by its
number, because the document is read later than the command.
-/

namespace BtrfsStore.Shell

/-! ### Words -/

/-- What an expansion refers to. -/
inductive Parameter where
  | named (name : String)
  /-- An argument by its number; number zero is the name of the script. -/
  | argument (number : Nat)
  /-- All arguments, as one field each when quoted. -/
  | arguments
  /-- All arguments, as a single field when quoted. -/
  | argumentsJoined
  | argumentCount
  /-- The status of the last command. -/
  | status
  | processId
  /-- The process of the last command in the background. -/
  | backgroundId
  /-- The letters of the options that are set. -/
  | optionLetters
  deriving Repr, DecidableEq

/-- What a word stands for in an expansion whose parameter may lack a value. -/
inductive Fallback where
  /-- It is used instead of a missing value. -/
  | use
  /-- It is used instead of a missing value and assigned. -/
  | assign
  /-- It is the complaint about a missing value. -/
  | complain
  /-- It is used instead of a value. -/
  | replace
  deriving Repr, DecidableEq

/-- How a redirection opens a file. -/
inductive OpenMode where
  | read
  /-- From the start of the file, which may be kept from being overwritten. -/
  | write
  /-- From the start of the file in any case. -/
  | overwrite
  /-- At the end of the file. -/
  | append
  | readWrite
  deriving Repr, DecidableEq

mutual

/-- A piece of a word. -/
inductive Piece where
  | text (quoted : Bool) (chars : List Char)
  /-- A quotation mark: there is a field even if there is nothing in it. -/
  | mark
  | expansion (quoted : Bool) (parameter : Parameter) (form : Form)
  /-- What a script writes. -/
  | substitution (quoted : Bool) (script : Script)
  /-- The value of an arithmetic expression. -/
  | arithmetic (quoted : Bool) (expression : List Piece)

/-- What an expansion makes of the value of its parameter. -/
inductive Form where
  /-- The value itself. -/
  | plain
  /-- The length of the value. -/
  | length
  /-- A form that the language does not have. -/
  | malformed
  /-- With a word for the case that there is no value, or only an empty one if
  `emptyCounts`. -/
  | fallback (kind : Fallback) (emptyCounts : Bool) (word : List Piece)
  /-- Without what a pattern matches at the start or the end. -/
  | trim (atEnd longest : Bool) (pattern : List Piece)

/-- A redirection of a descriptor. -/
inductive Redirect where
  | file (descriptor : Nat) (mode : OpenMode) (target : List Piece)
  /-- To where another descriptor goes; none closes it. -/
  | copy (descriptor : Nat) (source : Option Nat)
  /-- To where the descriptor goes that a word names. -/
  | copyNamed (descriptor : Nat) (source : List Piece)
  /-- From the document with a number. -/
  | document (descriptor number : Nat)

/-- A script. -/
inductive Script where
  /-- Nothing to do. -/
  | empty
  | simple (line : Nat) (assignments : List (String × List Piece)) (words : List (List Piece))
      (redirects : List Redirect)
  | pipeline (commands : List Script)
  | background (body : Script)
  | negation (body : Script)
  /-- The second script runs only if the first one succeeds. -/
  | both (left right : Script)
  /-- The second script runs only if the first one fails. -/
  | either (left right : Script)
  | sequence (left right : Script)
  | conditional (condition consequent alternative : Script)
  /-- A loop that goes on while its condition succeeds, or until it does. -/
  | loop (untilSuccess : Bool) (condition body : Script)
  /-- A loop over words. -/
  | each (line : Nat) (name : String) (words : List (List Piece)) (body : Script)
  /-- The body of the first case with a pattern for the word. -/
  | choice (line : Nat) (word : List Piece) (cases : List (List (List Piece) × Script))
  | redirected (line : Nat) (body : Script) (redirects : List Redirect)
  /-- A script whose changes to the shell do not last. -/
  | subshell (line : Nat) (body : Script) (redirects : List Redirect)
  /-- The definition of a function. -/
  | function (name : String) (body : Script)

end

instance : Inhabited Script := ⟨.empty⟩

/-- A word of a command. -/
abbrev Word := List Piece

/-- The word that is the given text. -/
def Word.literal? : Word → Option String
  | [.text false cs] => some (String.ofList cs)
  | _ => none

/-- A character that a name may start with. -/
def startsName (c : Char) : Bool := c.isAlpha || c == '_'

/-- A character of a name. -/
def isNameChar (c : Char) : Bool := startsName c || c.isDigit

/-- Whether a text is a name. -/
def isName (s : String) : Bool :=
  match s.toList with
  | c :: cs => startsName c && cs.all isNameChar
  | [] => false

end BtrfsStore.Shell
