import BtrfsStore.Shell.Syntax
/-!
# BtrfsStore.Shell.Token

The tokens of scripts. A reserved word is a token of its own only where a
command may start, which the reader knows.
-/

namespace BtrfsStore.Shell

/-! ### Reserved words -/

/-- The reserved words. -/
inductive Keyword where
  | not
  | openBrace
  | closeBrace
  | case
  | do
  | done
  | elif
  | else
  | esac
  | fi
  | for
  | if
  | in
  | then
  | until
  | while
  deriving Repr, DecidableEq

/-- The reserved words with their spellings. -/
def keywords : List (String × Keyword) :=
  [("!", .not), ("\x7b", .openBrace), ("\x7d", .closeBrace), ("case", .case), ("do", .do),
    ("done", .done), ("elif", .elif), ("else", .else), ("esac", .esac), ("fi", .fi), ("for", .for),
    ("if", .if), ("in", .in), ("then", .then), ("until", .until), ("while", .while)]

/-- The spelling of a reserved word. -/
def Keyword.spelling (k : Keyword) : String := ((keywords.find? (·.2 == k)).map (·.1)).getD ""

/-! ### Tokens -/

/-- What a redirection operator asks for; a word follows it. -/
inductive RedirectOperator where
  | file (descriptor : Nat) (mode : OpenMode)
  | copy (descriptor : Nat)
  /-- A document of lines, whose leading tabs may be dropped. -/
  | document (descriptor : Nat) (dropTabs : Bool)
  deriving Repr, DecidableEq

/-- A token. -/
inductive Token where
  | endOfText
  | newline
  | semicolon
  | ampersand
  | andIf
  | orIf
  | bar
  | openParen
  | closeParen
  | doubleSemicolon
  | redirect (operator : RedirectOperator)
  | keyword (k : Keyword)
  | word (w : Word)

namespace Token

/-- A text in double quotes. -/
def quotedName (s : String) : String := "\"" ++ s ++ "\""

/-- How complaints name a token. -/
def description : Token → String
  | .endOfText => "end of file"
  | .newline => "newline"
  | .semicolon => quotedName ";"
  | .ampersand => quotedName "&"
  | .andIf => quotedName "&&"
  | .orIf => quotedName "||"
  | .bar => quotedName "|"
  | .openParen => quotedName "("
  | .closeParen => quotedName ")"
  | .doubleSemicolon => quotedName ";;"
  | .redirect _ => "redirection"
  | .keyword k => quotedName k.spelling
  | .word _ => "word"

/-- Whether a token ends a list of commands inside another command. -/
def endsList : Token → Bool
  | .endOfText | .closeParen | .doubleSemicolon => true
  | .keyword k =>
    k ∈ [.closeBrace, .do, .done, .elif, .else, .esac, .fi, .then]
  | _ => false

/-- Whether a token is the given reserved word. -/
def isKeyword (t : Token) (k : Keyword) : Bool :=
  match t with
  | .keyword other => other == k
  | _ => false

/-- The token as a reserved word, if it is spelled like one. -/
def asKeyword (t : Token) : Token :=
  match t with
  | .word w =>
    match w.literal?.bind (keywords.lookup ·) with
    | some k => .keyword k
    | none => t
  | t => t

end Token

end BtrfsStore.Shell
