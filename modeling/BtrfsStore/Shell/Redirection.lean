import BtrfsStore.Shell.Opening
import BtrfsStore.Shell.Syntax
/-!
# BtrfsStore.Shell.Redirection

Carrying out redirections whose words have been expanded.
-/

namespace BtrfsStore.Shell

/-- A redirection whose word has been expanded. -/
inductive Redirection where
  | file (descriptor : Nat) (mode : OpenMode) (path : String)
  | copy (descriptor : Nat) (source : Option Nat)
  | document (descriptor number : Nat)

/-- The descriptor that the word after a copying operator stands for; a hyphen
stands for none at all. -/
def copySource? (word : String) : Option (Option Nat) :=
  match word.toList with
  | ['-'] => some none
  | [d] => if d.isDigit then some (some (d.toNat - 48)) else none
  | _ => none

namespace Machine

/-- Carries out a redirection; `expand` is for documents. -/
def redirect (expand : Word → Run String) (r : Redirection) : Run Unit := do
  match r with
  | .file descriptor mode path =>
    let keepsFiles := (← currentSession).hasOption 'C'
    match ← openFile mode keepsFiles path with
    | .ok index => modifySession fun s => s.redirect descriptor (some index)
    | .error fault =>
      if mode == .read then fail ("cannot open " ++ path ++ ": " ++ openReason fault)
      else fail ("cannot create " ++ path ++ ": " ++ createReason fault)
  | .copy descriptor none => modifySession fun s => s.redirect descriptor none
  | .copy descriptor (some source) =>
    if source ≠ descriptor then
      match (← currentSession).stream? source with
      | some index => modifySession fun s => s.redirect descriptor (some index)
      | none => fail (toString source ++ ": Bad file descriptor")
  | .document descriptor number =>
    let text ← expand ((← get).documents[number]?.getD [])
    let index ← openStream (.pipe (ByteText.toBytes text) [] none)
    modifySession fun s => s.redirect descriptor (some index)

/-- Carries out redirections; whether that has been possible. -/
def redirectAll (expand : Word → Run String) (rs : List Redirection) : Run Bool := do
  match ← ExceptT.lift (rs.forM (redirect expand)).run with
  | .ok () => pure true
  | .error .failed => pure false
  | .error halt => throw halt

end Machine

end BtrfsStore.Shell
