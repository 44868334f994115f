import BtrfsStore.Command
import BtrfsStore.Failure
/-!
# BtrfsStore.Action

Programs that act on a host, as trees of questions: an `Action` either is done
with a value or asks the host something and goes on with the answer. Nothing
about the host is built in, so that a statement about an action holds for all
hosts, whatever they answer and however their answers depend on what was asked
before.

* `Query` lists the questions, `Query.Answer` the type of each answer.
* `Host.answer` answers questions from a state; `Action.runWith` lets an
  action run on a host.
* `Attempt` adds failing: most steps are attempts, and `Attempt.outcome` turns
  a failure back into a value.
-/

namespace BtrfsStore

/-! ### Questions and answers -/

/-- What an action may ask of its host. -/
inductive Query where
  /-- Run a command and answer what it wrote. -/
  | run (command : Command)
  /-- Find a program of the host. -/
  | locate (program : String)
  /-- Whether the process itself runs as root. -/
  | isRoot
  /-- Wait for some milliseconds. -/
  | sleep (ms : Nat)
  /-- Whether a path exists. -/
  | pathExists (path : Path)
  /-- Create a directory and its parents. -/
  | makeDirectories (path : Path)
  /-- Remove a file. -/
  | removeFile (path : Path)
  /-- Read a file as text. -/
  | readText (path : Path)
  /-- Write a text as a file. -/
  | writeText (path : Path) (text : String)
  deriving Repr, DecidableEq

/-- The type of the answer to a question. -/
abbrev Query.Answer : Query → Type
  | .run _ => Except Failure String
  | .locate _ => Option String
  | .isRoot => Bool
  | .sleep _ => Unit
  | .pathExists _ => Bool
  | .makeDirectories _ => Except FileFault Unit
  | .removeFile _ => Except FileFault Unit
  | .readText _ => Except FileFault String
  | .writeText _ _ => Except FileFault Unit

/-! ### Actions -/

/-- A program that ends with a value of type `α` after asking some
questions. -/
inductive Action (α : Type) where
  /-- Nothing more to ask. -/
  | done (value : α)
  /-- Ask, and go on with the answer. -/
  | ask (query : Query) (next : query.Answer → Action α)

namespace Action

variable {α β γ σ : Type}

/-- Runs an action, then the one chosen by its value. -/
def bind : Action α → (α → Action β) → Action β
  | .done a, f => f a
  | .ask q next, f => .ask q fun x => (next x).bind f

instance : Monad Action where
  pure := .done
  bind := Action.bind

@[simp] theorem pure_eq (a : α) : (pure a : Action α) = .done a := rfl

@[simp] theorem done_bind (a : α) (f : α → Action β) : (Action.done a >>= f) = f a := rfl

@[simp] theorem ask_bind (q : Query) (next : q.Answer → Action α) (f : α → Action β) :
    (Action.ask q next >>= f) = .ask q fun x => next x >>= f := rfl

theorem bind_done (x : Action α) : x.bind .done = x := by
  induction x with
  | done a => rfl
  | ask q next ih => exact congrArg (Action.ask q) (funext ih)

theorem bind_bind (x : Action α) (f : α → Action β) (g : β → Action γ) :
    (x.bind f).bind g = x.bind fun a => (f a).bind g := by
  induction x with
  | done a => rfl
  | ask q next ih => exact congrArg (Action.ask q) (funext ih)

instance : LawfulMonad Action :=
  LawfulMonad.mk' Action bind_done (fun _ _ => rfl) bind_bind

/-- Asks one question. -/
def query (q : Query) : Action q.Answer := .ask q .done

end Action

/-! ### Hosts -/

/-- Something that answers questions, with a state of type `σ`. -/
structure Host (σ : Type) where
  /-- The answer to a question, and the state after it. -/
  answer : (q : Query) → σ → q.Answer × σ

namespace Action

variable {α β σ : Type}

/-- Runs an action on a host. -/
def runWith (host : Host σ) : Action α → σ → α × σ
  | .done a, s => (a, s)
  | .ask q next, s =>
    let answered := host.answer q s
    (next answered.1).runWith host answered.2

@[simp] theorem runWith_done (host : Host σ) (a : α) (s : σ) :
    (Action.done a).runWith host s = (a, s) := rfl

@[simp] theorem runWith_ask (host : Host σ) (q : Query) (next : q.Answer → Action α) (s : σ) :
    (Action.ask q next).runWith host s
      = (next (host.answer q s).1).runWith host (host.answer q s).2 := rfl

/-- A sequence of actions runs one after the other. -/
theorem runWith_bind (host : Host σ) (x : Action α) (f : α → Action β) (s : σ) :
    (x >>= f).runWith host s
      = (f (x.runWith host s).1).runWith host (x.runWith host s).2 := by
  induction x generalizing s with
  | done a => rfl
  | ask q next ih => exact ih _ _

/-! ### Single questions -/

/-- Finds a program of the host. -/
def locate (program : String) : Action (Option String) := query (.locate program)

/-- Whether the process itself runs as root. -/
def isRoot : Action Bool := query .isRoot

/-- Waits for some milliseconds. -/
def sleep (ms : Nat) : Action Unit := query (.sleep ms)

/-- Whether a path exists. -/
def pathExists (path : Path) : Action Bool := query (.pathExists path)

end Action

/-! ### Attempts -/

/-- An action that may fail. -/
abbrev Attempt (α : Type) : Type := ExceptT Failure Action α

namespace Attempt

variable {α : Type}

/-- The value of an attempt, or its failure, as a value. -/
def outcome (x : Attempt α) : Action (Except Failure α) := x.run

/-- The value of an attempt, or its failure, within another attempt. -/
def observe (x : Attempt α) : Attempt (Except Failure α) := ExceptT.lift x.outcome

/-- A value that may be a failure. -/
def ofExcept (x : Except Failure α) : Attempt α := ExceptT.mk (pure x)

/-- An attempt whose failures change by `f`. -/
def mapFailure (f : Failure → Failure) (x : Attempt α) : Attempt α :=
  ExceptT.mk ((Except.mapError f) <$> x.outcome)

/-- An attempt whose failures carry the name of a stage. -/
def inStage (s : Stage) (x : Attempt α) : Attempt α := x.mapFailure (.stage s)

/-- An attempt whose failure is passed over. -/
def orIgnore (x : Attempt α) : Action Unit := (fun _ => ()) <$> x.outcome

/-- The answer of a file operation, as an attempt. -/
def ofFileAnswer (x : Action (Except FileFault α)) : Attempt α :=
  ExceptT.mk ((Except.mapError Failure.io) <$> x)

/-- Creates a directory and its parents. -/
def makeDirectories (path : Path) : Attempt Unit :=
  ofFileAnswer (Action.query (.makeDirectories path))

end Attempt

/-! ### Commands -/

namespace Target

/-- Runs a command within a time limit and answers what it wrote. -/
def runWithin (limit : Nat) (target : Target) (description program : String)
    (args : List String) : Attempt String :=
  ExceptT.mk (Action.query (.run { target, description, program, args, limit }))

/-- Runs a command within the standard limit. -/
def run (target : Target) (description program : String) (args : List String) : Attempt String :=
  target.runWithin Limit.standard description program args

/-- Runs a command that reads `input`. -/
def feed (target : Target) (description program : String) (args : List String)
    (input : String) : Attempt String :=
  ExceptT.mk (Action.query
    (.run { target, description, program, args, input := some input, limit := Limit.quick }))

end Target

end BtrfsStore
