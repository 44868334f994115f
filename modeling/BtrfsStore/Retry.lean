import BtrfsStore.Action
/-!
# BtrfsStore.Retry

Asking again until an answer comes, a bounded number of times and with pauses
between the attempts.
-/

namespace BtrfsStore

/-- How often to try and how long to wait in between. -/
structure Retry where
  /-- The number of attempts; at least one is made. -/
  attempts : Nat
  /-- The pause between two attempts, in milliseconds. -/
  interval : Nat
  deriving Repr, DecidableEq

namespace Retry

/-- Until a freshly attached disk is listed. -/
def deviceDiscovery : Retry := ⟨10, 1000⟩

/-- Until systemd has started in a freshly booted distro. -/
def systemdSettle : Retry := ⟨15, 1000⟩

/-- Until a freshly written filesystem is seen. -/
def signatureSettle : Retry := ⟨10, 500⟩

/-- Until the UUID of a filesystem and its link are there. -/
def uuidSettle : Retry := ⟨10, 500⟩

/-- Until a started mount unit shows its filesystem. -/
def mountSettle : Retry := ⟨10, 500⟩

variable {m : Type → Type} [Monad m] [MonadLiftT Action m] {α : Type}

/-- One attempt, and up to `more` further ones with a pause before each. -/
def pollMore (interval : Nat) (probe : m (Option α)) : Nat → m (Option α)
  | 0 => probe
  | more + 1 => do
    match ← probe with
    | some a => pure (some a)
    | none =>
      liftM (Action.sleep interval)
      pollMore interval probe more

/-- The first value that `probe` yields, if it yields one in time. There is
no pause after the last attempt. -/
def poll (r : Retry) (probe : m (Option α)) : m (Option α) :=
  pollMore r.interval probe (r.attempts - 1)

end Retry

end BtrfsStore
