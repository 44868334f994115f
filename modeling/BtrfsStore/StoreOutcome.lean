import BtrfsStore.Text.Blank
import BtrfsStore.Text.Lines
import BtrfsStore.Failure
/-!
# BtrfsStore.StoreOutcome

The outcome of a provisioning run, with the warnings that were recorded on
the way.
-/

namespace BtrfsStore

/-- The outcome of a run. Without `useStore` the caller is to go on without a
btrfs store, and `warning` says why. -/
structure StoreOutcome where
  /-- A btrfs store is mounted and ready. -/
  useStore : Bool := false
  /-- The tools for a btrfs store are there. -/
  backendAvailable : Bool := false
  distro : Option String := none
  stateDir : Option String := none
  storePath : Option String := none
  mountDevice : Option String := none
  mountFsType : Option String := none
  mountUnit : Option String := none
  mountDeviceUuid : Option String := none
  /-- The recorded warnings, one below the other. -/
  warning : String := ""
  deriving Repr, DecidableEq, Inhabited

namespace StoreOutcome

/-- The warnings `old` with one more message, trimmed; a blank message adds
nothing. -/
def addWarning (old message : String) : String :=
  let message := Text.trim message
  if message.isEmpty then old
  else if old.isEmpty then message
  else old ++ "\n" ++ message

/-- Records a warning. -/
def warn (o : StoreOutcome) (message : String) : StoreOutcome :=
  { o with warning := addWarning o.warning message }

/-- An outcome that tells the caller to go on without a btrfs store. -/
def fallback (message : String) : StoreOutcome := warn {} message

/-- The lines of the warnings, in the order in which they were recorded. -/
def warnings (o : StoreOutcome) : List String := (Text.lines o.warning).filter (!·.isEmpty)

/-- What is kept of an unfinished run that falls back because of `failure`. -/
def abandon (o : StoreOutcome) (failure : Failure) : StoreOutcome :=
  ({ distro := o.distro, backendAvailable := o.backendAvailable, warning := o.warning }
    : StoreOutcome).warn failure.message

end StoreOutcome

end BtrfsStore
