import BtrfsStore.Native
import BtrfsStore.Wsl.Provision
/-!
# BtrfsStore.Platform

The platforms of hosts, and the way in which each of them gets a store.
-/

namespace BtrfsStore

/-- The platform of a host. -/
inductive Platform where
  | windows
  | linux
  /-- Any other platform, by its name. -/
  | other (name : String)
  deriving Repr, DecidableEq

namespace Platform

/-- The platform of the given name. -/
def ofName (name : String) : Platform :=
  if name = "windows" then .windows else if name = "linux" then .linux else .other name

/-- The name of a platform. -/
def name : Platform → String
  | .windows => "windows"
  | .linux => "linux"
  | .other name => name

/-- The name of the way in which a platform gets a store. -/
def provisionerName : Platform → String
  | .windows => "wsl"
  | .linux => "linux"
  | .other _ => "unsupported"

/-- The outcome on a platform that has no way to a store. -/
def unsupported (name : String) (request : StoreRequest) : Attempt StoreOutcome :=
  let text := "btrfs store provisioning is not supported on " ++ name
  if request.require then throw (.operation text) else pure (.fallback text)

/-- Makes the store of a request ready, or falls back. It fails only if the
request insists on the store. -/
def provision (platform : Platform) (request : StoreRequest) (storeRoot : Option Path) :
    Attempt StoreOutcome :=
  match platform with
  | .windows => Wsl.provision request storeRoot
  | .linux => Native.provision request storeRoot
  | .other name => unsupported name request

end Platform

end BtrfsStore
