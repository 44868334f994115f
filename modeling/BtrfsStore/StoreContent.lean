import BtrfsStore.Action
import BtrfsStore.Text.Blank
/-!
# BtrfsStore.StoreContent

What a mounted store has to hold: its subvolumes, and a tree that belongs to
the user.
-/

namespace BtrfsStore.StoreContent

/-! ### Subvolumes -/

/-- The subvolumes at the top of a store. -/
def subvolumes : List String := ["images", "instances"]

/-- The path of a subvolume. -/
def subvolumePath (storeDir name : String) : String :=
  Text.dropTrailingSlashes storeDir ++ "/" ++ name

/-- Creates a subvolume unless it exists; whether it was created. -/
def ensureSubvolume (root : Target) (storeDir name : String) : Attempt Bool := do
  let path := subvolumePath storeDir name
  let shown := root.runWithin Limit.quick "inspect subvolume" "btrfs" ["subvolume", "show", path]
  match ← shown.observe with
  | .ok _ => pure false
  | .error f =>
    if f.exitCode.isNone then throw f
    discard <| root.run "create subvolume" "btrfs" ["subvolume", "create", path]
    pure true

/-- Creates the subvolumes that are missing and names them. -/
def ensureSubvolumes (root : Target) (storeDir : String) : Attempt (List String) :=
  subvolumes.filterM (ensureSubvolume root storeDir)

/-! ### Ownership -/

/-- The user and group as which commands on `user` run. -/
def invokingOwner (user : Target) : Attempt String := do
  let uid ← user.runWithin Limit.quick "resolve user id" "id" ["-u"]
  let gid ← user.runWithin Limit.quick "resolve group id" "id" ["-g"]
  let uid := Text.trim uid
  let gid := Text.trim gid
  if uid.isEmpty || gid.isEmpty then
    throw (.operation "id returned an empty user or group id")
  pure (uid ++ ":" ++ gid)

/-- Gives the whole tree of a store to the user. -/
def giveTo (root user : Target) (storeDir : String) : Attempt String := do
  let owner ← invokingOwner user
  discard <| root.run "change store ownership" "chown" ["-R", owner, storeDir]
  pure owner

end BtrfsStore.StoreContent
