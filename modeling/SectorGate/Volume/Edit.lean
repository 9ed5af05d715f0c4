import SectorGate.Volume.Walk

/-!
# Edits

The changes that a volume takes: files are written, resized and named, directories and
links are made, and names are moved and removed. A change that the operating system would
refuse leaves the cause.
-/

namespace SectorGate

namespace Volume

/-! ## Entries -/

/-- The entries of a directory become what the function makes of them. -/
def updateEntries (v : Volume) (directory : Nat) (f : List (String × Nat) → List (String × Nat)) :
    Volume :=
  { v with nodes := v.nodes.modify directory fun
      | .directory parent entries => .directory parent (f entries)
      | node => node }

def removeEntry (v : Volume) (directory : Nat) (name : String) : Volume :=
  v.updateEntries directory (·.filter (·.1 ≠ name))

/-- The name stands for the node from now on, whatever it stood for before. -/
def setEntry (v : Volume) (directory : Nat) (name : String) (id : Nat) : Volume :=
  v.updateEntries directory fun entries => (name, id) :: entries.filter (·.1 ≠ name)

def addNode (v : Volume) (directory : Nat) (name : String) (node : Node) : Volume :=
  { v with nodes := v.nodes.push node }.setEntry directory name v.nodes.size

/-- A name in a directory, with the node it stands for if it is taken. -/
structure Slot where
  directory : Nat
  name : String
  occupant : Option Nat

/-- The name that a path ends in. Links on the way there are followed, the name itself is not. -/
def slot (v : Volume) (path : String) : Except OsError Slot := do
  let some name := (Path.names path).getLast? | throw .noEntry
  if name = "." ∨ name = ".." then throw .invalidArgument
  if nameLimit < name.utf8ByteSize ∨ pathLimit < path.utf8ByteSize then throw .nameTooLong
  let .node directory ← v.walk true linkLimit (origin v.current path) (Path.names path).dropLast
    | throw .noEntry
  let some (_, entries) := v.directory? directory | throw .notDirectory
  return ⟨directory, name, entries.lookup name⟩

def freeSlot (v : Volume) (path : String) : Except OsError Slot := do
  let slot ← v.slot path
  if slot.occupant.isSome then throw .nameTaken
  return slot

def takenSlot (v : Volume) (path : String) : Except OsError (Slot × Nat) := do
  let slot ← v.slot path
  let some id := slot.occupant | throw .noEntry
  return (slot, id)

/-! ## Files -/

/-- A file of this size under the path: an existing file is emptied and set, a free name,
also one that a link leads to, becomes a file. -/
def writeFile (v : Volume) (path : String) (size : UInt64) : Except OsError Volume := do
  match ← v.locate true path with
  | .vacant directory name => return v.addNode directory name (.file size)
  | .node id =>
    if (v.directory? id).isSome then throw .isDirectory
    return { v with nodes := v.nodes.setIfInBounds id (.file size) }

/-- The size of an existing file becomes what the function makes of it. -/
def resizeFile (v : Volume) (path : String) (f : UInt64 → UInt64) : Except OsError Volume := do
  let id ← v.find path
  match v.nodes[id]? with
  | some (.file size) => return { v with nodes := v.nodes.setIfInBounds id (.file (f size)) }
  | _ => throw .isDirectory

/-! ## Names -/

/-- Makes the directory at the end of these names unless there is one. -/
def ensureDirectory (v : Volume) (start : Nat) (names : List String) : Except OsError Volume := do
  match ← v.walk true linkLimit start names with
  | .vacant directory name => return v.addNode directory name (.directory directory [])
  | .node id => if (v.directory? id).isSome then return v else throw .nameTaken

/-- Makes a directory and those above it that are missing. -/
def makeDirectories (v : Volume) (path : String) : Except OsError Volume :=
  let names := Path.names path
  (List.range names.length).foldlM
    (fun v count => v.ensureDirectory (origin v.current path) (names.take (count + 1))) v

def makeLink (v : Volume) (path target : String) : Except OsError Volume := do
  if target = "" then throw .noEntry
  let slot ← v.freeSlot path
  return v.addNode slot.directory slot.name (.link target)

/-- Gives a second name to a file or a link. -/
def addName (v : Volume) (path target : String) : Except OsError Volume := do
  let (_, id) ← v.takenSlot target
  if (v.directory? id).isSome then throw .notPermitted
  let slot ← v.freeSlot path
  return v.setEntry slot.directory slot.name id

/-- Whether a node may take over a name that another node has. -/
def checkReplace (v : Volume) (id : Nat) (occupant : Nat) : Except OsError Unit :=
  match v.directory? id, v.directory? occupant with
  | some _, some (_, entries) => if entries.isEmpty then return else throw .notEmpty
  | some _, none => throw .notDirectory
  | none, some _ => throw .isDirectory
  | none, none => return

/-- The directory lies in another one from now on; other nodes know no place. -/
def setParent (v : Volume) (id parent : Nat) : Volume :=
  { v with nodes := v.nodes.modify id fun
      | .directory _ entries => .directory parent entries
      | node => node }

/-- Moves a node to another name and drops what had that name. -/
def rename (v : Volume) (path goal : String) : Except OsError Volume := do
  let (source, id) ← v.takenSlot path
  let target ← v.slot goal
  if target.occupant = some id then return v
  if (v.directory? id).isSome ∧ v.isBelow id target.directory then throw .invalidArgument
  if let some occupant := target.occupant then v.checkReplace id occupant
  let moved := (v.removeEntry source.directory source.name).setEntry target.directory target.name id
  return moved.setParent id target.directory

def remove (v : Volume) (path : String) : Except OsError Volume := do
  let (slot, id) ← v.takenSlot path
  if (v.directory? id).isSome then throw .isDirectory
  return v.removeEntry slot.directory slot.name

/-- The directories at and below one lose all their entries. -/
def clearBelow (v : Volume) (top : Nat) : Volume :=
  { v with nodes := v.nodes.mapIdx fun id node =>
      match node with
      | .directory parent entries => .directory parent (if v.isBelow top id then [] else entries)
      | _ => node }

/-- Removes a directory with all that is in it, or a link. -/
def removeTree (v : Volume) (path : String) : Except OsError Volume := do
  let (slot, id) ← v.takenSlot path
  match v.nodes[id]? with
  | some (.file _) => throw .notDirectory
  | _ => return (v.removeEntry slot.directory slot.name).clearBelow id

/-- Changes permissions, which no size depends on, so only the path has to exist. -/
def setMode (v : Volume) (path : String) : Except OsError Volume :=
  v.find path |>.map fun _ => v

def enter (v : Volume) (path : String) : Except OsError Volume := do
  let id ← v.find path
  if (v.directory? id).isNone then throw .notDirectory
  return { v with current := id }

end Volume

end SectorGate
