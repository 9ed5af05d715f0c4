import SectorGate.Fault

/-!
# Volumes

A volume is a tree of named files, directories and symbolic links, with a working
directory. Nodes are numbered and names point to them, so a file can have several names,
and a directory that has lost its name can still be the working directory.
-/

namespace SectorGate

/-- What a node of a volume is. A directory knows the directory above it. -/
inductive Node where
  | file (size : UInt64)
  | link (target : String)
  | directory (parent : Nat) (entries : List (String × Nat))

/-- Numbered nodes, of which the first is the root directory, and the working directory. -/
structure Volume where
  nodes : Array Node
  current : Nat

namespace Volume

def root : Nat := 0

/-- The names of the devices, none of which has any bytes. -/
def devices : List String := ["null", "zero", "full", "random", "urandom"]

def blank : Volume where
  nodes :=
    #[.directory root [("dev", 1)], .directory root (devices.map (·, 2)), .file 0]
  current := root

/-- The directory above a directory, and its entries. -/
def directory? (v : Volume) (id : Nat) : Option (Nat × List (String × Nat)) :=
  match v.nodes[id]? with
  | some (.directory parent entries) => some (parent, entries)
  | _ => none

/-- The chain of directories from one up to the root, or as far as there are nodes. -/
def ancestors (v : Volume) : Nat → Nat → List Nat
  | 0, _ => []
  | fuel + 1, id =>
    if id = root then [id]
    else
      match v.directory? id with
      | none => []
      | some (parent, _) => id :: v.ancestors fuel parent

/-- Whether a directory is another one or lies below it. -/
def isBelow (v : Volume) (top id : Nat) : Bool :=
  (v.ancestors v.nodes.size id).contains top

/-- The name that a directory has in the one above it, unless it was removed. -/
def nameOf? (v : Volume) (id : Nat) : Option String := do
  let (parent, _) ← v.directory? id
  let (_, entries) ← v.directory? parent
  (·.1) <$> entries.find? (·.2 == id)

/-- The absolute path of the working directory; there is none once it was removed. -/
def workingDirectory (v : Volume) : Except OsError String :=
  let chain := (v.ancestors v.nodes.size v.current).filter (· ≠ root)
  match chain.reverse.mapM v.nameOf? with
  | some names => .ok ("/" ++ "/".intercalate names)
  | none => .error .noEntry

end Volume

end SectorGate
