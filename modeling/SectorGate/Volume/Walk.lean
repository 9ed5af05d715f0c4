import SectorGate.Inquiry
import SectorGate.Path
import SectorGate.Volume.Basic

/-!
# Walks

How a volume finds what a path means. A walk visits the names of the path one by one and
replaces each symbolic link on the way by its target, up to a limit.
-/

namespace SectorGate

namespace Volume

def nameLimit : Nat := 255

def pathLimit : Nat := 4095

def linkLimit : Nat := 40

def directorySize : UInt64 := 4096

/-- Where a walk ends: at a node, or at a name that is free in a directory. -/
inductive Place where
  | node (id : Nat)
  | vacant (directory : Nat) (name : String)

/-- How far a walk comes without following a link: to its end, or to a link met in a
directory with more names to visit after it. -/
inductive Stretch where
  | finished (place : Except OsError Place)
  | atLink (directory : Nat) (target : String) (rest : List String)

/-- Walks from a directory until the names run out or a link has to be followed. A link that
is the last name is followed only on demand. -/
def stretch (v : Volume) (followLast : Bool) (id : Nat) : List String → Stretch
  | [] => .finished (.ok (.node id))
  | name :: rest =>
    match v.directory? id with
    | none => .finished (.error .notDirectory)
    | some (parent, entries) =>
      if name = "." then v.stretch followLast id rest
      else if name = ".." then v.stretch followLast parent rest
      else if nameLimit < name.utf8ByteSize then .finished (.error .nameTooLong)
      else
        match entries.lookup name with
        | none => .finished (if rest.isEmpty then .ok (.vacant id name) else .error .noEntry)
        | some next =>
          match v.nodes[next]? with
          | some (.link target) =>
            if rest.isEmpty && !followLast then .finished (.ok (.node next))
            else .atLink id target rest
          | _ => v.stretch followLast next rest

/-- The directory in which a walk along a path starts. -/
def origin (directory : Nat) (path : String) : Nat :=
  if Path.isAbsolute path then root else directory

/-- Walks to the end and follows at most the given number of links. -/
def walk (v : Volume) (followLast : Bool) : Nat → Nat → List String → Except OsError Place
  | links, id, names =>
    match v.stretch followLast id names, links with
    | .finished place, _ => place
    | .atLink .., 0 => .error .linkLoop
    | .atLink directory target rest, links + 1 =>
      v.walk followLast links (origin directory target) (Path.steps target ++ rest)

/-- What a path means, seen from the working directory. -/
def locate (v : Volume) (followLast : Bool) (path : String) : Except OsError Place :=
  if path = "" then .error .noEntry
  else if pathLimit < path.utf8ByteSize then .error .nameTooLong
  else v.walk followLast linkLimit (origin v.current path) (Path.steps path)

/-- The node that a path leads to through all links. -/
def find (v : Volume) (path : String) : Except OsError Nat :=
  match v.locate true path with
  | .ok (.node id) => .ok id
  | .ok (.vacant ..) => .error .noEntry
  | .error error => .error error

/-- The size that the volume shows for a path. Links are followed and nothing is opened; a
path with U+0000 is not looked up at all. -/
def fileSize (v : Volume) (path : String) : Except Fault UInt64 :=
  if Path.hasNul path then .error .nulInPath
  else
    match v.find path with
    | .error error => .error (.system error)
    | .ok id =>
      match v.nodes[id]? with
      | some (.file size) => .ok size
      | _ => .ok directorySize

/-- A machine with this volume, which stays as it is. -/
def machine (v : Volume) : Machine where
  workingDirectory := v.workingDirectory.mapError .system
  fileSize _ := v.fileSize

end Volume

end SectorGate
