import SectorGate.Inquiry
import SectorGate.Path
import SectorGate.Verdict

/-!
# The gate

A gate stands at one directory and checks the images there, in order, up to the first
that is over its budget or cannot be read. Images after that one are not asked about.
Each image whose size was read leaves one event.
-/

namespace SectorGate

/-- What a check notes about an image whose size it has read. -/
inductive Event where
  | fits (image : String) (size sectors budget headroom : UInt64)
  | overBudget (image : String) (size max : UInt64)
  deriving DecidableEq, Repr

/-- The note on an image of this size, unless its budget overflows. -/
def Event.ofSize? (b : Budget) (size : UInt64) : Option Event := do
  if ← b.exceededBy? size then
    return overBudget b.fileName size (← b.maxBytes?)
  else
    return fits b.fileName size (sectorsUsed size) b.sectorCount (← b.headroom? size)

/-- The events of a check, in order, and its result. -/
structure Check where
  events : List Event
  result : Except CheckError Verdict

/-- A gate for the images in one directory, which it does not examine until asked. -/
structure Gate where
  dir : String
  deriving DecidableEq, Repr

namespace Gate

def imagePath (g : Gate) (b : Budget) : String :=
  Path.join g.dir b.fileName

def imageSize (g : Gate) (b : Budget) : Inquiry (Except Unreadable UInt64) :=
  .fileSize (g.imagePath b) fun reply => .done (reply.mapError (Unreadable.mk (g.imagePath b)))

/-- Checks the images in order and stops at the first that cannot be read or does not fit. -/
def checkAll (g : Gate) : List Budget → Inquiry Check
  | [] => return ⟨[], .ok .pass⟩
  | b :: rest => do
    match ← g.imageSize b with
    | .error image => return ⟨[], .error (.unreadable image)⟩
    | .ok size =>
      match b.exceededBy? size, Event.ofSize? b size with
      | some true, some event => return ⟨[event], .ok (.overrun (.ofBudget b size))⟩
      | some false, some event =>
        (fun later => { later with events := event :: later.events }) <$> g.checkAll rest
      | _, _ => return ⟨[], .error .overflow⟩

def check (g : Gate) : Inquiry Check :=
  g.checkAll images

end Gate

end SectorGate
