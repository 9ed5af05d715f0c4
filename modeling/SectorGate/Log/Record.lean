import SectorGate.Gate
import SectorGate.Log.Level

/-!
# Log records

What the program has to tell beside its result, before any filter: the events of a check,
and the news that everything fits. A record has a message and fields.
-/

namespace SectorGate.Log

/-- A value of a record under a name. -/
structure Field where
  name : String
  /-- The value as log lines show it. -/
  value : String
  deriving DecidableEq, Repr

namespace Field

/-- A text between quotation marks; image names hold nothing that needs more. -/
def ofText (name text : String) : Field :=
  ⟨name, "\"" ++ text ++ "\""⟩

def ofWord (name : String) (value : UInt64) : Field :=
  ⟨name, toString value.toNat⟩

def text (f : Field) : String :=
  " " ++ f.name ++ "=" ++ f.value

end Field

/-- Something to tell, with its level and the part of the program that tells it. -/
structure Record where
  level : Level
  target : String
  message : String
  fields : List Field
  deriving DecidableEq, Repr

/-- The part of the program that checks images. -/
def gateTarget : String := "nonos_check_image_size::gate"

/-- The part of the program that runs from the command line. -/
def programTarget : String := "check_image_size"

namespace Record

/-- An event of a check is told at debug level. -/
def ofEvent : Event → Record
  | .fits image size sectors budget headroom =>
    ⟨.debug, gateTarget, "image fits",
      [.ofText "image" image, .ofWord "size" size, .ofWord "sectors" sectors,
        .ofWord "budget" budget, .ofWord "headroom" headroom]⟩
  | .overBudget image size max =>
    ⟨.debug, gateTarget, "image over budget",
      [.ofText "image" image, .ofWord "size" size, .ofWord "max" max]⟩

/-- That all images in a directory fit is told at info level. -/
def withinBudget (dir : String) : Record :=
  ⟨.info, programTarget, "boot images within budget", [⟨"dir", dir⟩]⟩

/-- The message counts as a field, beside those that are shown with their names. -/
def fieldNames (r : Record) : List String :=
  "message" :: r.fields.map (·.name)

/-- The record as a line of the log. -/
def line (r : Record) : String :=
  r.level.label ++ " " ++ r.message ++ String.join (r.fields.map (·.text)) ++ "\n"

end Record

end SectorGate.Log
