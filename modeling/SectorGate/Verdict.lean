import SectorGate.Budget
import SectorGate.Fault

/-!
# Verdicts

What a check of images against their budgets comes to: all fit, one of them is over
its budget, or the size of one could not be read.
-/

namespace SectorGate

structure Overrun where
  fileName : String
  size : UInt64
  sectorCount : UInt64
  exitCode : Int32
  deriving DecidableEq, Repr

namespace Overrun

/-- The overrun of an image of this size over its budget. -/
def ofBudget (b : Budget) (size : UInt64) : Overrun :=
  ⟨b.fileName, size, b.sectorCount, b.exitCode⟩

/-- The diagnostic line: the name as it is, the size, and the budget as a product. -/
def line (o : Overrun) : String :=
  o.fileName ++ " size " ++ toString o.size.toNat ++ " > " ++ toString o.sectorCount.toNat ++
    " * " ++ toString sectorSize.toNat

end Overrun

/-- The outcome of a check that could read every size it needed. -/
inductive Verdict where
  | pass
  | overrun (o : Overrun)
  deriving DecidableEq, Repr

structure Unreadable where
  path : String
  fault : Fault
  deriving DecidableEq, Repr

/-- The headline under which an unreadable image is reported. -/
def Unreadable.message (u : Unreadable) : String :=
  "failed to read size of " ++ u.path

inductive CheckError where
  | unreadable (image : Unreadable)
  /-- The bytes of a budget do not fit into 64 bits. -/
  | overflow
  deriving DecidableEq, Repr

/-- The report of a product that does not fit into a word. -/
def overflowMessage : String := "attempt to multiply with overflow"

end SectorGate
