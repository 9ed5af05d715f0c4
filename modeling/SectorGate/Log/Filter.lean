import SectorGate.Log.Directive

/-!
# Log filters

A filter is a list of directives. For one record the directive decides that speaks of it and
names most of its target; of those with the same target, one with a limit comes before one
without, and of those that differ in the level alone the last counts. A filter is written as its
directives with commas between them, and is refused as a whole if one of them is no directive.
-/

namespace SectorGate.Log

/-- Directives in the order in which they are given. -/
abbrev Filter := List Directive

namespace Filter

/-- Reads directives with commas between them; empty ones are passed over. -/
def ofText (text : String) : Except Refusal Filter :=
  ((text.toList.splitOn ',').filter (· ≠ [])).mapM Directive.ofText

/-- The filter for the two degrees of talk without a setting. -/
def standard (verbose : Bool) : Filter :=
  [⟨none, .none, if verbose then .debug else .warn⟩]

/-- The filter for a setting, which is read in a given way, or else for the two degrees of talk
without one. A setting that is cut inside of a character is fatal. -/
def choose? (read : String → Except Refusal Filter) (setting : Option String) (verbose : Bool) :
    Option Filter :=
  match setting.map read with
  | some (.ok filter) => some filter
  | some (.error .brokenCharacter) => none
  | some (.error .malformed) | none => some (standard verbose)

/-- The directive that decides about a record: of those that speak of it, the last that yields
to none before it. -/
def decisive? (filter : Filter) (r : Record) : Option Directive :=
  (filter.filter (·.covers r)).foldl
    (fun best d =>
      match best with
      | some b => if b.yieldsTo d then some d else some b
      | none => some d)
    none

/-- The level up to which records like this one are shown. -/
def levelFor (filter : Filter) (r : Record) : Level :=
  ((filter.decisive? r).map (·.level)).getD .off

def shows (filter : Filter) (r : Record) : Bool :=
  r.level.rank ≤ (filter.levelFor r).rank

end Filter

end SectorGate.Log
