import SectorGate.CommandLine.Parser

/-!
# The grammar of the command line

The argument lists that ask for a run, said without a reader: they are rows of tokens, perhaps with
two hyphens behind them, in which neither flag is given twice. `Spells` says so of a whole list;
`SpellsFrom` says the same token by token, from options that were asked for before.
-/

namespace SectorGate.CommandLine

/-- The ways to write the directory flag with its value in the next argument. The last one raises
the verbose flag as well. -/
inductive DirFlag where
  | long
  | letter
  | cluster
  deriving DecidableEq, Repr

def DirFlag.text : DirFlag → String
  | long => "--dir"
  | letter => "-d"
  | cluster => "-vd"

/-- A part of an argument list that is read as a whole. -/
inductive Token where
  | verboseLong
  | verboseLetter
  /-- The long directory flag with its value behind an equals sign. -/
  | dirLong (value : String)
  /-- The directory flag and its value, apart from each other. -/
  | dirApart (flag : DirFlag) (value : String)
  /-- The letter of the directory flag, perhaps behind the other one, with its value attached. -/
  | dirAttached (cluster : Bool) (text : String)
  deriving DecidableEq, Repr

/-- A text less one equals sign in front, if there is one. -/
def withoutEquals (text : String) : String :=
  if text.toList.head? = some '=' then String.ofList text.toList.tail else text

namespace Token

def arguments : Token → List String
  | verboseLong => ["--verbose"]
  | verboseLetter => ["-v"]
  | dirLong value => ["--dir=" ++ value]
  | dirApart flag value => [flag.text, value]
  | dirAttached cluster text => [(if cluster then "-vd" else "-d") ++ text]

/-- A directory is never empty, and one that stands apart does not look like a flag. -/
def WellFormed : Token → Prop
  | verboseLong | verboseLetter => True
  | dirLong value => value ≠ ""
  | dirApart _ value => value ≠ "" ∧ (value = "-" ∨ value.toList.head? ≠ some '-')
  | dirAttached _ text => text ≠ "" ∧ text ≠ "="

def verbose : Token → Bool
  | verboseLong | verboseLetter => true
  | dirLong _ => false
  | dirApart flag _ => flag = .cluster
  | dirAttached cluster _ => cluster

def dir? : Token → Option String
  | verboseLong | verboseLetter => none
  | dirLong value | dirApart _ value => some value
  | dirAttached _ text => some (withoutEquals text)

/-- The options with what a token asks for. -/
def addTo (t : Token) (o : Options) : Options :=
  ⟨o.dir.or t.dir?, o.verbose || t.verbose⟩

/-- Whether a token asks for nothing that was asked for before. -/
def IsNew (t : Token) (o : Options) : Prop :=
  (t.verbose → o.verbose = false) ∧ (t.dir?.isSome → o.dir = none)

end Token

/-- The argument lists of the grammar, with the options that they ask for: tokens and perhaps two
hyphens, with the verbose flag and a directory at most once each. -/
def Spells (arguments : List String) (options : Options) : Prop :=
  ∃ (tokens : List Token) (ending : List String),
    arguments = tokens.flatMap Token.arguments ++ ending ∧ (ending = [] ∨ ending = ["--"]) ∧
    (∀ t ∈ tokens, t.WellFormed) ∧
    tokens.countP Token.verbose ≤ 1 ∧ (tokens.filterMap Token.dir?).length ≤ 1 ∧
    options.verbose = tokens.any Token.verbose ∧
    options.dir = (tokens.filterMap Token.dir?).head?

/-! ## Token by token -/

/-- The argument lists that lead from some options to others. -/
inductive SpellsFrom : Options → List String → Options → Prop
  | done {o : Options} : SpellsFrom o [] o
  | ended {o : Options} : SpellsFrom o ["--"] o
  | token {o options : Options} {rest : List String} (t : Token) (hformed : t.WellFormed)
      (hnew : t.IsNew o) (hrest : SpellsFrom (t.addTo o) rest options) :
      SpellsFrom o (t.arguments ++ rest) options

/-- What a row of tokens asks for beside earlier options, if nothing is asked for twice. -/
structure Totals (o : Options) (tokens : List Token) (options : Options) : Prop where
  verbose_once : o.verbose.toNat + tokens.countP Token.verbose ≤ 1
  dir_once : o.dir.toList.length + (tokens.filterMap Token.dir?).length ≤ 1
  verbose_eq : options.verbose = (o.verbose || tokens.any Token.verbose)
  dir_eq : options.dir = o.dir.or (tokens.filterMap Token.dir?).head?

private theorem verbose_once_cons (o : Options) (t : Token) (tokens : List Token) :
    o.verbose.toNat + (t :: tokens).countP Token.verbose ≤ 1 ↔
      (t.verbose → o.verbose = false) ∧
        (t.addTo o).verbose.toNat + tokens.countP Token.verbose ≤ 1 := by
  rw [List.countP_cons, Token.addTo]
  generalize tokens.countP Token.verbose = n
  cases o.verbose <;> cases t.verbose <;> simp [Nat.add_comm 1 n]

private theorem dir_once_cons (o : Options) (t : Token) (tokens : List Token) :
    o.dir.toList.length + ((t :: tokens).filterMap Token.dir?).length ≤ 1 ↔
      (t.dir?.isSome → o.dir = none) ∧
        (t.addTo o).dir.toList.length + (tokens.filterMap Token.dir?).length ≤ 1 := by
  rw [List.filterMap_cons, Token.addTo]
  generalize tokens.filterMap Token.dir? = named
  cases o.dir <;> cases t.dir? <;> cases named <;> simp

theorem totals_cons_iff {o options : Options} {t : Token} {tokens : List Token} :
    Totals o (t :: tokens) options ↔ t.IsNew o ∧ Totals (t.addTo o) tokens options := by
  have hverbose : (o.verbose || (t :: tokens).any Token.verbose) =
      ((t.addTo o).verbose || tokens.any Token.verbose) := by
    rw [List.any_cons, Token.addTo, Bool.or_assoc]
  have hdir : o.dir.or ((t :: tokens).filterMap Token.dir?).head? =
      (t.addTo o).dir.or (tokens.filterMap Token.dir?).head? := by
    rw [List.filterMap_cons, Token.addTo]
    cases t.dir? <;> simp
  constructor
  · rintro ⟨hvonce, hdonce, hveq, hdeq⟩
    obtain ⟨hvnew, hvonce⟩ := (verbose_once_cons o t tokens).mp hvonce
    obtain ⟨hdnew, hdonce⟩ := (dir_once_cons o t tokens).mp hdonce
    exact ⟨⟨hvnew, hdnew⟩, hvonce, hdonce, hverbose ▸ hveq, hdir ▸ hdeq⟩
  · rintro ⟨⟨hvnew, hdnew⟩, hvonce, hdonce, hveq, hdeq⟩
    exact ⟨(verbose_once_cons o t tokens).mpr ⟨hvnew, hvonce⟩,
      (dir_once_cons o t tokens).mpr ⟨hdnew, hdonce⟩, hverbose ▸ hveq, hdir ▸ hdeq⟩

theorem totals_nil {o options : Options} (htotals : Totals o [] options) : options = o := by
  have hverbose := htotals.verbose_eq
  have hdir := htotals.dir_eq
  cases o
  cases options
  simp_all

theorem totals_nil_self (o : Options) : Totals o [] o where
  verbose_once := by cases o.verbose <;> simp
  dir_once := by cases o.dir <;> simp
  verbose_eq := by simp
  dir_eq := by simp

/-- Token by token or as a whole, the grammar has the same lists. -/
theorem spellsFrom_iff {o options : Options} {arguments : List String} :
    SpellsFrom o arguments options ↔
      ∃ (tokens : List Token) (ending : List String),
        arguments = tokens.flatMap Token.arguments ++ ending ∧ (ending = [] ∨ ending = ["--"]) ∧
        (∀ t ∈ tokens, t.WellFormed) ∧ Totals o tokens options := by
  constructor
  · intro hspells
    induction hspells with
    | @done o => exact ⟨[], [], rfl, .inl rfl, by simp, totals_nil_self o⟩
    | @ended o => exact ⟨[], ["--"], rfl, .inr rfl, by simp, totals_nil_self o⟩
    | token t hformed hnew hrest ih =>
        obtain ⟨tokens, ending, rfl, hending, hall, htotals⟩ := ih
        refine ⟨t :: tokens, ending, by simp, hending, ?_, totals_cons_iff.mpr ⟨hnew, htotals⟩⟩
        exact List.forall_mem_cons.mpr ⟨hformed, hall⟩
  · rintro ⟨tokens, ending, rfl, hending, hall, htotals⟩
    induction tokens generalizing o with
    | nil =>
        obtain rfl := totals_nil htotals
        rcases hending with rfl | rfl
        · exact .done
        · exact .ended
    | cons t tokens ih =>
        obtain ⟨hnew, htotals⟩ := totals_cons_iff.mp htotals
        obtain ⟨hformed, hall⟩ := List.forall_mem_cons.mp hall
        rw [List.flatMap_cons, List.append_assoc]
        exact .token t hformed hnew (ih hall htotals)

theorem spells_iff_spellsFrom {arguments : List String} {options : Options} :
    Spells arguments options ↔ SpellsFrom ⟨none, false⟩ arguments options := by
  rw [spellsFrom_iff]
  constructor
  · rintro ⟨tokens, ending, hsplit, hending, hall, hvonce, hdonce, hveq, hdeq⟩
    exact ⟨tokens, ending, hsplit, hending, hall, by simpa using hvonce, by simpa using hdonce,
      by simpa using hveq, by simpa using hdeq⟩
  · rintro ⟨tokens, ending, hsplit, hending, hall, hvonce, hdonce, hveq, hdeq⟩
    exact ⟨tokens, ending, hsplit, hending, hall, by simpa using hvonce, by simpa using hdonce,
      by simpa using hveq, by simpa using hdeq⟩

end SectorGate.CommandLine
