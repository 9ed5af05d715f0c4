import SectorGate.Proofs.CommandLine.Acceptance

/-!
# The first decisive argument

Most stops are brought about by one argument, and whatever follows it is not looked at
(`read_append_of_isDecisive`). The others can come up when a value that stands apart is settled,
which waits for the next flag or for the end of the arguments. So an argument that is appended can
still turn them into something else: it can be the missing value, or an unknown flag that is refused
first.
-/

namespace SectorGate.CommandLine

/-- Whether a stop never waits for what comes after the argument that brings it about. -/
def Stop.IsDecisive : Stop → Prop
  | .help | .version => True
  | .usage (.unexpectedArgument _) | .usage (.unexpectedValue _ _) => True
  | .usage (.repeated flag) => flag = .verbose
  | .usage .missingValue => False

theorem bind_eq_error_iff {ε α β : Type} {x : Except ε α} {f : α → Except ε β} {e : ε} :
    x >>= f = .error e ↔ x = .error e ∨ ∃ a, x = .ok a ∧ f a = .error e := by
  cases x with
  | error e' =>
      constructor
      · intro hbind
        cases hbind
        exact .inl rfl
      · rintro (he | ⟨a, ha, -⟩)
        · cases he
          rfl
        · cases ha
  | ok a =>
      constructor
      · exact fun hf => .inr ⟨a, rfl, hf⟩
      · rintro (he | ⟨_, ⟨⟩, hf⟩)
        · cases he
        · exact hf

namespace Progress

variable {p : Progress} {argument : String} {arguments rest : List String} {stop : Stop}

/-! ## Stops that wait -/

theorem not_isDecisive_of_settle (hsettle : p.settle = .error stop) : ¬ stop.IsDecisive := by
  unfold settle at hsettle
  split at hsettle
  · cases hsettle
  · cases hsettle
    exact id
  · split at hsettle
    · cases hsettle
      exact nofun
    · split at hsettle
      · cases hsettle
        exact id
      · cases hsettle

/-- The end of the arguments brings no decisive stop about: all that is left to do there is to
settle. -/
theorem not_isDecisive_of_finish (hfinish : p.finish = .error stop) : ¬ stop.IsDecisive := by
  cases hsettle : p.settle with
  | ok q =>
      rw [finish, hsettle] at hfinish
      cases hfinish
  | error stop' =>
      rw [finish, hsettle] at hfinish
      cases hfinish
      exact not_isDecisive_of_settle hsettle

/-! ## Stops that do not -/

/-- The ways in which reading can stop: at an argument, later, at the end, or at an argument behind
the two hyphens. -/
theorem read_cons_eq_error_iff :
    p.read (argument :: rest) = .error stop ↔
      (argument ≠ "--" ∧ (p.readArgument argument = .error stop ∨
        ∃ q, p.readArgument argument = .ok q ∧ q.read rest = .error stop)) ∨
      (argument = "--" ∧ (rest = [] ∧ p.finish = .error stop ∨
        ∃ extra later, rest = extra :: later ∧ stop = .usage (.unexpectedArgument extra))) := by
  by_cases hhyphens : argument = "--"
  · rw [read, if_pos hhyphens]
    cases rest with
    | nil => simp [hhyphens]
    | cons extra later => simp [hhyphens, eq_comm]
  · rw [read, if_neg hhyphens, bind_eq_error_iff]
    simp [hhyphens]

/-- A decisive stop comes whatever is appended: no step of the reading looks ahead but the one
behind two hyphens, and that one looks for the next argument alone. -/
theorem read_append_of_isDecisive (hread : p.read arguments = .error stop)
    (hdecisive : stop.IsDecisive) (later : List String) :
    p.read (arguments ++ later) = .error stop := by
  induction arguments generalizing p with
  | nil => exact absurd hdecisive (not_isDecisive_of_finish hread)
  | cons argument rest ih =>
      rw [List.cons_append, read_cons_eq_error_iff]
      obtain ⟨hne, hstep | ⟨q, hstep, hrest⟩⟩ |
          ⟨hhyphens, ⟨-, hfinish⟩ | ⟨extra, behind, rfl, hstop⟩⟩ := read_cons_eq_error_iff.mp hread
      · exact .inl ⟨hne, .inl hstep⟩
      · exact .inl ⟨hne, .inr ⟨q, hstep, ih hrest⟩⟩
      · exact absurd hdecisive (not_isDecisive_of_finish hfinish)
      · exact .inr ⟨hhyphens, .inr ⟨extra, behind ++ later, rfl, hstop⟩⟩

end Progress

/-- If arguments lead to help, to the version, to an unexpected argument or value, or to a second
verbose flag, nothing that is appended to them changes this. The program then asks nothing and
reports just that stop, with and without what is appended. -/
theorem first_decisive_argument_wins {arguments : List String} {stop : Stop}
    (hstop : parse arguments = .error stop) (hdecisive : stop.IsDecisive) (later : List String) :
    parse (arguments ++ later) = .error stop ∧
      ∀ (read : String → Except Log.Refusal Log.Filter) (setting : Option String) (m : Machine),
        (programWith read arguments setting).interview m = ⟨[], .ofStop stop⟩ ∧
          (programWith read (arguments ++ later) setting).interview m = ⟨[], .ofStop stop⟩ := by
  have happended : parse (arguments ++ later) = .error stop :=
    Progress.read_append_of_isDecisive hstop hdecisive later
  refine ⟨happended, fun read setting m => ⟨?_, ?_⟩⟩
  · exact interview_programWith_of_stop hstop read setting m
  · exact interview_programWith_of_stop happended read setting m

/-- An unknown flag in place of a value, before a value, a flag that asks for help and two hyphens.
-/
theorem first_decisive_unknown_flag :
    let arguments := ["-vd", "--nope"]
    let later := ["out", "--help", "--"]
    let stop := Stop.usage (.unexpectedArgument "--nope")
    parse arguments = .error stop ∧ stop.IsDecisive ∧ parse (arguments ++ later) = .error stop ∧
      ∀ (setting : Option String) (m : Machine),
        (program (arguments ++ later) setting).interview m = ⟨[], .ofStop stop⟩ := by
  intro arguments later stop
  have hstop : parse arguments = .error stop := by rfl
  obtain ⟨happended, hrun⟩ := first_decisive_argument_wins hstop trivial later
  exact ⟨hstop, trivial, happended, fun setting m => (hrun Log.Filter.ofText setting m).2⟩

/-- A missing value is no such stop: it can be appended. -/
example : parse ["-d"] = .error (.usage .missingValue) ∧
    parse (["-d"] ++ ["out"]) = .ok ⟨some "out", false⟩ := by
  exact ⟨rfl, rfl⟩

end SectorGate.CommandLine
