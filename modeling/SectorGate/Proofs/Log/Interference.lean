import SectorGate.Proofs.Log.Cursor
import SectorGate.Proofs.Numeral
import SectorGate.Proofs.TwoStage

/-!
# The log beside the outcome

What a run has to tell in its log is settled before any filter is asked (`fullLog`), and so is its
outcome. A filter picks records, and they are written before the error report
(`interview_programWith_of_filter`). So two runs that look at the same directory of the same machine
differ in the lines that they leave out of one common log, and in nothing else, whatever filters
they have. The reading of their log settings is again taken to answer with a filter or a refusal.
-/

namespace SectorGate

/-- The directory of a run: the one that is named, or else the working directory, if it is known. -/
def directory? (named : Option String) (m : Machine) : Option String :=
  named.or m.workingDirectory.toOption

/-- All that a check in a directory has to tell: its events in order, and then that all images fit,
if the check passes. -/
def Check.fullLog (dir : String) (check : Check) : List Log.Record :=
  check.events.map .ofEvent ++
    match check.result with
    | .ok .pass => [.withinBudget dir]
    | _ => []

/-- All that a run has to tell. Without a directory there is nothing. -/
def fullLog (named : Option String) (m : Machine) : List Log.Record :=
  match directory? named m with
  | some dir => ((Gate.mk dir).check.interview m).result.fullLog dir
  | none => []

/-- The report of an outcome, with some records in its log. -/
def Outcome.report (o : Outcome) (log : List Log.Record) : Report where
  status := o.status
  stdout := o.stdout
  stderr := String.join (log.map Log.Record.line) ++ o.errorReport

/-! ## What a run shows -/

theorem records_ofCheck (dir : String) (check : Check) :
    (Findings.ofCheck dir check).records = check.fullLog dir := by
  unfold Findings.ofCheck Check.fullLog
  dsimp only
  split
  · next hpass => rw [hpass]
  · next o hover => simp [hover]
  · next image hunreadable => simp [hunreadable]
  · next hoverflow => simp [hoverflow]

theorem records_survey (named : Option String) (m : Machine) :
    ((survey named).interview m).result.records = fullLog named m := by
  unfold fullLog directory? survey
  cases named with
  | some dir => simp [Inquiry.interview_map, records_ofCheck]
  | none =>
      cases hdir : m.workingDirectory with
      | ok dir => simp [hdir, Except.toOption, Inquiry.interview_map, records_ofCheck]
      | error cause => simp [hdir, Except.toOption]

variable {read : String → Except Log.Refusal Log.Filter} {arguments : List String}
  {options : CommandLine.Options} {setting : Option String}

/-- A run with a filter asks what the two stages ask, and reports what comes of them, with the
records of the full log that the filter shows. -/
theorem interview_programWith_of_filter {filter : Log.Filter}
    (haccepted : CommandLine.parse arguments = .ok options)
    (hfilter : Log.Filter.choose? read setting options.verbose = some filter) (m : Machine) :
    (programWith read arguments setting).interview m =
      ⟨(twoStageGate options.dir m).exchanges,
        (twoStageGate options.dir m).report
          ((fullLog options.dir m).filter (filter.shows ·))⟩ := by
  have hprogram : programWith read arguments setting =
      Report.ofFindings filter <$> survey options.dir := by
    simp only [programWith, haccepted, hfilter]
  rw [hprogram, Inquiry.interview_map, ← records_survey, twoStageGate_eq_ofFindings]
  rfl

/-! ## How the two stages end -/

end SectorGate
