import SectorGate.Proofs.Gate.Trace
import SectorGate.Proofs.Log.EventLine
import SectorGate.Proofs.Log.Setting
import SectorGate.Proofs.Path

/-!
# What the full log discloses

With the verbose flag and no log setting, standard error shows the whole log and then the error
report. It tells how the run ended and what it found: the events can be read off from the front,
before anything that depends on a directory, and what follows them tells a missing working directory
from an image that cannot be read. So directories may be named in any way, even like lines of a log.
-/

namespace SectorGate

/-! ## The images that a run asks about -/

/-- The name of the image that a question is about, and its size if the machine knows it. -/
def Exchange.examined? : Exchange → Option (String × Option UInt64)
  | .workingDirectory _ => none
  | .fileSize path reply => some (Path.lastName path, reply.toOption)

/-- The images that a run asks about, in order, each with its size if it was read. -/
def examined (asked : List Exchange) : List (String × Option UInt64) :=
  asked.filterMap Exchange.examined?

theorem examined_cons {g : Gate} {b : Budget} (hname : '/' ∉ b.fileName.toList)
    (reply : Except Fault UInt64) (asked : List Exchange) :
    examined (.fileSize (g.imagePath b) reply :: asked) =
      (b.fileName, reply.toOption) :: examined asked := by
  simp [examined, Exchange.examined?, Gate.imagePath, Path.lastName_join hname]

/-! ## Two checks with the same events -/

/-- That two checks end in the same way, if it is not asked which directories and faults they name.
-/
inductive SameEnd : Except CheckError Verdict → Except CheckError Verdict → Prop
  | passed : SameEnd (.ok .pass) (.ok .pass)
  | overrun (o : Overrun) : SameEnd (.ok (.overrun o)) (.ok (.overrun o))
  | unreadable (image image' : Unreadable) :
      SameEnd (.error (.unreadable image)) (.error (.unreadable image'))

namespace Gate

variable {g g' : Gate} {m m' : Machine} {budgets : List Budget} {run run' : Interview Check}

theorem CheckRun.exists_budget_of_mem (hrun : CheckRun g m budgets run) {e : Event}
    (he : e ∈ run.result.events) : ∃ b ∈ budgets, e.image = b.fileName := by
  induction hrun with
  | pass => simp at he
  | unreadable hreply => simp at he
  | overrun hreply hmax hover =>
      obtain rfl := List.mem_singleton.mp he
      exact ⟨_, by simp, rfl⟩
  | fits hreply hroom hlater ih =>
      obtain rfl | he := List.mem_cons.mp he
      · exact ⟨_, by simp, rfl⟩
      · obtain ⟨b, hb, hname⟩ := ih he
        exact ⟨b, by simp [hb], hname⟩

/-- The events of a check settle which images it asked about, what it read, and how it ended. -/
theorem CheckRun.same_of_events (hrun : CheckRun g m budgets run)
    (hrun' : CheckRun g' m' budgets run') (hnames : ∀ b ∈ budgets, '/' ∉ b.fileName.toList)
    (hevents : run.result.events = run'.result.events) :
    examined run.exchanges = examined run'.exchanges ∧
      SameEnd run.result.result run'.result.result := by
  induction hrun generalizing m' run' with
  | pass =>
      cases hrun'
      exact ⟨rfl, .passed⟩
  | unreadable hreply =>
      have hname := hnames _ List.mem_cons_self
      cases hrun' with
      | unreadable hreply' =>
          rw [examined_cons hname, examined_cons hname]
          exact ⟨rfl, .unreadable _ _⟩
      | overrun hreply' hmax' hover' => cases hevents
      | fits hreply' hroom' hlater' => cases hevents
  | overrun hreply hmax hover =>
      have hname := hnames _ List.mem_cons_self
      cases hrun' with
      | unreadable hreply' => cases hevents
      | overrun hreply' hmax' hover' =>
          cases hevents
          rw [examined_cons hname, examined_cons hname]
          exact ⟨rfl, .overrun _⟩
      | fits hreply' hroom' hlater' => cases hevents
  | fits hreply hroom hlater ih =>
      have hname := hnames _ List.mem_cons_self
      cases hrun' with
      | unreadable hreply' => cases hevents
      | overrun hreply' hmax' hover' => cases hevents
      | fits hreply' hroom' hlater' =>
          obtain ⟨hfirst, hrest⟩ := List.cons.inj hevents
          cases hfirst
          obtain ⟨hasked, hend⟩ := ih hlater' (fun b hb => hnames b (by simp [hb])) hrest
          rw [examined_cons hname, examined_cons hname, hasked]
          exact ⟨rfl, hend⟩

end Gate

/-! ## What follows the events -/

/-- What standard error shows behind the events of a check. -/
def Check.closing (dir : String) (check : Check) : String :=
  match check.result with
  | .ok .pass => (Log.Record.withinBudget dir).line
  | _ => (Findings.ofCheck dir check).ending.errorReport

/-- The report of a run that finds no directory. -/
def lostReport (cause : Fault) : String :=
  (Ending.failed "Failed to resolve working directory" cause).errorReport

theorem log_append_errorReport (dir : String) (check : Check) :
    String.join ((check.fullLog dir).map Log.Record.line) ++
        (Findings.ofCheck dir check).ending.errorReport =
      Log.eventLog check.events ++ check.closing dir := by
  obtain ⟨events, result⟩ := check
  have hevents : String.join ((events.map Log.Record.ofEvent).map Log.Record.line) =
      Log.eventLog events := by
    rw [Log.eventLog, List.map_map]
    rfl
  rw [Check.fullLog, List.map_append, String.join_append, hevents, String.append_assoc]
  congr 1
  cases result with
  | error e => simp [Check.closing]
  | ok verdict =>
      cases verdict with
      | pass => simp [Check.closing, Findings.ofCheck, Ending.errorReport, String.join]
      | overrun o => simp [Check.closing]

theorem toList_line_withinBudget (dir : String) :
    (Log.Record.withinBudget dir).line.toList =
      " INFO boot images within budget dir=".toList ++ (dir.toList ++ ['\n']) := by
  have hlabel : Log.Level.info.label = " INFO" := by decide
  simp [Log.Record.line, Log.Record.withinBudget, Log.Field.text, String.join, hlabel]

theorem exists_toList_errorReport {message : String} {c : Char} {rest : List Char}
    (hmessage : message.toList = c :: rest) (cause : Fault) :
    ∃ later, (Ending.failed message cause).errorReport.toList = "Error: ".toList ++ c :: later := by
  refine ⟨rest ++ ("\n\nCaused by:\n" ++ indented cause.message ++ "\n").toList, ?_⟩
  simp only [Ending.errorReport, String.toList_append, List.append_assoc, hmessage,
    List.cons_append]

theorem exists_toList_lostReport (cause : Fault) :
    ∃ later, (lostReport cause).toList = "Error: ".toList ++ 'F' :: later :=
  exists_toList_errorReport rfl cause

/-- The ways in which standard error can go on behind the events of a check. -/
theorem closing_cases (dir : String) (check : Check) :
    (∃ rest, (check.closing dir).toList = ' ' :: rest) ∨ (check.closing dir).toList = [] ∨
      (∃ rest, (check.closing dir).toList = "Error: ".toList ++ 'f' :: rest) ∨
      ∃ rest, (check.closing dir).toList = 'a' :: rest := by
  obtain ⟨events, result⟩ := check
  cases result with
  | error e =>
      cases e with
      | unreadable image =>
          have hclosing : Check.closing dir ⟨events, .error (.unreadable image)⟩ =
              (Ending.failed image.message image.fault).errorReport := rfl
          rw [hclosing]
          exact .inr (.inr (.inl (exists_toList_errorReport (String.toList_append ..) _)))
      | overflow =>
          have hclosing : Check.closing dir ⟨events, .error .overflow⟩ =
              Ending.overflow.errorReport := rfl
          rw [hclosing, Ending.errorReport, String.toList_append]
          exact .inr (.inr (.inr ⟨_, rfl⟩))
  | ok verdict =>
      cases verdict with
      | pass =>
          have hclosing : Check.closing dir ⟨events, .ok .pass⟩ =
              (Log.Record.withinBudget dir).line := rfl
          rw [hclosing, toList_line_withinBudget]
          exact .inl ⟨_, rfl⟩
      | overrun o => exact .inr (.inl rfl)

/-- What follows the events does not begin like one more of them. -/
theorem head?_closing (dir : String) (check : Check) :
    (check.closing dir).toList.head? ≠ some 'D' := by
  obtain ⟨rest, h⟩ | h | ⟨rest, h⟩ | ⟨rest, h⟩ := closing_cases dir check <;> rw [h] <;> simp

/-- A failed reading is not reported like a missing directory: the messages begin with different
letters. -/
theorem closing_ne_lostReport (dir : String) (check : Check) (cause : Fault) :
    check.closing dir ≠ lostReport cause := by
  intro hsame
  obtain ⟨later, hlost⟩ := exists_toList_lostReport cause
  rw [← hsame] at hlost
  obtain ⟨rest, h⟩ | h | ⟨rest, h⟩ | ⟨rest, h⟩ := closing_cases dir check <;> rw [h] at hlost <;>
    simp at hlost

/-! ## Runs that show their full log -/

/-- The ways in which a run with its full log goes: it finds no directory, or checks the images in
one. -/
inductive FullRun (m : Machine) : Interview Report → Prop
  | lost (cause : Fault) : FullRun m ⟨[.workingDirectory (.error cause)], ⟨1, "", lostReport cause⟩⟩
  | checked {dir : String} {before : List Exchange} {run : Interview Check}
      (hbefore : examined before = []) (hrun : (Gate.mk dir).CheckRun m images run) :
      FullRun m ⟨before ++ run.exchanges,
        ⟨(Findings.ofCheck dir run.result).ending.status,
          (Findings.ofCheck dir run.result).ending.stdout,
          Log.eventLog run.result.events ++ run.result.closing dir⟩⟩

theorem fullRun_twoStages {before : List Exchange} (hbefore : examined before = []) (m : Machine)
    (dir : String) :
    FullRun m ⟨(twoStages before m dir).exchanges,
      (twoStages before m dir).report (((Gate.mk dir).check.interview m).result.fullLog dir)⟩ := by
  rw [twoStages_eq_ofFindings, Inquiry.interview_map, Outcome.report, Outcome.ofFindings]
  dsimp only
  rw [log_append_errorReport]
  exact .checked hbefore (Gate.checkRun_interview Budget.small_of_mem_images m)

theorem fullRun_twoStageGate (named : Option String) (m : Machine) :
    FullRun m ⟨(twoStageGate named m).exchanges,
      (twoStageGate named m).report (fullLog named m)⟩ := by
  unfold twoStageGate fullLog directory?
  cases named with
  | some dir => exact fullRun_twoStages rfl m dir
  | none =>
      cases hdir : m.workingDirectory with
      | ok dir => exact fullRun_twoStages rfl m dir
      | error cause => exact .lost cause

theorem fullRun_programWith {read : String → Except Log.Refusal Log.Filter}
    {arguments : List String} {options : CommandLine.Options}
    (haccepted : CommandLine.parse arguments = .ok options) (hverbose : options.verbose = true)
    (m : Machine) : FullRun m ((programWith read arguments none).interview m) := by
  have hfilter : Log.Filter.choose? read none options.verbose =
      some (.standard options.verbose) := rfl
  rw [interview_programWith_of_filter haccepted hfilter, filter_standard_fullLog, if_pos hverbose]
  exact fullRun_twoStageGate options.dir m

theorem SameEnd.ending_eq {check check' : Check} (hend : SameEnd check.result check'.result)
    (dir dir' : String) :
    (Findings.ofCheck dir check).ending.status = (Findings.ofCheck dir' check').ending.status ∧
      (Findings.ofCheck dir check).ending.stdout =
        (Findings.ofCheck dir' check').ending.stdout := by
  obtain ⟨events, result⟩ := check
  obtain ⟨events', result'⟩ := check'
  cases hend with
  | passed => exact ⟨rfl, rfl⟩
  | overrun o => exact ⟨rfl, rfl⟩
  | unreadable image image' => exact ⟨rfl, rfl⟩

theorem slash_notMem_images : ∀ b ∈ images, '/' ∉ b.fileName.toList := by decide

theorem quote_notMem_image {g : Gate} {m : Machine} {run : Interview Check}
    (hrun : g.CheckRun m images run) : ∀ e ∈ run.result.events, '"' ∉ e.image.toList := by
  have hquote : ∀ b ∈ images, '"' ∉ b.fileName.toList := by decide
  intro e he
  obtain ⟨b, hb, hname⟩ := hrun.exists_budget_of_mem he
  rw [hname]
  exact hquote b hb

/-- No log of events with what follows it is the report of a missing directory. -/
theorem log_ne_lostReport {g : Gate} {m : Machine} {run : Interview Check}
    (hrun : g.CheckRun m images run) (dir : String) (cause : Fault) :
    Log.eventLog run.result.events ++ run.result.closing dir ≠ lostReport cause := by
  intro hsame
  obtain ⟨later, hlost⟩ := exists_toList_lostReport cause
  have hhead : (lostReport cause).toList.head? ≠ some 'D' := by
    rw [hlost]
    nofun
  have hlists : (Log.eventLog run.result.events).toList ++ (run.result.closing dir).toList =
      (Log.eventLog []).toList ++ (lostReport cause).toList := by
    rw [← String.toList_append, hsame, Log.toList_eventLog_nil, List.nil_append]
  obtain ⟨-, hclosing⟩ := Log.eventLog_append_inj (quote_notMem_image hrun) (by simp)
    (head?_closing dir run.result) hhead hlists
  exact closing_ne_lostReport dir run.result cause (String.toList_inj.mp hclosing)

theorem examined_append (asked later : List Exchange) :
    examined (asked ++ later) = examined asked ++ examined later :=
  List.filterMap_append

/-- Two checks that show the same on standard error have the same events, and so end in the same
way. -/
theorem FullRun.eq_of_stderr {m m' : Machine} {run run' : Interview Report} (hrun : FullRun m run)
    (hrun' : FullRun m' run') (hstderr : run.result.stderr = run'.result.stderr) :
    run.result.status = run'.result.status ∧ run.result.stdout = run'.result.stdout ∧
      examined run.exchanges = examined run'.exchanges := by
  cases hrun with
  | lost cause =>
      cases hrun' with
      | lost cause' => exact ⟨rfl, rfl, rfl⟩
      | checked hbefore' hcheck' => exact absurd hstderr.symm (log_ne_lostReport hcheck' _ cause)
  | @checked dir before check hbefore hcheck =>
      cases hrun' with
      | lost cause' => exact absurd hstderr (log_ne_lostReport hcheck _ cause')
      | @checked dir' before' check' hbefore' hcheck' =>
          have hlists := congrArg String.toList hstderr
          dsimp only at hlists
          rw [String.toList_append, String.toList_append] at hlists
          obtain ⟨hevents, -⟩ := Log.eventLog_append_inj (quote_notMem_image hcheck)
            (quote_notMem_image hcheck') (head?_closing dir check.result)
            (head?_closing dir' check'.result) hlists
          obtain ⟨hasked, hend⟩ := hcheck.same_of_events hcheck' slash_notMem_images hevents
          obtain ⟨hstatus, hstdout⟩ := hend.ending_eq dir dir'
          refine ⟨hstatus, hstdout, ?_⟩
          rw [examined_append, examined_append, hbefore, hbefore', hasked]

/-- Two runs with the verbose flag and without a log setting that write the same to standard error
end with the same status, write the same to standard output, and ask about the same images, of which
they read the same sizes. Their directories may differ, and so may their machines. -/
theorem stderr_tells_outcome {read : String → Except Log.Refusal Log.Filter}
    {first second : List String} {firstOptions secondOptions : CommandLine.Options}
    (hfirst : CommandLine.parse first = .ok firstOptions)
    (hsecond : CommandLine.parse second = .ok secondOptions)
    (hfirstVerbose : firstOptions.verbose = true) (hsecondVerbose : secondOptions.verbose = true)
    (m m' : Machine)
    (hstderr : ((programWith read first none).interview m).result.stderr =
      ((programWith read second none).interview m').result.stderr) :
    let run := (programWith read first none).interview m
    let other := (programWith read second none).interview m'
    run.result.status = other.result.status ∧ run.result.stdout = other.result.stdout ∧
      examined run.exchanges = examined other.exchanges :=
  (fullRun_programWith hfirst hfirstVerbose m).eq_of_stderr
    (fullRun_programWith hsecond hsecondVerbose m') hstderr

/-- Two spellings of a directory, on machines of which one has no kernel and the other loses it. -/
theorem stderr_tells_outcome_kernelMissing :
    let run := (programWith Log.Filter.ofText ["-vd", "out"] none).interview kernelMissing
    let other := (programWith Log.Filter.ofText ["--verbose", "--dir=out/"] none).interview
      Gate.kernelVanishes
    CommandLine.parse ["-vd", "out"] = .ok ⟨some "out", true⟩ ∧
      CommandLine.parse ["--verbose", "--dir=out/"] = .ok ⟨some "out/", true⟩ ∧
      run.result.stderr = other.result.stderr ∧
      run.result.status = other.result.status ∧ run.result.stdout = other.result.stdout ∧
      examined run.exchanges = examined other.exchanges := by
  intro run other
  have hfirst : CommandLine.parse ["-vd", "out"] = .ok ⟨some "out", true⟩ := by rfl
  have hsecond : CommandLine.parse ["--verbose", "--dir=out/"] = .ok ⟨some "out/", true⟩ := by rfl
  have hstderr : run.result.stderr = other.result.stderr := by rfl
  exact ⟨hfirst, hsecond, hstderr,
    stderr_tells_outcome hfirst hsecond rfl rfl kernelMissing Gate.kernelVanishes hstderr⟩

end SectorGate
