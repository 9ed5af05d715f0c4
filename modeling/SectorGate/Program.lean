import SectorGate.CommandLine.Parser
import SectorGate.Log.Filter

/-!
# The program

From arguments and log setting to what the program writes and the status it ends with.
What the run finds out is settled before any log filter is asked, so a filter can only
leave out whole lines of the log. A log setting that cannot be cut into its pieces ends the
run before it begins.
-/

namespace SectorGate

/-- What a run of the program leaves behind. -/
structure Report where
  status : UInt8
  stdout : String
  stderr : String
  deriving DecidableEq, Repr

inductive Ending where
  | passed
  | overrun (o : Overrun)
  | failed (message : String) (cause : Fault)
  /-- The arithmetic of a budget left 64 bits. -/
  | overflow

/-- What a run has to tell in its log, and how it ends. -/
structure Findings where
  records : List Log.Record
  ending : Ending

/-- The status that the operating system keeps of an exit code: its low byte. -/
def exitStatus (code : Int32) : UInt8 :=
  code.toUInt32.toUInt8

def brokenOffStatus : UInt8 := 101

theorem exitStatus_loader : exitStatus loader.exitCode = 255 := by decide

theorem exitStatus_kernel : exitStatus kernel.exitCode = 254 := by decide

/-- A cause as a report shows it: each of its lines is indented. -/
def indented (text : String) : String :=
  "    " ++ String.ofList (text.toList.flatMap fun c => if c = '\n' then "\n    ".toList else [c])

namespace Ending

/-- A failure ends with status one, an overrun with the status of its exit code. -/
def status : Ending → UInt8
  | passed => 0
  | overrun o => exitStatus o.exitCode
  | failed .. => 1
  | overflow => brokenOffStatus

/-- Only an overrun is told on standard output, by its diagnostic line. -/
def stdout : Ending → String
  | overrun o => o.line ++ "\n"
  | _ => ""

/-- The report of a failure: what failed, and why. -/
def errorReport : Ending → String
  | failed message cause =>
    "Error: " ++ message ++ "\n\nCaused by:\n" ++ indented cause.message ++ "\n"
  | overflow => overflowMessage ++ "\n"
  | _ => ""

end Ending

def Findings.ofCheck (dir : String) (check : Check) : Findings :=
  let records := check.events.map .ofEvent
  match check.result with
  | .ok .pass => ⟨records ++ [.withinBudget dir], .passed⟩
  | .ok (.overrun o) => ⟨records, .overrun o⟩
  | .error (.unreadable image) => ⟨records, .failed image.message image.fault⟩
  | .error .overflow => ⟨records, .overflow⟩

/-- Checks the images in a directory, or in the working directory if none is named. -/
def survey (dir : Option String) : Inquiry Findings :=
  let surveyAt dir := Findings.ofCheck dir <$> (Gate.mk dir).check
  match dir with
  | some dir => surveyAt dir
  | none =>
    .workingDirectory fun
      | .ok dir => surveyAt dir
      | .error fault => .done ⟨[], .failed "Failed to resolve working directory" fault⟩

namespace Report

/-- The lines of the log that a filter shows come before the report of a failure. -/
def ofFindings (filter : Log.Filter) (findings : Findings) : Report where
  status := findings.ending.status
  stdout := findings.ending.stdout
  stderr :=
    String.join ((findings.records.filter (filter.shows ·)).map Log.Record.line) ++
      findings.ending.errorReport

/-- Help and version go to standard output, usage errors do not. -/
def ofStop : CommandLine.Stop → Report
  | .help => ⟨0, CommandLine.helpText, ""⟩
  | .version => ⟨0, CommandLine.versionText, ""⟩
  | .usage error => ⟨2, "", error.report⟩

/-- A log setting that is cut inside of a character ends the run before it looks at anything. -/
def brokenSetting : Report :=
  ⟨brokenOffStatus, "", Log.brokenCharacterMessage ++ "\n"⟩

end Report

/-- Runs the program on its arguments and the log setting of its environment, for any way in
which log settings are read. -/
def programWith (read : String → Except Log.Refusal Log.Filter) (arguments : List String)
    (logSetting : Option String) : Inquiry Report :=
  match CommandLine.parse arguments with
  | .error stop => .done (.ofStop stop)
  | .ok options =>
    match Log.Filter.choose? read logSetting options.verbose with
    | none => .done .brokenSetting
    | some filter => Report.ofFindings filter <$> survey options.dir

/-- The program, which reads log settings as directives. -/
def program (arguments : List String) (logSetting : Option String) : Inquiry Report :=
  programWith Log.Filter.ofText arguments logSetting

end SectorGate
