import Mathlib.Data.List.Forall2
import SectorGate.Proofs.CommandLine.Acceptance
import SectorGate.Proofs.Log.LastLevel
import SectorGate.Proofs.Log.Setting

/-!
# Settings of plain entries

The plain entries of a log setting are a level, a target that is not read as a level, and a target
with an equals sign and a level. A row of them is read as one unlimited directive for each
(`Log.Filter.ofText_setting`), so that a run sees of it the last level of each target, and no more.
All levels that stand alone are levels of one target, to which every record belongs, and of which a
directive names least.
-/

namespace SectorGate

/-! ## Letters and digits are not blank -/

namespace Text

theorem inRanges_apart {ranges others : List (Nat × Nat)} {c : Char}
    (hapart : ranges.all fun range =>
      others.all fun other => range.2.blt other.1 || other.2.blt range.1)
    (hc : inRanges ranges c) : inRanges others c = false := by
  obtain ⟨range, hrange, hin⟩ := List.any_eq_true.mp hc
  rw [inRanges, List.any_eq_false]
  intro other hother hin'
  have hranges := List.all_eq_true.mp (List.all_eq_true.mp hapart range hrange) other hother
  simp only [Bool.or_eq_true, Bool.and_eq_true, decide_eq_true_eq, Nat.blt_eq] at hranges hin hin'
  omega

def alphanumericRanges : List (Nat × Nat) :=
  (48, 57) :: (65, 90) :: (97, 122) :: (alphabeticRanges ++ numericRanges)

theorem inRanges_of_isAlphanumeric {c : Char} (hc : isAlphanumeric c) :
    inRanges alphanumericRanges c := by
  have hval : c.val.toNat = c.toNat := rfl
  unfold isAlphanumeric isAlphabetic isNumeric Char.isAlpha Char.isUpper Char.isLower at hc
  simp only [Char.isDigit_iff_toNat, Bool.or_eq_true, Bool.and_eq_true, decide_eq_true_eq,
    UInt32.le_iff_toNat_le, ge_iff_le, hval] at hc
  simp only [inRanges, alphanumericRanges, List.any_cons, List.any_append, Bool.or_eq_true,
    Bool.and_eq_true, decide_eq_true_eq]
  obtain ((hupper | hlower) | halphabetic) | hdigit | hnumeric := hc
  · exact .inr (.inl hupper)
  · exact .inr (.inr (.inl hlower))
  · exact .inr (.inr (.inr (.inl halphabetic.2)))
  · exact .inl hdigit
  · exact .inr (.inr (.inr (.inr hnumeric.2)))

theorem isBlank_of_isAlphanumeric {c : Char} (hc : isAlphanumeric c) : isBlank c = false := by
  have hapart : blankRanges.all fun range =>
      alphanumericRanges.all fun other => range.2.blt other.1 || other.2.blt range.1 := by
    decide +kernel
  by_contra hblank
  have hin := inRanges_apart hapart (Bool.not_eq_false _ ▸ hblank)
  rw [inRanges_of_isAlphanumeric hc] at hin
  cases hin

end Text

namespace Log

/-! ## Words -/

def isWordChar (c : Char) : Bool :=
  Text.isAlphanumeric c || c == '_' || c == ':'

theorem startsDirective_of_isWordChar {c : Char} (hc : isWordChar c) : startsDirective c := by
  simp only [isWordChar, Bool.or_eq_true] at hc
  obtain (hc | hc) | hc := hc <;> simp [startsDirective, hc]

theorem isBlank_of_isWordChar {c : Char} (hc : isWordChar c) : Text.isBlank c = false := by
  simp only [isWordChar, Bool.or_eq_true, beq_iff_eq] at hc
  obtain (hc | rfl) | rfl := hc
  · exact Text.isBlank_of_isAlphanumeric hc
  · rfl
  · rfl

theorem ne_of_isWordChar {c sign : Char} (hsign : isWordChar sign = false) (hc : isWordChar c) :
    c ≠ sign := by
  rintro rfl
  rw [hsign] at hc
  cases hc

theorem isWordChar_comma : isWordChar ',' = false := by decide

theorem isWordChar_equals : isWordChar '=' = false := by decide

theorem isWordChar_bracket : isWordChar '[' = false := by decide

/-- A word of letters, digits, underscores and colons. -/
structure Word where
  text : String
  ne_empty : text ≠ ""
  isWordChar_of_mem : ∀ c ∈ text.toList, isWordChar c

/-- A word that is read as a level: its name in any case, or its number, also with zeros in front.
-/
structure LevelWord extends Word where
  level : Level
  ofText?_eq : Level.ofText? text.toList = some level

/-- The name of a level. -/
def LevelWord.ofName (level : Level) : LevelWord where
  text := level.name
  ne_empty := by cases level <;> decide
  isWordChar_of_mem := List.all_eq_true.mp (by cases level <;> decide)
  level := level
  ofText?_eq := Level.ofText?_name level

/-- The number of a level. -/
def LevelWord.ofNumber (level : Level) : LevelWord where
  text := String.ofList [Nat.digitChar level.rank]
  ne_empty := by cases level <;> decide
  isWordChar_of_mem := List.all_eq_true.mp (by cases level <;> decide)
  level := level
  ofText?_eq := by rw [String.toList_ofList, Level.ofText?_digit]

theorem Word.exists_cons (w : Word) : ∃ c rest, w.text.toList = c :: rest ∧ isWordChar c := by
  cases htext : w.text.toList with
  | nil => exact absurd (String.toList_eq_nil_iff.mp htext) w.ne_empty
  | cons c rest => exact ⟨c, rest, rfl, w.isWordChar_of_mem c (by simp [htext])⟩

/-- A word has none of the signs at which directives are cut. -/
theorem Word.not_sign (w : Word) : ∀ c ∈ w.text.toList, !(['=', '['].contains c) := by
  intro c hc
  have hequals := ne_of_isWordChar isWordChar_equals (w.isWordChar_of_mem c hc)
  have hbracket := ne_of_isWordChar isWordChar_bracket (w.isWordChar_of_mem c hc)
  simp [hequals, hbracket]

/-! ## Entries -/

/-- A plain entry of a log setting. A target that stands alone must not be read as a level. -/
inductive Entry where
  | level (level : LevelWord)
  | assigned (target : Word) (level : LevelWord)
  | bare (target : Word) (notLevel : Level.ofText? target.text.toList = none)

namespace Entry

def text : Entry → String
  | level l => l.text
  | assigned w l => w.text ++ "=" ++ l.text
  | bare w _ => w.text

/-- What an entry says: a target alone shows everything of it. -/
def directive : Entry → Directive
  | level l => ⟨none, .none, l.level⟩
  | assigned w l => ⟨some w.text, .none, l.level⟩
  | bare w _ => ⟨some w.text, .none, .trace⟩

/-- A log setting of entries, with commas between them. -/
def setting (entries : List Entry) : String :=
  ",".intercalate (entries.map text)

theorem isWordChar_of_mem_text {e : Entry} {c : Char} (hc : c ∈ e.text.toList) :
    isWordChar c ∨ c = '=' := by
  cases e with
  | level l => exact .inl (l.isWordChar_of_mem c hc)
  | bare w _ => exact .inl (w.isWordChar_of_mem c hc)
  | assigned w l =>
      simp only [text, String.toList_append, List.mem_append] at hc
      obtain (hc | hc) | hc := hc
      · exact .inl (w.isWordChar_of_mem c hc)
      · exact .inr (by simpa using hc)
      · exact .inl (l.isWordChar_of_mem c hc)

theorem text_ne_empty (e : Entry) : e.text ≠ "" := by
  cases e with
  | level l => exact l.ne_empty
  | bare w _ => exact w.ne_empty
  | assigned w l => simp [text]

theorem comma_notMem_text (e : Entry) : ',' ∉ e.text.toList := by
  intro hcomma
  obtain hword | hequals := isWordChar_of_mem_text hcomma
  · exact ne_of_isWordChar isWordChar_comma hword rfl
  · cases hequals

end Entry

/-! ## The reading of entries -/

/-- Without white space nothing is trimmed, and all is left to read. -/
theorem Cursor.start_of_not_blank {text : List Char} (htext : ∀ c ∈ text, Text.isBlank c = false) :
    start text = ⟨text, 0, text⟩ := by
  rw [start, Text.trim_eq_self]
  · exact fun c hc => htext c (List.mem_of_head? hc)
  · exact fun c hc => htext c (List.mem_of_getLast? hc)

theorem Cursor.readLevel_of_width {c : Cursor} {before piece : List Char} {level : Level}
    (htext : c.text = before ++ piece) (hplace : c.place = Text.width before)
    (hlevel : Level.ofText? piece = some level) : c.readLevel = .ok level := by
  have hpiece : c.textUpTo { c with place := Text.width c.text } = .ok piece := by
    refine textUpTo_of_width [] ?_ hplace ?_
    · rw [List.append_nil, htext]
    · rw [htext, Text.width_append]
  cases piece with
  | nil => cases hlevel
  | cons first rest => simp only [readLevel, hpiece, bind, Except.bind, hlevel]

/-- A text that begins with a word is read from its first character on, and not as a limit. -/
theorem Word.head?_append (w : Word) (behind : List Char) :
    (w.text.toList ++ behind).head? ≠ some '[' ∧
      (w.text.toList ++ behind).head?.any startsDirective = true := by
  obtain ⟨c, rest, htext, hc⟩ := w.exists_cons
  rw [htext, List.cons_append, List.head?_cons, Option.any_some, startsDirective_of_isWordChar hc]
  simpa using ne_of_isWordChar isWordChar_bracket hc

namespace Directive

/-- A word alone is a level, if it is read as one, or else a target. -/
theorem ofText_word (w : Word) :
    Directive.ofText w.text.toList = .ok
      (match Level.ofText? w.text.toList with
      | some level => ⟨none, .none, level⟩
      | none => ⟨some w.text, .none, .trace⟩) := by
  have hstart := Cursor.start_of_not_blank fun c hc =>
    isBlank_of_isWordChar (w.isWordChar_of_mem c hc)
  have hend : w.text.toList.dropWhile (fun c => !(['=', '['].contains c)) = [] :=
    List.dropWhile_eq_nil_iff.mpr w.not_sign
  obtain ⟨hbracket, hstarts⟩ := List.append_nil w.text.toList ▸ w.head?_append []
  rw [Directive.ofText, hstart, String.ofList_toList]
  simp only [Cursor.seek, hend, hbracket, hstarts, if_false, Bool.not_true, Bool.false_eq_true]
  cases Level.ofText? w.text.toList <;> rfl

theorem ofText_assigned {w : Word} {l : LevelWord} {text : List Char}
    (htext : text = w.text.toList ++ '=' :: l.text.toList) :
    Directive.ofText text = .ok ⟨some w.text, .none, l.level⟩ := by
  have hblank : ∀ c ∈ text, Text.isBlank c = false := by
    rw [htext, List.forall_mem_append, List.forall_mem_cons]
    refine ⟨fun c hc => isBlank_of_isWordChar (w.isWordChar_of_mem c hc), rfl, fun c hc => ?_⟩
    exact isBlank_of_isWordChar (l.isWordChar_of_mem c hc)
  have hword : text.takeWhile (fun c => !(['=', '['].contains c)) = w.text.toList := by
    rw [htext, List.takeWhile_append_of_pos w.not_sign]
    exact List.append_nil _
  have hrest : text.dropWhile (fun c => !(['=', '['].contains c)) = '=' :: l.text.toList := by
    rw [htext, List.dropWhile_append_of_pos w.not_sign]
    rfl
  have hstop : (Cursor.mk text 0 text).seek ['=', '['] =
      ⟨text, Text.width w.text.toList, '=' :: l.text.toList⟩ := by
    rw [Cursor.seek, hword, hrest, Nat.zero_add]
  have htarget : (Cursor.mk text 0 text).textUpTo
      ⟨text, Text.width w.text.toList, '=' :: l.text.toList⟩ = .ok w.text.toList := by
    have hsplit : text = [] ++ (w.text.toList ++ '=' :: l.text.toList) := htext
    exact Cursor.textUpTo_of_width _ hsplit rfl (Nat.zero_add _).symm
  have hlevel : (Cursor.mk text (Text.width w.text.toList) ('=' :: l.text.toList)).skip.readLevel =
      .ok l.level := by
    have hsplit : text = (w.text.toList ++ ['=']) ++ l.text.toList := by
      rw [htext, List.append_assoc, List.singleton_append]
    exact Cursor.readLevel_of_width hsplit (Text.width_append _ _).symm l.ofText?_eq
  obtain ⟨hbracket, hstarts⟩ := w.head?_append ('=' :: l.text.toList)
  rw [← htext] at hbracket hstarts
  rw [Directive.ofText, Cursor.start_of_not_blank hblank]
  simp only [hstop, hbracket, hstarts, htarget, hlevel, if_false, if_true, Bool.not_true,
    Bool.false_eq_true, bind, Except.bind, String.ofList_toList]

theorem ofText_entry (e : Entry) : Directive.ofText e.text.toList = .ok e.directive := by
  cases e with
  | level l => rw [Entry.text, ofText_word, l.ofText?_eq]; rfl
  | bare w notLevel => rw [Entry.text, ofText_word, notLevel]; rfl
  | assigned w l =>
      apply ofText_assigned
      simp [Entry.text]

end Directive

theorem Filter.ofText_setting (entries : List Entry) :
    Filter.ofText (Entry.setting entries) = .ok (entries.map Entry.directive) := by
  rw [Entry.setting, ofText_intercalate]
  · induction entries with
    | nil => rfl
    | cons e entries ih =>
        rw [List.map_cons, List.map_cons, List.mapM_cons, Directive.ofText_entry, ih]
        rfl
  · intro part hpart
    obtain ⟨e, -, rfl⟩ := List.mem_map.mp hpart
    exact ⟨e.text_ne_empty, e.comma_notMem_text⟩

end Log

/-! ## Runs with a setting of entries -/

namespace Log.Entry

/-- The target that an entry gives a level to. All levels that stand alone have one, of every
record. -/
def target (e : Entry) : Option String :=
  e.directive.target

/-- That an entry gives the same target a level that shows as much or more. -/
def RaisedTo (e e' : Entry) : Prop :=
  e.target = e'.target ∧ e.directive.level.rank ≤ e'.directive.level.rank

/-- The level that entries give to a target last. -/
def lastLevel? (entries : List Entry) (target : Option String) : Option Level :=
  ((entries.filter (·.target = target)).getLast?).map (·.directive.level)

/-- The records of a log that entries show. -/
def shown (entries : List Entry) (log : List Record) : List Record :=
  log.filter (Filter.shows (entries.map directive) ·)

theorem isUnlimited_directives (entries : List Entry) :
    Filter.IsUnlimited (entries.map directive) := by
  intro d hd
  obtain ⟨e, -, rfl⟩ := List.mem_map.mp hd
  cases e <;> rfl

theorem lastLevel?_directives (entries : List Entry) (target : Option String) :
    Filter.lastLevel? (entries.map directive) target = lastLevel? entries target := by
  rw [Filter.lastLevel?, List.filter_map, List.getLast?_map, Option.map_map]
  rfl

theorem shown_eq_of_lastLevel?_eq {entries entries' : List Entry}
    (hsame : ∀ target, lastLevel? entries target = lastLevel? entries' target) (log : List Record) :
    shown entries log = shown entries' log := by
  apply List.filter_congr
  intro r _
  apply Filter.shows_eq_of_lastLevel?_eq (isUnlimited_directives _) (isUnlimited_directives _)
  intro target
  rw [lastLevel?_directives, lastLevel?_directives, hsame]

theorem shown_sublist_of_raised {entries entries' : List Entry}
    (hraised : List.Forall₂ RaisedTo entries entries') (log : List Record) :
    (shown entries log).Sublist (shown entries' log) := by
  apply List.monotone_filter_right
  intro r hshows
  refine Filter.shows_of_atMost (isUnlimited_directives _) (isUnlimited_directives _) ?_ hshows
  apply Filter.atMost_of_forall₂
  rw [List.forall₂_map_left_iff, List.forall₂_map_right_iff]
  exact hraised

end Log.Entry

section

open Log (Entry)

variable {arguments : List String} {options : CommandLine.Options} {stop : CommandLine.Stop}
  {entries entries' : List Entry}

theorem interview_program_of_stop (hstop : CommandLine.parse arguments = .error stop)
    (setting : Option String) (m : Machine) :
    (program arguments setting).interview m = ⟨[], .ofStop stop⟩ :=
  CommandLine.interview_programWith_of_stop hstop _ setting m

theorem interview_program_setting (haccepted : CommandLine.parse arguments = .ok options)
    (entries : List Entry) (m : Machine) :
    (program arguments (some (Entry.setting entries))).interview m =
      ⟨(twoStageGate options.dir m).exchanges,
        (twoStageGate options.dir m).report (Entry.shown entries (fullLog options.dir m))⟩ := by
  apply interview_programWith_of_filter haccepted
  rw [Log.Filter.choose?, Option.map_some, Log.Filter.ofText_setting]

/-- A run sees the last levels of a setting and no more. -/
theorem interview_program_eq_of_lastLevel?_eq
    (hsame : ∀ target, Entry.lastLevel? entries target = Entry.lastLevel? entries' target)
    (arguments : List String) (m : Machine) :
    (program arguments (some (Entry.setting entries))).interview m =
      (program arguments (some (Entry.setting entries'))).interview m := by
  cases hparse : CommandLine.parse arguments with
  | error stop =>
      rw [interview_program_of_stop hparse, interview_program_of_stop hparse]
  | ok options =>
      rw [interview_program_setting hparse, interview_program_setting hparse,
        Entry.shown_eq_of_lastLevel?_eq hsame]

/-- A run with a setting of entries sees the last level of each target, and nothing else of the
setting. So it stays the same if the entries are put into another order that keeps the one among
those of each target, or if an entry is left out that a later one of the same target follows. If
entries are replaced by others that show as much of the same targets or more, a run asks and reports
the same, and the lines of its log stay, in their order, with others between them. -/
theorem setting_counts_by_last_levels (arguments : List String) (m : Machine) :
    let run entries := (program arguments (some (Entry.setting entries))).interview m
    (∀ entries entries',
      (∀ target, Entry.lastLevel? entries target = Entry.lastLevel? entries' target) →
        run entries = run entries') ∧
    (∀ entries entries' : List Entry,
      (∀ target, entries.filter (·.target = target) = entries'.filter (·.target = target)) →
        run entries = run entries') ∧
    (∀ before (e : Entry) behind, (∃ later ∈ behind, later.target = e.target) →
      run (before ++ e :: behind) = run (before ++ behind)) ∧
    (∀ entries entries', List.Forall₂ Entry.RaisedTo entries entries' →
      (∀ stop, CommandLine.parse arguments = .error stop → run entries = run entries') ∧
      (∀ options, CommandLine.parse arguments = .ok options →
        let stages := twoStageGate options.dir m
        let log := fullLog options.dir m
        run entries = ⟨stages.exchanges, stages.report (Entry.shown entries log)⟩ ∧
          run entries' = ⟨stages.exchanges, stages.report (Entry.shown entries' log)⟩ ∧
          (Entry.shown entries log).Sublist (Entry.shown entries' log))) := by
  intro run
  refine ⟨?same, ?reordered, ?erased, ?raised⟩
  case same =>
    intro entries entries' hsame
    exact interview_program_eq_of_lastLevel?_eq hsame arguments m
  case reordered =>
    intro entries entries' hkept
    apply interview_program_eq_of_lastLevel?_eq
    intro target
    rw [Entry.lastLevel?, hkept, Entry.lastLevel?]
  case erased =>
    rintro before e behind ⟨later, hlater, htarget⟩
    apply interview_program_eq_of_lastLevel?_eq
    intro target
    rw [← Entry.lastLevel?_directives, ← Entry.lastLevel?_directives, List.map_append,
      List.map_cons, List.map_append]
    exact Log.Filter.lastLevel?_erase ⟨_, List.mem_map_of_mem hlater, htarget⟩ target
  case raised =>
    intro entries entries' hraised
    constructor
    · intro stop hstop
      dsimp only [run]
      rw [interview_program_of_stop hstop, interview_program_of_stop hstop]
    · intro options haccepted stages log
      have hsublist := Entry.shown_sublist_of_raised hraised log
      exact ⟨interview_program_setting haccepted entries m,
        interview_program_setting haccepted entries' m, hsublist⟩

/-- The target of the records that the gate makes. -/
def gateTarget : Log.Word where
  text := "nonos_check_image_size::gate"
  ne_empty := by decide
  isWordChar_of_mem := List.all_eq_true.mp (by decide)

/-- Settings with a level alone and levels for the gate, without a kernel. -/
theorem setting_counts_kernelMissing :
    let warn := Entry.level (.ofName .warn)
    let gate level := Entry.assigned gateTarget (.ofNumber level)
    let run entries :=
      (program ["-d", "out"] (some (Entry.setting entries))).interview kernelMissing
    let log := fullLog (some "out") kernelMissing
    let report := "Error: failed to read size of out/kernel.bin\n\n" ++
      "Caused by:\n    No such file or directory (os error 2)\n"
    Entry.setting [warn, gate .debug] = "warn,nonos_check_image_size::gate=4" ∧
      (∀ target, [warn, gate .debug].filter (·.target = target) =
        [gate .debug, warn].filter (·.target = target)) ∧
      (∃ later ∈ [warn, gate .debug], later.target = (gate .off).target) ∧
      List.Forall₂ Entry.RaisedTo [warn, gate .off] [warn, gate .debug] ∧
      CommandLine.parse ["-d", "out"] = .ok ⟨some "out", false⟩ ∧
      run [warn, gate .debug] = run [gate .debug, warn] ∧
      run [gate .off, warn, gate .debug] = run [warn, gate .debug] ∧
      (Entry.shown [warn, gate .off] log).Sublist (Entry.shown [warn, gate .debug] log) ∧
      (run [warn, gate .off]).result.stderr = report ∧
      (run [warn, gate .debug]).result.stderr =
        "DEBUG image fits image=\"loader.bin\" size=2048 sectors=4 budget=4 headroom=0\n" ++
          report := by
  intro warn gate run log report
  have hkept : ∀ target, [warn, gate .debug].filter (·.target = target) =
      [gate .debug, warn].filter (·.target = target) := by
    intro target
    cases target with
    | none => rfl
    | some target =>
        have hwarn : ¬ warn.target = some target := nofun
        simp [List.filter_cons, hwarn]
  have hlater : ∃ later ∈ [warn, gate .debug], later.target = (gate .off).target :=
    ⟨gate .debug, by simp, rfl⟩
  have hraised : List.Forall₂ Entry.RaisedTo [warn, gate .off] [warn, gate .debug] :=
    .cons ⟨rfl, by decide⟩ (.cons ⟨rfl, by decide⟩ .nil)
  have haccepted : CommandLine.parse ["-d", "out"] = .ok ⟨some "out", false⟩ := by rfl
  obtain ⟨-, hreordered, herased, hraise⟩ :=
    setting_counts_by_last_levels ["-d", "out"] kernelMissing
  obtain ⟨hless, hmore, hsublist⟩ := (hraise _ _ hraised).2 _ haccepted
  have hquiet : (run [warn, gate .off]).result.stderr = report :=
    (congrArg (·.result.stderr) hless).trans rfl
  have htalk : (run [warn, gate .debug]).result.stderr =
      "DEBUG image fits image=\"loader.bin\" size=2048 sectors=4 budget=4 headroom=0\n" ++ report :=
    (congrArg (·.result.stderr) hmore).trans rfl
  exact ⟨by decide, hkept, hlater, hraised, haccepted, hreordered _ _ hkept, herased [] _ _ hlater,
    hsublist, hquiet, htalk⟩

/-- A numeral of two digits is a word, and neither the name nor the number of a level, but alone it
is read as one. So it counts with the levels that stand alone, and it matters which of them is
last. -/
theorem padded_number_alone_is_level :
    (∀ c ∈ "05".toList, Log.isWordChar c) ∧ Log.Level.ofName? "05".toList = none ∧
      (∀ level : Log.Level, "05".toList ≠ [Nat.digitChar level.rank]) ∧
      Log.Directive.ofText "05".toList = .ok ⟨none, .none, .trace⟩ ∧
      CommandLine.parse ["-d", "out"] = .ok ⟨some "out", false⟩ ∧
      let run setting := ((program ["-d", "out"] (some setting)).interview kernelMissing).result
      (run "warn,05").stderr =
          "DEBUG image fits image=\"loader.bin\" size=2048 sectors=4 budget=4 headroom=0\n" ++
            (run "05,warn").stderr ∧
        (run "warn,05").stderr ≠ (run "05,warn").stderr := by
  have hword : ∀ c ∈ "05".toList, Log.isWordChar c := List.all_eq_true.mp (by decide)
  have hnumber : ∀ level : Log.Level, "05".toList ≠ [Nat.digitChar level.rank] := by
    intro level hdigits
    simpa using congrArg List.length hdigits
  have haccepted : CommandLine.parse ["-d", "out"] = .ok ⟨some "out", false⟩ := by rfl
  refine ⟨hword, by rfl, hnumber, by rfl, haccepted, ?_⟩
  intro run
  have htalk : (run "warn,05").stderr =
      "DEBUG image fits image=\"loader.bin\" size=2048 sectors=4 budget=4 headroom=0\n" ++
        (run "05,warn").stderr := by rfl
  refine ⟨htalk, fun hsame => ?_⟩
  rw [htalk] at hsame
  simpa using congrArg String.length hsame

end

end SectorGate
