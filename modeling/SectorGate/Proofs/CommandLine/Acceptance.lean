import SectorGate.Program
import SectorGate.Proofs.CommandLine.Progress

/-!
# What the command line accepts

Reading the arguments from left to right accepts the lists of the grammar and no others. The step
from one argument to the next is `readArgument_eq_ok_iff`, and from it the first half is an
induction over the arguments. The other half is one over the tokens, each of which is read as a
whole (`read_token`).
-/

namespace SectorGate.CommandLine

/-- What one argument does to options: it is a token by itself, or a directory flag whose value is
then awaited. -/
inductive Reads (o : Options) : String → Progress → Prop
  | whole (t : Token) {argument : String} {o' : Options} (hargument : t.arguments = [argument])
      (hformed : t.WellFormed) (hnew : t.IsNew o) (hadd : t.addTo o = o') :
      Reads o argument ⟨o', .nothing⟩
  | apart (flag : DirFlag) {o' : Options} (hnew : flag = .cluster → o.verbose = false)
      (hadd : o' = ⟨o.dir, o.verbose || flag = .cluster⟩) :
      Reads o flag.text ⟨o', .awaited⟩

namespace Progress

variable {p q : Progress} {o : Options} {argument : String}

theorem eq_append_of_toList (first : String) {rest : List Char}
    (htext : argument.toList = first.toList ++ rest) :
    argument = first ++ String.ofList rest := by
  rw [← String.toList_inj, htext, String.toList_append, String.toList_ofList]

/-! ## From an argument that is read to its effect -/

theorem reads_of_readLong {name : List Char} {value : Option (List Char)}
    (hargument : argument.toList = '-' :: '-' :: (name ++ value.elim [] ('=' :: ·)))
    (hread : p.readLong name value = .ok q) : ∃ o, p.SettlesTo o ∧ Reads o argument q := by
  unfold readLong at hread
  split at hread
  · cases hread
  · next flag hname =>
    obtain rfl := Flag.eq_name_of_ofName? hname
    cases flag with
    | dir =>
        obtain ⟨o, hsettles, rfl⟩ := meet_dir_eq_ok_iff.mp hread
        obtain rfl : argument = DirFlag.long.text := String.toList_injective hargument
        exact ⟨o, hsettles, .apart .long (by simp) (by simp)⟩
    | verbose =>
        obtain ⟨o, hsettles, hverbose, rfl⟩ := meet_verbose_eq_ok_iff.mp hread
        obtain rfl : argument = "--verbose" := String.toList_injective hargument
        refine ⟨o, hsettles, .whole .verboseLong rfl trivial
          ⟨fun _ => hverbose, by simp [Token.dir?]⟩ ?_⟩
        simp [Token.addTo, Token.dir?, Token.verbose]
    | help => rcases eq_dir_or_verbose_of_meet hread with hflag | hflag <;> cases hflag
    | version => rcases eq_dir_or_verbose_of_meet hread with hflag | hflag <;> cases hflag
  · next value hname =>
    obtain rfl := Flag.eq_name_of_ofName? hname
    obtain ⟨o, hsettles, hdir, hvalue, rfl⟩ := attach_eq_ok_iff.mp hread
    obtain rfl : argument = "--dir=" ++ String.ofList value :=
      eq_append_of_toList "--dir=" hargument
    refine ⟨o, hsettles, .whole (.dirLong (String.ofList value)) rfl ?_
      ⟨by simp [Token.verbose], fun _ => hdir⟩ ?_⟩
    · exact ofList_ne_iff.mpr hvalue
    · simp [Token.addTo, Token.dir?, Token.verbose, hdir]
  · cases hread

theorem reads_of_readLetters {first : Char} {rest : List Char}
    (hargument : argument.toList = '-' :: first :: rest)
    (hread : p.readLetters (first :: rest) = .ok q) :
    ∃ o, p.SettlesTo o ∧ Reads o argument q := by
  rcases eq_letter_of_readLetters hread with rfl | rfl
  · obtain ⟨o, hsettles, ⟨rfl, rfl⟩ | ⟨hne, hequals, hdir, rfl⟩⟩ :=
      readLetters_dir_eq_ok_iff.mp hread
    · obtain rfl : argument = DirFlag.letter.text := String.toList_injective hargument
      exact ⟨o, hsettles, .apart .letter (by simp) (by simp)⟩
    · obtain rfl : argument = "-d" ++ String.ofList rest :=
        eq_append_of_toList "-d" hargument
      refine ⟨o, hsettles, .whole (.dirAttached false (String.ofList rest)) rfl
        ⟨ofList_ne_iff.mpr hne, ofList_ne_iff.mpr hequals⟩
        ⟨by simp [Token.verbose], fun _ => hdir⟩ ?_⟩
      simp [Token.addTo, Token.dir?, Token.verbose, hdir]
  · obtain ⟨o, hsettles, hverbose, hrest⟩ := readLetters_verbose_eq_ok_iff.mp hread
    cases rest with
    | nil =>
        cases hrest
        obtain rfl : argument = "-v" := String.toList_injective hargument
        refine ⟨o, hsettles, .whole .verboseLetter rfl trivial
          ⟨fun _ => hverbose, by simp [Token.dir?]⟩ ?_⟩
        simp [Token.addTo, Token.dir?, Token.verbose]
    | cons second rest =>
        rcases eq_letter_of_readLetters hrest with rfl | rfl
        · obtain ⟨o', hsettles', hrest⟩ := readLetters_dir_eq_ok_iff.mp hrest
          obtain rfl := settlesTo_nothing_iff.mp hsettles'
          obtain ⟨rfl, rfl⟩ | ⟨hne, hequals, hdir, rfl⟩ := hrest
          · obtain rfl : argument = DirFlag.cluster.text := String.toList_injective hargument
            exact ⟨o, hsettles, .apart .cluster (fun _ => hverbose) (by simp)⟩
          · obtain rfl : argument = "-vd" ++ String.ofList rest :=
              eq_append_of_toList "-vd" hargument
            have hdir : o.dir = none := hdir
            refine ⟨o, hsettles, .whole (.dirAttached true (String.ofList rest)) rfl
              ⟨ofList_ne_iff.mpr hne, ofList_ne_iff.mpr hequals⟩
              ⟨fun _ => hverbose, fun _ => hdir⟩ ?_⟩
            simp [Token.addTo, Token.dir?, Token.verbose, hdir]
        · obtain ⟨o', hsettles', hraised, -⟩ := readLetters_verbose_eq_ok_iff.mp hrest
          obtain rfl := settlesTo_nothing_iff.mp hsettles'
          cases hraised

/-! ## From an effect to an argument that is read -/

theorem readArgument_of_long {name : List Char} {value : Option (List Char)}
    (hshape : Shape.of argument.toList = .long name value) :
    p.readArgument argument = p.readLong name value := by
  rw [readArgument, hshape]

theorem readArgument_of_letters {first : Char} {rest : List Char}
    (hshape : Shape.of argument.toList = .letters first rest) :
    p.readArgument argument = p.readLetters (first :: rest) := by
  rw [readArgument, hshape]

theorem readArgument_dirLong {value : String} (hsettles : p.SettlesTo o) (hdir : o.dir = none)
    (hvalue : value ≠ "") :
    p.readArgument ("--dir=" ++ value) = .ok ⟨⟨some value, o.verbose⟩, .nothing⟩ := by
  have hshape : Shape.of ("--dir=" ++ value).toList = .long "dir".toList (some value.toList) := by
    rw [String.toList_append]
    rfl
  have hname : Flag.ofName? "dir".toList = some .dir := Flag.ofName?_name .dir
  rw [readArgument_of_long hshape]
  simp only [readLong, hname]
  refine attach_eq_ok_iff.mpr ⟨o, hsettles, hdir, ?_, by rw [String.ofList_toList]⟩
  exact fun hnil => hvalue (String.toList_injective hnil)

theorem readLetters_dirAttached {text : String} (hsettles : p.SettlesTo o) (hdir : o.dir = none)
    (hne : text ≠ "") (hequals : text ≠ "=") :
    p.readLetters ('d' :: text.toList) =
      .ok ⟨⟨some (withoutEquals text), o.verbose⟩, .nothing⟩ := by
  refine readLetters_dir_eq_ok_iff.mpr ⟨o, hsettles, .inr ⟨?_, ?_, hdir, ?_⟩⟩
  · exact fun hnil => hne (String.toList_injective hnil)
  · exact fun hequal => hequals (String.toList_injective hequal)
  · rw [String.ofList_toList]

theorem readArgument_of_token {t : Token} (hsettles : p.SettlesTo o)
    (hargument : t.arguments = [argument]) (hformed : t.WellFormed) (hnew : t.IsNew o) :
    p.readArgument argument = .ok ⟨t.addTo o, .nothing⟩ := by
  obtain ⟨hverbose, hdirNew⟩ := hnew
  cases t with
  | verboseLong =>
      cases hargument
      have hshape : Shape.of "--verbose".toList = .long "verbose".toList none := rfl
      have hname : Flag.ofName? "verbose".toList = some .verbose := Flag.ofName?_name .verbose
      rw [readArgument_of_long hshape]
      simp only [readLong, hname]
      refine meet_verbose_eq_ok_iff.mpr ⟨o, hsettles, hverbose rfl, ?_⟩
      simp [Token.addTo, Token.dir?, Token.verbose]
  | verboseLetter =>
      cases hargument
      have hshape : Shape.of "-v".toList = .letters 'v' [] := rfl
      rw [readArgument_of_letters hshape]
      refine readLetters_verbose_eq_ok_iff.mpr ⟨o, hsettles, hverbose rfl, ?_⟩
      simp [readLetters, Token.addTo, Token.dir?, Token.verbose]
  | dirLong value =>
      cases hargument
      have hdir : o.dir = none := hdirNew rfl
      rw [readArgument_dirLong hsettles hdir hformed]
      simp [Token.addTo, Token.dir?, Token.verbose, hdir]
  | dirApart flag value => cases hargument
  | dirAttached cluster text =>
      obtain ⟨hne, hequals⟩ := hformed
      have hdir : o.dir = none := hdirNew rfl
      cases cluster with
      | false =>
          cases hargument
          have hshape : Shape.of ("-d" ++ text).toList = .letters 'd' text.toList := by
            rw [String.toList_append]
            rfl
          refine (readArgument_of_letters hshape).trans ?_
          rw [readLetters_dirAttached hsettles hdir hne hequals]
          simp [Token.addTo, Token.dir?, Token.verbose, hdir]
      | true =>
          cases hargument
          have hshape : Shape.of ("-vd" ++ text).toList = .letters 'v' ('d' :: text.toList) := by
            rw [String.toList_append]
            rfl
          have hraised : (⟨⟨o.dir, true⟩, .nothing⟩ : Progress).SettlesTo ⟨o.dir, true⟩ :=
            settlesTo_nothing_iff.mpr rfl
          refine (readArgument_of_letters hshape).trans ?_
          refine readLetters_verbose_eq_ok_iff.mpr ⟨o, hsettles, hverbose rfl, ?_⟩
          rw [readLetters_dirAttached hraised hdir hne hequals]
          simp [Token.addTo, Token.dir?, Token.verbose, hdir]

theorem readArgument_of_reads (hsettles : p.SettlesTo o) (hreads : Reads o argument q) :
    p.readArgument argument = .ok q := by
  cases hreads with
  | @whole t argument o' hargument hformed hnew hadd =>
      subst hadd
      exact readArgument_of_token hsettles hargument hformed hnew
  | apart flag hnew hadd =>
      subst hadd
      cases flag with
      | long =>
          have hshape : Shape.of DirFlag.long.text.toList = .long "dir".toList none := rfl
          have hname : Flag.ofName? "dir".toList = some .dir := Flag.ofName?_name .dir
          rw [readArgument_of_long hshape]
          simp only [readLong, hname]
          exact meet_dir_eq_ok_iff.mpr ⟨o, hsettles, by simp⟩
      | letter =>
          have hshape : Shape.of DirFlag.letter.text.toList = .letters 'd' [] := rfl
          rw [readArgument_of_letters hshape]
          exact readLetters_dir_eq_ok_iff.mpr ⟨o, hsettles, .inl ⟨rfl, by simp⟩⟩
      | cluster =>
          have hshape : Shape.of DirFlag.cluster.text.toList = .letters 'v' ['d'] := rfl
          have hraised : (⟨⟨o.dir, true⟩, .nothing⟩ : Progress).SettlesTo ⟨o.dir, true⟩ :=
            settlesTo_nothing_iff.mpr rfl
          rw [readArgument_of_letters hshape]
          refine readLetters_verbose_eq_ok_iff.mpr ⟨o, hsettles, hnew rfl, ?_⟩
          exact readLetters_dir_eq_ok_iff.mpr ⟨_, hraised, .inl ⟨rfl, by simp⟩⟩

/-- One argument is read for its effect, or as the value that is awaited. -/
theorem readArgument_eq_ok_iff :
    p.readArgument argument = .ok q ↔
      (∃ o, p.SettlesTo o ∧ Reads o argument q) ∨
        (p.pending = .awaited ∧ (argument = "-" ∨ argument.toList.head? ≠ some '-') ∧
          q = ⟨p.toOptions, .given argument⟩) := by
  constructor
  · intro hread
    unfold readArgument at hread
    split at hread
    · next name value hshape =>
      exact .inl (reads_of_readLong (Shape.eq_of_of_long hshape) hread)
    · next first rest hshape =>
      exact .inl (reads_of_readLetters (Shape.eq_of_of_letters hshape) hread)
    · next hshape =>
      unfold readPlain at hread
      split at hread
      · next hawaited =>
        cases hread
        refine .inr ⟨hawaited, (Shape.of_eq_plain_iff.mp hshape).imp_left ?_, rfl⟩
        exact fun htext => String.toList_injective htext
      · cases hread
  · rintro (⟨o, hsettles, hreads⟩ | ⟨hawaited, hvalue, rfl⟩)
    · exact readArgument_of_reads hsettles hreads
    · have hshape : Shape.of argument.toList = .plain :=
        Shape.of_eq_plain_iff.mpr (hvalue.imp_left fun hlone => by rw [hlone]; rfl)
      rw [readArgument, hshape]
      exact if_pos hawaited

/-! ## From the first argument to the last -/

theorem finish_eq_ok_iff : p.finish = .ok o ↔ p.SettlesTo o := by
  constructor
  · intro hfinish
    cases hsettle : p.settle with
    | error stop =>
        rw [finish, hsettle] at hfinish
        cases hfinish
    | ok q =>
        rw [finish, hsettle] at hfinish
        cases hfinish
        exact (settlesTo_of_settle hsettle).2
  · intro hsettles
    unfold SettlesTo at hsettles
    rw [finish, hsettles]
    rfl

theorem ne_hyphens_of_readArgument (hread : p.readArgument argument = .ok q) :
    argument ≠ "--" := by
  rintro rfl
  have hshape : Shape.of "--".toList = .long [] none := rfl
  have hname : Flag.ofName? [] = none := rfl
  rw [readArgument_of_long hshape] at hread
  simp only [readLong, hname] at hread
  cases hread

theorem read_cons_eq_ok_iff {rest : List String} {options : Options} :
    p.read (argument :: rest) = .ok options ↔
      (∃ q, p.readArgument argument = .ok q ∧ q.read rest = .ok options) ∨
        (argument = "--" ∧ rest = [] ∧ p.finish = .ok options) := by
  constructor
  · intro hread
    unfold read at hread
    split at hread
    · next hhyphens =>
      right
      cases rest with
      | nil => exact ⟨hhyphens, rfl, hread⟩
      | cons extra rest => cases hread
    · exact .inl (bind_eq_ok_iff.mp hread)
  · rintro (⟨q, hstep, hrest⟩ | ⟨rfl, rfl, hfinish⟩)
    · rw [read, if_neg (ne_hyphens_of_readArgument hstep)]
      exact bind_eq_ok_iff.mpr ⟨q, hstep, hrest⟩
    · exact hfinish

/-- The argument lists that a state leads to some options: those of the grammar from the options
that it settles to, after a value if one is awaited. -/
def Accepts (p : Progress) (arguments : List String) (options : Options) : Prop :=
  (∃ o, p.SettlesTo o ∧ SpellsFrom o arguments options) ∨
    (p.pending = .awaited ∧ ∃ value rest, arguments = value :: rest ∧
      (value = "-" ∨ value.toList.head? ≠ some '-') ∧
      ∃ o, (⟨p.toOptions, .given value⟩ : Progress).SettlesTo o ∧ SpellsFrom o rest options)

theorem spellsFrom_of_reads {rest : List String} {options : Options} (hreads : Reads o argument q)
    (hrest : q.Accepts rest options) : SpellsFrom o (argument :: rest) options := by
  cases hreads with
  | @whole t argument o' hargument hformed hnew hadd =>
      subst hadd
      obtain ⟨o', hsettles, hspells⟩ | ⟨hawaited, -⟩ := hrest
      · obtain rfl := settlesTo_nothing_iff.mp hsettles
        have htoken := SpellsFrom.token t hformed hnew hspells
        rwa [hargument] at htoken
      · cases hawaited
  | apart flag hnew hadd =>
      subst hadd
      obtain ⟨o', hsettles, -⟩ | ⟨-, value, rest, rfl, hvalue, o', hsettles, hspells⟩ := hrest
      · exact absurd hsettles not_settlesTo_awaited
      · obtain ⟨hdir, hne, rfl⟩ := settlesTo_given_iff.mp hsettles
        have hdir : o.dir = none := hdir
        refine .token (.dirApart flag value) ⟨hne, hvalue⟩ ⟨?_, fun _ => hdir⟩ ?_
        · exact fun hcluster => hnew (of_decide_eq_true hcluster)
        · simpa [Token.addTo, Token.dir?, Token.verbose, hdir] using hspells

theorem accepts_of_read {arguments : List String} {options : Options}
    (hread : p.read arguments = .ok options) : p.Accepts arguments options := by
  induction arguments generalizing p with
  | nil => exact .inl ⟨options, finish_eq_ok_iff.mp hread, .done⟩
  | cons argument rest ih =>
      obtain ⟨q, hstep, hrest⟩ | ⟨rfl, rfl, hfinish⟩ := read_cons_eq_ok_iff.mp hread
      · have hrest := ih hrest
        obtain ⟨o, hsettles, hreads⟩ | ⟨hawaited, hvalue, rfl⟩ :=
          readArgument_eq_ok_iff.mp hstep
        · exact .inl ⟨o, hsettles, spellsFrom_of_reads hreads hrest⟩
        · obtain hspells | ⟨hpending, -⟩ := hrest
          · exact .inr ⟨hawaited, argument, rest, rfl, hvalue, hspells⟩
          · cases hpending
      · exact .inl ⟨options, finish_eq_ok_iff.mp hfinish, .ended⟩

/-- A state reads whatever follows as the options do that it settles to. -/
theorem read_of_settlesTo (hsettles : p.SettlesTo o) (arguments : List String) :
    p.read arguments = (⟨o, .nothing⟩ : Progress).read arguments := by
  have hfinish : p.finish = (⟨o, .nothing⟩ : Progress).finish := by
    rw [finish_eq_ok_iff.mpr hsettles, finish_eq_ok_iff.mpr (settlesTo_nothing_iff.mpr rfl)]
  cases arguments with
  | nil => exact hfinish
  | cons argument rest =>
      rw [read, read, hfinish, readArgument_of_settlesTo hsettles]

theorem read_cons_of_readArgument (hread : p.readArgument argument = .ok q) (rest : List String) :
    p.read (argument :: rest) = q.read rest := by
  rw [read, if_neg (ne_hyphens_of_readArgument hread), hread]
  rfl

/-- A token that asks for something new is read as a whole, whatever follows it. -/
theorem read_token {t : Token} (hsettles : p.SettlesTo o) (hformed : t.WellFormed)
    (hnew : t.IsNew o) (rest : List String) :
    p.read (t.arguments ++ rest) = (⟨t.addTo o, .nothing⟩ : Progress).read rest := by
  have hwhole {argument : String} (hargument : t.arguments = [argument]) :
      p.read (t.arguments ++ rest) = (⟨t.addTo o, .nothing⟩ : Progress).read rest := by
    rw [hargument]
    exact read_cons_of_readArgument (readArgument_of_token hsettles hargument hformed hnew) rest
  cases t with
  | verboseLong => exact hwhole rfl
  | verboseLetter => exact hwhole rfl
  | dirLong value => exact hwhole rfl
  | dirAttached cluster text => exact hwhole rfl
  | dirApart flag value =>
      obtain ⟨hne, hvalue⟩ := hformed
      have hdir : o.dir = none := hnew.2 rfl
      have hnewFlag : flag = .cluster → o.verbose = false :=
        fun hcluster => hnew.1 (decide_eq_true hcluster)
      let raised : Options := ⟨o.dir, o.verbose || flag = .cluster⟩
      have hflag : p.readArgument flag.text = .ok ⟨raised, .awaited⟩ :=
        readArgument_of_reads hsettles (.apart flag hnewFlag rfl)
      have hgiven : (⟨raised, .awaited⟩ : Progress).readArgument value =
          .ok ⟨raised, .given value⟩ := readArgument_eq_ok_iff.mpr (.inr ⟨rfl, hvalue, rfl⟩)
      have hsettled : (⟨raised, .given value⟩ : Progress).SettlesTo
          ((Token.dirApart flag value).addTo o) := by
        refine settlesTo_given_iff.mpr ⟨hdir, hne, ?_⟩
        simp [raised, Token.addTo, Token.dir?, Token.verbose, hdir]
      calc p.read (flag.text :: value :: rest)
          _ = (⟨raised, .awaited⟩ : Progress).read (value :: rest) :=
            read_cons_of_readArgument hflag _
          _ = (⟨raised, .given value⟩ : Progress).read rest := read_cons_of_readArgument hgiven rest
          _ = _ := read_of_settlesTo hsettled rest

theorem read_of_spellsFrom {arguments : List String} {options : Options}
    (hspells : SpellsFrom o arguments options) (hsettles : p.SettlesTo o) :
    p.read arguments = .ok options := by
  induction hspells generalizing p with
  | done => exact finish_eq_ok_iff.mpr hsettles
  | ended => exact finish_eq_ok_iff.mpr hsettles
  | token t hformed hnew hrest ih =>
      rw [read_token hsettles hformed hnew]
      exact ih (settlesTo_nothing_iff.mpr rfl)

end Progress

theorem parse_eq_ok_iff_spellsFrom {arguments : List String} {options : Options} :
    parse arguments = .ok options ↔ SpellsFrom ⟨none, false⟩ arguments options := by
  have hstart : Progress.start.SettlesTo ⟨none, false⟩ := Progress.settlesTo_nothing_iff.mpr rfl
  constructor
  · intro hread
    obtain ⟨o, hsettles, hspells⟩ | ⟨hawaited, -⟩ := Progress.accepts_of_read hread
    · obtain rfl := Progress.settlesTo_nothing_iff.mp hsettles
      exact hspells
    · cases hawaited
  · exact fun hspells => Progress.read_of_spellsFrom hspells hstart

theorem interview_programWith_of_stop {arguments : List String} {stop : Stop}
    (hstop : parse arguments = .error stop) (read : String → Except Log.Refusal Log.Filter)
    (setting : Option String) (m : Machine) :
    (programWith read arguments setting).interview m = ⟨[], .ofStop stop⟩ := by
  simp only [programWith, hstop, Inquiry.interview_done]

/-- The argument lists of the grammar ask for a run with just the options that they spell. Any other
list leads to help, to the version or to a usage error, with no question put to the machine. -/
theorem parse_accepts_exactly_spelled (arguments : List String) :
    (∀ options, parse arguments = .ok options ↔ Spells arguments options) ∧
      ((∃ options, Spells arguments options) ∨
        ∃ stop, parse arguments = .error stop ∧
          ∀ (read : String → Except Log.Refusal Log.Filter) (setting : Option String) (m : Machine),
            let run := (programWith read arguments setting).interview m
            run.exchanges = [] ∧
              ((stop = .help ∨ stop = .version) ∧ run.result.status = 0 ∨
                (∃ error, stop = .usage error) ∧ run.result.status = 2)) := by
  have hspells (options : Options) : parse arguments = .ok options ↔ Spells arguments options :=
    parse_eq_ok_iff_spellsFrom.trans spells_iff_spellsFrom.symm
  refine ⟨hspells, ?_⟩
  cases hparse : parse arguments with
  | ok options => exact .inl ⟨options, (hspells options).mp hparse⟩
  | error stop =>
      refine .inr ⟨stop, rfl, fun read setting m => ?_⟩
      rw [interview_programWith_of_stop hparse]
      refine ⟨rfl, ?_⟩
      cases stop with
      | help => exact .inl ⟨.inl rfl, rfl⟩
      | version => exact .inl ⟨.inr rfl, rfl⟩
      | usage error => exact .inr ⟨⟨error, rfl⟩, rfl⟩

end SectorGate.CommandLine
