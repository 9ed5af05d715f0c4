import SectorGate.Proofs.CommandLine.Grammar

/-!
# Flags and letters

What flags and letters do to the options that were asked for so far. Whatever is read first settles
a value that stands apart, so a state matters only through the options that it settles to
(`readArgument_of_settlesTo`): `meet`, `attach` and `readLetters` are said in these terms, and no
later proof opens them.
-/

namespace SectorGate.CommandLine

theorem bind_eq_ok_iff {ε α β : Type} {x : Except ε α} {f : α → Except ε β} {b : β} :
    x >>= f = .ok b ↔ ∃ a, x = .ok a ∧ f a = .ok b := by
  cases x with
  | error e =>
      refine iff_of_false (fun hbind => by cases hbind) ?_
      rintro ⟨a, ha, -⟩
      cases ha
  | ok a =>
      refine ⟨fun hbind => ⟨a, rfl, hbind⟩, ?_⟩
      rintro ⟨_, ⟨⟩, hb⟩
      exact hb

/-! ## Flags and shapes -/

namespace Flag

theorem eq_name_of_ofName? {name : List Char} {flag : Flag} (hname : ofName? name = some flag) :
    name = flag.name.toList := by
  have hfound := List.find?_some hname
  exact (beq_iff_eq.mp hfound).symm

theorem eq_letter_of_ofLetter? {c : Char} {flag : Flag} (hletter : ofLetter? c = some flag) :
    c = flag.letter := by
  have hfound := List.find?_some hletter
  exact (beq_iff_eq.mp hfound).symm

end Flag

namespace Shape

theorem eq_of_of_long {text name : List Char} {value : Option (List Char)}
    (hshape : of text = .long name value) :
    text = '-' :: '-' :: (name ++ value.elim [] ('=' :: ·)) := by
  unfold of at hshape
  split at hshape
  · next rest =>
    have hsplit := List.takeWhile_append_dropWhile (p := (· ≠ '=')) (l := rest)
    have hhead := List.head?_dropWhile_not (· ≠ '=') rest
    split at hshape
    · next hdrop =>
      cases hshape
      simp
    · next c value hdrop =>
      cases hshape
      rw [hdrop] at hsplit hhead
      obtain rfl : c = '=' := by simpa using hhead
      exact congrArg ('-' :: '-' :: ·) hsplit.symm
  · cases hshape
  · cases hshape

theorem eq_of_of_letters {text rest : List Char} {first : Char}
    (hshape : of text = .letters first rest) : text = '-' :: first :: rest := by
  unfold of at hshape
  split at hshape
  · split at hshape <;> cases hshape
  · cases hshape
    rfl
  · cases hshape

theorem of_eq_plain_iff {text : List Char} :
    of text = .plain ↔ text = ['-'] ∨ text.head? ≠ some '-' := by
  unfold of
  split
  · split <;> simp
  · simp
  · next hlong hletters =>
    refine iff_of_true rfl ?_
    cases text with
    | nil => simp
    | cons c text =>
        cases text with
        | nil => by_cases hc : c = '-' <;> simp [hc]
        | cons d text =>
            right
            rintro hc
            obtain rfl := Option.some.inj hc
            exact hletters d text rfl

end Shape

namespace Progress

variable {p q : Progress} {o : Options}

/-! ## Settling -/

/-- The options that a state stands for once the value that stands apart was looked at. -/
def SettlesTo (p : Progress) (o : Options) : Prop := p.settle = .ok ⟨o, .nothing⟩

theorem settlesTo_of_settle (hsettle : p.settle = .ok q) :
    q = ⟨q.toOptions, .nothing⟩ ∧ p.SettlesTo q.toOptions := by
  have hnothing : q.pending = .nothing := by
    unfold settle at hsettle
    split at hsettle
    · next hpending =>
      cases hsettle
      exact hpending
    · cases hsettle
    · split at hsettle
      · cases hsettle
      · split at hsettle
        · cases hsettle
        · cases hsettle
          rfl
  obtain ⟨o, pending⟩ := q
  obtain rfl : pending = .nothing := hnothing
  exact ⟨rfl, hsettle⟩

@[simp] theorem settlesTo_nothing_iff {o' : Options} :
    (⟨o, .nothing⟩ : Progress).SettlesTo o' ↔ o' = o := by
  simp [SettlesTo, settle, eq_comm]

@[simp] theorem not_settlesTo_awaited {o' : Options} :
    ¬ (⟨o, .awaited⟩ : Progress).SettlesTo o' := by
  simp [SettlesTo, settle]

theorem settlesTo_given_iff {o' : Options} {value : String} :
    (⟨o, .given value⟩ : Progress).SettlesTo o' ↔
      o.dir = none ∧ value ≠ "" ∧ o' = ⟨some value, o.verbose⟩ := by
  constructor
  · intro hsettles
    unfold SettlesTo settle at hsettles
    dsimp only at hsettles
    split at hsettles
    · cases hsettles
    · next hdir =>
      split at hsettles
      · cases hsettles
      · next hvalue =>
        cases hsettles
        exact ⟨by simpa using hdir, hvalue, rfl⟩
  · rintro ⟨hdir, hvalue, rfl⟩
    exact settle_of_given rfl hdir hvalue

/-! ## Flags -/

theorem meet_of_settlesTo (hsettles : p.SettlesTo o) (flag : Flag) :
    p.meet flag = (⟨o, .nothing⟩ : Progress).meet flag := by
  unfold SettlesTo at hsettles
  simp only [meet, hsettles]
  rfl

theorem attach_of_settlesTo (hsettles : p.SettlesTo o) (value : List Char) :
    p.attach value = (⟨o, .nothing⟩ : Progress).attach value := by
  unfold SettlesTo at hsettles
  simp only [attach, hsettles]
  rfl

theorem exists_settlesTo_of_meet {flag : Flag} (hmeet : p.meet flag = .ok q) :
    ∃ o, p.SettlesTo o := by
  obtain ⟨p', hsettle, -⟩ := bind_eq_ok_iff.mp hmeet
  exact ⟨_, (settlesTo_of_settle hsettle).2⟩

theorem meet_dir_eq_ok_iff :
    p.meet .dir = .ok q ↔ ∃ o, p.SettlesTo o ∧ q = ⟨o, .awaited⟩ := by
  constructor
  · intro hmeet
    obtain ⟨o, hsettles⟩ := exists_settlesTo_of_meet hmeet
    rw [meet_of_settlesTo hsettles] at hmeet
    cases hmeet
    exact ⟨o, hsettles, rfl⟩
  · rintro ⟨o, hsettles, rfl⟩
    rw [meet_of_settlesTo hsettles]
    rfl

theorem meet_verbose_eq_ok_iff :
    p.meet .verbose = .ok q ↔
      ∃ o, p.SettlesTo o ∧ o.verbose = false ∧ q = ⟨⟨o.dir, true⟩, .nothing⟩ := by
  constructor
  · intro hmeet
    obtain ⟨o, hsettles⟩ := exists_settlesTo_of_meet hmeet
    rw [meet_of_settlesTo hsettles] at hmeet
    obtain ⟨dir, verbose⟩ := o
    cases verbose with
    | true => cases hmeet
    | false =>
        cases hmeet
        exact ⟨_, hsettles, rfl, rfl⟩
  · rintro ⟨⟨dir, verbose⟩, hsettles, hverbose, rfl⟩
    obtain rfl : verbose = false := hverbose
    rw [meet_of_settlesTo hsettles]
    rfl

theorem eq_dir_or_verbose_of_meet {flag : Flag} (hmeet : p.meet flag = .ok q) :
    flag = .dir ∨ flag = .verbose := by
  obtain ⟨o, hsettles⟩ := exists_settlesTo_of_meet hmeet
  rw [meet_of_settlesTo hsettles] at hmeet
  cases flag with
  | dir => exact .inl rfl
  | verbose => exact .inr rfl
  | help => cases hmeet
  | version => cases hmeet

theorem ofList_ne_iff {cs : List Char} {text : String} :
    String.ofList cs ≠ text ↔ cs ≠ text.toList := by
  rw [ne_eq, ne_eq, ← String.toList_inj, String.toList_ofList]

theorem attach_eq_ok_iff {value : List Char} :
    p.attach value = .ok q ↔
      ∃ o, p.SettlesTo o ∧ o.dir = none ∧ value ≠ [] ∧
        q = ⟨⟨some (String.ofList value), o.verbose⟩, .nothing⟩ := by
  constructor
  · intro hattach
    obtain ⟨p', hsettle, hgiven⟩ := bind_eq_ok_iff.mp hattach
    obtain ⟨hp', hsettles⟩ := settlesTo_of_settle hsettle
    obtain ⟨hq, hgiven⟩ := settlesTo_of_settle hgiven
    obtain ⟨hdir, hvalue, ho⟩ := settlesTo_given_iff.mp hgiven
    exact ⟨_, hsettles, hdir, ofList_ne_iff.mp hvalue, by rw [hq, ho]⟩
  · rintro ⟨o, hsettles, hdir, hvalue, rfl⟩
    refine bind_eq_ok_iff.mpr ⟨_, hsettles, ?_⟩
    exact settlesTo_given_iff.mpr ⟨hdir, ofList_ne_iff.mpr hvalue, rfl⟩

/-! ## Letters -/

theorem attachedValue_ne_nil_iff {text : List Char} :
    attachedValue text ≠ [] ↔ text ≠ [] ∧ text ≠ ['='] := by
  unfold attachedValue
  split <;> simp_all

theorem ofList_attachedValue (text : List Char) :
    String.ofList (attachedValue text) = withoutEquals (String.ofList text) := by
  cases text with
  | nil => simp [attachedValue, withoutEquals]
  | cons c rest => by_cases hc : c = '=' <;> simp [attachedValue, withoutEquals, hc]

theorem readLetters_dir_eq_ok_iff {rest : List Char} :
    p.readLetters ('d' :: rest) = .ok q ↔
      ∃ o, p.SettlesTo o ∧
        (rest = [] ∧ q = ⟨o, .awaited⟩ ∨
          rest ≠ [] ∧ rest ≠ ['='] ∧ o.dir = none ∧
            q = ⟨⟨some (withoutEquals (String.ofList rest)), o.verbose⟩, .nothing⟩) := by
  have hletter : Flag.ofLetter? 'd' = some .dir := Flag.ofLetter?_letter .dir
  cases rest with
  | nil =>
      have hread : p.readLetters ['d'] = p.meet .dir := by simp [readLetters, hletter]
      simp [hread, meet_dir_eq_ok_iff]
  | cons c rest =>
      have hread : p.readLetters ('d' :: c :: rest) = p.attach (attachedValue (c :: rest)) := by
        simp [readLetters, hletter]
      rw [hread, attach_eq_ok_iff]
      simp only [attachedValue_ne_nil_iff, ofList_attachedValue]
      constructor
      · rintro ⟨o, hsettles, hdir, ⟨hne, hequals⟩, rfl⟩
        exact ⟨o, hsettles, .inr ⟨hne, hequals, hdir, rfl⟩⟩
      · rintro ⟨o, hsettles, ⟨hnil, -⟩ | ⟨hne, hequals, hdir, rfl⟩⟩
        · cases hnil
        · exact ⟨o, hsettles, hdir, ⟨hne, hequals⟩, rfl⟩

theorem readLetters_verbose_eq_ok_iff {rest : List Char} :
    p.readLetters ('v' :: rest) = .ok q ↔
      ∃ o, p.SettlesTo o ∧ o.verbose = false ∧
        (⟨⟨o.dir, true⟩, .nothing⟩ : Progress).readLetters rest = .ok q := by
  have hletter : Flag.ofLetter? 'v' = some .verbose := Flag.ofLetter?_letter .verbose
  have hread : p.readLetters ('v' :: rest) = p.meet .verbose >>= (·.readLetters rest) := by
    simp [readLetters, hletter]
  rw [hread, bind_eq_ok_iff]
  constructor
  · rintro ⟨p', hmeet, hrest⟩
    obtain ⟨o, hsettles, hverbose, rfl⟩ := meet_verbose_eq_ok_iff.mp hmeet
    exact ⟨o, hsettles, hverbose, hrest⟩
  · rintro ⟨o, hsettles, hverbose, hrest⟩
    exact ⟨_, meet_verbose_eq_ok_iff.mpr ⟨o, hsettles, hverbose, rfl⟩, hrest⟩

theorem eq_letter_of_readLetters {c : Char} {rest : List Char}
    (hread : p.readLetters (c :: rest) = .ok q) : c = 'd' ∨ c = 'v' := by
  unfold readLetters at hread
  split at hread
  · cases hread
  · next hletter => exact .inl (Flag.eq_letter_of_ofLetter? hletter)
  · next flag hdir hletter =>
    obtain rfl := Flag.eq_letter_of_ofLetter? hletter
    obtain ⟨p', hmeet, -⟩ := bind_eq_ok_iff.mp hread
    exact (eq_dir_or_verbose_of_meet hmeet).imp (congrArg Flag.letter) (congrArg Flag.letter)

/-! ## States that settle to the same options -/

theorem pending_ne_awaited_of_settlesTo (hsettles : p.SettlesTo o) : p.pending ≠ .awaited := by
  intro hawaited
  cases hsettles.symm.trans (settle_of_awaited hawaited)

theorem readLong_of_settlesTo (hsettles : p.SettlesTo o) (name : List Char)
    (value : Option (List Char)) :
    p.readLong name value = (⟨o, .nothing⟩ : Progress).readLong name value := by
  unfold readLong
  split
  · rfl
  · exact meet_of_settlesTo hsettles _
  · exact attach_of_settlesTo hsettles _
  · rfl

theorem readLetters_of_settlesTo (hsettles : p.SettlesTo o) (first : Char) (rest : List Char) :
    p.readLetters (first :: rest) = (⟨o, .nothing⟩ : Progress).readLetters (first :: rest) := by
  unfold readLetters
  split
  · rfl
  · split
    · exact meet_of_settlesTo hsettles _
    · exact attach_of_settlesTo hsettles _
  · rw [meet_of_settlesTo hsettles]

theorem readArgument_of_settlesTo (hsettles : p.SettlesTo o) (argument : String) :
    p.readArgument argument = (⟨o, .nothing⟩ : Progress).readArgument argument := by
  unfold readArgument
  split
  · exact readLong_of_settlesTo hsettles _ _
  · exact readLetters_of_settlesTo hsettles _ _
  · rw [readPlain, readPlain, if_neg (pending_ne_awaited_of_settlesTo hsettles), if_neg nofun]

end Progress

end SectorGate.CommandLine
