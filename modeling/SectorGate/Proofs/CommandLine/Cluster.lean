import SectorGate.Proofs.CommandLine.Spelling

/-!
# Clusters of letters

The letters of several flags can stand in one argument, and the directory flag can close the row
with its value behind it. Such an argument is read like its flags one by one: a letter whose flag
takes no value leaves the reader in a state from which the next letter is read in the same way,
whether it stands in the same argument (`readLetters_append`) or in the next
(`read_map_letterArgument`). The state may be any at all, so it does not matter what was read
before, also if a value is awaited.
-/

namespace SectorGate.CommandLine

/-- Whether a character is the letter of a flag that takes no value. -/
def IsSwitch (c : Char) : Prop := ∃ flag : Flag, flag ≠ .dir ∧ c = flag.letter

/-- The argument that holds one letter. -/
def letterArgument (c : Char) : String := "-" ++ String.singleton c

theorem isSwitch_of_mem {c : Char} (hc : c ∈ ['v', 'h', 'V']) : IsSwitch c := by
  simp only [List.mem_cons, List.not_mem_nil, or_false] at hc
  obtain rfl | rfl | rfl := hc
  · exact ⟨.verbose, nofun, rfl⟩
  · exact ⟨.help, nofun, rfl⟩
  · exact ⟨.version, nofun, rfl⟩

theorem IsSwitch.ne_hyphen {c : Char} (hc : IsSwitch c) : c ≠ '-' := by
  obtain ⟨flag, -, rfl⟩ := hc
  cases flag <;> decide

theorem toList_letterArgument (c : Char) : (letterArgument c).toList = ['-', c] := by
  simp [letterArgument]

theorem Shape.of_letters {first : Char} (hfirst : first ≠ '-') (rest : List Char) :
    Shape.of ('-' :: first :: rest) = .letters first rest := by
  unfold of
  split
  · next hshape =>
    cases hshape
    exact absurd rfl hfirst
  · next hshape =>
    cases hshape
    rfl
  · next hletters => exact absurd rfl (hletters first rest)

namespace Progress

variable {p : Progress} {argument : String} {letters rest : List Char}

def readLetter (p : Progress) (c : Char) : Except Stop Progress :=
  p.readLetters [c]

/-! ## Letters in one argument -/

theorem readLetters_cons_of_isSwitch {c : Char} (hc : IsSwitch c) (p : Progress)
    (rest : List Char) :
    p.readLetters (c :: rest) = p.readLetter c >>= fun q => q.readLetters rest := by
  obtain ⟨flag, hflag, rfl⟩ := hc
  have hread (rest : List Char) :
      p.readLetters (flag.letter :: rest) = p.meet flag >>= fun q => q.readLetters rest := by
    cases flag with
    | dir => exact absurd rfl hflag
    | verbose => simp [readLetters, Flag.ofLetter?_letter]
    | help => simp [readLetters, Flag.ofLetter?_letter]
    | version => simp [readLetters, Flag.ofLetter?_letter]
  have hdone : (fun q : Progress => q.readLetters []) = pure := rfl
  rw [readLetter, hread rest, hread [], hdone, bind_pure]

theorem readLetters_append (hswitch : ∀ c ∈ letters, IsSwitch c) (p : Progress)
    (rest : List Char) :
    p.readLetters (letters ++ rest) =
      letters.foldlM readLetter p >>= fun q => q.readLetters rest := by
  induction letters generalizing p with
  | nil => rfl
  | cons c letters ih =>
      obtain ⟨hc, hletters⟩ := List.forall_mem_cons.mp hswitch
      rw [List.cons_append, readLetters_cons_of_isSwitch hc, List.foldlM_cons, bind_assoc]
      exact congrArg _ (funext fun q => ih hletters q)

/-! ## Letters in several arguments -/

theorem read_letters {first : Char} (htext : argument.toList = '-' :: first :: rest)
    (hfirst : first ≠ '-') (p : Progress) (later : List String) :
    p.read (argument :: later) = p.readLetters (first :: rest) >>= fun q => q.read later := by
  have hhyphens : argument ≠ "--" := by
    rintro rfl
    cases htext
    exact hfirst rfl
  have hshape : Shape.of argument.toList = .letters first rest := by
    rw [htext, Shape.of_letters hfirst]
  rw [read, if_neg hhyphens, readArgument_of_letters hshape]

theorem read_map_letterArgument (hswitch : ∀ c ∈ letters, IsSwitch c) (p : Progress)
    (later : List String) :
    p.read (letters.map letterArgument ++ later) =
      letters.foldlM readLetter p >>= fun q => q.read later := by
  induction letters generalizing p with
  | nil => rfl
  | cons c letters ih =>
      obtain ⟨hc, hletters⟩ := List.forall_mem_cons.mp hswitch
      rw [List.map_cons, List.cons_append, read_letters (toList_letterArgument c) hc.ne_hyphen,
        List.foldlM_cons, bind_assoc]
      exact congrArg _ (funext fun q => ih hletters q)

/-! ## Clusters -/

/-- A cluster is read letter by letter, and then what stands behind these letters. -/
theorem read_cluster (hswitch : ∀ c ∈ letters, IsSwitch c) (hne : letters ≠ [])
    (htext : argument.toList = '-' :: (letters ++ rest)) (p : Progress) (later : List String) :
    p.read (argument :: later) =
      letters.foldlM readLetter p >>= fun q => q.readLetters rest >>= fun q => q.read later := by
  obtain ⟨c, letters, rfl⟩ := List.exists_cons_of_ne_nil hne
  have hfirst : c ≠ '-' := (hswitch c List.mem_cons_self).ne_hyphen
  have htext : argument.toList = '-' :: c :: (letters ++ rest) := htext
  rw [read_letters htext hfirst, ← List.cons_append, readLetters_append hswitch, bind_assoc]

end Progress

theorem parse_append_congr {pre first second : List String} (hhyphens : "--" ∉ pre)
    (hsame : ∀ p : Progress, p.read first = p.read second) :
    parse (pre ++ first) = parse (pre ++ second) := by
  rw [parse, parse, Progress.read_append hhyphens, Progress.read_append hhyphens]
  exact congrArg _ (funext hsame)

/-- Behind any arguments but the two hyphens and before any arguments at all, a cluster of letters
leads to the same options or to the same stop as its letters one by one. So does a cluster that goes
on with the letter of the directory flag: the value is what stands behind that letter, or else the
next argument. -/
theorem cluster_means_its_letters {pre : List String} (hhyphens : "--" ∉ pre) {word : String}
    (hne : word ≠ "") (hletters : ∀ c ∈ word.toList, c ∈ ['v', 'h', 'V']) (text : String)
    (post : List String) :
    parse (pre ++ ["-" ++ word] ++ post) =
        parse (pre ++ word.toList.map letterArgument ++ post) ∧
      parse (pre ++ ["-" ++ word ++ "d" ++ text] ++ post) =
        parse (pre ++ word.toList.map letterArgument ++ ["-d" ++ text] ++ post) := by
  have hswitch : ∀ c ∈ word.toList, IsSwitch c := fun c hc => isSwitch_of_mem (hletters c hc)
  have hnil : word.toList ≠ [] := fun hnil => hne (String.toList_injective hnil)
  simp only [List.append_assoc]
  constructor
  · apply parse_append_congr hhyphens
    intro p
    have htext : ("-" ++ word).toList = '-' :: (word.toList ++ []) := by
      simp [String.toList_append]
    rw [Progress.read_map_letterArgument hswitch]
    exact Progress.read_cluster hswitch hnil htext p post
  · apply parse_append_congr hhyphens
    intro p
    have htext : ("-" ++ word ++ "d" ++ text).toList =
        '-' :: (word.toList ++ 'd' :: text.toList) := by
      simp [String.toList_append]
    have htail : ("-d" ++ text).toList = '-' :: 'd' :: text.toList := by
      simp [String.toList_append]
    calc p.read (("-" ++ word ++ "d" ++ text) :: post)
        _ = word.toList.foldlM Progress.readLetter p >>= fun q =>
            q.readLetters ('d' :: text.toList) >>= fun q => q.read post :=
          Progress.read_cluster hswitch hnil htext p post
        _ = word.toList.foldlM Progress.readLetter p >>= fun q =>
            q.read (("-d" ++ text) :: post) :=
          congrArg _ (funext fun q => (Progress.read_letters htail (by decide) q post).symm)
        _ = _ := (Progress.read_map_letterArgument hswitch p (("-d" ++ text) :: post)).symm

/-- A cluster that asks for help between two verbose flags, behind a value that nothing has looked
at yet. -/
theorem cluster_help_between :
    "--" ∉ ["--dir", "-"] ∧ "vhv" ≠ "" ∧ (∀ c ∈ "vhv".toList, c ∈ ['v', 'h', 'V']) ∧
      parse ["--dir", "-", "-vhv", "--"] = parse ["--dir", "-", "-v", "-h", "-v", "--"] ∧
      parse ["--dir", "-", "-vhvd=v", "--"] =
        parse ["--dir", "-", "-v", "-h", "-v", "-d=v", "--"] := by
  have hhyphens : "--" ∉ ["--dir", "-"] := by decide
  have hletters : ∀ c ∈ "vhv".toList, c ∈ ['v', 'h', 'V'] := by simp
  obtain ⟨hcluster, hvalue⟩ :=
    cluster_means_its_letters hhyphens (by decide) hletters "=v" ["--"]
  exact ⟨hhyphens, by decide, hletters, hcluster, hvalue⟩

end SectorGate.CommandLine
