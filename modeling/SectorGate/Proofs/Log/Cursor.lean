import SectorGate.Log.Filter

/-!
# Where directives are cut

A directive is cut at places that are counted without the white space in front of it. If there is
none, every place that the reading comes to lies between two characters (`Cursor.IsAligned`), so no
cut fails: the directive is taken or refused, and so is a setting all of whose parts are like this
(`Filter.ofText_ne_brokenCharacter`).
-/

namespace SectorGate.Log

/-- That a reading is refused, or comes to a result with some property. -/
def Returns {α : Type} (x : Except Refusal α) (P : α → Prop) : Prop :=
  match x with
  | .ok a => P a
  | .error refusal => refusal = .malformed

theorem returns_ok {α : Type} {a : α} {P : α → Prop} (ha : P a) :
    Returns (.ok a : Except Refusal α) P := ha

theorem returns_malformed {α : Type} (P : α → Prop) :
    Returns (.error .malformed : Except Refusal α) P := rfl

theorem Returns.bind {α β : Type} {x : Except Refusal α} {f : α → Except Refusal β} {P : α → Prop}
    {Q : β → Prop} (hx : Returns x P) (hf : ∀ a, P a → Returns (f a) Q) : Returns (x >>= f) Q := by
  cases x with
  | error refusal => exact hx
  | ok a => exact hf a hx

theorem returns_ok_bind {α β : Type} {a : α} {f : α → Except Refusal β} {Q : β → Prop}
    (hf : Returns (f a) Q) : Returns (.ok a >>= f) Q := hf

theorem Returns.mapM {α β : Type} {f : α → Except Refusal β} {l : List α}
    (hf : ∀ a ∈ l, Returns (f a) fun _ => True) : Returns (l.mapM f) fun _ => True := by
  induction l with
  | nil => exact returns_ok trivial
  | cons a rest ih =>
      obtain ⟨ha, hrest⟩ := List.forall_mem_cons.mp hf
      rw [List.mapM_cons]
      apply ha.bind
      intro b _
      apply (ih hrest).bind
      intro bs _
      exact returns_ok trivial

theorem Limit.returns_ofText (text : List Char) : Returns (Limit.ofText text) fun _ => True := by
  unfold Limit.ofText
  split
  · split
    · exact returns_malformed _
    · exact returns_ok trivial
  · dsimp only
    split
    · exact returns_ok trivial
    · exact returns_malformed _

namespace Cursor

/-- That the place of a cursor lies between two characters, the second of them the next to be read.
-/
def IsAligned (c : Cursor) : Prop :=
  ∃ before behind, c.text = before ++ (c.rest ++ behind) ∧ c.place = Text.width before

variable {c stop : Cursor}

/-! ## Steps -/

theorem isAligned_start {text : List Char} (hhead : ∀ c ∈ text.head?, Text.isBlank c = false) :
    (start text).IsAligned := by
  obtain ⟨behind, hbehind⟩ := Text.exists_trim_append hhead
  exact ⟨[], behind, hbehind, rfl⟩

theorem IsAligned.skip (haligned : c.IsAligned) : c.skip.IsAligned := by
  obtain ⟨before, behind, htext, hplace⟩ := haligned
  refine ⟨before ++ c.rest.take 1, behind, ?_, ?_⟩
  · rw [Cursor.skip, List.append_assoc, ← List.append_assoc (c.rest.take 1), List.take_append_drop,
      htext]
  · rw [Cursor.skip, Text.width_append, hplace]

theorem IsAligned.seek (haligned : c.IsAligned) (signs : List Char) :
    (c.seek signs).IsAligned := by
  obtain ⟨before, behind, htext, hplace⟩ := haligned
  refine ⟨before ++ c.rest.takeWhile (!signs.contains ·), behind, ?_, ?_⟩
  · rw [Cursor.seek, List.append_assoc, ← List.append_assoc (c.rest.takeWhile _),
      List.takeWhile_append_dropWhile, htext]
  · rw [Cursor.seek, Text.width_append, hplace]

/-! ## Cuts -/

theorem textUpTo_of_width {before piece : List Char} (behind : List Char)
    (htext : c.text = before ++ (piece ++ behind)) (hplace : c.place = Text.width before)
    (hstop : stop.place = Text.width before + Text.width piece) :
    c.textUpTo stop = .ok piece := by
  rw [textUpTo, htext, hplace, hstop, Text.slice?_append]

/-- A piece up to the next sign is what was passed over in looking for it. -/
theorem IsAligned.textUpTo_seek (haligned : c.IsAligned) (signs : List Char) :
    c.textUpTo (c.seek signs) = .ok (c.rest.takeWhile (!signs.contains ·)) := by
  obtain ⟨before, behind, htext, hplace⟩ := haligned
  refine textUpTo_of_width (c.rest.dropWhile (!signs.contains ·) ++ behind) ?_ hplace ?_
  · rw [← List.append_assoc (c.rest.takeWhile _), List.takeWhile_append_dropWhile, htext]
  · rw [Cursor.seek, hplace]

/-- The last piece is what is left, with the white space behind. -/
theorem IsAligned.exists_textUpTo_end (haligned : c.IsAligned) :
    ∃ behind, c.textUpTo { c with place := Text.width c.text } = .ok (c.rest ++ behind) := by
  obtain ⟨before, behind, htext, hplace⟩ := haligned
  refine ⟨behind, textUpTo_of_width [] ?_ hplace ?_⟩
  · rw [List.append_nil, htext]
  · rw [htext, Text.width_append]

/-! ## Readings -/

theorem IsAligned.returns_readLevel (haligned : c.IsAligned) :
    Returns c.readLevel fun _ => True := by
  obtain ⟨behind, hpiece⟩ := haligned.exists_textUpTo_end
  unfold readLevel
  rw [hpiece]
  apply returns_ok_bind
  split
  · exact returns_ok trivial
  · split
    · exact returns_ok trivial
    · exact returns_malformed _

theorem IsAligned.returns_readEnd (haligned : c.IsAligned) : Returns c.readEnd fun _ => True := by
  unfold readEnd
  split
  · exact returns_ok trivial
  · exact haligned.skip.returns_readLevel
  · exact returns_malformed _

theorem IsAligned.returns_readField (haligned : c.IsAligned) :
    Returns c.readField fun result => result.2.IsAligned := by
  have hstop := haligned.seek ['}']
  unfold readField
  dsimp only
  split
  · rw [haligned.textUpTo_seek]
    apply returns_ok_bind
    apply Returns.bind (Limit.returns_ofText _)
    intro limit _
    split
    · exact returns_ok hstop.skip.skip
    · exact returns_malformed _
  · exact returns_malformed _

theorem IsAligned.returns_readLimit (haligned : c.IsAligned) :
    Returns c.readLimit fun result => result.2.IsAligned := by
  have hstop := haligned.seek [']', '{']
  unfold readLimit
  dsimp only
  split
  · rw [haligned.textUpTo_seek]
    exact returns_ok hstop.skip
  · rw [haligned.textUpTo_seek]
    apply returns_ok_bind
    apply Returns.bind hstop.skip.returns_readField
    intro result hresult
    exact returns_ok hresult
  · exact returns_malformed _

end Cursor

/-! ## Directives and settings -/

/-- A directive that does not begin with white space is taken or refused. -/
theorem Directive.returns_ofText {text : List Char}
    (hhead : ∀ c ∈ text.head?, Text.isBlank c = false) :
    Returns (Directive.ofText text) fun _ => True := by
  have hstart := Cursor.isAligned_start hhead
  have hstop := hstart.seek ['=', '[']
  unfold Directive.ofText
  dsimp only
  split
  · -- a limit without a target
    apply Returns.bind hstart.skip.returns_readLimit
    intro result hresult
    apply Returns.bind hresult.returns_readEnd
    intro level _
    exact returns_ok trivial
  · split
    · exact returns_malformed _
    · split
      · -- a level or a target alone: nothing is cut
        split
        · exact returns_ok trivial
        · exact returns_ok trivial
      · -- a target with a level or with a limit behind it
        rw [hstart.textUpTo_seek]
        apply returns_ok_bind
        split
        · apply Returns.bind hstop.skip.returns_readLevel
          intro level _
          exact returns_ok trivial
        · apply Returns.bind hstop.skip.returns_readLimit
          intro result hresult
          apply Returns.bind hresult.returns_readEnd
          intro level _
          exact returns_ok trivial

end SectorGate.Log
