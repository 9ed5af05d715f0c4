import SectorGate.Proofs.Numeral
import SectorGate.Verdict

/-!
# The diagnostic line

The line that tells of an overrun begins with the name of the image as it is, and names may look
like any part of the line. Read from its end the line is still unambiguous: what stands there is
fixed up to the numerals, and a numeral ends at the blank in front of it. The reading takes nothing
but diagnostic lines.
-/

namespace SectorGate.Overrun

/-- The end of every diagnostic line: the sectors are counted in units of their size. -/
def unit : List Char := " * ".toList ++ Text.digits sectorSize.toNat

/-- Reads a diagnostic line from its end: the name, the size and the number of sectors. -/
def decode? (text : String) : Option (String × UInt64 × UInt64) := do
  let counted ← text.toList.dropSuffix? unit
  let (compared, sectorCount) ← Text.wordAtEnd? counted
  let measured ← compared.dropSuffix? " > ".toList
  let (named, size) ← Text.wordAtEnd? measured
  let name ← named.dropSuffix? " size ".toList
  return (String.ofList name, size, sectorCount)

theorem toList_line (o : Overrun) :
    o.line.toList = o.fileName.toList ++ " size ".toList ++ Text.digits o.size.toNat ++
      " > ".toList ++ Text.digits o.sectorCount.toNat ++ unit := by
  simp only [line, String.toList_append, List.append_assoc]
  rfl

theorem dropSuffix?_append (l s : List Char) : (l ++ s).dropSuffix? s = some l :=
  List.dropSuffix?_eq_some_iff.mpr ⟨s, rfl, beq_self_eq_true s⟩

theorem eq_append_of_dropSuffix? {l l' s : List Char} (h : l.dropSuffix? s = some l') :
    l = l' ++ s := by
  obtain ⟨s', hl, hs⟩ := List.dropSuffix?_eq_some_iff.mp h
  rw [hl, eq_of_beq hs]

theorem decode?_line (o : Overrun) :
    decode? o.line = some (o.fileName, o.size, o.sectorCount) := by
  have hsign : (" > ".toList.getLast?).map Char.isDigit = some false := rfl
  have hname : (" size ".toList.getLast?).map Char.isDigit = some false := rfl
  simp only [decode?, toList_line, dropSuffix?_append, Text.wordAtEnd?_append hsign,
    Text.wordAtEnd?_append hname, Option.bind_eq_bind, Option.bind_some, Option.pure_def,
    String.ofList_toList]

theorem eq_line_of_decode? {text name : String} {size sectorCount : UInt64}
    (h : decode? text = some (name, size, sectorCount)) (exitCode : Int32) :
    text = line ⟨name, size, sectorCount, exitCode⟩ := by
  simp only [decode?, Option.bind_eq_bind, Option.bind_eq_some_iff, Option.pure_def,
    Option.some.injEq, Prod.mk.injEq, Prod.exists] at h
  obtain ⟨counted, hunit, compared, count, hcount, measured, hsign, named, number, hnumber, front,
    hfront, rfl, rfl, rfl⟩ := h
  apply String.toList_inj.mp
  rw [toList_line, String.toList_ofList, ← eq_append_of_dropSuffix? hfront,
    ← Text.wordAtEnd?_eq_some hnumber, ← eq_append_of_dropSuffix? hsign,
    ← Text.wordAtEnd?_eq_some hcount, ← eq_append_of_dropSuffix? hunit]

/-- A diagnostic line gives back the name, the size and the number of sectors, whatever the name is
like, and only diagnostic lines give back anything. So two overruns have the same line exactly if
they agree in these three; the exit code does not show. -/
theorem line_decodable (o : Overrun) :
    decode? o.line = some (o.fileName, o.size, o.sectorCount) ∧
      (∀ text, decode? text = some (o.fileName, o.size, o.sectorCount) ↔ text = o.line) ∧
      ∀ other : Overrun, o.line = other.line ↔
        o.fileName = other.fileName ∧ o.size = other.size ∧ o.sectorCount = other.sectorCount := by
  refine ⟨decode?_line o, fun text => ⟨fun h => eq_line_of_decode? h o.exitCode, ?_⟩,
    fun other => ⟨fun hline => ?_, ?_⟩⟩
  · rintro rfl
    exact decode?_line o
  · have hsame := (decode?_line o).symm.trans (hline ▸ decode?_line other)
    simpa using hsame
  · rintro ⟨hname, hsize, hcount⟩
    rw [line, line, hname, hsize, hcount]

/-- A name that ends like a diagnostic line itself is still read whole. -/
example : decode? "boot size 7 > 4 * 512 size 9 > 4 * 512" =
    some ("boot size 7 > 4 * 512", 9, 4) := by decide

end SectorGate.Overrun
