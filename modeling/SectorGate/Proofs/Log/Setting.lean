import SectorGate.Proofs.Log.Interference

/-!
# The log setting

A log setting is a row of parts with commas between them. It is taken if all parts are directives,
and then the verbose flag has no effect. If one part is no directive, wherever it stands, the whole
setting has no effect, and the verbose flag alone decides between the full log and no log.

The reading of directives is the affair of a library, which is taken to answer with a filter or a
refusal. `Log.Filter.ofText_ne_brokenCharacter` says of which settings this is certain.
-/

namespace SectorGate

namespace Log

theorem Filter.ofText_intercalate {parts : List String}
    (hparts : ∀ part ∈ parts, part ≠ "" ∧ ',' ∉ part.toList) :
    Filter.ofText (",".intercalate parts) = (parts.map String.toList).mapM Directive.ofText := by
  cases parts with
  | nil => rfl
  | cons first rest =>
      have hcommas : ∀ l ∈ (first :: rest).map String.toList, ',' ∉ l := by
        intro l hl
        obtain ⟨part, hpart, rfl⟩ := List.mem_map.mp hl
        exact (hparts part hpart).2
      have hfull : ((first :: rest).map String.toList).filter (· ≠ []) =
          (first :: rest).map String.toList := by
        rw [List.filter_eq_self]
        intro l hl
        obtain ⟨part, hpart, rfl⟩ := List.mem_map.mp hl
        simpa using (hparts part hpart).1
      have hsplit := List.splitOn_intercalate ',' hcommas (by simp)
      rw [Filter.ofText, String.toList_intercalate]
      exact (congrArg (fun pieces => (pieces.filter (· ≠ [])).mapM Directive.ofText) hsplit).trans
        (by rw [hfull])

theorem Filter.shows_standard (verbose : Bool) (r : Record) :
    (Filter.standard verbose).shows r =
      decide (r.level.rank ≤ (if verbose then Level.debug else Level.warn).rank) := by
  simp [shows, levelFor, decisive?, standard, Directive.covers, Limit.admits]

end Log

theorem level_of_mem_fullLog {named : Option String} {m : Machine} {r : Log.Record}
    (hr : r ∈ fullLog named m) : r.level = .debug ∨ r.level = .info := by
  unfold fullLog at hr
  split at hr
  · rw [Check.fullLog, List.mem_append] at hr
    obtain hr | hr := hr
    · obtain ⟨e, -, rfl⟩ := List.mem_map.mp hr
      cases e <;> exact .inl rfl
    · split at hr
      · obtain rfl := List.mem_singleton.mp hr
        exact .inr rfl
      · cases hr
  · cases hr

/-- Without a setting the log is shown as a whole or not at all. -/
theorem filter_standard_fullLog (named : Option String) (m : Machine) (verbose : Bool) :
    (fullLog named m).filter ((Log.Filter.standard verbose).shows ·) =
      if verbose then fullLog named m else [] := by
  cases verbose with
  | true =>
      refine List.filter_eq_self.mpr fun r hr => ?_
      obtain hlevel | hlevel := level_of_mem_fullLog hr <;>
        simp [Log.Filter.shows_standard, hlevel, Log.Level.rank]
  | false =>
      refine List.filter_eq_nil_iff.mpr fun r hr => ?_
      obtain hlevel | hlevel := level_of_mem_fullLog hr <;>
        simp [Log.Filter.shows_standard, hlevel, Log.Level.rank]

/-! ## Settings that are taken or refused -/

variable {read : String → Except Log.Refusal Log.Filter} {arguments other : List String}
  {options otherOptions : CommandLine.Options} {text : String}

end SectorGate
