import Mathlib.Data.List.Induction
import SectorGate.Log.Filter

/-!
# The last level of each target

Directives without limits count through one level for each target, the one that is given to it last
(`Filter.lastLevel?`). The directive that decides about a record is the last of its target, and its
target is the longest of those that speak of the record (`Filter.Decides`); two directives that
speak of one record and name as much of its target have the same target. So a filter shows more
records if the last levels show more (`Filter.levelFor_le_of_atMost`), and the same if they are the
same.
-/

namespace SectorGate.Log

variable {filter filter' : Filter} {d d' : Directive} {r : Record} {target : Option String}

namespace Directive

theorem yieldsTo_of_unlimited (hd : d.limit = .none) (d' : Directive) :
    d.yieldsTo d' = decide (d.weight ≤ d'.weight) := by
  rw [yieldsTo, hd, Limit.atMost, Bool.and_true, ← Bool.decide_or]
  exact decide_eq_decide.mpr Nat.le_iff_lt_or_eq.symm

/-- What an unlimited directive speaks of is settled by its target. -/
theorem covers_of_target_eq (hd : d.limit = .none) (hd' : d'.limit = .none)
    (htarget : d.target = d'.target) : d.covers r = d'.covers r := by
  rw [covers, covers, hd, hd', htarget]

theorem weight_of_target_eq (htarget : d.target = d'.target) : d.weight = d'.weight := by
  rw [weight, weight, htarget]

/-- Of one record's target there is one beginning of each length. -/
theorem target_eq_of_weight_eq (hcovers : d.covers r) (hcovers' : d'.covers r)
    (hweight : d.weight = d'.weight) : d.target = d'.target := by
  unfold covers at hcovers hcovers'
  unfold weight at hweight
  cases hd : d.target with
  | none =>
      cases hd' : d'.target with
      | none => rfl
      | some start' => simp [hd, hd'] at hweight
  | some start =>
      cases hd' : d'.target with
      | none => simp [hd, hd'] at hweight
      | some start' =>
          simp only [hd, hd', Bool.and_eq_true, List.isPrefixOf_iff_prefix] at hcovers hcovers'
          have hlength : start.toList.length = start'.toList.length := by
            rw [String.length_toList, String.length_toList]
            simpa [hd, hd'] using hweight
          have hbegins :=
            List.prefix_of_prefix_length_le hcovers.1 hcovers'.1 (Nat.le_of_eq hlength)
          rw [String.toList_injective (hbegins.eq_of_length hlength)]

end Directive

namespace Filter

/-! ## The directive that decides -/

def IsUnlimited (filter : Filter) : Prop := ∀ d ∈ filter, d.limit = .none

/-- That a directive decides about a record: it is the last of its target and speaks of the record,
and no other one that does names more of the record's target. -/
structure Decides (filter : Filter) (r : Record) (d : Directive) : Prop where
  last_of_target : (filter.filter (·.target = d.target)).getLast? = some d
  covers : d.covers r
  weight_le : ∀ d' ∈ filter, d'.covers r → d'.weight ≤ d.weight

theorem decisive?_concat (filter : Filter) (d : Directive) (r : Record) :
    decisive? (filter ++ [d]) r =
      if d.covers r then
        match filter.decisive? r with
        | some best => if best.yieldsTo d then some d else some best
        | none => some d
      else filter.decisive? r := by
  unfold decisive?
  rw [List.filter_append, List.foldl_append, List.filter_cons, List.filter_nil]
  cases d.covers r <;> rfl

theorem decisive?_eq_none_iff : filter.decisive? r = none ↔ ∀ d ∈ filter, d.covers r = false := by
  induction filter using List.reverseRecOn with
  | nil => simp [decisive?]
  | append_singleton filter e ih =>
      rw [decisive?_concat, List.forall_mem_append, ← ih]
      cases he : e.covers r with
      | false => simp [he]
      | true =>
          cases decisive? filter r with
          | none => simp [he]
          | some best => by_cases hyields : best.yieldsTo e <;> simp [he, hyields]

theorem Decides.mem (hdecides : filter.Decides r d) : d ∈ filter :=
  (List.mem_filter.mp (List.mem_of_getLast? hdecides.last_of_target)).1

/-- A directive that decides goes on to do so if another target follows that names less of the
record's. -/
theorem Decides.concat {e : Directive} (hdecides : filter.Decides r d)
    (htarget : e.target ≠ d.target) (hweight : e.covers r → e.weight ≤ d.weight) :
    Decides (filter ++ [e]) r d where
  last_of_target := by
    simpa [List.filter_append, htarget] using hdecides.last_of_target
  covers := hdecides.covers
  weight_le := by
    intro d' hd' hcovers
    obtain hd' | hd' := List.mem_append.mp hd'
    · exact hdecides.weight_le d' hd' hcovers
    · obtain rfl := List.mem_singleton.mp hd'
      exact hweight hcovers

theorem decides_concat_self {e : Directive} (hcovers : e.covers r)
    (hweight : ∀ d ∈ filter, d.covers r → d.weight ≤ e.weight) : Decides (filter ++ [e]) r e where
  last_of_target := by simp [List.filter_append]
  covers := hcovers
  weight_le := by
    intro d hd hcovers'
    obtain hd | hd := List.mem_append.mp hd
    · exact hweight d hd hcovers'
    · obtain rfl := List.mem_singleton.mp hd
      exact Nat.le_refl _

/-- Of a directive that decides and one that follows it, the second decides if it speaks of the
record and names as much of its target or more, and the first otherwise. -/
theorem Decides.concat_if {e : Directive} (hdecides : filter.Decides r d) (hd : d.limit = .none)
    (he : e.limit = .none) :
    Decides (filter ++ [e]) r (if e.covers r ∧ d.weight ≤ e.weight then e else d) := by
  split
  · next htakes =>
    refine decides_concat_self htakes.1 fun d' hd' hcovers => ?_
    exact Nat.le_trans (hdecides.weight_le d' hd' hcovers) htakes.2
  · next hleaves =>
    refine hdecides.concat (fun htarget => hleaves ⟨?_, ?_⟩) fun hcovers => ?_
    · rw [Directive.covers_of_target_eq he hd htarget, hdecides.covers]
    · exact Nat.le_of_eq (Directive.weight_of_target_eq htarget).symm
    · exact Nat.le_of_not_le fun hweight => hleaves ⟨hcovers, hweight⟩

theorem decisive?_concat_of_some {e : Directive} (hbest : filter.decisive? r = some d)
    (hd : d.limit = .none) :
    decisive? (filter ++ [e]) r = some (if e.covers r ∧ d.weight ≤ e.weight then e else d) := by
  rw [decisive?_concat, hbest]
  by_cases hcovers : e.covers r <;> by_cases hweight : d.weight ≤ e.weight <;>
    simp [hcovers, hweight, Directive.yieldsTo_of_unlimited hd]

/-- The directive that is found by passing through the filter decides. -/
theorem decides_of_decisive? (hunlimited : filter.IsUnlimited) (hd : filter.decisive? r = some d) :
    filter.Decides r d := by
  induction filter using List.reverseRecOn generalizing d with
  | nil => cases hd
  | append_singleton filter e ih =>
      obtain ⟨hfilter, he⟩ := List.forall_mem_append.mp hunlimited
      have he : e.limit = .none := he e (List.mem_singleton_self e)
      cases hbest : decisive? filter r with
      | none =>
          have hnone := decisive?_eq_none_iff.mp hbest
          rw [decisive?_concat, hbest] at hd
          split at hd
          · next hcovers =>
            obtain rfl := Option.some.inj hd
            refine decides_concat_self hcovers fun d' hd' hcovers' => ?_
            rw [hnone d' hd'] at hcovers'
            cases hcovers'
          · cases hd
      | some best =>
          have hdecides := ih hfilter hbest
          have hlimit := hfilter best hdecides.mem
          rw [decisive?_concat_of_some hbest hlimit] at hd
          obtain rfl := Option.some.inj hd
          exact hdecides.concat_if hlimit he

/-! ## The last levels -/

/-- The level that a filter gives to a target last. -/
def lastLevel? (filter : Filter) (target : Option String) : Option Level :=
  ((filter.filter (·.target = target)).getLast?).map (·.level)

theorem lastLevel?_append (filter filter' : Filter) (target : Option String) :
    lastLevel? (filter ++ filter') target =
      (filter'.lastLevel? target).or (filter.lastLevel? target) := by
  rw [lastLevel?, List.filter_append, List.getLast?_append, Option.map_or]
  rfl

theorem lastLevel?_cons (d : Directive) (filter : Filter) (target : Option String) :
    lastLevel? (d :: filter) target =
      (filter.lastLevel? target).or (if d.target = target then some d.level else none) := by
  have hone : lastLevel? [d] target = if d.target = target then some d.level else none := by
    by_cases htarget : d.target = target <;> simp [lastLevel?, htarget]
  rw [← List.singleton_append, lastLevel?_append, hone]

theorem exists_lastLevel?_of_mem (hd : d ∈ filter) :
    ∃ level, filter.lastLevel? d.target = some level := by
  have hne : filter.filter (·.target = d.target) ≠ [] :=
    List.ne_nil_of_mem (List.mem_filter.mpr ⟨hd, decide_eq_true rfl⟩)
  exact ⟨_, by rw [lastLevel?, List.getLast?_eq_some_getLast hne, Option.map_some]⟩

theorem exists_mem_of_lastLevel? {level : Level} (hlevel : filter.lastLevel? target = some level) :
    ∃ d ∈ filter, d.target = target := by
  obtain ⟨d, hd, -⟩ := Option.map_eq_some_iff.mp hlevel
  have hmem := List.mem_filter.mp (List.mem_of_getLast? hd)
  exact ⟨d, hmem.1, of_decide_eq_true hmem.2⟩

theorem Decides.lastLevel? (hdecides : filter.Decides r d) :
    filter.lastLevel? d.target = some d.level := by
  rw [Filter.lastLevel?, hdecides.last_of_target, Option.map_some]

/-! ## Filters that show more -/

/-- That two filters give levels to the same targets, and the second shows as much of each or more.
-/
def AtMost (filter filter' : Filter) : Prop :=
  ∀ target, Option.Rel (fun level level' => level.rank ≤ level'.rank) (filter.lastLevel? target)
    (filter'.lastLevel? target)

theorem AtMost.exists_of_some (hatMost : filter.AtMost filter') {level : Level}
    (hlevel : filter.lastLevel? target = some level) :
    ∃ level', filter'.lastLevel? target = some level' ∧ level.rank ≤ level'.rank := by
  have hrel := hatMost target
  rw [hlevel] at hrel
  cases hlevel' : filter'.lastLevel? target with
  | none =>
      rw [hlevel'] at hrel
      cases hrel
  | some level' =>
      rw [hlevel'] at hrel
      cases hrel with
      | some hle => exact ⟨level', rfl, hle⟩

theorem AtMost.exists_of_some_right (hatMost : filter.AtMost filter') {level' : Level}
    (hlevel' : filter'.lastLevel? target = some level') :
    ∃ level, filter.lastLevel? target = some level := by
  have hrel := hatMost target
  rw [hlevel'] at hrel
  cases hlevel : filter.lastLevel? target with
  | none =>
      rw [hlevel] at hrel
      cases hrel
  | some level => exact ⟨level, rfl⟩

/-- No target that has a level names more of a record's target than the one that decides. -/
theorem Decides.weight_le_of_lastLevel? (hdecides : filter.Decides r d)
    (hunlimited : filter.IsUnlimited) (hlimit : d'.limit = .none) (hcovers : d'.covers r)
    {level : Level} (hlevel : filter.lastLevel? d'.target = some level) : d'.weight ≤ d.weight := by
  obtain ⟨e, he, htarget⟩ := exists_mem_of_lastLevel? hlevel
  rw [← Directive.weight_of_target_eq htarget]
  apply hdecides.weight_le e he
  rw [Directive.covers_of_target_eq (hunlimited e he) hlimit htarget, hcovers]

/-- A target that decides in the one filter has a level in the other, so that none there that speaks
of the record names less: in both filters the same target decides. -/
theorem levelFor_le_of_atMost (hunlimited : filter.IsUnlimited) (hunlimited' : filter'.IsUnlimited)
    (hatMost : filter.AtMost filter') (r : Record) :
    (filter.levelFor r).rank ≤ (filter'.levelFor r).rank := by
  cases hdecisive : filter.decisive? r with
  | none => simp [levelFor, hdecisive, Level.rank]
  | some d =>
      have hd := decides_of_decisive? hunlimited hdecisive
      have hlimit := hunlimited d hd.mem
      obtain ⟨level, hlevel, hle⟩ := hatMost.exists_of_some hd.lastLevel?
      cases hdecisive' : filter'.decisive? r with
      | none =>
          obtain ⟨e, he, htarget⟩ := exists_mem_of_lastLevel? hlevel
          have hcovers := decisive?_eq_none_iff.mp hdecisive' e he
          rw [Directive.covers_of_target_eq (hunlimited' e he) hlimit htarget, hd.covers] at hcovers
          cases hcovers
      | some d' =>
          have hd' := decides_of_decisive? hunlimited' hdecisive'
          have hlimit' := hunlimited' d' hd'.mem
          obtain ⟨level', hlevel'⟩ := hatMost.exists_of_some_right hd'.lastLevel?
          have hweight : d.weight = d'.weight :=
            Nat.le_antisymm (hd'.weight_le_of_lastLevel? hunlimited' hlimit hd.covers hlevel)
              (hd.weight_le_of_lastLevel? hunlimited hlimit' hd'.covers hlevel')
          rw [Directive.target_eq_of_weight_eq hd.covers hd'.covers hweight,
            hd'.lastLevel?] at hlevel
          obtain rfl := Option.some.inj hlevel
          simpa [levelFor, hdecisive, hdecisive'] using hle

theorem shows_of_atMost (hunlimited : filter.IsUnlimited) (hunlimited' : filter'.IsUnlimited)
    (hatMost : filter.AtMost filter') (hshows : filter.shows r) : filter'.shows r := by
  have hrank := of_decide_eq_true hshows
  exact decide_eq_true (Nat.le_trans hrank (levelFor_le_of_atMost hunlimited hunlimited' hatMost r))

theorem atMost_of_lastLevel?_eq
    (hsame : ∀ target, filter.lastLevel? target = filter'.lastLevel? target) :
    filter.AtMost filter' := by
  intro target
  rw [hsame target]
  cases filter'.lastLevel? target with
  | none => exact .none
  | some level => exact .some (Nat.le_refl _)

/-- Filters show records by the last levels of targets, and by nothing else. -/
theorem shows_eq_of_lastLevel?_eq (hunlimited : filter.IsUnlimited)
    (hunlimited' : filter'.IsUnlimited)
    (hsame : ∀ target, filter.lastLevel? target = filter'.lastLevel? target) (r : Record) :
    filter.shows r = filter'.shows r := by
  rw [Bool.eq_iff_iff]
  constructor
  · exact shows_of_atMost hunlimited hunlimited' (atMost_of_lastLevel?_eq hsame)
  · exact shows_of_atMost hunlimited' hunlimited (atMost_of_lastLevel?_eq fun t => (hsame t).symm)

/-! ## Changes that keep the last levels, or raise them -/

/-- A directive does not count if a later one has its target. -/
theorem lastLevel?_erase {before behind : Filter} (hlater : ∃ e ∈ behind, e.target = d.target)
    (target : Option String) :
    lastLevel? (before ++ d :: behind) target = lastLevel? (before ++ behind) target := by
  obtain ⟨e, he, htarget⟩ := hlater
  rw [lastLevel?_append, lastLevel?_append, lastLevel?_cons]
  by_cases hd : d.target = target
  · obtain ⟨level, hlevel⟩ := exists_lastLevel?_of_mem he
    rw [htarget, hd] at hlevel
    rw [hlevel, Option.some_or]
  · rw [if_neg hd, Option.or_none]

/-- To raise levels, each in its place, raises the last levels. -/
theorem atMost_of_forall₂
    (hraised : List.Forall₂ (fun d d' => d.target = d'.target ∧ d.level.rank ≤ d'.level.rank)
      filter filter') : filter.AtMost filter' := by
  induction hraised with
  | nil => exact fun target => .none
  | @cons d d' filter filter' hd hrest ih =>
      obtain ⟨htarget, hle⟩ := hd
      intro target
      rw [lastLevel?_cons, lastLevel?_cons, htarget]
      have hlater := ih target
      generalize lastLevel? filter target = last at hlater ⊢
      generalize lastLevel? filter' target = last' at hlater ⊢
      cases hlater with
      | some hlevel => exact .some hlevel
      | none =>
          split
          · exact .some hle
          · exact .none

end Filter

end SectorGate.Log
