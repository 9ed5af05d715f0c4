import SectorGate.Proofs.Gate.Events
import SectorGate.Log.Record
import SectorGate.Proofs.Numeral

/-!
# Lines of events

The lines that tell the events of a check can be told apart as they stand one behind the other: each
line gives back its event and what follows it, as long as image names hold no quotation mark. So a
whole log gives back its events, if what follows it does not begin like one more line.
-/

namespace SectorGate.Log

namespace Record

/-! ## One line -/

theorem toList_line_fits (image : String) (size sectors budget headroom : UInt64)
    (rest : List Char) :
    (ofEvent (.fits image size sectors budget headroom)).line.toList ++ rest =
      "DEBUG image fits image=\"".toList ++ (image.toList ++ '"' :: (" size=".toList ++
        (Text.digits size.toNat ++ ' ' :: ("sectors=".toList ++
          (Text.digits sectors.toNat ++ ' ' :: ("budget=".toList ++
            (Text.digits budget.toNat ++ ' ' :: ("headroom=".toList ++
              (Text.digits headroom.toNat ++ '\n' :: rest))))))))) := by
  have hlabel : Level.debug.label = "DEBUG" := by decide
  simp [line, ofEvent, Field.text, Field.ofText, Field.ofWord, String.join, hlabel, Text.digits]

theorem toList_line_overBudget (image : String) (size max : UInt64) (rest : List Char) :
    (ofEvent (.overBudget image size max)).line.toList ++ rest =
      "DEBUG image over budget image=\"".toList ++ (image.toList ++ '"' :: (" size=".toList ++
        (Text.digits size.toNat ++ ' ' :: ("max=".toList ++
          (Text.digits max.toNat ++ '\n' :: rest))))) := by
  have hlabel : Level.debug.label = "DEBUG" := by decide
  simp [line, ofEvent, Field.text, Field.ofText, Field.ofWord, String.join, hlabel, Text.digits]

/-- A line gives back its event and what follows it: the name ends at the first quotation mark, and
every number at a blank or at the end of the line. -/
theorem line_append_inj {e e' : Event} (he : '"' ∉ e.image.toList) (he' : '"' ∉ e'.image.toList)
    {rest rest' : List Char}
    (h : (ofEvent e).line.toList ++ rest = (ofEvent e').line.toList ++ rest') :
    e = e' ∧ rest = rest' := by
  have hblank : ' '.isDigit = false := rfl
  have hend : '\n'.isDigit = false := rfl
  cases e with
  | fits image size sectors budget headroom =>
      cases e' with
      | fits image' size' sectors' budget' headroom' =>
          rw [toList_line_fits, toList_line_fits] at h
          rw [Event.image_fits] at he he'
          simp only [List.append_right_inj, Text.append_cons_inj_of_first he he',
            Text.digits_append_cons_inj hblank, Text.digits_append_cons_inj hend,
            String.toList_inj, UInt64.toNat_inj] at h
          obtain ⟨rfl, rfl, rfl, rfl, rfl, hrest⟩ := h
          exact ⟨rfl, hrest⟩
      | overBudget image' size' max' =>
          rw [toList_line_fits, toList_line_overBudget] at h
          simp at h
  | overBudget image size max =>
      cases e' with
      | fits image' size' sectors' budget' headroom' =>
          rw [toList_line_fits, toList_line_overBudget] at h
          simp at h
      | overBudget image' size' max' =>
          rw [toList_line_overBudget, toList_line_overBudget] at h
          rw [Event.image_overBudget] at he he'
          simp only [List.append_right_inj, Text.append_cons_inj_of_first he he',
            Text.digits_append_cons_inj hblank, Text.digits_append_cons_inj hend,
            String.toList_inj, UInt64.toNat_inj] at h
          obtain ⟨rfl, rfl, rfl, hrest⟩ := h
          exact ⟨rfl, hrest⟩

theorem head?_line (e : Event) (rest : List Char) :
    ((ofEvent e).line.toList ++ rest).head? = some 'D' := by
  cases e with
  | fits image size sectors budget headroom =>
      rw [toList_line_fits]
      rfl
  | overBudget image size max =>
      rw [toList_line_overBudget]
      rfl

end Record

/-! ## The whole log -/

/-- The log of some events, one line for each. -/
def eventLog (events : List Event) : String :=
  String.join (events.map fun e => (Record.ofEvent e).line)

@[simp] theorem toList_eventLog_nil : (eventLog []).toList = [] := rfl

theorem toList_eventLog_cons (e : Event) (events : List Event) :
    (eventLog (e :: events)).toList =
      (Record.ofEvent e).line.toList ++ (eventLog events).toList := by
  simp [eventLog, String.toList_join]

/-- A log gives back its events and what follows it, if that does not begin like a line. -/
theorem eventLog_append_inj {events events' : List Event}
    (hnames : ∀ e ∈ events, '"' ∉ e.image.toList) (hnames' : ∀ e ∈ events', '"' ∉ e.image.toList)
    {rest rest' : List Char} (hrest : rest.head? ≠ some 'D') (hrest' : rest'.head? ≠ some 'D')
    (h : (eventLog events).toList ++ rest = (eventLog events').toList ++ rest') :
    events = events' ∧ rest = rest' := by
  induction events generalizing events' with
  | nil =>
      cases events' with
      | nil => exact ⟨rfl, h⟩
      | cons e' events' =>
          rw [toList_eventLog_cons, List.append_assoc] at h
          exact absurd ((congrArg List.head? h).trans (Record.head?_line e' _)) hrest
  | cons e events ih =>
      rw [toList_eventLog_cons, List.append_assoc] at h
      cases events' with
      | nil =>
          exact absurd ((congrArg List.head? h).symm.trans (Record.head?_line e _)) hrest'
      | cons e' events' =>
          rw [toList_eventLog_cons, List.append_assoc] at h
          obtain ⟨he, hlater⟩ := List.forall_mem_cons.mp hnames
          obtain ⟨he', hlater'⟩ := List.forall_mem_cons.mp hnames'
          obtain ⟨rfl, hnext⟩ := Record.line_append_inj he he' h
          obtain ⟨rfl, rfl⟩ := ih hlater hlater' hnext
          exact ⟨rfl, rfl⟩

end SectorGate.Log
