import SectorGate.Fault

/-!
# Inquiries

A computation that has to ask the machine it runs on is a tree of questions: at each
question it goes on with whatever reply it gets. The tree is data, so the questions that
are put, their order and what becomes of the replies can be read off it, whatever the
machine answers. A machine may change between two questions.
-/

namespace SectorGate

/-- A computation that may ask for the working directory and for the sizes of files. -/
inductive Inquiry (α : Type) where
  | done (result : α)
  | workingDirectory (next : Except Fault String → Inquiry α)
  | fileSize (path : String) (next : Except Fault UInt64 → Inquiry α)

namespace Inquiry

variable {α β : Type}

/-- Goes on with a second inquiry that depends on the result of the first. -/
def bind : Inquiry α → (α → Inquiry β) → Inquiry β
  | done result, f => f result
  | workingDirectory next, f => workingDirectory fun reply => (next reply).bind f
  | fileSize path next, f => fileSize path fun reply => (next reply).bind f

instance : Monad Inquiry where
  pure := done
  bind := bind

end Inquiry

/-- What a machine replies. The reply about a file may depend on how many sizes were asked
for before, since files change. -/
structure Machine where
  workingDirectory : Except Fault String
  fileSize : Nat → String → Except Fault UInt64

/-- The machine after one size has been asked for. -/
def Machine.later (m : Machine) : Machine where
  workingDirectory := m.workingDirectory
  fileSize n := m.fileSize (n + 1)

/-- A question together with its reply. -/
inductive Exchange where
  | workingDirectory (reply : Except Fault String)
  | fileSize (path : String) (reply : Except Fault UInt64)

/-- All that was asked and answered in the course of an inquiry, and what it led to. -/
structure Interview (α : Type) where
  exchanges : List Exchange
  result : α

namespace Inquiry

variable {α β : Type}

/-- Puts the questions of an inquiry to a machine, one after the other. -/
def interview (m : Machine) : Inquiry α → Interview α
  | done result => ⟨[], result⟩
  | workingDirectory next =>
    let rest := interview m (next m.workingDirectory)
    ⟨.workingDirectory m.workingDirectory :: rest.exchanges, rest.result⟩
  | fileSize path next =>
    let rest := interview m.later (next (m.fileSize 0 path))
    ⟨.fileSize path (m.fileSize 0 path) :: rest.exchanges, rest.result⟩

/-! ## Running an inquiry -/

@[simp] theorem pure_eq_done (result : α) : (pure result : Inquiry α) = done result := rfl

@[simp] theorem done_bind (result : α) (f : α → Inquiry β) : done result >>= f = f result := rfl

@[simp] theorem workingDirectory_bind (next : Except Fault String → Inquiry α) (f : α → Inquiry β) :
    workingDirectory next >>= f = workingDirectory fun reply => next reply >>= f := rfl

@[simp] theorem fileSize_bind (path : String) (next : Except Fault UInt64 → Inquiry α)
    (f : α → Inquiry β) :
    fileSize path next >>= f = fileSize path fun reply => next reply >>= f := rfl

theorem bind_done (x : Inquiry α) : x.bind done = x := by
  induction x with
  | done result => rfl
  | workingDirectory next ih => exact congrArg workingDirectory (funext ih)
  | fileSize path next ih => exact congrArg (fileSize path) (funext ih)

theorem bind_bind {γ : Type} (x : Inquiry α) (f : α → Inquiry β) (g : β → Inquiry γ) :
    (x.bind f).bind g = x.bind fun a => (f a).bind g := by
  induction x with
  | done result => rfl
  | workingDirectory next ih => exact congrArg workingDirectory (funext ih)
  | fileSize path next ih => exact congrArg (fileSize path) (funext ih)

instance : LawfulMonad Inquiry :=
  LawfulMonad.mk' Inquiry bind_done (fun _ _ => rfl) bind_bind

@[simp] theorem interview_done (m : Machine) (result : α) :
    (done result).interview m = ⟨[], result⟩ := rfl

@[simp] theorem interview_workingDirectory (m : Machine)
    (next : Except Fault String → Inquiry α) :
    (workingDirectory next).interview m =
      let rest := (next m.workingDirectory).interview m
      ⟨.workingDirectory m.workingDirectory :: rest.exchanges, rest.result⟩ := rfl

@[simp] theorem interview_fileSize (m : Machine) (path : String)
    (next : Except Fault UInt64 → Inquiry α) :
    (fileSize path next).interview m =
      let rest := (next (m.fileSize 0 path)).interview m.later
      ⟨.fileSize path (m.fileSize 0 path) :: rest.exchanges, rest.result⟩ := rfl

/-- A change of the result changes nothing about what is asked. -/
theorem interview_map (m : Machine) (f : α → β) (x : Inquiry α) :
    (f <$> x).interview m = ⟨(x.interview m).exchanges, f (x.interview m).result⟩ := by
  induction x generalizing m with
  | done result => rfl
  | workingDirectory next ih =>
    have h := ih m.workingDirectory m
    simp only [map_eq_pure_bind, workingDirectory_bind, interview_workingDirectory] at h ⊢
    rw [h]
  | fileSize path next ih =>
    have h := ih (m.fileSize 0 path) m.later
    simp only [map_eq_pure_bind, fileSize_bind, interview_fileSize] at h ⊢
    rw [h]

end Inquiry

end SectorGate
