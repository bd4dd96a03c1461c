import SocketCensus.Entry.Write

/-!
The summary of a pass: how many processes were found, which of them have an entry now, and why
the others have none. Both lists are in ascending order of the process.
-/
namespace SocketCensus

structure Summary where
  discovered : Nat
  inserted : List Pid
  failed : List (Pid × WriteError)
  deriving DecidableEq, Repr

namespace Summary

def empty : Summary := ⟨0, [], []⟩

def inserted? (o : Pid × Except WriteError Unit) : Option Pid :=
  match o.2 with
  | .ok () => some o.1
  | .error _ => none

def failed? (o : Pid × Except WriteError Unit) : Option (Pid × WriteError) :=
  match o.2 with
  | .ok () => none
  | .error e => some (o.1, e)

theorem inserted?_eq_some_iff {o : Pid × Except WriteError Unit} {p : Pid} :
    inserted? o = some p ↔ o.1 = p ∧ o.2 = .ok () := by
  unfold inserted?
  split <;> simp [*]

theorem failed?_eq_some_iff {o : Pid × Except WriteError Unit} {f : Pid × WriteError} :
    failed? o = some f ↔ o.1 = f.1 ∧ o.2 = .error f.2 := by
  unfold failed?
  split <;> simp [*, Prod.ext_iff]

/-- Sorts the outcomes of a pass, in whatever order they came. -/
def ofOutcomes (discovered : Nat) (outcomes : List (Pid × Except WriteError Unit)) : Summary :=
  { discovered := discovered
    inserted := (outcomes.filterMap inserted?).mergeSort (fun a b => decide (a ≤ b))
    failed := (outcomes.filterMap failed?).mergeSort (fun a b => decide (a.1 ≤ b.1)) }

def insertedCount (s : Summary) : Nat := s.inserted.length

def failedCount (s : Summary) : Nat := s.failed.length

def isEmpty (s : Summary) : Bool := s.discovered == 0

def failureText (f : Pid × WriteError) : String := s!"\n  PID {f.1}: {f.2.message}"

def text (s : Summary) : String :=
  if s.isEmpty then "no active network PIDs found"
  else
    s!"discovered: {s.discovered}, inserted: {s.insertedCount}, failed: {s.failedCount}" ++
      String.join (s.failed.map failureText)

end Summary
end SocketCensus
