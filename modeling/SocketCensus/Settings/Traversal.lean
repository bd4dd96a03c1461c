/-!
What a load of settings does not decide by itself: the orders in which it goes through names, which
change from run to run, and the length that an array can grow to.
-/
namespace SocketCensus.Settings

variable {α : Type}

def insertBy (rank : α → Nat) (a : α) : List α → List α
  | [] => [a]
  | b :: rest => if rank a ≤ rank b then a :: b :: rest else b :: insertBy rank a rest

/-- Puts things in the order of their ranks; those of the same rank stay as they are. -/
def arrange (rank : α → Nat) : List α → List α
  | [] => []
  | a :: rest => insertBy rank a (arrange rank rest)

/-- The ranks of names when the file is gone through for the first and for the second time, then the
environment, then the settings that are to be converted; and how many elements fit in an array. -/
structure Traversal where
  file : String → Nat
  fileAgain : String → Nat
  environment : String → Nat
  conversion : String → Nat
  room : Nat

def Traversal.asGiven : Traversal := ⟨fun _ => 0, fun _ => 0, fun _ => 0, fun _ => 0, 72057594037927936⟩

end SocketCensus.Settings
