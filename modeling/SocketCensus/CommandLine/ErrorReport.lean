import SocketCensus.Text.Line

/-!
The report of an error that ends a run: what could not be done, and under it the causes, one
below the other. Several causes are numbered; the further lines of a cause are indented to
match its first.
-/
namespace SocketCensus

structure ErrorReport where
  context : String
  causes : List String
  deriving DecidableEq, Repr

namespace ErrorReport

def linesOf (s : String) : List String := (Text.pieces s.toList).map String.ofList

/-- Puts one lead in front of the first line and another in front of the others. -/
def indent (first other : String) (lines : List String) : List String :=
  match lines with
  | [] => []
  | line :: rest => (first ++ line) :: rest.map (other ++ ·)

def padLeft (width : Nat) (s : String) : String :=
  String.ofList (List.replicate (width - s.length) ' ') ++ s

/-- Causes with their numbers, right-aligned to five places. -/
def numbered : (n : Nat) → List String → List String
  | _, [] => []
  | n, cause :: rest =>
    indent (padLeft 5 (toString n) ++ ": ") "       " (linesOf cause) ++ numbered (n + 1) rest

def lines (r : ErrorReport) : List String :=
  linesOf ("Error: " ++ r.context) ++
    match r.causes with
    | [] => []
    | [cause] => "" :: "Caused by:" :: indent "    " "    " (linesOf cause)
    | causes => "" :: "Caused by:" :: numbered 0 causes

end ErrorReport
end SocketCensus
