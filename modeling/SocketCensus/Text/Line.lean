/-!
Lines of a text. A line ends at a line feed, and one carriage return before the line feed
belongs to the line end; a carriage return elsewhere is an ordinary character. The piece after
the last line feed is a line only if it is not empty.
-/
namespace SocketCensus.Text

/-- The pieces between the line feeds, one more than there are line feeds. -/
def pieces : List Char → List (List Char)
  | [] => [[]]
  | c :: rest =>
    if c = '\n' then [] :: pieces rest
    else match pieces rest with
      | [] => [[c]]
      | first :: others => (c :: first) :: others

/-- A line without the carriage return that stood before its line feed. -/
def dropReturn (line : List Char) : List Char :=
  match line.reverse with
  | '\r' :: before => before.reverse
  | _ => line

def linesOfPieces : List (List Char) → List (List Char)
  | [] => []
  | [last] => if last = [] then [] else [last]
  | piece :: rest => dropReturn piece :: linesOfPieces rest

def lines (cs : List Char) : List (List Char) := linesOfPieces (pieces cs)

end SocketCensus.Text
