import SocketCensus.Number.Decimal
import SocketCensus.Pid
import SocketCensus.Text.Blank
import SocketCensus.Text.WordChar

/-!
Process markers in a socket listing. A marker is `pid=` where no word goes on, and its token
is everything after it up to the next comma or white space. The scan reads each character once:
it is ready for a marker, within a word, or within the token of a marker already found.
-/
namespace SocketCensus

namespace Marker

def marker : List Char := ['p', 'i', 'd', '=']

/-- A token ends at a comma or at white space. -/
def isDelimiter (c : Char) : Bool := c == ',' || Text.isBlank c

def token (cs : List Char) : List Char := cs.takeWhile fun c => !isDelimiter c

/-- The process named by a token: digits only, at least one, and a value of 63 bits. -/
def tokenPid? (cs : List Char) : Option Pid :=
  if cs ≠ [] ∧ cs.all Decimal.isDigit ∧ Decimal.value cs ≤ Decimal.largest then
    some (Decimal.value cs)
  else none

/-- Where the scan stands, by what came just before. -/
inductive Mode
  | ready
  | inWord
  | inToken
  deriving DecidableEq, Repr

def Mode.after (c : Char) : Mode := if Text.isWord c then .inWord else .ready

/-- The processes named by the markers of a text, in order and with repetitions. -/
def scan : Mode → List Char → List Pid
  | _, [] => []
  | .ready, c :: rest =>
    if marker.isPrefixOf (c :: rest) then
      (tokenPid? (token (rest.drop 3))).toList ++ scan .inToken rest
    else scan (Mode.after c) rest
  | .inWord, c :: rest => scan (Mode.after c) rest
  | .inToken, c :: rest => scan (if isDelimiter c then Mode.after c else .inToken) rest

def pidsOfLine (line : List Char) : List Pid := scan .ready line

def pids (lines : List (List Char)) : List Pid := lines.flatMap pidsOfLine

end Marker
end SocketCensus
