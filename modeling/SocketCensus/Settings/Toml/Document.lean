import SocketCensus.Settings.Toml.Number
import SocketCensus.Settings.Toml.Section

/-!
Settings documents in TOML: a list of sections, each a header with entries, where an entry is a
value under a path of keys. Reading settles what is written; the sections then say what it means.
-/
namespace SocketCensus.Toml

abbrev Reader := StateT (List Token) Option

namespace Reader

def next : Reader Token := fun
  | [] => none
  | t :: rest => some (t, rest)

def peek : Reader (Option Token) := fun ts => some (ts.head?, ts)

def eat (t : Token) : Reader Bool := fun ts =>
  match ts with
  | [] => some (false, ts)
  | first :: rest => if first = t then some (true, rest) else some (false, ts)

def expect (t : Token) : Reader Unit := do
  if ← eat t then return () else failure

def blanks : Reader Unit := fun ts =>
  match ts with
  | .blank _ :: rest => some ((), rest)
  | _ => some ((), ts)

def lineEnd : Reader Unit := fun ts =>
  match ts with
  | [] => some ((), [])
  | .newline :: rest => some ((), rest)
  | _ => none

def finishLine : Reader Unit := do
  blanks
  let _ ← eat .comment
  lineEnd

/-- Blanks, line ends and comments; a comment goes to the end of its line. -/
def gap : (fuel : Nat) → Reader Unit
  | 0 => return ()
  | fuel + 1 => do
    match ← peek with
    | some (.blank _) => let _ ← next; gap fuel
    | some .newline => let _ ← next; gap fuel
    | some .comment => let _ ← next; lineEnd; gap fuel
    | _ => return ()

def key : Reader String := do
  match ← next with
  | .word text => return String.ofList text
  | .quoted value false => return String.ofList value
  | _ => failure

def path : (fuel : Nat) → Reader (List String)
  | 0 => failure
  | fuel + 1 => do
    let first ← key
    blanks
    if ← eat .period then
      blanks
      return first :: (← path fuel)
    else return [first]

def word : Reader (List Char) := do
  match ← next with
  | .word text => return text
  | _ => failure

def wordAfter (t : Token) (mark : Char) : Reader (List Char) := do
  if ← eat t then return mark :: (← word) else return []

/-- An hour that follows a date after a single space. -/
def spacedWord : Reader (List Char) := fun ts =>
  match ts with
  | .blank [' '] :: .word text :: rest => some (' ' :: text, rest)
  | _ => some ([], ts)

/-- The text of a date or time that begins with a word, after which a colon may have been read
already. -/
def date (first : List Char) (colon : Bool) : Reader Term := do
  let spaced ← spacedWord
  let mark := if colon then [':'] else []
  let begun ← if colon then pure true else eat .colon
  let clock ←
    if begun then do
      let minutes ← word
      expect .colon
      let seconds ← word
      let fraction ← wordAfter .period '.'
      let plus ← wordAfter .plus '+'
      let offset ← wordAfter .colon ':'
      pure ((if colon then [] else [':']) ++ minutes ++ ':' :: seconds ++ fraction ++ plus ++ offset)
    else pure []
  return .date (first ++ mark ++ spaced ++ clock)

def float (whole : List Char) (fraction : Option (List Char)) : Reader Term := do
  match mantissa? whole fraction with
  | none => failure
  | some (f, tail) =>
    let f ← match tail with
      | .complete => pure f
      | .exponent negative digits => pure { f with exponentNegative := negative, exponent := digits }
      | .mark => do
        let _ ← eat .plus
        match exponentDigits? (← word) with
        | some digits => pure { f with exponent := digits }
        | none => failure
    match f.toBinary64? with
    | some x => return .float x
    | none => failure

def integer (n : Option Int) : Reader Term :=
  match n with
  | some n => return .integer n
  | none => failure

def written (fields : Option (List (String × Term))) : Reader (List (String × Term)) :=
  match fields with
  | some fields => return fields
  | none => failure

def number (text : List Char) : Reader Term := do
  match text with
  | '0' :: 'x' :: digits => integer (radixInteger? 16 digits)
  | '0' :: 'o' :: digits => integer (radixInteger? 8 digits)
  | '0' :: 'b' :: digits => integer (radixInteger? 2 digits)
  | _ =>
    if text.any isExponentMark then float text none
    else if ← eat .period then float text (some (← word))
    else if text = "inf".toList then return .float (.infinite false)
    else if text = "-inf".toList then return .float (.infinite true)
    else if text = "nan".toList ∨ text = "-nan".toList then return .float .nan
    else integer (integer? text)

/-- A word that holds a `T`, or a hyphen that is neither a sign in front nor the sign of an
exponent, begins a date. -/
def looksLikeDate (text : List Char) : Bool :=
  text.contains 'T' || text.contains 't' ||
    (text.tail.contains '-' && !(text.zip text.tail).any fun p => isExponentMark p.1 && p.2 == '-')

def numberOrDate (text : List Char) : Reader Term := do
  if looksLikeDate text then date text false
  else if ← eat .colon then date text true
  else number text

def startsNumber (text : List Char) : Bool :=
  text = "inf".toList || text = "nan".toList ||
    match text with
    | c :: _ => c == '-' || Decimal.isDigit c
    | [] => false

mutual

def value : (fuel : Nat) → Reader Term
  | 0 => failure
  | fuel + 1 => do
    match ← next with
    | .quoted s _ => return .text (String.ofList s)
    | .word text =>
      if text = "true".toList then return .boolean true
      else if text = "false".toList then return .boolean false
      else if startsNumber text then numberOrDate text
      else failure
    | .plus => number (← word)
    | .leftBracket => return .array (← items fuel)
    | .leftBrace =>
      blanks
      if ← eat .rightBrace then return .table false []
      return .table false (← inlineFields fuel [])
    | _ => failure

/-- The elements of an array, over as many lines as needed; a comma may follow the last. -/
def items : (fuel : Nat) → Reader (List Term)
  | 0 => failure
  | fuel + 1 => do
    gap fuel
    if ← eat .rightBracket then return []
    let first ← value fuel
    gap fuel
    if ← eat .comma then return first :: (← items fuel)
    expect .rightBracket
    return [first]

/-- The fields of a table on one line, after those already read; a comma stands between two and
nowhere else. -/
def inlineFields : (fuel : Nat) → List (String × Term) → Reader (List (String × Term))
  | 0, _ => failure
  | fuel + 1, fields => do
    let path ← path fuel
    blanks
    expect .equals
    blanks
    let fields ← written (Term.write? path (← value fuel) fields)
    blanks
    if ← eat .rightBrace then return fields
    expect .comma
    blanks
    inlineFields fuel fields

end

def entry (fuel : Nat) (fields : List (String × Term)) : Reader (List (String × Term)) := do
  let path ← path fuel
  blanks
  expect .equals
  blanks
  let value ← value fuel
  finishLine
  written (Term.write? path value fields)

/-- The brackets of a header stand side by side. -/
def header (fuel : Nat) : Reader Section := do
  expect .leftBracket
  let isArray ← eat .leftBracket
  blanks
  let path ← path fuel
  expect .rightBracket
  if isArray then expect .rightBracket
  finishLine
  return ⟨path, isArray, []⟩

def sections : (fuel : Nat) → Section → Reader (List Section)
  | 0, _ => failure
  | fuel + 1, current => do
    gap fuel
    match ← peek with
    | none => return [current]
    | some .leftBracket => return current :: (← sections fuel (← header fuel))
    | some _ => sections fuel { current with fields := ← entry fuel current.fields }

end Reader

def parse? (cs : List Char) : Option Value := do
  let tokens ← Token.tokens? cs
  let fuel := tokens.length + 1
  let (sections, _) ← (Reader.sections fuel ⟨[], false, []⟩).run tokens
  Section.value? sections

end SocketCensus.Toml
