import SocketCensus.Bytes.Hex

/-!
Tokens of a settings document in TOML. The text is cut into line ends, blanks, comments,
punctuation, bare words and quoted strings; a string is a single token whose escapes are
already resolved.
-/
namespace SocketCensus.Toml

inductive Token
  | newline
  | blank (text : List Char)
  | comment
  | equals
  | period
  | comma
  | colon
  | plus
  | leftBrace
  | rightBrace
  | leftBracket
  | rightBracket
  | word (text : List Char)
  | quoted (value : List Char) (multiline : Bool)
  deriving DecidableEq, Repr

namespace Token

/-- A carriage return before a line feed belongs to the line end. -/
def foldReturns : List Char → List Char
  | [] => []
  | '\r' :: '\n' :: rest => '\n' :: foldReturns rest
  | c :: rest => c :: foldReturns rest

def isBlankChar (c : Char) : Bool := c == ' ' || c == '\t'

def isWordChar (c : Char) : Bool := c.isAlphanum || c == '_' || c == '-'

/-- A comment goes on to the next control character other than a tab. -/
def isCommentChar (c : Char) : Bool := c == '\t' || 0x20 ≤ c.toNat

def isStringChar (c : Char) : Bool := c == '\t' || (0x20 ≤ c.toNat && c.toNat != 0x7f)

def hexValue? (c : Char) : Option Nat :=
  if '0' ≤ c ∧ c ≤ '9' then some (c.toNat - '0'.toNat)
  else if 'a' ≤ c ∧ c ≤ 'f' then some (c.toNat - 'a'.toNat + 10)
  else if 'A' ≤ c ∧ c ≤ 'F' then some (c.toNat - 'A'.toNat + 10)
  else none

/-- The character with the code point written by exactly `count` digits. -/
def codePoint? (count : Nat) (cs : List Char) : Option (Char × List Char) := do
  let digits := cs.take count
  if digits.length < count then none
  let values ← digits.mapM hexValue?
  let n := values.foldl (fun n d => 16 * n + d) 0
  if h : n.isValidChar then some (Char.ofNatAux n h, cs.drop count) else none

/-- In a string of several lines a backslash at the end of a line removes the line end and all
blanks and line ends after it. -/
def joinLines? (cs : List Char) : Option (List Char) :=
  match cs.dropWhile isBlankChar with
  | '\n' :: rest => some (rest.dropWhile fun c => isBlankChar c || c == '\n')
  | _ => none

def escape? (multiline : Bool) (cs : List Char) : Option (List Char × List Char) :=
  match cs with
  | [] => none
  | c :: rest =>
    match c with
    | '"' => some (['"'], rest)
    | '\\' => some (['\\'], rest)
    | 'b' => some (['\x08'], rest)
    | 'f' => some (['\x0c'], rest)
    | 'n' => some (['\n'], rest)
    | 'r' => some (['\r'], rest)
    | 't' => some (['\t'], rest)
    | 'u' => (codePoint? 4 rest).map fun r => ([r.1], r.2)
    | 'U' => (codePoint? 8 rest).map fun r => ([r.1], r.2)
    | _ => if multiline then (joinLines? cs).map fun rest => ([], rest) else none

/-- Reads a string up to its closing quotes. In a string of several lines one or two quotes are
text, and of more than three the last three close it. `read` holds what was read so far, last
character first. -/
def stringBody? (quote : Char) (escapes multiline : Bool) :
    (fuel : Nat) → (read : List Char) → List Char → Option (List Char × List Char)
  | 0, _, _ => none
  | _ + 1, _, [] => none
  | fuel + 1, read, c :: rest =>
    if c = '\n' then
      if multiline then stringBody? quote escapes multiline fuel ('\n' :: read) rest else none
    else if c = quote then
      if multiline then
        let more := (rest.takeWhile (· == quote)).length
        if more < 2 then
          stringBody? quote escapes multiline fuel (List.replicate (more + 1) quote ++ read)
            (rest.drop more)
        else
          let extra := min 2 (more - 2)
          some ((List.replicate extra quote ++ read).reverse, rest.drop (2 + extra))
      else some (read.reverse, rest)
    else if escapes ∧ c = '\\' then
      match escape? multiline rest with
      | some (meant, rest) =>
        stringBody? quote escapes multiline fuel (meant.reverse ++ read) rest
      | none => none
    else if isStringChar c then stringBody? quote escapes multiline fuel (c :: read) rest
    else none

/-- Reads a string after its first quote. Two quotes are an empty string, three open a string
of several lines, whose first line end does not count. -/
def string? (quote : Char) (cs : List Char) : Option (Token × List Char) :=
  let escapes := quote == '"'
  match (cs.takeWhile (· == quote)).length with
  | 0 => (stringBody? quote escapes false (cs.length + 1) [] cs).map fun r => (quoted r.1 false, r.2)
  | 1 => some (quoted [] false, cs.drop 1)
  | _ =>
    let body := match cs.drop 2 with
      | '\n' :: rest => rest
      | rest => rest
    (stringBody? quote escapes true (body.length + 1) [] body).map fun r => (quoted r.1 true, r.2)

def first? (c : Char) (rest : List Char) : Option (Token × List Char) :=
  match c with
  | '\n' => some (newline, rest)
  | '#' => some (comment, rest.dropWhile isCommentChar)
  | '=' => some (equals, rest)
  | '.' => some (period, rest)
  | ',' => some (comma, rest)
  | ':' => some (colon, rest)
  | '+' => some (plus, rest)
  | '{' => some (leftBrace, rest)
  | '}' => some (rightBrace, rest)
  | '[' => some (leftBracket, rest)
  | ']' => some (rightBracket, rest)
  | '"' => string? '"' rest
  | '\'' => string? '\'' rest
  | _ =>
    if isBlankChar c then
      some (blank (c :: rest.takeWhile isBlankChar), rest.dropWhile isBlankChar)
    else if isWordChar c then
      some (word (c :: rest.takeWhile isWordChar), rest.dropWhile isWordChar)
    else none

def tokensFrom? : (fuel : Nat) → List Char → Option (List Token)
  | _, [] => some []
  | 0, _ :: _ => none
  | fuel + 1, c :: rest =>
    match first? c rest with
    | some (t, rest) => (tokensFrom? fuel rest).map (t :: ·)
    | none => none

/-- The tokens of a document. A byte order mark in front does not count. -/
def tokens? (cs : List Char) : Option (List Token) :=
  let text := foldReturns (match cs with
    | '\ufeff' :: rest => rest
    | _ => cs)
  tokensFrom? text.length text

end Token
end SocketCensus.Toml
