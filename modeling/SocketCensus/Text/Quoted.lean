import SocketCensus.Bytes.Hex
import SocketCensus.Text.Printable

/-!
A text between double quotes, on one line and in visible characters: quotes and backslashes
are escaped, the usual controls have a letter, and any other character that cannot be shown
is written as its code point in braces.
-/
namespace SocketCensus.Text

def quoteChar (c : Char) : List Char :=
  match c with
  | '\x00' => ['\\', '0']
  | '\t' => ['\\', 't']
  | '\r' => ['\\', 'r']
  | '\n' => ['\\', 'n']
  | '"' => ['\\', '"']
  | '\\' => ['\\', '\\']
  | _ => if isPrintable c then [c] else ['\\', 'u', '\x7b'] ++ Hex.digits c.toNat ++ ['\x7d']

def quote (s : String) : String :=
  String.ofList ('"' :: s.toList.flatMap quoteChar ++ ['"'])

end SocketCensus.Text
