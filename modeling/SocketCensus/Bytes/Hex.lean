/-!
Hexadecimal notation in lower case: bytes as words of two digits, and numbers without
leading zeros.
-/
namespace SocketCensus.Hex

def digit (n : Nat) : Char := Nat.digitChar n

def word (b : UInt8) : String := String.ofList [digit (b.toNat / 16), digit (b.toNat % 16)]

/-- One word per byte, the form in which bytes are passed as separate arguments. -/
def words (bytes : List UInt8) : List String := bytes.map word

def text (bytes : List UInt8) : String := " ".intercalate (words bytes)

def digits (n : Nat) : List Char := Nat.toDigits 16 n

end SocketCensus.Hex
