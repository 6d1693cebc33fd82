import ChainRelay.Text.UnprintableTable

/-!
# Quoted text

How a text or a character is shown in a message: between quotes, with the quote,
the backslash and everything that would not be seen as itself written as an
escape.
-/

namespace ChainRelay

/-- Whether a character is written as an escape wherever it is quoted. -/
def Unprintable.contains (c : Char) : Bool :=
  if c.toNat < 128 then c.toNat < 32 || c.toNat = 127
  else Unprintable.ranges.any fun (first, last) => first ≤ c.toNat && c.toNat ≤ last

namespace Quoted

/-- The hexadecimal digits of a number, without leading zeros. -/
def hexDigits (n : Nat) : List Char :=
  Nat.toDigits 16 n

/-- One character between `quote` marks. -/
def escape (quote c : Char) : List Char :=
  if c = '\t' then ['\\', 't']
  else if c = '\r' then ['\\', 'r']
  else if c = '\n' then ['\\', 'n']
  else if c.toNat = 0 then ['\\', '0']
  else if c = '\\' ∨ c = quote then ['\\', c]
  else if Unprintable.contains c then ['\\', 'u', '\x7b'] ++ hexDigits c.toNat ++ ['\x7d']
  else [c]

/-- A text between double quotes. -/
def ofText (s : String) : String :=
  String.ofList ('"' :: s.toList.flatMap (escape '"') ++ ['"'])

/-- A character between single quotes. -/
def ofChar (c : Char) : String :=
  String.ofList ('\'' :: escape '\'' c ++ ['\''])

end Quoted

end ChainRelay
