/-
  QUOTED text, as reports show a value.

  The text stands between double quotes.  A quote and a backslash inside get a backslash in front,
  the usual control characters their letters, and every other character that would not be seen its
  code point, as in \u{7f}.
-/
import PlayStation.Text.Printable

namespace PlayStation.Text

/-- A lower-case hexadecimal digit. -/
def lowerHexDigit (n : Nat) : Char :=
  if n < 10 then Char.ofNat (48 + n) else Char.ofNat (87 + n)

/-- The hexadecimal digits of a number below 0x1000000, without leading zeros. -/
def lowerHex (n : Nat) : List Char :=
  let digits := [20, 16, 12, 8, 4, 0].map fun start => lowerHexDigit ((n >>> start) % 16)
  match digits.dropWhile (· == '0') with
  | [] => ['0']
  | rest => rest

/-- One character within quotes. -/
def quoteChar (c : Char) : List Char :=
  if c == '\x00' then ['\\', '0']
  else if c == '\t' then ['\\', 't']
  else if c == '\r' then ['\\', 'r']
  else if c == '\n' then ['\\', 'n']
  else if c == '\\' || c == '\x22' then ['\\', c]
  else if isPrintable c then [c]
  else ['\\', 'u', '\x7b'] ++ lowerHex c.toNat ++ ['\x7d']

/-- The text in quotes. -/
def quoted (s : String) : String :=
  String.ofList (['\x22'] ++ s.toList.flatMap quoteChar ++ ['\x22'])

end PlayStation.Text
