import IndexScan.Text.Decimal
import IndexScan.Text.Printable

/-!
Quoted text, as messages show it. The quote is single unless the text holds a single quote and no
double one; the quote, the backslash and whatever is not printable are escaped.
-/

namespace IndexScan.Quoted

open IndexScan.Text

/-- The escape of a code point, by the fewest of two, four and eight hexadecimal digits. -/
def hexEscape (n : Nat) : List Char :=
  if n < 0x100 then '\\' :: 'x' :: Decimal.hex 2 n
  else if n < 0x10000 then '\\' :: 'u' :: Decimal.hex 4 n
  else '\\' :: 'U' :: Decimal.hex 8 n

/-- The quote that surrounds `cs`. -/
def quoteFor (cs : List Char) : Char :=
  if cs.contains '\'' && !cs.contains '"' then '"' else '\''

/-- One character between two quotes `quote`. -/
def encodeChar (quote c : Char) : List Char :=
  if c = quote ∨ c = '\\' then ['\\', c]
  else if c = '\n' then ['\\', 'n']
  else if c = '\r' then ['\\', 'r']
  else if c = '\t' then ['\\', 't']
  else if isPrintable c then [c]
  else hexEscape c.toNat

/-- The quoted form of `cs`. -/
def encode (cs : List Char) : List Char :=
  let quote := quoteFor cs
  quote :: cs.flatMap (encodeChar quote) ++ [quote]

/-- The quoted form of a string. -/
def text (s : String) : String :=
  String.ofList (encode s.toList)

/-- The quoted form of a sequence of code points, some of which are unpaired surrogates. -/
def encodePoints (points : List Nat) : List Char :=
  let quote := quoteFor (points.map Char.ofNat)
  let point (n : Nat) : List Char :=
    if 0xD800 ≤ n ∧ n < 0xE000 then hexEscape n else encodeChar quote (Char.ofNat n)
  quote :: points.flatMap point ++ [quote]

/-- One byte between two quotes: ASCII as it is, anything else escaped. -/
def encodeByte (quote : Char) (b : UInt8) : List Char :=
  let c := Char.ofNat b.toNat
  if c = quote ∨ c = '\\' then ['\\', c]
  else if c = '\n' then ['\\', 'n']
  else if c = '\r' then ['\\', 'r']
  else if c = '\t' then ['\\', 't']
  else if 0x20 ≤ b.toNat ∧ b.toNat < 0x7F then [c]
  else hexEscape b.toNat

/-- The quoted form of a sequence of bytes. -/
def encodeBytes (bytes : List UInt8) : List Char :=
  let quote := quoteFor (bytes.map fun b => Char.ofNat b.toNat)
  'b' :: quote :: bytes.flatMap (encodeByte quote) ++ [quote]

end IndexScan.Quoted
