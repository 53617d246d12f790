import IndexScan.Text.Decimal

/-!
Bytes written six bits to a character. Reading is lenient: characters outside the alphabet are passed
over, and so is padding where none can stand. What follows complete padding is not read.
-/

namespace IndexScan.Base64

/-- Why a text holds no bytes. -/
inductive Refusal where
  /-- The last character has no partner. -/
  | strayCharacter (count : Nat)
  /-- The padding at the end is missing. -/
  | padding
  deriving DecidableEq, Repr

/-- The wording of a refusal. -/
def Refusal.message : Refusal → String
  | strayCharacter count =>
    "Invalid base64-encoded string: number of data characters (" ++ Decimal.text count
      ++ ") cannot be 1 more than a multiple of 4"
  | padding => "Incorrect padding"

/-- The six bits of a character of the alphabet. -/
def sextet? (c : Char) : Option Nat :=
  if 'A' ≤ c ∧ c ≤ 'Z' then some (c.toNat - 'A'.toNat)
  else if 'a' ≤ c ∧ c ≤ 'z' then some (c.toNat - 'a'.toNat + 26)
  else if '0' ≤ c ∧ c ≤ '9' then some (c.toNat - '0'.toNat + 52)
  else if c = '+' then some 62
  else if c = '/' then some 63
  else none

/-- Reads on, after `place` characters of a group of four with `held` bits left over, `pads`
characters of padding, and the bytes of `written`, the last first. -/
def decodeFrom (written : List UInt8) (place held pads : Nat) : List Char →
    Except Refusal (List UInt8)
  | [] =>
    match place with
    | 0 => .ok written.reverse
    | 1 => .error (.strayCharacter (written.length / 3 * 4 + 1))
    | _ => .error .padding
  | c :: rest =>
    if c = '=' then
      if place < 2 then decodeFrom written place held pads rest
      else if 4 ≤ place + pads + 1 then .ok written.reverse
      else decodeFrom written place held (pads + 1) rest
    else
      match sextet? c with
      | none => decodeFrom written place held pads rest
      | some bits =>
        let byte (taken kept : Nat) : UInt8 :=
          UInt8.ofNat (held * Nat.pow 2 taken + bits / Nat.pow 2 kept)
        match place with
        | 0 => decodeFrom written 1 bits 0 rest
        | 1 => decodeFrom (byte 2 4 :: written) 2 (bits % 16) 0 rest
        | 2 => decodeFrom (byte 4 2 :: written) 3 (bits % 4) 0 rest
        | _ => decodeFrom (byte 6 0 :: written) 0 0 0 rest

/-- The bytes that a text holds. -/
def decode (cs : List Char) : Except Refusal (List UInt8) :=
  decodeFrom [] 0 0 0 cs

end IndexScan.Base64
