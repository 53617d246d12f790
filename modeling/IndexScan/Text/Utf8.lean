import IndexScan.Text.Decimal

/-!
UTF-8. Decoding refuses the first ill-formed sequence and says which bytes are at fault.
-/

namespace IndexScan.Utf8

/-- What is wrong with a byte sequence. -/
inductive Reason where
  /-- The byte begins no sequence. -/
  | invalidStart
  /-- A byte that should continue the sequence does not. -/
  | invalidContinuation
  /-- The input ends inside a sequence. -/
  | unexpectedEnd
  deriving DecidableEq, Repr

/-- The wording of a reason. -/
def Reason.text : Reason → String
  | .invalidStart => "invalid start byte"
  | .invalidContinuation => "invalid continuation byte"
  | .unexpectedEnd => "unexpected end of data"

/-- A refusal to decode: the bytes from `start` up to `stop`, of which `byte` is the first. -/
structure Fault where
  start : Nat
  stop : Nat
  byte : UInt8
  reason : Reason
  deriving DecidableEq, Repr

/-- The wording of a fault: one byte is shown, several are only located. -/
def Fault.message (f : Fault) : String :=
  let place :=
    if f.stop = f.start + 1 then
      "byte 0x" ++ String.ofList (Decimal.hex 2 f.byte.toNat) ++ " in position "
        ++ Decimal.text f.start
    else
      "bytes in position " ++ Decimal.text f.start ++ "-" ++ Decimal.text (f.stop - 1 : Nat)
  "'utf-8' codec can't decode " ++ place ++ ": " ++ f.reason.text

/-- Whether `b` continues a sequence. -/
def isContinuation (b : UInt8) : Bool :=
  0x80 ≤ b && b ≤ 0xBF

/-- Whether `second` may follow the leading byte `lead`: overlong forms, surrogates and code points
past the last are excluded here. -/
def allowsSecond (lead second : UInt8) : Bool :=
  isContinuation second &&
    (if lead = 0xE0 then 0xA0 ≤ second
     else if lead = 0xED then second ≤ 0x9F
     else if lead = 0xF0 then 0x90 ≤ second
     else if lead = 0xF4 then second ≤ 0x8F
     else true)

/-- The length of the sequence that `lead` begins. -/
def sequenceLength? (lead : UInt8) : Option Nat :=
  if lead < 0x80 then some 1
  else if lead < 0xC2 then none
  else if lead < 0xE0 then some 2
  else if lead < 0xF0 then some 3
  else if lead < 0xF5 then some 4
  else none

/-- The low six bits of a continuation byte. -/
def low (b : UInt8) : Nat :=
  b.toNat % 0x40

/-- The first character of `lead :: rest`, which begins at `start`, with its length in bytes. -/
def decodeOne (start : Nat) (lead : UInt8) (rest : List UInt8) : Except Fault (Char × Nat) :=
  let fault (length : Nat) (reason : Reason) : Except Fault (Char × Nat) :=
    .error ⟨start, start + length, lead, reason⟩
  match sequenceLength? lead with
  | some 1 => .ok (Char.ofNat lead.toNat, 1)
  | some 2 =>
    match rest with
    | [] => fault 1 .unexpectedEnd
    | b :: _ =>
      if isContinuation b then .ok (Char.ofNat ((lead.toNat % 0x20) * 0x40 + low b), 2)
      else fault 1 .invalidContinuation
  | some 3 =>
    match rest with
    | [] => fault 1 .unexpectedEnd
    | b :: rest =>
      if !allowsSecond lead b then fault 1 .invalidContinuation
      else match rest with
      | [] => fault 2 .unexpectedEnd
      | c :: _ =>
        if isContinuation c then
          .ok (Char.ofNat (((lead.toNat % 0x10) * 0x40 + low b) * 0x40 + low c), 3)
        else fault 2 .invalidContinuation
  | some _ =>
    match rest with
    | [] => fault 1 .unexpectedEnd
    | b :: rest =>
      if !allowsSecond lead b then fault 1 .invalidContinuation
      else match rest with
      | [] => fault 2 .unexpectedEnd
      | c :: rest =>
        if !isContinuation c then fault 2 .invalidContinuation
        else match rest with
        | [] => fault 3 .unexpectedEnd
        | d :: _ =>
          if isContinuation d then
            .ok (Char.ofNat
              ((((lead.toNat % 0x8) * 0x40 + low b) * 0x40 + low c) * 0x40 + low d), 4)
          else fault 3 .invalidContinuation
  | none => fault 1 .invalidStart

/-- Decodes `bytes`, which begin at `start`; the first `skip` of them belong to a character that
is already decoded. -/
def decodeFrom (start skip : Nat) : List UInt8 → Except Fault (List Char)
  | [] => .ok []
  | b :: rest =>
    match skip with
    | skip + 1 => decodeFrom (start + 1) skip rest
    | 0 => do
      let (c, length) ← decodeOne start b rest
      let cs ← decodeFrom (start + 1) (length - 1) rest
      return c :: cs

/-- The characters that `bytes` encode. -/
def decode (bytes : List UInt8) : Except Fault (List Char) :=
  decodeFrom 0 0 bytes

/-- The bytes of one character. -/
def encodeChar (c : Char) : List UInt8 :=
  let n := c.toNat
  let tail (k : Nat) : UInt8 := UInt8.ofNat (0x80 + n / Nat.pow 0x40 k % 0x40)
  if n < 0x80 then [UInt8.ofNat n]
  else if n < 0x800 then [UInt8.ofNat (0xC0 + n / 0x40), tail 0]
  else if n < 0x10000 then [UInt8.ofNat (0xE0 + n / 0x1000), tail 1, tail 0]
  else [UInt8.ofNat (0xF0 + n / 0x40000), tail 2, tail 1, tail 0]

/-- The bytes of a text. -/
def encode (cs : List Char) : List UInt8 :=
  cs.flatMap encodeChar

end IndexScan.Utf8
