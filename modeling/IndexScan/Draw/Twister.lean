/-!
A generator of 32-bit words with a state of 624 words. A seed of any size and either sign fixes the
whole stream; a seed and its negation give the same one.
-/

namespace IndexScan

/-- The state of the generator: 624 words, and how many of them have been given out. -/
structure Twister where
  words : Array UInt32
  used : Nat
  deriving Inhabited

namespace Twister

/-- The number of words in the state. -/
def size : Nat := 624

/-- The distance between a word and the later word that it is mixed with. -/
def shift : Nat := 397

/-- The word at a place of the state. -/
def wordAt (words : Array UInt32) (i : Nat) : UInt32 :=
  words.getD i 0

/-- Mixes the high bit of one word and the low bits of the next. -/
def mix (high low : UInt32) : UInt32 :=
  let y := (high &&& 0x80000000) ||| (low &&& 0x7FFFFFFF)
  (y >>> 1) ^^^ (if y &&& 1 = 1 then 0x9908B0DF else 0)

/-- Replaces the word at `i` by its successor. -/
def renewWord (words : Array UInt32) (i : Nat) : Array UInt32 :=
  let next := wordAt words ((i + 1) % size)
  let far := wordAt words ((i + shift) % size)
  words.setIfInBounds i (far ^^^ mix (wordAt words i) next)

/-- Replaces every word by its successor, in order. -/
def renew (words : Array UInt32) : Array UInt32 :=
  (List.range size).foldl renewWord words

/-- Scrambles a word of the state before it is given out. -/
def temper (y : UInt32) : UInt32 :=
  let y := y ^^^ (y >>> 11)
  let y := y ^^^ ((y <<< 7) &&& 0x9D2C5680)
  let y := y ^^^ ((y <<< 15) &&& 0xEFC60000)
  y ^^^ (y >>> 18)

/-- The next word, and the generator after it. -/
def next (t : Twister) : UInt32 × Twister :=
  let t := if size ≤ t.used then ⟨renew t.words, 0⟩ else t
  (temper (wordAt t.words t.used), ⟨t.words, t.used + 1⟩)

/-- The state that a single word fixes. -/
def ofWord (seed : UInt32) : Array UInt32 :=
  ((List.range (size - 1)).foldl
    (fun (state : Array UInt32 × UInt32) (i : Nat) =>
      let word := (1812433253 : UInt32) * (state.2 ^^^ (state.2 >>> 30)) + UInt32.ofNat (i + 1)
      (state.1.push word, word))
    (#[seed], seed)).1

/-- The 32-bit words of a number, least significant first; zero has one. -/
def wordsOf (n : Nat) : List UInt32 :=
  if h : n < 0x100000000 then [UInt32.ofNat n]
  else UInt32.ofNat (n % 0x100000000) :: wordsOf (n / 0x100000000)
termination_by n
decreasing_by exact Nat.div_lt_self (by omega) (by decide)

/-- One step of spreading over the state: the word at `i` is mixed with the one before it by
`update`; behind the last word the state starts again, its first word replaced by its last. -/
def spread (update : UInt32 → UInt32 → UInt32) (state : Array UInt32 × Nat) : Array UInt32 × Nat :=
  let (words, i) := state
  let before := wordAt words (i - 1)
  let words := words.setIfInBounds i
    (update (wordAt words i) (before ^^^ (before >>> 30)))
  if size ≤ i + 1 then (words.setIfInBounds 0 (wordAt words (size - 1)), 1) else (words, i + 1)

/-- The state that a list of words fixes. -/
def ofKey (key : List UInt32) : Array UInt32 :=
  let keys := key.toArray
  let start := ofWord 19650218
  let (words, i) := (List.range (max size keys.size)).foldl
    (fun state step =>
      let j := step % keys.size
      spread (fun word mixed => (word ^^^ (mixed * 1664525)) + wordAt keys j + UInt32.ofNat j) state)
    (start, 1)
  let (words, _) := (List.range (size - 1)).foldl
    (fun state _ =>
      spread (fun word mixed => (word ^^^ (mixed * 1566083941)) - UInt32.ofNat state.2) state)
    (words, i)
  words.setIfInBounds 0 0x80000000

/-- The generator that a seed fixes. -/
def ofSeed (seed : Int) : Twister :=
  ⟨ofKey (wordsOf seed.natAbs), size⟩

end Twister

end IndexScan
