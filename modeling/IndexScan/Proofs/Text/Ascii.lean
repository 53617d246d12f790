import IndexScan.Text.Lines
import IndexScan.Text.Utf8
import Mathlib.Tactic.Common

/-!
Printed text: ASCII characters that print, and line feeds. Such a text is the same after it has been
stored in a file and read again: every character is one byte (`Utf8.decode_encode`), and there is no
line end to unify (`Lines.unify_of_isPrinted`).
-/

namespace IndexScan

/-- Whether a character is a line feed or prints. -/
def isPrinted (c : Char) : Bool :=
  c == '\n' || (0x20 ≤ c.toNat && c.toNat < 0x7F)

/-- Texts of printed characters. -/
def IsPrinted (cs : List Char) : Prop :=
  ∀ c ∈ cs, isPrinted c = true

instance (cs : List Char) : Decidable (IsPrinted cs) :=
  List.decidableBAll _ cs

theorem IsPrinted.nil : IsPrinted [] := nofun

theorem IsPrinted.cons {c : Char} {cs : List Char} (first : isPrinted c = true)
    (rest : IsPrinted cs) : IsPrinted (c :: cs) := by
  intro d mem
  rcases List.mem_cons.mp mem with rfl | mem
  · exact first
  · exact rest d mem

theorem IsPrinted.append {cs ds : List Char} (left : IsPrinted cs) (right : IsPrinted ds) :
    IsPrinted (cs ++ ds) := fun c mem =>
  (List.mem_append.mp mem).elim (left c) (right c)

theorem toNat_lt_of_isPrinted {c : Char} (printed : isPrinted c = true) : c.toNat < 0x80 := by
  simp only [isPrinted, Bool.or_eq_true, beq_iff_eq, Bool.and_eq_true, decide_eq_true_eq] at printed
  rcases printed with rfl | ⟨_, below⟩
  · decide
  · omega

theorem Utf8.encodeChar_of_ascii {c : Char} (small : c.toNat < 0x80) :
    encodeChar c = [UInt8.ofNat c.toNat] := by
  rw [encodeChar, if_pos small]

theorem Utf8.decodeOne_of_ascii {c : Char} (small : c.toNat < 0x80) (start : Nat)
    (rest : List UInt8) : decodeOne start (UInt8.ofNat c.toNat) rest = .ok (c, 1) := by
  have byte : (UInt8.ofNat c.toNat).toNat = c.toNat := by
    rw [UInt8.toNat_ofNat']
    exact Nat.mod_eq_of_lt (by omega)
  have first : sequenceLength? (UInt8.ofNat c.toNat) = some 1 := by
    rw [sequenceLength?, if_pos]
    rw [UInt8.lt_iff_toNat_lt, byte]
    exact small
  simp only [decodeOne, first, byte, Char.ofNat_toNat]

theorem Utf8.decodeFrom_encode {cs : List Char} (printed : IsPrinted cs) (start : Nat) :
    decodeFrom start 0 (encode cs) = .ok cs := by
  induction cs generalizing start with
  | nil => rfl
  | cons c cs ih =>
    have small := toNat_lt_of_isPrinted (printed c (by simp))
    have tail := ih (fun d mem => printed d (by simp [mem])) (start + 1)
    simp only [encode] at tail ⊢
    rw [List.flatMap_cons, encodeChar_of_ascii small, List.singleton_append, decodeFrom,
      decodeOne_of_ascii small]
    simp only [bind, Except.bind, Nat.sub_self, tail]
    rfl

/-- Printed text is the same after encoding and decoding. -/
theorem Utf8.decode_encode {cs : List Char} (printed : IsPrinted cs) :
    decode (encode cs) = .ok cs :=
  decodeFrom_encode printed 0

/-- Printed text has no carriage returns. -/
theorem Lines.unify_of_isPrinted {cs : List Char} (printed : IsPrinted cs) : unify cs = cs := by
  induction cs with
  | nil => rfl
  | cons c cs ih =>
    have tail := ih fun d mem => printed d (by simp [mem])
    have other : c ≠ '\r' := by
      rintro rfl
      exact absurd (printed '\r' (by simp)) (by decide)
    rw [unify]
    · rw [if_neg other, tail]
    · simp [other]

end IndexScan
