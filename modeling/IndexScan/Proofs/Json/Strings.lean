import IndexScan.Json.Reader
import IndexScan.Json.Writer
import Mathlib.Tactic.Common

/-!
Texts between quotes. Every text that is written between quotes, escapes and surrogate pairs
included, is read back as itself (`text_quoted`, `memberName_quoted`).
-/

namespace IndexScan

/-! ### Hexadecimal digits -/

theorem Decimal.hex_one {n : Nat} (small : n < 16) : hex 1 n = [n.digitChar] := by
  simp [hex, Nat.toDigits_of_lt_base small]

/-- Padded digits: the last one stands behind those of the rest. -/
theorem Decimal.hex_succ (w n : Nat) :
    hex (w + 2) n = hex (w + 1) (n / 16) ++ [(n % 16).digitChar] := by
  by_cases small : n < 16
  · rw [hex, hex, Nat.div_eq_of_lt small, Nat.mod_eq_of_lt small, Nat.toDigits_of_lt_base small,
      Nat.toDigits_zero]
    simp [List.replicate_succ']
  · have longer := Nat.toDigits_of_base_le (b := 16) (by decide) (Nat.le_of_not_lt small)
    simp only [hex, longer, List.length_append, List.length_singleton, Nat.reduceSubDiff]
    rw [List.append_assoc]

/-- The four digits of a 16-bit number. -/
theorem Decimal.hex_four {n : Nat} (small : n < 0x10000) :
    hex 4 n = [(n / 0x1000).digitChar, (n / 0x100 % 16).digitChar, (n / 0x10 % 16).digitChar,
      (n % 16).digitChar] := by
  rw [hex_succ, hex_succ, hex_succ, hex_one (by omega)]
  simp [Nat.div_div_eq_div_mul]

namespace Json

theorem hexDigit?_digitChar : ∀ d < 16, hexDigit? d.digitChar = some d := by
  decide

theorem hex4?_digits {a b c d : Nat} (ha : a < 16) (hb : b < 16) (hc : c < 16) (hd : d < 16) :
    hex4? a.digitChar b.digitChar c.digitChar d.digitChar =
      some (((a * 16 + b) * 16 + c) * 16 + d) := by
  simp [hex4?, hexDigit?_digitChar a ha, hexDigit?_digitChar b hb, hexDigit?_digitChar c hc,
    hexDigit?_digitChar d hd]

/-! ### One code point -/

/-- The 16-bit units that a code point is written as. -/
def units (n : Nat) : List Nat :=
  if n < 0x10000 then [n]
  else [0xD800 + (n - 0x10000) / 0x400, 0xDC00 + (n - 0x10000) % 0x400]

/-- What is read before the rest of a text stands before what is read from it. -/
def before (ns : List Nat) (reading : Reading (List Nat)) : Reading (List Nat) :=
  reading.map fun (ms, after) => (ns ++ ms, after)

theorem before_before (ns ms : List Nat) (reading : Reading (List Nat)) :
    before ns (before ms reading) = before (ns ++ ms) reading := by
  cases reading <;> simp [before, Except.map]

variable {left n : Nat} {next : Char} {rest : List Char}

theorem points_unitEscape (small : n < 0x10000) (left : Nat) (next : Char) (rest : List Char) :
    points left (unitEscape n ++ next :: rest) = before [n] (points left (next :: rest)) := by
  have digits := hex4?_digits (a := n / 0x1000) (b := n / 0x100 % 16) (c := n / 0x10 % 16)
    (d := n % 16) (by omega) (by omega) (by omega) (by omega)
  have whole : ((n / 0x1000 * 16 + n / 0x100 % 16) * 16 + n / 0x10 % 16) * 16 + n % 16 = n := by
    omega
  rw [whole] at digits
  simp only [unitEscape, Decimal.hex_four small, List.cons_append, List.nil_append, points, digits]
  rfl

theorem points_pointEscape (valid : n < 0x110000) :
    points left (pointEscape n ++ next :: rest) =
      before (units n) (points left (next :: rest)) := by
  by_cases small : n < 0x10000
  · simp only [pointEscape, units, if_pos small, points_unitEscape small]
  · have first : 0xD800 + (n - 0x10000) / 0x400 < 0x10000 := by omega
    have second : 0xDC00 + (n - 0x10000) % 0x400 < 0x10000 := by omega
    have behind := points_unitEscape second left next rest
    simp only [pointEscape, units, if_neg small, List.append_assoc]
    rw [unitEscape, List.cons_append, List.cons_append] at behind ⊢
    rw [unitEscape, List.cons_append, List.cons_append]
    have ahead := points_unitEscape first left '\\'
      ('u' :: (Decimal.hex 4 (0xDC00 + (n - 0x10000) % 0x400) ++ next :: rest))
    rw [unitEscape, List.cons_append, List.cons_append] at ahead
    rw [ahead, behind, before_before]
    rfl

/-- A character that needs no escape stands for itself. -/
theorem points_plain {c : Char} (quote : c ≠ '"') (backslash : c ≠ '\\')
    (printable : 0x20 ≤ c.toNat) :
    points left (c :: rest) = before [c.toNat] (points left rest) := by
  rw [points]
  · rw [if_neg (by omega)]
    rfl
  · simp [backslash]
  · exact quote
  · simp [backslash]
  · simp [backslash]

/-- An escape of one letter stands for its character. -/
theorem points_short {e c : Char} (unit : e ≠ 'u') (short : shortEscape? e = some c) :
    points left ('\\' :: e :: rest) = before [c.toNat] (points left rest) := by
  rw [points]
  · rw [if_neg unit, short]
    rfl
  · simp [unit]

theorem units_small (small : n < 0x10000) : units n = [n] :=
  if_pos small

theorem toNat_valid (c : Char) : c.toNat < 0xD800 ∨ (0xE000 ≤ c.toNat ∧ c.toNat < 0x110000) :=
  c.valid

/-- What is written for a character is read as its units. -/
theorem points_quotedPoint (c : Char) :
    points left (quotedPoint c.toNat ++ next :: rest) =
      before (units c.toNat) (points left (next :: rest)) := by
  have code {k : Char} (same : c.toNat = k.toNat) : c = k := Char.toNat_inj.mp same
  have valid := toNat_valid c
  unfold quotedPoint
  split_ifs with quote backslash feed carriage tab bell form printable
  · obtain rfl := code (k := '"') quote
    exact points_short (e := '"') (by decide) rfl
  · obtain rfl := code (k := '\\') backslash
    exact points_short (e := '\\') (by decide) rfl
  · obtain rfl := code (k := '\n') feed
    exact points_short (e := 'n') (by decide) rfl
  · obtain rfl := code (k := '\r') carriage
    exact points_short (e := 'r') (by decide) rfl
  · obtain rfl := code (k := '\t') tab
    exact points_short (e := 't') (by decide) rfl
  · obtain rfl := code (k := '\x08') bell
    exact points_short (e := 'b') (by decide) rfl
  · obtain rfl := code (k := '\x0c') form
    exact points_short (e := 'f') (by decide) rfl
  · rw [units_small (by omega), Char.ofNat_toNat]
    exact points_plain (fun same => quote (same ▸ rfl)) (fun same => backslash (same ▸ rfl))
      printable.1
  · exact points_pointEscape (by omega)

/-! ### Whole texts -/

/-- The units of a text are read back up to its closing quote. -/
theorem points_flatMap (left : Nat) (cs : List Char) (rest : List Char) :
    points left (cs.flatMap (fun c => quotedPoint c.toNat) ++ '"' :: rest) =
      .ok (cs.flatMap fun c => units c.toNat, rest) := by
  induction cs with
  | nil => rfl
  | cons c cs ih =>
    rw [List.flatMap_cons, List.append_assoc]
    rcases behind : cs.flatMap (fun c => quotedPoint c.toNat) ++ '"' :: rest with _ | ⟨next, after⟩
    · simp at behind
    · rw [points_quotedPoint, ← behind, ih]
      rfl

theorem joinSurrogates_cons {h : Nat} {ns : List Nat} (single : h < 0xD800 ∨ 0xE000 ≤ h) :
    joinSurrogates (h :: ns) = h :: joinSurrogates ns := by
  cases ns with
  | nil => rfl
  | cons l ns => rw [joinSurrogates, if_neg (by omega)]

/-- The units of characters join into their code points. -/
theorem joinSurrogates_units (cs : List Char) :
    joinSurrogates (cs.flatMap fun c => units c.toNat) = cs.map Char.toNat := by
  induction cs with
  | nil => rfl
  | cons c cs ih =>
    have valid := toNat_valid c
    rw [List.flatMap_cons, List.map_cons]
    by_cases small : c.toNat < 0x10000
    · rw [units_small small, List.singleton_append, joinSurrogates_cons (by omega), ih]
    · have whole : 0x10000 + (0xD800 + (c.toNat - 0x10000) / 0x400 - 0xD800) * 0x400 +
          (0xDC00 + (c.toNat - 0x10000) % 0x400 - 0xDC00) = c.toNat := by
        omega
      rw [units, if_neg small, List.cons_append, List.singleton_append, joinSurrogates,
        if_pos (by omega), ih, whole]

theorem map_ofNat_toNat (cs : List Char) : (cs.map Char.toNat).map Char.ofNat = cs := by
  simp [Function.comp_def]

/-- The code points of characters are a text. -/
theorem ofPoints_toNat (cs : List Char) :
    ofPoints (cs.map Char.toNat) = .str (String.ofList cs) := by
  have whole : (cs.map Char.toNat).all (fun n => n < 0xD800 || 0xE000 ≤ n) = true := by
    rw [List.all_eq_true]
    intro n mem
    obtain ⟨c, _, rfl⟩ := List.mem_map.mp mem
    have valid := toNat_valid c
    simp only [Bool.or_eq_true, decide_eq_true_eq]
    omega
  rw [ofPoints, if_pos whole, map_ofNat_toNat]

/-- A text between quotes is read back as itself. -/
theorem text_quoted (s : String) (rest : List Char) :
    text (s.toList.flatMap (fun c => quotedPoint c.toNat) ++ '"' :: rest) = .ok (.str s, rest) := by
  rw [text, points_flatMap]
  simp only [Except.map, joinSurrogates_units, ofPoints_toNat, String.ofList_toList]

/-- So is the name of a member. -/
theorem memberName_quoted (s : String) (rest : List Char) :
    memberName (quoted s ++ ':' :: rest) = .ok (s, rest) := by
  have gap : skipGap (':' :: rest) = ':' :: rest := rfl
  simp only [quoted, List.cons_append, List.append_assoc, List.nil_append, memberName,
    points_flatMap, bind, Except.bind, gap, joinSurrogates_units, map_ofNat_toNat,
    String.ofList_toList]
  rfl

end Json
end IndexScan
