import IndexScan.Proofs.Console.Escaped
import Mathlib.Data.List.Infix

/-!
What text shows. A piece of text that is no tag is shown as it stands unless a backslash in it stands
in front of a bracket, or colons in it enclose the name of an emoji (`Plain`, `shown_of_plain`).
Otherwise what is shown parts from the text at that backslash or colon (`parts_shown`), and nothing
that follows can make up for it.
-/

namespace IndexScan.Console.Markup

open Text

variable {cs ds xs ys rest body name emoji : List Char} {c : Char}

/-! ### Texts that part -/

/-- `cs` and `ds` are the same up to a character of `cs` that is no space, and `ds` goes on with
another. -/
def Parts (cs ds : List Char) : Prop :=
  ∃ front c d rest other, cs = front ++ c :: rest ∧ ds = front ++ d :: other ∧ c ≠ d ∧ c ≠ ' '

theorem Parts.append (parts : Parts cs ds) (xs ys : List Char) : Parts (cs ++ xs) (ds ++ ys) := by
  obtain ⟨front, c, d, rest, other, rfl, rfl, differ, solid⟩ := parts
  exact ⟨front, c, d, rest ++ xs, other ++ ys, by simp, by simp, differ, solid⟩

theorem Parts.prepend (parts : Parts cs ds) (xs : List Char) : Parts (xs ++ cs) (xs ++ ds) := by
  obtain ⟨front, c, d, rest, other, rfl, rfl, differ, solid⟩ := parts
  exact ⟨xs ++ front, c, d, rest, other, by simp, by simp, differ, solid⟩

/-- A text that parts from another does not begin it. -/
theorem Parts.not_within (parts : Parts cs ds) : ¬ cs <+: ds := by
  obtain ⟨front, c, d, rest, other, rfl, rfl, differ, -⟩ := parts
  intro within
  have within := (List.prefix_append_right_inj front).mp within
  exact differ (List.cons_prefix_cons.mp within).1

/-! ### Open brackets -/

/-- A backslash stands in front of a bracket. -/
def Slashed (cs : List Char) : Prop :=
  ['\\', '['] <:+: cs

instance (cs : List Char) : Decidable (Slashed cs) :=
  inferInstanceAs (Decidable (_ <:+: _))

theorem Slashed.cons (slashed : Slashed cs) (c : Char) : Slashed (c :: cs) :=
  List.infix_cons slashed

theorem openBrackets_of_not_slashed (plain : ¬ Slashed cs) : openBrackets cs = cs := by
  induction cs using openBrackets.induct with
  | case1 rest ih => exact absurd ⟨[], rest, rfl⟩ plain
  | case2 c rest other ih =>
    rw [openBrackets.eq_2 _ _ other, ih fun slashed => plain (slashed.cons c)]
  | case3 => rfl

/-- The first backslash in front of a bracket is left out. -/
theorem openBrackets_of_slashed (slashed : Slashed cs) :
    ∃ front rest other, cs = front ++ '\\' :: rest ∧ openBrackets cs = front ++ '[' :: other := by
  induction cs using openBrackets.induct with
  | case1 rest ih => exact ⟨[], '[' :: rest, openBrackets rest, rfl, rfl⟩
  | case2 c rest other ih =>
    have later : Slashed rest := by
      rcases List.infix_cons_iff.mp slashed with begins | later
      · obtain ⟨behind, same⟩ := begins
        cases same
        exact absurd rfl (other behind rfl)
      · exact later
    obtain ⟨front, behind, shown, rfl, eq⟩ := ih later
    exact ⟨c :: front, behind, shown, rfl, by rw [openBrackets.eq_2 _ _ other, eq]; rfl⟩
  | case3 => exact absurd slashed (by decide)

theorem mem_openBrackets (mem : c ∈ openBrackets cs) : c ∈ cs := by
  induction cs using openBrackets.induct with
  | case1 rest ih =>
    rw [openBrackets] at mem
    rcases List.mem_cons.mp mem with rfl | later
    · simp
    · simp [ih later]
  | case2 d rest other ih =>
    rw [openBrackets.eq_2 _ _ other] at mem
    rcases List.mem_cons.mp mem with rfl | later
    · simp
    · simp [ih later]
  | case3 => exact mem

/-- Backslashes at the end stand in front of nothing. -/
theorem openBrackets_append_backslashes (cs : List Char) (n : Nat) :
    openBrackets (cs ++ List.replicate n '\\') = openBrackets cs ++ List.replicate n '\\' := by
  induction cs using openBrackets.induct with
  | case1 rest ih => simp only [List.cons_append, openBrackets, ih]
  | case2 c rest other ih =>
    have still : ∀ behind, c = '\\' → rest ++ List.replicate n '\\' = '[' :: behind → False := by
      intro behind slash begins
      cases rest with
      | nil =>
        have bracket : '[' ∈ List.replicate n '\\' := by
          rw [← List.nil_append (List.replicate n '\\'), begins]
          exact List.mem_cons_self
        exact absurd (List.eq_of_mem_replicate bracket) (by decide)
      | cons d rest =>
        cases begins
        exact other rest slash rfl
    rw [openBrackets.eq_2 _ _ other, List.cons_append, openBrackets.eq_2 _ _ still, ih]
    rfl
  | case3 =>
    rw [List.nil_append]
    exact openBrackets_of_not_slashed fun slashed => by
      have bracket : '[' ∈ List.replicate n '\\' := slashed.subset (by simp)
      exact absurd (List.eq_of_mem_replicate bracket) (by decide)

/-! ### Codes -/

/-- Text that can stand between the colons of a code. -/
def IsName (name : List Char) : Prop :=
  ∀ c ∈ name, c ≠ ':' ∧ isBlank c = false

/-- A code begins with `c`: it is a colon, and behind it stand a name and another colon. -/
def Codes (c : Char) (cs : List Char) : Prop :=
  c = ':' ∧ ∃ name rest, IsName name ∧ cs = name ++ ':' :: rest

/-- A text is read code by code: where a code begins, it is passed as a whole. -/
theorem codes_induction {motive : List Char → Prop} (nil : motive [])
    (code : ∀ name rest, IsName name → motive rest → motive (':' :: (name ++ ':' :: rest)))
    (onward : ∀ c rest, ¬ Codes c rest → motive rest → motive (c :: rest)) :
    ∀ cs, motive cs := by
  suffices bounded : ∀ n (cs : List Char), cs.length ≤ n → motive cs from
    fun cs => bounded cs.length cs (Nat.le_refl _)
  intro n
  induction n with
  | zero =>
    intro cs short
    rw [List.length_eq_zero_iff.mp (Nat.le_zero.mp short)]
    exact nil
  | succ n ih =>
    intro cs short
    cases cs with
    | nil => exact nil
    | cons c cs =>
      rw [List.length_cons] at short
      by_cases codes : Codes c cs
      · obtain ⟨rfl, name, rest, isName, rfl⟩ := codes
        rw [List.length_append, List.length_cons] at short
        exact code name rest isName (ih rest (by omega))
      · exact onward c cs codes (ih cs (by omega))

theorem takeWhile_name (isName : IsName name) (rest : List Char) :
    (name ++ ':' :: rest).takeWhile (fun d => d != ':' && !isBlank d) = name := by
  have inside : ∀ d ∈ name, (d != ':' && !isBlank d) = true := by
    intro d mem
    obtain ⟨colon, blank⟩ := isName d mem
    simp [colon, blank]
  rw [List.takeWhile_append_of_pos inside, List.takeWhile_cons_of_neg (by decide), List.append_nil]

/-- Characters that were dealt with are left out. -/
theorem replaceEmoji_skip (xs rest : List Char) :
    replaceEmoji xs.length (xs ++ rest) = replaceEmoji 0 rest := by
  induction xs with
  | nil => rfl
  | cons c xs ih => rw [List.length_cons, List.cons_append, replaceEmoji, ih]

/-- A code becomes the emoji that it names, or stays as it is. -/
theorem replaceEmoji_code (isName : IsName name) (rest : List Char) :
    replaceEmoji 0 (':' :: (name ++ ':' :: rest)) =
      (emojiOf? name).getD (':' :: name ++ [':']) ++ replaceEmoji 0 rest := by
  have passed := replaceEmoji_skip (name ++ [':']) rest
  rw [List.length_append, List.length_singleton, List.append_assoc, List.singleton_append] at passed
  rw [replaceEmoji, if_pos rfl]
  simp only [takeWhile_name isName, List.drop_left, List.head?_cons, if_true, passed]

theorem replaceEmoji_onward (onward : ¬ Codes c cs) :
    replaceEmoji 0 (c :: cs) = c :: replaceEmoji 0 cs := by
  rw [replaceEmoji]
  by_cases colon : c = ':'
  · rw [if_pos colon]
    have parts := List.takeWhile_append_dropWhile (p := fun d => d != ':' && !isBlank d) (l := cs)
    have behind : cs.drop (cs.takeWhile fun d => d != ':' && !isBlank d).length =
        cs.dropWhile fun d => d != ':' && !isBlank d := by
      conv_lhs => arg 2; rw [← parts]
      exact List.drop_left
    rw [if_neg]
    rw [behind]
    intro closes
    obtain ⟨rest, eq⟩ := List.head?_eq_some_iff.mp closes
    refine onward ⟨colon, _, rest, fun d mem => ?_, by rw [← eq, parts]⟩
    simpa using List.mem_takeWhile_imp mem
  · rw [if_neg colon]

/-- Backslashes at the end close no code. -/
theorem not_codes_append_backslashes (onward : ¬ Codes c cs) (n : Nat) :
    ¬ Codes c (cs ++ List.replicate n '\\') := by
  rintro ⟨colon, name, rest, isName, same⟩
  rcases List.append_eq_append_iff.mp same with ⟨between, rfl, later⟩ | ⟨between, rfl, sooner⟩
  · have closes : ':' ∈ List.replicate n '\\' := later ▸ List.mem_append_right _ (by simp)
    exact absurd (List.eq_of_mem_replicate closes) (by decide)
  · cases between with
    | nil =>
      have closes : ':' ∈ List.replicate n '\\' := by
        rw [List.nil_append] at sooner
        exact sooner ▸ List.mem_cons_self
      exact absurd (List.eq_of_mem_replicate closes) (by decide)
    | cons d between =>
      cases sooner
      exact onward ⟨colon, name, between, isName, rfl⟩

theorem replaceEmoji_append_backslashes (cs : List Char) (n : Nat) :
    replaceEmoji 0 (cs ++ List.replicate n '\\') =
      replaceEmoji 0 cs ++ List.replicate n '\\' := by
  induction cs using codes_induction with
  | nil =>
    induction n with
    | zero => rfl
    | succ n ih =>
      have slash : ¬ Codes '\\' (List.replicate n '\\') := fun codes => absurd codes.1 (by decide)
      rw [List.replicate_succ, List.nil_append, replaceEmoji_onward slash]
      exact congrArg _ ih
  | code name rest isName ih =>
    have apart : ':' :: (name ++ ':' :: rest) ++ List.replicate n '\\' =
        ':' :: (name ++ ':' :: (rest ++ List.replicate n '\\')) := by simp
    rw [apart, replaceEmoji_code isName, replaceEmoji_code isName, ih, List.append_assoc]
  | onward c rest onward ih =>
    rw [List.cons_append, replaceEmoji_onward (not_codes_append_backslashes onward n), ih,
      replaceEmoji_onward onward, List.cons_append]

/-- A name that stands between colons is that of an emoji, when the text is read code by code. -/
inductive NamesEmoji : List Char → Prop where
  | here {name emoji rest : List Char} (isName : IsName name) (is : emojiOf? name = some emoji) :
      NamesEmoji (':' :: (name ++ ':' :: rest))
  | behind {name rest : List Char} (isName : IsName name) (later : NamesEmoji rest) :
      NamesEmoji (':' :: (name ++ ':' :: rest))
  | onward {c : Char} {rest : List Char} (onward : ¬ Codes c rest) (later : NamesEmoji rest) :
      NamesEmoji (c :: rest)

/-- The name of an emoji stands between two colons. -/
theorem two_le_count_of_namesEmoji (names : NamesEmoji cs) : 2 ≤ cs.count ':' := by
  induction names with
  | here _ _ | behind _ _ _ =>
    simp only [List.count_cons_self, List.count_append]
    omega
  | onward _ _ ih => exact Nat.le_trans ih List.count_le_count_cons

theorem replaceEmoji_of_not_names (none : ¬ NamesEmoji cs) : replaceEmoji 0 cs = cs := by
  induction cs using codes_induction with
  | nil => rfl
  | code name rest isName ih =>
    rw [replaceEmoji_code isName, ih fun later => none (.behind isName later)]
    cases is : emojiOf? name with
    | none => simp
    | some emoji => exact absurd (.here isName is) none
  | onward c rest onward ih =>
    rw [replaceEmoji_onward onward, ih fun later => none (.onward onward later)]

/-! ### Emoji -/

/-- Text without control characters. -/
def Calm (cs : List Char) : Prop :=
  ∀ c ∈ cs, 0x20 ≤ c.toNat

/-- An emoji can be told from the code that names it. -/
structure Distinct (emoji : List Char) : Prop where
  begins : ∃ d other, emoji = d :: other ∧ d ≠ ':'
  calm : Calm emoji

/-- The numbers are code points of an emoji that does not begin with a colon. -/
def areDistinct (points : List Nat) : Bool :=
  points.head?.any (· != 0x3A) &&
    points.all fun n => 0x20 ≤ n && (n < 0xD800 || 0xDFFF < n && n < 0x110000)

theorem areDistinct_emojiNames : emojiNames.all (fun e => areDistinct e.2) = true := by
  decide +kernel

theorem distinct_of_areDistinct {points : List Nat} (distinct : areDistinct points = true) :
    Distinct (points.map Char.ofNat) := by
  obtain ⟨first, all⟩ := Bool.and_eq_true_iff.mp distinct
  have code : ∀ n ∈ points, (Char.ofNat n).toNat = n ∧ 0x20 ≤ n := by
    intro n mem
    have valid := List.all_eq_true.mp all n mem
    simp only [Bool.and_eq_true, Bool.or_eq_true, decide_eq_true_eq] at valid
    have isValid : n.isValidChar := by
      rcases valid.2 with low | high
      · exact .inl low
      · exact .inr ⟨high.1, high.2⟩
    exact ⟨congrArg Char.toNat (dif_pos isValid), valid.1⟩
  constructor
  · cases points with
    | nil => cases first
    | cons n points =>
      refine ⟨Char.ofNat n, points.map Char.ofNat, rfl, ?_⟩
      intro colon
      have same : n = 0x3A := by rw [← (code n (by simp)).1, colon]; rfl
      simp [same] at first
  · intro c mem
    obtain ⟨n, inside, rfl⟩ := List.mem_map.mp mem
    rw [(code n inside).1]
    exact (code n inside).2

theorem distinct_of_emoji? (is : emoji? name = some emoji) : Distinct emoji := by
  obtain ⟨e, found, rfl⟩ := Option.map_eq_some_iff.mp is
  have mem := List.mem_of_find?_eq_some found
  exact distinct_of_areDistinct (List.all_eq_true.mp areDistinct_emojiNames e mem)

theorem Distinct.append (distinct : Distinct emoji) (calm : Calm xs) : Distinct (emoji ++ xs) := by
  obtain ⟨⟨d, other, rfl, differs⟩, before⟩ := distinct
  exact ⟨⟨d, other ++ xs, rfl, differs⟩, fun c mem =>
    (List.mem_append.mp mem).elim (before c) (calm c)⟩

theorem distinct_of_emojiOf? (is : emojiOf? name = some emoji) : Distinct emoji := by
  have selected (selector : Char) (calm : 0x20 ≤ selector.toNat) {name : List Char}
      (is : (emoji? name).map (· ++ [selector]) = some emoji) : Distinct emoji := by
    obtain ⟨plain, found, rfl⟩ := Option.map_eq_some_iff.mp is
    exact (distinct_of_emoji? found).append (List.forall_mem_singleton.mpr calm)
  unfold emojiOf? at is
  dsimp only at is
  split at is
  · exact selected _ (by decide) is
  · split at is
    · exact selected _ (by decide) is
    · exact distinct_of_emoji? is

theorem replaceEmoji_calm (calm : Calm cs) : Calm (replaceEmoji 0 cs) := by
  induction cs using codes_induction with
  | nil => exact calm
  | code name rest isName ih =>
    obtain ⟨colon, others⟩ := List.forall_mem_cons.mp calm
    obtain ⟨inside, behind⟩ := List.forall_mem_append.mp others
    rw [replaceEmoji_code isName]
    refine List.forall_mem_append.mpr ⟨?_, ih (List.forall_mem_cons.mp behind).2⟩
    cases is : emojiOf? name with
    | none => exact List.forall_mem_append.mpr ⟨List.forall_mem_cons.mpr ⟨colon, inside⟩,
        List.forall_mem_singleton.mpr colon⟩
    | some emoji => exact (distinct_of_emojiOf? is).calm
  | onward c rest onward ih =>
    obtain ⟨first, others⟩ := List.forall_mem_cons.mp calm
    rw [replaceEmoji_onward onward]
    exact List.forall_mem_cons.mpr ⟨first, ih others⟩

/-- Where an emoji is named, the text that is shown goes on with something other than the colon. -/
theorem replaceEmoji_of_names (names : NamesEmoji cs) :
    ∃ front d rest other, cs = front ++ ':' :: rest ∧ replaceEmoji 0 cs = front ++ d :: other ∧
      d ≠ ':' := by
  induction names with
  | @here name emoji rest isName is =>
    obtain ⟨⟨d, other, rfl, differs⟩, -⟩ := distinct_of_emojiOf? is
    refine ⟨[], d, name ++ ':' :: rest, other ++ replaceEmoji 0 rest, rfl, ?_, differs⟩
    rw [replaceEmoji_code isName, is]
    rfl
  | @behind name rest isName later ih =>
    cases is : emojiOf? name with
    | none =>
      obtain ⟨front, d, behind, other, rfl, eq, differs⟩ := ih
      refine ⟨':' :: name ++ ':' :: front, d, behind, other, by simp, ?_, differs⟩
      rw [replaceEmoji_code isName, is, eq]
      simp
    | some emoji =>
      obtain ⟨⟨d, other, rfl, differs⟩, -⟩ := distinct_of_emojiOf? is
      refine ⟨[], d, name ++ ':' :: rest, other ++ replaceEmoji 0 rest, rfl, ?_, differs⟩
      rw [replaceEmoji_code isName, is]
      rfl
  | @onward c rest onward later ih =>
    obtain ⟨front, d, behind, other, rfl, eq, differs⟩ := ih
    exact ⟨c :: front, d, behind, other, rfl, by rw [replaceEmoji_onward onward, eq]; rfl, differs⟩

/-! ### Plain text -/

/-- Text that is shown as it stands. -/
def Plain (cs : List Char) : Prop :=
  ¬ Slashed cs ∧ ¬ NamesEmoji cs

theorem calm_openBrackets (calm : Calm cs) : Calm (openBrackets cs) :=
  fun c mem => calm c (mem_openBrackets mem)

/-- Nothing is dropped from text without control characters. -/
theorem shown_of_calm (calm : Calm cs) : shown cs = replaceEmoji 0 (openBrackets cs) := by
  refine List.filter_eq_self.mpr fun c mem => ?_
  have above := replaceEmoji_calm (calm_openBrackets calm) c mem
  simp [isDropped]
  omega

theorem shown_calm (calm : Calm cs) : Calm (shown cs) := by
  rw [shown_of_calm calm]
  exact replaceEmoji_calm (calm_openBrackets calm)

/-- Backslashes at the end are shown. -/
theorem shown_append_backslashes (cs : List Char) (n : Nat) :
    shown (cs ++ List.replicate n '\\') = shown cs ++ List.replicate n '\\' := by
  have kept : (List.replicate n '\\').filter (fun c => !isDropped c) = List.replicate n '\\' := by
    refine List.filter_eq_self.mpr fun c mem => ?_
    rw [List.eq_of_mem_replicate mem]
    rfl
  rw [shown, openBrackets_append_backslashes, replaceEmoji_append_backslashes, List.filter_append,
    kept]
  rfl

/-- A space in front is shown. -/
theorem shown_cons_space (cs : List Char) : shown (' ' :: cs) = ' ' :: shown cs := by
  have space : ¬ Codes ' ' (openBrackets cs) := fun codes => absurd codes.1 (by decide)
  have kept : openBrackets (' ' :: cs) = ' ' :: openBrackets cs :=
    openBrackets.eq_2 _ _ fun _ slash => absurd slash (by decide)
  rw [shown, kept, replaceEmoji_onward space]
  rfl

theorem shown_of_plain (calm : Calm cs) (plain : Plain cs) : shown cs = cs := by
  rw [shown_of_calm calm, openBrackets_of_not_slashed plain.1, replaceEmoji_of_not_names plain.2]

/-- Text that is not plain is not shown as it stands. What parts from it first, the bracket without
its backslash or the emoji in place of its name, decides. -/
theorem parts_shown (calm : Calm cs) (other : ¬ Plain cs) : Parts cs (shown cs) := by
  rw [shown_of_calm calm]
  by_cases slashed : Slashed cs
  · obtain ⟨front, rest, opened, rfl, eq⟩ := openBrackets_of_slashed slashed
    rw [eq]
    by_cases names : NamesEmoji (front ++ '[' :: opened)
    · obtain ⟨before, d, behind, shows, same, shown, differs⟩ := replaceEmoji_of_names names
      rw [shown]
      rcases List.append_eq_append_iff.mp same with ⟨between, rfl, later⟩ | ⟨between, rfl, sooner⟩
      · -- The bracket comes first.
        cases between with
        | nil => cases later
        | cons c between =>
          cases later
          exact ⟨front, '\\', '[', rest, between ++ d :: shows, rfl, by simp, by decide, by decide⟩
      · -- The emoji comes first.
        cases between with
        | nil => cases sooner
        | cons c between =>
          cases sooner
          exact ⟨before, ':', d, between ++ '\\' :: rest, shows, by simp, rfl, differs.symm,
            by decide⟩
    · rw [replaceEmoji_of_not_names names]
      exact ⟨front, '\\', '[', rest, opened, rfl, rfl, by decide, by decide⟩
  · have names : NamesEmoji cs := by
      by_contra none
      exact other ⟨slashed, none⟩
    rw [openBrackets_of_not_slashed slashed]
    obtain ⟨front, d, rest, shows, same, shown, differs⟩ := replaceEmoji_of_names names
    exact ⟨front, ':', d, rest, shows, same, shown, differs.symm, by decide⟩

end IndexScan.Console.Markup
