import Mathlib.Data.List.DropRight
import Mathlib.Data.List.Infix
import SourceServer.Proofs.Text.Unbroken

/-!
# Replacing and counting fixed text

Occurrences are found from left to right. A text that is put together from parts can be treated part
by part, where no occurrence lies across a border; so what is put in place of one text can be found
and replaced again, if the parts around it do not imitate it.

- `Search.Parted`: no occurrence lies across a border.
- `Search.replaceAll_append`, `Search.occurrences_append`: both sides of such a border are treated
  apart.
- `Search.splitAtFirst?_eq_some_iff`: where a text occurs for the first time.
- `Search.occurrences_eq_zero_iff`: when a text does not occur.
- `Search.replaceAll_eq_intercalate`: replacing is splitting and joining.
- `Search.replaceAll_intercalate`, `Search.replaceAll_intercalate_self`: replacing in joined parts.
-/

namespace SourceServer

namespace Search

variable {pattern replacement s t : List Char}

/-! ## One occurrence -/

theorem replaceFrom_skip (pattern replacement front rest : List Char) :
    replaceFrom pattern replacement front.length (front ++ rest)
      = replaceFrom pattern replacement 0 rest := by
  induction front with
  | nil => rfl
  | cons c front ih =>
    rw [List.length_cons, List.cons_append, replaceFrom]
    exact ih

/-- An occurrence in front is replaced. -/
theorem replaceAll_occurrence (hpattern : pattern ≠ []) (replacement rest : List Char) :
    replaceAll pattern replacement (pattern ++ rest)
      = replacement ++ replaceAll pattern replacement rest := by
  cases pattern with
  | nil => exact absurd rfl hpattern
  | cons first others =>
    rw [replaceAll, List.cons_append, replaceFrom, if_pos (by simp)]
    exact congrArg (replacement ++ ·) (replaceFrom_skip _ _ others rest)

theorem replaceAll_self (hpattern : pattern ≠ []) (replacement : List Char) :
    replaceAll pattern replacement pattern = replacement := by
  have h := replaceAll_occurrence hpattern replacement []
  rwa [List.append_nil, show replaceAll pattern replacement [] = [] from rfl,
    List.append_nil] at h

/-! ## The first occurrence -/

theorem dropPrefix?_eq_some_iff {rest : List Char} :
    dropPrefix? pattern s = some rest ↔ s = pattern ++ rest := by
  induction pattern generalizing s with
  | nil => rw [dropPrefix?, Option.some.injEq, List.nil_append]
  | cons p pattern ih =>
    cases s with
    | nil => exact iff_of_false nofun nofun
    | cons c s =>
      rw [dropPrefix?, List.cons_append, List.cons.injEq]
      split
      · rename_i heq
        rw [ih, and_iff_right heq.symm]
      · rename_i hne
        exact iff_of_false nofun fun h => hne h.1.symm

/-- A text is not split exactly when the pattern does not occur in it. -/
theorem splitAtFirst?_eq_none_iff : splitAtFirst? pattern s = none ↔ ¬ pattern <:+: s := by
  induction s with
  | nil =>
    rw [splitAtFirst?, List.infix_nil]
    cases pattern <;> simp
  | cons c s ih =>
    rw [splitAtFirst?, List.infix_cons_iff, not_or]
    cases hfront : dropPrefix? pattern (c :: s) with
    | some rest =>
      refine iff_of_false nofun fun h => h.1 ?_
      rw [dropPrefix?_eq_some_iff.mp hfront]
      exact List.prefix_append pattern rest
    | none =>
      have hbegins : ¬ pattern <+: c :: s := by
        rintro ⟨rest, hrest⟩
        rw [dropPrefix?_eq_some_iff.mpr hrest.symm] at hfront
        cases hfront
      show Option.map _ _ = none ↔ _
      rw [Option.map_eq_none_iff, ih, and_iff_right hbegins]

theorem eq_and_le_of_splitAtFirst? {before after : List Char}
    (h : splitAtFirst? pattern s = some (before, after)) :
    s = before ++ pattern ++ after
      ∧ ∀ front back, s = front ++ pattern ++ back → before.length ≤ front.length := by
  induction s generalizing before with
  | nil =>
    rw [splitAtFirst?] at h
    split at h
    · rename_i hempty
      obtain ⟨rfl, rfl⟩ := Prod.mk.inj (Option.some.inj h)
      rw [List.isEmpty_iff.mp hempty]
      exact ⟨rfl, fun _ _ _ => Nat.zero_le _⟩
    · cases h
  | cons c s ih =>
    rw [splitAtFirst?] at h
    cases hfront : dropPrefix? pattern (c :: s) with
    | some rest =>
      rw [hfront] at h
      obtain ⟨rfl, rfl⟩ := Prod.mk.inj (Option.some.inj h)
      exact ⟨dropPrefix?_eq_some_iff.mp hfront, fun _ _ _ => Nat.zero_le _⟩
    | none =>
      rw [hfront] at h
      obtain ⟨⟨rest, found⟩, hrest, heq⟩ := Option.map_eq_some_iff.mp h
      obtain ⟨rfl, rfl⟩ := Prod.mk.inj heq
      obtain ⟨htext, hfirst⟩ := ih hrest
      refine ⟨by rw [htext]; rfl, fun front back hsplit => ?_⟩
      cases front with
      | nil =>
        -- the pattern does not stand in front
        rw [List.nil_append] at hsplit
        rw [dropPrefix?_eq_some_iff.mpr hsplit] at hfront
        cases hfront
      | cons x front =>
        rw [List.length_cons, List.length_cons]
        exact Nat.succ_le_succ (hfirst front back (List.cons.inj hsplit).2)

/-- A text is split where the pattern occurs for the first time. -/
theorem splitAtFirst?_eq_some_iff {before after : List Char} :
    splitAtFirst? pattern s = some (before, after)
      ↔ s = before ++ pattern ++ after
        ∧ ∀ front back, s = front ++ pattern ++ back → before.length ≤ front.length := by
  refine ⟨eq_and_le_of_splitAtFirst?, fun ⟨htext, hfirst⟩ => ?_⟩
  cases hsplit : splitAtFirst? pattern s with
  | none => exact absurd ⟨before, after, htext.symm⟩ (splitAtFirst?_eq_none_iff.mp hsplit)
  | some parts =>
    obtain ⟨front, back⟩ := parts
    obtain ⟨htext', hfirst'⟩ := eq_and_le_of_splitAtFirst? hsplit
    -- both are first, so they are as long
    have hlength := Nat.le_antisymm (hfirst' before after htext) (hfirst front back htext')
    have hparts : front ++ (pattern ++ back) = before ++ (pattern ++ after) := by
      rw [← List.append_assoc, ← List.append_assoc, ← htext, ← htext']
    obtain ⟨rfl, hrest⟩ := List.append_inj hparts hlength
    rw [List.append_cancel_left hrest]

/-! ## No occurrence -/

/-- Without an occurrence nothing is replaced. -/
theorem replaceAll_of_not_infix (h : ¬ pattern <:+: s) (replacement : List Char) :
    replaceAll pattern replacement s = s := by
  rw [replaceAll]
  induction s with
  | nil => rfl
  | cons c s ih =>
    rw [List.infix_cons_iff, not_or] at h
    rw [replaceFrom, if_neg (fun hbegins => h.1 (List.isPrefixOf_iff_prefix.mp hbegins)), ih h.2]

/-- None is counted exactly when there is none. -/
theorem occurrences_eq_zero_iff (hpattern : pattern ≠ []) :
    occurrences pattern s = 0 ↔ ¬ pattern <:+: s := by
  rw [occurrences]
  induction s with
  | nil => simpa [occurrencesFrom] using hpattern
  | cons c s ih =>
    rw [List.infix_cons_iff, not_or, occurrencesFrom, ← List.isPrefixOf_iff_prefix]
    split
    · rename_i hbegins
      simp [hbegins]
    · rename_i hbegins
      simp [hbegins, ih]

/-- The replacement stands where the text occurred. -/
theorem infix_replaceAll (h : pattern <:+: s) (hpattern : pattern ≠ [])
    (replacement : List Char) : replacement <:+: replaceAll pattern replacement s := by
  rw [replaceAll]
  induction s with
  | nil => exact absurd (List.infix_nil.mp h) hpattern
  | cons c s ih =>
    rw [replaceFrom]
    split
    · exact List.infix_append [] replacement _
    · rename_i hbegins
      rw [List.infix_cons_iff, ← List.isPrefixOf_iff_prefix] at h
      exact (ih (h.resolve_left hbegins)).trans (List.infix_cons List.infix_rfl)

/-! ## Borders -/

/-- No occurrence of `pattern` lies across the border between `s` and `t`. -/
def Parted (pattern s t : List Char) : Prop :=
  ∀ front back, pattern = front ++ back → front ≠ [] → back ≠ [] → front <:+ s → ¬ back <+: t

theorem Parted.of_cons {c : Char} (h : Parted pattern (c :: s) t) : Parted pattern s t :=
  fun front back hpattern hfront hback hs =>
    h front back hpattern hfront hback (hs.trans (List.suffix_cons c s))

/-- An occurrence that begins in front of the border ends there. -/
theorem Parted.isPrefixOf_append (h : Parted pattern s t) (hs : s ≠ []) :
    pattern.isPrefixOf (s ++ t) = pattern.isPrefixOf s := by
  rw [Bool.eq_iff_iff, List.isPrefixOf_iff_prefix, List.isPrefixOf_iff_prefix]
  refine ⟨fun hbegins => ?_, fun hbegins => hbegins.trans (List.prefix_append s t)⟩
  rcases Nat.le_total pattern.length s.length with hlength | hlength
  · exact List.prefix_of_prefix_length_le hbegins (List.prefix_append s t) hlength
  · -- it begins with all of `s`, and what is left of it would stand behind the border
    obtain ⟨back, rfl⟩ :=
      List.prefix_of_prefix_length_le (List.prefix_append s t) hbegins hlength
    by_cases hback : back = []
    · rw [hback, List.append_nil]
    · exact absurd ((List.prefix_append_right_inj s).mp hbegins)
        (h s back rfl hs hback List.suffix_rfl)

theorem replaceFrom_append (h : Parted pattern s t) (replacement : List Char) {skip : Nat}
    (hskip : skip ≤ s.length) :
    replaceFrom pattern replacement skip (s ++ t)
      = replaceFrom pattern replacement skip s ++ replaceFrom pattern replacement 0 t := by
  induction s generalizing skip with
  | nil =>
    rw [Nat.le_zero.mp hskip]
    rfl
  | cons c s ih =>
    cases skip with
    | succ skip =>
      rw [List.cons_append, replaceFrom, replaceFrom]
      exact ih h.of_cons (Nat.le_of_succ_le_succ hskip)
    | zero =>
      have hbegins := h.isPrefixOf_append (List.cons_ne_nil c s)
      rw [List.cons_append] at hbegins ⊢
      rw [replaceFrom, replaceFrom, hbegins]
      split
      · rename_i hfound
        have hlength := (List.isPrefixOf_iff_prefix.mp hfound).length_le
        rw [List.length_cons] at hlength
        rw [ih h.of_cons (by omega), List.append_assoc]
      · rw [ih h.of_cons (Nat.zero_le _), List.cons_append]

theorem occurrencesFrom_append (h : Parted pattern s t) {skip : Nat} (hskip : skip ≤ s.length) :
    occurrencesFrom pattern skip (s ++ t)
      = occurrencesFrom pattern skip s + occurrencesFrom pattern 0 t := by
  induction s generalizing skip with
  | nil =>
    rw [Nat.le_zero.mp hskip]
    exact (Nat.zero_add _).symm
  | cons c s ih =>
    cases skip with
    | succ skip =>
      rw [List.cons_append, occurrencesFrom, occurrencesFrom]
      exact ih h.of_cons (Nat.le_of_succ_le_succ hskip)
    | zero =>
      have hbegins := h.isPrefixOf_append (List.cons_ne_nil c s)
      rw [List.cons_append] at hbegins ⊢
      rw [occurrencesFrom, occurrencesFrom, hbegins]
      split
      · rename_i hfound
        have hlength := (List.isPrefixOf_iff_prefix.mp hfound).length_le
        rw [List.length_cons] at hlength
        rw [ih h.of_cons (by omega), Nat.add_right_comm]
      · exact ih h.of_cons (Nat.zero_le _)

/-- Both sides of a border are replaced apart. -/
theorem replaceAll_append (h : Parted pattern s t) (replacement : List Char) :
    replaceAll pattern replacement (s ++ t)
      = replaceAll pattern replacement s ++ replaceAll pattern replacement t :=
  replaceFrom_append h replacement (Nat.zero_le _)

/-- Both sides of a border are counted apart. -/
theorem occurrences_append (h : Parted pattern s t) :
    occurrences pattern (s ++ t) = occurrences pattern s + occurrences pattern t :=
  occurrencesFrom_append h (Nat.zero_le _)

/-- An occurrence does not go on with a character that it only begins with. -/
theorem parted_of_notMem_tail {c : Char} (hc : c ∉ pattern.tail) (s t : List Char) :
    Parted pattern s (c :: t) := by
  intro front back hpattern hfront hback _ hbegins
  obtain ⟨first, front, rfl⟩ := List.exists_cons_of_ne_nil hfront
  obtain ⟨next, back, rfl⟩ := List.exists_cons_of_ne_nil hback
  obtain rfl : next = c := (List.cons_prefix_cons.mp hbegins).1
  exact hc (by simp [hpattern])

/-- An occurrence that stops is not gone on with. -/
theorem parted_of_notMem_dropLast {c : Char} (hc : c ∉ pattern.dropLast) (s t : List Char) :
    Parted pattern (s ++ [c]) t := by
  intro front back hpattern hfront hback hsuffix _
  obtain hnil | ⟨front, rfl, -⟩ := List.suffix_concat_iff.mp hsuffix
  · exact hfront hnil
  · refine hc ?_
    rw [hpattern, List.dropLast_append_of_ne_nil hback]
    simp

theorem not_isPrefixOf_cons {c : Char} (hpattern : pattern ≠ []) (hc : c ∉ pattern)
    (t : List Char) : ¬ pattern.isPrefixOf (c :: t) = true := by
  obtain ⟨first, others, rfl⟩ := List.exists_cons_of_ne_nil hpattern
  intro hbegins
  obtain rfl : first = c := (List.cons_prefix_cons.mp (List.isPrefixOf_iff_prefix.mp hbegins)).1
  exact hc List.mem_cons_self

/-- A character that the text does not hold keeps both sides apart. -/
theorem replaceAll_append_cons {c : Char} (hpattern : pattern ≠ []) (hc : c ∉ pattern)
    (s t replacement : List Char) :
    replaceAll pattern replacement (s ++ c :: t)
      = replaceAll pattern replacement s ++ c :: replaceAll pattern replacement t := by
  rw [replaceAll_append (parted_of_notMem_tail (fun h => hc (List.mem_of_mem_tail h)) s t)]
  congr 1
  rw [replaceAll, replaceFrom, if_neg (not_isPrefixOf_cons hpattern hc t)]
  rfl

/-- A character that the text does not hold keeps both sides apart. -/
theorem occurrences_append_cons {c : Char} (hpattern : pattern ≠ []) (hc : c ∉ pattern)
    (s t : List Char) :
    occurrences pattern (s ++ c :: t) = occurrences pattern s + occurrences pattern t := by
  rw [occurrences_append (parted_of_notMem_tail (fun h => hc (List.mem_of_mem_tail h)) s t)]
  congr 1
  rw [occurrences, occurrencesFrom, if_neg (not_isPrefixOf_cons hpattern hc t)]
  rfl

/-- No occurrence begins in a text without the first character. -/
theorem occurrences_append_of_head {front : List Char}
    (h : ∀ c ∈ front, pattern.head? ≠ some c) (hpattern : pattern ≠ []) (rest : List Char) :
    occurrences pattern (front ++ rest) = occurrences pattern rest := by
  obtain ⟨first, others, rfl⟩ := List.exists_cons_of_ne_nil hpattern
  rw [occurrences, occurrences]
  induction front with
  | nil => rfl
  | cons c front ih =>
    rw [List.forall_mem_cons] at h
    have hbegins : ¬ (first :: others).isPrefixOf (c :: (front ++ rest)) = true := by
      intro hfound
      have heq := (List.cons_prefix_cons.mp (List.isPrefixOf_iff_prefix.mp hfound)).1
      exact h.1 (congrArg some heq)
    rw [List.cons_append, occurrencesFrom, if_neg hbegins, ih h.2]

/-- No occurrence ends in a text without the last character. -/
theorem occurrences_append_of_getLast {ending : List Char}
    (h : ∀ c ∈ ending, pattern.getLast? ≠ some c) (hpattern : pattern ≠ []) (s : List Char) :
    occurrences pattern (s ++ ending) = occurrences pattern s := by
  have hlast : ∀ front back, pattern = front ++ back → back ≠ [] → ¬ back ⊆ ending := by
    intro front back heq hback hsubset
    refine h _ (hsubset (List.getLast_mem hback)) ?_
    rw [heq, List.getLast?_append_of_ne_nil _ hback, List.getLast?_eq_some_getLast hback]
  have hborder : Parted pattern s ending := fun front back heq _ hback _ hbegins =>
    hlast front back heq hback hbegins.subset
  have hnone : occurrences pattern ending = 0 := by
    rw [occurrences_eq_zero_iff hpattern]
    exact fun hfound => hlast [] pattern rfl hpattern hfound.subset
  rw [occurrences_append hborder, hnone, Nat.add_zero]

/-! ## Joined parts -/

/-- Replacing a text by itself changes nothing. -/
theorem replaceFrom_same (hpattern : pattern ≠ []) (skip : Nat) (s : List Char) :
    replaceFrom pattern pattern skip s = s.drop skip := by
  induction s generalizing skip with
  | nil => simp [replaceFrom]
  | cons c s ih =>
    cases skip with
    | succ skip =>
      rw [replaceFrom, ih, List.drop_succ_cons]
    | zero =>
      rw [replaceFrom]
      split
      · rename_i hfound
        obtain ⟨first, others, rfl⟩ := List.exists_cons_of_ne_nil hpattern
        obtain ⟨rest, hrest⟩ := List.isPrefixOf_iff_prefix.mp hfound
        rw [List.cons_append, List.cons.injEq] at hrest
        obtain ⟨rfl, rfl⟩ := hrest
        simp [ih]
      · rw [ih, List.drop_zero, List.drop_zero]

theorem splitFrom_ne_nil (separator : List Char) (skip : Nat) (s : List Char) :
    splitFrom separator skip s ≠ [] := by
  induction s generalizing skip with
  | nil => simp [splitFrom]
  | cons c s ih =>
    cases skip with
    | succ skip => exact ih skip
    | zero =>
      rw [splitFrom]
      split
      · simp
      · simp [ih 0]

theorem replaceFrom_eq_intercalate (pattern replacement : List Char) (skip : Nat)
    (s : List Char) :
    replaceFrom pattern replacement skip s
      = replacement.intercalate (splitFrom pattern skip s) := by
  induction s generalizing skip with
  | nil => simp [replaceFrom, splitFrom]
  | cons c s ih =>
    cases skip with
    | succ skip => exact ih skip
    | zero =>
      rw [replaceFrom, splitFrom]
      split
      · rw [ih, List.intercalate_cons_of_ne_nil (splitFrom_ne_nil _ _ _), List.nil_append]
      · rw [ih]
        obtain ⟨first, rest, hsplit⟩ :=
          List.exists_cons_of_ne_nil (splitFrom_ne_nil pattern 0 s)
        rw [hsplit, List.modifyHead_cons]
        cases rest <;> simp

/-- Replacing is splitting and joining. -/
theorem replaceAll_eq_intercalate (pattern replacement s : List Char) :
    replaceAll pattern replacement s = replacement.intercalate (splitAll pattern s) :=
  replaceFrom_eq_intercalate pattern replacement 0 s

theorem infix_intercalate {piece : List Char} {pieces : List (List Char)} (h : piece ∈ pieces)
    (between : List Char) : piece <:+: between.intercalate pieces := by
  induction pieces with
  | nil => simp at h
  | cons first rest ih =>
    cases rest with
    | nil =>
      rw [List.mem_singleton.mp h, List.intercalate_singleton]
    | cons second rest =>
      rw [List.intercalate_cons_cons]
      rcases List.mem_cons.mp h with rfl | h
      · rw [List.append_assoc]
        exact (List.prefix_append _ _).isInfix
      · exact (ih h).trans (List.suffix_append _ _).isInfix

/-- The pieces of a text are parts of it. -/
theorem infix_of_mem_splitAll (hpattern : pattern ≠ []) {piece : List Char}
    (h : piece ∈ splitAll pattern s) : piece <:+: s := by
  have hjoined : pattern.intercalate (splitAll pattern s) = s := by
    rw [← replaceAll_eq_intercalate, replaceAll, replaceFrom_same hpattern, List.drop_zero]
  rw [← hjoined]
  exact infix_intercalate h pattern

/-- Whatever stands around `x`, no occurrence of `pattern` lies across its borders. -/
structure Insulated (pattern x : List Char) : Prop where
  before : ∀ s t, Parted pattern s (x ++ t)
  behind : ∀ s t, Parted pattern (s ++ x) t

/-- A text is insulated by its ends: no occurrence goes on with the first character, and none stops
short at the last one. -/
theorem insulated_of_ends {first last : Char} (hfirst : first ∉ pattern.tail)
    (hlast : last ∉ pattern.dropLast) (middle : List Char) :
    Insulated pattern (first :: middle ++ [last]) where
  before s t := parted_of_notMem_tail hfirst s _
  behind s t := by
    rw [← List.append_assoc]
    exact parted_of_notMem_dropLast hlast _ t

/-- A text is insulated by `n` or more characters of a kind that `pattern` has not so many of at
either end. -/
theorem insulated_of_all {p : Char → Bool} {n : Nat} {x : List Char} (hx : ∀ c ∈ x, p c = true)
    (hlength : n ≤ x.length)
    (hback : ∀ back ∈ pattern.tails, back ≠ [] → (back.take n).all p = false)
    (hfront : ∀ front ∈ pattern.inits, front ≠ [] → (front.rtake n).all p = false) :
    Insulated pattern x where
  before s t := by
    intro front back hpattern _ hne _ hbegins
    have hother := hback back ((List.mem_tails _ _).mpr ⟨front, hpattern.symm⟩) hne
    have htake : back.take n <+: x := by
      have h := (List.take_prefix n back).trans hbegins
      exact List.prefix_of_prefix_length_le h (List.prefix_append x t)
        ((List.length_take_le n back).trans hlength)
    rw [List.all_eq_true.mpr fun c hc => hx c (htake.subset hc)] at hother
    cases hother
  behind s t := by
    intro front back hpattern hne _ hends _
    have hother := hfront front ((List.mem_inits _ _).mpr ⟨back, hpattern.symm⟩) hne
    have htake : front.rtake n <:+ x := by
      have h := (List.drop_suffix _ front : front.rtake n <:+ front).trans hends
      refine List.suffix_of_suffix_length_le h (List.suffix_append s x) (le_trans ?_ hlength)
      rw [List.rtake, List.length_drop]
      omega
    rw [List.all_eq_true.mpr fun c hc => hx c (htake.subset hc)] at hother
    cases hother

/-- Parts that are joined by an insulated text are treated one by one. -/
theorem replaceAll_intercalate {x : List Char} (hx : Insulated pattern x)
    (replacement : List Char) (pieces : List (List Char)) :
    replaceAll pattern replacement (x.intercalate pieces)
      = (replaceAll pattern replacement x).intercalate
        (pieces.map (replaceAll pattern replacement)) := by
  induction pieces with
  | nil => rfl
  | cons first rest ih =>
    cases rest with
    | nil => simp
    | cons second rest =>
      have hbehind : Parted pattern x (x.intercalate (second :: rest)) := hx.behind [] _
      rw [List.intercalate_cons_cons, List.append_assoc, replaceAll_append (hx.before first _),
        replaceAll_append hbehind, ih, List.map_cons (a := first), List.map_cons (a := second),
        List.intercalate_cons_cons, List.append_assoc]

/-- A text that occurs in no part occurs nowhere. -/
theorem not_infix_intercalate {x : List Char} (hx : Insulated pattern x)
    (hpattern : pattern ≠ []) (hbetween : ¬ pattern <:+: x) {pieces : List (List Char)}
    (h : ∀ piece ∈ pieces, ¬ pattern <:+: piece) : ¬ pattern <:+: x.intercalate pieces := by
  rw [← occurrences_eq_zero_iff hpattern] at hbetween ⊢
  induction pieces with
  | nil => rfl
  | cons first rest ih =>
    rw [List.forall_mem_cons, ← occurrences_eq_zero_iff hpattern] at h
    cases rest with
    | nil => simpa using h.1
    | cons second rest =>
      have hbehind : Parted pattern x (x.intercalate (second :: rest)) := hx.behind [] _
      rw [List.intercalate_cons_cons, List.append_assoc, occurrences_append (hx.before first _),
        occurrences_append hbehind, h.1, hbetween, ih h.2]

/-- Parts that are joined by the text itself are joined by its replacement. -/
theorem replaceAll_intercalate_self (hpattern : pattern ≠ []) {pieces : List (List Char)}
    (h : ∀ piece ∈ pieces,
      ¬ pattern <:+: piece ∧ ∀ t, Parted pattern piece (pattern ++ t))
    (replacement : List Char) :
    replaceAll pattern replacement (pattern.intercalate pieces)
      = replacement.intercalate pieces := by
  induction pieces with
  | nil => rfl
  | cons first rest ih =>
    rw [List.forall_mem_cons] at h
    cases rest with
    | nil =>
      rw [List.intercalate_singleton, List.intercalate_singleton,
        replaceAll_of_not_infix h.1.1]
    | cons second rest =>
      rw [List.intercalate_cons_cons, List.append_assoc, replaceAll_append (h.1.2 _),
        replaceAll_of_not_infix h.1.1, replaceAll_occurrence hpattern, ih h.2,
        List.intercalate_cons_cons, List.append_assoc]

end Search

end SourceServer
