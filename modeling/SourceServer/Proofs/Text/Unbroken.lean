import SourceServer.Text.Search

/-!
# Texts without line ends

A text that is put together from lines can be taken apart into the same lines when no line holds a
line end. What replacing does to a text neither adds line ends of its own nor takes any away.

- `Unbroken`: a row of characters without CR and LF.
- `Search.splitAll`: the pieces of a text between the occurrences of a separator.
- `Search.splitAll_ended`: lines are read back, whatever follows them.
- `Search.unbroken_replaceAll_iff`: a replacement without line ends changes nothing in this respect.
-/

namespace SourceServer

/-- A character that ends a line, or a part of such an end. -/
def isLineBreak (c : Char) : Bool :=
  c == '\r' || c == '\n'

/-- No character ends a line. -/
def Unbroken (s : List Char) : Prop :=
  ∀ c ∈ s, isLineBreak c = false

instance (s : List Char) : Decidable (Unbroken s) :=
  List.decidableBAll (fun c => isLineBreak c = false) s

@[simp] theorem unbroken_nil : Unbroken [] := by
  simp [Unbroken]

@[simp] theorem unbroken_cons_iff (c : Char) (s : List Char) :
    Unbroken (c :: s) ↔ isLineBreak c = false ∧ Unbroken s := by
  simp [Unbroken]

@[simp] theorem unbroken_append_iff (s t : List Char) :
    Unbroken (s ++ t) ↔ Unbroken s ∧ Unbroken t := by
  simp [Unbroken, or_imp, forall_and]

theorem Unbroken.mono {s t : List Char} (ht : Unbroken t) (h : s ⊆ t) : Unbroken s :=
  fun c hc => ht c (h hc)

/-- A line end is in no unbroken text. -/
theorem Unbroken.notMem {s : List Char} {c : Char} (h : Unbroken s) (hc : isLineBreak c = true) :
    c ∉ s := by
  intro hmem
  rw [h c hmem] at hc
  cases hc

/-- Characters of a kind that excludes both line ends. -/
theorem unbroken_of_all {p : Char → Bool} {s : List Char} (hcr : p '\r' = false)
    (hlf : p '\n' = false) (h : ∀ c ∈ s, p c = true) : Unbroken s := by
  intro c hc
  have hkind := h c hc
  rw [isLineBreak, Bool.or_eq_false_iff, beq_eq_false_iff_ne, beq_eq_false_iff_ne]
  constructor
  · rintro rfl
    rw [hcr] at hkind
    cases hkind
  · rintro rfl
    rw [hlf] at hkind
    cases hkind

/-- A text that is written out character by character. -/
theorem unbroken_of_eq {s : String} {characters : List Char} (hs : s = String.ofList characters)
    (h : Unbroken characters) : Unbroken s.toList := by
  rwa [hs, String.toList_ofList]

namespace Search

/-! ## Taking a text apart -/

/-- Splits like `replaceFrom` replaces. -/
def splitFrom (separator : List Char) : Nat → List Char → List (List Char)
  | _, [] => [[]]
  | skip + 1, _ :: cs => splitFrom separator skip cs
  | 0, c :: cs =>
    if separator.isPrefixOf (c :: cs) then
      [] :: splitFrom separator (separator.length - 1) cs
    else (splitFrom separator 0 cs).modifyHead (c :: ·)

/-- The pieces of a text between the occurrences of the non-empty `separator`. -/
def splitAll (separator : List Char) (s : List Char) : List (List Char) :=
  splitFrom separator 0 s

theorem splitFrom_skip (separator front rest : List Char) :
    splitFrom separator front.length (front ++ rest) = splitFrom separator 0 rest := by
  induction front with
  | nil => rfl
  | cons c front ih =>
    rw [List.length_cons, List.cons_append, splitFrom]
    exact ih

/-- A line is cut off at its end, unless the end could begin earlier. -/
theorem splitFrom_line {first : Char} {others line : List Char} (h : first ∉ line)
    (rest : List Char) :
    splitFrom (first :: others) 0 (line ++ (first :: others) ++ rest)
      = line :: splitFrom (first :: others) 0 rest := by
  induction line with
  | nil =>
    rw [List.nil_append, List.cons_append, splitFrom, if_pos (by simp)]
    exact congrArg (List.cons []) (splitFrom_skip _ others rest)
  | cons c line ih =>
    rw [List.mem_cons, not_or] at h
    rw [List.cons_append, List.cons_append, splitFrom, if_neg (by simp [h.1]), ih h.2]
    rfl

/-- Lines that do not hold the beginning of their end are read back, whatever follows them. -/
theorem splitAll_ended {first : Char} {others : List Char} {lines : List (List Char)}
    (h : ∀ line ∈ lines, first ∉ line) (rest : List Char) :
    splitAll (first :: others) (lines.flatMap (· ++ (first :: others)) ++ rest)
      = lines ++ splitAll (first :: others) rest := by
  rw [splitAll, splitAll]
  induction lines with
  | nil => rfl
  | cons line lines ih =>
    rw [List.forall_mem_cons] at h
    rw [List.flatMap_cons, List.append_assoc, splitFrom_line h.1, ih h.2, List.cons_append]

/-! ## Replacing -/

/-- Replacing brings in nothing but the replacement. -/
theorem mem_of_mem_replaceFrom {pattern replacement s : List Char} {skip : Nat} {c : Char}
    (h : c ∈ replaceFrom pattern replacement skip s) : c ∈ s ∨ c ∈ replacement := by
  induction s generalizing skip with
  | nil => simp [replaceFrom] at h
  | cons x s ih =>
    cases skip with
    | succ skip =>
      rw [replaceFrom] at h
      exact (ih h).imp_left (List.mem_cons_of_mem x)
    | zero =>
      rw [replaceFrom] at h
      split at h
      · rcases List.mem_append.mp h with h | h
        · exact .inr h
        · exact (ih h).imp_left (List.mem_cons_of_mem x)
      · rcases List.mem_cons.mp h with rfl | h
        · exact .inl List.mem_cons_self
        · exact (ih h).imp_left (List.mem_cons_of_mem x)

/-- Replacing takes nothing away but the pattern. -/
theorem mem_replaceFrom {pattern s : List Char} {skip : Nat} {c : Char} (hpattern : pattern ≠ [])
    (hc : c ∉ pattern) (replacement : List Char) (h : c ∈ s.drop skip) :
    c ∈ replaceFrom pattern replacement skip s := by
  induction s generalizing skip with
  | nil => simp at h
  | cons x s ih =>
    cases skip with
    | succ skip =>
      rw [replaceFrom]
      exact ih h
    | zero =>
      rw [replaceFrom]
      split
      · rename_i hprefix
        -- the character is not in the occurrence, so it stands behind it
        obtain ⟨rest, hrest⟩ := List.isPrefixOf_iff_prefix.mp hprefix
        have hlength : pattern.length = pattern.length - 1 + 1 := by
          have := List.length_pos_iff.mpr hpattern
          omega
        have hdrop : s.drop (pattern.length - 1) = rest := by
          have := congrArg (List.drop pattern.length) hrest
          rw [List.drop_left] at this
          rw [this, hlength]
          rfl
        rw [List.drop_zero, ← hrest, List.mem_append] at h
        refine List.mem_append_right replacement (ih ?_)
        rw [hdrop]
        exact h.resolve_left hc
      · rcases List.mem_cons.mp h with rfl | h
        · exact List.mem_cons_self
        · exact List.mem_cons_of_mem x (ih h)

/-- A text is broken after replacing if it was broken outside of the pattern. -/
theorem unbroken_of_replaceAll {pattern replacement s : List Char} (hpattern : pattern ≠ [])
    (hunbroken : Unbroken pattern) (h : Unbroken (replaceAll pattern replacement s)) :
    Unbroken s := by
  intro c hc
  by_cases hmem : c ∈ pattern
  · exact hunbroken c hmem
  · exact h c (mem_replaceFrom hpattern hmem replacement hc)

theorem unbroken_replaceAll {pattern replacement s : List Char}
    (hreplacement : Unbroken replacement) (hs : Unbroken s) :
    Unbroken (replaceAll pattern replacement s) :=
  fun c hc => (mem_of_mem_replaceFrom hc).elim (hs c) (hreplacement c)

/-- Replacing with unbroken texts neither adds nor takes away line ends. -/
theorem unbroken_replaceAll_iff {pattern replacement s : List Char} (hpattern : pattern ≠ [])
    (hunbroken : Unbroken pattern) (hreplacement : Unbroken replacement) :
    Unbroken (replaceAll pattern replacement s) ↔ Unbroken s :=
  ⟨unbroken_of_replaceAll hpattern hunbroken, unbroken_replaceAll hreplacement⟩

end Search

end SourceServer
