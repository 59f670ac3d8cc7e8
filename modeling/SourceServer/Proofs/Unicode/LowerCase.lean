import SourceServer.Unicode.LowerCase

/-!
# Low characters and lower case

The characters up to the slash, among them NUL and the point, are their own lower case, and no other
character has one of them in its lower case. So a text of such characters agrees up to case with
nothing but itself, and texts with the same lower case hold slashes together or not at all: what
agrees with a name up to case is a name itself. A slash also ends every word, so the lower case of a
path is put together from those of the pieces between its slashes.

- `Unicode.isLow`: the characters up to the slash.
- `Unicode.low_mem_lower_iff`: the low characters of a lower case are those of the text.
- `Unicode.eq_of_lower_eq`: what agrees up to case with a text of low characters.
- `Unicode.lowerText_append_slash`: lower case and slashes.
-/

namespace SourceServer

namespace Unicode

/-- A character up to the slash. -/
def isLow (c : Char) : Prop :=
  c.toNat ≤ 47

instance (c : Char) : Decidable (isLow c) :=
  Nat.decLe _ _

/-! ## The table -/

theorem mem_of_lastRow? {α : Type} {rows : Array α} {key : α → Nat} {x : Nat} {row : α}
    (h : lastRow? rows key x = some row) : row ∈ rows := by
  simp only [lastRow?] at h
  split at h
  · cases h
  · exact Array.mem_of_getElem? h

/-- A row that leads to characters behind the slash, however far the row moves along. -/
def ShiftRow.high (row : ShiftRow) : Prop :=
  row.target ≠ [] ∧ ∀ target ∈ row.target,
    47 < target ∧ ∀ offset ≤ row.count * row.stride, (target + offset).isValidChar

/-- A range without a surrogate. -/
theorem isValidChar_of_range {target length offset : Nat} (h : offset ≤ length)
    (hrange : target + length < 0xd800 ∨ 0xdfff < target ∧ target + length < 0x110000) :
    (target + offset).isValidChar := by
  rcases hrange with hrange | ⟨hstart, hend⟩
  · exact Or.inl (by omega)
  · exact Or.inr ⟨by omega, by omega⟩

theorem high_of_mem_rows : ∀ row ∈ lowerCaseRows.rows.toList, row.high := by
  have hrows : ∀ row ∈ lowerCaseRows.rows.toList, row.target ≠ [] ∧ ∀ target ∈ row.target,
      47 < target ∧ (target + row.count * row.stride < 0xd800
        ∨ 0xdfff < target ∧ target + row.count * row.stride < 0x110000) := by
    decide +kernel
  intro row hrow
  obtain ⟨hne, htargets⟩ := hrows row hrow
  refine ⟨hne, fun target htarget => ?_⟩
  obtain ⟨hlow, hrange⟩ := htargets target htarget
  exact ⟨hlow, fun offset hoffset => isValidChar_of_range hoffset hrange⟩

theorem not_low_ofNat {n : Nat} (hvalid : n.isValidChar) (h : 47 < n) : ¬ isLow (Char.ofNat n) := by
  have hcode : (Char.ofNat n).toNat = n := by
    rw [Char.ofNat, dif_pos hvalid]
    rfl
  rw [isLow, hcode]
  omega

/-- The table leads to characters behind the slash. -/
theorem not_low_of_find? {c : Char} {characters : List Char}
    (h : lowerCaseRows.find? c = some characters) :
    characters ≠ [] ∧ ∀ x ∈ characters, ¬ isLow x := by
  rw [ShiftTable.find?] at h
  cases hrow : lastRow? lowerCaseRows.rows ShiftRow.first c.toNat with
  | none => rw [hrow] at h; cases h
  | some row =>
    obtain ⟨hne, htargets⟩ := high_of_mem_rows row (Array.mem_toList_iff.mpr (mem_of_lastRow? hrow))
    rw [hrow] at h
    dsimp only at h
    split at h
    · rename_i hoffset
      split at h
      · rename_i target htarget
        obtain ⟨hlow, hvalid⟩ := htargets target (by rw [htarget]; exact List.mem_singleton_self _)
        have hshifted := hvalid (c.toNat - row.first) (by omega)
        rw [← Option.some.inj h]
        refine ⟨List.cons_ne_nil _ _, List.forall_mem_singleton.mpr ?_⟩
        exact not_low_ofNat hshifted (by omega)
      · rw [← Option.some.inj h]
        refine ⟨by simpa using hne, fun x hx => ?_⟩
        obtain ⟨target, htarget, rfl⟩ := List.mem_map.mp hx
        obtain ⟨hlow, hvalid⟩ := htargets target htarget
        exact not_low_ofNat (by simpa using hvalid 0 (Nat.zero_le _)) hlow
    · cases h

/-! ## Single characters -/

theorem lowerChar_of_low {c : Char} (h : isLow c) : lowerChar c = [c] := by
  have hascii : c.toNat < 0x80 := Nat.lt_of_le_of_lt h (by decide)
  have hself : ∀ n < 48, Ascii.lowerChar (Char.ofNat n) = Char.ofNat n := by decide
  have hlower := hself c.toNat (Nat.lt_succ_of_le h)
  rw [Char.ofNat_toNat] at hlower
  rw [lowerChar, if_pos hascii, hlower]

/-- A lower case is not empty, and a low character in it is the character itself. -/
theorem eq_of_low_mem_lowerChar (c : Char) :
    lowerChar c ≠ [] ∧ ∀ x ∈ lowerChar c, isLow x → x = c := by
  rw [lowerChar]
  split
  · rename_i hascii
    -- the lower cases of ASCII, one by one
    have hrows : ∀ n < 0x80, isLow (Ascii.lowerChar (Char.ofNat n)) →
        Ascii.lowerChar (Char.ofNat n) = Char.ofNat n := by decide
    refine ⟨List.cons_ne_nil _ _, List.forall_mem_singleton.mpr fun hlow => ?_⟩
    have hself := hrows c.toNat hascii
    rw [Char.ofNat_toNat] at hself
    exact hself hlow
  · split
    · refine ⟨List.cons_ne_nil _ _, fun x hx hlow => ?_⟩
      have hhigh : ∀ x ∈ ['i', Char.ofNat 0x307], ¬ isLow x := by
        rw [List.forall_mem_cons, List.forall_mem_singleton]
        decide
      exact absurd hlow (hhigh x hx)
    · cases hfind : lowerCaseRows.find? c with
      | none =>
        refine ⟨List.cons_ne_nil _ _, fun x hx _ => ?_⟩
        exact List.mem_singleton.mp hx
      | some characters =>
        obtain ⟨hne, hhigh⟩ := not_low_of_find? hfind
        exact ⟨hne, fun x hx hlow => absurd hlow (hhigh x hx)⟩

theorem low_mem_lowerChar_iff {x c : Char} (hx : isLow x) : x ∈ lowerChar c ↔ x = c := by
  constructor
  · intro h
    exact (eq_of_low_mem_lowerChar c).2 x h hx
  · rintro rfl
    rw [lowerChar_of_low hx]
    exact List.mem_singleton_self x

/-! ## Texts -/

/-- What stands in the lower case of a text for its first character. -/
def lowerFirst (before : List Char) (c : Char) (rest : List Char) : List Char :=
  if c.toNat = 0x3a3 then
    if letterFollows before && !letterFollows rest then [Char.ofNat 0x3c2] else [Char.ofNat 0x3c3]
  else lowerChar c

theorem lowerAfter_cons (before : List Char) (c : Char) (rest : List Char) :
    lowerAfter before (c :: rest) = lowerFirst before c rest ++ lowerAfter (c :: before) rest := rfl

theorem not_low_sigma {c : Char} (h : c.toNat = 0x3a3) : ¬ isLow c := by
  rw [isLow, h]
  decide

/-- A low character has no part in a sigma, and both lower cases of a sigma are high. -/
theorem low_mem_lowerFirst_iff {x : Char} (hx : isLow x) (before : List Char) (c : Char)
    (rest : List Char) : x ∈ lowerFirst before c rest ↔ x = c := by
  rw [lowerFirst]
  split
  · rename_i hsigma
    have hne : x ≠ c := by
      rintro rfl
      exact not_low_sigma hsigma hx
    have hhigh : ¬ isLow (Char.ofNat 0x3c2) ∧ ¬ isLow (Char.ofNat 0x3c3) := by decide
    refine iff_of_false (fun hmem => ?_) hne
    split at hmem
    · rw [List.mem_singleton.mp hmem] at hx
      exact hhigh.1 hx
    · rw [List.mem_singleton.mp hmem] at hx
      exact hhigh.2 hx
  · exact low_mem_lowerChar_iff hx

theorem lowerFirst_ne_nil (before : List Char) (c : Char) (rest : List Char) :
    lowerFirst before c rest ≠ [] := by
  rw [lowerFirst]
  split
  · split <;> exact List.cons_ne_nil _ _
  · exact (eq_of_low_mem_lowerChar c).1

theorem lowerFirst_of_low {c : Char} (h : isLow c) (before rest : List Char) :
    lowerFirst before c rest = [c] := by
  rw [lowerFirst, if_neg fun hsigma => not_low_sigma hsigma h, lowerChar_of_low h]

/-- The low characters of a lower case are those of the text. -/
theorem low_mem_lowerAfter_iff {x : Char} (hx : isLow x) (before s : List Char) :
    x ∈ lowerAfter before s ↔ x ∈ s := by
  induction s generalizing before with
  | nil => simp [lowerAfter]
  | cons c rest ih => rw [lowerAfter_cons, List.mem_append, low_mem_lowerFirst_iff hx, ih,
      List.mem_cons]

theorem low_mem_lower_iff {x : Char} (hx : isLow x) (s : String) :
    x ∈ (lower s).toList ↔ x ∈ s.toList := by
  rw [lower, String.toList_ofList, lowerText, low_mem_lowerAfter_iff hx]

theorem slash_mem_lower_iff (s : String) : '/' ∈ (lower s).toList ↔ '/' ∈ s.toList :=
  low_mem_lower_iff (by decide) s

theorem lowerAfter_of_low {s : List Char} (h : ∀ c ∈ s, isLow c) (before : List Char) :
    lowerAfter before s = s := by
  induction s generalizing before with
  | nil => rfl
  | cons c rest ih =>
    rw [List.forall_mem_cons] at h
    rw [lowerAfter_cons, lowerFirst_of_low h.1, ih h.2, List.singleton_append]

/-- A text whose lower case has low characters only has them itself: each character leaves one
behind. -/
theorem low_of_lowerAfter {before s : List Char} (h : ∀ c ∈ lowerAfter before s, isLow c) :
    ∀ c ∈ s, isLow c := by
  induction s generalizing before with
  | nil => simp
  | cons c rest ih =>
    rw [lowerAfter_cons, List.forall_mem_append] at h
    obtain ⟨x, hx⟩ := List.exists_mem_of_ne_nil _ (lowerFirst_ne_nil before c rest)
    have hlow : isLow x := h.1 x hx
    have hself : x = c := (low_mem_lowerFirst_iff hlow before c rest).mp hx
    exact List.forall_mem_cons.mpr ⟨hself ▸ hlow, ih h.2⟩

/-- What agrees up to case with a text of low characters is this text. -/
theorem eq_of_lower_eq {a b : String} (h : lower a = lower b) (hb : ∀ c ∈ b.toList, isLow c) :
    a = b := by
  have htexts : lowerText a.toList = lowerText b.toList := String.ofList_injective h
  have hright : lowerText b.toList = b.toList := lowerAfter_of_low hb []
  have ha : ∀ c ∈ a.toList, isLow c := by
    have hlow : ∀ c ∈ lowerAfter [] a.toList, isLow c := by
      intro c hc
      rw [← lowerText, htexts, hright] at hc
      exact hb c hc
    exact low_of_lowerAfter hlow
  have hleft : lowerText a.toList = a.toList := lowerAfter_of_low ha []
  rw [hleft, hright] at htexts
  exact String.toList_inj.mp htexts

/-! ## Slashes -/

/-- A slash is neither a letter nor passed over, so nothing behind it is looked at. -/
theorem letterFollows_append_slash (s t : List Char) :
    letterFollows (s ++ '/' :: t) = letterFollows s := by
  have hcounts : isCaseIgnorable '/' = false := by decide +kernel
  have hcase : isCased '/' = false := by decide +kernel
  rw [letterFollows, letterFollows, List.find?_append]
  cases s.find? fun c => !isCaseIgnorable c with
  | none => simp [hcounts, hcase]
  | some c => rfl

theorem lowerAfter_append_slash (before s t : List Char) :
    lowerAfter (before ++ '/' :: t) s = lowerAfter before s := by
  induction s generalizing before with
  | nil => rfl
  | cons c rest ih =>
    have hfirst : lowerFirst (before ++ '/' :: t) c rest = lowerFirst before c rest := by
      rw [lowerFirst, lowerFirst, letterFollows_append_slash]
    rw [lowerAfter_cons, lowerAfter_cons, hfirst, ← List.cons_append, ih]

/-- The lower case on both sides of a slash. -/
theorem lowerText_append_slash (s t : List Char) :
    lowerText (s ++ '/' :: t) = lowerText s ++ '/' :: lowerText t := by
  have hafter : ∀ before s : List Char,
      lowerAfter before (s ++ '/' :: t) = lowerAfter before s ++ '/' :: lowerText t := by
    intro before s
    induction s generalizing before with
    | nil =>
      have hslash : isLow '/' := by decide
      have hbehind := lowerAfter_append_slash [] t before
      rw [List.nil_append, lowerAfter_cons, lowerFirst_of_low hslash, lowerText]
      rw [List.nil_append] at hbehind
      rw [hbehind]
      rfl
    | cons c rest ih =>
      have hfirst : lowerFirst before c (rest ++ '/' :: t) = lowerFirst before c rest := by
        rw [lowerFirst, lowerFirst, letterFollows_append_slash]
      rw [List.cons_append, lowerAfter_cons, lowerAfter_cons, hfirst, ih, List.append_assoc]
  exact hafter [] s

/-- The lower case of pieces with slashes between them. -/
theorem lowerText_intercalate {pieces : List (List Char)} :
    lowerText (['/'].intercalate pieces) = ['/'].intercalate (pieces.map lowerText) := by
  induction pieces with
  | nil => rfl
  | cons piece rest ih =>
    cases rest with
    | nil => simp [List.intercalate]
    | cons next rest =>
      simp only [List.map_cons] at ih ⊢
      rw [List.intercalate_cons_cons, List.append_assoc, List.singleton_append,
        lowerText_append_slash, ih, List.intercalate_cons_cons, List.append_assoc,
        List.singleton_append]

end Unicode

end SourceServer
