import Mathlib.Tactic.ByContra
import SourceServer.Proofs.Unicode.LowerCase

/-!
# Endings up to case

Some characters of ASCII are the lower case of nothing but ASCII letters. For these, lower case in
the sense of Unicode and lower case in the sense of ASCII say the same, so whether a text ends with
a row of them up to ASCII case can be told from its lower case. The letters `i` and `k` are not
among them: a capital I with a dot and the sign of the kelvin have them in their lower case.

- `Unicode.isUnshared`: the characters that only ASCII leads to.
- `Unicode.suffix_lowerAfter_iff`: endings of such characters.
- `Unicode.endsWithIgnoringCase_eq_of_lower_eq`: texts with the same lower case end alike.
-/

namespace SourceServer

namespace Unicode

/-- A lower-case character of ASCII that no other character than those of ASCII leads to. -/
def isUnshared (x : Char) : Prop :=
  x.toNat < 0x80 ∧ x ≠ 'i' ∧ x ≠ 'k' ∧ Ascii.lowerChar x = x

instance (x : Char) : Decidable (isUnshared x) :=
  inferInstanceAs (Decidable (_ ∧ _))

/-! ## The table -/

/-- The table leads to one character of ASCII, the letter k. -/
theorem eq_k_of_find? {c x : Char} {characters : List Char}
    (h : lowerCaseRows.find? c = some characters) (hx : x ∈ characters) (hascii : x.toNat < 0x80) :
    x = 'k' := by
  have hrows : ∀ row ∈ lowerCaseRows.rows.toList, ∀ target ∈ row.target,
      0x80 ≤ target ∨ target = 0x6b ∧ row.count * row.stride ≤ 1 := by
    decide +kernel
  -- a target behind ASCII is not moved back into it
  have hfar : ∀ n, n.isValidChar → 0x80 ≤ n → ¬ (Char.ofNat n).toNat < 0x80 := by
    intro n hvalid hn
    have hcode : (Char.ofNat n).toNat = n := by
      rw [Char.ofNat, dif_pos hvalid]
      rfl
    omega
  rw [ShiftTable.find?] at h
  cases hrow : lastRow? lowerCaseRows.rows ShiftRow.first c.toNat with
  | none =>
    rw [hrow] at h
    cases h
  | some row =>
    have hmem : row ∈ lowerCaseRows.rows.toList := Array.mem_toList_iff.mpr (mem_of_lastRow? hrow)
    have htargets := hrows row hmem
    obtain ⟨-, hvalid⟩ := high_of_mem_rows row hmem
    rw [hrow] at h
    dsimp only at h
    split at h
    · rename_i hoffset
      split at h
      · rename_i target htarget
        have htarget : target ∈ row.target := by rw [htarget]; exact List.mem_singleton_self _
        rw [← Option.some.inj h, List.mem_singleton] at hx
        subst hx
        rcases htargets target htarget with hhigh | ⟨rfl, hsingle⟩
        · have hshifted := (hvalid target htarget).2 (c.toNat - row.first) (by omega)
          exact absurd hascii (hfar _ hshifted (by omega))
        · have hself : c.toNat - row.first = 0 := by omega
          rw [hself]
      · rw [← Option.some.inj h] at hx
        obtain ⟨target, htarget, rfl⟩ := List.mem_map.mp hx
        rcases htargets target htarget with hhigh | ⟨rfl, -⟩
        · have hself := (hvalid target htarget).2 0 (Nat.zero_le _)
          exact absurd hascii (hfar _ (by simpa using hself) hhigh)
        · rfl
    · cases h

/-! ## Single characters -/

theorem ascii_lowerChar_of_le {c : Char} (h : 0x80 ≤ c.toNat) : Ascii.lowerChar c = c := by
  have hcapital : ¬ ('A' ≤ c ∧ c ≤ 'Z') := by
    rintro ⟨-, hle⟩
    have hcode : c.toNat ≤ 'Z'.toNat := hle
    have hlast : 'Z'.toNat = 90 := rfl
    omega
  rw [Ascii.lowerChar, if_neg hcapital]

/-- Behind ASCII no lower case holds an unshared character. -/
theorem unshared_notMem_lowerFirst {x c : Char} (hx : isUnshared x) (hc : 0x80 ≤ c.toNat)
    (before rest : List Char) : x ∉ lowerFirst before c rest := by
  obtain ⟨hascii, hi, hk, -⟩ := hx
  have hfar : ∀ y : Char, 0x80 ≤ y.toNat → x ≠ y := by
    rintro y hy rfl
    omega
  rw [lowerFirst]
  split
  · split
    · exact List.not_mem_cons_of_ne_of_not_mem (hfar _ (by decide)) List.not_mem_nil
    · exact List.not_mem_cons_of_ne_of_not_mem (hfar _ (by decide)) List.not_mem_nil
  · rw [lowerChar, if_neg (Nat.not_lt.mpr hc)]
    split
    · have hdot : x ≠ Char.ofNat 0x307 := hfar _ (by decide)
      simp [hi, hdot]
    · cases hfind : lowerCaseRows.find? c with
      | none => exact List.not_mem_cons_of_ne_of_not_mem (hfar c hc) List.not_mem_nil
      | some characters => exact fun hmem => hk (eq_k_of_find? hfind hmem hascii)

/-- An unshared character comes from a letter of ASCII, which has no other lower case. -/
theorem unshared_mem_lowerFirst_iff {x : Char} (hx : isUnshared x) (before : List Char) (c : Char)
    (rest : List Char) : x ∈ lowerFirst before c rest ↔ Ascii.lowerChar c = x := by
  by_cases hascii : c.toNat < 0x80
  · have hsigma : c.toNat ≠ 0x3a3 := by omega
    rw [lowerFirst, if_neg hsigma, lowerChar, if_pos hascii, List.mem_singleton, eq_comm]
  · have hc : 0x80 ≤ c.toNat := Nat.le_of_not_lt hascii
    refine iff_of_false (unshared_notMem_lowerFirst hx hc before rest) ?_
    rw [ascii_lowerChar_of_le hc]
    rintro rfl
    exact hascii hx.1

theorem lowerFirst_of_unshared {c : Char} (h : isUnshared (Ascii.lowerChar c))
    (before rest : List Char) : lowerFirst before c rest = [Ascii.lowerChar c] := by
  have hascii : c.toNat < 0x80 := by
    by_contra hnot
    have hlower := ascii_lowerChar_of_le (Nat.le_of_not_lt hnot)
    rw [hlower] at h
    exact hnot h.1
  have hsigma : c.toNat ≠ 0x3a3 := by omega
  rw [lowerFirst, if_neg hsigma, lowerChar, if_pos hascii]

/-! ## Texts -/

variable {ending : List Char}

theorem eq_lowerAfter_iff (h : ∀ x ∈ ending, isUnshared x) (before s : List Char) :
    ending = lowerAfter before s ↔ ending = s.map Ascii.lowerChar := by
  induction s generalizing ending before with
  | nil => rfl
  | cons c rest ih =>
    rw [lowerAfter_cons, List.map_cons]
    constructor
    · rintro rfl
      rw [List.forall_mem_append] at h
      obtain ⟨x, hx⟩ := List.exists_mem_of_ne_nil _ (lowerFirst_ne_nil before c rest)
      have hfrom := (unshared_mem_lowerFirst_iff (h.1 x hx) before c rest).mp hx
      have hc : isUnshared (Ascii.lowerChar c) := hfrom ▸ h.1 x hx
      rw [lowerFirst_of_unshared hc, (ih h.2 (c :: before)).mp rfl, List.singleton_append]
    · rintro rfl
      rw [List.forall_mem_cons] at h
      rw [lowerFirst_of_unshared h.1, ← (ih h.2 (c :: before)).mpr rfl, List.singleton_append]

/-- An ending of unshared characters is one of the lower case exactly when it is one up to ASCII
case. -/
theorem suffix_lowerAfter_iff (h : ∀ x ∈ ending, isUnshared x) (before s : List Char) :
    ending <:+ lowerAfter before s ↔ ending <:+ s.map Ascii.lowerChar := by
  induction s generalizing before with
  | nil => rfl
  | cons c rest ih =>
    rw [List.map_cons, List.suffix_cons_iff, ← ih (c :: before), ← List.map_cons,
      ← eq_lowerAfter_iff h before (c :: rest), lowerAfter_cons]
    constructor
    · rintro ⟨front, hfront⟩
      rcases List.append_eq_append_iff.mp hfront with
        ⟨middle, hfirst, hending⟩ | ⟨middle, -, hrest⟩
      · cases middle with
        | nil => exact .inr (hending ▸ List.suffix_rfl)
        | cons x middle =>
          -- what reaches into the first block is the whole block, for that has one character only
          have hx : isUnshared x := h x (hending ▸ List.mem_cons_self)
          have hfrom : Ascii.lowerChar c = x :=
            (unshared_mem_lowerFirst_iff hx before c rest).mp (by rw [hfirst]; simp)
          have hblock := lowerFirst_of_unshared (hfrom ▸ hx) before rest
          rw [hblock, List.singleton_eq_append_iff] at hfirst
          rcases hfirst with ⟨-, hwhole⟩ | ⟨-, hnone⟩
          · rw [hending, hblock, hwhole]
            exact .inl rfl
          · cases hnone
      · exact .inr ⟨middle, hrest.symm⟩
    · rintro (rfl | hsuffix)
      · exact List.suffix_rfl
      · exact hsuffix.trans (List.suffix_append _ _)

/-- Texts with the same lower case have the same unshared endings up to ASCII case. -/
theorem endsWithIgnoringCase_eq_of_lower_eq {a b ending : String} (h : lower a = lower b)
    (hending : (ending.toList.map Ascii.lowerChar).all fun x => isUnshared x) :
    Ascii.endsWithIgnoringCase a ending = Ascii.endsWithIgnoringCase b ending := by
  have hunshared : ∀ x ∈ ending.toList.map Ascii.lowerChar, isUnshared x := by
    simpa only [List.all_eq_true, decide_eq_true_eq] using hending
  have htexts : lowerAfter [] a.toList = lowerAfter [] b.toList := String.ofList_injective h
  rw [Bool.eq_iff_iff, Ascii.endsWithIgnoringCase, Ascii.endsWithIgnoringCase,
    List.isSuffixOf_iff_suffix, List.isSuffixOf_iff_suffix,
    ← suffix_lowerAfter_iff hunshared [] a.toList, ← suffix_lowerAfter_iff hunshared [] b.toList,
    htexts]

end Unicode

end SourceServer
