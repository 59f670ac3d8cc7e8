import Mathlib.Data.String.Basic
import SourceServer.Proofs.Text.Hex
import SourceServer.Text.Cut

/-!
# Where a text can be cut

A text can be cut at a byte offset exactly when some beginning of it has this size. Letters keep
their size when their ASCII case changes, so a text that agrees with another one up to case can be
cut off wherever it stands in front.

- `Cut.split?_eq_some_iff`: the two sides of a cut.
- `Cut.isSome_split?_iff`, `Cut.isSome_before?_iff`: where there are two sides.
- `Ascii.utf8ByteSize_eq_of_equalIgnoringCase`: sizes of texts that agree up to case.
-/

namespace SourceServer

namespace Cut

variable {text front behind : List Char} {offset : Nat}

/-- The two sides make up the text, and the size of the first one is the offset. -/
theorem split?_eq_some_iff :
    split? text offset = some (front, behind)
      ↔ text = front ++ behind ∧ (String.ofList front).utf8ByteSize = offset := by
  rw [String.utf8ByteSize_ofList]
  fun_induction split? text offset generalizing front with
  | case1 text =>
    constructor
    · rintro ⟨⟩
      exact ⟨rfl, rfl⟩
    · rintro ⟨rfl, hsize⟩
      rw [String.utf8Len_eq_zero.mp hsize, List.nil_append]
  | case2 offset =>
    refine iff_of_false nofun ?_
    rintro ⟨hsplit, hsize⟩
    rw [(List.append_eq_nil_iff.mp hsplit.symm).1, String.utf8Len_nil] at hsize
    cases hsize
  | case3 c rest offset hlarge =>
    refine iff_of_false nofun ?_
    rintro ⟨hsplit, hsize⟩
    cases front with
    | nil => cases hsize
    | cons d front =>
      obtain ⟨rfl, -⟩ := List.cons.inj hsplit
      rw [String.utf8Len_cons] at hsize
      omega
  | case4 c rest offset hsmall ih =>
    rw [Option.map_eq_some_iff]
    constructor
    · rintro ⟨⟨front, behind⟩, hrest, ⟨⟩⟩
      obtain ⟨rfl, hsize⟩ := ih.mp hrest
      refine ⟨rfl, ?_⟩
      rw [String.utf8Len_cons, hsize]
      omega
    · rintro ⟨hsplit, hsize⟩
      cases front with
      | nil => cases hsize
      | cons d front =>
        obtain ⟨rfl, rfl⟩ := List.cons.inj hsplit
        rw [String.utf8Len_cons] at hsize
        exact ⟨(front, behind), ih.mpr ⟨rfl, by omega⟩, rfl⟩

/-- A text can be cut exactly at its positions: between two of its characters and at its ends. -/
theorem isSome_split?_iff :
    (split? text offset).isSome = true ↔ String.Pos.Raw.IsValid (String.ofList text) ⟨offset⟩ := by
  rw [Option.isSome_iff_exists, String.Pos.Raw.isValid_iff_exists_append]
  constructor
  · rintro ⟨⟨front, behind⟩, hsplit⟩
    obtain ⟨rfl, hsize⟩ := split?_eq_some_iff.mp hsplit
    refine ⟨String.ofList front, String.ofList behind, String.ofList_append, ?_⟩
    rw [String.Pos.Raw.ext_iff, String.byteIdx_rawEndPos, hsize]
  · rintro ⟨front, behind, htext, hend⟩
    refine ⟨(front.toList, behind.toList), split?_eq_some_iff.mpr ⟨?_, ?_⟩⟩
    · rw [← String.toList_append, ← htext, String.toList_ofList]
    · rw [String.ofList_toList, ← String.byteIdx_rawEndPos, ← hend]

theorem isSome_before?_iff :
    (before? text offset).isSome = true ↔ String.Pos.Raw.IsValid (String.ofList text) ⟨offset⟩ := by
  rw [before?, Option.isSome_map, isSome_split?_iff]

end Cut

namespace Ascii

theorem utf8Size_lowerChar (c : Char) : (lowerChar c).utf8Size = c.utf8Size := by
  rw [lowerChar]
  split
  · rename_i hcapital
    exact forall_capital (P := fun c => (Char.ofNat (c.toNat + 32)).utf8Size = c.utf8Size)
      (by decide) hcapital
  · rfl

theorem utf8ByteSize_lower (s : String) : (lower s).utf8ByteSize = s.utf8ByteSize := by
  have hsize : ∀ text : List Char, String.utf8Len (text.map lowerChar) = String.utf8Len text := by
    intro text
    induction text with
    | nil => rfl
    | cons c rest ih =>
      rw [List.map_cons, String.utf8Len_cons, String.utf8Len_cons, utf8Size_lowerChar, ih]
  rw [lower, String.utf8ByteSize_ofList, hsize, ← String.utf8ByteSize_ofList, String.ofList_toList]

/-- Texts that agree up to the case of ASCII letters have the same size. -/
theorem utf8ByteSize_eq_of_equalIgnoringCase {a b : String} (h : equalIgnoringCase a b = true) :
    a.utf8ByteSize = b.utf8ByteSize := by
  rw [← utf8ByteSize_lower, equalIgnoringCase_iff.mp h, utf8ByteSize_lower]

end Ascii

end SourceServer
