import SourceServer.Text.Ascii
import SourceServer.Text.Hex

/-!
# Hexadecimal texts

Every digit reads back as its value, so bytes are known from their digits. The digits are lower-case
already: two of these texts that agree up to the case of letters are equal.

- `Hex.encode_injective`: different bytes have different digits.
- `Hex.equalIgnoringCase_encode_iff`: agreement up to case is equality.
- `Ascii.equalIgnoringCase_iff`: agreement up to case is equality of the lower cases.
-/

namespace SourceServer

namespace Ascii

theorem equalIgnoringCase_iff {a b : String} :
    equalIgnoringCase a b = true ↔ lower a = lower b := by
  rw [equalIgnoringCase, beq_iff_eq, ← toList_lower, ← toList_lower, String.toList_inj]

end Ascii

namespace Hex

/-! ## One byte -/

theorem hexValue?_digit : ∀ n < 16, Ascii.hexValue? (digit n) = some n := by
  decide

theorem lowerChar_digit : ∀ n < 16, Ascii.lowerChar (digit n) = digit n := by
  decide

theorem digit_inj {m n : Nat} (hm : m < 16) (hn : n < 16) (h : digit m = digit n) : m = n := by
  have hvalue : Ascii.hexValue? (digit m) = Ascii.hexValue? (digit n) := congrArg _ h
  rw [hexValue?_digit m hm, hexValue?_digit n hn] at hvalue
  exact Option.some.inj hvalue

theorem high_lt (b : UInt8) : b.toNat / 16 < 16 := by
  have hbyte : b.toNat < 256 := b.toNat_lt
  omega

theorem low_lt (b : UInt8) : b.toNat % 16 < 16 :=
  Nat.mod_lt _ (by omega)

/-- A byte is known from its two digits. -/
theorem ofByte_injective : Function.Injective ofByte := by
  intro a b h
  obtain ⟨hhigh, hlow⟩ : digit (a.toNat / 16) = digit (b.toNat / 16)
      ∧ digit (a.toNat % 16) = digit (b.toNat % 16) := by
    simpa [ofByte] using h
  have hquotient : a.toNat / 16 = b.toNat / 16 := digit_inj (high_lt a) (high_lt b) hhigh
  have hremainder : a.toNat % 16 = b.toNat % 16 := digit_inj (low_lt a) (low_lt b) hlow
  apply UInt8.toNat_inj.mp
  omega

theorem map_lowerChar_ofByte (b : UInt8) : (ofByte b).map Ascii.lowerChar = ofByte b := by
  simp [ofByte, lowerChar_digit _ (high_lt b), lowerChar_digit _ (low_lt b)]

/-! ## Rows of bytes -/

@[simp] theorem toList_encode (bytes : List UInt8) :
    (encode bytes).toList = bytes.flatMap ofByte := by
  simp [encode]

theorem encode_injective : Function.Injective encode := by
  intro a
  -- each byte takes up two digits, so the rows are compared byte by byte
  induction a with
  | nil =>
    intro b h
    cases b with
    | nil => rfl
    | cons y ys => simpa [ofByte] using congrArg String.toList h
  | cons x xs ih =>
    intro b h
    cases b with
    | nil => simpa [ofByte] using congrArg String.toList h
    | cons y ys =>
      have hdigits : ofByte x ++ xs.flatMap ofByte = ofByte y ++ ys.flatMap ofByte := by
        simpa using congrArg String.toList h
      obtain ⟨hfirst, hrest⟩ := List.append_inj hdigits rfl
      have htails : encode xs = encode ys := by
        rw [encode, encode, hrest]
      rw [ofByte_injective hfirst, ih htails]

/-- The digits of bytes hold no capital. -/
theorem lower_encode (bytes : List UInt8) : Ascii.lower (encode bytes) = encode bytes := by
  apply String.toList_inj.mp
  rw [Ascii.toList_lower, toList_encode]
  induction bytes with
  | nil => rfl
  | cons b rest ih => rw [List.flatMap_cons, List.map_append, map_lowerChar_ofByte, ih]

theorem equalIgnoringCase_encode_iff {a b : List UInt8} :
    Ascii.equalIgnoringCase (encode a) (encode b) = true ↔ a = b := by
  rw [Ascii.equalIgnoringCase_iff, lower_encode, lower_encode, encode_injective.eq_iff]

end Hex

end SourceServer
