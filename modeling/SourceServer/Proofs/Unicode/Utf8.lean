import Mathlib.Tactic.SplitIfs
import SourceServer.Unicode.RawText

/-!
# Texts read back from their bytes

The bytes of a character are its number cut into parts of six bits, and each part is marked as a
first byte or as one that continues. Reading them gives the character back, so a text is read back
from its bytes. Bytes that belong to no text are read as another text, and are lost.

- `Utf8.front_encodeChar`: the character at the front of a row of bytes.
- `Utf8.decodeLossy_encode`: a whole text.
- `RawText.lossy_ofText`: a text among raw texts.
-/

namespace SourceServer

namespace Utf8

theorem toNat_ofNat {n : Nat} (h : n < 256) : (UInt8.ofNat n).toNat = n := by
  rw [UInt8.toNat_ofNat']
  exact Nat.mod_eq_of_lt h

/-- A byte that continues a character, and its payload. -/
theorem continuation {n : Nat} (h : n < 64) :
    isContinuation (.ofNat (n + 128)) = true ∧ low (.ofNat (n + 128)) = n := by
  rw [isContinuation, low, toNat_ofNat (by omega), decide_eq_true_eq]
  constructor
  · omega
  · omega

/-! ## Characters of one length -/

theorem front_one {v : Nat} (h : v ≤ 127) (rest : List UInt8) :
    front (.ofNat v) rest = .char (.ofNat v) 1 := by
  unfold front
  rw [toNat_ofNat (by omega)]
  exact if_pos (by omega)

theorem front_two {v : Nat} (hlow : 127 < v) (hhigh : v ≤ 2047) (rest : List UInt8) :
    front (.ofNat (v / 64 % 32 + 192)) (.ofNat (v % 64 + 128) :: rest) = .char (.ofNat v) 2 := by
  have hfirst : (UInt8.ofNat (v / 64 % 32 + 192)).toNat = v / 64 + 192 := by
    rw [toNat_ofNat (by omega)]
    omega
  obtain ⟨hcontinues, hpayload⟩ := @continuation (v % 64) (by omega)
  have hnumber : (v / 64 + 192) % 32 * 64 + v % 64 = v := by omega
  unfold front
  simp only [hfirst, hcontinues, hpayload, hnumber, if_true]
  rw [if_neg (by omega), if_pos (by omega)]

theorem front_three {v : Nat} (hlow : 2047 < v) (hhigh : v ≤ 65535)
    (hvalid : v < 0xd800 ∨ 0xdfff < v) (rest : List UInt8) :
    front (.ofNat (v / 4096 % 16 + 224))
        (.ofNat (v / 64 % 64 + 128) :: .ofNat (v % 64 + 128) :: rest)
      = .char (.ofNat v) 3 := by
  have hfirst : (UInt8.ofNat (v / 4096 % 16 + 224)).toNat = v / 4096 + 224 := by
    rw [toNat_ofNat (by omega)]
    omega
  have hsecond : (UInt8.ofNat (v / 64 % 64 + 128)).toNat = v / 64 % 64 + 128 :=
    toNat_ofNat (by omega)
  -- short forms and surrogates are what the range of the second byte leaves out
  have hfollows : mayFollow (.ofNat (v / 4096 % 16 + 224)) (.ofNat (v / 64 % 64 + 128)) = true := by
    rw [mayFollow, secondRange, hfirst, hsecond, decide_eq_true_eq]
    split_ifs <;> omega
  obtain ⟨-, hpayload⟩ := @continuation (v / 64 % 64) (by omega)
  obtain ⟨hcontinues, hpayload'⟩ := @continuation (v % 64) (by omega)
  have hnumber : ((v / 4096 + 224) % 16 * 64 + v / 64 % 64) * 64 + v % 64 = v := by omega
  unfold front
  simp only [hfirst, hfollows, hcontinues, hpayload, hpayload', hnumber, if_true]
  rw [if_neg (by omega), if_neg (by omega), if_pos (by omega)]

theorem front_four {v : Nat} (hlow : 65535 < v) (hhigh : v < 0x110000) (rest : List UInt8) :
    front (.ofNat (v / 262144 % 8 + 240))
        (.ofNat (v / 4096 % 64 + 128) :: .ofNat (v / 64 % 64 + 128) :: .ofNat (v % 64 + 128) :: rest)
      = .char (.ofNat v) 4 := by
  have hfirst : (UInt8.ofNat (v / 262144 % 8 + 240)).toNat = v / 262144 + 240 := by
    rw [toNat_ofNat (by omega)]
    omega
  have hsecond : (UInt8.ofNat (v / 4096 % 64 + 128)).toNat = v / 4096 % 64 + 128 :=
    toNat_ofNat (by omega)
  have hfollows : mayFollow (.ofNat (v / 262144 % 8 + 240)) (.ofNat (v / 4096 % 64 + 128)) = true
      := by
    rw [mayFollow, secondRange, hfirst, hsecond, decide_eq_true_eq]
    split_ifs <;> omega
  obtain ⟨-, hpayload⟩ := @continuation (v / 4096 % 64) (by omega)
  obtain ⟨hcontinues, hpayload'⟩ := @continuation (v / 64 % 64) (by omega)
  obtain ⟨hcontinues', hpayload''⟩ := @continuation (v % 64) (by omega)
  have hnumber : (((v / 262144 + 240) % 8 * 64 + v / 4096 % 64) * 64 + v / 64 % 64) * 64 + v % 64
      = v := by omega
  unfold front
  simp only [hfirst, hfollows, hcontinues, hcontinues', hpayload, hpayload', hpayload'', hnumber,
    if_true]
  rw [if_neg (by omega), if_neg (by omega), if_neg (by omega), if_pos (by omega)]

/-! ## Texts -/

/-- The character at the front of its own bytes, whatever stands behind them. -/
theorem front_encodeChar (c : Char) :
    ∃ first rest, String.utf8EncodeChar c = first :: rest
      ∧ ∀ behind, front first (rest ++ behind) = .char c (rest.length + 1) := by
  have hself : Char.ofNat c.val.toNat = c := Char.ofNat_toNat c
  have hvalid : c.val.toNat < 0xd800 ∨ (0xdfff < c.val.toNat ∧ c.val.toNat < 0x110000) := c.valid
  rw [String.utf8EncodeChar]
  by_cases hone : c.val.toNat ≤ 127
  · refine ⟨_, [], if_pos hone, fun behind => ?_⟩
    rw [List.nil_append, front_one hone, hself]
    rfl
  · by_cases htwo : c.val.toNat ≤ 2047
    · refine ⟨_, [_], (if_neg hone).trans (if_pos htwo), fun behind => ?_⟩
      exact (front_two (by omega) htwo behind).trans (by rw [hself]; rfl)
    · by_cases hthree : c.val.toNat ≤ 65535
      · refine ⟨_, [_, _], (if_neg hone).trans ((if_neg htwo).trans (if_pos hthree)),
          fun behind => ?_⟩
        exact (front_three (by omega) hthree (by omega) behind).trans (by rw [hself]; rfl)
      · refine ⟨_, [_, _, _], (if_neg hone).trans ((if_neg htwo).trans (if_neg hthree)),
          fun behind => ?_⟩
        exact (front_four (by omega) (by omega) behind).trans (by rw [hself]; rfl)

theorem decodeFrom_skip (bytes behind : List UInt8) :
    decodeFrom bytes.length (bytes ++ behind) = decodeFrom 0 behind := by
  induction bytes with
  | nil => rfl
  | cons byte rest ih =>
    rw [List.length_cons, List.cons_append, decodeFrom]
    exact ih

theorem decodeFrom_encodeChar (c : Char) (behind : List UInt8) :
    decodeFrom 0 (String.utf8EncodeChar c ++ behind) = c :: decodeFrom 0 behind := by
  obtain ⟨first, rest, hbytes, hfront⟩ := front_encodeChar c
  rw [hbytes, List.cons_append, decodeFrom, hfront]
  show c :: decodeFrom rest.length (rest ++ behind) = _
  rw [decodeFrom_skip]

theorem decodeFrom_encode (text : List Char) :
    decodeFrom 0 (text.flatMap String.utf8EncodeChar) = text := by
  induction text with
  | nil => rfl
  | cons c rest ih => rw [List.flatMap_cons, decodeFrom_encodeChar, ih]

theorem encode_eq (s : String) : encode s = s.toList.flatMap String.utf8EncodeChar := by
  have hbytes : s.toUTF8 = s.toList.utf8Encode := by
    rw [← String.toByteArray_ofList, String.ofList_toList]
    rfl
  rw [encode, hbytes, List.utf8Encode]
  simp

/-- A text is read back from its bytes. -/
theorem decodeLossy_encode (s : String) : decodeLossy (encode s) = s := by
  rw [decodeLossy, encode_eq, decodeFrom_encode, String.ofList_toList]

/-- Texts with the same bytes are the same. -/
theorem encode_injective {s t : String} (h : encode s = encode t) : s = t := by
  rw [← decodeLossy_encode s, h, decodeLossy_encode]

end Utf8

namespace RawText

@[simp] theorem lossy_ofText (text : String) : (ofText text).lossy = text :=
  Utf8.decodeLossy_encode text

@[simp] theorem ofText_inj {text other : String} : ofText text = ofText other ↔ text = other := by
  refine ⟨fun h => ?_, congrArg ofText⟩
  rw [← lossy_ofText text, h, lossy_ofText]

end RawText

namespace Path

@[simp] theorem lossy_raw (p : Path) : p.raw.lossy = p.text :=
  RawText.lossy_ofText p.text

theorem raw_injective : Function.Injective raw := by
  intro p q h
  have htext : p.text = q.text := RawText.ofText_inj.mp h
  cases p
  cases q
  exact congrArg Path.mk htext

end Path

end SourceServer
