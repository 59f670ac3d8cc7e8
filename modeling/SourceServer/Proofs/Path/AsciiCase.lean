import Mathlib.Data.List.Basic
import SourceServer.Proofs.Path.Names
import SourceServer.Proofs.Unicode.LowerCase

/-!
# Paths up to the case of ASCII letters

Roots are taken off without regard to the case of ASCII letters. A letter stays a letter, so slashes
and points stay where they are: a path in lower case has the steps and the components of the path in
lower case.

- `Ascii.lowerChar_eq_low_iff`: what is no letter.
- `FileSystem.steps_lower`: the steps of a path in lower case.
- `Component.asciiLower`, `Path.components_asciiLower_eq`: plain paths that agree step by step.
- `FileSystem.steps_append_bordered`, `FileSystem.steps_dropSlashes`: paths cut at slashes.
-/

namespace SourceServer

/-! ## Characters -/

namespace Ascii

/-- A character up to the slash is no letter, and no letter becomes one. -/
theorem lowerChar_eq_low_iff {x c : Char} (hx : Unicode.isLow x) : lowerChar c = x ↔ c = x := by
  rw [lowerChar]
  split
  · rename_i hcapital
    obtain ⟨hfirst, hlast⟩ := hcapital
    have hge : 'A'.toNat ≤ c.toNat := hfirst
    have hle : c.toNat ≤ 'Z'.toNat := hlast
    have hA : 'A'.toNat = 65 := rfl
    have hZ : 'Z'.toNat = 90 := rfl
    have hcode : (Char.ofNat (c.toNat + 32)).toNat = c.toNat + 32 := by
      rw [Char.ofNat, dif_pos (Or.inl (by omega))]
      rfl
    rw [Unicode.isLow] at hx
    constructor
    · rintro rfl
      omega
    · rintro rfl
      omega
  · rfl

theorem lower_eq_iff_of_low {a b : String} (hb : b.toList.all fun c => Unicode.isLow c) :
    lower a = b ↔ a = b := by
  have hlow : ∀ c ∈ b.toList, Unicode.isLow c := by
    simpa only [List.all_eq_true, decide_eq_true_eq] using hb
  have hmap : ∀ s t : List Char, (∀ c ∈ t, Unicode.isLow c) → (s.map lowerChar = t ↔ s = t) := by
    intro s t ht
    induction s generalizing t with
    | nil => simp
    | cons c s ih =>
      cases t with
      | nil => simp
      | cons d t =>
        rw [List.forall_mem_cons] at ht
        rw [List.map_cons, List.cons.injEq, List.cons.injEq, lowerChar_eq_low_iff ht.1, ih t ht.2]
  rw [← String.toList_inj, toList_lower, hmap _ _ hlow, String.toList_inj]

end Ascii

/-! ## Steps -/

theorem splitOn_map_lowerChar (text : List Char) :
    (text.map Ascii.lowerChar).splitOn '/'
      = (text.splitOn '/').map (List.map Ascii.lowerChar) := by
  induction text with
  | nil => rfl
  | cons c text ih =>
    have hslash : Ascii.lowerChar c = '/' ↔ c = '/' := Ascii.lowerChar_eq_low_iff (by decide)
    rw [List.map_cons, List.splitOn_cons_eq_if_modifyHead, List.splitOn_cons_eq_if_modifyHead, ih]
    by_cases hc : c = '/'
    · rw [if_pos (by simpa using hslash.mpr hc), if_pos (by simpa using hc), List.map_cons,
        List.map_nil]
    · rw [if_neg (by simpa [hslash] using hc), if_neg (by simpa using hc)]
      cases text.splitOn '/' <;> rfl

namespace FileSystem

/-- The steps of a path in lower case. -/
theorem steps_lower (text : String) :
    steps ⟨Ascii.lower text⟩ = (steps ⟨text⟩).map Ascii.lower := by
  rw [steps, steps, Ascii.toList_lower, splitOn_map_lowerChar, List.filter_map, List.map_map,
    List.map_map]
  have hkept : (text.toList.splitOn '/').filter ((fun piece => decide (piece ≠ []))
      ∘ List.map Ascii.lowerChar) = (text.toList.splitOn '/').filter (· ≠ []) :=
    List.filter_congr fun piece _ => by simp
  rw [hkept]
  refine List.map_congr_left fun piece _ => ?_
  simp [Ascii.lower]

/-- Slashes in front are no steps. -/
theorem steps_slash_cons (text : List Char) :
    steps ⟨String.ofList ('/' :: text)⟩ = steps ⟨String.ofList text⟩ := by
  have hsplit : ('/' :: text).splitOn '/' = [] :: text.splitOn '/' := by
    rw [List.splitOn_cons_eq_if_modifyHead]
    rfl
  simp [steps, hsplit]

theorem steps_dropSlashes (text : List Char) :
    steps ⟨String.ofList (text.dropWhile (· == '/'))⟩ = steps ⟨String.ofList text⟩ := by
  induction text with
  | nil => rfl
  | cons c text ih =>
    by_cases hc : c = '/'
    · subst hc
      rw [List.dropWhile_cons_of_pos (by simp), ih, steps_slash_cons]
    · rw [List.dropWhile_cons_of_neg (by simpa using hc)]

/-- The steps on both sides of a place where a step ends. -/
theorem steps_append_bordered {front rest : List Char} (h : ∀ c ∈ rest.head?, c = '/') :
    steps ⟨String.ofList (front ++ rest)⟩
      = steps ⟨String.ofList front⟩ ++ steps ⟨String.ofList rest⟩ := by
  cases rest with
  | nil =>
    rw [List.append_nil]
    exact (List.append_nil _).symm
  | cons c tail =>
    obtain rfl : c = '/' := h c rfl
    have hsplit : (front ++ '/' :: tail).splitOn '/' = front.splitOn '/' ++ tail.splitOn '/' :=
      List.splitOn_append_cons_self _ _
    rw [steps_slash_cons, steps, steps, steps]
    simp [hsplit]

end FileSystem

/-! ## Components -/

namespace Component

/-- A component without the case of its ASCII letters. -/
def asciiLower : Component → Component
  | .name text => .name (Ascii.lower text)
  | component => component

end Component

namespace Path

instance (p : Path) : Decidable p.IsPlain :=
  inferInstanceAs (Decidable (_ ∧ _))

theorem stepComponent_lower (step : String) :
    stepComponent (Ascii.lower step) = (stepComponent step).map Component.asciiLower := by
  have hhere : Ascii.lower step = "." ↔ step = "." :=
    Ascii.lower_eq_iff_of_low (by decide)
  have hup : Ascii.lower step = ".." ↔ step = ".." :=
    Ascii.lower_eq_iff_of_low (by decide)
  rw [stepComponent, stepComponent]
  by_cases h : step = "."
  · rw [if_pos (hhere.mpr h), if_pos h]
    rfl
  · by_cases h' : step = ".."
    · rw [if_neg (mt hhere.mp h), if_pos (hup.mpr h'), if_neg h, if_pos h']
      rfl
    · rw [if_neg (mt hhere.mp h), if_neg (mt hup.mp h'), if_neg h, if_neg h']
      rfl

/-- Plain paths that agree step by step up to the case of ASCII letters agree as paths. -/
theorem components_asciiLower_eq {p q : Path} (hp : p.IsPlain) (hq : q.IsPlain)
    (habsolute : p.isAbsolute = q.isAbsolute)
    (hsteps : (FileSystem.steps p).map Ascii.lower = (FileSystem.steps q).map Ascii.lower) :
    p.components.map Component.asciiLower = q.components.map Component.asciiLower := by
  have hbody : ∀ steps : List String,
      (steps.flatMap stepComponent).map Component.asciiLower
        = (steps.map Ascii.lower).flatMap stepComponent := by
    intro steps
    rw [List.map_flatMap, List.flatMap_map]
    exact List.flatMap_congr fun step _ => (stepComponent_lower step).symm
  have htop : p.top = q.top := by rw [top, top, habsolute]
  rw [components_eq_steps, components_eq_steps, head_of_isPlain hp, head_of_isPlain hq,
    List.map_append, List.map_append, hbody, hbody, htop, hsteps]

end Path

end SourceServer
