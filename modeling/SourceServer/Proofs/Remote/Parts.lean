import Mathlib.Data.List.Forall2
import Mathlib.Data.List.TakeDrop
import SourceServer.Proofs.Text.Unbroken
import SourceServer.Remote

/-!
# Parts of repository addresses

An address of a hosting service is read from the front: fixed parts, some of which may be missing,
and parts of the user's own choice between them. Each reader takes off what its part looks like and
leaves the rest.

- `Remote.Shape.Matches`: a text that is a fixed one up to case.
- `Remote.Shape.dropFixed?_eq_some_iff`, `Remote.Shape.dropOptional_append`,
  `Remote.Shape.dropWebScheme_append`: fixed parts.
- `Remote.Shape.part?_eq_some_iff`, `Remote.Shape.finalName?_eq_some_iff`: parts of the user's own.
- `Remote.Shape.dropGitEnding_eq_iff`: the repository that a name stands for.
-/

namespace SourceServer

namespace Remote

namespace Shape

/-! ## Fixed texts -/

/-- A text is the fixed one up to case. -/
def Matches (fixed text : List Char) : Prop :=
  List.Forall₂ (fun f c => matchesLetter f c = true) fixed text

theorem dropFixed?_eq_some_iff {fixed text rest : List Char} :
    dropFixed? fixed text = some rest ↔ ∃ front, Matches fixed front ∧ text = front ++ rest := by
  induction fixed generalizing text with
  | nil =>
    rw [dropFixed?, Option.some.injEq]
    constructor
    · rintro rfl
      exact ⟨[], .nil, rfl⟩
    · rintro ⟨front, hfront, rfl⟩
      cases hfront
      rfl
  | cons f fixed ih =>
    cases text with
    | nil =>
      constructor
      · intro h
        cases h
      · rintro ⟨front, hfront, htext⟩
        rw [(List.append_eq_nil_iff.mp htext.symm).1] at hfront
        cases hfront
    | cons c text =>
      rw [dropFixed?]
      constructor
      · intro h
        split at h
        · rename_i hmatch
          obtain ⟨front, hfront, rfl⟩ := ih.mp h
          exact ⟨c :: front, .cons hmatch hfront, rfl⟩
        · cases h
      · rintro ⟨front, hfront, htext⟩
        cases hfront with
        | cons hmatch hfront =>
          rw [List.cons_append, List.cons.injEq] at htext
          obtain ⟨rfl, htext⟩ := htext
          rw [if_pos hmatch]
          exact ih.mpr ⟨_, hfront, htext⟩

/-- A character of ASCII. -/
def isLow (c : Char) : Bool :=
  decide (c.toNat < 0x80)

theorem lowerChar_of_high {c : Char} (h : isLow c = false) : Ascii.lowerChar c = c := by
  rw [isLow, decide_eq_false_iff_not] at h
  rw [Ascii.lowerChar, if_neg]
  rintro ⟨-, hcapital⟩
  have hcapital : c.toNat ≤ 90 := hcapital
  omega

/-- A character is no more than one letter of ASCII up to case. -/
theorem eq_of_matchesLetter {f g c : Char} (hf : isLow f = true) (hg : isLow g = true)
    (hfc : matchesLetter f c = true) (hgc : matchesLetter g c = true) : f = g := by
  simp only [matchesLetter, Bool.or_eq_true, Bool.and_eq_true, beq_iff_eq] at hfc hgc
  cases hc : isLow c with
  | true =>
    -- the two further signs are not of ASCII
    have hlow : c.toNat < 0x80 := of_decide_eq_true hc
    have hlower : ∀ x : Char, ((Ascii.lowerChar c = x ∨ x = 's' ∧ c.toNat = 0x17f)
        ∨ x = 'k' ∧ c.toNat = 0x212a) → Ascii.lowerChar c = x := by
      rintro x ((h | ⟨-, h⟩) | ⟨-, h⟩)
      · exact h
      · omega
      · omega
    exact (hlower f hfc).symm.trans (hlower g hgc)
  | false =>
    rw [lowerChar_of_high hc] at hfc hgc
    have hother : ∀ x : Char, isLow x = true → c ≠ x := by
      rintro x hx rfl
      rw [hx] at hc
      cases hc
    have hsigns : ∀ x : Char, isLow x = true → ((c = x ∨ x = 's' ∧ c.toNat = 0x17f)
        ∨ x = 'k' ∧ c.toNat = 0x212a) → x = 's' ∧ c.toNat = 0x17f ∨ x = 'k' ∧ c.toNat = 0x212a := by
      rintro x hx ((h | h) | h)
      · exact absurd h (hother x hx)
      · exact .inl h
      · exact .inr h
    rcases hsigns f hf hfc with ⟨rfl, hcode⟩ | ⟨rfl, hcode⟩ <;>
      rcases hsigns g hg hgc with ⟨rfl, hcode'⟩ | ⟨rfl, hcode'⟩
    · rfl
    · rw [hcode] at hcode'
      cases hcode'
    · rw [hcode] at hcode'
      cases hcode'
    · rfl

theorem dropFixed?_append (first second text : List Char) :
    dropFixed? (first ++ second) text = (dropFixed? first text).bind (dropFixed? second) := by
  induction first generalizing text with
  | nil => rfl
  | cons f first ih =>
    cases text with
    | nil => rfl
    | cons c text =>
      rw [List.cons_append, dropFixed?, dropFixed?]
      split
      · exact ih text
      · rfl

/-- A text does not begin with two fixed parts that differ in their first letters. -/
theorem dropFixed?_eq_none {f g : Char} {fixed other text rest : List Char}
    (h : dropFixed? (g :: other) text = some rest) (hf : isLow f = true) (hg : isLow g = true)
    (hne : f ≠ g) : dropFixed? (f :: fixed) text = none := by
  cases text with
  | nil => rfl
  | cons c text =>
    rw [dropFixed?] at h ⊢
    split at h
    · rename_i hmatch
      exact if_neg fun hother => hne (eq_of_matchesLetter hf hg hother hmatch)
    · cases h

theorem Matches.dropFixed?_eq_none {f g : Char} {fixed other front : List Char}
    (h : Matches (g :: other) front) (rest : List Char) (hf : isLow f = true) (hg : isLow g = true)
    (hne : f ≠ g) : dropFixed? (f :: fixed) (front ++ rest) = none :=
  Shape.dropFixed?_eq_none (dropFixed?_eq_some_iff.mpr ⟨front, h, rfl⟩) hf hg hne

/-- The same behind a common beginning. -/
theorem dropFixed?_append_eq_none {f g : Char} {common fixed other text rest : List Char}
    (h : dropFixed? (common ++ g :: other) text = some rest) (hf : isLow f = true)
    (hg : isLow g = true) (hne : f ≠ g) : dropFixed? (common ++ f :: fixed) text = none := by
  rw [dropFixed?_append] at h ⊢
  obtain ⟨behind, hcommon, hother⟩ := Option.bind_eq_some_iff.mp h
  rw [hcommon, Option.bind_some]
  exact dropFixed?_eq_none hother hf hg hne

/-- A character of the fixed parts of addresses and of the templates made from them. -/
def isAddressChar (c : Char) : Bool :=
  isAccountChar c || [':', '/', '.', '_', '?', '=', '&'].contains c

theorem isAddressChar_of_matchesLetter {f c : Char} (h : matchesLetter f c = true)
    (hf : isAddressChar f = true) : isAddressChar c = true := by
  rw [matchesLetter, Bool.or_eq_true, Bool.or_eq_true, Bool.and_eq_true, Bool.and_eq_true,
    beq_iff_eq, beq_iff_eq, beq_iff_eq] at h
  rcases h with (rfl | ⟨-, hsign⟩) | ⟨-, hsign⟩
  · by_cases hcapital : 'A' ≤ c ∧ c ≤ 'Z'
    · exact Ascii.forall_capital (P := fun c => isAddressChar c = true) (by decide) hcapital
    · rwa [Ascii.lowerChar, if_neg hcapital] at hf
  · simp [isAddressChar, isAccountChar, hsign]
  · simp [isAddressChar, isAccountChar, hsign]

theorem Matches.all_isAddressChar {fixed text : List Char} (h : Matches fixed text)
    (hfixed : fixed.all isAddressChar = true) : text.all isAddressChar = true := by
  induction h with
  | nil => rfl
  | cons hmatch _ ih =>
    rw [List.all_cons, Bool.and_eq_true] at hfixed ⊢
    exact ⟨isAddressChar_of_matchesLetter hmatch hfixed.1, ih hfixed.2⟩

/-- Fixed parts end no line. -/
theorem unbroken_of_isAddressChar {text : List Char} (h : text.all isAddressChar = true) :
    Unbroken text :=
  unbroken_of_all (by decide) (by decide) (List.all_eq_true.mp h)

/-! ## Reading fixed parts -/

theorem dropOptional_eq (fixed text : List Char) :
    ∃ front, text = front ++ dropOptional fixed text ∧ (front = [] ∨ Matches fixed front) := by
  rw [dropOptional]
  cases h : dropFixed? fixed text with
  | none => exact ⟨[], rfl, .inl rfl⟩
  | some rest =>
    obtain ⟨front, hfront, htext⟩ := dropFixed?_eq_some_iff.mp h
    exact ⟨front, htext, .inr hfront⟩

/-- An optional part is dropped when it cannot be taken for a part of what follows. -/
theorem dropOptional_append {fixed front rest : List Char}
    (hfront : front = [] ∨ Matches fixed front) (hrest : dropFixed? fixed rest = none) :
    dropOptional fixed (front ++ rest) = rest := by
  rcases hfront with rfl | hfront
  · rw [List.nil_append, dropOptional, hrest, Option.getD_none]
  · rw [dropOptional, dropFixed?_eq_some_iff.mpr ⟨front, hfront, rfl⟩, Option.getD_some]

/-- The scheme of a web address, which may be missing. -/
def IsWebScheme (scheme : List Char) : Prop :=
  scheme = [] ∨ Matches "http://".toList scheme ∨ Matches "https://".toList scheme

theorem dropWebScheme_eq (text : List Char) :
    ∃ scheme, text = scheme ++ dropWebScheme text ∧ IsWebScheme scheme := by
  rw [dropWebScheme]
  cases hhttp : dropFixed? "http".toList text with
  | none => exact ⟨[], rfl, .inl rfl⟩
  | some rest =>
    dsimp only
    cases hcolon : dropFixed? "://".toList (dropOptional ['s'] rest) with
    | none => exact ⟨[], rfl, .inl rfl⟩
    | some behind =>
      obtain ⟨first, hfirst, rfl⟩ := dropFixed?_eq_some_iff.mp hhttp
      obtain ⟨letter, hrest, hletter⟩ := dropOptional_eq ['s'] rest
      obtain ⟨colon, hcolonMatches, hbehind⟩ := dropFixed?_eq_some_iff.mp hcolon
      refine ⟨first ++ (letter ++ colon), ?_, .inr ?_⟩
      · rw [Option.getD_some, List.append_assoc, List.append_assoc, ← hbehind, ← hrest]
      · rcases hletter with rfl | hletter
        · exact .inl (List.rel_append hfirst hcolonMatches)
        · exact .inr (List.rel_append hfirst (List.rel_append hletter hcolonMatches))

/-- A scheme is dropped from an address that does not begin like one behind it. -/
theorem dropWebScheme_append {scheme rest : List Char} (hscheme : IsWebScheme scheme)
    (hrest : dropFixed? "http".toList rest = none) : dropWebScheme (scheme ++ rest) = rest := by
  rcases hscheme with rfl | hscheme | hscheme
  · rw [List.nil_append, dropWebScheme, hrest]
  · have hdrop : dropFixed? ("http".toList ++ "://".toList) (scheme ++ rest) = some rest :=
      dropFixed?_eq_some_iff.mpr ⟨scheme, hscheme, rfl⟩
    rw [dropFixed?_append, Option.bind_eq_some_iff] at hdrop
    obtain ⟨behind, hhttp, hcolon⟩ := hdrop
    have hletter : dropFixed? ['s'] behind = none :=
      dropFixed?_eq_none hcolon (by decide) (by decide) (by decide)
    rw [dropWebScheme, hhttp]
    dsimp only
    rw [dropOptional, hletter, Option.getD_none, hcolon, Option.getD_some]
  · have hdrop : dropFixed? ("http".toList ++ (['s'] ++ "://".toList)) (scheme ++ rest)
        = some rest := dropFixed?_eq_some_iff.mpr ⟨scheme, hscheme, rfl⟩
    rw [dropFixed?_append, Option.bind_eq_some_iff] at hdrop
    obtain ⟨behind, hhttp, hletter⟩ := hdrop
    rw [dropFixed?_append, Option.bind_eq_some_iff] at hletter
    obtain ⟨colon, hletter, hcolon⟩ := hletter
    rw [dropWebScheme, hhttp]
    dsimp only
    rw [dropOptional, hletter, Option.getD_some, hcolon, Option.getD_some]

/-- A row of characters that satisfy a condition, and what follows it. -/
theorem span_eq {p : Char → Bool} {text front rest : List Char}
    (h : text.span p = (front, rest)) : text = front ++ rest ∧ ∀ c ∈ front, p c = true := by
  rw [List.span_eq_takeWhile_dropWhile, Prod.mk.injEq] at h
  obtain ⟨rfl, rfl⟩ := h
  exact ⟨List.takeWhile_append_dropWhile.symm, List.all_eq_true.mp List.all_takeWhile⟩

/-! ## Parts of the user's own -/

/-- The name of an account. -/
def IsAccount (account : List Char) : Prop :=
  account ≠ [] ∧ account.all isAccountChar = true

theorem account?_eq_some {text account rest : List Char}
    (h : account? text = some (account, rest)) : text = account ++ rest ∧ IsAccount account := by
  rw [account?] at h
  cases hspan : text.span isAccountChar with
  | mk front tail =>
    rw [hspan] at h
    cases front with
    | nil => cases h
    | cons c front =>
      obtain ⟨rfl, rfl⟩ := Prod.mk.inj (Option.some.inj h)
      obtain ⟨htext, haccount⟩ := span_eq hspan
      exact ⟨htext, List.cons_ne_nil c front, List.all_eq_true.mpr haccount⟩

/-- A part between slashes. -/
def IsPart (part : List Char) : Prop :=
  part ≠ [] ∧ '/' ∉ part

/-- A part goes on until the first slash, which is dropped. -/
theorem part?_eq_some_iff {text part rest : List Char} :
    part? text = some (part, rest) ↔ text = part ++ '/' :: rest ∧ IsPart part := by
  constructor
  · intro h
    rw [part?] at h
    cases hspan : text.span (· != '/') with
    | mk front tail =>
      rw [hspan] at h
      cases front with
      | nil => cases h
      | cons c front =>
        cases tail with
        | nil => cases h
        | cons slash tail =>
          have hslash : slash = '/' := by
            have := List.head?_dropWhile_not (· != '/') text
            rw [List.span_eq_takeWhile_dropWhile, Prod.mk.injEq] at hspan
            rw [hspan.2] at this
            simpa using this
          simp only [Option.some.injEq, Prod.mk.injEq] at h
          obtain ⟨rfl, rfl⟩ := h
          obtain ⟨htext, hpart⟩ := span_eq hspan
          refine ⟨by rw [htext, hslash], List.cons_ne_nil c front, fun hmem => ?_⟩
          exact absurd (hpart '/' hmem) (by decide)
  · rintro ⟨rfl, hne, hslash⟩
    have hkept : ∀ c ∈ part, (c != '/') = true := by
      intro c hc
      rw [bne_iff_ne]
      rintro rfl
      exact hslash hc
    have hspan : (part ++ '/' :: rest).span (· != '/') = (part, '/' :: rest) := by
      rw [List.span_eq_takeWhile_dropWhile, List.takeWhile_append_of_pos hkept,
        List.dropWhile_append_of_pos hkept]
      simp
    rw [part?, hspan]
    cases part with
    | nil => exact absurd rfl hne
    | cons c part => rfl

/-- The name at the end of an address. -/
def IsName (name : List Char) : Prop :=
  name ≠ [] ∧ ∀ c ∈ name, c ≠ '/' ∧ c ≠ '?' ∧ c ≠ '#'

/-- A final name may be followed by one slash. -/
theorem finalName?_eq_some_iff {text name : List Char} :
    finalName? text = some name
      ↔ (∃ slash, text = name ++ slash ∧ (slash = [] ∨ slash = ['/'])) ∧ IsName name := by
  constructor
  · intro h
    simp only [finalName?, Option.ite_none_left_eq_some, Option.some.injEq] at h
    obtain ⟨hallowed, hname⟩ := h
    rw [hname, Bool.or_eq_true, not_or] at hallowed
    refine ⟨?_, by simpa using hallowed.1, by simpa [and_assoc] using hallowed.2⟩
    split at hname
    · rename_i hlast
      obtain ⟨front, rfl⟩ := List.getLast?_eq_some_iff.mp hlast
      rw [List.dropLast_concat] at hname
      exact ⟨['/'], by rw [hname], .inr rfl⟩
    · exact ⟨[], by rw [hname, List.append_nil], .inl rfl⟩
  · rintro ⟨⟨slash, rfl, hslash⟩, hne, hchars⟩
    have hname : (if (name ++ slash).getLast? = some '/' then (name ++ slash).dropLast
        else name ++ slash) = name := by
      rcases hslash with rfl | rfl
      · rw [List.append_nil, if_neg]
        intro hlast
        exact (hchars '/' (List.mem_of_getLast? hlast)).1 rfl
      · rw [List.getLast?_concat, if_pos rfl, List.dropLast_concat]
    have hallowed :
        ¬ (name.isEmpty || name.any fun c => c == '/' || c == '?' || c == '#') = true := by
      simpa [hne, and_assoc] using hchars
    rw [finalName?, hname, if_neg hallowed]

/-- A name is another one with `.git` behind it, in any case. -/
def EndsInGit (name repository : List Char) : Prop :=
  repository ≠ [] ∧ ∃ ending, name = repository ++ ending ∧ Matches gitEnding ending

/-- The repository that a name stands for: the name without one `.git` at its end, or the name when
it has no such end. -/
def NamesRepository (name repository : List Char) : Prop :=
  EndsInGit name repository ∨ (¬ ∃ front, EndsInGit name front) ∧ name = repository

theorem dropGitEnding_of_endsInGit {name repository : List Char}
    (h : EndsInGit name repository) : dropGitEnding name = repository := by
  obtain ⟨hne, ending, rfl, hending⟩ := h
  have hlength : (repository ++ ending).length - gitEnding.length = repository.length := by
    rw [List.length_append, ← hending.length_eq, Nat.add_sub_cancel]
  have hfixed : isFixed gitEnding ending = true := by
    rw [isFixed, dropFixed?_eq_some_iff.mpr ⟨ending, hending, (List.append_nil ending).symm⟩]
    rfl
  simp only [dropGitEnding, hlength, List.drop_left, List.take_left]
  exact if_pos ⟨List.length_pos_of_ne_nil hne, hfixed⟩

theorem dropGitEnding_cases (name : List Char) :
    dropGitEnding name = name ∨ EndsInGit name (dropGitEnding name) := by
  simp only [dropGitEnding]
  split
  · rename_i hending
    have hdrop : dropFixed? gitEnding (name.drop (name.length - gitEnding.length)) = some [] := by
      simpa [isFixed] using hending.2
    obtain ⟨ending, hmatches, htext⟩ := dropFixed?_eq_some_iff.mp hdrop
    rw [List.append_nil] at htext
    refine .inr ⟨?_, ending, by rw [← htext, List.take_append_drop], hmatches⟩
    rw [Ne, List.take_eq_nil_iff, not_or]
    refine ⟨by omega, ?_⟩
    rintro rfl
    simp at hending
  · exact .inl rfl

theorem dropGitEnding_eq_iff {name repository : List Char} :
    dropGitEnding name = repository ↔ NamesRepository name repository := by
  constructor
  · rintro rfl
    by_cases hending : ∃ front, EndsInGit name front
    · obtain ⟨front, hfront⟩ := hending
      rw [dropGitEnding_of_endsInGit hfront]
      exact .inl hfront
    · rcases dropGitEnding_cases name with hname | hfront
      · exact .inr ⟨hending, hname.symm⟩
      · exact absurd ⟨_, hfront⟩ hending
  · rintro (h | ⟨hnone, rfl⟩)
    · exact dropGitEnding_of_endsInGit h
    · rcases dropGitEnding_cases name with hname | hfront
      · exact hname
      · exact absurd ⟨_, hfront⟩ hnone

end Shape

end Remote

end SourceServer
