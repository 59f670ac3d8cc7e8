import SourceServer.Proofs.Remote.Grammar
import SourceServer.Proofs.Remote.Pattern

/-!
# Readers of addresses and their patterns

The kinds of remotes recognise their addresses by patterns. The readers of addresses do without the
trying of a pattern: they take off one part after another and never come back to it. Each reader
finds what its pattern captures.

- `Remote.Shape.gitDaemonPattern`, `Remote.Shape.isGitDaemon_eq`: `git_daemon`.
- `Remote.Shape.gitHubPattern`, `Remote.Shape.gitHubParts?_eq`: `github`.
- `Remote.Shape.accountHostPattern`, `Remote.Shape.sharedHostPattern`,
  `Remote.Shape.teamServicesParts?_eq`: `team_services`.
-/

namespace SourceServer

namespace Remote

namespace Shape

open Pattern (CharSet Reading text row maybe capture finish folded)

/-! ## The patterns -/

/-- All characters but some signs. -/
def others (signs : List Char) : CharSet :=
  ⟨signs.map fun c => (c, c), true⟩

/-- Letters, digits and the hyphen: `[a-z0-9\-]`. -/
def accountSet : CharSet :=
  ⟨[('a', 'z'), ('0', '9'), ('-', '-')], false⟩

/-- A row of characters other than a slash: `(?P<name>[^/]+)`. -/
def partPattern (name : String) : Pattern :=
  capture name (row (others ['/']) false)

/-- A name as short as possible: `(?P<repo>[^/?#]+?)`. -/
def namePattern : Pattern :=
  capture "repo" (row (others ['/', '?', '#']) true)

/-- `^(?i)git://.+`. -/
def gitDaemonPattern : Pattern :=
  text "git://" ++ row (others ['\n']) false

/-- `^(?i)(?:https?://)?(?:www\.)?github\.com/(?P<owner>[^/]+)/(?P<repo>[^/?#]+?)(?:\.git)?/?$`. -/
def gitHubPattern : Pattern :=
  maybe (text "http" ++ maybe (text "s") ++ text "://") ++ maybe (text "www.") ++ text "github.com/"
    ++ partPattern "owner" ++ text "/" ++ namePattern ++ maybe (text ".git") ++ maybe (text "/")
    ++ finish

/-- What stands behind a collection: `(?P<project>[^/]+)/_git/(?P<repo>[^/?#]+?)/?$`. -/
def projectPattern : Pattern :=
  partPattern "project" ++ text "/_git/" ++ namePattern ++ maybe (text "/") ++ finish

/-- `^(?i)(?P<collection>https://[a-z0-9\-]+\.visualstudio\.com/)` and what stands behind it. -/
def accountHostPattern : Pattern :=
  capture "collection" (text "https://" ++ row accountSet false ++ text ".visualstudio.com/")
    ++ projectPattern

/-- `^(?i)(?P<collection>https://dev\.azure\.com/[a-z0-9\-]+/)` and what stands behind it. -/
def sharedHostPattern : Pattern :=
  capture "collection" (text "https://dev.azure.com/" ++ row accountSet false ++ text "/")
    ++ projectPattern

/-! ## Sets of characters -/

/-- A character of ASCII other than a letter. -/
def isSign (c : Char) : Bool :=
  isLow c && !Ascii.isLetter c

/-- Signs have no other case. -/
theorem folded_eq_iff {sign : Char} (hsign : isSign sign = true) (c : Char) :
    folded c = sign ↔ c = sign := by
  rw [isSign, Bool.and_eq_true, Bool.not_eq_true'] at hsign
  obtain ⟨hlow, hletter⟩ := hsign
  have hhigh : 0x80 ≤ c.toNat → c ≠ sign := by
    rintro hc rfl
    exact absurd (of_decide_eq_true hlow) (Nat.not_lt.mpr hc)
  have hother : ∀ letter, Ascii.isLetter letter = true → letter ≠ sign := by
    rintro letter hc rfl
    rw [hc] at hletter
    cases hletter
  rw [folded]
  split
  · exact iff_of_false (hother 's' (by decide)) (hhigh (by omega))
  · split
    · exact iff_of_false (hother 'k' (by decide)) (hhigh (by omega))
    · by_cases hcapital : 'A' ≤ c ∧ c ≤ 'Z'
      · have hletters := Ascii.forall_capital (P := fun c =>
          Ascii.isLetter c = true ∧ Ascii.isLetter (Ascii.lowerChar c) = true) (by decide) hcapital
        exact iff_of_false (hother _ hletters.2) (hother c hletters.1)
      · rw [Ascii.lowerChar, if_neg hcapital]

theorem accepts_others {signs : List Char} (hsigns : signs.all isSign = true) (c : Char) :
    (others signs).accepts c = !signs.contains c := by
  rw [CharSet.accepts, others, Bool.bne_true]
  refine congrArg Bool.not ?_
  rw [Bool.eq_iff_iff, List.any_map, List.any_eq_true, List.contains_iff_mem]
  constructor
  · rintro ⟨sign, hmem, hrange⟩
    have hrange : (decide (sign ≤ folded c) && decide (folded c ≤ sign)) = true := hrange
    rw [Bool.and_eq_true, decide_eq_true_eq, decide_eq_true_eq] at hrange
    have hfolded : folded c = sign := Char.le_antisymm hrange.2 hrange.1
    rwa [(folded_eq_iff (List.all_eq_true.mp hsigns sign hmem) c).mp hfolded]
  · intro hmem
    have hfolded := (folded_eq_iff (List.all_eq_true.mp hsigns c hmem) c).mpr rfl
    exact ⟨c, hmem, by simp [hfolded]⟩

theorem accepts_accountSet (c : Char) : accountSet.accepts c = isAccountChar c := by
  have hset : accountSet.accepts c = ((decide ('a' ≤ folded c) && decide (folded c ≤ 'z'))
      || ((decide ('0' ≤ folded c) && decide (folded c ≤ '9'))
      || (decide ('-' ≤ folded c) && decide (folded c ≤ '-')))) := by
    rw [CharSet.accepts, accountSet, Bool.bne_false]
    simp only [List.any_cons, List.any_nil, Bool.or_false]
  by_cases hcapital : 'A' ≤ c ∧ c ≤ 'Z'
  · exact Ascii.forall_capital (P := fun c => accountSet.accepts c = isAccountChar c) (by decide)
      hcapital
  · have hlower : Ascii.lowerChar c = c := if_neg hcapital
    rw [hset, isAccountChar, hlower, folded, hlower]
    by_cases hs : c.toNat = 0x17f
    · simp [hs]
    · by_cases hk : c.toNat = 0x212a
      · simp [hk]
      · have hhyphen : (decide ('-' ≤ c) && decide (c ≤ '-')) = (c == '-') := by
          rw [Bool.eq_iff_iff, Bool.and_eq_true, decide_eq_true_eq, decide_eq_true_eq, beq_iff_eq]
          exact ⟨fun h => Char.le_antisymm h.2 h.1, fun h => by simp [h]⟩
        rw [if_neg hs, if_neg hk, hhyphen]
        simp [Ascii.isDigit, beq_false_of_ne hs, beq_false_of_ne hk, Bool.or_assoc]

/-- Fixed text does not match a character that none of its letters matches. -/
theorem Matches.notMem {fixed text : List Char} (h : Matches fixed text) {c : Char}
    (hc : fixed.all (fun f => !matchesLetter f c) = true) : c ∉ text := by
  induction h with
  | nil => exact List.not_mem_nil
  | cons hmatch _ ih =>
    rw [List.all_cons, Bool.and_eq_true, Bool.not_eq_true'] at hc
    rw [List.mem_cons, not_or]
    refine ⟨?_, ih hc.2⟩
    rintro rfl
    rw [hmatch] at hc
    cases hc.1

theorem matches_slash_iff {text : List Char} : Matches ['/'] text ↔ text = ['/'] := by
  constructor
  · intro h
    cases h with
    | cons hmatch hrest =>
      cases hrest
      rw [(folded_eq_iff (by decide) _).mp ((Pattern.matchesLetter_iff (by decide) _).mp hmatch)]
  · rintro rfl
    exact .cons (by decide) .nil

/-! ## Parts -/

variable {α : Type} {reading : Reading} {k after : Reading → Option α}

/-- What is captured is what stands in front of the rest. -/
theorem keep_append (name : String) (captured captured' : List (String × List Char))
    (front rest : List Char) :
    Reading.keep name ⟨captured, front ++ rest⟩ ⟨captured', rest⟩
      = ⟨(name, front) :: captured', rest⟩ := by
  rw [Reading.keep, List.length_append, Nat.add_sub_cancel, List.take_left]

/-- An optional fixed part is dropped, if what follows cannot begin like it. -/
theorem reads_maybe_text {fixed : String} (hfixed : fixed.toList.all isLow = true)
    (hk : ∀ rest, dropFixed? fixed.toList reading.rest = some rest → k reading = none) :
    (maybe (text fixed)).reads k reading
      = k ⟨reading.captured, dropOptional fixed.toList reading.rest⟩ := by
  rw [Pattern.reads_maybe, Pattern.reads_text hfixed, dropOptional]
  cases hdrop : dropFixed? fixed.toList reading.rest with
  | none => rfl
  | some rest => rw [hk rest hdrop, Option.or_none, Option.bind_some, Option.getD_some]

/-- An optional scheme is dropped, if what follows cannot begin like it. -/
theorem reads_webScheme
    (hk : ∀ rest, dropFixed? "http".toList reading.rest = some rest → k reading = none) :
    (maybe (text "http" ++ maybe (text "s") ++ text "://")).reads k reading
      = k ⟨reading.captured, dropWebScheme reading.rest⟩ := by
  rw [Pattern.reads_maybe, Pattern.reads_seq, Pattern.reads_seq, Pattern.reads_text (by decide),
    dropWebScheme]
  cases hhttp : dropFixed? "http".toList reading.rest with
  | none => rfl
  | some rest =>
    dsimp only [Option.bind_some]
    rw [hk rest hhttp, Option.or_none, reads_maybe_text (by decide),
      Pattern.reads_text (by decide)]
    · have hs : "s".toList = ['s'] := rfl
      rw [hs]
      cases dropFixed? "://".toList (dropOptional ['s'] rest) with
      | none => exact (hk rest hhttp).symm
      | some behind => rfl
    · -- what begins with a letter does not begin with a colon
      intro behind hletter
      rw [Pattern.reads_text (by decide)]
      have hcolon : dropFixed? "://".toList rest = none :=
        dropFixed?_eq_none hletter (by decide) (by decide) (by decide)
      rw [hcolon, Option.bind_none]

/-- A part goes on until the first slash. -/
theorem reads_part {name : String}
    (hk : ∀ reading, k reading
      = (dropFixed? ['/'] reading.rest).bind fun rest => after ⟨reading.captured, rest⟩) :
    (partPattern name).reads k reading
      = (part? reading.rest).bind fun (part, rest) =>
        after ⟨(name, part) :: reading.captured, rest⟩ := by
  obtain ⟨captured, rest⟩ := reading
  have haccepts : (others ['/']).accepts = (· != '/') := by
    funext c
    rw [accepts_others (by decide), Bool.eq_iff_iff]
    simp
  have hstop : ∀ c rest', (others ['/']).accepts c = true →
      k (Reading.keep name ⟨captured, rest⟩ ⟨captured, c :: rest'⟩) = none := by
    intro c rest' hc
    rw [haccepts, bne_iff_ne] at hc
    rw [hk, Reading.keep, dropFixed?, if_neg, Option.bind_none]
    rw [Pattern.matchesLetter_iff (by decide), folded_eq_iff (by decide)]
    exact hc
  rw [partPattern, Pattern.reads_capture, Pattern.reads_greedy hstop, haccepts, part?]
  cases hspan : rest.span (· != '/') with
  | mk front tail =>
    obtain ⟨rfl, -⟩ := span_eq hspan
    cases front with
    | nil => rfl
    | cons c front =>
      dsimp only
      rw [keep_append, hk]
      cases tail with
      | nil => rfl
      | cons slash tail =>
        have hslash : slash = '/' := by
          have hfirst := List.head?_dropWhile_not (· != '/') (c :: front ++ slash :: tail)
          rw [List.span_eq_takeWhile_dropWhile, Prod.mk.injEq] at hspan
          rw [hspan.2] at hfirst
          simpa using hfirst
        rw [hslash]
        rfl

/-- An account between fixed parts goes on until the second one. -/
theorem reads_account {first last : String} (hfirst : first.toList.all isLow = true)
    (hlast : last.toList.all isLow = true)
    (hother : ∀ c rest, isAccountChar c = true → dropFixed? last.toList (c :: rest) = none) :
    (text first ++ row accountSet false ++ text last).reads k reading
      = (behindAccount? first.toList last.toList reading.rest).bind fun rest =>
        k ⟨reading.captured, rest⟩ := by
  obtain ⟨captured, rest⟩ := reading
  have haccepts : accountSet.accepts = isAccountChar := funext accepts_accountSet
  rw [Pattern.reads_seq, Pattern.reads_seq, Pattern.reads_text hfirst, behindAccount?]
  cases dropFixed? first.toList rest with
  | none => rfl
  | some rest =>
    dsimp only [Option.bind_some]
    rw [Pattern.reads_greedy, haccepts, account?]
    · cases rest.span isAccountChar with
      | mk front tail =>
        cases front with
        | nil => rfl
        | cons c front => exact Pattern.reads_text hlast
    · intro c rest hc
      rw [haccepts] at hc
      rw [Pattern.reads_text hlast, hother c rest hc, Option.bind_none]

/-! ## Names -/

/-- What may stand at the end of an address, behind which nothing is read. -/
def Ends (k : Reading → Option Reading) (IsEnding : List Char → Prop) : Prop :=
  ∀ reading found, k reading = some found
    ↔ found = ⟨reading.captured, []⟩ ∧ IsEnding reading.rest

theorem ends_finish : Ends (finish.reads some) (· = []) := by
  intro reading found
  rw [Pattern.reads_finish]
  obtain ⟨captured, rest⟩ := reading
  constructor
  · intro h
    split at h
    · rename_i hrest
      obtain rfl : rest = [] := hrest
      exact ⟨(Option.some.inj h).symm, rfl⟩
    · cases h
  · rintro ⟨rfl, hrest⟩
    obtain rfl : rest = [] := hrest
    exact if_pos rfl

/-- One more optional part in front of an ending. -/
theorem Ends.maybe {k : Reading → Option Reading} {IsEnding : List Char → Prop}
    (h : Ends k IsEnding) {fixed : String} (hfixed : fixed.toList.all isLow = true) :
    Ends ((maybe (text fixed)).reads k) fun rest =>
      ∃ front behind, rest = front ++ behind ∧ (front = [] ∨ Matches fixed.toList front)
        ∧ IsEnding behind := by
  intro reading found
  have hpart : ∀ found, (text fixed).reads k reading = some found ↔
      found = ⟨reading.captured, []⟩ ∧ ∃ front behind, reading.rest = front ++ behind
        ∧ Matches fixed.toList front ∧ IsEnding behind := by
    intro found
    rw [Pattern.reads_text hfixed, Option.bind_eq_some_iff]
    constructor
    · rintro ⟨behind, hdrop, hfound⟩
      obtain ⟨front, hfront, hrest⟩ := dropFixed?_eq_some_iff.mp hdrop
      obtain ⟨hfound, hbehind⟩ := (h _ found).mp hfound
      exact ⟨hfound, front, behind, hrest, hfront, hbehind⟩
    · rintro ⟨rfl, front, behind, hrest, hfront, hbehind⟩
      exact ⟨behind, dropFixed?_eq_some_iff.mpr ⟨front, hfront, hrest⟩, (h _ _).mpr ⟨rfl, hbehind⟩⟩
  rw [Pattern.reads_maybe, Option.or_eq_some_iff]
  constructor
  · rintro (hfound | ⟨-, hfound⟩)
    · obtain ⟨hfound, front, behind, hrest, hfront, hbehind⟩ := (hpart found).mp hfound
      exact ⟨hfound, front, behind, hrest, .inr hfront, hbehind⟩
    · obtain ⟨hfound, hrest⟩ := (h reading found).mp hfound
      exact ⟨hfound, [], reading.rest, rfl, .inl rfl, hrest⟩
  · rintro ⟨hfound, front, behind, hrest, hfront, hbehind⟩
    rcases hfront with rfl | hfront
    · -- the part may be there as well, with nothing else found
      cases hother : (text fixed).reads k reading with
      | none => exact .inr ⟨rfl, (h reading found).mpr ⟨hfound, hrest ▸ hbehind⟩⟩
      | some other => exact .inl (by rw [hfound, ((hpart other).mp hother).1])
    · exact .inl ((hpart found).mpr ⟨hfound, front, behind, hrest, hfront, hbehind⟩)

/-- A row of the characters of names is a name. -/
theorem isName_iff {name : List Char} :
    IsName name ↔ name ≠ [] ∧ name.all (others ['/', '?', '#']).accepts = true := by
  rw [IsName, List.all_eq_true]
  refine and_congr_right fun _ => forall₂_congr fun c _ => ?_
  rw [accepts_others (by decide)]
  simp

/-- A name is as short as the ending of the address allows. -/
theorem reads_name {k : Reading → Option Reading} {IsEnding : List Char → Prop}
    (hends : Ends k IsEnding) {Names : List Char → List Char → Prop}
    {cut : List Char → List Char}
    (hending : ∀ front rest, IsName front →
      (IsEnding rest ↔ ∃ name, finalName? (front ++ rest) = some name ∧ Names name front))
    (hcut : ∀ name, IsName name → IsName (cut name) ∧ cut name <+: name ∧ Names name (cut name)
      ∧ ∀ front, Names name front → (cut name).length ≤ front.length) (reading : Reading) :
    namePattern.reads k reading
      = (finalName? reading.rest).map fun name => ⟨("repo", cut name) :: reading.captured, []⟩ := by
  obtain ⟨captured, text⟩ := reading
  rw [namePattern, Pattern.reads_capture]
  cases hname : finalName? text with
  | none =>
    refine Pattern.reads_lazy_eq_none fun front rest hne hfront htext => ?_
    obtain rfl : text = front ++ rest := htext
    rw [keep_append, Option.eq_none_iff_forall_ne_some]
    intro found hfound
    obtain ⟨name, hfinal, -⟩ :=
      (hending front rest (isName_iff.mpr ⟨hne, hfront⟩)).mp ((hends _ found).mp hfound).2
    rw [hname] at hfinal
    cases hfinal
  | some name =>
    obtain ⟨⟨slash, htext, -⟩, hisName⟩ := finalName?_eq_some_iff.mp hname
    obtain ⟨hisCut, ⟨ending, hsplit⟩, hnames, hshortest⟩ := hcut name hisName
    rw [← hsplit, List.append_assoc] at htext
    subst htext
    refine Pattern.reads_lazy_eq_some hisCut.1 (isName_iff.mp hisCut).2 rfl ?_ ?_
    · rw [keep_append]
      exact (hends _ _).mpr ⟨rfl, (hending _ _ hisCut).mpr ⟨name, hname, hnames⟩⟩
    · intro shorter longer hne hlonger hsplit
      have hchars := (isName_iff.mp hisCut).2
      rw [hsplit, List.all_append, Bool.and_eq_true] at hchars
      have hshorter : IsName shorter := isName_iff.mpr ⟨hne, hchars.1⟩
      rw [hsplit, List.append_assoc, keep_append, Option.eq_none_iff_forall_ne_some]
      intro found hfound
      obtain ⟨name', hfinal, hshort⟩ :=
        (hending shorter _ hshorter).mp ((hends _ found).mp hfound).2
      rw [hsplit, List.append_assoc, hfinal, Option.some.injEq] at hname
      subst hname
      have hlength := hshortest shorter hshort
      rw [hsplit, List.length_append] at hlength
      exact hlonger (List.length_eq_zero_iff.mp (by omega))

theorem IsName.of_append {front rest : List Char} (hname : IsName (front ++ rest))
    (hne : front ≠ []) : IsName front :=
  ⟨hne, fun c hc => hname.2 c (List.mem_append_left rest hc)⟩

/-- Before a slash at the end, the name is the row itself. -/
theorem slashEnding_iff {front rest : List Char} (hfront : IsName front) :
    (rest = [] ∨ rest = ['/']) ↔ ∃ name, finalName? (front ++ rest) = some name ∧ name = front := by
  constructor
  · intro hrest
    exact ⟨front, finalName?_eq_some_iff.mpr ⟨⟨rest, rfl, hrest⟩, hfront⟩, rfl⟩
  · rintro ⟨name, hname, rfl⟩
    obtain ⟨⟨slash, hsplit, hslash⟩, -⟩ := finalName?_eq_some_iff.mp hname
    rwa [List.append_cancel_left hsplit]

/-- Before `.git` and a slash at the end, either of which may be missing, the row is the name or what
is in front of this `.git`. -/
theorem gitEnding_iff {front rest : List Char} (hfront : IsName front) :
    (∃ git behind, rest = git ++ behind ∧ (git = [] ∨ Matches gitEnding git)
        ∧ (behind = [] ∨ behind = ['/']))
      ↔ ∃ name, finalName? (front ++ rest) = some name ∧ (name = front ∨ EndsInGit name front) := by
  constructor
  · rintro ⟨git, behind, rfl, hgit, hbehind⟩
    have hisName : IsName (front ++ git) := by
      rcases hgit with rfl | hgit
      · rwa [List.append_nil]
      · have hslash : '/' ∉ git := hgit.notMem (by decide)
        have hquery : '?' ∉ git := hgit.notMem (by decide)
        have hnumber : '#' ∉ git := hgit.notMem (by decide)
        refine ⟨List.append_ne_nil_of_left_ne_nil hfront.1 git, fun c hc => ?_⟩
        rcases List.mem_append.mp hc with hc | hc
        · exact hfront.2 c hc
        · exact ⟨ne_of_mem_of_not_mem hc hslash, ne_of_mem_of_not_mem hc hquery,
            ne_of_mem_of_not_mem hc hnumber⟩
    refine ⟨front ++ git, ?_, ?_⟩
    · rw [← List.append_assoc]
      exact finalName?_eq_some_iff.mpr ⟨⟨behind, rfl, hbehind⟩, hisName⟩
    · rcases hgit with rfl | hgit
      · exact .inl (List.append_nil front)
      · exact .inr ⟨hfront.1, git, rfl, hgit⟩
  · rintro ⟨name, hname, hends⟩
    obtain ⟨⟨slash, hsplit, hslash⟩, -⟩ := finalName?_eq_some_iff.mp hname
    rcases hends with rfl | ⟨-, git, rfl, hgit⟩
    · exact ⟨[], slash, List.append_cancel_left hsplit, .inl rfl, hslash⟩
    · rw [List.append_assoc] at hsplit
      exact ⟨git, slash, List.append_cancel_left hsplit, .inr hgit, hslash⟩

/-- A name without its `.git` is the shortest row that the name can be. -/
theorem dropGitEnding_spec {name : List Char} (hname : IsName name) :
    IsName (dropGitEnding name) ∧ dropGitEnding name <+: name
      ∧ (name = dropGitEnding name ∨ EndsInGit name (dropGitEnding name))
      ∧ ∀ front, name = front ∨ EndsInGit name front →
        (dropGitEnding name).length ≤ front.length := by
  have hfront : dropGitEnding name <+: name := by
    rcases dropGitEnding_cases name with h | ⟨-, ending, h, -⟩
    · exact ⟨[], by rw [List.append_nil, h]⟩
    · exact ⟨ending, h.symm⟩
  have hne : dropGitEnding name ≠ [] := by
    rcases dropGitEnding_cases name with h | h
    · rw [h]
      exact hname.1
    · exact h.1
  refine ⟨?_, hfront, (dropGitEnding_cases name).imp_left Eq.symm, ?_⟩
  · obtain ⟨rest, hsplit⟩ := hfront
    rw [← hsplit] at hname
    exact hname.of_append hne
  · rintro front (rfl | hends)
    · exact hfront.length_le
    · exact Nat.le_of_eq (congrArg List.length (dropGitEnding_of_endsInGit hends))

/-! ## The readers -/

theorem slashOrNothing_iff {rest : List Char} :
    (∃ front behind, rest = front ++ behind ∧ (front = [] ∨ Matches "/".toList front)
      ∧ behind = []) ↔ rest = [] ∨ rest = ['/'] := by
  constructor
  · rintro ⟨front, behind, rfl, hfront, rfl⟩
    rw [List.append_nil]
    exact hfront.imp_right matches_slash_iff.mp
  · intro hrest
    exact ⟨rest, [], (List.append_nil rest).symm, hrest.imp_right matches_slash_iff.mpr, rfl⟩

/-- At the end of every address of a hosting service a slash may stand. -/
theorem ends_slash :
    Ends ((maybe (text "/")).reads (finish.reads some)) fun rest => rest = [] ∨ rest = ['/'] := by
  intro reading found
  rw [ends_finish.maybe (by decide) reading found]
  dsimp only
  rw [slashOrNothing_iff]

/-- **The reader of plain Git servers follows its pattern.** -/
theorem isGitDaemon_eq (url : String) : isGitDaemon url = (gitDaemonPattern.match? url).isSome := by
  rw [Pattern.match?_eq_reads, gitDaemonPattern, Pattern.reads_seq, Pattern.reads_text (by decide),
    isGitDaemon]
  cases dropFixed? "git://".toList url.toList with
  | none => rfl
  | some rest =>
    rw [Option.bind_some, Pattern.isSome_reads_row]
    cases rest with
    | nil => rfl
    | cons c rest =>
      dsimp only [List.head?_cons, Option.any_some]
      rw [accepts_others (by decide), Bool.eq_iff_iff]
      simp

/-- The host of a GitHub address, with the optional parts in front of it. -/
theorem reads_gitHubHost :
    (maybe (text "http" ++ maybe (text "s") ++ text "://") ++ maybe (text "www.")
      ++ text "github.com/").reads k reading
      = (dropFixed? "github.com/".toList
        (dropOptional "www.".toList (dropWebScheme reading.rest))).bind fun rest =>
          k ⟨reading.captured, rest⟩ := by
  -- the host begins neither like the part before it nor like a scheme
  have hhost : ∀ reading {f : Char} {fixed rest : List Char}, isLow f = true → f ≠ 'g' →
      dropFixed? (f :: fixed) reading.rest = some rest →
        (text "github.com/").reads k reading = none := by
    intro reading f fixed rest hf hne hother
    have hnone : dropFixed? "github.com/".toList reading.rest = none :=
      dropFixed?_eq_none hother (by decide) hf hne.symm
    rw [Pattern.reads_text (by decide), hnone, Option.bind_none]
  have hwww : ∀ reading, (maybe (text "www.")).reads ((text "github.com/").reads k) reading
      = (text "github.com/").reads k ⟨reading.captured, dropOptional "www.".toList reading.rest⟩ :=
    fun reading => reads_maybe_text (by decide) fun rest => hhost reading (by decide) (by decide)
  rw [Pattern.reads_seq, Pattern.reads_seq, reads_webScheme, hwww, Pattern.reads_text (by decide)]
  intro rest hhttp
  have hnone : dropFixed? "www.".toList reading.rest = none :=
    dropFixed?_eq_none hhttp (by decide) (by decide) (by decide)
  rw [hwww, dropOptional, hnone, Option.getD_none]
  exact hhost reading (by decide) (by decide) hhttp

/-- **The reader of GitHub addresses follows its pattern**: it finds the owner and the repository
that the pattern captures. -/
theorem gitHubParts?_eq (url : String) :
    gitHubParts? url
      = (gitHubPattern.match? url).map fun found => (found.group "owner", found.group "repo") := by
  have hgit : Ends ((maybe (text ".git")).reads ((maybe (text "/")).reads (finish.reads some)))
      fun rest => ∃ front behind, rest = front ++ behind ∧ (front = [] ∨ Matches gitEnding front)
        ∧ (behind = [] ∨ behind = ['/']) := ends_slash.maybe (by decide)
  have hname := reads_name hgit (fun _ _ => gitEnding_iff) (fun _ => dropGitEnding_spec)
  have hslash : ∀ (after : Reading → Option Reading) (reading : Reading),
      (text "/").reads after reading = (dropFixed? ['/'] reading.rest).bind fun rest =>
        after ⟨reading.captured, rest⟩ := fun _ _ => Pattern.reads_text (by decide)
  rw [Pattern.match?_eq_reads, gitHubPattern, Pattern.reads_seq, Pattern.reads_seq,
    Pattern.reads_seq, Pattern.reads_seq, Pattern.reads_seq, Pattern.reads_seq, reads_gitHubHost,
    gitHubParts?]
  cases dropFixed? "github.com/".toList (dropOptional "www.".toList (dropWebScheme url.toList)) with
  | none => rfl
  | some rest =>
    dsimp only [Option.bind_some]
    rw [reads_part (hslash _)]
    cases part? rest with
    | none => rfl
    | some parts =>
      obtain ⟨owner, rest⟩ := parts
      dsimp only [Option.bind_some]
      rw [hname]
      cases finalName? rest with
      | none => rfl
      | some name => rfl

/-- Behind a collection stand a project and a repository. -/
theorem reads_project :
    projectPattern.reads some reading = (projectParts? reading.rest).map fun (project, repository) =>
      ⟨("repo", repository) :: ("project", project) :: reading.captured, []⟩ := by
  have hname := reads_name ends_slash (fun _ _ => slashEnding_iff)
    (fun name hname => ⟨hname, List.prefix_rfl, rfl, fun _ h => Nat.le_of_eq (congrArg List.length h)⟩)
  have hgit : ∀ (after : Reading → Option Reading) (reading : Reading),
      (text "/_git/").reads after reading = (dropFixed? ['/'] reading.rest).bind fun rest =>
        (text "_git/").reads after ⟨reading.captured, rest⟩ := by
    intro after reading
    have hsplit : "/_git/".toList = ['/'] ++ "_git/".toList := rfl
    have hlow : "_git/".toList.all isLow = true := by decide
    rw [Pattern.reads_text (by decide), hsplit, dropFixed?_append, Option.bind_assoc]
    simp only [Pattern.reads_text hlow]
  rw [projectPattern, Pattern.reads_seq, Pattern.reads_seq, Pattern.reads_seq, Pattern.reads_seq,
    reads_part (hgit _), projectParts?]
  cases part? reading.rest with
  | none => rfl
  | some parts =>
    obtain ⟨project, rest⟩ := parts
    dsimp only [Option.bind_some]
    rw [Pattern.reads_text (by decide)]
    cases dropFixed? "_git/".toList rest with
    | none => rfl
    | some rest =>
      dsimp only [Option.bind_some]
      rw [hname]
      cases finalName? rest with
      | none => rfl
      | some name => rfl

/-- An account between fixed parts is a collection, and the project and the repository follow. -/
theorem match?_collection (first last : String) (hfirst : first.toList.all isLow = true)
    (hlast : last.toList.all isLow = true)
    (hother : ∀ c rest, isAccountChar c = true → dropFixed? last.toList (c :: rest) = none)
    (url : String) :
    partsBehind? url.toList (behindAccount? first.toList last.toList url.toList)
      = ((capture "collection" (text first ++ row accountSet false ++ text last)
        ++ projectPattern).match? url).map fun found =>
          (found.group "collection", found.group "project", found.group "repo") := by
  rw [Pattern.match?_eq_reads, Pattern.reads_seq, Pattern.reads_capture,
    reads_account hfirst hlast hother]
  cases behindAccount? first.toList last.toList url.toList with
  | none => rfl
  | some rest =>
    dsimp only [Option.bind_some]
    rw [reads_project, partsBehind?, Reading.keep]
    cases projectParts? rest with
    | none => rfl
    | some parts => rfl

/-- **The reader of Team Services addresses follows its two patterns**, the first of which that
matches decides. -/
theorem teamServicesParts?_eq (url : String) :
    teamServicesParts? url
      = ([accountHostPattern, sharedHostPattern].findSome? (Pattern.match? · url)).map fun found =>
        (found.group "collection", found.group "project", found.group "repo") := by
  have hother : ∀ {sign : Char} {fixed : List Char}, isSign sign = true →
      isAccountChar sign = false → ∀ c rest, isAccountChar c = true →
        dropFixed? (sign :: fixed) (c :: rest) = none := by
    intro sign fixed hsign hnone c rest hc
    rw [dropFixed?, if_neg]
    intro hmatch
    have hlow : isLow sign = true := ((Bool.and_eq_true _ _).mp hsign).1
    rw [Pattern.matchesLetter_iff hlow, folded_eq_iff hsign] at hmatch
    rw [hmatch, hnone] at hc
    cases hc
  have haccount : partsBehind? url.toList (afterAccountHost? url.toList)
      = (accountHostPattern.match? url).map _ :=
    match?_collection "https://" ".visualstudio.com/" (by decide) (by decide)
      (hother (by decide) (by decide)) url
  have hshared : partsBehind? url.toList (afterSharedHost? url.toList)
      = (sharedHostPattern.match? url).map _ :=
    match?_collection "https://dev.azure.com/" "/" (by decide) (by decide)
      (hother (by decide) (by decide)) url
  rw [teamServicesParts?, haccount, hshared, List.findSome?_cons, List.findSome?_singleton]
  cases accountHostPattern.match? url with
  | none => rfl
  | some found => rfl

end Shape

end Remote

end SourceServer
