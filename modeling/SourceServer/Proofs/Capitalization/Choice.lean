import Mathlib.Data.List.Nodup
import SourceServer.Capitalization
import SourceServer.Proofs.Unicode.Utf8

/-!
# The choice in one directory

The entry that a name stands for is one of the candidates: its path is seen to be of the wanted kind
and it agrees with the name up to case. Going through the entries keeps the best candidate so far,
which is the smallest of those that were passed, and the name itself ends the search. So the name is
chosen if it is a candidate, otherwise the smallest candidate, and the order of the entries has no
influence. Names are compared by their bytes, which need not be a text.

- `Capitalization.candidates`, `Capitalization.IsChosen`: the candidates and what `find_child`
  promises to choose among them.
- `Capitalization.IsBest`: what is known of the best one so far.
- `Capitalization.search_of_mem`, `Capitalization.isBest_search`: a search to its end.
- `Capitalization.choose_eq_iff`: what is chosen.
- `Capitalization.choose_congr`, `Capitalization.choose_eq_choose_iff`: what the choice depends on.
- `Capitalization.IsCandidate`, `Capitalization.findChild_self`, `Capitalization.findChild_alone`:
  the choice in a directory of a file system.
-/

namespace SourceServer

namespace Capitalization

variable {isDirectory seen : RawText → Bool} {names listing others : List RawText}
  {name child : RawText} {directories : Bool} {best : Option RawText}

/-! ## Candidates -/

/-- The names of one kind that agree with `name` up to case. -/
def candidates (isDirectory : RawText → Bool) (names : List RawText) (name : RawText)
    (directories : Bool) : List RawText :=
  names.filter fun entry =>
    isDirectory entry == directories && Unicode.lower entry.lossy == Unicode.lower name.lossy

theorem mem_candidates_iff :
    child ∈ candidates isDirectory names name directories
      ↔ child ∈ names ∧ isDirectory child = directories
        ∧ Unicode.lower child.lossy = Unicode.lower name.lossy := by
  simp only [candidates, List.mem_filter, Bool.and_eq_true, beq_iff_eq]

/-- Only the entry with exactly the name makes the name a candidate. -/
theorem self_mem_candidates_iff :
    name ∈ candidates isDirectory names name directories
      ↔ name ∈ names ∧ isDirectory name = directories := by
  simp only [mem_candidates_iff, and_true]

theorem candidates_cons (entry : RawText) (rest : List RawText) :
    candidates isDirectory (entry :: rest) name directories
      = if isDirectory entry = directories
            ∧ Unicode.lower entry.lossy = Unicode.lower name.lossy then
          entry :: candidates isDirectory rest name directories
        else candidates isDirectory rest name directories := by
  rw [candidates, List.filter_cons]
  simp only [Bool.and_eq_true, beq_iff_eq]
  rfl

/-- What a name is to stand for: itself, if an entry of the wanted kind is called exactly so;
otherwise the smallest name, by bytes, of the entries of that kind that agree with it up to case; and
nothing, if there is no such entry. -/
def IsChosen (isDirectory : RawText → Bool) (names : List RawText) (name : RawText)
    (directories : Bool) : Option RawText → Prop
  | none => ∀ child ∈ names, isDirectory child = directories →
      Unicode.lower child.lossy ≠ Unicode.lower name.lossy
  | some child => child ∈ candidates isDirectory names name directories
      ∧ (child = name ∨ ¬ (name ∈ names ∧ isDirectory name = directories)
        ∧ ∀ other ∈ candidates isDirectory names name directories, child.bytes ≤ other.bytes)

/-! ## The best one so far -/

/-- What is known of the best one of some names: it is the smallest of them by its bytes, and there
is none if there are no names. -/
def IsBest (names : List RawText) : Option RawText → Prop
  | none => names = []
  | some best => best ∈ names ∧ ∀ other ∈ names, best.bytes ≤ other.bytes

/-- One more name is taken into account. -/
theorem IsBest.better (h : IsBest names best) (entry : RawText) :
    IsBest (entry :: names) (some (better best entry)) := by
  cases best with
  | none =>
    obtain rfl : names = [] := h
    refine ⟨List.mem_cons_self, fun other hother => ?_⟩
    rw [List.mem_singleton.mp hother]
    exact List.le_refl _
  | some current =>
    obtain ⟨hcurrent, hleast⟩ := h
    rw [Capitalization.better]
    by_cases hle : current.bytes ≤ entry.bytes
    · rw [if_pos hle]
      refine ⟨List.mem_cons_of_mem entry hcurrent, fun other hother => ?_⟩
      rcases List.mem_cons.mp hother with rfl | hother
      · exact hle
      · exact hleast other hother
    · rw [if_neg hle]
      have hless := (List.le_total current.bytes entry.bytes).resolve_left hle
      refine ⟨List.mem_cons_self, fun other hother => ?_⟩
      rcases List.mem_cons.mp hother with rfl | hother
      · exact List.le_refl _
      · exact List.le_trans hless (hleast other hother)

/-- The best one does not depend on the order of the names. -/
theorem IsBest.congr (h : IsBest names best) (hsame : ∀ name, name ∈ others ↔ name ∈ names) :
    IsBest others best := by
  cases best with
  | none =>
    obtain rfl : names = [] := h
    exact List.eq_nil_iff_forall_not_mem.mpr fun name hname => nomatch (hsame name).mp hname
  | some best => exact ⟨(hsame best).mpr h.1, fun name hname => h.2 name ((hsame name).mp hname)⟩

/-- There is one best one. -/
theorem IsBest.unique {best' : Option RawText} (h : IsBest names best) (h' : IsBest names best') :
    best = best' := by
  cases best with
  | none =>
    obtain rfl : names = [] := h
    cases best' with
    | none => rfl
    | some other => cases h'.1
  | some least =>
    cases best' with
    | none =>
      obtain rfl : names = [] := h'
      cases h.1
    | some other =>
      have hsame := List.le_antisymm (h.2 other h'.1) (h'.2 least h.1)
      rw [RawText.ext hsame]

/-! ## A search to its end -/

/-- What an entry does to a search. -/
theorem search_cons (entry : RawText) (rest : List RawText) :
    search isDirectory name (Unicode.lower name.lossy) directories best (entry :: rest)
      = if isDirectory entry = directories
            ∧ Unicode.lower entry.lossy = Unicode.lower name.lossy then
          if entry = name then some entry
          else search isDirectory name (Unicode.lower name.lossy) directories
            (some (better best entry)) rest
        else search isDirectory name (Unicode.lower name.lossy) directories best rest := by
  rw [search]
  by_cases hlower : Unicode.lower entry.lossy = Unicode.lower name.lossy
  · by_cases hkind : isDirectory entry = directories
    · have hcandidate : isDirectory entry = directories
          ∧ Unicode.lower entry.lossy = Unicode.lower name.lossy := ⟨hkind, hlower⟩
      rw [if_neg (not_not.mpr hlower), if_neg (not_not.mpr hkind), if_pos hcandidate]
    · rw [if_neg (not_not.mpr hlower), if_pos hkind, if_neg (mt And.left hkind)]
  · rw [if_pos hlower, if_neg (mt And.right hlower)]

/-- The name ends the search wherever it is met. -/
theorem search_of_mem (h : name ∈ candidates isDirectory names name directories) :
    search isDirectory name (Unicode.lower name.lossy) directories best names = some name := by
  induction names generalizing best with
  | nil => cases h
  | cons entry rest ih =>
    rw [candidates_cons] at h
    rw [search_cons]
    by_cases hcandidate : isDirectory entry = directories
        ∧ Unicode.lower entry.lossy = Unicode.lower name.lossy
    · rw [if_pos hcandidate] at h ⊢
      by_cases hself : entry = name
      · rw [if_pos hself, hself]
      · rw [if_neg hself]
        exact ih ((List.mem_cons.mp h).resolve_left (Ne.symm hself))
    · rw [if_neg hcandidate] at h ⊢
      exact ih h

/-- Without the name itself, a search ends with the best one of the candidates that were passed
before and of those that it passes. -/
theorem isBest_search (h : name ∉ candidates isDirectory names name directories)
    (hbest : IsBest others best) :
    IsBest (others ++ candidates isDirectory names name directories)
      (search isDirectory name (Unicode.lower name.lossy) directories best names) := by
  induction names generalizing best others with
  | nil => exact hbest.congr fun child => by simp [candidates]
  | cons entry rest ih =>
    rw [candidates_cons] at h ⊢
    rw [search_cons]
    by_cases hcandidate : isDirectory entry = directories
        ∧ Unicode.lower entry.lossy = Unicode.lower name.lossy
    · rw [if_pos hcandidate, List.mem_cons, not_or] at h
      rw [if_pos hcandidate, if_pos hcandidate, if_neg (Ne.symm h.1)]
      -- the entry joins the candidates that were passed
      refine (ih h.2 (hbest.better entry)).congr fun child => ?_
      simp only [List.mem_append, List.mem_cons, or_assoc, or_left_comm]
    · rw [if_neg hcandidate] at h
      rw [if_neg hcandidate, if_neg hcandidate]
      exact ih h hbest

/-! ## The choice -/

/-- The exact name wins. -/
theorem choose_self (h : name ∈ candidates isDirectory names name directories) :
    choose isDirectory names name directories = some name :=
  search_of_mem h

/-- Without the exact name the best candidate is chosen. -/
theorem isBest_choose (h : name ∉ candidates isDirectory names name directories) :
    IsBest (candidates isDirectory names name directories)
      (choose isDirectory names name directories) := by
  have hstart : IsBest [] none := rfl
  exact isBest_search h hstart

/-- Only the candidates matter, in whatever order they are listed. -/
theorem choose_congr (h : ∀ child, child ∈ candidates seen listing name directories
      ↔ child ∈ candidates isDirectory names name directories) :
    choose seen listing name directories = choose isDirectory names name directories := by
  by_cases hself : name ∈ candidates isDirectory names name directories
  · rw [choose_self hself, choose_self ((h name).mpr hself)]
  · have hlisting := isBest_choose (mt (h name).mp hself)
    exact hlisting.unique ((isBest_choose hself).congr h)

/-- The choice is the one that was promised, and no other is. -/
theorem choose_eq_iff {chosen : Option RawText} :
    choose isDirectory names name directories = chosen
      ↔ IsChosen isDirectory names name directories chosen := by
  have hnone : IsChosen isDirectory names name directories none
      ↔ candidates isDirectory names name directories = [] := by
    rw [List.eq_nil_iff_forall_not_mem]
    simp only [IsChosen, mem_candidates_iff, not_and, ne_eq]
  by_cases hself : name ∈ candidates isDirectory names name directories
  · have hexact := self_mem_candidates_iff.mp hself
    rw [choose_self hself]
    cases chosen with
    | none => exact iff_of_false nofun fun h => List.ne_nil_of_mem hself (hnone.mp h)
    | some child =>
      rw [Option.some.injEq]
      constructor
      · rintro rfl
        exact ⟨hself, .inl rfl⟩
      · rintro ⟨-, hsame | ⟨hother, -⟩⟩
        · exact hsame.symm
        · exact absurd hexact hother
  · have hbest := isBest_choose hself
    have hother := mt self_mem_candidates_iff.mpr hself
    have hunique : choose isDirectory names name directories = chosen
        ↔ IsBest (candidates isDirectory names name directories) chosen :=
      ⟨fun h => h ▸ hbest, hbest.unique⟩
    rw [hunique]
    cases chosen with
    | none => exact hnone.symm
    | some child =>
      constructor
      · rintro ⟨hmem, hleast⟩
        exact ⟨hmem, .inr ⟨hother, hleast⟩⟩
      · rintro ⟨hmem, rfl | ⟨-, hleast⟩⟩
        · exact absurd hmem hself
        · exact ⟨hmem, hleast⟩

theorem mem_candidates_of_choose (h : choose isDirectory names name directories = some child) :
    child ∈ candidates isDirectory names name directories :=
  (choose_eq_iff.mp h).1

/-- Where names differ by more than case, a candidate has no rival. -/
theorem choose_of_nodup (hnodup : (names.map fun entry => Unicode.lower entry.lossy).Nodup)
    (h : child ∈ candidates isDirectory names name directories) :
    choose isDirectory names name directories = some child := by
  obtain ⟨hmem, -, hlower⟩ := mem_candidates_iff.mp h
  have hsame : ∀ other ∈ candidates isDirectory names name directories, other = child := by
    intro other hother
    obtain ⟨hmem', -, hlower'⟩ := mem_candidates_iff.mp hother
    exact List.inj_on_of_nodup_map hnodup hmem' hmem (hlower'.trans hlower.symm)
  refine choose_eq_iff.mpr ⟨h, ?_⟩
  by_cases hself : name ∈ candidates isDirectory names name directories
  · exact .inl (hsame name hself).symm
  · refine .inr ⟨mt self_mem_candidates_iff.mpr hself, fun other hother => ?_⟩
    rw [hsame other hother]
    exact List.le_refl _

/-- A chosen entry that another test sees as the same kind is a candidate there too. -/
theorem mem_candidates_of_agree (h : choose isDirectory names name directories = some child)
    (hagree : seen child = isDirectory child) :
    child ∈ candidates seen names name directories := by
  obtain ⟨hmem, hkind, hlower⟩ := mem_candidates_iff.mp (mem_candidates_of_choose h)
  exact mem_candidates_iff.mpr ⟨hmem, hagree.trans hkind, hlower⟩

/-- Entries that are chosen by two tests of kinds are the same if each of them is a candidate of the
other test. -/
theorem IsChosen.eq {other : RawText} (h : IsChosen seen names name directories (some child))
    (h' : IsChosen isDirectory names name directories (some other))
    (hmem : child ∈ candidates isDirectory names name directories)
    (hmem' : other ∈ candidates seen names name directories) : child = other := by
  rcases h.2 with hself | ⟨hnot, hleast⟩ <;> rcases h'.2 with hself' | ⟨hnot', hleast'⟩
  · rw [hself, hself']
  · rw [hself] at hmem
    exact absurd (self_mem_candidates_iff.mp hmem) hnot'
  · rw [hself'] at hmem'
    exact absurd (self_mem_candidates_iff.mp hmem') hnot
  · exact RawText.ext (List.le_antisymm (hleast other hmem') (hleast' child hmem))

/-- Two tests of kinds lead to the same choice exactly when they agree on the entries that either of
them leads to; where they differ otherwise does not matter. -/
theorem choose_eq_choose_iff :
    choose seen names name directories = choose isDirectory names name directories
      ↔ ∀ child, choose seen names name directories = some child
          ∨ choose isDirectory names name directories = some child →
        seen child = isDirectory child := by
  constructor
  · intro hsame child hchild
    have hseen : choose seen names name directories = some child :=
      hchild.elim id fun h => hsame.trans h
    obtain ⟨-, hkind, -⟩ := mem_candidates_iff.mp (mem_candidates_of_choose hseen)
    obtain ⟨-, hkind', -⟩ := mem_candidates_iff.mp (mem_candidates_of_choose (hsame ▸ hseen))
    exact hkind.trans hkind'.symm
  · intro hagree
    -- a candidate of one test that is none of the other would be an entry on which they differ
    cases hseen : choose seen names name directories with
    | none =>
      cases hchosen : choose isDirectory names name directories with
      | none => rfl
      | some child =>
        have hmem := mem_candidates_of_agree hchosen (hagree child (.inr hchosen))
        obtain ⟨hlisted, hkind, hlower⟩ := mem_candidates_iff.mp hmem
        exact absurd hlower (choose_eq_iff.mp hseen child hlisted hkind)
    | some child =>
      have hmem := mem_candidates_of_agree hseen (hagree child (.inl hseen)).symm
      cases hchosen : choose isDirectory names name directories with
      | none =>
        obtain ⟨hlisted, hkind, hlower⟩ := mem_candidates_iff.mp hmem
        exact absurd hlower (choose_eq_iff.mp hchosen child hlisted hkind)
      | some other =>
        have hmem' := mem_candidates_of_agree hchosen (hagree other (.inr hchosen))
        rw [(choose_eq_iff.mp hseen).eq (choose_eq_iff.mp hchosen) hmem hmem']

/-! ## In a directory of a file system -/

variable {fs : FileSystem} {directory : Path} {entries : List (String × Node)}
  {wanted entry : String}

/-- An entry of a directory that `wanted` can stand for. -/
structure IsCandidate (fs : FileSystem) (directory : Path) (wanted : String) (directories : Bool)
    (entry : String) : Prop where
  listed : ∃ entries, fs.list directory = .ok entries ∧ entry ∈ entries.map Prod.fst
  kind : fs.isDirectory (directory.join ⟨entry⟩) = directories
  lower : Unicode.lower entry = Unicode.lower wanted

theorem mem_rawNames_iff : child ∈ rawNames entries ↔ ∃ entry ∈ entries.map Prod.fst,
    child = .ofText entry := by
  simp only [rawNames, List.mem_map]
  constructor
  · rintro ⟨entry, hentry, rfl⟩
    exact ⟨entry.1, ⟨entry, hentry, rfl⟩, rfl⟩
  · rintro ⟨_, ⟨entry, hentry, rfl⟩, rfl⟩
    exact ⟨entry, hentry, rfl⟩

theorem findChild_of_list (h : fs.list directory = .ok entries) :
    findChild fs directory wanted directories
      = .ok ((choose (isDirectoryIn fs directory) (rawNames entries) (.ofText wanted)
        directories).map RawText.lossy) := by
  rw [findChild, h]

/-- The candidates among the listed names are those of the directory. -/
theorem mem_candidates_of_list_iff (h : fs.list directory = .ok entries) :
    child ∈ candidates (isDirectoryIn fs directory) (rawNames entries) (.ofText wanted) directories
      ↔ ∃ entry, child = .ofText entry ∧ IsCandidate fs directory wanted directories entry := by
  rw [mem_candidates_iff, mem_rawNames_iff]
  constructor
  · rintro ⟨⟨entry, hentry, rfl⟩, hkind, hlower⟩
    rw [isDirectoryIn, RawText.lossy_ofText] at hkind
    rw [RawText.lossy_ofText, RawText.lossy_ofText] at hlower
    exact ⟨entry, rfl, ⟨entries, h, hentry⟩, hkind, hlower⟩
  · rintro ⟨entry, rfl, ⟨others, hothers, hmem⟩, hkind, hlower⟩
    obtain rfl : others = entries := Except.ok.inj (hothers.symm.trans h)
    rw [isDirectoryIn, RawText.lossy_ofText, RawText.lossy_ofText]
    exact ⟨⟨entry, hmem, rfl⟩, hkind, hlower⟩

theorem ofText_mem_candidates_iff (h : fs.list directory = .ok entries) :
    .ofText entry ∈ candidates (isDirectoryIn fs directory) (rawNames entries) (.ofText wanted)
        directories ↔ IsCandidate fs directory wanted directories entry := by
  simp [mem_candidates_of_list_iff h]

/-- What is found in a directory is what is chosen among the listed names. -/
theorem findChild_eq_some_iff (h : fs.list directory = .ok entries) :
    findChild fs directory wanted directories = .ok (some entry)
      ↔ choose (isDirectoryIn fs directory) (rawNames entries) (.ofText wanted) directories
        = some (.ofText entry) := by
  rw [findChild_of_list h, Except.ok.injEq, Option.map_eq_some_iff]
  constructor
  · rintro ⟨child, hchild, rfl⟩
    obtain ⟨hmem, -⟩ := mem_candidates_iff.mp (mem_candidates_of_choose hchild)
    obtain ⟨entry, -, rfl⟩ := mem_rawNames_iff.mp hmem
    rw [hchild, RawText.lossy_ofText]
  · intro hchild
    exact ⟨_, hchild, RawText.lossy_ofText entry⟩

theorem isCandidate_of_findChild
    (h : findChild fs directory wanted directories = .ok (some entry)) :
    IsCandidate fs directory wanted directories entry := by
  cases hlist : fs.list directory with
  | error error =>
    rw [findChild, hlist] at h
    cases h
  | ok entries =>
    exact (ofText_mem_candidates_iff hlist).mp
      (mem_candidates_of_choose ((findChild_eq_some_iff hlist).mp h))

/-- Only the candidates of a directory matter. -/
theorem findChild_congr {gs : FileSystem} {other : Path} {later : List (String × Node)}
    (hlater : gs.list other = .ok later) (hlist : fs.list directory = .ok entries)
    (h : ∀ entry, IsCandidate gs other wanted directories entry
      ↔ IsCandidate fs directory wanted directories entry) :
    findChild gs other wanted directories = findChild fs directory wanted directories := by
  rw [findChild_of_list hlater, findChild_of_list hlist]
  refine congrArg _ (congrArg _ (choose_congr fun child => ?_))
  rw [mem_candidates_of_list_iff hlater, mem_candidates_of_list_iff hlist]
  exact exists_congr fun entry => and_congr_right fun _ => h entry

/-- The exact name wins. -/
theorem findChild_self (h : IsCandidate fs directory wanted directories wanted) :
    findChild fs directory wanted directories = .ok (some wanted) := by
  obtain ⟨entries, hlist, -⟩ := h.listed
  exact (findChild_eq_some_iff hlist).mpr (choose_self ((ofText_mem_candidates_iff hlist).mpr h))

/-- Where names differ by more than case, a candidate has no rival. -/
theorem findChild_alone (hlist : fs.list directory = .ok entries)
    (hnodup : (entries.map fun entry => Unicode.lower entry.1).Nodup)
    (h : IsCandidate fs directory wanted directories entry) :
    findChild fs directory wanted directories = .ok (some entry) := by
  refine (findChild_eq_some_iff hlist).mpr
    (choose_of_nodup ?_ ((ofText_mem_candidates_iff hlist).mpr h))
  rw [rawNames, List.map_map]
  simpa only [Function.comp_def, RawText.lossy_ofText] using hnodup

end Capitalization

end SourceServer
