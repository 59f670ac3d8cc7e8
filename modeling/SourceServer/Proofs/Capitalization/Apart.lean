import SourceServer.Proofs.Capitalization.Choice
import SourceServer.Proofs.FileSystem.Apart
import SourceServer.Proofs.Unicode.LowerCase

/-!
# Capitalization next to outputs

The choice among the entries of a directory looks at the entries that agree with a name up to case.
When outputs are known up to case, a name that is no output never meets one, so a path that passes
no output is spelled alike whatever outputs lie around, and its spelling passes none either.

- `OutputsUpToCase`: outputs are known up to case.
- `Capitalization.isCandidate_iff`, `Capitalization.findChild_eq`: the choice in one directory.
- `Capitalization.file_eq`: a whole path.
-/

namespace SourceServer

open FileSystem (Apart StepApart SameBut listingApart)

/-- Names that agree up to case are both names of outputs or neither is. -/
def OutputsUpToCase (outputs : String → Bool) : Prop :=
  ∀ a b, Unicode.lower a = Unicode.lower b → outputs a = outputs b

namespace Capitalization

variable {outputs : String → Bool} {before after : FileSystem}

/-! ## The choice in one directory -/

theorem apart_join {directory p : Path} (hdirectory : Apart outputs directory)
    (hp : Apart outputs p) : Apart outputs (directory.join p) := by
  rw [Apart, FileSystem.steps_join]
  split
  · exact hp
  · exact List.forall_mem_append.mpr ⟨hdirectory, hp⟩

/-- What agrees with a name that is no output is a name that is no output. -/
theorem apart_of_lower_eq (hcase : OutputsUpToCase outputs) {name child : String}
    (hname : outputs name = false) (hslash : '/' ∉ name.toList)
    (h : Unicode.lower child = Unicode.lower name) : Apart outputs ⟨child⟩ := by
  have hchild : '/' ∉ child.toList := by
    rwa [← Unicode.slash_mem_lower_iff, h, Unicode.slash_mem_lower_iff]
  intro step hstep
  by_cases hempty : child = ""
  · rw [hempty] at hstep
    cases hstep
  · rw [FileSystem.steps_name hchild hempty, List.mem_singleton] at hstep
    rw [hstep]
    exact .inr (.inr ((hcase child name h).trans hname))

theorem mem_listingApart_names_iff {entries : List (String × Node)} {entry : String} :
    entry ∈ (listingApart outputs entries).map Prod.fst
      ↔ entry ∈ entries.map Prod.fst ∧ outputs entry = false := by
  simp only [listingApart, listing, List.mem_map, List.mem_filter, Bool.not_eq_true']
  constructor
  · rintro ⟨_, ⟨⟨listed, hlisted, rfl⟩, houtput⟩, rfl⟩
    exact ⟨⟨listed, hlisted, rfl⟩, houtput⟩
  · rintro ⟨⟨listed, hlisted, rfl⟩, houtput⟩
    exact ⟨_, ⟨⟨listed, hlisted, rfl⟩, houtput⟩, rfl⟩

/-- The entries that agree with a name that is no output are no outputs: they are listed in both, and
their paths are of the same kind. -/
theorem isCandidate_iff (h : SameBut outputs before after) (hcase : OutputsUpToCase outputs)
    {directory : Path} (hdirectory : Apart outputs directory) {name entry : String}
    (hname : outputs name = false) (hslash : '/' ∉ name.toList) {directories : Bool}
    {entries later : List (String × Node)} (hbefore : before.list directory = .ok entries)
    (hafter : after.list directory = .ok later)
    (hlisting : listingApart outputs later = listingApart outputs entries) :
    IsCandidate after directory name directories entry
      ↔ IsCandidate before directory name directories entry := by
  have hlisted : ∀ {listed : List (String × Node)},
      Unicode.lower entry = Unicode.lower name →
      (entry ∈ (listingApart outputs listed).map Prod.fst ↔ entry ∈ listed.map Prod.fst) := by
    intro listed hlower
    rw [mem_listingApart_names_iff, hcase _ _ hlower]
    exact and_iff_left hname
  have hkind : Unicode.lower entry = Unicode.lower name →
      after.isDirectory (directory.join ⟨entry⟩) = before.isDirectory (directory.join ⟨entry⟩) :=
    fun hlower => h.isDirectory_eq
      (apart_join hdirectory (apart_of_lower_eq hcase hname hslash hlower))
  constructor
  · rintro ⟨⟨_, hlist, hmem⟩, hseen, hlower⟩
    obtain rfl := Except.ok.inj (hlist.symm.trans hafter)
    rw [← hlisted hlower, hlisting, hlisted hlower] at hmem
    exact ⟨⟨entries, hbefore, hmem⟩, (hkind hlower).symm.trans hseen, hlower⟩
  · rintro ⟨⟨_, hlist, hmem⟩, hseen, hlower⟩
    obtain rfl := Except.ok.inj (hlist.symm.trans hbefore)
    rw [← hlisted hlower, ← hlisting, hlisted hlower] at hmem
    exact ⟨⟨later, hafter, hmem⟩, (hkind hlower).trans hseen, hlower⟩

theorem findChild_eq (h : SameBut outputs before after) (hcase : OutputsUpToCase outputs)
    {directory : Path} (hdirectory : Apart outputs directory) {name : String}
    (hname : outputs name = false) (hslash : '/' ∉ name.toList) (directories : Bool) :
    findChild after directory name directories = findChild before directory name directories := by
  rcases h.list_cases hdirectory with
    ⟨error, hbefore, hafter⟩ | ⟨entries, later, hbefore, hafter, hlisting⟩
  · rw [findChild, findChild, hbefore, hafter]
  · exact findChild_congr hafter hbefore fun entry =>
      isCandidate_iff h hcase hdirectory hname hslash hbefore hafter hlisting

/-! ## Whole paths -/

theorem apart_listed {directory : Path} (h : Apart outputs directory) :
    Apart outputs (listed directory) := by
  rw [listed]
  split
  · intro step hstep
    exact .inl (List.mem_singleton.mp hstep)
  · exact h

/-- Following names that are no outputs down from a place that is reached past none. -/
theorem descend_eq (h : SameBut outputs before after) (hcase : OutputsUpToCase outputs)
    (directories : Bool) {place : Path} {names : List String} (hplace : Apart outputs place)
    (hnames : ∀ name ∈ names, outputs name = false ∧ '/' ∉ name.toList) :
    descend after directories place names = descend before directories place names
      ∧ ∀ path, descend before directories place names = .ok path → Apart outputs path := by
  -- the place is generalized: one step down it is again one that passes no output
  induction names generalizing place with
  | nil =>
    refine ⟨rfl, fun path hpath => ?_⟩
    rw [descend, Except.ok.injEq] at hpath
    exact hpath ▸ hplace
  | cons name rest ih =>
    rw [List.forall_mem_cons] at hnames
    obtain ⟨⟨hname, hslash⟩, hrest⟩ := hnames
    rw [descend, descend]
    rw [findChild_eq h hcase (apart_listed hplace) hname hslash]
    cases hfound : findChild before (listed place) name (directories || !rest.isEmpty) with
    | error error => simp
    | ok found =>
      cases found with
      | none => simp
      | some child =>
        have hapart := apart_of_lower_eq hcase hname hslash (isCandidate_of_findChild hfound).lower
        exact ih (apart_join hplace hapart) hrest

theorem apart_start (p : Path) : Apart outputs (start p) := by
  rw [start]
  split <;> exact fun step hstep => by cases hstep

theorem name_mem_of_names {components : List Component} {names : List String}
    (h : plainNames?.names components = some names) :
    ∀ name ∈ names, .name name ∈ components := by
  induction components generalizing names with
  | nil =>
    rw [plainNames?.names, Option.some.injEq] at h
    simp [← h]
  | cons component rest ih =>
    cases component with
    | name text =>
      rw [plainNames?.names, Option.map_eq_some_iff] at h
      obtain ⟨others, hothers, rfl⟩ := h
      rw [List.forall_mem_cons]
      exact ⟨List.mem_cons_self, fun name hname => List.mem_cons_of_mem _ (ih hothers name hname)⟩
    | root => cases h
    | here => cases h
    | up => cases h

theorem name_mem_of_plainNames? {p : Path} {names : List String} (h : plainNames? p = some names) :
    ∀ name ∈ names, .name name ∈ p.components := by
  rw [plainNames?] at h
  split at h
  · rename_i rest hcomponents
    rw [hcomponents]
    exact fun name hname => List.mem_cons_of_mem _ (name_mem_of_names h name hname)
  · exact name_mem_of_names h

/-- A path that passes no output is spelled alike, and its spelling passes no output. -/
theorem file_eq (h : SameBut outputs before after) (hcase : OutputsUpToCase outputs)
    {text : String} (htext : Apart outputs ⟨text⟩) :
    file after text = file before text
      ∧ ∀ path, file before text = .ok path → Apart outputs path := by
  rw [file, file]
  split
  · simp
  · cases hnames : plainNames? ⟨text⟩ with
    | none => simp
    | some names =>
      have hplain : ∀ name ∈ names, outputs name = false ∧ '/' ∉ name.toList := by
        intro name hname
        have hcomponent := name_mem_of_plainNames? hnames name hname
        have hstep := (Path.name_mem_components_iff.mp hcomponent).1
        exact ⟨FileSystem.apart_iff.mp htext name hcomponent, FileSystem.slash_notMem_step hstep⟩
      cases names with
      | nil => simp
      | cons name rest => exact descend_eq h hcase false (apart_start ⟨text⟩) hplain

end Capitalization

end SourceServer
