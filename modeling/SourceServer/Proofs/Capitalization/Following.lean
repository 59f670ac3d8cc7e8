import SourceServer.Proofs.Capitalization.Choice
import SourceServer.Proofs.FileSystem.Kinds

/-!
# Following names

The names of a path are followed down from where it starts, one directory below the other, and each
of them stands for an entry. What is found has the names that were asked for, up to case, and these
names stand for themselves. A path that is spelled as on disk is followed to the end, for the exact
name wins in every directory.

- `Component.lower`: a component without its case.
- `Capitalization.Follows`, `Capitalization.descend_eq_ok_iff`: the entries that names stand for,
  one directory below the other.
- `Capitalization.Follows.self`: these entries stand for themselves.
- `Capitalization.Follows.lists`, `Capitalization.Follows.last`: where they are stored.
- `Capitalization.file_eq_ok_iff`: the paths that are found.
- `Capitalization.follows_of_walk`, `Capitalization.exists_follows_of_hasEntry`: the names of a walk
  stand for themselves.
-/

namespace SourceServer

/-! ## Components up to case -/

namespace Component

/-- A component without its case. -/
def lower : Component → Component
  | .name text => .name (Unicode.lower text)
  | component => component

variable {components others : List Component}

/-- Only names have case. -/
theorem mem_map_lower_iff {component : Component} (h : ∀ text, component ≠ .name text) :
    component ∈ components.map lower ↔ component ∈ components := by
  have hself : ∀ other : Component, other.lower = component ↔ other = component := by
    intro other
    cases other with
    | name text =>
      exact iff_of_false (fun heq => h _ heq.symm) fun heq => h _ heq.symm
    | root => rfl
    | here => rfl
    | up => rfl
  simp [hself]

/-- The components that are no names do not depend on case. -/
theorem mem_iff_of_map_lower_eq (component : Component)
    (hlower : components.map lower = others.map lower) (h : ∀ text, component ≠ .name text) :
    component ∈ components ↔ component ∈ others := by
  rw [← mem_map_lower_iff h, hlower, mem_map_lower_iff h]

theorem map_lower_append_name (front : List Component) (names : List String) :
    (front ++ names.map Component.name).map lower
      = front.map lower ++ (names.map Unicode.lower).map Component.name := by
  rw [List.map_append, List.map_map, List.map_map]
  rfl

end Component

/-- What agrees with a name up to case is a name. -/
theorem IsName.of_lower_eq {name child : String} (h : IsName name)
    (hlower : Unicode.lower child = Unicode.lower name) : IsName child := by
  have hpoint : Unicode.isLow '.' := by decide
  have hfar : ∀ text : String, (∀ c ∈ text.toList, Unicode.isLow c) →
      name ≠ text → child ≠ text := by
    intro text hlow hne hchild
    rw [hchild] at hlower
    exact hne (Unicode.eq_of_lower_eq hlower.symm hlow)
  refine ⟨hfar "" (by simp) h.ne_empty, hfar "." (by simpa using hpoint) h.ne_here,
    hfar ".." (by simpa using hpoint) h.ne_up, ?_⟩
  rw [← Unicode.slash_mem_lower_iff, hlower, Unicode.slash_mem_lower_iff]
  exact h.slash_notMem

variable {names children : List String}

theorem exists_lower_eq {child : String}
    (hlower : children.map Unicode.lower = names.map Unicode.lower) (hchild : child ∈ children) :
    ∃ name ∈ names, Unicode.lower name = Unicode.lower child := by
  have hmem : Unicode.lower child ∈ children.map Unicode.lower := List.mem_map_of_mem hchild
  rw [hlower] at hmem
  exact List.mem_map.mp hmem

/-- What agrees with names without NUL up to case has none. -/
theorem nul_notMem_of_lower_eq (hlower : children.map Unicode.lower = names.map Unicode.lower)
    (hnames : ∀ name ∈ names, '\x00' ∉ name.toList) :
    ∀ child ∈ children, '\x00' ∉ child.toList := by
  have hlow : Unicode.isLow '\x00' := by decide
  intro child hchild hmem
  obtain ⟨name, hname, hsame⟩ := exists_lower_eq hlower hchild
  rw [← Unicode.low_mem_lower_iff hlow, ← hsame, Unicode.low_mem_lower_iff hlow] at hmem
  exact hnames name hname hmem

namespace Path

variable {p q : Path}

theorem isAbsolute_eq_of_lower_eq
    (hlower : q.components.map Component.lower = p.components.map Component.lower) :
    q.isAbsolute = p.isAbsolute := by
  rw [Bool.eq_iff_iff, ← root_mem_components_iff, ← root_mem_components_iff]
  exact Component.mem_iff_of_map_lower_eq .root hlower (by simp)

theorem isPlain_of_lower_eq (hp : p.IsPlain)
    (hlower : q.components.map Component.lower = p.components.map Component.lower) : q.IsPlain := by
  refine ⟨fun hmem => hp.1 ?_, fun hmem => hp.2 ?_⟩
  · exact (Component.mem_iff_of_map_lower_eq .here hlower (by simp)).mp hmem
  · exact (Component.mem_iff_of_map_lower_eq .up hlower (by simp)).mp hmem

/-- Plain paths that agree up to case agree name by name. -/
theorem map_lower_names_of_lower_eq (hq : q.IsPlain) (hp : p.IsPlain)
    (hlower : q.components.map Component.lower = p.components.map Component.lower) :
    q.names.map Unicode.lower = p.names.map Unicode.lower := by
  have htop : q.top = p.top := by rw [top, top, isAbsolute_eq_of_lower_eq hlower]
  rw [components_of_isPlain hq, components_of_isPlain hp, htop, Component.map_lower_append_name,
    Component.map_lower_append_name, List.append_cancel_left_eq, map_name_inj] at hlower
  exact hlower

end Path

namespace Capitalization

open FileSystem (Fits pathError?)

variable {fs : FileSystem} {directories : Bool} {place p q : Path}

/-! ## One directory below the other -/

/-- The entries that names stand for, one directory below the other. All of them are directories but
for the last one, which is of the given kind. -/
inductive Follows (fs : FileSystem) (directories : Bool) : Path → List String → List String → Prop
  | nil {place : Path} : Follows fs directories place [] []
  | cons {place : Path} {name child : String} {rest children : List String}
      (hchild : findChild fs (listed place) name (directories || !rest.isEmpty) = .ok (some child))
      (hrest : Follows fs directories (place.join ⟨child⟩) rest children) :
      Follows fs directories place (name :: rest) (child :: children)

/-- Names are followed down to the entries that they stand for. -/
theorem descend_eq_ok_iff :
    descend fs directories place names = .ok q
      ↔ ∃ children, Follows fs directories place names children ∧ q = place.below children := by
  constructor
  · intro h
    induction names generalizing place with
    | nil =>
      rw [descend, Except.ok.injEq] at h
      exact ⟨[], .nil, h.symm⟩
    | cons name rest ih =>
      rw [descend] at h
      cases hfound : findChild fs (listed place) name (directories || !rest.isEmpty) with
      | error error => simp [hfound] at h
      | ok found =>
        cases found with
        | none => simp [hfound] at h
        | some child =>
          simp only [hfound] at h
          obtain ⟨children, hrest, hq⟩ := ih h
          exact ⟨child :: children, .cons hfound hrest, hq⟩
  · rintro ⟨children, hfollows, rfl⟩
    induction hfollows with
    | nil => rw [descend, Path.below_nil]
    | cons hchild hrest ih =>
      rw [descend]
      simp only [hchild]
      exact ih

theorem Follows.map_lower (h : Follows fs directories place names children) :
    children.map Unicode.lower = names.map Unicode.lower := by
  induction h with
  | nil => rfl
  | cons hchild hrest ih =>
    rw [List.map_cons, List.map_cons, (isCandidate_of_findChild hchild).lower, ih]

theorem Follows.isEmpty_eq (h : Follows fs directories place names children) :
    children.isEmpty = names.isEmpty := by
  cases h <;> rfl

/-- The entries stand for themselves: the exact name wins in every directory. -/
theorem Follows.self (h : Follows fs directories place names children) :
    Follows fs directories place children children := by
  induction h with
  | nil => exact .nil
  | cons hchild hrest ih =>
    have hcandidate := isCandidate_of_findChild hchild
    rw [← hrest.isEmpty_eq] at hcandidate
    exact .cons (findChild_self ⟨hcandidate.listed, hcandidate.kind, rfl⟩) ih

theorem Follows.isName (h : Follows fs directories place names children)
    (hnames : ∀ name ∈ names, IsName name) : ∀ child ∈ children, IsName child := by
  intro child hchild
  obtain ⟨name, hname, hlower⟩ := exists_lower_eq h.map_lower hchild
  exact (hnames name hname).of_lower_eq hlower.symm

/-- Every entry is stored in the directory that the entries in front of it lead to. -/
theorem Follows.stored (h : Follows fs directories place names children)
    (hnames : ∀ name ∈ names, IsName name) {above : List String} {name : String}
    {behind : List String} (hsplit : children = above ++ name :: behind) :
    ∃ entries, fs.list (listed (place.below above)) = .ok entries ∧ name ∈ entries.map Prod.fst
      ∧ fs.isDirectory ((place.below above).join ⟨name⟩) = (directories || !behind.isEmpty) := by
  induction h generalizing above with
  | nil => simp at hsplit
  | @cons place asked child rest children hchild hrest ih =>
    have hisName : IsName child := (hrest.cons hchild).isName hnames child List.mem_cons_self
    rw [List.forall_mem_cons] at hnames
    cases above with
    | nil =>
      rw [List.nil_append, List.cons.injEq] at hsplit
      obtain ⟨rfl, rfl⟩ := hsplit
      have hcandidate := isCandidate_of_findChild hchild
      obtain ⟨entries, hlist, hmem⟩ := hcandidate.listed
      have hkind := hcandidate.kind
      rw [FileSystem.isDirectory_listed_join hisName, ← hrest.isEmpty_eq] at hkind
      exact ⟨entries, hlist, hmem, hkind⟩
    | cons first above =>
      rw [List.cons_append, List.cons.injEq] at hsplit
      obtain ⟨rfl, hsplit⟩ := hsplit
      exact ih hnames.2 hsplit

/-- Every entry is stored in the directory with the components in front of it, and all but the last
one are directories. -/
theorem Follows.lists (h : Follows fs directories (start p) names children)
    (hnames : ∀ name ∈ names, IsName name) {above : List Component} {name : String}
    {behind : List Component}
    (hsplit : ((start p).below children).components = above ++ .name name :: behind) :
    ∃ node, fs.Lists above name node ∧ (behind ≠ [] → node.isDirectory = true) := by
  have hchildren := h.isName hnames
  rw [components_below_start hchildren] at hsplit
  obtain ⟨front, rest, hfront, rfl, rfl⟩ := Path.exists_names_of_split hsplit
  obtain ⟨entries, hlist, hmem, hkind⟩ := h.stored hnames hfront
  have hname : IsName name := hchildren name (by simp [hfront])
  -- the components in front of the name are those of the directory that was listed for it
  have habove : ∀ other ∈ front, IsName other := by
    intro other hother
    exact hchildren other (by simp [hfront, hother])
  have hlists : ∀ node, (name, node) ∈ entries → fs.Lists (p.top ++ front.map .name) name node :=
    fun node hentry => ⟨_, entries, components_below_start habove p, hlist, hentry⟩
  by_cases hrest : rest = []
  · obtain ⟨⟨_, node⟩, hentry, rfl⟩ := List.mem_map.mp hmem
    exact ⟨node, hlists node hentry, fun hbehind => absurd (by rw [hrest]; rfl) hbehind⟩
  · have hdirectory : fs.isDirectory (((start p).below front).join ⟨name⟩) = true := by
      rw [hkind]
      simp [hrest]
    obtain ⟨⟨inside, hlookup⟩, -⟩ := (FileSystem.isDirectory_join_iff hname hlist).mp hdirectory
    exact ⟨_, hlists _ (Node.mem_of_lookup hlookup), fun _ => rfl⟩

/-- The last one of the entries that names stand for, if a file was looked for. -/
theorem Follows.last (hfs : fs.WellNamed) (h : Follows fs false place names children)
    (hnames : ∀ name ∈ names, IsName name) {front : List String} {last : String}
    (hsplit : children = front ++ [last]) :
    ∃ entries node, fs.list (listed (place.below front)) = .ok entries ∧ (last, node) ∈ entries
      ∧ (node.isDirectory = true → ¬ Fits (place.below children)) := by
  obtain ⟨entries, hlist, hmem, hkind⟩ := h.stored hnames hsplit
  obtain ⟨⟨_, node⟩, hentry, rfl⟩ := List.mem_map.mp hmem
  have hlast := h.isName hnames _ (by rw [hsplit]; exact List.mem_append_right _ List.mem_cons_self)
  rw [FileSystem.isDirectory_of_listed hfs hlast hlist hentry] at hkind
  refine ⟨entries, node, hlist, hentry, fun hdirectory hfits => ?_⟩
  rw [hsplit, Path.below_append, Path.below_cons, Path.below_nil] at hfits
  simp [hdirectory, hfits] at hkind

/-! ## Whole paths -/

/-- The files that are found. -/
theorem file_eq_ok_iff {text : String} :
    file fs text = .ok q
      ↔ Path.IsPlain ⟨text⟩ ∧ '\x00' ∉ text.toList ∧ Path.names ⟨text⟩ ≠ []
        ∧ ∃ children, Follows fs false (start ⟨text⟩) (Path.names ⟨text⟩) children
          ∧ q = (start ⟨text⟩).below children := by
  rw [file]
  by_cases hmalformed : text = "" ∨ text.toList.contains '\x00'
  · rw [if_pos hmalformed]
    refine iff_of_false (by simp) ?_
    rintro ⟨-, hnul, hnames, -⟩
    rcases hmalformed with rfl | hcontains
    · exact hnames rfl
    · exact hnul (List.contains_iff_mem.mp hcontains)
  · rw [if_neg hmalformed]
    rw [not_or, List.contains_iff_mem] at hmalformed
    cases hplain : plainNames? ⟨text⟩ with
    | none =>
      refine iff_of_false (by simp) ?_
      rintro ⟨hp, -⟩
      rw [plainNames?_eq_some_iff.mpr ⟨hp, rfl⟩] at hplain
      cases hplain
    | some found =>
      obtain ⟨hp, rfl⟩ := plainNames?_eq_some_iff.mp hplain
      cases hnames : Path.names ⟨text⟩ with
      | nil => simp
      | cons first rest =>
        show descend fs false (start ⟨text⟩) (first :: rest) = .ok q ↔ _
        rw [descend_eq_ok_iff]
        simp [hp, hmalformed.2]

/-! ## Paths that are spelled as on disk -/

/-- The names of a directory that can be listed stand for themselves, and so does the name of an entry
in it that is no directory, or none that can be looked up. -/
theorem follows_of_walk {directory : Path} {front rest here there : List String}
    {entries : List (String × Node)} {last : String} {node : Node} (hfs : fs.WellNamed)
    (hplain : directory.IsPlain) (husable : pathError? (listed directory) = none)
    (hsplit : directory.names = front ++ rest)
    (hhere : fs.walk (fs.origin directory) front = .ok here)
    (hrest : fs.walk here rest = .ok there)
    (hthere : fs.root.find? there = some (.directory entries)) (hlast : IsName last)
    (hentry : (last, node) ∈ entries)
    (hunseen : node.isDirectory = true →
      ¬ Fits ((start directory).below (directory.names ++ [last]))) :
    Follows fs false ((start directory).below front) (rest ++ [last]) (rest ++ [last]) := by
  -- down the directory, one name after the other goes from the rest to the front
  induction rest generalizing front here with
  | nil =>
    rw [FileSystem.walk_nil, Except.ok.injEq] at hrest
    subst hrest
    rw [List.append_nil] at hsplit
    have hlist := FileSystem.list_below_start hplain husable (by simp [hsplit]) hhere hthere
    have hkind : fs.isDirectory (((start directory).below front).join ⟨last⟩) = false := by
      rw [FileSystem.isDirectory_of_listed hfs hlast hlist hentry, Bool.and_eq_false_iff]
      rw [hsplit, Path.below_append, Path.below_cons, Path.below_nil] at hunseen
      cases hdirectory : node.isDirectory with
      | false => exact .inl rfl
      | true => exact .inr (decide_eq_false (hunseen hdirectory))
    rw [← FileSystem.isDirectory_listed_join hlast] at hkind
    exact .cons (findChild_self ⟨⟨entries, hlist, List.mem_map_of_mem hentry⟩, hkind, rfl⟩) .nil
  | cons name rest ih =>
    have hname : IsName name := Path.isName_of_mem_names hplain (by simp [hsplit])
    obtain ⟨inside, child, hinside, hlookup, hshort, hbehind⟩ :=
      FileSystem.walk_name_cons hname hrest
    have hlist := FileSystem.list_below_start hplain husable ⟨name :: rest, hsplit.symm⟩ hhere
      hinside
    have hnext : fs.walk (fs.origin directory) (front ++ [name]) = .ok (here ++ [name]) := by
      rw [FileSystem.walk_append, hhere]
      exact FileSystem.walk_entry hname hshort hinside hlookup
    have hdeeper : directory.names = (front ++ [name]) ++ rest := by
      rw [hsplit, List.append_assoc, List.singleton_append]
    have hjoin : (start directory).below (front ++ [name])
        = ((start directory).below front).join ⟨name⟩ := by
      rw [Path.below_append, Path.below_cons, Path.below_nil]
    -- the entry is a directory, for the walk goes on through it, and it can be listed in its turn
    obtain ⟨within, hwithin⟩ := FileSystem.find?_of_walk hbehind hthere
    have hbelow := FileSystem.list_below_start hplain husable ⟨rest, hdeeper.symm⟩ hnext hwithin
    have hclosed : (((start directory).below front).join ⟨name⟩).text ≠ "" :=
      fun hempty => Path.not_isOpen_join hname _ (.inl hempty)
    rw [hjoin, FileSystem.listed_of_ne hclosed] at hbelow
    have hkind := FileSystem.isDirectory_eq_true_iff.mpr ⟨within, hbelow⟩
    rw [← FileSystem.isDirectory_listed_join hname] at hkind
    have hcandidate : IsCandidate fs (listed ((start directory).below front)) name
        (false || !(rest ++ [last]).isEmpty) name := by
      refine ⟨⟨inside, hlist, List.mem_map_of_mem (Node.mem_of_lookup hlookup)⟩, ?_, rfl⟩
      rw [hkind]
      simp
    have hfollows := ih hdeeper hnext hbehind
    rw [hjoin] at hfollows
    exact .cons (findChild_self hcandidate) hfollows

/-- Entries that are listed hold no NUL. -/
theorem Follows.nul_notMem (hfs : fs.WellNamed) (h : Follows fs directories place names children)
    (hnames : ∀ name ∈ names, IsName name) : ∀ child ∈ children, '\x00' ∉ child.toList := by
  intro child hchild
  obtain ⟨above, behind, hsplit⟩ := List.append_of_mem hchild
  obtain ⟨entries, hlist, hmem, -⟩ := h.stored hnames hsplit
  obtain ⟨entry, hentry, rfl⟩ := List.mem_map.mp hmem
  obtain ⟨there, -, hthere⟩ := FileSystem.walk_of_list hlist
  exact hfs.no_nul hthere hentry

/-- The names of an entry on disk stand for themselves, and they start where every plain path starts
that agrees with it up to case. The entry is a file, or a directory that cannot be looked up. -/
theorem exists_follows_of_hasEntry {found : List Component} {node : Node} (hfs : fs.WellNamed)
    (hp : p.IsPlain) (hentry : fs.HasEntry found node)
    (hlower : found.map Component.lower = p.components.map Component.lower)
    (hunseen : node.isDirectory = true → ∀ children, found = p.top ++ children.map .name →
      ¬ Fits ((start p).below children)) :
    ∃ children, children ≠ [] ∧ found = p.top ++ children.map .name
      ∧ children.map Unicode.lower = p.names.map Unicode.lower
      ∧ Follows fs false (start p) children children := by
  obtain ⟨above, last, rfl, directory, entries, rfl, hlist, hmem⟩ := hentry
  -- what is no name does not depend on case: the directory is plain and starts where the path does
  have hhere := Component.mem_iff_of_map_lower_eq .here hlower (by simp)
  have hup := Component.mem_iff_of_map_lower_eq .up hlower (by simp)
  have hroot := Component.mem_iff_of_map_lower_eq .root hlower (by simp)
  have hplain : directory.IsPlain := by
    refine ⟨fun hmem => hp.1 ?_, fun hmem => hp.2 ?_⟩
    · exact hhere.mp (List.mem_append_left _ hmem)
    · exact hup.mp (List.mem_append_left _ hmem)
  have habsolute : directory.isAbsolute = p.isAbsolute := by
    rw [Bool.eq_iff_iff, ← Path.root_mem_components_iff, ← Path.root_mem_components_iff, ← hroot]
    simp
  have htop : directory.top = p.top := by rw [Path.top, Path.top, habsolute]
  have hfound : directory.components ++ [.name last]
      = p.top ++ (directory.names ++ [last]).map .name := by
    rw [Path.components_of_isPlain hplain, htop, List.map_append, List.append_assoc]
    rfl
  have hnames : (directory.names ++ [last]).map Unicode.lower = p.names.map Unicode.lower := by
    rw [hfound, Path.components_of_isPlain hp, Component.map_lower_append_name,
      Component.map_lower_append_name, List.append_cancel_left_eq, Path.map_name_inj] at hlower
    exact hlower
  have hlast : IsName last := by
    obtain ⟨name, hname, hsame⟩ := exists_lower_eq hnames (List.mem_append_right _ List.mem_cons_self)
    exact (Path.isName_of_mem_names hp hname).of_lower_eq hsame.symm
  refine ⟨directory.names ++ [last], by simp, hfound, hnames, ?_⟩
  -- the directory was walked through before it was listed
  obtain ⟨place, hwalk, hplace⟩ := FileSystem.walk_of_list hlist
  have hstay : fs.walk (fs.origin directory) directory.names = .ok place :=
    FileSystem.walk_names hwalk
  have hnone : fs.walk (fs.origin directory) [] = .ok (fs.origin directory) :=
    FileSystem.walk_nil fs _
  have hstart : start directory = start p := start_eq_of_isAbsolute_eq habsolute
  have hfollows := follows_of_walk hfs hplain (FileSystem.pathError?_of_list hlist)
    (List.nil_append _).symm hnone hstay hplace hlast hmem
    (fun hdirectory => hstart ▸ hunseen hdirectory _ hfound)
  rw [Path.below_nil, hstart] at hfollows
  exact hfollows

/-- A plain path whose names stand for entries is resolved to them. -/
theorem file_of_follows (hfs : fs.WellNamed) (hp : p.IsPlain) (hne : children ≠ [])
    (h : Follows fs false (start p) p.names children) :
    file fs p.text = .ok ((start p).below children) := by
  have hisName : ∀ name ∈ p.names, IsName name :=
    fun name hname => Path.isName_of_mem_names hp hname
  have hfree : ∀ name ∈ p.names, '\x00' ∉ name.toList :=
    nul_notMem_of_lower_eq h.map_lower.symm (h.nul_notMem hfs hisName)
  have hnul : '\x00' ∉ p.text.toList := by
    intro hmem
    obtain ⟨name, hname, hmem⟩ := Path.exists_name_of_mem hmem (by decide) (by decide)
    exact hfree name hname hmem
  have hnames : p.names ≠ [] := by
    rw [← List.isEmpty_eq_false_iff, ← h.isEmpty_eq, List.isEmpty_eq_false_iff]
    exact hne
  exact file_eq_ok_iff.mpr ⟨hp, hnul, hnames, children, h, rfl⟩

/-- The names of a directory that is too deep stand for themselves, and they lead to its own text. -/
theorem follows_of_isTooDeep (hfs : fs.WellNamed) (hp : p.IsPlain) (h : fs.IsTooDeep q)
    (hlower : q.components.map Component.lower = p.components.map Component.lower) :
    q.names ≠ [] ∧ q = (start p).below q.names ∧ Follows fs false (start p) q.names q.names := by
  obtain ⟨inside, hentry⟩ := h.listed_above
  have hq : q.IsPlain := Path.isPlain_of_lower_eq hp hlower
  have hcomponents : q.components = p.top ++ q.names.map .name := by
    rw [Path.components_of_isPlain hq, Path.top, Path.top, Path.isAbsolute_eq_of_lower_eq hlower]
  have hchildren : ∀ child ∈ q.names, IsName child :=
    fun child hchild => Path.isName_of_mem_names hq hchild
  have hne : q.names ≠ [] := by
    obtain ⟨above, name, hends, -⟩ := hentry
    intro hnil
    rw [hends, hnil, List.map_nil, List.append_nil, Path.top] at hcomponents
    split at hcomponents <;> cases above <;> simp at hcomponents
  have htext : q = (start p).below q.names := by
    refine Path.eq_of_isTidy hq (isPlain_below_start hchildren p) h.isTidy
      (Path.isTidy_below_start hchildren hne p) ?_
    rw [components_below_start hchildren, ← hcomponents]
  have hown : ∀ children, q.components = p.top ++ children.map .name → children = q.names := by
    intro children hsame
    rw [hcomponents, List.append_cancel_left_eq, Path.map_name_inj] at hsame
    exact hsame.symm
  obtain ⟨children, -, hsame, -, hfollows⟩ :=
    exists_follows_of_hasEntry hfs hp hentry hlower fun _ children hsame =>
      hown children hsame ▸ htext ▸ h.not_fits
  rw [hown children hsame] at hfollows
  exact ⟨hne, htext, hfollows⟩

/-- A directory that is too deep to be looked up is found as if it were a file. -/
theorem file_of_isTooDeep (hfs : fs.WellNamed) (hq : q.IsPlain) (h : fs.IsTooDeep q) :
    file fs q.text = .ok q := by
  obtain ⟨hne, htext, hfollows⟩ := follows_of_isTooDeep hfs hq h rfl
  rw [file_of_follows hfs hq hne hfollows, ← htext]

end Capitalization

end SourceServer
