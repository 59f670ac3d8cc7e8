import SourceServer.Proofs.FileSystem.Writing
import SourceServer.Proofs.Path.Steps

/-!
# File systems that differ in some outputs

Outputs are known by their names. Two file systems that differ in outputs only show the same along
every path that passes no name of an output, even inside the directories that hold the outputs.

- `FileSystem.SameBut`: file systems that differ in outputs only.
- `FileSystem.Wrote.sameBut`: writing an output leads from one to the other.
- `FileSystem.Apart`: a path that passes no output.
- `FileSystem.SameBut.item_eq`, `FileSystem.SameBut.list_cases`: what such a path shows.
- `FileSystem.SameBut.filePlace_eq`: where a file would be written.
-/

namespace SourceServer

namespace FileSystem

/-- What a directory lists besides outputs. -/
def listingApart (outputs : String → Bool) (entries : List (String × Node)) :
    List (String × Bool) :=
  (listing entries).filter fun entry => !outputs entry.1

/-- Two file systems, of which the first has its current directory, agree but for files with the
name of an output. -/
structure SameBut (outputs : String → Bool) (before after : FileSystem) : Prop where
  current_eq : after.current = before.current
  current_directory : before.itemAt? before.current = some .directory
  itemAt?_eq : ∀ {place : List String},
    (∀ name, place.getLast? = some name → outputs name = false) →
    after.itemAt? place = before.itemAt? place
  directory_iff : ∀ place, after.itemAt? place = some .directory
    ↔ before.itemAt? place = some .directory
  listing_eq : ∀ {place : List String} {entries later : List (String × Node)},
    before.root.find? place = some (.directory entries) →
    after.root.find? place = some (.directory later) →
    listingApart outputs later = listingApart outputs entries

variable {outputs : String → Bool} {before after : FileSystem}

theorem SameBut.refl {fs : FileSystem} (hcurrent : fs.itemAt? fs.current = some .directory) :
    SameBut outputs fs fs where
  current_eq := rfl
  current_directory := hcurrent
  itemAt?_eq _ := rfl
  directory_iff _ := .rfl
  listing_eq hentries hlater := by
    rw [hentries, Option.some.injEq, Node.directory.injEq] at hlater
    rw [hlater]

theorem SameBut.trans {middle : FileSystem} (h : SameBut outputs before middle)
    (h' : SameBut outputs middle after) : SameBut outputs before after where
  current_eq := h'.current_eq.trans h.current_eq
  current_directory := h.current_directory
  itemAt?_eq hplace := (h'.itemAt?_eq hplace).trans (h.itemAt?_eq hplace)
  directory_iff place := (h'.directory_iff place).trans (h.directory_iff place)
  listing_eq {place entries later} hentries hlater := by
    have hmiddle : middle.itemAt? place = some .directory :=
      (h.directory_iff place).mpr (Node.itemAt?_eq_directory.mpr ⟨entries, hentries⟩)
    obtain ⟨inside, hinside⟩ := Node.itemAt?_eq_directory.mp hmiddle
    rw [h'.listing_eq hinside hlater, h.listing_eq hentries hinside]

/-- A listing without one output, as far as it shows no outputs. -/
theorem listingApart_eq_of_listingWithout {name : String} {entries later : List (String × Node)}
    (houtput : outputs name = true) (h : listingWithout name later = listingWithout name entries) :
    listingApart outputs later = listingApart outputs entries := by
  have hapart : ∀ entries : List (String × Node), listingApart outputs entries
      = (listingWithout name entries).filter fun entry => !outputs entry.1 := by
    intro entries
    rw [listingApart, listingWithout, List.filter_filter]
    refine List.filter_congr fun entry _ => ?_
    by_cases hentry : entry.1 = name
    · simp [hentry, houtput]
    · simp [hentry]
  rw [hapart, hapart, h]

/-- Writing an output changes nothing but outputs. -/
theorem Wrote.sameBut {place : List String} {content : ByteArray} {name : String}
    (h : before.Wrote after place content)
    (hcurrent : before.itemAt? before.current = some .directory)
    (hname : place.getLast? = some name) (houtput : outputs name = true) :
    SameBut outputs before after where
  current_eq := h.current_eq
  current_directory := hcurrent
  itemAt?_eq hother := by
    refine h.itemAt?_other ?_
    rintro rfl
    rw [hother name hname] at houtput
    cases houtput
  directory_iff other := by
    refine ⟨fun hother => ?_, h.itemAt?_directory⟩
    by_cases heq : other = place
    · rw [heq, h.itemAt?_self] at hother
      cases hother
    · rwa [h.itemAt?_other heq] at hother
  listing_eq hentries hlater := by
    obtain ⟨inside, hinside, hlisting⟩ := h.listing_eq hname hentries
    rw [hinside, Option.some.injEq, Node.directory.injEq] at hlater
    rw [← hlater]
    exact listingApart_eq_of_listingWithout houtput hlisting

/-! ## Paths that pass no output -/

/-- A step that is no output. -/
def StepApart (outputs : String → Bool) (step : String) : Prop :=
  step = "." ∨ step = ".." ∨ outputs step = false

/-- A path that passes no output. -/
def Apart (outputs : String → Bool) (p : Path) : Prop :=
  ∀ step ∈ steps p, StepApart outputs step

theorem apart_iff {p : Path} :
    Apart outputs p ↔ ∀ name, .name name ∈ p.components → outputs name = false := by
  simp only [Apart, StepApart, Path.name_mem_components_iff]
  constructor
  · rintro h name ⟨hstep, hhere, hup⟩
    exact ((h name hstep).resolve_left hhere).resolve_left hup
  · intro h step hstep
    by_cases hhere : step = "."
    · exact .inl hhere
    · by_cases hup : step = ".."
      · exact .inr (.inl hup)
      · exact .inr (.inr (h step ⟨hstep, hhere, hup⟩))

namespace SameBut

/-- Where a directory is in one of the two, the same is in the other. -/
theorem itemAt?_of_directory (h : SameBut outputs before after) {place : List String}
    (hplace : before.itemAt? place = some .directory) :
    after.itemAt? place = before.itemAt? place := by
  rw [hplace]
  exact (h.directory_iff place).mpr hplace

/-- Above a directory the same stands in both. -/
theorem itemAt?_dropLast (h : SameBut outputs before after) {place : List String}
    (hplace : before.itemAt? place = some .directory) :
    after.itemAt? place.dropLast = before.itemAt? place.dropLast := by
  rcases List.eq_nil_or_concat place with rfl | ⟨above, name, rfl⟩
  · exact h.itemAt?_of_directory hplace
  · rw [List.concat_eq_append] at hplace ⊢
    rw [List.dropLast_concat]
    have hbelow : before.root.itemAt? (above ++ [name]) ≠ none := by
      rw [← itemAt?, hplace]
      exact Option.some_ne_none _
    exact h.itemAt?_of_directory (Node.itemAt?_of_below hbelow)

/-- A walk that passes no output leads to the same place, and there the same stands. The walk starts
where the same stands; two points lead to directories only. -/
theorem walk_eq (h : SameBut outputs before after) {start names : List String}
    (hnames : ∀ step ∈ names, StepApart outputs step)
    (hstart : after.itemAt? start = before.itemAt? start) :
    after.walk start names = before.walk start names
      ∧ ∀ place, before.walk start names = .ok place →
        after.itemAt? place = before.itemAt? place := by
  induction names generalizing start with
  | nil =>
    rw [walk_nil, walk_nil]
    refine ⟨rfl, fun place hplace => ?_⟩
    rw [← Except.ok.inj hplace, hstart]
  | cons step rest ih =>
    rw [List.forall_mem_cons] at hnames
    rw [walk_cons, walk_cons, hstart]
    cases hitem : before.itemAt? start with
    | none => simp
    | some item =>
      cases item with
      | file content => simp
      | directory =>
        dsimp only
        by_cases hhere : step = "."
        · rw [if_pos hhere, if_pos hhere]
          exact ih hnames.2 hstart
        · rw [if_neg hhere, if_neg hhere]
          by_cases hup : step = ".."
          · rw [if_pos hup, if_pos hup]
            exact ih hnames.2 (h.itemAt?_dropLast hitem)
          · have hstep : outputs step = false := (hnames.1.resolve_left hhere).resolve_left hup
            have hnext : after.itemAt? (start ++ [step]) = before.itemAt? (start ++ [step]) := by
              refine h.itemAt?_eq fun name hname => ?_
              obtain rfl : step = name := by simpa using hname
              exact hstep
            rw [if_neg hup, if_neg hup, hnext]
            split
            · simp
            · split
              · simp
              · exact ih hnames.2 hnext

/-- The current directory is the same, and so is the root. -/
theorem origin_eq (h : SameBut outputs before after) (p : Path) :
    after.origin p = before.origin p :=
  origin_eq_of_current_eq h.current_eq p

theorem itemAt?_origin (h : SameBut outputs before after) (p : Path) :
    after.itemAt? (before.origin p) = before.itemAt? (before.origin p) := by
  rw [origin]
  split
  · exact h.itemAt?_eq (by simp)
  · exact h.itemAt?_of_directory h.current_directory

/-- A path that passes no output names the same. -/
theorem item_eq (h : SameBut outputs before after) {p : Path} (hp : Apart outputs p) :
    after.item p = before.item p := by
  obtain ⟨hwalk, hplaces⟩ := h.walk_eq hp (h.itemAt?_origin p)
  rw [FileSystem.item_eq, FileSystem.item_eq, h.origin_eq, hwalk]
  cases hplace : before.walk (before.origin p) (steps p) with
  | error error => rfl
  | ok place => simp only [hplaces place hplace]

/-- A path that passes no output is read alike. -/
theorem read_eq (h : SameBut outputs before after) {p : Path} (hp : Apart outputs p) :
    after.read p = before.read p := by
  rw [FileSystem.read_eq, FileSystem.read_eq, h.item_eq hp]

/-- A path that passes no output is a directory in both or in neither. -/
theorem isDirectory_eq (h : SameBut outputs before after) {p : Path} (hp : Apart outputs p) :
    after.isDirectory p = before.isDirectory p := by
  rw [FileSystem.isDirectory_eq, FileSystem.isDirectory_eq, h.item_eq hp]

/-- A path that passes no output is listed alike, but for outputs. -/
theorem list_cases (h : SameBut outputs before after) {p : Path} (hp : Apart outputs p) :
    (∃ error, before.list p = .error error ∧ after.list p = .error error)
      ∨ ∃ entries later, before.list p = .ok entries ∧ after.list p = .ok later
        ∧ listingApart outputs later = listingApart outputs entries := by
  have hitem := h.item_eq hp
  rw [item, item] at hitem
  rw [list, list]
  cases hbefore : before.node p with
  | error error =>
    rw [hbefore] at hitem
    cases hafter : after.node p with
    | error error' =>
      rw [hafter] at hitem
      rw [Except.error.inj hitem]
      exact .inl ⟨error, rfl, rfl⟩
    | ok node => rw [hafter] at hitem; cases hitem
  | ok node =>
    rw [hbefore] at hitem
    cases hafter : after.node p with
    | error error => rw [hafter] at hitem; cases hitem
    | ok node' =>
      rw [hafter] at hitem
      have hkind : node'.item = node.item := Except.ok.inj hitem
      cases node with
      | file content =>
        rw [Node.item_eq_file.mp hkind]
        exact .inl ⟨_, rfl, rfl⟩
      | directory entries =>
        obtain ⟨later, rfl⟩ := Node.item_eq_directory.mp hkind
        refine .inr ⟨entries, later, rfl, rfl, ?_⟩
        obtain ⟨place, hwalk, hplace⟩ := node_eq_directory hbefore
        obtain ⟨place', hwalk', hplace'⟩ := node_eq_directory hafter
        rw [h.origin_eq, (h.walk_eq hp (h.itemAt?_origin p)).1, hwalk, Except.ok.injEq] at hwalk'
        exact h.listing_eq hplace (hwalk' ▸ hplace')

/-- A file is written at the same place when the way to its directory passes no output. -/
theorem filePlace_eq (h : SameBut outputs before after) {p : Path}
    (hp : ∀ step ∈ (steps p).dropLast, StepApart outputs step) :
    after.filePlace p = before.filePlace p := by
  have hnew : after.newPlace p = before.newPlace p := by
    rw [newPlace_eq, newPlace_eq]
    cases hsteps : (steps p).reverse with
    | nil => rfl
    | cons last front =>
      have hfront : (steps p).dropLast = front.reverse := by
        rw [← List.reverse_reverse (steps p), hsteps, List.reverse_cons, List.dropLast_concat]
      rw [hfront] at hp
      obtain ⟨hwalk, hplaces⟩ := h.walk_eq hp (h.itemAt?_origin p)
      simp only [h.origin_eq, hwalk]
      cases hplace : before.walk (before.origin p) front.reverse with
      | error error => rfl
      | ok place => simp only [hplaces place hplace]
  rw [FileSystem.filePlace_eq, FileSystem.filePlace_eq, hnew]
  simp only [h.directory_iff]

end SameBut

end FileSystem

end SourceServer
