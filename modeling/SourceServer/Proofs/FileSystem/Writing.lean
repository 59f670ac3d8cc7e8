import SourceServer.Proofs.FileSystem.Places

/-!
# What writing a file changes

Writing changes one place: a file stands there afterwards, whatever stood there before, and at every
other place the same item stands as before. In listings only the name of that file can be new.

- `FileSystem.Wrote`: a file system with one file written.
- `FileSystem.wrote_of_write`: writing does this.
- `FileSystem.read_of_write`: what was written is read.
-/

namespace SourceServer

/-- The names that a directory lists, with their kinds. -/
def listing (entries : List (String × Node)) : List (String × Bool) :=
  entries.map fun entry => (entry.1, entry.2.isDirectory)

/-- A listing without one name. -/
def listingWithout (name : String) (entries : List (String × Node)) : List (String × Bool) :=
  (listing entries).filter fun entry => entry.1 != name

namespace Node

/-! ## One entry replaced -/

theorem lookup_cons_eq_ite (name other : String) (node : Node) (rest : List (String × Node)) :
    ((other, node) :: rest).lookup name = if name = other then some node else rest.lookup name := by
  rw [List.lookup_cons]
  by_cases h : name = other
  · simp [h]
  · rw [beq_false_of_ne h, if_neg h]

theorem lookup_setEntry (name other : String) (node : Node) (entries : List (String × Node)) :
    (setEntry name node entries).lookup other
      = if other = name then some node else entries.lookup other := by
  induction entries with
  | nil => rw [setEntry, lookup_cons_eq_ite]
  | cons entry rest ih =>
    obtain ⟨first, old⟩ := entry
    rw [setEntry]
    by_cases hfirst : first = name
    · subst hfirst
      rw [if_pos rfl, lookup_cons_eq_ite, lookup_cons_eq_ite]
      split_ifs <;> rfl
    · rw [if_neg hfirst, lookup_cons_eq_ite, lookup_cons_eq_ite, ih]
      by_cases h : other = first
      · subst h
        simp [hfirst]
      · simp [h]

/-- Replacing an entry by one of its kind leaves the listing as it is. -/
theorem listing_setEntry {name : String} {node old : Node} {entries : List (String × Node)}
    (hold : entries.lookup name = some old) (hkind : node.isDirectory = old.isDirectory) :
    listing (setEntry name node entries) = listing entries := by
  induction entries with
  | nil => simp at hold
  | cons entry rest ih =>
    obtain ⟨first, other⟩ := entry
    rw [setEntry]
    by_cases hfirst : first = name
    · subst hfirst
      have hother : other = old := by simpa using hold
      rw [if_pos rfl]
      simp [listing, hkind, hother]
    · -- the entry stands further behind
      rw [lookup_cons_eq_ite, if_neg (Ne.symm hfirst)] at hold
      rw [if_neg hfirst]
      simpa [listing] using ih hold

/-- Whatever an entry is replaced by, the listing without its name stays. -/
theorem listingWithout_setEntry (name : String) (node : Node) (entries : List (String × Node)) :
    listingWithout name (setEntry name node entries) = listingWithout name entries := by
  induction entries with
  | nil => simp [setEntry, listingWithout, listing]
  | cons entry rest ih =>
    obtain ⟨first, other⟩ := entry
    rw [setEntry]
    by_cases hfirst : first = name
    · subst hfirst
      rw [if_pos rfl]
      simp [listingWithout, listing]
    · rw [if_neg hfirst]
      simpa [listingWithout, listing, List.filter_cons, hfirst] using ih

/-! ## One node of a tree replaced -/

theorem put_name (entries : List (String × Node)) (name : String) (new : Node) :
    (Node.directory entries).put [name] new = .directory (setEntry name new entries) := by
  rw [put]
  cases entries.lookup name <;> simp [put]

theorem put_below {entries : List (String × Node)} {name : String} {child : Node}
    (h : entries.lookup name = some child) (rest : List String) (new : Node) :
    (Node.directory entries).put (name :: rest) new
      = .directory (setEntry name (child.put rest new) entries) := by
  rw [put, h]

theorem isDirectory_put (node : Node) {place : List String} (h : place ≠ []) (new : Node) :
    (node.put place new).isDirectory = node.isDirectory := by
  cases place with
  | nil => exact absurd rfl h
  | cons name rest =>
    cases node with
    | file content => rfl
    | directory entries =>
      rw [put]
      cases entries.lookup name with
      | some child => rfl
      | none => by_cases hrest : rest = [] <;> simp [hrest, isDirectory]

/-- A directory at the top leads to a directory one step down. -/
theorem child_of_find? {node : Node} {name : String} {rest : List String} {found : Node}
    (h : node.find? (name :: rest) = some found) :
    ∃ entries child, node = .directory entries ∧ entries.lookup name = some child
      ∧ child.find? rest = some found := by
  cases node with
  | file content => simp at h
  | directory entries =>
    rw [find?_directory_cons, Option.bind_eq_some_iff] at h
    obtain ⟨child, hlookup, hfound⟩ := h
    exact ⟨entries, child, rfl, hlookup, hfound⟩

theorem itemAt?_directory_cons (entries : List (String × Node)) (name : String)
    (rest : List String) :
    (Node.directory entries).itemAt? (name :: rest)
      = (entries.lookup name).bind fun child => child.itemAt? rest := by
  rw [itemAt?, find?_directory_cons]
  cases entries.lookup name <;> rfl

theorem itemAt?_file_cons (content : ByteArray) (name : String) (rest : List String) :
    (Node.file content).itemAt? (name :: rest) = none := rfl

/-- A file put into a directory: it stands at its place, and nothing else has changed. The induction
follows the way down to that directory. -/
theorem itemAt?_put {root : Node} {above : List String} {entries : List (String × Node)}
    {name : String} (content : ByteArray) (habove : root.find? above = some (.directory entries))
    (hnew : root.itemAt? (above ++ [name]) ≠ some .directory) (place : List String) :
    (root.put (above ++ [name]) (.file content)).itemAt? place
      = if place = above ++ [name] then some (.file content) else root.itemAt? place := by
  induction above generalizing root place with
  | nil =>
    rw [find?_nil, Option.some.injEq] at habove
    subst habove
    rw [List.nil_append, put_name]
    cases place with
    | nil => rfl
    | cons first rest =>
      rw [itemAt?_directory_cons, itemAt?_directory_cons, lookup_setEntry]
      by_cases hfirst : first = name
      · subst hfirst
        cases rest with
        | nil => rw [if_pos rfl, if_pos rfl]; rfl
        | cons second rest =>
          -- what stood here was no directory, so nothing stood below it
          rw [if_pos rfl, if_neg (by simp), Option.bind_some, itemAt?_file_cons]
          rw [List.nil_append, itemAt?_directory_cons] at hnew
          cases hold : entries.lookup first with
          | none => rfl
          | some old =>
            cases old with
            | file content => rfl
            | directory inside => simp [hold, itemAt?, item] at hnew
      · rw [if_neg hfirst, if_neg (by simp [hfirst])]
  | cons first above ih =>
    obtain ⟨outer, child, rfl, hchild, hbelow⟩ := child_of_find? habove
    rw [List.cons_append, put_below hchild]
    cases place with
    | nil => rfl
    | cons step rest =>
      rw [itemAt?_directory_cons, itemAt?_directory_cons, lookup_setEntry]
      by_cases hstep : step = first
      · subst hstep
        rw [List.cons_append, itemAt?_directory_cons, hchild, Option.bind_some] at hnew
        rw [if_pos rfl, hchild, Option.bind_some, Option.bind_some, ih hbelow hnew rest]
        simp
      · rw [if_neg hstep, if_neg (by simp [hstep])]

/-- A file put into a directory: every directory lists what it listed, but for that name. -/
theorem listing_put {root : Node} {above : List String} {entries : List (String × Node)}
    {name : String} (content : ByteArray) (habove : root.find? above = some (.directory entries))
    (hnew : root.itemAt? (above ++ [name]) ≠ some .directory) {place : List String}
    {inside : List (String × Node)} (hplace : root.find? place = some (.directory inside)) :
    ∃ after, (root.put (above ++ [name]) (.file content)).find? place = some (.directory after)
      ∧ listingWithout name after = listingWithout name inside := by
  induction above generalizing root place with
  | nil =>
    rw [find?_nil, Option.some.injEq] at habove
    subst habove
    rw [List.nil_append, itemAt?_directory_cons] at hnew
    rw [List.nil_append, put_name]
    cases place with
    | nil =>
      rw [find?_nil, Option.some.injEq, Node.directory.injEq] at hplace
      subst hplace
      exact ⟨_, find?_nil _, listingWithout_setEntry name _ entries⟩
    | cons first rest =>
      obtain ⟨_, child, hentries, hchild, hfound⟩ := child_of_find? hplace
      cases hentries
      rw [find?_directory_cons, lookup_setEntry]
      by_cases hfirst : first = name
      · -- below the name stands a directory, so the name is one itself
        subst hfirst
        rw [hchild, Option.bind_some] at hnew
        cases child with
        | file content => cases rest <;> simp at hfound
        | directory entries => exact absurd rfl hnew
      · rw [if_neg hfirst, hchild, Option.bind_some]
        exact ⟨inside, hfound, rfl⟩
  | cons first above ih =>
    obtain ⟨outer, child, rfl, hchild, hbelow⟩ := child_of_find? habove
    rw [List.cons_append, itemAt?_directory_cons, hchild, Option.bind_some] at hnew
    rw [List.cons_append, put_below hchild]
    cases place with
    | nil =>
      rw [find?_nil, Option.some.injEq, Node.directory.injEq] at hplace
      subst hplace
      -- the top lists the same, for what stands one step down is of the same kind as before
      have hkind := isDirectory_put child (List.append_ne_nil_of_right_ne_nil above
        (List.cons_ne_nil name [])) (.file content)
      refine ⟨_, find?_nil _, ?_⟩
      rw [listingWithout, listing_setEntry hchild hkind, listingWithout]
    | cons step rest =>
      obtain ⟨_, node, hentries, hnode, hfound⟩ := child_of_find? hplace
      cases hentries
      rw [find?_directory_cons, lookup_setEntry]
      by_cases hstep : step = first
      · subst hstep
        rw [hchild, Option.some.injEq] at hnode
        subst hnode
        rw [if_pos rfl, Option.bind_some]
        exact ih hbelow hnew hfound
      · rw [if_neg hstep, hnode, Option.bind_some]
        exact ⟨inside, hfound, rfl⟩

end Node

namespace FileSystem

/-- `after` is `before` with a file of this content written at one place. -/
structure Wrote (before after : FileSystem) (place : List String) (content : ByteArray) :
    Prop where
  current_eq : after.current = before.current
  itemAt?_eq : ∀ other, after.itemAt? other
    = if other = place then some (.file content) else before.itemAt? other
  old_item : before.itemAt? place ≠ some .directory
  listing_eq : ∀ {other : List String} {entries : List (String × Node)} {name : String},
    place.getLast? = some name → before.root.find? other = some (.directory entries) →
    ∃ later, after.root.find? other = some (.directory later)
      ∧ listingWithout name later = listingWithout name entries

theorem write_eq_ok {fs after : FileSystem} {p : Path} {content : ByteArray} :
    fs.write p content = .ok after ↔
      ∃ place, fs.filePlace p = .ok place
        ∧ after = { fs with root := fs.root.put place (.file content) } := by
  rw [write]
  cases fs.filePlace p <;> simp [eq_comm]

/-- Writing changes the item at one place, and one name in the listings. -/
theorem wrote_of_write {fs after : FileSystem} {p : Path} {content : ByteArray}
    {place : List String} (hplace : fs.filePlace p = .ok place)
    (h : fs.write p content = .ok after) : fs.Wrote after place content := by
  obtain ⟨_, hfile, rfl⟩ := write_eq_ok.mp h
  obtain rfl : place = _ := by simpa [hplace] using hfile
  obtain ⟨above, name, rfl, hopens⟩ := filePlace_eq_ok hplace
  obtain ⟨entries, habove⟩ := Node.itemAt?_eq_directory.mp hopens.above_directory
  refine ⟨rfl, Node.itemAt?_put content habove hopens.not_directory, hopens.not_directory, ?_⟩
  intro other inside last hlast hother
  obtain rfl : name = last := by simpa using hlast
  exact Node.listing_put content habove hopens.not_directory hother

namespace Wrote

variable {before after : FileSystem} {place : List String} {content : ByteArray}

theorem itemAt?_self (h : before.Wrote after place content) :
    after.itemAt? place = some (.file content) := by
  rw [h.itemAt?_eq, if_pos rfl]

theorem itemAt?_other (h : before.Wrote after place content) {other : List String}
    (hne : other ≠ place) : after.itemAt? other = before.itemAt? other := by
  rw [h.itemAt?_eq, if_neg hne]

/-- Directories stay where they are. -/
theorem itemAt?_directory (h : before.Wrote after place content) {other : List String}
    (hother : before.itemAt? other = some .directory) : after.itemAt? other = some .directory := by
  rw [h.itemAt?_other, hother]
  rintro rfl
  exact h.old_item hother

/-- Nothing disappears. -/
theorem itemAt?_ne_none (h : before.Wrote after place content) {other : List String}
    (hother : before.itemAt? other ≠ none) : after.itemAt? other ≠ none := by
  rw [h.itemAt?_eq]
  split_ifs
  · simp
  · exact hother

/-- A walk that succeeded leads to the same place afterwards. -/
theorem walk_of_ok (h : before.Wrote after place content) {start target : List String}
    {names : List String} (hwalk : before.walk start names = .ok target) :
    after.walk start names = .ok target := by
  induction names generalizing start with
  | nil => rw [walk_nil] at hwalk ⊢; exact hwalk
  | cons step rest ih =>
    rw [walk_cons] at hwalk
    cases hstart : before.itemAt? start with
    | none => simp [hstart] at hwalk
    | some item =>
      cases item with
      | file content => simp [hstart] at hwalk
      | directory =>
        rw [walk_cons, h.itemAt?_directory hstart]
        simp only [hstart] at hwalk ⊢
        -- the walk asks whether directories and entries are there, and these stay
        split_ifs at hwalk with hhere hup hlong hentry
        · rw [if_pos hhere]
          exact ih hwalk
        · rw [if_neg hhere, if_pos hup]
          exact ih hwalk
        · rw [if_neg hhere, if_neg hup, if_neg hlong, if_neg (h.itemAt?_ne_none hentry)]
          exact ih hwalk

/-- A walk that succeeds afterwards, and does not end at the new file, succeeded before: only its
last step could have entered that file. -/
theorem walk_of_ok_after (h : before.Wrote after place content) {start target : List String}
    {names : List String} (hwalk : after.walk start names = .ok target) (hne : target ≠ place) :
    before.walk start names = .ok target := by
  induction names generalizing start with
  | nil => rw [walk_nil] at hwalk ⊢; exact hwalk
  | cons step rest ih =>
    rw [walk_cons] at hwalk
    have hstart : after.itemAt? start = some .directory := by
      cases hitem : after.itemAt? start with
      | none => simp [hitem] at hwalk
      | some item =>
        cases item with
        | file content => simp [hitem] at hwalk
        | directory => rfl
    have hbefore : before.itemAt? start = some .directory := by
      rw [← hstart, h.itemAt?_other]
      rintro rfl
      simp [h.itemAt?_self] at hstart
    rw [walk_cons, hbefore]
    simp only [hstart] at hwalk ⊢
    split_ifs at hwalk with hhere hup hlong hentry
    · rw [if_pos hhere]
      exact ih hwalk
    · rw [if_neg hhere, if_pos hup]
      exact ih hwalk
    · have hnext : start ++ [step] ≠ place := by
        -- no walk goes on from a file
        rintro rfl
        cases rest with
        | nil =>
          rw [walk_nil, Except.ok.injEq] at hwalk
          exact hne hwalk.symm
        | cons next rest => simp [walk_cons, h.itemAt?_self] at hwalk
      rw [h.itemAt?_other hnext] at hentry
      rw [if_neg hhere, if_neg hup, if_neg hlong, if_neg hentry]
      exact ih hwalk

end Wrote

theorem origin_eq_of_current_eq {fs gs : FileSystem} (h : gs.current = fs.current) (p : Path) :
    gs.origin p = fs.origin p := by
  rw [origin, origin, h]

/-- What was written to a path is read from it. -/
theorem read_of_write {fs after : FileSystem} {p : Path} {content : ByteArray}
    (h : fs.write p content = .ok after) : after.read p = .ok content := by
  obtain ⟨place, hplace, -⟩ := write_eq_ok.mp h
  have hwrote := wrote_of_write hplace h
  obtain ⟨above, name, rfl, hopens⟩ := filePlace_eq_ok hplace
  have hwalk : after.walk (after.origin p) (steps p) = .ok (above ++ [name]) := by
    rw [hopens.steps_eq, walk_append, origin_eq_of_current_eq hwrote.current_eq,
      hwrote.walk_of_ok hopens.walk_eq]
    exact walk_name (hwrote.itemAt?_directory hopens.above_directory) hopens.not_here
      hopens.not_up hopens.not_long (by simp [hwrote.itemAt?_self])
  rw [read_eq, item_eq, hopens.usable, hwalk]
  simp [hwrote.itemAt?_self, hopens.not_slashed]

/-- A path that is read afterwards either names the new file or is read as before. -/
theorem Wrote.read_of_read_after {before after : FileSystem} {place : List String}
    {content other : ByteArray} {p : Path} (h : before.Wrote after place content)
    (hread : after.read p = .ok other) :
    after.walk (after.origin p) (steps p) = .ok place ∨ before.read p = .ok other := by
  rw [read_eq, item_eq] at hread ⊢
  cases husable : pathError? p with
  | some error => simp [husable] at hread
  | none =>
    cases hwalk : after.walk (after.origin p) (steps p) with
    | error error => simp [husable, hwalk] at hread
    | ok target =>
      by_cases htarget : target = place
      · exact .inl (by rw [htarget])
      · right
        have hbefore := h.walk_of_ok_after hwalk htarget
        rw [origin_eq_of_current_eq h.current_eq] at hbefore
        simp only [husable, hwalk, h.itemAt?_other htarget] at hread
        simpa only [hbefore] using hread

end FileSystem

end SourceServer
