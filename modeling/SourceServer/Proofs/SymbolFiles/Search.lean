import SourceServer.Proofs.SymbolFiles.Share

/-!
# The steps of a search

A search lists one directory after another and keeps what it will have found in the end: what it has
found so far, and what will be taken below the directories that are still to be listed. Each listing
lowers the number of entries that are left, so every search ends; and the order of a listing only
permutes what is found.

- `SymbolFiles.Search.Step`, `SymbolFiles.Search.Run`: directories listed in any order.
- `SymbolFiles.Search.Sound`: what a search keeps.
- `SymbolFiles.Search.sound_step`, `SymbolFiles.Search.sound_run`: it is kept.
- `SymbolFiles.Search.exists_run`: a search is carried out as one of the runs.
-/

namespace SourceServer

namespace SymbolFiles

/-! ## Directories listed in any order -/

variable {fs : FileSystem} {directory : Path} {entries : List (String × Node)}

namespace Search

/-- The next directory listed, its entries in any order. -/
def Step (fs : FileSystem) (s t : Search) : Prop :=
  ∃ directory rest entries listed, s.pending = directory :: rest
    ∧ fs.list directory = .ok entries ∧ listed.Perm entries
    ∧ t = visitAll fs directory listed { s with pending := rest }

/-- Directories listed one after another. -/
inductive Run (fs : FileSystem) : Search → Nat → Search → Prop
  | nil {s : Search} : Run fs s 0 s
  | cons {s t u : Search} {steps : Nat} (hstep : Step fs s t) (hrun : Run fs t steps u) :
    Run fs s (steps + 1) u

/-- The number of entries below a directory. -/
def entriesBelow (fs : FileSystem) (directory : Path) : Nat :=
  match fs.list directory with
  | .error _ => 0
  | .ok entries => (Node.entryPaths entries).length

/-- How many directories a search can still list: those that it will, and what is below them. -/
def weight (fs : FileSystem) (s : Search) : Nat :=
  (s.pending.map fun directory => 1 + entriesBelow fs directory).sum

/-- What a search keeps: the directories that are still to be listed can be, what was found and
what will be found make up what is taken below the first directory, and the steps so far are made up
for by a lower weight. -/
structure Sound (fs : FileSystem) (directory : Path) (steps : Nat) (s : Search) : Prop where
  listable : ∀ next ∈ s.pending, fs.isDirectory next = true
  complete : (s.found ++ s.pending.flatMap (taken fs)).Perm (taken fs directory)
  bounded : steps + s.weight fs ≤ (initial directory).weight fs

/-! ## What a listing does -/

/-- The entries of a listing one after another. -/
theorem foldl_visit (paths : List Path) (s : Search) :
    paths.foldl (visit fs) s
      = { pending := (paths.filter fs.isDirectory).reverse ++ s.pending
          found := s.found ++ paths.filter fun p => !fs.isDirectory p && isSymbolFile p } := by
  induction paths generalizing s with
  | nil => simp
  | cons p rest ih =>
    rw [List.foldl_cons, ih, visit]
    cases hdirectory : fs.isDirectory p with
    | true => simp [hdirectory]
    | false => cases hsymbol : isSymbolFile p <;> simp [hdirectory, hsymbol]

theorem visitAll_eq (listed : List (String × Node)) (s : Search) :
    visitAll fs directory listed s
      = { pending := ((listedPaths directory listed).filter fs.isDirectory).reverse ++ s.pending
          found := s.found
            ++ (listedPaths directory listed).filter fun p => !fs.isDirectory p && isSymbolFile p } :=
  foldl_visit _ s

/-- What is found at once and what is found later make up the shares of the listed paths. -/
theorem shares_perm (fs : FileSystem) (paths : List Path) :
    (paths.filter (fun p => !fs.isDirectory p && isSymbolFile p)
      ++ (paths.filter fs.isDirectory).flatMap (taken fs)).Perm (paths.flatMap (share fs)) := by
  induction paths with
  | nil => exact .refl _
  | cons p rest ih =>
    rw [List.flatMap_cons, share]
    cases hdirectory : fs.isDirectory p with
    | true =>
      rw [List.filter_cons_of_neg (by simp [hdirectory]), List.filter_cons_of_pos hdirectory,
        List.flatMap_cons, if_pos rfl]
      -- what is below `p` goes in front
      refine (List.perm_append_comm_assoc _ _ _).trans (ih.append_left _)
    | false =>
      cases hsymbol : isSymbolFile p with
      | true =>
        rw [List.filter_cons_of_pos (by simp [hdirectory, hsymbol]),
          List.filter_cons_of_neg (by simp [hdirectory])]
        exact ih.cons p
      | false =>
        rw [List.filter_cons_of_neg (by simp [hsymbol]),
          List.filter_cons_of_neg (by simp [hdirectory])]
        exact ih

/-- An entry that is seen to be a directory has as many entries below it as in the tree. -/
theorem entriesBelow_entry (h : fs.ProperlyNamed) (hlist : fs.list directory = .ok entries)
    {entry : String × Node} (hentry : entry ∈ entries)
    (hdirectory : fs.isDirectory (directory.join ⟨entry.1⟩) = true) :
    entriesBelow fs (directory.join ⟨entry.1⟩) = entry.2.paths.length := by
  have hholds := holds_entry h hlist hentry
  have hseen := FileSystem.isDirectory_below h (List.cons_ne_nil entry.1 []) hholds
  rw [Path.below_cons, Path.below_nil, hdirectory, eq_comm, Bool.and_eq_true,
    decide_eq_true_eq] at hseen
  cases hnode : entry.2 with
  | file content => simp [hnode, Node.isDirectory] at hseen
  | directory inside =>
    rw [hnode] at hholds
    have hbelow := FileSystem.list_below h (List.cons_ne_nil entry.1 []) hholds hseen.2
    rw [Path.below_cons, Path.below_nil] at hbelow
    rw [entriesBelow, hbelow, Node.paths_directory]

/-- The directories in a listing weigh less than the directory that was listed. -/
theorem weight_listed (h : fs.ProperlyNamed) (hlist : fs.list directory = .ok entries) :
    (((listedPaths directory entries).filter fs.isDirectory).map fun next =>
      1 + entriesBelow fs next).sum ≤ entriesBelow fs directory := by
  have hentry : ∀ entry ∈ entries, fs.isDirectory (directory.join ⟨entry.1⟩) = true →
      entriesBelow fs (directory.join ⟨entry.1⟩) = entry.2.paths.length :=
    fun _ hmem hdirectory => entriesBelow_entry h hlist hmem hdirectory
  rw [entriesBelow, hlist]
  dsimp only
  rw [Node.entryPaths_eq_flatMap, listedPaths]
  clear hlist
  induction entries with
  | nil => exact Nat.le_refl _
  | cons entry rest ih =>
    rw [List.forall_mem_cons] at hentry
    have hrest := ih hentry.2
    rw [List.map_cons, List.flatMap_cons, List.length_append, List.length_cons, List.length_map]
    cases hdirectory : fs.isDirectory (directory.join ⟨entry.1⟩) with
    | true =>
      rw [List.filter_cons_of_pos hdirectory, List.map_cons, List.sum_cons,
        hentry.1 hdirectory]
      omega
    | false =>
      rw [List.filter_cons_of_neg (by simp [hdirectory])]
      omega

/-! ## Steps and runs -/

theorem sound_initial (hlist : fs.list directory = .ok entries) :
    Sound fs directory 0 (initial directory) where
  listable next hnext := by
    rw [List.mem_singleton.mp hnext]
    exact FileSystem.isDirectory_eq_true_iff.mpr ⟨entries, hlist⟩
  complete := by simp [initial]
  bounded := Nat.le_of_eq (Nat.zero_add _)

/-- Every listing, in whatever order, keeps a search sound. -/
theorem sound_step (h : fs.ProperlyNamed) {steps : Nat} {s t : Search}
    (hs : Sound fs directory steps s) (hstep : Step fs s t) : Sound fs directory (steps + 1) t := by
  obtain ⟨next, rest, entries, listed, hpending, hlist, hperm, rfl⟩ := hstep
  have hpaths : (listedPaths next listed).Perm (listedPaths next entries) := hperm.map _
  rw [visitAll_eq]
  refine { listable := ?_, complete := ?_, bounded := ?_ }
  · intro later hlater
    rcases List.mem_append.mp hlater with hnew | hold
    · exact (List.mem_filter.mp (List.mem_reverse.mp hnew)).2
    · exact hs.listable later (hpending ▸ List.mem_cons_of_mem next hold)
  · -- the listed paths share what was taken below the directory
    refine .trans ?_ hs.complete
    rw [hpending, List.flatMap_append, List.flatMap_cons, taken_eq_flatMap h hlist,
      List.append_assoc, ← List.append_assoc (List.filter _ _)]
    refine .append_left _ (.append_right _ ?_)
    have hreverse : (((listedPaths next listed).filter fs.isDirectory).reverse.flatMap
        (taken fs)).Perm (((listedPaths next listed).filter fs.isDirectory).flatMap (taken fs)) :=
      (List.reverse_perm _).flatMap_right _
    exact (hreverse.append_left _).trans ((shares_perm fs _).trans (hpaths.flatMap_right _))
  · have hlisted := weight_listed h hlist
    have hsame : (((listedPaths next listed).filter fs.isDirectory).reverse.map fun later =>
        1 + entriesBelow fs later).sum
        = (((listedPaths next entries).filter fs.isDirectory).map fun later =>
          1 + entriesBelow fs later).sum :=
      (((List.reverse_perm _).trans (hpaths.filter _)).map _).sum_nat
    have hbounded := hs.bounded
    rw [weight, hpending, List.map_cons, List.sum_cons] at hbounded
    rw [weight]
    dsimp only
    rw [List.map_append, List.sum_append, hsame]
    omega

/-- Every run keeps a search sound. -/
theorem sound_run (h : fs.ProperlyNamed) {before steps : Nat} {s t : Search}
    (hs : Sound fs directory before s) (hrun : Run fs s steps t) :
    Sound fs directory (before + steps) t := by
  induction hrun generalizing before with
  | nil => exact hs
  | cons hstep _ ih =>
    have hnext := ih (sound_step h hs hstep)
    rwa [Nat.add_right_comm] at hnext

/-- A sound search goes on until no directory is left. -/
theorem exists_step {steps : Nat} {s : Search} (hs : Sound fs directory steps s)
    (hpending : s.pending ≠ []) : ∃ t, s.advance? fs = some (.ok t) ∧ Step fs s t := by
  cases hcases : s.pending with
  | nil => exact absurd hcases hpending
  | cons next rest =>
    obtain ⟨entries, hlist⟩ := FileSystem.isDirectory_eq_true_iff.mp
      (hs.listable next (hcases ▸ List.mem_cons_self))
    refine ⟨visitAll fs next entries { s with pending := rest }, ?_, next, rest, entries, entries,
      hcases, hlist, .refl _, rfl⟩
    rw [advance?, hcases]
    simp only [hlist]

/-- A sound search is carried out as one of the runs, until the fuel is used up or no directory is
left. -/
theorem exists_run (h : fs.ProperlyNamed) (fuel : Nat) {before : Nat} {s : Search}
    (hs : Sound fs directory before s) :
    ∃ steps t, s.runFor fs fuel = .ok t ∧ Run fs s steps t ∧ (steps = fuel ∨ t.pending = []) := by
  induction fuel generalizing before s with
  | zero => exact ⟨0, s, rfl, .nil, .inl rfl⟩
  | succ fuel ih =>
    rw [runFor]
    by_cases hpending : s.pending = []
    · have hnone : s.advance? fs = none := by rw [advance?, hpending]
      rw [hnone]
      exact ⟨0, s, rfl, .nil, .inr hpending⟩
    · obtain ⟨next, hnext, hstep⟩ := exists_step hs hpending
      obtain ⟨steps, t, hrunFor, hrun, hend⟩ := ih (sound_step h hs hstep)
      rw [hnext]
      exact ⟨steps + 1, t, hrunFor, .cons hstep hrun, hend.imp_left (congrArg (· + 1))⟩

/-- Only a search without pending directories weighs nothing. -/
theorem pending_eq_nil_of_weight {s : Search} (h : s.weight fs = 0) : s.pending = [] := by
  cases hpending : s.pending with
  | nil => rfl
  | cons next rest =>
    rw [weight, hpending, List.map_cons, List.sum_cons] at h
    omega

/-- The first directory weighs no more than the whole tree. -/
theorem weight_initial (hlist : fs.list directory = .ok entries) :
    (initial directory).weight fs = (Node.entryPaths entries).length + 1
      ∧ (Node.entryPaths entries).length ≤ fs.root.paths.length := by
  obtain ⟨place, -, hplace, -⟩ := FileSystem.place_of_list hlist
  have hle := Node.length_paths_le hplace
  rw [Node.paths_directory] at hle
  refine ⟨?_, hle⟩
  simp only [weight, initial, List.map_cons, List.map_nil, List.sum_cons, List.sum_nil,
    entriesBelow, hlist]
  omega

end Search

end SymbolFiles

end SourceServer
