import Mathlib.Data.List.Nodup
import SourceServer.Proofs.Batch.InTurn
import SourceServer.Proofs.FileSystem.Leading
import SourceServer.Proofs.Link.Effect

/-!
# Careful batches

A careful worker changes nothing when a job fails, and writes an index of its symbol file and nothing
else when a job succeeds. The tasks that link are careful. Whatever careful workers do at once, and
in whatever order they are done: when the indexes of the symbol files belong at different places, an
index stands beside each symbol file whose job succeeded, and where a job failed all is as it was.

- `Batch.Careful`, `Batch.task_careful`: careful workers.
- `Batch.HoldsIndex`: an index stands beside a symbol file.
- `Batch.SeparateIndexes`: symbol files whose indexes belong at different places.
- `Batch.Kept`, `Batch.kept_step`, `Batch.kept_run`: what a batch keeps.
-/

namespace SourceServer

namespace Batch

variable {remote : Remote} {revision : String} {options : LinkOptions}

/-- A worker that changes nothing when a job fails, and otherwise writes an index of some files for
its symbol file and nothing else. -/
def Careful (remote : Remote) (revision : String) (options : LinkOptions) (worker : Worker) : Prop :=
  ∀ fs job,
    match (worker fs job).value with
    | (after, .error _) => after = fs
    | (after, .ok _) =>
      ∃ files now text, Index.render (indexContext remote revision files options now) = .ok text
        ∧ fs.write (indexPath job.pdb) text.toUTF8 = .ok after

/-- A task links, whatever the runtime says when it breaks down. -/
theorem task_careful (remote : Remote) (revision : String) (options : LinkOptions)
    (now : Timestamp) (panic : Job → String) :
    Careful remote revision options (task remote revision options now panic) := by
  intro fs job
  rw [value_task, linked, ending, link_value]
  cases hplan : (linkPlan fs job remote revision options now).result with
  | error failure => rfl
  | ok plan =>
    obtain ⟨files, mismatches, -, hrender, houtcome⟩ := linkPlan_eq_ok hplan
    simp only [houtcome]
    cases hwrite : fs.write (indexPath job.pdb) plan.text.toUTF8 with
    | error error => rfl
    | ok after => exact ⟨files, now, plan.text, hrender, hwrite⟩

/-- The two ways in which a careful worker does a job. -/
theorem Careful.cases {worker : Worker} (h : Careful remote revision options worker)
    (fs : FileSystem) (job : Job) :
    (∃ text, (worker fs job).value = (fs, .error text))
      ∨ ∃ after outcome files now text, (worker fs job).value = (after, .ok outcome)
        ∧ Index.render (indexContext remote revision files options now) = .ok text
        ∧ fs.write (indexPath job.pdb) text.toUTF8 = .ok after := by
  have hcareful := h fs job
  cases hvalue : (worker fs job).value with
  | mk after ending =>
    rw [hvalue] at hcareful
    cases ending with
    | error text =>
      dsimp only at hcareful
      exact .inl ⟨text, by rw [hcareful]⟩
    | ok outcome =>
      obtain ⟨files, now, text, hrender, hwrite⟩ := hcareful
      exact .inr ⟨after, outcome, files, now, text, rfl, hrender, hwrite⟩

/-- An index of some files stands beside a symbol file. -/
def HoldsIndex (remote : Remote) (revision : String) (options : LinkOptions) (fs : FileSystem)
    (pdb : Path) : Prop :=
  ∃ files now text, Index.render (indexContext remote revision files options now) = .ok text
    ∧ fs.read (indexPath pdb) = .ok text.toUTF8

/-- The indexes of some symbol files belong at different places, in directories that exist. -/
structure SeparateIndexes (fs : FileSystem) (pdbs : List Path) : Prop where
  leads : ∀ pdb ∈ pdbs, ∃ above name, fs.LeadsTo (indexPath pdb) above name
  inj : ∀ pdb ∈ pdbs, ∀ other ∈ pdbs, ∀ above name, fs.LeadsTo (indexPath pdb) above name →
    fs.LeadsTo (indexPath other) above name → pdb = other

/-- What a batch keeps: the paths of indexes lead where they led, an index stands beside each symbol
file whose job has succeeded, and beside any other one stands what stood there before. -/
structure Kept (remote : Remote) (revision : String) (options : LinkOptions) (fs : FileSystem)
    (pdbs : List Path) (moves : List Move) (s : State) : Prop where
  leads : ∀ pdb ∈ pdbs, ∀ above name, fs.LeadsTo (indexPath pdb) above name →
    s.fileSystem.LeadsTo (indexPath pdb) above name
  written : ∀ pdb ∈ pdbs, ∀ outcome, (Job.ofPdb pdb, .ok outcome) ∈ Move.ends moves →
    HoldsIndex remote revision options s.fileSystem pdb
  untouched : ∀ pdb ∈ pdbs, (∀ outcome, (Job.ofPdb pdb, .ok outcome) ∉ Move.ends moves) →
    s.fileSystem.item (indexPath pdb) = fs.item (indexPath pdb)

variable {fs : FileSystem} {pdbs : List Path} {limit : Nat} {moves : List Move} {s next : State}

/-- Jobs in flight are jobs of the batch. -/
theorem Accounts.mem_of_inFlight {jobs : List Job} (h : Accounts limit jobs moves s) {job : Job}
    (hjob : job ∈ s.inFlight) : job ∈ jobs := by
  rw [← h.pending]
  exact List.mem_append_left _ (h.taken.subset (List.mem_append_left _ hjob))

theorem kept_initial (fs : FileSystem) (pdbs : List Path) (jobs : List Job) :
    Kept remote revision options fs pdbs [] (State.initial fs jobs) where
  leads _ _ _ _ hleads := hleads
  written _ _ _ hended := absurd hended List.not_mem_nil
  untouched _ _ _ := rfl

/-- A failure that leaves the file system as it was keeps this. -/
theorem Kept.failed (h : Kept remote revision options fs pdbs moves s) (job : Job) (text : String)
    (hsame : next.fileSystem = s.fileSystem) :
    Kept remote revision options fs pdbs (moves ++ [.ended job (.error text)]) next := by
  have hmem : ∀ pdb outcome,
      (Job.ofPdb pdb, .ok outcome) ∈ Move.ends (moves ++ [.ended job (.error text)])
        ↔ (Job.ofPdb pdb, .ok outcome) ∈ Move.ends moves := by
    intro pdb outcome
    rw [Move.ends_append_ended, List.mem_append, List.mem_singleton]
    exact or_iff_left nofun
  refine { leads := ?_, written := ?_, untouched := ?_ }
  · rw [hsame]
    exact h.leads
  · intro pdb hpdb outcome hended
    rw [hsame]
    exact h.written pdb hpdb outcome ((hmem pdb outcome).mp hended)
  · intro pdb hpdb hnone
    rw [hsame]
    exact h.untouched pdb hpdb fun outcome hended => hnone outcome ((hmem pdb outcome).mpr hended)

/-- An index that is written keeps this: it changes the place of one index. -/
theorem Kept.succeeded (hseparate : SeparateIndexes fs pdbs)
    (h : Kept remote revision options fs pdbs moves s) {pdb : Path} (hpdb : pdb ∈ pdbs)
    {files : List Path} {now : Timestamp} {text : String}
    (hrender : Index.render (indexContext remote revision files options now) = .ok text)
    (hwrite : s.fileSystem.write (indexPath pdb) text.toUTF8 = .ok next.fileSystem)
    (outcome : LinkOutcome) :
    Kept remote revision options fs pdbs (moves ++ [.ended (.ofPdb pdb) (.ok outcome)]) next := by
  obtain ⟨above, name, hleads⟩ := hseparate.leads pdb hpdb
  obtain ⟨place, hplace, -⟩ := FileSystem.write_eq_ok.mp hwrite
  have hwrote := FileSystem.wrote_of_write hplace hwrite
  rw [(h.leads pdb hpdb above name hleads).filePlace_eq hplace] at hwrote
  have hkept : ∀ other ∈ pdbs, other ≠ pdb →
      next.fileSystem.item (indexPath other) = s.fileSystem.item (indexPath other) := by
    intro other hother hne
    obtain ⟨front, last, hfront⟩ := hseparate.leads other hother
    refine hwrote.item_eq (h.leads other hother front last hfront) fun heq => hne ?_
    obtain ⟨rfl, hlast⟩ := List.append_inj' heq rfl
    obtain rfl := (List.cons.inj hlast).1
    exact hseparate.inj other hother pdb hpdb _ _ hfront hleads
  have hmem : ∀ ended : Job × Ending,
      ended ∈ Move.ends (moves ++ [.ended (.ofPdb pdb) (.ok outcome)])
        ↔ ended ∈ Move.ends moves ∨ ended = (.ofPdb pdb, .ok outcome) := by
    intro ended
    rw [Move.ends_append_ended, List.mem_append, List.mem_singleton]
  refine { leads := ?_, written := ?_, untouched := ?_ }
  · exact fun other hother front last hfront =>
      hwrote.leadsTo (h.leads other hother front last hfront)
  · intro other hother done hended
    by_cases hsame : other = pdb
    · rw [hsame]
      exact ⟨files, now, text, hrender, FileSystem.read_of_write hwrite⟩
    · have hold : (Job.ofPdb other, .ok done) ∈ Move.ends moves := by
        refine ((hmem _).mp hended).resolve_right fun heq => hsame ?_
        exact congrArg (fun ended : Job × Ending => ended.1.pdb) heq
      obtain ⟨others, time, rest, hothers, hread⟩ := h.written other hother done hold
      refine ⟨others, time, rest, hothers, ?_⟩
      rw [FileSystem.read_eq, hkept other hother hsame, ← FileSystem.read_eq]
      exact hread
  · intro other hother hnone
    have hne : other ≠ pdb := by
      rintro rfl
      exact hnone outcome ((hmem _).mpr (.inr rfl))
    rw [hkept other hother hne]
    exact h.untouched other hother fun done hended => hnone done ((hmem _).mpr (.inl hended))

/-- Every move of a careful batch keeps this. -/
theorem kept_step (hseparate : SeparateIndexes fs pdbs)
    (haccounts : Accounts limit (pdbs.map Job.ofPdb) moves s)
    (h : Kept remote revision options fs pdbs moves s) {move : Move}
    (hstep : Step limit (Careful remote revision options) s move next) :
    Kept remote revision options fs pdbs (moves ++ [move]) next := by
  cases hstep with
  | start hpending hstart =>
    obtain ⟨job, rest, -, -, rfl⟩ := start?_eq_some hstart
    refine { leads := h.leads, written := ?_, untouched := ?_ }
    · rw [Move.ends_append_started]
      exact h.written
    · rw [Move.ends_append_started]
      exact h.untouched
  | @complete _ worker position job hcareful hjob hcomplete =>
    obtain ⟨hfileSystem, -⟩ := completeAt?_eq_some hjob hcomplete
    obtain ⟨pdb, hpdb, rfl⟩ := List.mem_map.mp
      (haccounts.mem_of_inFlight (List.mem_of_getElem? hjob))
    rcases hcareful.cases s.fileSystem (.ofPdb pdb) with
      ⟨text, hvalue⟩ | ⟨after, outcome, files, now, text, hvalue, hrender, hwrite⟩
    · rw [hvalue] at hfileSystem ⊢
      exact h.failed _ text hfileSystem
    · rw [hvalue] at hfileSystem ⊢
      exact h.succeeded hseparate hpdb hrender (hfileSystem ▸ hwrite) outcome

/-- Every run of a careful batch keeps this. -/
theorem kept_run (hseparate : SeparateIndexes fs pdbs)
    (hrun : Run limit (Careful remote revision options) (State.initial fs (pdbs.map Job.ofPdb))
      moves s) : Kept remote revision options fs pdbs moves s := by
  induction hrun with
  | nil => exact kept_initial fs pdbs _
  | snoc hbefore hstep ih => exact kept_step hseparate (accounts_run hbefore) ih hstep

/-! ## Symbol files that failed -/

/-- The symbol files that failed are those whose jobs ended in a failure, in the same order. -/
theorem map_fst_filterMap_failure? (ended : List (Job × Ending)) :
    (ended.filterMap failure?).map Prod.fst
      = (ended.filter fun done => (failure? done).isSome).map fun done => done.1.pdb := by
  induction ended with
  | nil => rfl
  | cons first rest ih =>
    obtain ⟨job, ending⟩ := first
    cases ending with
    | error text =>
      have hsome : failure? (job, .error text) = some (job.pdb, text) := rfl
      rw [List.filterMap_cons_some hsome, List.filter_cons_of_pos (by rw [hsome]; rfl), List.map_cons,
        List.map_cons, ih]
    | ok outcome =>
      have hnone : failure? (job, .ok outcome) = none := rfl
      rw [List.filterMap_cons_none hnone, List.filter_cons_of_neg (by simp [hnone]), ih]

/-- When a batch of different symbol files has stopped, each of them has ended once. Those that
failed are listed once each, and the others have succeeded. -/
theorem failed_of_stopped {admitted : Worker → Prop} (hnodup : pdbs.Nodup)
    (hrun : Run limit admitted (State.initial fs (pdbs.map Job.ofPdb)) moves s)
    (hstopped : Stopped limit s) :
    (s.summary.failed.map Prod.fst).Nodup ∧ s.summary.failed.map Prod.fst ⊆ pdbs
      ∧ ∀ pdb ∈ pdbs,
        (pdb ∈ s.summary.failed.map Prod.fst
          ∧ ∀ outcome, (Job.ofPdb pdb, .ok outcome) ∉ Move.ends moves)
        ∨ (pdb ∉ s.summary.failed.map Prod.fst
          ∧ ∃ outcome, (Job.ofPdb pdb, .ok outcome) ∈ Move.ends moves) := by
  obtain ⟨hpending, hflight⟩ := stopped_iff.mp hstopped
  have haccounts := accounts_run hrun
  have hperm := haccounts.ends_perm hpending hflight
  have hpdbs : ((Move.ends moves).map fun ended => ended.1.pdb).Perm pdbs := by
    have hmapped := hperm.map Job.pdb
    rw [List.map_map, List.map_map] at hmapped
    have hid : pdbs.map (Job.pdb ∘ Job.ofPdb) = pdbs := List.map_id pdbs
    rwa [hid] at hmapped
  have hends : ((Move.ends moves).map fun ended => ended.1.pdb).Nodup := hpdbs.nodup_iff.mpr hnodup
  have hfailed := congrArg (List.map Prod.fst) haccounts.failed
  rw [map_fst_filterMap_failure?] at hfailed
  have hsub := (List.filter_sublist (p := fun ended => (failure? ended).isSome)
    (l := Move.ends moves)).map fun ended : Job × Ending => ended.1.pdb
  have hunique : ∀ first ∈ Move.ends moves, ∀ second ∈ Move.ends moves,
      first.1.pdb = second.1.pdb → first = second :=
    fun first hfirst second hsecond heq => List.inj_on_of_nodup_map hends hfirst hsecond heq
  rw [hfailed]
  refine ⟨hends.sublist hsub, fun pdb hpdb => hpdbs.subset (hsub.subset hpdb), fun pdb hpdb => ?_⟩
  obtain ⟨⟨job, ending⟩, hended, hjob⟩ := List.mem_map.mp (hperm.mem_iff.mpr
    (List.mem_map_of_mem (f := Job.ofPdb) hpdb))
  dsimp only at hjob
  subst hjob
  cases ending with
  | error text =>
    refine .inl ⟨List.mem_map.mpr ⟨_, List.mem_filter.mpr ⟨hended, rfl⟩, rfl⟩, fun outcome hok => ?_⟩
    cases hunique _ hended _ hok rfl
  | ok outcome =>
    refine .inr ⟨fun hmem => ?_, outcome, hended⟩
    obtain ⟨other, hother, heq⟩ := List.mem_map.mp hmem
    obtain ⟨hother, hfails⟩ := List.mem_filter.mp hother
    rw [hunique other hother _ hended heq] at hfails
    cases hfails

end Batch

end SourceServer
