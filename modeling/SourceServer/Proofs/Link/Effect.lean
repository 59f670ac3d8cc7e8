import SourceServer.Link
import SourceServer.Proofs.FileSystem.Writing
import SourceServer.Proofs.Index.Layout
import SourceServer.Proofs.Path.Steps

/-!
# What linking changes

Linking plans first and writes last. The plan settles the files and the text of the index without
changing anything, so a failure leaves the file system as it was, and success changes one place.

- `fileChecksums_eq_ok`: the digests of a job.
- `prescribedFiles`: the files that the index of a job names.
- `linkPlan_eq_ok`: what a plan holds.
- `link_effect`: the effect of linking on the file system, and what it reports.
-/

namespace SourceServer

/-- The digests of a job are those of its records, gathered. -/
theorem fileChecksums_eq_ok {fs : FileSystem} {job : Job} {recorded : ChecksumMap} :
    (fileChecksums fs job).result = .ok recorded
      ↔ ∃ records, (fileRecords fs job).result = .ok records
        ∧ ChecksumMap.ofRecords records = .ok recorded := by
  rw [fileChecksums, Task.result_bind, bind_eq_ok]
  refine exists_congr fun records => and_congr_right fun _ => ?_
  rw [Task.result_ofExcept]
  cases ChecksumMap.ofRecords records <;> simp [Except.mapError]

/-- The files that the index of a job names: those that the build compiled, in their order, and
otherwise the recorded files that exist. -/
def prescribedFiles (fs : FileSystem) (job : Job) : Except Failure (List Path) :=
  match job.compilables with
  | some files => .ok files
  | none => (fileChecksums fs job).result.map fun recorded => (indexableFiles fs recorded).value

/-- With or without verification, the checked files are those that the job prescribes. -/
theorem checkedFiles_eq_ok {fs : FileSystem} {job : Job} {options : LinkOptions}
    {files : List Path} {mismatches : Mismatches}
    (h : (checkedFiles fs job options).result = .ok (files, mismatches)) :
    prescribedFiles fs job = .ok files := by
  rw [checkedFiles, Task.result_bind, bind_eq_ok] at h
  obtain ⟨recorded, hrecorded, h⟩ := h
  rw [Task.result_bind, bind_eq_ok] at h
  obtain ⟨-, -, h⟩ := h
  rw [Task.result_bind, bind_eq_ok] at h
  obtain ⟨chosen, hchosen, h⟩ := h
  rw [Task.result_bind, bind_eq_ok] at h
  obtain ⟨_, -, h⟩ := h
  rw [Task.result_pure, Except.ok.injEq, Prod.mk.injEq] at h
  rw [Task.result_lift, Except.ok.injEq, filesToIndex] at hchosen
  rw [prescribedFiles, ← h.1, ← hchosen]
  cases job.compilables with
  | some given => rfl
  | none => simp [hrecorded, Except.map]

theorem chosenFiles_eq_ok {fs : FileSystem} {job : Job} {options : LinkOptions}
    {files : List Path} {mismatches : Mismatches}
    (h : (chosenFiles fs job options).result = .ok (files, mismatches)) :
    prescribedFiles fs job = .ok files := by
  rw [chosenFiles] at h
  split at h
  · rename_i given hcompilables _
    rw [Task.result_pure, Except.ok.injEq, Prod.mk.injEq] at h
    rw [prescribedFiles, hcompilables, h.1]
  · exact checkedFiles_eq_ok h

section Link

variable {fs : FileSystem} {job : Job} {remote : Remote} {revision : String}
  {options : LinkOptions} {now : Timestamp}

/-- A plan holds the index of the prescribed files, and where it is to be written. -/
theorem linkPlan_eq_ok {plan : LinkPlan}
    (h : (linkPlan fs job remote revision options now).result = .ok plan) :
    ∃ files mismatches, prescribedFiles fs job = .ok files
      ∧ Index.render (indexContext remote revision files options now) = .ok plan.text
      ∧ plan.outcome = ⟨indexPath job.pdb, files.length, mismatches⟩ := by
  rw [linkPlan, Task.result_bind, bind_eq_ok] at h
  obtain ⟨-, -, h⟩ := h
  rw [Task.result_bind, bind_eq_ok] at h
  obtain ⟨-, -, h⟩ := h
  rw [Task.result_bind, bind_eq_ok] at h
  obtain ⟨⟨files, mismatches⟩, hchosen, h⟩ := h
  rw [Task.result_bind, bind_eq_ok] at h
  obtain ⟨-, -, h⟩ := h
  rw [Task.result_bind, bind_eq_ok] at h
  obtain ⟨text, htext, h⟩ := h
  rw [Task.result_pure, Except.ok.injEq] at h
  subst h
  refine ⟨files, mismatches, chosenFiles_eq_ok hchosen, ?_, ?_⟩
  · rw [Task.result_ofExcept] at htext
    cases hrender : Index.render (indexContext remote revision files options now) with
    | error fault => simp [hrender, Except.mapError] at htext
    | ok rendered => simpa [hrender, Except.mapError] using htext
  · simp

/-- Linking carries a plan out, if there is one. -/
theorem link_value :
    (link fs job remote revision options now).value
      = match (linkPlan fs job remote revision options now).result with
        | .error failure => (fs, .error failure)
        | .ok plan =>
          match fs.write plan.outcome.index plan.text.toUTF8 with
          | .error error => (fs, .error (.io plan.outcome.index error))
          | .ok written => (written, .ok plan.outcome) := by
  rw [link]
  cases (linkPlan fs job remote revision options now).result with
  | error failure => rfl
  | ok plan =>
    obtain ⟨text, outcome⟩ := plan
    simp only
    cases fs.write outcome.index text.toUTF8 <;> rfl

/-- The index of a symbol file stands beside it, under a name of its own. -/
theorem exists_steps_indexPath (pdb : Path) :
    ∃ above name, FileSystem.steps (indexPath pdb) = above ++ [name]
      ∧ above ⊆ FileSystem.steps pdb ∧ (indexPath pdb).fileName? = some name :=
  FileSystem.steps_append pdb (by decide) (by decide)

/-- The last name of the place of an index is the file name of its path. -/
theorem getLast?_indexPlace {pdb : Path} {place : List String}
    (h : fs.filePlace (indexPath pdb) = .ok place) :
    place.getLast? = (indexPath pdb).fileName? := by
  obtain ⟨above, name, rfl, hopens⟩ := FileSystem.filePlace_eq_ok h
  obtain ⟨front, output, hsteps, -, hname⟩ := exists_steps_indexPath pdb
  have heq := hopens.steps_eq
  rw [hsteps, List.dropLast_concat] at heq
  obtain rfl : output = name := (List.cons.inj (List.append_cancel_left heq)).1
  rw [hname, List.getLast?_concat]

/-- The effect of linking. A failure changes nothing. Success changes one place, that of the index,
where the index of the prescribed files stands afterwards; every other place holds what it held, and
no other path has a content that it did not have. The number reported is that of the entries. -/
theorem link_effect (fs : FileSystem) (job : Job) (remote : Remote) (revision : String)
    (options : LinkOptions) (now : Timestamp) :
    match (link fs job remote revision options now).value with
    | (after, .error _) => after = fs
    | (after, .ok outcome) =>
      ∃ files head text place, prescribedFiles fs job = .ok files
        ∧ Index.render (indexContext remote revision files options now) = .ok text
        ∧ text = Index.textOf options.lineEnding
          (head ++ [Index.entriesHeader]
            ++ files.map (fun file =>
              Index.entry remote.dialect (entryPaths remote options.root file))
            ++ [Index.terminator])
        ∧ outcome.index = indexPath job.pdb
        ∧ outcome.indexedFiles = files.length
        ∧ after.read (indexPath job.pdb) = .ok text.toUTF8
        ∧ fs.filePlace (indexPath job.pdb) = .ok place
        ∧ after.current = fs.current
        ∧ (∀ other, after.itemAt? other
          = if other = place then some (.file text.toUTF8) else fs.itemAt? other)
        ∧ ∀ p content, after.read p = .ok content →
          after.walk (after.origin p) (FileSystem.steps p) = .ok place
            ∨ fs.read p = .ok content := by
  rw [link_value]
  -- there are two ways to fail, and writing comes behind both
  cases hplan : (linkPlan fs job remote revision options now).result with
  | error failure => rfl
  | ok plan =>
    obtain ⟨files, mismatches, hfiles, hrender, houtcome⟩ := linkPlan_eq_ok hplan
    simp only [houtcome]
    cases hwrite : fs.write (indexPath job.pdb) plan.text.toUTF8 with
    | error error => rfl
    | ok after =>
      obtain ⟨place, hplace, -⟩ := FileSystem.write_eq_ok.mp hwrite
      have hwrote := FileSystem.wrote_of_write hplace hwrite
      obtain ⟨lines, hlines, htext⟩ := Index.render_eq_ok.mp hrender
      obtain ⟨head, -, rfl⟩ := Index.lines_eq_ok hlines
      refine ⟨files, head, plan.text, place, hfiles, hrender, ?_, rfl, rfl,
        FileSystem.read_of_write hwrite, hplace, hwrote.current_eq, hwrote.itemAt?_eq,
        fun p content hread => hwrote.read_of_read_after hread⟩
      rw [htext, Index.layout, paths_indexContext, List.map_map]
      rfl

end Link

end SourceServer
