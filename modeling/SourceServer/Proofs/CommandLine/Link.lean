import SourceServer.Proofs.Checksum.Streams
import SourceServer.Proofs.CommandLine.Printed
import SourceServer.Proofs.Link.Advisory
import SourceServer.Proofs.Pdb.OneStream
import SourceServer.Proofs.SymbolFiles.Found

/-!
# Indexing all symbol files below a directory

The symbol files that are found have different indexes, for these stand beside them. So the jobs of a
run never write at the same place, and in whatever order they are done, each symbol file either is
reported as failed and nothing was written for it, or has its index.

- `SymbolFiles.separateIndexes_found`: the indexes of what is found belong at different places.
- `Commands.LinkEnds`: how indexing may end, for every order in which jobs are done.
- `Commands.link_ends`: the order in which it is carried out is one of these.
- `Commands.Reports`: what a report says, and what is read of it when it is printed.
- `Commands.link_spec`: what is attempted, reported and written.
-/

namespace SourceServer

namespace SymbolFiles

variable {fs : FileSystem} {directory : Path} {entries : List (String × Node)}

/-! ## Where indexes belong -/

/-- The name of an index, in terms of the name of its symbol file. -/
def indexName (name : String) : String := name ++ ".srcsrv"

theorem isName_indexName {name : String} (h : IsName name) : IsName (indexName name) := by
  have hlength : 2 < (indexName name).toList.length := by
    have hsuffix : ".srcsrv".toList.length = 7 := rfl
    rw [indexName, String.toList_append, List.length_append]
    omega
  refine ⟨fun heq => ?_, fun heq => ?_, fun heq => ?_, fun hslash => ?_⟩
  · simp [heq] at hlength
  · simp [heq] at hlength
  · simp [heq] at hlength
  · rw [indexName, String.toList_append, List.mem_append] at hslash
    rcases hslash with hslash | hslash
    · exact h.slash_notMem hslash
    · exact absurd hslash (by decide)

/-- The index of a symbol file below a directory stands beside it. -/
theorem indexPath_below {above : List String} {name : String} (h : IsName name) (directory : Path) :
    indexPath (directory.below (above ++ [name])) = directory.below (above ++ [indexName name]) := by
  have htext : ((directory.below above).join ⟨name⟩).text ++ ".srcsrv"
      = ((directory.below above).join ⟨indexName name⟩).text := by
    rw [Path.text_join h, Path.text_join (isName_indexName h)]
    split <;> simp only [indexName, String.append_assoc]
  rw [Path.below_append, Path.below_append]
  exact congrArg Path.mk htext

/-- The path of the index of a symbol file below a directory leads beside the symbol file. -/
theorem leadsTo_index (h : fs.ProperlyNamed) {here : List String}
    (hwalk : fs.walk (fs.origin directory) (FileSystem.steps directory) = .ok here)
    (hhere : fs.root.find? here = some (.directory entries)) {above : List String} {name : String}
    {node : Node} (hfind : (Node.directory entries).find? (above ++ [name]) = some node) :
    fs.LeadsTo (indexPath (directory.below (above ++ [name]))) (here ++ above) (indexName name) := by
  have hnames := fun step hstep => (h.names_of_find? hhere hfind step hstep).1
  have habove : ∀ step ∈ above, IsName step :=
    fun step hstep => hnames step (List.mem_append_left _ hstep)
  have hname : IsName name := hnames name (List.mem_append_right _ List.mem_cons_self)
  have hindexed : ∀ step ∈ above ++ [indexName name], IsName step := by
    intro step hstep
    rcases List.mem_append.mp hstep with hstep | hstep
    · exact habove step hstep
    · rw [List.mem_singleton.mp hstep]
      exact isName_indexName hname
  have hsteps : FileSystem.steps (directory.below (above ++ [indexName name]))
      = FileSystem.steps (directory.below above) ++ [indexName name] := by
    rw [FileSystem.steps_below hindexed, FileSystem.steps_below habove, List.append_assoc]
  obtain ⟨middle, hparent, -⟩ := Node.exists_directory_of_find? hfind
  rw [indexPath_below hname]
  refine ⟨isName_indexName hname, ?_, ?_, ?_⟩
  · rw [hsteps, List.dropLast_concat]
  · rw [hsteps, List.dropLast_concat, FileSystem.origin_below hindexed,
      ← FileSystem.origin_below habove]
    exact FileSystem.walk_below h hwalk hhere hparent
  · refine Node.itemAt?_eq_directory.mpr ⟨middle, ?_⟩
    rw [Node.find?_below hhere]
    exact hparent

/-- The indexes of what is found belong at different places. -/
theorem separateIndexes_found (h : fs.ProperlyNamed) {found : List Path}
    (hfind : find fs directory = .ok found) : Batch.SeparateIndexes fs found ∧ found.Nodup := by
  obtain ⟨entries, hlist⟩ := exists_list_of_find hfind
  obtain ⟨here, hwalk, hhere, -⟩ := FileSystem.place_of_list hlist
  rw [find_eq h hlist, Except.ok.injEq] at hfind
  have hleads : ∀ pdb ∈ found, ∃ above name, pdb = directory.below (above ++ [name])
      ∧ fs.LeadsTo (indexPath pdb) (here ++ above) (indexName name) := by
    intro pdb hpdb
    rw [← hfind, mem_sorted, mem_taken_iff h hlist] at hpdb
    obtain ⟨above, name, node, ⟨others, hothers, hnode⟩, -, rfl, -⟩ := hpdb
    obtain rfl : others = entries := Except.ok.inj (hothers.symm.trans hlist)
    exact ⟨above, name, rfl, leadsTo_index h hwalk hhere hnode⟩
  refine ⟨⟨fun pdb hpdb => ?_, fun pdb hpdb other hother place last hplace hplace' => ?_⟩, ?_⟩
  · obtain ⟨above, name, -, hpath⟩ := hleads pdb hpdb
    exact ⟨_, _, hpath⟩
  · obtain ⟨above, name, rfl, hpath⟩ := hleads pdb hpdb
    obtain ⟨front, first, rfl, hpath'⟩ := hleads other hother
    obtain ⟨hplaces, hnames⟩ := hpath.unique hplace
    obtain ⟨hplaces', hnames'⟩ := hpath'.unique hplace'
    have habove : above = front := List.append_cancel_left (hplaces.trans hplaces'.symm)
    have hname : name = first := by
      have hsame := congrArg String.toList (hnames.trans hnames'.symm)
      rw [indexName, indexName, String.toList_append, String.toList_append] at hsame
      exact String.toList_inj.mp (List.append_cancel_right hsame)
    rw [habove, hname]
  · rw [← hfind]
    exact nodup_of_pairwise (pairwise_sorted_taken h hlist)

end SymbolFiles

namespace Commands

variable {fs : FileSystem} {settings : Settings} {directory : Path} {arguments : LinkArguments}
  {jobs : Option Nat} {plan : BatchPlan} {panic : Job → String}

/-! ## How indexing may end -/

/-- How indexing with a plan may end, for the moves of the batch in any order. Workers may be anything
that is careful. -/
def LinkEnds (fs : FileSystem) (settings : Settings) (directory : Path) (arguments : LinkArguments)
    (jobs : Option Nat) (plan : BatchPlan) (moves : List Batch.Move) (after : FileSystem)
    (report : Report) : Prop :=
  if plan.pdbs = [] then
    moves = [] ∧ after = fs
      ∧ report = .ofLines ["No pdb files found under " ++ directory.text ++ "."]
  else
    ∃ s, Batch.Run (jobs.getD settings.jobs)
        (Batch.Careful plan.remote plan.revision plan.options)
        (.initial fs (plan.pdbs.map Job.ofPdb)) moves s
      ∧ Batch.Stopped (jobs.getD settings.jobs) s ∧ after = s.fileSystem
      ∧ report = batchReport s.summary (errorsAsWarnings settings arguments)

/-- A plan is there when the remote, the revision and the symbol files are. -/
theorem batchPlan_eq_ok :
    (batchPlan fs settings directory arguments).result = .ok plan
      ↔ (selectRemote arguments).result = .ok plan.remote
        ∧ selectRevision arguments = .ok plan.revision
        ∧ plan.options = linkOptions fs settings arguments
        ∧ SymbolFiles.find fs directory = .ok plan.pdbs := by
  rw [batchPlan]
  simp only [Task.result_bind, bind_eq_ok, Task.result_ofExcept, Task.result_pure, Except.ok.injEq]
  constructor
  · rintro ⟨remote, hremote, revision, hrevision, pdbs, hpdbs, rfl⟩
    cases hfind : SymbolFiles.find fs directory with
    | error error =>
      rw [hfind] at hpdbs
      cases hpdbs
    | ok found =>
      rw [hfind] at hpdbs
      exact ⟨hremote, hrevision, rfl, congrArg Except.ok (Except.ok.inj hpdbs)⟩
  · rintro ⟨hremote, hrevision, hoptions, hfind⟩
    refine ⟨plan.remote, hremote, plan.revision, hrevision, plan.pdbs, ?_, ?_⟩
    · rw [hfind]
      rfl
    · rw [← hoptions]

/-- Indexing with a plan carries its batch out and reports on it. -/
theorem link_of_plan (now : Timestamp) (hpdbs : plan.pdbs ≠ [])
    (hplan : (batchPlan fs settings directory arguments).result = .ok plan) :
    (link fs settings now directory arguments jobs panic).value
      = let done := (Batch.link fs (plan.pdbs.map Job.ofPdb) plan.remote plan.revision plan.options
          (jobs.getD settings.jobs) now panic).value
        (done.1, batchReport done.2 (errorsAsWarnings settings arguments)) := by
  have hvalue : (batchPlan fs settings directory arguments).run.value = .ok plan := hplan
  simp only [link, Logged.value_bind, hvalue, List.isEmpty_iff, hpdbs, if_false]
  rfl

/-- The order in which indexing is carried out is one of the orders in which jobs may be done. -/
theorem link_ends (now : Timestamp) (panic : Job → String)
    (hplan : (batchPlan fs settings directory arguments).result = .ok plan) :
    ∃ moves, LinkEnds fs settings directory arguments jobs plan moves
      (link fs settings now directory arguments jobs panic).value.1
      (link fs settings now directory arguments jobs panic).value.2 := by
  by_cases hpdbs : plan.pdbs = []
  · have hvalue : (batchPlan fs settings directory arguments).run.value = .ok plan := hplan
    refine ⟨[], ?_⟩
    rw [LinkEnds, if_pos hpdbs]
    simp [link, hvalue, hpdbs]
  · obtain ⟨moves, s, hrun, hstopped, -, hlink⟩ := @Batch.exists_run_link plan.remote plan.revision
      plan.options now (fun _ => True) panic trivial fs (plan.pdbs.map Job.ofPdb)
      (jobs.getD settings.jobs)
    have hcareful : ∀ worker, Batch.IsTask plan.remote plan.revision plan.options now
        (fun _ => True) worker → Batch.Careful plan.remote plan.revision plan.options worker := by
      rintro worker ⟨panic, -, rfl⟩
      exact Batch.task_careful plan.remote plan.revision plan.options now panic
    refine ⟨moves, ?_⟩
    rw [LinkEnds, if_neg hpdbs, link_of_plan now hpdbs hplan]
    dsimp only
    rw [hlink]
    exact ⟨s, hrun.mono hcareful, hstopped, rfl, rfl⟩

/-! ## What is attempted, reported and written -/

/-- The failures with the paths as they are printed. -/
def rawFailures (failed : List (Path × String)) : List (RawText × String) :=
  failed.map fun failure => (failure.1.raw, failure.2)

/-- What a report on some symbol files says: how many there are and how many of them succeeded, then
a line for each of those that failed; and what is read of this when it is printed. It is an error when
one failed, unless failures do not count. -/
structure Reports (settings : Settings) (arguments : LinkArguments) (pdbs : List Path)
    (failed : List (Path × String)) (report : Report) : Prop where
  subset : failed.map Prod.fst ⊆ pdbs
  once : (failed.map Prod.fst).Nodup
  lines : ∃ succeeded, succeeded + failed.length = pdbs.length
    ∧ report.lines = headline succeeded pdbs.length :: (rawFailures failed).map failedLine
    ∧ ∀ logFile, Printed (pdbs.map Path.raw) (rawFailures failed) succeeded
      (printedLines (CommandLine.outcome logFile report).output)
  error : report.error ≠ none
    ↔ failed ≠ [] ∧ arguments.errorsAsWarnings = false ∧ settings.errorsAsWarnings = false

/-- Different paths that are texts are printed as different texts. -/
theorem printed_rawFailures {pdbs : List Path} {failed : List (Path × String)} {succeeded : Nat}
    (hsubset : failed.map Prod.fst ⊆ pdbs) (honce : (failed.map Prod.fst).Nodup)
    (hsum : succeeded + failed.length = pdbs.length) :
    Printed (pdbs.map Path.raw) (rawFailures failed) succeeded (printedLines (String.join
      ((headline succeeded pdbs.length :: (rawFailures failed).map failedLine).map (· ++ "\n")))) := by
  have hnames : (rawFailures failed).map Prod.fst = (failed.map Prod.fst).map Path.raw := by
    rw [rawFailures, List.map_map, List.map_map]
    rfl
  have hprinted := @printed_failures (pdbs.map Path.raw) (rawFailures failed) succeeded
    (by rw [hnames]; exact List.map_subset _ hsubset)
    (by rw [hnames]; exact honce.map Path.raw_injective)
    (by rw [rawFailures, List.length_map, List.length_map]; exact hsum)
  rwa [List.length_map] at hprinted

/-- A batch of different symbol files that has stopped is reported so. -/
theorem reports_batchReport {limit : Nat} {admitted : Batch.Worker → Prop} {pdbs : List Path}
    {moves : List Batch.Move} {s : Batch.State} (hnodup : pdbs.Nodup)
    (hrun : Batch.Run limit admitted (.initial fs (pdbs.map Job.ofPdb)) moves s)
    (hstopped : Batch.Stopped limit s) :
    Reports settings arguments pdbs s.summary.failed
      (batchReport s.summary (errorsAsWarnings settings arguments)) := by
  obtain ⟨honce, hsubset, -⟩ := Batch.failed_of_stopped hnodup hrun hstopped
  have haccounts := Batch.accounts_run hrun
  have hattempted : s.summary.attempted = pdbs.length := by
    have hpending := haccounts.pending
    rw [(Batch.stopped_iff.mp hstopped).1, List.append_nil] at hpending
    rw [haccounts.attempted, hpending, List.length_map]
  have hsum : s.summary.succeeded + s.summary.failed.length = pdbs.length := by
    have hle := haccounts.length_failed_le
    rw [Batch.Summary.succeeded]
    omega
  have hlines : (batchReport s.summary (errorsAsWarnings settings arguments)).lines
      = headline s.summary.succeeded pdbs.length :: (rawFailures s.summary.failed).map failedLine := by
    rw [batchReport, batchLines, hattempted, rawFailures, List.map_map]
    rfl
  refine ⟨hsubset, honce, ⟨s.summary.succeeded, hsum, hlines, fun logFile => ?_⟩, ?_⟩
  · rw [CommandLine.outcome, hlines]
    exact printed_rawFailures hsubset honce hsum
  · rw [batchReport, Batch.Summary.isSuccess, errorsAsWarnings]
    cases s.summary.failed <;> cases arguments.errorsAsWarnings <;>
      cases settings.errorsAsWarnings <;> simp

/-- **Indexing all symbol files below a directory**, once the remote, the revision and the symbol
files are there, for every order in which jobs are done and whatever becomes of each. Every symbol
file that was found is attempted once and done once. The report counts them all, and names those that
failed once each; `Printed` tells which lines are read of it. For a symbol file that failed nothing was
written, and any other one has its index. Without symbol files nothing is written, and this is no
error. -/
theorem link_spec (hnamed : fs.ProperlyNamed) (now : Timestamp) (panic : Job → String)
    (hplan : (batchPlan fs settings directory arguments).result = .ok plan) :
    (∃ moves, LinkEnds fs settings directory arguments jobs plan moves
        (link fs settings now directory arguments jobs panic).value.1
        (link fs settings now directory arguments jobs panic).value.2)
      ∧ SymbolFiles.find fs directory = .ok plan.pdbs
      ∧ ∀ moves after report,
        LinkEnds fs settings directory arguments jobs plan moves after report →
          Batch.Move.starts moves = plan.pdbs.map Job.ofPdb ∧ plan.pdbs.Nodup
            ∧ ((Batch.Move.ends moves).map Prod.fst).Perm (plan.pdbs.map Job.ofPdb)
            ∧ (plan.pdbs = [] → after = fs ∧ report.error = none)
            ∧ (plan.pdbs ≠ [] → ∃ failed, Reports settings arguments plan.pdbs failed report
              ∧ ∀ pdb ∈ plan.pdbs,
                (pdb ∈ failed.map Prod.fst
                    ∧ (∀ outcome, (Job.ofPdb pdb, .ok outcome) ∉ Batch.Move.ends moves)
                    ∧ after.item (indexPath pdb) = fs.item (indexPath pdb))
                  ∨ (pdb ∉ failed.map Prod.fst
                    ∧ (∃ outcome, (Job.ofPdb pdb, .ok outcome) ∈ Batch.Move.ends moves)
                    ∧ Batch.HoldsIndex plan.remote plan.revision plan.options after pdb)) := by
  obtain ⟨-, -, -, hfind⟩ := batchPlan_eq_ok.mp hplan
  obtain ⟨hseparate, hnodup⟩ := SymbolFiles.separateIndexes_found hnamed hfind
  refine ⟨link_ends now panic hplan, hfind, fun moves after report hends => ?_⟩
  rw [LinkEnds] at hends
  by_cases hpdbs : plan.pdbs = []
  · rw [if_pos hpdbs] at hends
    obtain ⟨rfl, rfl, rfl⟩ := hends
    rw [hpdbs]
    exact ⟨rfl, List.nodup_nil, .refl _, fun _ => ⟨rfl, rfl⟩, fun hne => absurd rfl hne⟩
  · rw [if_neg hpdbs] at hends
    obtain ⟨s, hrun, hstopped, rfl, rfl⟩ := hends
    obtain ⟨hpending, hflight⟩ := Batch.stopped_iff.mp hstopped
    have haccounts := Batch.accounts_run hrun
    have hstarts := haccounts.pending
    rw [hpending, List.append_nil] at hstarts
    obtain ⟨-, -, hcases⟩ := Batch.failed_of_stopped hnodup hrun hstopped
    have hkept := Batch.kept_run hseparate hrun
    refine ⟨hstarts, hnodup, haccounts.ends_perm hpending hflight, fun heq => absurd heq hpdbs,
      fun _ => ⟨s.summary.failed, reports_batchReport hnodup hrun hstopped, fun pdb hpdb => ?_⟩⟩
    rcases hcases pdb hpdb with ⟨hmem, hnone⟩ | ⟨hmem, outcome, hended⟩
    · exact .inl ⟨hmem, hnone, hkept.untouched pdb hpdb hnone⟩
    · exact .inr ⟨hmem, ⟨outcome, hended⟩, hkept.written pdb hpdb outcome hended⟩

/-! ## Two symbol files, and one with a line feed in its name -/

/-- Indexing for a repository. -/
def gitHubArguments : LinkArguments :=
  ⟨"https://github.com/a/b", "deadbeef", none, false, false, false, false, false⟩

/-- The plan for it. -/
def gitHubPlan (fs : FileSystem) (pdbs : List Path) : BatchPlan where
  remote := ⟨.gitHub "a" "b", "https://raw.githubusercontent.com/a/b/\x7b0\x7d/%var2%"⟩
  revision := "deadbeef"
  options := linkOptions fs .initial gitHubArguments
  pdbs := pdbs

theorem batchPlan_gitHubArguments {pdbs : List Path}
    (hfind : SymbolFiles.find fs directory = .ok pdbs) :
    (batchPlan fs .initial directory gitHubArguments).result = .ok (gitHubPlan fs pdbs) := by
  have hdetect : Remote.detect "https://github.com/a/b" = .ok (gitHubPlan fs pdbs).remote := rfl
  have hremote : (selectRemote gitHubArguments).result = .ok (gitHubPlan fs pdbs).remote := by
    rw [selectRemote, Task.result_bind, Task.result_ofExcept, gitHubArguments, hdetect]
    rfl
  have hrevision : selectRevision gitHubArguments = .ok "deadbeef" := by decide +kernel
  exact batchPlan_eq_ok.mpr ⟨hremote, hrevision, rfl, hfind⟩

/-- A symbol file with one stream, which records nothing. -/
def unmarkedFile : Pdb.OneStream where
  name := [0x78]
  content := [0]
  zero_notMem := by decide
  name_le := by decide
  content_le := by decide

/-- A directory with a file that is no symbol file, and one that is. -/
def pairSystem : FileSystem :=
  ⟨.directory [("a.pdb", .file .empty), ("b.pdb", .file unmarkedFile.file)], []⟩

theorem node_pairSystem :
    pairSystem.node ⟨"./b.pdb"⟩ = .ok (.file unmarkedFile.file) := by
  have hnode : ∀ content, FileSystem.node
      ⟨.directory [("a.pdb", .file .empty), ("b.pdb", .file content)], []⟩ ⟨"./b.pdb"⟩
        = .ok (.file content) := fun _ => rfl
  exact hnode _

/-- The second file records nothing. -/
theorem fileRecords_pairSystem :
    (fileRecords pairSystem (.ofPdb ⟨"./b.pdb"⟩)).result = .ok [] := by
  have hopen : Pdb.openFile pairSystem ⟨"./b.pdb"⟩ = .ok unmarkedFile.container := by
    rw [Pdb.openFile, node_pairSystem]
    show (Pdb.Container.ofBytes unmarkedFile.file).mapError _ = _
    rw [Pdb.OneStream.ofBytes_file]
    rfl
  have hname : Utf8.decodeLossy unmarkedFile.name = "x" := by decide +kernel
  have hunmarked : ChecksumStreams.markedPath? "x" = none := by decide +kernel
  have hlisting : (Job.ofPdb ⟨"./b.pdb"⟩).listing = none := rfl
  rw [fileRecords_of_openFile hlisting hopen]
  refine ChecksumStreams.records_eq_ok.mpr ⟨_, unmarkedFile.names_streamDirectory, ?_, ?_⟩
  · rw [hname, List.forall_mem_singleton]
    intro hmarked
    rw [ChecksumStreams.IsMarked, hunmarked] at hmarked
    cases hmarked
  · rw [hname, List.filterMap_cons, ChecksumStreams.recordIn?, hunmarked]
    rfl

/-- So an index without entries is written. -/
theorem exists_outcome_pairSystem : ∃ outcome,
    (SourceServer.link pairSystem (.ofPdb ⟨"./b.pdb"⟩) (gitHubPlan pairSystem []).remote "deadbeef"
      (linkOptions pairSystem .initial gitHubArguments) ⟨2024, 3, 5, 14, 7, 9⟩).value.2
        = .ok outcome := by
  have hnode : pairSystem.node (Job.ofPdb ⟨"./b.pdb"⟩).pdb = .ok (.file unmarkedFile.file) :=
    node_pairSystem
  have hchecksums : (fileChecksums pairSystem (.ofPdb ⟨"./b.pdb"⟩)).result = .ok .empty := by
    rw [fileChecksums, Task.result_bind, fileRecords_pairSystem]
    rfl
  have hchosen : (chosenFiles pairSystem (.ofPdb ⟨"./b.pdb"⟩)
      (linkOptions pairSystem .initial gitHubArguments)).result = .ok ([], ∅) := by
    rw [result_chosenFiles_verifying rfl, hchecksums]
    rfl
  have hrender : (Index.render (indexContext (gitHubPlan pairSystem []).remote "deadbeef" []
      (linkOptions pairSystem .initial gitHubArguments) ⟨2024, 3, 5, 14, 7, 9⟩)).isOk = true := by
    decide +kernel
  have hplace : pairSystem.filePlace (indexPath ⟨"./b.pdb"⟩) = .ok ["b.pdb.srcsrv"] := by
    decide +kernel
  cases hindex : Index.render (indexContext (gitHubPlan pairSystem []).remote "deadbeef" []
      (linkOptions pairSystem .initial gitHubArguments) ⟨2024, 3, 5, 14, 7, 9⟩) with
  | error fault =>
    rw [hindex] at hrender
    cases hrender
  | ok text =>
    have hplan : (linkPlan pairSystem (.ofPdb ⟨"./b.pdb"⟩) (gitHubPlan pairSystem []).remote
        "deadbeef" (linkOptions pairSystem .initial gitHubArguments) ⟨2024, 3, 5, 14, 7, 9⟩).result
          = .ok ⟨text, ⟨indexPath ⟨"./b.pdb"⟩, 0, ∅⟩⟩ := by
      rw [result_linkPlan, hnode, hchosen]
      exact planOf_eq_ok.mpr ⟨text, hindex, rfl⟩
    have hlink := carryOut_eq_ok.mpr ⟨text, hplan, FileSystem.write_eq_ok.mpr ⟨_, hplace, rfl⟩⟩
    rw [← link_value_eq_carryOut] at hlink
    exact ⟨_, congrArg Prod.snd hlink⟩

/-- The first file is refused, and the second one is indexed. -/
theorem failed_pairSystem (panic : Job → String) :
    (Batch.inTurn (gitHubPlan pairSystem []).remote "deadbeef"
      (linkOptions pairSystem .initial gitHubArguments) ⟨2024, 3, 5, 14, 7, 9⟩ pairSystem
      [.ofPdb ⟨"./a.pdb"⟩, .ofPdb ⟨"./b.pdb"⟩]).2.map (Batch.told panic)
        = [(⟨"./a.pdb"⟩, "PDB error: UnrecognizedFileFormat (PDB::open)")] := by
  have hnode : pairSystem.node ⟨"./a.pdb"⟩ = .ok (.file .empty) := rfl
  have hrefused : (fileRecords pairSystem (.ofPdb ⟨"./a.pdb"⟩)).result
      = .error (.pdb .opening .unrecognizedFormat) := rfl
  have hfirst := value_link_of_fileRecords (gitHubPlan pairSystem []).remote "deadbeef"
    (linkOptions pairSystem .initial gitHubArguments) ⟨2024, 3, 5, 14, 7, 9⟩ rfl hnode hrefused
  obtain ⟨outcome, hsecond⟩ := exists_outcome_pairSystem
  rw [Batch.inTurn, Batch.linked, Batch.ending, hfirst, Batch.inTurn, Batch.ending, hsecond]
  rfl

/-- The number of successes that is printed and the printed lines on failures make up the number of
symbol files that is printed. -/
def LinesAddUp (output : String) : Prop :=
  ∀ succeeded attempted, headline succeeded attempted ∈ printedLines output →
    succeeded + (printedLines output).countP isFailedLine = attempted

/-- A directory with a symbol file whose name goes on like a line on another one. -/
def misleadingSystem : FileSystem :=
  ⟨.directory [("x\n  FAILED y.pdb", .file .empty)], []⟩

/-- The line on this file is printed as two lines, each of which begins like one on a failure. -/
theorem not_linesAddUp :
    ¬ LinesAddUp (CommandLine.outcome none (link misleadingSystem .initial ⟨2024, 3, 5, 14, 7, 9⟩
      ⟨"."⟩ gitHubArguments none fun _ => "").value.2).output := by
  have hnamed : misleadingSystem.ProperlyNamed :=
    FileSystem.properlyNamed_of_directories (by decide +kernel) (by decide +kernel)
  have hfind : SymbolFiles.find misleadingSystem ⟨"."⟩ = .ok [⟨"./x\n  FAILED y.pdb"⟩] := by
    have htaken : SymbolFiles.taken misleadingSystem ⟨"."⟩ = [⟨"./x\n  FAILED y.pdb"⟩] := by
      decide +kernel
    have hlist : misleadingSystem.list ⟨"."⟩ = .ok [("x\n  FAILED y.pdb", .file .empty)] := rfl
    rw [SymbolFiles.find_eq hnamed hlist, htaken, SymbolFiles.sorted, List.mergeSort_singleton]
  have hfailed : (Batch.inTurn (gitHubPlan misleadingSystem []).remote "deadbeef"
      (linkOptions misleadingSystem .initial gitHubArguments) ⟨2024, 3, 5, 14, 7, 9⟩
      misleadingSystem [.ofPdb ⟨"./x\n  FAILED y.pdb"⟩]).2.map (Batch.told fun _ => "")
        = [(⟨"./x\n  FAILED y.pdb"⟩, "PDB error: UnrecognizedFileFormat (PDB::open)")] := by
    decide +kernel
  have hreport : (link misleadingSystem .initial ⟨2024, 3, 5, 14, 7, 9⟩ ⟨"."⟩ gitHubArguments none
      fun _ => "").value.2 = batchReport ⟨1, [(⟨"./x\n  FAILED y.pdb"⟩,
        "PDB error: UnrecognizedFileFormat (PDB::open)")]⟩ false := by
    rw [link_of_plan _ (List.cons_ne_nil _ _) (batchPlan_gitHubArguments hfind)]
    dsimp only
    rw [Batch.link_eq_inTurn]
    exact congrArg (fun failed => batchReport ⟨1, failed⟩ false) hfailed
  rw [hreport]
  intro h
  exact absurd (h 0 1 (by decide +kernel)) (by decide +kernel)

/-- One symbol file that is refused, and one that is indexed. -/
theorem link_spec_of_two :
    ∃ (plan : BatchPlan) (moves : List Batch.Move) (after : FileSystem) (report : Report),
      pairSystem.ProperlyNamed
        ∧ (batchPlan pairSystem .initial ⟨"."⟩ gitHubArguments).result = .ok plan
        ∧ plan.pdbs = [⟨"./a.pdb"⟩, ⟨"./b.pdb"⟩]
        ∧ (link pairSystem .initial ⟨2024, 3, 5, 14, 7, 9⟩ ⟨"."⟩ gitHubArguments none
          fun _ => "").value = (after, report)
        ∧ Batch.Move.starts moves = [.ofPdb ⟨"./a.pdb"⟩, .ofPdb ⟨"./b.pdb"⟩]
        ∧ printedLines (CommandLine.outcome none report).output
          = ["All pdbs are done. 1 of 2 succeeded",
            "  FAILED ./a.pdb: PDB error: UnrecognizedFileFormat (PDB::open)"]
        ∧ report.error = some (.batchFailed 1 2)
        ∧ after.item (indexPath ⟨"./a.pdb"⟩) = pairSystem.item (indexPath ⟨"./a.pdb"⟩)
        ∧ Batch.HoldsIndex plan.remote plan.revision plan.options after ⟨"./b.pdb"⟩ := by
  have hnamed : pairSystem.ProperlyNamed :=
    FileSystem.properlyNamed_of_directories (by decide +kernel) (by decide +kernel)
  have hfind : SymbolFiles.find pairSystem ⟨"."⟩ = .ok [⟨"./a.pdb"⟩, ⟨"./b.pdb"⟩] := by
    have htaken : SymbolFiles.taken pairSystem ⟨"."⟩ = [⟨"./a.pdb"⟩, ⟨"./b.pdb"⟩] := by
      decide +kernel
    have hlist : pairSystem.list ⟨"."⟩
        = .ok [("a.pdb", .file .empty), ("b.pdb", .file unmarkedFile.file)] := rfl
    rw [SymbolFiles.find_eq hnamed hlist, htaken, SymbolFiles.sorted,
      List.mergeSort_of_pairwise (by decide +kernel)]
  have hplan := batchPlan_gitHubArguments hfind
  have hreport : (link pairSystem .initial ⟨2024, 3, 5, 14, 7, 9⟩ ⟨"."⟩ gitHubArguments none
      fun _ => "").value.2 = batchReport ⟨2, [(⟨"./a.pdb"⟩,
        "PDB error: UnrecognizedFileFormat (PDB::open)")]⟩ false := by
    rw [link_of_plan _ (List.cons_ne_nil _ _) hplan]
    dsimp only
    rw [Batch.link_eq_inTurn]
    exact congrArg (fun failed => batchReport ⟨2, failed⟩ false) (failed_pairSystem _)
  obtain ⟨⟨moves, hends⟩, -, hspec⟩ :=
    @link_spec pairSystem .initial ⟨"."⟩ gitHubArguments none (gitHubPlan pairSystem _) hnamed
      ⟨2024, 3, 5, 14, 7, 9⟩ (fun _ => "") hplan
  obtain ⟨hstarts, -, -, -, hreports⟩ := hspec _ _ _ hends
  obtain ⟨failed, hreports, hcases⟩ := hreports (List.cons_ne_nil _ _)
  rw [hreport] at hreports
  -- the report has one line on a failure, and it is not one on the second file
  obtain ⟨succeeded, -, hlines, -⟩ := hreports.lines
  have hline : [failedLine (Path.raw ⟨"./a.pdb"⟩, "PDB error: UnrecognizedFileFormat (PDB::open)")]
      = (rawFailures failed).map failedLine := (List.cons.inj hlines).2
  obtain ⟨⟨pdb, error⟩, rfl⟩ : ∃ failure, failed = [failure] := by
    have hlength := congrArg List.length hline
    rw [List.length_map, rawFailures, List.length_map] at hlength
    exact List.length_eq_one_iff.mp hlength.symm
  have hsecond : (⟨"./b.pdb"⟩ : Path) ≠ pdb := by
    rintro rfl
    have hown := @isLineOn_failedLine (Path.raw ⟨"./b.pdb"⟩) (Path.raw ⟨"./b.pdb"⟩, error)
      fun _ => rfl
    rw [← (List.cons.inj hline).1, Path.lossy_raw] at hown
    exact absurd (hown.mpr rfl) (by decide +kernel)
  have hfirst : (⟨"./a.pdb"⟩ : Path) = pdb := by
    have hfound := hreports.subset (List.mem_singleton_self pdb)
    simp only [gitHubPlan, List.mem_cons, List.not_mem_nil, or_false] at hfound
    exact (hfound.resolve_right (Ne.symm hsecond)).symm
  refine ⟨gitHubPlan pairSystem _, moves, _, batchReport ⟨2, _⟩ false, hnamed, hplan, rfl,
    Prod.ext rfl hreport, hstarts, by decide +kernel, rfl, ?_, ?_⟩
  · rcases hcases ⟨"./a.pdb"⟩ List.mem_cons_self with ⟨-, -, hitem⟩ | ⟨hmem, -⟩
    · exact hitem
    · exact absurd (List.mem_singleton.mpr hfirst) hmem
  · rcases hcases ⟨"./b.pdb"⟩ (List.mem_cons_of_mem _ (List.mem_singleton_self _)) with
      ⟨hmem, -⟩ | ⟨-, -, hholds⟩
    · exact absurd (List.mem_singleton.mp hmem) hsecond
    · exact hholds

end Commands

end SourceServer
