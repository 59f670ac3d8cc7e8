import Mathlib.Data.List.Nodup
import SourceServer.CommandLine.Run
import SourceServer.Proofs.Unicode.Utf8

/-!
# What is printed on a batch

A report is a row of lines, and each is printed with a line feed behind it. A name or an error may hold
a line feed itself; then a line is taken for several, and one of these may look like a line on another
symbol file. So the printed lines count the failures exactly when no such piece does.

- `Commands.printedLines`, `Commands.pieces`: what a reader takes for lines.
- `Commands.printedLines_join`: the lines are the pieces of what was printed.
- `Commands.Printed`, `Commands.printed_failures`: what is read of a report on a batch.
-/

namespace SourceServer

namespace Commands

/-- The lines of a printed text. Nothing follows the last line feed. -/
def printedLines (output : String) : List String :=
  (output.toList.splitOn '\n').dropLast.map String.ofList

/-- What is taken for lines in one line. -/
def pieces (line : String) : List String :=
  (line.toList.splitOn '\n').map String.ofList

/-- How a line on a failure begins. -/
def failedBeginning : String := "  FAILED "

/-- A line that begins like a line on a failure. -/
def isFailedLine (line : String) : Bool :=
  failedBeginning.toList.isPrefixOf line.toList

/-- A line that begins like the line on the failure of a symbol file with this name. -/
def isLineOn (name line : String) : Bool :=
  (failedBeginning ++ (name ++ ": ")).toList.isPrefixOf line.toList

/-- The pieces of lines on failures behind their first line feeds. -/
def continued (failed : List (RawText × String)) : List String :=
  failed.flatMap fun failure => (pieces (failedLine failure)).tail

/-! ## Pieces -/

/-- What stands in front of the first line feed belongs to the first piece. -/
theorem splitOn_append_of_notMem {front : List Char} (h : '\n' ∉ front) (rest : List Char) :
    (front ++ rest).splitOn '\n' = (rest.splitOn '\n').modifyHead (front ++ ·) := by
  induction front with
  | nil =>
    cases hrest : rest.splitOn '\n' with
    | nil => exact absurd hrest (List.splitOn_ne_nil _ _)
    | cons first others => simp [hrest]
  | cons c front ih =>
    rw [List.mem_cons, not_or] at h
    rw [List.cons_append, List.splitOn_cons_eq_if_modifyHead, if_neg (by simp [Ne.symm h.1]), ih h.2,
      List.modifyHead_modifyHead]
    rfl

/-- A line without line feeds is one piece. -/
theorem pieces_of_notMem {line : String} (h : '\n' ∉ line.toList) : pieces line = [line] := by
  rw [pieces, List.splitOn_eq_singleton h, List.map_singleton, String.ofList_toList]

/-- The lines of what is printed are the pieces of the lines that were meant. -/
theorem printedLines_join (lines : List String) :
    printedLines (String.join (lines.map (· ++ "\n"))) = lines.flatMap pieces := by
  have hsplit : (String.join (lines.map (· ++ "\n"))).toList.splitOn '\n'
      = lines.flatMap (fun line => line.toList.splitOn '\n') ++ [[]] := by
    induction lines with
    | nil => rfl
    | cons line rest ih =>
      have hline : (String.join ((line :: rest).map (· ++ "\n"))).toList
          = line.toList ++ '\n' :: (String.join (rest.map (· ++ "\n"))).toList := by
        rw [List.map_cons, String.join_cons, String.toList_append, String.toList_append,
          List.append_assoc]
        rfl
      rw [hline, List.splitOn_append_cons_self, ih, List.flatMap_cons, List.append_assoc]
  rw [printedLines, hsplit, List.dropLast_concat, List.map_flatMap]
  rfl

/-! ## Lines on failures -/

theorem toList_failedLine (failure : RawText × String) :
    (failedLine failure).toList
      = failedBeginning.toList ++ ((failure.1.lossy ++ ": ").toList ++ failure.2.toList) := by
  rw [failedLine, String.toList_append, String.toList_append, String.toList_append,
    String.toList_append, List.append_assoc, List.append_assoc]
  simp [failedBeginning]

/-- The first piece of a line on a failure begins like one. -/
theorem pieces_failedLine (failure : RawText × String) :
    ∃ first, isFailedLine first = true
      ∧ pieces (failedLine failure) = first :: (pieces (failedLine failure)).tail := by
  have hbeginning : '\n' ∉ failedBeginning.toList := by decide
  have hsplit : pieces (failedLine failure) = _ :=
    congrArg (List.map String.ofList) ((congrArg (List.splitOn '\n') (toList_failedLine failure)).trans
      (splitOn_append_of_notMem hbeginning _))
  cases hrest : List.splitOn '\n' ((failure.1.lossy ++ ": ").toList ++ failure.2.toList) with
  | nil => exact absurd hrest (List.splitOn_ne_nil _ _)
  | cons first others =>
    rw [hrest] at hsplit
    refine ⟨String.ofList (failedBeginning.toList ++ first), ?_, ?_⟩
    · rw [isFailedLine, String.toList_ofList, List.isPrefixOf_iff_prefix]
      exact List.prefix_append _ _
    · rw [hsplit]
      rfl

/-- Each failure gives one line that begins so, and what its line is continued with may give more. -/
theorem countP_pieces (failed : List (RawText × String)) :
    (failed.flatMap fun failure => pieces (failedLine failure)).countP isFailedLine
      = failed.length + (continued failed).countP isFailedLine := by
  induction failed with
  | nil => rfl
  | cons failure rest ih =>
    obtain ⟨first, hfirst, hpieces⟩ := pieces_failedLine failure
    have hcontinued : continued (failure :: rest)
        = (pieces (failedLine failure)).tail ++ continued rest := List.flatMap_cons
    rw [List.flatMap_cons, List.countP_append, ih, hpieces, List.countP_cons_of_pos hfirst,
      hcontinued, List.countP_append, List.length_cons]
    omega

/-- A line on a failure without line feeds is one piece. -/
theorem pieces_failedLine_of_notMem {failure : RawText × String}
    (hname : '\n' ∉ failure.1.lossy.toList) (herror : '\n' ∉ failure.2.toList) :
    pieces (failedLine failure) = [failedLine failure] := by
  refine pieces_of_notMem ?_
  rw [toList_failedLine, List.mem_append, List.mem_append, String.toList_append, List.mem_append]
  rintro (hmem | (hmem | hmem) | hmem)
  · exact absurd hmem (by decide)
  · exact hname hmem
  · exact absurd hmem (by decide)
  · exact herror hmem

/-- Only the line on its own failure is one on a symbol file, unless its name and a colon begin the
name of another one, or the other way round. -/
theorem isLineOn_failedLine {p : RawText} {failure : RawText × String}
    (hapart : (p.lossy ++ ": ").toList <+: (failure.1.lossy ++ ": ").toList
      ∨ (failure.1.lossy ++ ": ").toList <+: (p.lossy ++ ": ").toList → failure.1 = p) :
    isLineOn p.lossy (failedLine failure) = true ↔ failure.1 = p := by
  rw [isLineOn, List.isPrefixOf_iff_prefix, String.toList_append, toList_failedLine,
    List.prefix_append_right_inj]
  constructor
  · intro hbegins
    -- both names begin the same text, so one of them begins the other
    exact hapart (List.prefix_or_prefix_of_prefix hbegins (List.prefix_append _ _))
  · rintro rfl
    exact List.prefix_append _ _

/-! ## The headline -/

theorem notMem_toString (n : Nat) : '\n' ∉ (toString n).toList := by
  have hdigits : (toString n).toList = Nat.toDigits 10 n := String.toList_ofList
  rw [hdigits]
  intro hmem
  exact absurd (Nat.isDigit_of_mem_toDigits (by decide) (by decide) hmem) (by decide)

theorem headline_eq (succeeded attempted : Nat) :
    headline succeeded attempted = "All pdbs are done. " ++ (toString succeeded
      ++ (" of " ++ (toString attempted ++ " succeeded"))) := by
  -- for any texts, since the words would be taken apart to be compared
  have hassoc : ∀ a b c d e : String, a ++ b ++ c ++ d ++ e = a ++ (b ++ (c ++ (d ++ e))) := by
    intro a b c d e
    rw [String.append_assoc, String.append_assoc, String.append_assoc]
  exact hassoc ..

theorem pieces_headline (succeeded attempted : Nat) :
    pieces (headline succeeded attempted) = [headline succeeded attempted] := by
  refine pieces_of_notMem ?_
  rw [headline_eq]
  simp only [String.toList_append, List.mem_append, not_or]
  exact ⟨by decide, notMem_toString succeeded, by decide, notMem_toString attempted, by decide⟩

/-- The headline begins in another way. -/
theorem isFailedLine_headline (succeeded attempted : Nat) :
    isFailedLine (headline succeeded attempted) = false := by
  rw [isFailedLine, headline_eq, String.toList_append]
  rfl

theorem isLineOn_headline (name : String) (succeeded attempted : Nat) :
    isLineOn name (headline succeeded attempted) = false := by
  rw [isLineOn, headline_eq, String.toList_append (s := failedBeginning),
    String.toList_append (s := "All pdbs are done. ")]
  rfl

/-! ## A report -/

/-- What is read of a report on some symbol files, of which some failed. The first line counts them.
Behind it stand the pieces of the lines on failures. The lines that begin like one on a failure are as
many as the failures and what such pieces add, so they make up the number that is missing exactly when
no piece behind a line feed begins so. Without line feeds there is one line for each failure, and when
no name and a colon begin another name, it is the only line on its symbol file, and there is none on
the others. -/
structure Printed (pdbs : List RawText) (failed : List (RawText × String)) (succeeded : Nat)
    (lines : List String) : Prop where
  lines_eq : lines = headline succeeded pdbs.length
    :: failed.flatMap fun failure => pieces (failedLine failure)
  counted : lines.countP isFailedLine = failed.length + (continued failed).countP isFailedLine
  added : succeeded + lines.countP isFailedLine = pdbs.length
    ↔ ∀ line ∈ continued failed, isFailedLine line = false
  unbroken : (∀ failure ∈ failed, '\n' ∉ failure.1.lossy.toList ∧ '\n' ∉ failure.2.toList) →
    lines = headline succeeded pdbs.length :: failed.map failedLine
  named : (∀ failure ∈ failed, '\n' ∉ failure.1.lossy.toList ∧ '\n' ∉ failure.2.toList) →
    (∀ p ∈ pdbs, ∀ q ∈ pdbs, (p.lossy ++ ": ").toList <+: (q.lossy ++ ": ").toList → p = q) →
    ∀ p ∈ pdbs, lines.countP (isLineOn p.lossy) = if p ∈ failed.map Prod.fst then 1 else 0

/-- The failures of different symbol files are read so, with the others counted as successes. -/
theorem printed_failures {pdbs : List RawText} {failed : List (RawText × String)} {succeeded : Nat}
    (hsubset : failed.map Prod.fst ⊆ pdbs) (honce : (failed.map Prod.fst).Nodup)
    (hsum : succeeded + failed.length = pdbs.length) :
    Printed pdbs failed succeeded (printedLines
      (String.join ((headline succeeded pdbs.length :: failed.map failedLine).map (· ++ "\n")))) := by
  have hlines : printedLines
      (String.join ((headline succeeded pdbs.length :: failed.map failedLine).map (· ++ "\n")))
        = headline succeeded pdbs.length
          :: failed.flatMap fun failure => pieces (failedLine failure) := by
    rw [printedLines_join, List.flatMap_cons, pieces_headline, List.flatMap_map]
    rfl
  have hcount : (headline succeeded pdbs.length
      :: failed.flatMap fun failure => pieces (failedLine failure)).countP isFailedLine
        = failed.length + (continued failed).countP isFailedLine := by
    rw [List.countP_cons_of_neg (by rw [isFailedLine_headline]; decide), countP_pieces]
  have hunbroken : (∀ failure ∈ failed, '\n' ∉ failure.1.lossy.toList ∧ '\n' ∉ failure.2.toList) →
      (failed.flatMap fun failure => pieces (failedLine failure)) = failed.map failedLine := by
    intro h
    rw [List.map_eq_flatMap]
    exact List.flatMap_congr fun failure hfailure =>
      pieces_failedLine_of_notMem (h failure hfailure).1 (h failure hfailure).2
  rw [hlines]
  refine ⟨rfl, hcount, ?_, fun h => by rw [hunbroken h], fun h hapart p hp => ?_⟩
  · rw [hcount]
    constructor
    · intro hadd
      have hnone : (continued failed).countP isFailedLine = 0 := by omega
      simpa using List.countP_eq_zero.mp hnone
    · intro hnone
      have hzero : (continued failed).countP isFailedLine = 0 :=
        List.countP_eq_zero.mpr (by simpa using hnone)
      omega
  · rw [List.countP_cons_of_neg (by rw [isLineOn_headline]; decide), hunbroken h, List.countP_map]
    have hnames : failed.countP (isLineOn p.lossy ∘ failedLine) = (failed.map Prod.fst).count p := by
      rw [List.count_eq_countP, List.countP_map]
      refine List.countP_congr fun failure hfailure => ?_
      have hfound : failure.1 ∈ pdbs := hsubset (List.mem_map_of_mem hfailure)
      rw [Function.comp_apply, isLineOn_failedLine ?_]
      · simp
      · rintro (hbegins | hbegins)
        · exact (hapart p hp _ hfound hbegins).symm
        · exact hapart _ hfound p hp hbegins
    rw [hnames, honce.count]

end Commands

end SourceServer
