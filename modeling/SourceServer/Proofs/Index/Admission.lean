import SourceServer.Proofs.Index.Substitution
import SourceServer.Proofs.Link.Effect

/-!
# What an index asks of its revision and its template

Building an index fails for a revision or a template that the dialect does not admit, and for
nothing else. A dialect admits every revision of at least eight hexadecimal digits, but others, too:
the generic one all that are not blank, and that of Team Foundation all that begin with eight
hexadecimal digits.

- `Index.Admits`, `Index.AdmitsTemplate`: what a dialect asks.
- `Index.exists_render_iff`: when there is an index.
- `Index.render_of_not_admits`, `link_of_not_admits`: what happens to other revisions.
- `Index.checksRevision_iff`: where all revisions but those of hexadecimal digits are refused.
-/

namespace SourceServer

/-! ## Revisions of hexadecimal digits -/

namespace Index

theorem onlyBlanks_eq_false {s : String} {c : Char} (hc : c ∈ s.toList)
    (hblank : Unicode.isBlank c = false) : Unicode.onlyBlanks s = false := by
  rw [Unicode.onlyBlanks, List.all_eq_false]
  exact ⟨c, hc, by simp [hblank]⟩

end Index

namespace Revision

theorem isBlank_of_isHexDigit {c : Char} (h : Ascii.isHexDigit c = true) :
    Unicode.isBlank c = false := by
  have hcode : (48 ≤ c.toNat ∧ c.toNat ≤ 57) ∨ (97 ≤ c.toNat ∧ c.toNat ≤ 102)
      ∨ (65 ≤ c.toNat ∧ c.toNat ≤ 70) := by
    simp only [Ascii.isHexDigit, Ascii.isDigit, Bool.or_eq_true, decide_eq_true_iff] at h
    exact h
  simp only [Unicode.isBlank, Bool.or_eq_false_iff, decide_eq_false_iff_not, beq_eq_false_iff_ne]
  omega

/-- The beginning of a revision from which its short form is taken. -/
def BeginsHexadecimal (revision : String) : Prop :=
  IsHexadecimal (revision.toList.take Index.shortLength)

instance (revision : String) : Decidable (BeginsHexadecimal revision) :=
  inferInstanceAs (Decidable (IsHexadecimal _))

variable {revision : String}

theorem IsHexadecimal.begins (h : IsHexadecimal revision.toList) : BeginsHexadecimal revision := by
  constructor
  · rw [List.length_take, Nat.min_eq_left h.1]
  · exact List.all_eq_true.mpr fun c hc => h.isHexDigit c (List.mem_of_mem_take hc)

theorem BeginsHexadecimal.onlyBlanks (h : BeginsHexadecimal revision) :
    Unicode.onlyBlanks revision = false := by
  cases hrevision : revision.toList with
  | nil =>
    have hlength := h.1
    rw [hrevision] at hlength
    cases hlength
  | cons c rest =>
    have hc : c ∈ revision.toList.take Index.shortLength := by
      rw [hrevision]
      exact List.mem_cons_self
    exact Index.onlyBlanks_eq_false (List.mem_of_mem_take hc)
      (isBlank_of_isHexDigit (h.isHexDigit c hc))

/-- A revision has a short form exactly when it begins with enough hexadecimal digits. -/
theorem shortRevision_eq (revision : String) :
    Index.shortRevision revision
      = if BeginsHexadecimal revision then
          .ok (String.ofList (revision.toList.take Index.shortLength))
        else .error (.noShortRevision revision) := by
  have hlength : (revision.toList.take Index.shortLength).length = Index.shortLength
      ↔ Index.shortLength ≤ (revision.toList.take Index.shortLength).length := by
    have hle := List.length_take_le Index.shortLength revision.toList
    omega
  have hbegins : (revision.toList.take Index.shortLength).length = Index.shortLength
        ∧ (revision.toList.take Index.shortLength).all Ascii.isHexDigit = true
      ↔ BeginsHexadecimal revision :=
    and_congr_left' hlength
  rw [Index.shortRevision]
  by_cases h : BeginsHexadecimal revision
  · rw [if_pos h]
    exact if_pos (hbegins.mpr h)
  · rw [if_neg h]
    exact if_neg (mt hbegins.mp h)

theorem exists_shortRevision_iff {revision : String} :
    (∃ short, Index.shortRevision revision = .ok short) ↔ BeginsHexadecimal revision := by
  rw [shortRevision_eq]
  by_cases h : BeginsHexadecimal revision
  · rw [if_pos h]
    exact iff_of_true ⟨_, rfl⟩ h
  · rw [if_neg h]
    exact iff_of_false (by simp) h

end Revision

/-! ## What is asked -/

namespace Index

/-- What a dialect asks of a revision: the generic one that it is not blank, that of Team Foundation
that it has a short form. -/
def Admits : Dialect → String → Prop
  | .generic, revision => Unicode.onlyBlanks revision = false
  | .teamFoundation, revision => Revision.BeginsHexadecimal revision

instance : (dialect : Dialect) → (revision : String) → Decidable (Admits dialect revision)
  | .generic, revision => inferInstanceAs (Decidable (Unicode.onlyBlanks revision = false))
  | .teamFoundation, revision => inferInstanceAs (Decidable (Revision.BeginsHexadecimal revision))

/-- What a dialect asks of the template: the generic one that it is not blank, and that it is a URL
when the debugger is to fetch files itself. -/
def AdmitsTemplate (context : Context) : Prop :=
  context.dialect = .generic → Unicode.onlyBlanks context.template = false
    ∧ (context.retrieval = .direct → ∃ parsed, Url.parse context.template = .ok parsed)

/-- What is wrong with a revision that is not admitted. -/
def revisionFault (revision : String) : Fault :=
  if Unicode.onlyBlanks revision then .emptyRevision else .noShortRevision revision

/-- No dialect refuses a revision of hexadecimal digits. -/
theorem admits_of_isHexadecimal {revision : String}
    (h : Revision.IsHexadecimal revision.toList) : ∀ dialect, Admits dialect revision
  | .generic => h.begins.onlyBlanks
  | .teamFoundation => h.begins

theorem onlyBlanks_of_admits {dialect : Dialect} {revision : String}
    (h : Admits dialect revision) : Unicode.onlyBlanks revision = false := by
  cases dialect with
  | generic => exact h
  | teamFoundation => exact Revision.BeginsHexadecimal.onlyBlanks h

variable {context : Context}

/-- How files are obtained can be told unless the template has to be a URL. -/
theorem exists_retrievalLines_iff :
    (∃ lines, retrievalLines context = .ok lines)
      ↔ (context.retrieval = .direct → ∃ parsed, Url.parse context.template = .ok parsed) := by
  rw [retrievalLines]
  cases context.retrieval with
  | archive => exact iff_of_true ⟨_, rfl⟩ (by simp)
  | powershell => exact iff_of_true ⟨_, rfl⟩ (by simp)
  | direct =>
    cases Url.parse context.template with
    | error fault => exact iff_of_false (by simp) (by simp)
    | ok parsed => exact iff_of_true ⟨_, rfl⟩ fun _ => ⟨parsed, rfl⟩

theorem exists_genericLines_iff :
    (∃ lines, genericLines context = .ok lines)
      ↔ Unicode.onlyBlanks context.template = false
        ∧ ∃ lines, retrievalLines context = .ok lines := by
  rw [genericLines]
  cases Unicode.onlyBlanks context.template with
  | true => exact iff_of_false (by simp) (by simp)
  | false =>
    rw [if_neg Bool.false_ne_true]
    cases retrievalLines context with
    | error fault => exact iff_of_false (by simp) (by simp)
    | ok retrieval => exact iff_of_true ⟨_, rfl⟩ ⟨rfl, _, rfl⟩

theorem exists_teamFoundationLines_iff :
    (∃ lines, teamFoundationLines context = .ok lines)
      ↔ Revision.BeginsHexadecimal context.revision := by
  rw [teamFoundationLines, ← Revision.exists_shortRevision_iff]
  cases shortRevision context.revision with
  | error fault => exact iff_of_false (by simp) (by simp)
  | ok short => exact iff_of_true ⟨_, rfl⟩ ⟨short, rfl⟩

/-- There is an index exactly when the dialect admits the revision and the template. -/
theorem exists_render_iff :
    (∃ text, render context = .ok text)
      ↔ Admits context.dialect context.revision ∧ AdmitsTemplate context := by
  have hlines : (∃ text, render context = .ok text) ↔ ∃ lines, Index.lines context = .ok lines := by
    constructor
    · rintro ⟨text, htext⟩
      obtain ⟨lines, hlines, -⟩ := render_eq_ok.mp htext
      exact ⟨lines, hlines⟩
    · rintro ⟨lines, hlines⟩
      exact ⟨_, render_eq_ok.mpr ⟨lines, hlines, rfl⟩⟩
  rw [hlines, Index.lines]
  by_cases hblank : Unicode.onlyBlanks context.revision = true
  · rw [if_pos hblank]
    refine iff_of_false (by simp) fun h => ?_
    rw [onlyBlanks_of_admits h.1] at hblank
    cases hblank
  · rw [if_neg hblank, AdmitsTemplate]
    cases context.dialect with
    | generic =>
      have hadmits : Admits .generic context.revision := Bool.eq_false_iff.mpr hblank
      rw [and_iff_right hadmits, ← exists_retrievalLines_iff]
      exact exists_genericLines_iff.trans ⟨fun h _ => h, fun h => h rfl⟩
    | teamFoundation =>
      exact exists_teamFoundationLines_iff.trans ⟨fun h => ⟨h, by simp⟩, fun h => h.1⟩

/-- Building an index for a revision that is not admitted fails for the revision, whatever else the
index is to hold. -/
theorem render_of_not_admits (h : ¬ Admits context.dialect context.revision) :
    render context = .error (revisionFault context.revision) := by
  rw [render, Index.lines, revisionFault]
  by_cases hblank : Unicode.onlyBlanks context.revision = true
  · rw [if_pos hblank, if_pos hblank]
  · rw [if_neg hblank, if_neg hblank]
    cases hdialect : context.dialect with
    | generic =>
      rw [hdialect, Admits] at h
      exact absurd (Bool.eq_false_iff.mpr hblank) h
    | teamFoundation =>
      rw [hdialect, Admits] at h
      simp only [teamFoundationLines, Revision.shortRevision_eq, if_neg h]

end Index

/-! ## Linking -/

section Link

variable {fs : FileSystem} {job : Job} {remote : Remote} {revision : String}
  {options : LinkOptions} {now : Timestamp}

/-- With a revision that is not admitted, linking fails and writes nothing. The revision is what
failed, unless the symbol file was not there or could not be read. -/
theorem link_of_not_admits (h : ¬ Index.Admits remote.dialect revision) :
    ∃ failure, (link fs job remote revision options now).value = (fs, .error failure)
      ∧ ∀ node files mismatches, fs.node job.pdb = .ok node →
        (chosenFiles fs job options).result = .ok (files, mismatches) →
        failure = .index (Index.revisionFault revision) := by
  have hrender : ∀ files, Index.render (indexContext remote revision files options now)
      = .error (Index.revisionFault revision) := fun files => Index.render_of_not_admits h
  rw [link_value]
  cases hplan : (linkPlan fs job remote revision options now).result with
  | error failure =>
    refine ⟨failure, rfl, fun node files mismatches hnode hchosen => ?_⟩
    have hfailure : (linkPlan fs job remote revision options now).result
        = .error (.index (Index.revisionFault revision)) := by
      simp only [linkPlan, Task.result_bind, Task.result_log, Task.result_ofExcept, hnode, hchosen,
        hrender, Except.mapError]
      rfl
    rw [hplan] at hfailure
    exact Except.error.inj hfailure
  | ok plan =>
    obtain ⟨files, -, -, hfiles, -⟩ := linkPlan_eq_ok hplan
    rw [hrender files] at hfiles
    cases hfiles

end Link

/-! ## What is checked -/

namespace Index

/-- If there is an index, its revision consists of at least eight hexadecimal digits. -/
def ChecksRevision (context : Context) : Prop :=
  (∃ text, render context = .ok text) → Revision.IsHexadecimal context.revision.toList

/-- **Which revisions are refused.** Those that the dialect does not admit have no index: building one
fails for the revision, and linking writes nothing. All others have one, if the template is
admitted, whether or not they consist of hexadecimal digits. -/
theorem checksRevision_iff (context : Context) :
    ((∃ text, render context = .ok text)
        ↔ Admits context.dialect context.revision ∧ AdmitsTemplate context)
      ∧ (ChecksRevision context ↔ Revision.IsHexadecimal context.revision.toList
        ∨ ¬ Admits context.dialect context.revision ∨ ¬ AdmitsTemplate context)
      ∧ (¬ Admits context.dialect context.revision →
        render context = .error (revisionFault context.revision)
          ∧ ∀ (fs : FileSystem) (job : Job) (remote : Remote) (options : LinkOptions)
            (now : Timestamp), remote.dialect = context.dialect →
            ∃ failure,
              (link fs job remote context.revision options now).value = (fs, .error failure)
              ∧ ∀ node files mismatches, fs.node job.pdb = .ok node →
                (chosenFiles fs job options).result = .ok (files, mismatches) →
                failure = .index (revisionFault context.revision)) := by
  refine ⟨exists_render_iff, ?_, fun hrefused => ⟨render_of_not_admits hrefused, ?_⟩⟩
  · rw [ChecksRevision, exists_render_iff, ← not_and_or]
    exact imp_iff_or_not
  · intro fs job remote options now hdialect
    refine link_of_not_admits ?_
    rwa [hdialect]

/-- Indexes of other revisions, one in each dialect: the name of a branch, and a revision whose
first eight characters only are digits. -/
theorem not_checksRevision :
    ¬ ChecksRevision ⟨"main", "https://host/\x7b0\x7d/%var2%", [("C:/src/a.cs", "a.cs")], .direct,
        .generic, [], ⟨2024, 3, 5, 14, 7, 9⟩, .lf⟩
      ∧ ¬ ChecksRevision ⟨"deadbeef-dirty", "https://host/\x7b0\x7d/%var2%",
        [("C:/src/a.cs", "a.cs")], .direct, .teamFoundation, [], ⟨2024, 3, 5, 14, 7, 9⟩, .lf⟩ := by
  constructor
  · intro h
    have hparse : Url.parse "https://host/\x7b0\x7d/%var2%"
        = .ok ⟨"https", .domain ["host".toList]⟩ := by
      decide +kernel
    have hhexadecimal := h (exists_render_iff.mpr
      ⟨by decide, fun _ => ⟨by decide, fun _ => ⟨_, hparse⟩⟩⟩)
    exact absurd hhexadecimal (by decide)
  · intro h
    have hhexadecimal := h (exists_render_iff.mpr ⟨by decide, nofun⟩)
    exact absurd hhexadecimal (by decide)

end Index

end SourceServer
