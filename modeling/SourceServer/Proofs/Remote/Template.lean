import SourceServer.Proofs.Remote.Unbroken
import SourceServer.Proofs.Text.Replacing

/-!
# Templates of addresses

The template of an address is the address with its placeholders written the way of templates. The
two kinds of placeholder do not overlap, so they can be rewritten one after the other.

- `Remote.HasPlaceholder`: addresses that say where the revision or the path belongs.
- `Remote.rewritten`: the address with other placeholders.
- `Remote.templateOf?_eq_some`, `Remote.templateOf?_eq_none`: when it is a template.
-/

namespace SourceServer

namespace Remote

open Index (revisionPlaceholder pathPlaceholder)
open Search (Insulated replaceAll occurrences)

/-- An address that says where the revision or the path of the file belongs. -/
def HasPlaceholder (url : List Char) : Prop :=
  userRevision.toList <:+: url ∨ userFilename.toList <:+: url

instance (url : List Char) : Decidable (HasPlaceholder url) :=
  inferInstanceAs (Decidable (_ ∨ _))

/-- An address with the placeholders of templates. -/
def rewritten (url : List Char) : List Char :=
  replaceAll userFilename.toList pathPlaceholder.toList
    (replaceAll userRevision.toList revisionPlaceholder.toList url)

/-- A placeholder of the revision is not confused with the user's placeholder of the path. -/
theorem insulated_userFilename_revision :
    Insulated userFilename.toList revisionPlaceholder.toList :=
  Search.insulated_of_ends (by decide) (by decide) ['0']

/-- The two placeholders of templates are not confused. -/
theorem insulated_revision_path : Insulated revisionPlaceholder.toList pathPlaceholder.toList :=
  Search.insulated_of_ends (by decide) (by decide) ['v', 'a', 'r', '2']

/-- Nothing is rewritten in an address without placeholders. -/
theorem rewritten_of_not_hasPlaceholder {url : List Char} (h : ¬ HasPlaceholder url) :
    rewritten url = url := by
  rw [HasPlaceholder, not_or] at h
  rw [rewritten, Search.replaceAll_of_not_infix h.1, Search.replaceAll_of_not_infix h.2]

/-- A rewritten address without placeholders had none. -/
theorem not_hasPlaceholder_of_rewritten {url : List Char}
    (hrevision : ¬ revisionPlaceholder.toList <:+: rewritten url)
    (hpath : ¬ pathPlaceholder.toList <:+: rewritten url) : ¬ HasPlaceholder url := by
  have hfilename : ¬ userFilename.toList
      <:+: replaceAll userRevision.toList revisionPlaceholder.toList url :=
    fun h => hpath (Search.infix_replaceAll h (by decide) _)
  -- the path was not rewritten, so all that could be is the revision
  rw [rewritten, Search.replaceAll_of_not_infix hfilename] at hrevision
  have huser : ¬ userRevision.toList <:+: url :=
    fun h => hrevision (Search.infix_replaceAll h (by decide) _)
  rw [Search.replaceAll_of_not_infix huser] at hfilename
  rw [HasPlaceholder, not_or]
  exact ⟨huser, hfilename⟩

theorem prefix_dropFinalSlashes (url : List Char) : dropFinalSlashes url <+: url := by
  rw [dropFinalSlashes, ← List.reverse_suffix, List.reverse_reverse]
  exact List.dropWhile_suffix _

/-! ## When an address is a template -/

theorem templateOf?_eq_some {url template : String} (h : templateOf? url = .ok (some template)) :
    template.toList = rewritten url.toList
      ∧ occurrences revisionPlaceholder.toList template.toList = 1
      ∧ occurrences pathPlaceholder.toList template.toList = 1 := by
  simp only [templateOf?] at h
  split at h
  · cases h
  · rename_i hrevision hpath
    simp only [Except.ok.injEq, Option.some.injEq] at h
    rw [← h, String.toList_ofList]
    exact ⟨rfl, hrevision, hpath⟩
  · cases h

theorem templateOf?_eq_none {url : String} (h : templateOf? url = .ok none) :
    ¬ HasPlaceholder url.toList ∧ ¬ revisionPlaceholder.toList <:+: url.toList
      ∧ ¬ pathPlaceholder.toList <:+: url.toList := by
  simp only [templateOf?] at h
  split at h
  · rename_i hrevision hpath
    rw [Search.occurrences_eq_zero_iff (by decide)] at hrevision hpath
    have hplain := not_hasPlaceholder_of_rewritten hrevision hpath
    rw [← rewritten, rewritten_of_not_hasPlaceholder hplain] at hrevision hpath
    exact ⟨hplain, hrevision, hpath⟩
  · cases h
  · cases h

/-- An address that is a template, but does not look like one, says where the revision belongs. -/
theorem hasPlaceholder_of_templateOf? {url template : String}
    (h : templateOf? url = .ok (some template))
    (hurl : ¬ revisionPlaceholder.toList <:+: url.toList) : HasPlaceholder url.toList := by
  obtain ⟨htemplate, hrevision, -⟩ := templateOf?_eq_some h
  by_contra hplain
  rw [htemplate, rewritten_of_not_hasPlaceholder hplain,
    (Search.occurrences_eq_zero_iff (by decide)).mpr hurl] at hrevision
  cases hrevision

/-- A plain Git server or any server of the web is asked for files by its address. -/
theorem leadsTo_of_accepted {url : String} {remote : Remote}
    (h : gitDaemon url = .ok remote ∨ ∃ backslashes, customUrl url backslashes = .ok remote) :
    (remote.service = .gitDaemon ∨ ∃ backslashes, remote.service = .customUrl backslashes)
      ∧ LeadsTo url remote.template := by
  rcases h with h | ⟨backslashes, h⟩
  · obtain ⟨template, htemplate, rfl⟩ := gitDaemon_eq_ok h
    exact ⟨.inl rfl, .inl htemplate⟩
  · obtain ⟨-, hservice, htemplate⟩ := customUrl_eq_ok h
    exact ⟨.inr ⟨backslashes, hservice⟩, htemplate⟩

end Remote

end SourceServer
