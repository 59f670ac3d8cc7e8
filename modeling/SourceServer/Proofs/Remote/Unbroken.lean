import SourceServer.Proofs.Remote.Grammar

/-!
# Line ends in remotes

The shapes of addresses exclude a slash or a question mark here and there, but not line ends: an
address with a line end may be accepted, and the line end is then in what indexes show of the
remote.

- `Remote.Shape.Surrounds.unbroken_iff`: the fixed parts of an address end no line.
- `Remote.unbroken_template_iff`: line ends go from the address to the template.
- `Remote.unbroken_metadata_iff`: and to the variables of a host.
-/

namespace SourceServer

namespace Remote

namespace Shape

/-- The line ends of an address are in the parts of the user's own. -/
theorem Surrounds.unbroken_iff {text front first second : List Char}
    (h : Surrounds text front first second) :
    Unbroken text ↔ Unbroken first ∧ Unbroken second := by
  obtain ⟨middle, ending, rfl, hmiddle, hending⟩ := h.parts
  have hslash : isLineBreak '/' = false := rfl
  simp only [unbroken_append_iff, unbroken_cons_iff, unbroken_of_isAddressChar h.fixed,
    unbroken_of_isAddressChar hmiddle, unbroken_of_isAddressChar hending, hslash, true_and,
    and_true]

end Shape

/-! ## Templates -/

theorem unbroken_templateOf? {url template : String} (h : templateOf? url = .ok (some template)) :
    Unbroken template.toList ↔ Unbroken url.toList := by
  simp only [templateOf?] at h
  split at h
  · cases h
  · simp only [Except.ok.injEq, Option.some.injEq] at h
    rw [← h, String.toList_ofList,
      Search.unbroken_replaceAll_iff (by decide) (by decide) (by decide),
      Search.unbroken_replaceAll_iff (by decide) (by decide) (by decide)]
  · cases h

/-- An address is its part without the final slashes, and these. -/
theorem unbroken_dropFinalSlashes (url : List Char) :
    Unbroken (dropFinalSlashes url) ↔ Unbroken url := by
  have hurl : url
      = dropFinalSlashes url ++ (url.reverse.takeWhile (· == '/')).reverse := by
    rw [dropFinalSlashes, ← List.reverse_append, List.takeWhile_append_dropWhile,
      List.reverse_reverse]
  have hslashes : Unbroken (url.reverse.takeWhile (· == '/')).reverse := by
    intro c hc
    have hslash := List.all_eq_true.mp List.all_takeWhile c (List.mem_reverse.mp hc)
    rw [beq_iff_eq.mp hslash]
    rfl
  conv_rhs => rw [hurl]
  rw [unbroken_append_iff, and_iff_left hslashes]

/-- The template that an address leads to: the address with its placeholders rewritten, or followed
by placeholders when it has none. -/
def LeadsTo (url template : String) : Prop :=
  templateOf? url = .ok (some template)
    ∨ templateOf? url = .ok none
      ∧ template = String.ofList (dropFinalSlashes url.toList) ++ "/" ++ Index.revisionPlaceholder
        ++ "/" ++ Index.pathPlaceholder

theorem LeadsTo.unbroken_iff {url template : String} (h : LeadsTo url template) :
    Unbroken template.toList ↔ Unbroken url.toList := by
  have hrevision : Unbroken Index.revisionPlaceholder.toList := by decide
  have hpath : Unbroken Index.pathPlaceholder.toList := by decide
  have hslash : Unbroken "/".toList := by decide
  rcases h with h | ⟨-, rfl⟩
  · exact unbroken_templateOf? h
  · simp only [String.toList_append, String.toList_ofList, unbroken_append_iff, hslash, hrevision,
      hpath, and_true, unbroken_dropFinalSlashes]

/-! ## Accepted addresses -/

theorem gitDaemon_eq_ok {url : String} {remote : Remote} (h : gitDaemon url = .ok remote) :
    ∃ template, templateOf? url = .ok (some template) ∧ remote = ⟨.gitDaemon, template⟩ := by
  rw [gitDaemon] at h
  split at h
  · cases htemplate : templateOf? url with
    | error fault => rw [htemplate] at h; cases h
    | ok found =>
      rw [htemplate] at h
      cases found with
      | none => cases h
      | some template => exact ⟨template, rfl, (Except.ok.inj h).symm⟩
  · cases h

theorem teamServices_eq_ok {url : String} {remote : Remote} (h : teamServices url = .ok remote) :
    ∃ collection project repository,
      Shape.teamServicesParts? url = some (collection, project, repository)
      ∧ remote = ⟨.teamServices collection project repository,
        collection ++ project ++ "/_apis/git/repositories/" ++ repository
          ++ "/items?api-version=1.0&versionType=commit&version=" ++ Index.revisionPlaceholder
          ++ "&scopePath=" ++ Index.pathPlaceholder⟩ := by
  rw [teamServices] at h
  cases hparts : Shape.teamServicesParts? url with
  | none => rw [hparts] at h; cases h
  | some parts =>
    rw [hparts] at h
    exact ⟨parts.1, parts.2.1, parts.2.2, rfl, (Except.ok.inj h).symm⟩

theorem customUrl_eq_ok {url : String} {backslashes : Bool} {remote : Remote}
    (h : customUrl url backslashes = .ok remote) :
    (∃ parsed, Url.parse url = .ok parsed ∧ (parsed.scheme = "http" ∨ parsed.scheme = "https"))
      ∧ remote.service = .customUrl backslashes ∧ LeadsTo url remote.template := by
  rw [customUrl] at h
  cases hparse : Url.parse url with
  | error fault => rw [hparse] at h; cases h
  | ok parsed =>
    rw [hparse] at h
    dsimp only at h
    split at h
    · rename_i hscheme
      refine ⟨⟨parsed, rfl, hscheme⟩, ?_⟩
      cases htemplate : templateOf? url with
      | error fault => rw [htemplate] at h; cases h
      | ok found =>
        rw [htemplate] at h
        cases found with
        | none =>
          rw [← Except.ok.inj h]
          exact ⟨rfl, .inr ⟨htemplate, rfl⟩⟩
        | some template =>
          rw [← Except.ok.inj h]
          exact ⟨rfl, .inl htemplate⟩
    · cases h

/-- An accepted address is accepted as one kind of remote. -/
theorem detect_eq_ok {url : String} {remote : Remote} (h : detect url = .ok remote) :
    gitDaemon url = .ok remote ∨ gitHub url = .ok remote ∨ teamServices url = .ok remote
      ∨ customUrl url false = .ok remote := by
  rw [detect] at h
  split at h
  · cases h
  · split at h
    · exact .inl h
    · cases hgitHub : gitHub url with
      | ok found => rw [hgitHub] at h; exact .inr (.inl h)
      | error fault =>
        cases hteam : teamServices url with
        | ok found => rw [hgitHub, hteam] at h; exact .inr (.inr (.inl h))
        | error fault => rw [hgitHub, hteam] at h; exact .inr (.inr (.inr h))

/-- The line ends of an accepted address are in the template. -/
theorem unbroken_template_iff {url : String} {remote : Remote} (h : detect url = .ok remote) :
    Unbroken remote.template.toList ↔ Unbroken url.toList := by
  have hrevision : Unbroken Index.revisionPlaceholder.toList := by decide
  have hpath : Unbroken Index.pathPlaceholder.toList := by decide
  have hslash : Unbroken "/".toList := by decide
  rcases detect_eq_ok h with h | h | h | h
  · obtain ⟨template, htemplate, rfl⟩ := gitDaemon_eq_ok h
    exact unbroken_templateOf? htemplate
  · obtain ⟨owner, repository, hparts, rfl⟩ := gitHub_eq_ok h
    have hhost : Unbroken "https://raw.githubusercontent.com/".toList := by decide
    obtain ⟨front, haddress⟩ := Shape.gitHubParts?_eq_some hparts
    rw [haddress.unbroken_iff]
    simp only [String.toList_append, unbroken_append_iff, hhost, hslash, hrevision, hpath,
      true_and, and_true]
  · obtain ⟨collection, project, repository, hparts, rfl⟩ := teamServices_eq_ok h
    have haddress := Shape.teamServicesParts?_eq_some hparts
    have hcollection := Shape.unbroken_of_isAddressChar haddress.fixed
    have hrepositories : Unbroken "/_apis/git/repositories/".toList := by decide
    have hitems : Unbroken "/items?api-version=1.0&versionType=commit&version=".toList := by decide
    have hscope : Unbroken "&scopePath=".toList := by decide
    rw [haddress.unbroken_iff]
    simp only [String.toList_append, unbroken_append_iff, hcollection, hrepositories, hitems,
      hscope, hrevision, hpath, true_and, and_true]
  · exact (customUrl_eq_ok h).2.2.unbroken_iff

/-- The line ends of an accepted address are in the variables that the Team Foundation dialect
shows. -/
theorem unbroken_metadata_iff {url : String} {remote : Remote} (h : detect url = .ok remote)
    (hdialect : remote.dialect = .teamFoundation) :
    (∀ metavariable ∈ remote.metadata, Unbroken metavariable.2.toList) ↔ Unbroken url.toList := by
  rcases detect_eq_ok h with h | h | h | h
  · obtain ⟨template, -, rfl⟩ := gitDaemon_eq_ok h
    cases hdialect
  · obtain ⟨owner, repository, -, rfl⟩ := gitHub_eq_ok h
    cases hdialect
  · obtain ⟨collection, project, repository, hparts, rfl⟩ := teamServices_eq_ok h
    have haddress := Shape.teamServicesParts?_eq_some hparts
    have hcollection := Shape.unbroken_of_isAddressChar haddress.fixed
    rw [haddress.unbroken_iff]
    simp [metadata, hcollection, and_comm]
  · rw [dialect, (customUrl_eq_ok h).2.1] at hdialect
    cases hdialect

end Remote

end SourceServer
