import SourceServer.Proofs.Index.Admission
import SourceServer.Proofs.Remote.GitUrl
import SourceServer.Proofs.Remote.Placeholders

/-!
# Indexes for accepted addresses

An address is accepted when it is a URL. When the debugger is to fetch files itself, the template
has to be a URL, too, and that is found out again for every index. What is put into the address may
change its host, so an accepted address may still have no index.

- `Remote.Settles`: a beginning of an address that settles its host.
- `Remote.Settles.parse_template`: then the template is a URL.
- `Index.renders_accepted`: when there are indexes for an accepted address.
-/

namespace SourceServer

open Index (revisionPlaceholder pathPlaceholder)

/-! ## Hosts that templates keep -/

namespace Remote

/-- A beginning of an address settles its host: it is a URL of the web, ends in neither a blank nor
a slash, holds no placeholder, and a separator follows, or nothing. -/
structure Settles (front url : List Char) : Prop where
  web : ∃ parsed, Url.parse (String.ofList front) = .ok parsed
    ∧ (parsed.scheme = "http" ∨ parsed.scheme = "https")
  last : ∃ c ∈ front.getLast?, Url.isEdge c = false ∧ c ≠ '/'
  plain : ¬ HasPlaceholder front
  rest : ∃ back, url = front ++ back ∧ Url.Separated back

theorem Settles.parse_append {front url : List Char} (h : Settles front url) {back : List Char}
    (hback : Url.Separated back) :
    ∃ parsed, Url.parse (String.ofList (front ++ back)) = .ok parsed := by
  obtain ⟨parsed, hparse, hscheme⟩ := h.web
  obtain ⟨last, hlast, hedge, -⟩ := h.last
  obtain ⟨start, rfl⟩ := List.getLast?_eq_some_iff.mp hlast
  refine ⟨parsed, ?_⟩
  rw [List.append_assoc, List.singleton_append]
  exact Url.parse_append hparse hedge hback hscheme

/-- A separator belongs to no placeholder. -/
theorem notMem_placeholder {c : Char} (h : Url.endsAuthority .web c = true) :
    c ∉ userRevision.toList ∧ c ∉ userFilename.toList := by
  rcases Url.endsAuthority_web_iff.mp h with ((rfl | rfl) | rfl) | rfl <;> decide

/-- Only what follows the settled beginning is rewritten. -/
theorem Settles.rewritten {front url : List Char} (h : Settles front url) :
    ∃ back, rewritten url = front ++ back ∧ Url.Separated back := by
  obtain ⟨back, rfl, hback⟩ := h.rest
  have hplain := h.plain
  rw [HasPlaceholder, not_or] at hplain
  cases back with
  | nil =>
    refine ⟨[], ?_, hback⟩
    rw [List.append_nil, rewritten_of_not_hasPlaceholder h.plain]
  | cons c back =>
    obtain ⟨hrevision, hfilename⟩ := notMem_placeholder (hback c rfl)
    refine ⟨c :: Remote.rewritten back, ?_, fun x hx => hback x hx⟩
    rw [Remote.rewritten, Search.replaceAll_append_cons (by decide) hrevision,
      Search.replaceAll_append_cons (by decide) hfilename,
      Search.replaceAll_of_not_infix hplain.1, Search.replaceAll_of_not_infix hplain.2]
    rfl

/-- The slashes that are dropped at the end of an address are behind its settled beginning. -/
theorem Settles.dropFinalSlashes {front url : List Char} (h : Settles front url) :
    ∃ back, dropFinalSlashes url = front ++ back ∧ Url.Separated back := by
  obtain ⟨back, rfl, hback⟩ := h.rest
  obtain ⟨last, hlast, -, hslash⟩ := h.last
  obtain ⟨start, rfl⟩ := List.getLast?_eq_some_iff.mp hlast
  have hkept : (last == '/') = false := by simp [hslash]
  refine ⟨Remote.dropFinalSlashes back, ?_, fun c hc => ?_⟩
  · rw [Remote.dropFinalSlashes, Remote.dropFinalSlashes, List.append_assoc, List.reverse_append,
      List.reverse_append, List.reverse_singleton, List.append_assoc, List.singleton_append,
      Url.dropWhile_append_cons (p := (· == '/')) hkept]
    simp
  · -- a beginning of what follows begins with the separator, too
    obtain ⟨slashes, hslashes⟩ := prefix_dropFinalSlashes back
    refine hback c ?_
    rw [← hslashes, List.head?_append_of_ne_nil]
    · exact hc
    · rintro hnil
      rw [hnil] at hc
      cases hc

/-- The template of an address with a settled host is a URL. -/
theorem Settles.parse_template {url template : String} {front : List Char}
    (h : Settles front url.toList) (htemplate : LeadsTo url template) :
    ∃ parsed, Url.parse template = .ok parsed := by
  rw [← String.ofList_toList (s := template)]
  rcases htemplate with htemplate | ⟨-, rfl⟩
  · obtain ⟨back, hrewritten, hback⟩ := h.rewritten
    rw [(templateOf?_eq_some htemplate).1, hrewritten]
    exact h.parse_append hback
  · obtain ⟨back, hdropped, hback⟩ := h.dropFinalSlashes
    simp only [String.toList_append, String.toList_ofList, hdropped, List.append_assoc]
    refine h.parse_append ?_
    cases back with
    | nil => exact Url.separated_slash _
    | cons c back => exact hback

/-- The template of a GitHub repository is a URL, whatever its parts hold. -/
theorem parse_template_gitHub {url : String} {remote : Remote} (h : gitHub url = .ok remote) :
    ∃ parsed, Url.parse remote.template = .ok parsed := by
  obtain ⟨owner, repository, -, rfl⟩ := gitHub_eq_ok h
  have hhost : Url.parse (String.ofList ("https://raw.githubusercontent.co".toList ++ ['m']))
      = .ok ⟨"https", .domain ["raw".toList, "githubusercontent".toList, "com".toList]⟩ := by
    decide +kernel
  have hsplit : "https://raw.githubusercontent.com/".toList
      = "https://raw.githubusercontent.co".toList ++ ['m', '/'] := rfl
  have htemplate : "https://raw.githubusercontent.com/" ++ owner ++ "/" ++ repository ++ "/"
        ++ revisionPlaceholder ++ "/" ++ pathPlaceholder
      = String.ofList ("https://raw.githubusercontent.co".toList ++ 'm' :: '/'
        :: (owner ++ "/" ++ repository ++ "/" ++ revisionPlaceholder ++ "/"
          ++ pathPlaceholder).toList) := by
    apply String.toList_inj.mp
    simp only [String.toList_append, String.toList_ofList, hsplit, List.append_assoc,
      List.cons_append, List.nil_append]
  rw [htemplate]
  exact ⟨_, Url.parse_append hhost (by decide) (Url.separated_slash _) (.inr rfl)⟩

theorem Accepts.customUrl {url : String} {remote : Remote} {backslashes : Bool}
    (h : Accepts url remote) (hservice : remote.service = .customUrl backslashes) :
    customUrl url backslashes = .ok remote := by
  rcases h.cases with (h | ⟨other, h⟩) | h | h
  · obtain ⟨template, -, rfl⟩ := gitDaemon_eq_ok h
    cases hservice
  · have hother := (customUrl_eq_ok h).2.1
    rw [hservice, Service.customUrl.injEq] at hother
    rwa [hother]
  · obtain ⟨owner, repository, -, rfl⟩ := gitHub_eq_ok h
    cases hservice
  · obtain ⟨collection, project, repository, -, rfl⟩ := teamServices_eq_ok h
    cases hservice

/-- The template of an accepted address is not blank. -/
theorem onlyBlanks_template {url : String} {remote : Remote} (h : Accepts url remote) :
    Unicode.onlyBlanks remote.template = false := by
  have hcount := occurrences_template h (.inl rfl)
  have hfound : revisionPlaceholder.toList <:+: remote.template.toList := by
    by_contra hnone
    rw [(Search.occurrences_eq_zero_iff (by decide)).mpr hnone] at hcount
    split at hcount <;> cases hcount
  have hbrace : '{' ∈ remote.template.toList := hfound.subset (by decide)
  exact Index.onlyBlanks_eq_false hbrace (by decide)

end Remote

namespace Index

variable {url revision : String} {remote : Remote} {files : List Path} {options : LinkOptions}
  {now : Timestamp}

/-- The template is read as a URL for those servers only that no other kind of remote is known
for, and only when the debugger is to fetch files itself. -/
theorem direct_iff (hremote : Remote.Accepts url remote) :
    (remote.dialect = .generic → Retrieval.ofTemplate remote.template options.powershell = .direct →
        ∃ parsed, Url.parse remote.template = .ok parsed)
      ↔ ∀ backslashes, remote.service = .customUrl backslashes → options.powershell = false →
        ∃ parsed, Url.parse remote.template = .ok parsed := by
  rcases hremote.cases with (h | ⟨backslashes, h⟩) | h | h
  · have hgit := Remote.isGitUrl_gitDaemon h
    obtain ⟨template, -, rfl⟩ := Remote.gitDaemon_eq_ok h
    simp [Retrieval.ofTemplate, hgit]
  · have hgit := Remote.isGitUrl_customUrl h
    have hservice := (Remote.customUrl_eq_ok h).2.1
    cases hpowershell : options.powershell <;>
      simp [Retrieval.ofTemplate, hgit, hservice, Remote.dialect]
  · have hparse := Remote.parse_template_gitHub h
    exact iff_of_true (fun _ _ => hparse) (fun _ _ _ => hparse)
  · obtain ⟨collection, project, repository, -, rfl⟩ := Remote.teamServices_eq_ok h
    simp [Remote.dialect]

/-- All that can fail for an accepted address is reading the template. -/
theorem exists_render_indexContext_iff (hremote : Remote.Accepts url remote)
    (hrevision : Revision.IsHexadecimal revision.toList) :
    (∃ text, render (indexContext remote revision files options now) = .ok text)
      ↔ ∀ backslashes, remote.service = .customUrl backslashes → options.powershell = false →
        ∃ parsed, Url.parse remote.template = .ok parsed := by
  have htemplate : AdmitsTemplate (indexContext remote revision files options now)
      ↔ (remote.dialect = .generic →
        Retrieval.ofTemplate remote.template options.powershell = .direct →
          ∃ parsed, Url.parse remote.template = .ok parsed) :=
    imp_congr_right fun _ => and_iff_right (Remote.onlyBlanks_template hremote)
  rw [exists_render_iff, ← direct_iff hremote, ← htemplate]
  exact and_iff_right (admits_of_isHexadecimal hrevision _)

/-- **When there are indexes for an accepted address.** All that can fail is reading the template of
an address that no service is known for, when the debugger is to fetch files itself; and that
succeeds when a beginning of the address settles the host. -/
theorem renders_accepted (hremote : Remote.Accepts url remote)
    (hrevision : Revision.IsHexadecimal revision.toList) :
    ((∃ text, render (indexContext remote revision files options now) = .ok text)
        ↔ ∀ backslashes, remote.service = .customUrl backslashes → options.powershell = false →
          ∃ parsed, Url.parse remote.template = .ok parsed)
      ∧ ((∃ front, Remote.Settles front url.toList) →
        ∃ text, render (indexContext remote revision files options now) = .ok text) := by
  refine ⟨exists_render_indexContext_iff hremote hrevision, fun ⟨front, hfront⟩ => ?_⟩
  rw [exists_render_indexContext_iff hremote hrevision]
  intro backslashes hservice _
  exact hfront.parse_template (Remote.customUrl_eq_ok (hremote.customUrl hservice)).2.2

/-- An address with a path. -/
theorem renders_accepted_path :
    ∃ remote text, Remote.detect "https://host.example/src " = .ok remote
      ∧ render (indexContext remote "deadbeef" [⟨"/s/c.cs"⟩] ⟨⟨"/s"⟩, false, false, .lf⟩
          ⟨2024, 3, 5, 14, 7, 9⟩)
        = .ok text := by
  have hremote : Remote.detect "https://host.example/src "
      = .ok ⟨.customUrl false, "https://host.example/src /\x7b0\x7d/%var2%"⟩ := by
    decide +kernel
  have hsettles : Remote.Settles "https://host.example".toList
      "https://host.example/src ".toList :=
    ⟨⟨⟨"https", .domain ["host".toList, "example".toList]⟩, by decide +kernel, .inr rfl⟩,
      ⟨'e', by decide, by decide, by decide⟩, by decide, "/src ".toList, by decide,
      Url.separated_slash _⟩
  have hrevision : Revision.IsHexadecimal "deadbeef".toList := by decide
  obtain ⟨text, htext⟩ := (renders_accepted (.inl hremote) hrevision).2 ⟨_, hsettles⟩
  exact ⟨_, text, hremote, htext⟩

/-- An accepted address that has no index: a blank that is dropped at its end is not dropped in the
template. -/
theorem not_renders_accepted :
    ∃ url remote, Remote.detect url = .ok remote ∧ Revision.IsHexadecimal "deadbeef".toList
      ∧ ¬ ∃ text, render (indexContext remote "deadbeef" [⟨"/s/c.cs"⟩] ⟨⟨"/s"⟩, false, false, .lf⟩
          ⟨2024, 3, 5, 14, 7, 9⟩)
        = .ok text := by
  have hremote : Remote.detect "https://host.example "
      = .ok ⟨.customUrl false, "https://host.example /\x7b0\x7d/%var2%"⟩ := by
    decide +kernel
  have hparse : Url.parse "https://host.example /\x7b0\x7d/%var2%" = .error .invalidDomainName := by
    decide +kernel
  have hrevision : Revision.IsHexadecimal "deadbeef".toList := by decide
  refine ⟨_, _, hremote, hrevision, ?_⟩
  rw [exists_render_indexContext_iff (.inl hremote) hrevision]
  intro h
  obtain ⟨parsed, hparsed⟩ := h false rfl rfl
  rw [hparse] at hparsed
  cases hparsed

end Index

end SourceServer
