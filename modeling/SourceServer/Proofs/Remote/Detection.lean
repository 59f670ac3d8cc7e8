import SourceServer.Proofs.Remote.GitUrl

/-!
# Detecting the kind of a remote

An address is not tried as every kind of remote. A blank one is refused at once, and one with the
scheme of a plain Git server is tried as nothing else. No remote is missed by this: what is left out
would not have been accepted.

- `Remote.attempts`: the kinds of remote in the order of preference.
- `Remote.exists_isBlank_eq_false`: no kind accepts a blank address.
- `Remote.toOption_detect`: the remote found is that of the first kind that accepts the address.
- `Remote.detect_first_accepted`: when none is found, and what the kind found decides.
-/

namespace SourceServer

namespace Remote

open Index (Retrieval isGitUrl)

/-- An address tried as each kind of remote, in the order of preference. -/
def attempts (url : String) : List (Except Fault Remote) :=
  [gitDaemon url, gitHub url, teamServices url, customUrl url false]

/-! ## Answers -/

theorem toOption_eq_none_iff {answer : Except Fault Remote} :
    answer.toOption = none ↔ ∃ fault, answer = .error fault := by
  cases answer with
  | error fault => exact iff_of_true rfl ⟨fault, rfl⟩
  | ok remote => exact iff_of_false nofun nofun

theorem toOption_eq_none {answer : Except Fault Remote} (h : ∀ remote, answer ≠ .ok remote) :
    answer.toOption = none := by
  cases answer with
  | error fault => rfl
  | ok remote => exact absurd rfl (h remote)

/-! ## Blank addresses -/

/-- The parts of an address are separated by a slash. -/
theorem Shape.Surrounds.slash_mem {text front first second : List Char}
    (h : Surrounds text front first second) : '/' ∈ text := by
  obtain ⟨middle, ending, rfl, -, -⟩ := h.parts
  simp

/-- An address that is accepted as some kind of remote is not blank. -/
theorem exists_isBlank_eq_false {url : String} {remote : Remote} (h : .ok remote ∈ attempts url) :
    ∃ c ∈ url.toList, Unicode.isBlank c = false := by
  simp only [attempts, List.mem_cons, List.not_mem_nil, or_false] at h
  rcases h with h | h | h | h
  · obtain ⟨c, hc, hlower⟩ := head?_of_isGitUrl (isGitUrl_of_gitDaemon h.symm)
    refine ⟨c, List.mem_of_mem_head? hc, ?_⟩
    rcases eq_of_lowerChar hlower with rfl | rfl <;> rfl
  · obtain ⟨owner, repository, hparts, -⟩ := gitHub_eq_ok h.symm
    obtain ⟨front, haddress⟩ := Shape.gitHubParts?_eq_some hparts
    exact ⟨'/', haddress.slash_mem, rfl⟩
  · obtain ⟨collection, project, repository, hparts, -⟩ := teamServices_eq_ok h.symm
    exact ⟨'/', (Shape.teamServicesParts?_eq_some hparts).slash_mem, rfl⟩
  · obtain ⟨⟨parsed, hparse, -⟩, -, -⟩ := customUrl_eq_ok h.symm
    exact ⟨':', Url.colon_mem_of_parse hparse, rfl⟩

/-- No kind of remote accepts a blank address. -/
theorem toOption_of_onlyBlanks {url : String} (hblank : Unicode.onlyBlanks url = true) :
    ∀ answer ∈ attempts url, answer.toOption = none := by
  intro answer hanswer
  refine toOption_eq_none ?_
  rintro remote rfl
  obtain ⟨c, hc, hother⟩ := exists_isBlank_eq_false hanswer
  rw [List.all_eq_true.mp hblank c hc] at hother
  cases hother

/-! ## Plain Git servers -/

/-- Nothing but a plain Git server is reached by its scheme. -/
theorem toOption_of_isGitUrl {url : String} (hgit : isGitUrl url = true) :
    (gitHub url).toOption = none ∧ (teamServices url).toOption = none
      ∧ (customUrl url false).toOption = none := by
  refine ⟨toOption_eq_none fun remote h => ?_, toOption_eq_none fun remote h => ?_,
    toOption_eq_none fun remote h => ?_⟩
  · rw [isGitUrl_of_gitHub h] at hgit
    cases hgit
  · rw [isGitUrl_of_teamServices h] at hgit
    cases hgit
  · rw [isGitUrl_of_customUrl h] at hgit
    cases hgit

/-- A plain Git server is reached by its scheme only. -/
theorem toOption_gitDaemon {url : String} (hgit : isGitUrl url = false) :
    (gitDaemon url).toOption = none := by
  refine toOption_eq_none fun remote h => ?_
  rw [isGitUrl_of_gitDaemon h] at hgit
  cases hgit

/-- Archives are asked for from the remotes found as plain Git servers. -/
theorem isGitUrl_template_iff {url : String} {remote : Remote} (h : detect url = .ok remote) :
    isGitUrl remote.template = true ↔ remote.service = .gitDaemon := by
  rcases detect_eq_ok h with h | h | h | h
  · have hgit := isGitUrl_gitDaemon h
    obtain ⟨template, -, rfl⟩ := gitDaemon_eq_ok h
    exact iff_of_true hgit rfl
  · have hgit := isGitUrl_gitHub h
    obtain ⟨owner, repository, -, rfl⟩ := gitHub_eq_ok h
    exact iff_of_false (by rw [hgit]; exact Bool.false_ne_true) nofun
  · have hgit := isGitUrl_teamServices h
    obtain ⟨collection, project, repository, -, rfl⟩ := teamServices_eq_ok h
    exact iff_of_false (by rw [hgit]; exact Bool.false_ne_true) nofun
  · rw [isGitUrl_customUrl h, (customUrl_eq_ok h).2.1]
    exact iff_of_false Bool.false_ne_true nofun

/-! ## The first kind that accepts an address -/

/-- What is found is the remote of the first kind that accepts the address. -/
theorem toOption_detect (url : String) :
    (detect url).toOption = (attempts url).findSome? Except.toOption := by
  by_cases hblank : Unicode.onlyBlanks url = true
  · rw [List.findSome?_eq_none_iff.mpr (toOption_of_onlyBlanks hblank), detect, if_pos hblank]
    rfl
  · by_cases hgit : isGitUrl url = true
    · obtain ⟨hgitHub, hteam, hcustom⟩ := toOption_of_isGitUrl hgit
      rw [detect, if_neg hblank, if_pos hgit]
      simp only [attempts, List.findSome?_cons, List.findSome?_nil, hgitHub, hteam, hcustom]
      cases (gitDaemon url).toOption <;> rfl
    · rw [detect, if_neg hblank, if_neg hgit]
      simp only [attempts, List.findSome?_cons, List.findSome?_nil,
        toOption_gitDaemon (Bool.eq_false_iff.mpr hgit)]
      cases gitHub url with
      | ok remote => rfl
      | error fault =>
        cases teamServices url with
        | ok remote => rfl
        | error fault => cases customUrl url false <;> rfl

theorem dialect_eq_teamFoundation_iff {remote : Remote} :
    remote.dialect = .teamFoundation
      ↔ ∃ collection project repository,
        remote.service = .teamServices collection project repository := by
  obtain ⟨service, template⟩ := remote
  cases service <;> simp [dialect]

theorem ofTemplate_eq_archive_iff {template : String} {powershell : Bool} :
    Retrieval.ofTemplate template powershell = .archive ↔ isGitUrl template = true := by
  rw [Retrieval.ofTemplate]
  cases isGitUrl template <;> cases powershell <;> simp

/-- **The kind of a remote is that of the first kind to accept its address.** An address is refused
exactly when every kind refuses it. The kind that is found decides how indexes are written: the
Team Foundation dialect is for Team Services alone, and archives are for plain Git servers alone,
with and without PowerShell. -/
theorem detect_first_accepted (url : String) :
    (detect url).toOption = (attempts url).findSome? Except.toOption
      ∧ ((∃ fault, detect url = .error fault)
        ↔ ∀ answer ∈ attempts url, ∃ fault, answer = .error fault)
      ∧ ∀ remote, detect url = .ok remote →
        (remote.dialect = .teamFoundation
          ↔ ∃ collection project repository,
            remote.service = .teamServices collection project repository)
        ∧ ∀ powershell, Retrieval.ofTemplate remote.template powershell = .archive
          ↔ remote.service = .gitDaemon := by
  refine ⟨toOption_detect url, ?_, fun remote h => ⟨dialect_eq_teamFoundation_iff, fun _ => ?_⟩⟩
  · rw [← toOption_eq_none_iff, toOption_detect, List.findSome?_eq_none_iff]
    exact forall₂_congr fun _ _ => toOption_eq_none_iff
  · rw [ofTemplate_eq_archive_iff, isGitUrl_template_iff h]

end Remote

end SourceServer
