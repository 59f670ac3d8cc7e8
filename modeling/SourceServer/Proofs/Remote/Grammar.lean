import SourceServer.Proofs.Remote.Parts

/-!
# Grammars of repository addresses

The readers of addresses go forward only and never try a part again, while an address is a text that
can be split in some way. Here the two agree: no optional part can be taken for what follows it, so
an address is read in the one way in which it can be split.

- `Remote.Shape.IsGitHubAddress`, `Remote.Shape.gitHubParts?_eq_some_iff`: addresses of GitHub
  repositories.
- `Remote.Shape.IsTeamServicesAddress`, `Remote.Shape.isTeamServicesAddress_of_parts?`: addresses of
  Team Services repositories.
- `Remote.Shape.Surrounds`: two parts of the user's own in an address with fixed parts around them.
- `Remote.gitHub_accepts_grammar`: which addresses are accepted, and as which GitHub repositories.
-/

namespace SourceServer

namespace Remote

namespace Shape

/-! ## GitHub -/

/-- An address of a GitHub repository: its owner and its name between fixed parts, which are written
in any case and some of which may be missing. -/
structure IsGitHubAddress (text owner name : List Char) : Prop where
  spelled : ∃ scheme www host slash,
    text = scheme ++ (www ++ (host ++ (owner ++ '/' :: (name ++ slash))))
      ∧ IsWebScheme scheme ∧ (www = [] ∨ Matches "www.".toList www)
      ∧ Matches "github.com/".toList host ∧ (slash = [] ∨ slash = ['/'])
  isPart : IsPart owner
  isName : IsName name

/-- Behind the optional parts of a GitHub address stands its host. -/
theorem dropOptional_gitHub {scheme www host rest : List Char} (hscheme : IsWebScheme scheme)
    (hwww : www = [] ∨ Matches "www.".toList www) (hhost : Matches "github.com/".toList host) :
    dropFixed? "github.com/".toList
        (dropOptional "www.".toList (dropWebScheme (scheme ++ (www ++ (host ++ rest)))))
      = some rest := by
  have hrest : dropFixed? "github.com/".toList (host ++ rest) = some rest :=
    dropFixed?_eq_some_iff.mpr ⟨host, hhost, rfl⟩
  -- the host begins neither like the optional part before it nor like a scheme
  have hnoWww : dropFixed? "www.".toList (host ++ rest) = none :=
    hhost.dropFixed?_eq_none rest (by decide) (by decide) (by decide)
  have hnoScheme : dropFixed? "http".toList (www ++ (host ++ rest)) = none := by
    rcases hwww with rfl | hwww
    · exact hhost.dropFixed?_eq_none rest (by decide) (by decide) (by decide)
    · exact hwww.dropFixed?_eq_none (host ++ rest) (by decide) (by decide) (by decide)
  rw [dropWebScheme_append hscheme hnoScheme, dropOptional_append hwww hnoWww, hrest]

/-- A text is read as a GitHub address exactly when it is one. -/
theorem gitHubParts?_eq_some_iff {url owner repository : String} :
    gitHubParts? url = some (owner, repository)
      ↔ ∃ name, IsGitHubAddress url.toList owner.toList name
        ∧ NamesRepository name repository.toList := by
  constructor
  · intro h
    rw [gitHubParts?] at h
    obtain ⟨scheme, hscheme, hisScheme⟩ := dropWebScheme_eq url.toList
    obtain ⟨www, hwww, hisWww⟩ := dropOptional_eq "www.".toList (dropWebScheme url.toList)
    cases hhost : dropFixed? "github.com/".toList
        (dropOptional "www.".toList (dropWebScheme url.toList)) with
    | none => rw [hhost] at h; cases h
    | some rest =>
      rw [hhost] at h
      dsimp only at h
      cases hpart : part? rest with
      | none => rw [hpart] at h; cases h
      | some parts =>
        obtain ⟨part, behind⟩ := parts
        simp only [hpart] at h
        cases hname : finalName? behind with
        | none => rw [hname] at h; cases h
        | some name =>
          simp only [hname, Option.some.injEq, Prod.mk.injEq] at h
          obtain ⟨rfl, rfl⟩ := h
          obtain ⟨host, hisHost, hrest⟩ := dropFixed?_eq_some_iff.mp hhost
          obtain ⟨rfl, hisPart⟩ := part?_eq_some_iff.mp hpart
          obtain ⟨⟨slash, rfl, hslash⟩, hisName⟩ := finalName?_eq_some_iff.mp hname
          rw [String.toList_ofList, String.toList_ofList]
          rw [hwww, hrest] at hscheme
          refine ⟨name, ⟨?_, hisPart, hisName⟩, dropGitEnding_eq_iff.mp rfl⟩
          exact ⟨scheme, www, host, slash, hscheme, hisScheme, hisWww, hisHost, hslash⟩
  · rintro ⟨name, ⟨⟨scheme, www, host, slash, htext, hscheme, hwww, hhost, hslash⟩, hpart, hname⟩,
      hrepository⟩
    have hread : part? (owner.toList ++ '/' :: (name ++ slash))
        = some (owner.toList, name ++ slash) := part?_eq_some_iff.mpr ⟨rfl, hpart⟩
    have hfinal : finalName? (name ++ slash) = some name :=
      finalName?_eq_some_iff.mpr ⟨⟨slash, rfl, hslash⟩, hname⟩
    rw [gitHubParts?, htext, dropOptional_gitHub hscheme hwww hhost]
    dsimp only
    rw [hread]
    dsimp only
    rw [hfinal]
    dsimp only
    rw [dropGitEnding_eq_iff.mpr hrepository, String.ofList_toList, String.ofList_toList]

/-! ## Team Services -/

/-- A collection of Team Services: the host of an account, or the shared host and an account. -/
def IsCollection (collection : List Char) : Prop :=
  ∃ first account last, collection = first ++ (account ++ last) ∧ IsAccount account
    ∧ (Matches "https://".toList first ∧ Matches ".visualstudio.com/".toList last
      ∨ Matches "https://dev.azure.com/".toList first ∧ Matches ['/'] last)

/-- An address of a Team Services repository: a collection, a project and a name, with a fixed part
between the last two. -/
structure IsTeamServicesAddress (text collection project name : List Char) : Prop where
  spelled : ∃ git slash, text = collection ++ (project ++ '/' :: (git ++ (name ++ slash)))
    ∧ Matches "_git/".toList git ∧ (slash = [] ∨ slash = ['/'])
  isCollection : IsCollection collection
  isPart : IsPart project
  isName : IsName name

/-- What follows a fixed part, an account and another fixed part. -/
def behindAccount? (first last text : List Char) : Option (List Char) :=
  match dropFixed? first text with
  | none => none
  | some rest =>
    match account? rest with
    | none => none
    | some (_, rest) => dropFixed? last rest

theorem behindAccount?_eq_some {first last text rest : List Char}
    (h : behindAccount? first last text = some rest) :
    ∃ front account ending, text = (front ++ (account ++ ending)) ++ rest ∧ IsAccount account
      ∧ Matches first front ∧ Matches last ending := by
  rw [behindAccount?] at h
  cases hfirst : dropFixed? first text with
  | none => rw [hfirst] at h; cases h
  | some behind =>
    rw [hfirst] at h
    dsimp only at h
    cases haccount : account? behind with
    | none => rw [haccount] at h; cases h
    | some parts =>
      obtain ⟨account, tail⟩ := parts
      rw [haccount] at h
      dsimp only at h
      obtain ⟨front, hfront, rfl⟩ := dropFixed?_eq_some_iff.mp hfirst
      obtain ⟨rfl, hisAccount⟩ := account?_eq_some haccount
      obtain ⟨ending, hending, rfl⟩ := dropFixed?_eq_some_iff.mp h
      refine ⟨front, account, ending, ?_, hisAccount, hfront, hending⟩
      rw [List.append_assoc, List.append_assoc]

theorem isCollection_of_afterHost? {text rest : List Char}
    (h : afterAccountHost? text = some rest ∨ afterSharedHost? text = some rest) :
    ∃ collection, text = collection ++ rest ∧ IsCollection collection := by
  rcases h with h | h
  · have h : behindAccount? "https://".toList ".visualstudio.com/".toList text = some rest := h
    obtain ⟨first, account, last, htext, haccount, hfirst, hlast⟩ := behindAccount?_eq_some h
    exact ⟨_, htext, first, account, last, rfl, haccount, .inl ⟨hfirst, hlast⟩⟩
  · have h : behindAccount? "https://dev.azure.com/".toList ['/'] text = some rest := h
    obtain ⟨first, account, last, htext, haccount, hfirst, hlast⟩ := behindAccount?_eq_some h
    exact ⟨_, htext, first, account, last, rfl, haccount, .inr ⟨hfirst, hlast⟩⟩

/-- What follows a collection is a project and a repository. -/
theorem projectParts?_eq_some {rest project name : List Char}
    (h : projectParts? rest = some (project, name)) :
    (∃ git slash, rest = project ++ '/' :: (git ++ (name ++ slash))
      ∧ Matches "_git/".toList git ∧ (slash = [] ∨ slash = ['/'])) ∧ IsPart project
      ∧ IsName name := by
  rw [projectParts?] at h
  cases hpart : part? rest with
  | none => rw [hpart] at h; cases h
  | some parts =>
    obtain ⟨part, behind⟩ := parts
    simp only [hpart] at h
    cases hgit : dropFixed? "_git/".toList behind with
    | none => rw [hgit] at h; cases h
    | some last =>
      rw [hgit] at h
      dsimp only at h
      obtain ⟨_, hname, hparts⟩ := Option.map_eq_some_iff.mp h
      obtain ⟨rfl, rfl⟩ := Prod.mk.inj hparts
      obtain ⟨rfl, hisPart⟩ := part?_eq_some_iff.mp hpart
      obtain ⟨git, hisGit, rfl⟩ := dropFixed?_eq_some_iff.mp hgit
      obtain ⟨⟨slash, rfl, hslash⟩, hisName⟩ := finalName?_eq_some_iff.mp hname
      exact ⟨⟨git, slash, rfl, hisGit, hslash⟩, hisPart, hisName⟩

theorem isTeamServicesAddress_of_partsBehind? {text : List Char} {found : Option (List Char)}
    {collection project repository : String}
    (hfound : ∀ rest, found = some rest →
      ∃ collection, text = collection ++ rest ∧ IsCollection collection)
    (h : partsBehind? text found = some (collection, project, repository)) :
    IsTeamServicesAddress text collection.toList project.toList repository.toList := by
  cases found with
  | none => cases h
  | some rest =>
    rw [partsBehind?, Option.map_eq_some_iff] at h
    obtain ⟨⟨part, name⟩, hparts, heq⟩ := h
    simp only [Prod.mk.injEq] at heq
    obtain ⟨rfl, rfl, rfl⟩ := heq
    obtain ⟨front, rfl, hfront⟩ := hfound rest rfl
    have hcollection : (front ++ rest).take ((front ++ rest).length - rest.length) = front := by
      rw [List.length_append, Nat.add_sub_cancel, List.take_left]
    obtain ⟨⟨git, slash, hrest, hgit, hslash⟩, hpart, hname⟩ := projectParts?_eq_some hparts
    simp only [String.toList_ofList, hcollection]
    exact ⟨⟨git, slash, by rw [← hrest], hgit, hslash⟩, hfront, hpart, hname⟩

/-- A text that is read as a Team Services address is one. -/
theorem isTeamServicesAddress_of_parts? {url collection project repository : String}
    (h : teamServicesParts? url = some (collection, project, repository)) :
    IsTeamServicesAddress url.toList collection.toList project.toList repository.toList := by
  rw [teamServicesParts?] at h
  split at h
  · rename_i parts hparts
    rw [Option.some.injEq] at h
    subst h
    exact isTeamServicesAddress_of_partsBehind?
      (fun _ hrest => isCollection_of_afterHost? (.inl hrest)) hparts
  · exact isTeamServicesAddress_of_partsBehind?
      (fun _ hrest => isCollection_of_afterHost? (.inr hrest)) h

/-! ## Plain Git servers -/

/-- No address of a GitHub repository has the scheme of a plain Git server, though its host begins
like it. -/
theorem IsGitHubAddress.dropFixed?_git {text owner name : List Char}
    (h : IsGitHubAddress text owner name) : dropFixed? "git://".toList text = none := by
  obtain ⟨scheme, www, host, slash, rfl, hscheme, hwww, hhost, -⟩ := h.spelled
  rcases hscheme with rfl | hscheme | hscheme
  · rcases hwww with rfl | hwww
    · have hhub : dropFixed? ("git".toList ++ 'h' :: "ub.com/".toList)
          (host ++ (owner ++ '/' :: (name ++ slash))) = some (owner ++ '/' :: (name ++ slash)) :=
        dropFixed?_eq_some_iff.mpr ⟨host, hhost, rfl⟩
      have hcolon : dropFixed? ("git".toList ++ ':' :: "//".toList)
          (host ++ (owner ++ '/' :: (name ++ slash))) = none :=
        dropFixed?_append_eq_none hhub (by decide) (by decide) (by decide)
      exact hcolon
    · exact hwww.dropFixed?_eq_none _ (by decide) (by decide) (by decide)
  · exact hscheme.dropFixed?_eq_none _ (by decide) (by decide) (by decide)
  · exact hscheme.dropFixed?_eq_none _ (by decide) (by decide) (by decide)

/-- No text that begins with a collection has the scheme of a plain Git server. -/
theorem IsCollection.dropFixed?_git {collection : List Char} (h : IsCollection collection)
    (rest : List Char) : dropFixed? "git://".toList (collection ++ rest) = none := by
  obtain ⟨first, account, last, rfl, -, hforms⟩ := h
  rw [List.append_assoc]
  rcases hforms with ⟨hfirst, -⟩ | ⟨hfirst, -⟩
  · exact hfirst.dropFixed?_eq_none _ (by decide) (by decide) (by decide)
  · exact hfirst.dropFixed?_eq_none _ (by decide) (by decide) (by decide)

/-! ## Two parts of the user's own -/

/-- An address is two parts of the user's own with fixed parts in front, between and behind. -/
structure Surrounds (text front first second : List Char) : Prop where
  fixed : front.all isAddressChar = true
  parts : ∃ middle ending, text = front ++ (first ++ '/' :: (middle ++ (second ++ ending)))
    ∧ middle.all isAddressChar = true ∧ ending.all isAddressChar = true

theorem IsWebScheme.all_isAddressChar {scheme : List Char} (h : IsWebScheme scheme) :
    scheme.all isAddressChar = true := by
  rcases h with rfl | h | h
  · rfl
  · exact h.all_isAddressChar (by decide)
  · exact h.all_isAddressChar (by decide)

theorem IsAccount.all_isAddressChar {account : List Char} (h : IsAccount account) :
    account.all isAddressChar = true := by
  refine List.all_eq_true.mpr fun c hc => ?_
  rw [isAddressChar, List.all_eq_true.mp h.2 c hc, Bool.true_or]

theorem IsCollection.all_isAddressChar {collection : List Char} (h : IsCollection collection) :
    collection.all isAddressChar = true := by
  obtain ⟨first, account, last, rfl, haccount, hforms⟩ := h
  rw [List.all_append, List.all_append, haccount.all_isAddressChar]
  rcases hforms with ⟨hfirst, hlast⟩ | ⟨hfirst, hlast⟩
  · rw [hfirst.all_isAddressChar (by decide), hlast.all_isAddressChar (by decide)]
    rfl
  · rw [hfirst.all_isAddressChar (by decide), hlast.all_isAddressChar (by decide)]
    rfl

theorem all_isAddressChar_slash {slash : List Char} (h : slash = [] ∨ slash = ['/']) :
    slash.all isAddressChar = true := by
  rcases h with rfl | rfl <;> rfl

/-- A GitHub address is an owner and a repository. -/
theorem gitHubParts?_eq_some {url owner repository : String}
    (h : gitHubParts? url = some (owner, repository)) :
    ∃ front, Surrounds url.toList front owner.toList repository.toList := by
  obtain ⟨name, ⟨⟨scheme, www, host, slash, htext, hscheme, hwww, hhost, hslash⟩, -, -⟩,
    hrepository⟩ := gitHubParts?_eq_some_iff.mp h
  have hwwwChars : www.all isAddressChar = true := by
    rcases hwww with rfl | hwww
    · rfl
    · exact hwww.all_isAddressChar (by decide)
  have hfront : (scheme ++ (www ++ host)).all isAddressChar = true := by
    rw [List.all_append, List.all_append, hscheme.all_isAddressChar, hwwwChars,
      hhost.all_isAddressChar (by decide)]
    rfl
  obtain ⟨ending, hname, hending⟩ : ∃ ending, name = repository.toList ++ ending
      ∧ ending.all isAddressChar = true := by
    rcases hrepository with ⟨-, ending, hname, hending⟩ | ⟨-, hname⟩
    · exact ⟨ending, hname, hending.all_isAddressChar (by decide)⟩
    · exact ⟨[], by rw [List.append_nil, hname], rfl⟩
  refine ⟨scheme ++ (www ++ host), hfront, [], ending ++ slash, ?_, rfl, ?_⟩
  · rw [htext, hname]
    simp only [List.append_assoc, List.nil_append]
  · rw [List.all_append, hending, all_isAddressChar_slash hslash]
    rfl

/-- A Team Services address is a collection, in fixed parts and an account, and then a project and a
repository. -/
theorem teamServicesParts?_eq_some {url collection project repository : String}
    (h : teamServicesParts? url = some (collection, project, repository)) :
    Surrounds url.toList collection.toList project.toList repository.toList := by
  obtain ⟨⟨git, slash, htext, hgit, hslash⟩, hcollection, -, -⟩ := isTeamServicesAddress_of_parts? h
  exact ⟨hcollection.all_isAddressChar, git, slash, htext, hgit.all_isAddressChar (by decide),
    all_isAddressChar_slash hslash⟩

end Shape

/-! ## What is accepted as a GitHub repository -/

open Shape (IsGitHubAddress NamesRepository EndsInGit Matches gitEnding)

/-- The remote of a GitHub repository. -/
def ofRepository (owner repository : List Char) : Remote :=
  ⟨.gitHub (String.ofList owner) (String.ofList repository),
    "https://raw.githubusercontent.com/" ++ String.ofList owner ++ "/" ++ String.ofList repository
      ++ "/" ++ Index.revisionPlaceholder ++ "/" ++ Index.pathPlaceholder⟩

theorem gitHub_eq_ok {url : String} {remote : Remote} (h : gitHub url = .ok remote) :
    ∃ owner repository, Shape.gitHubParts? url = some (owner, repository)
      ∧ remote = ⟨.gitHub owner repository,
        "https://raw.githubusercontent.com/" ++ owner ++ "/" ++ repository ++ "/"
          ++ Index.revisionPlaceholder ++ "/" ++ Index.pathPlaceholder⟩ := by
  rw [gitHub] at h
  cases hparts : Shape.gitHubParts? url with
  | none => rw [hparts] at h; cases h
  | some parts =>
    rw [hparts] at h
    exact ⟨parts.1, parts.2, rfl, (Except.ok.inj h).symm⟩

theorem gitHub_eq_ok_iff {url : String} {remote : Remote} :
    gitHub url = .ok remote ↔ ∃ owner name repository, IsGitHubAddress url.toList owner name
      ∧ NamesRepository name repository ∧ remote = ofRepository owner repository := by
  constructor
  · intro h
    obtain ⟨owner, repository, hparts, rfl⟩ := gitHub_eq_ok h
    obtain ⟨name, haddress, hrepository⟩ := Shape.gitHubParts?_eq_some_iff.mp hparts
    refine ⟨_, name, _, haddress, hrepository, ?_⟩
    rw [ofRepository, String.ofList_toList, String.ofList_toList]
  · rintro ⟨owner, name, repository, haddress, hrepository, rfl⟩
    have hparts : Shape.gitHubParts? url
        = some (String.ofList owner, String.ofList repository) := by
      rw [Shape.gitHubParts?_eq_some_iff, String.toList_ofList, String.toList_ofList]
      exact ⟨name, haddress, hrepository⟩
    rw [gitHub, hparts]
    rfl

/-- An address of a repository is the remote of this repository. -/
theorem gitHub_of_names {url : String} {owner name repository : List Char}
    (haddress : IsGitHubAddress url.toList owner name)
    (hrepository : NamesRepository name repository) :
    gitHub url = .ok (ofRepository owner repository) :=
  gitHub_eq_ok_iff.mpr ⟨owner, name, repository, haddress, hrepository, rfl⟩

/-- **GitHub repositories are accepted by their grammar.** An address is accepted exactly when it
can be split into an owner and a name with the fixed parts around them; then the owner is taken as
it is written, and the repository is the name without one `.git` behind something else. All
addresses of one repository are the same remote, with or without scheme, `www.`, `.git` and a slash
at the end. -/
theorem gitHub_accepts_grammar (url : String) :
    ((∃ remote, gitHub url = .ok remote) ↔ ∃ owner name, IsGitHubAddress url.toList owner name)
      ∧ (∀ remote, gitHub url = .ok remote
        ↔ ∃ owner name repository, IsGitHubAddress url.toList owner name
          ∧ NamesRepository name repository ∧ remote = ofRepository owner repository)
      ∧ (∀ (other : String) owner name name' repository,
        IsGitHubAddress url.toList owner name → IsGitHubAddress other.toList owner name' →
          NamesRepository name repository → NamesRepository name' repository →
            gitHub url = gitHub other)
      ∧ ∀ owner repository ending, repository ≠ [] → (¬ ∃ front, EndsInGit repository front) →
        (ending = [] ∨ Matches gitEnding ending) →
          IsGitHubAddress url.toList owner (repository ++ ending) →
            gitHub url = .ok (ofRepository owner repository) := by
  refine ⟨?_, fun remote => gitHub_eq_ok_iff, ?_, ?_⟩
  · constructor
    · rintro ⟨remote, h⟩
      obtain ⟨owner, name, _, haddress, -, -⟩ := gitHub_eq_ok_iff.mp h
      exact ⟨owner, name, haddress⟩
    · rintro ⟨owner, name, haddress⟩
      exact ⟨_, gitHub_of_names haddress (Shape.dropGitEnding_eq_iff.mp rfl)⟩
  · intro other owner name name' repository haddress haddress' hname hname'
    rw [gitHub_of_names haddress hname, gitHub_of_names haddress' hname']
  · rintro owner repository ending hne hplain (rfl | hending) haddress
    · rw [List.append_nil] at haddress
      exact gitHub_of_names haddress (.inr ⟨hplain, rfl⟩)
    · exact gitHub_of_names haddress (.inl ⟨hne, ending, rfl, hending⟩)

/-- Fixed parts are matched up to case, where the long s counts, and one ending is dropped. -/
example : gitHub "HTTP\u017f://www.GitHub.com/a/b.git.GIT/"
    = .ok (ofRepository ['a'] "b.git".toList) := by
  decide +kernel

end Remote

end SourceServer
