import SourceServer.Proofs.Index.Admission
import SourceServer.Proofs.Index.Names
import SourceServer.Proofs.Index.Unbroken
import SourceServer.Proofs.Path.AsciiCase
import SourceServer.Proofs.Remote.Grammar

/-!
# Remotes of Team Services

An address of Team Services is a collection, a project and a repository, and nothing of it is lost
but a slash at its end and the case of one fixed part. Indexes for the remote tell the debugger
these three parts, each in a line of its own above the entries.

- `Remote.Shape.Matches.map_lowerChar`: fixed text without the letters that have further signs.
- `Remote.Shape.IsTeamServicesAddress.exists_eq`: an address put together from its parts.
- `Index.splitText_textOf_layout`: the head of an index is read back, whatever the entries hold.
- `Remote.teamServices_keeps_parts`: the address, the remote and its indexes.
-/

namespace SourceServer

namespace Remote

namespace Shape

/-! ## Addresses -/

theorem lowerChar_of_matchesLetter {f c : Char} (h : matchesLetter f c = true) (hs : f ≠ 's')
    (hk : f ≠ 'k') : Ascii.lowerChar c = f := by
  simpa [matchesLetter, hs, hk] using h

/-- Without the two letters that have further signs, fixed text differs in its case only. -/
theorem Matches.map_lowerChar {fixed text : List Char} (h : Matches fixed text) (hs : 's' ∉ fixed)
    (hk : 'k' ∉ fixed) : text.map Ascii.lowerChar = fixed := by
  induction h with
  | nil => rfl
  | cons hmatch _ ih =>
    rw [List.mem_cons, not_or] at hs hk
    rw [List.map_cons, lowerChar_of_matchesLetter hmatch (Ne.symm hs.1) (Ne.symm hk.1),
      ih hs.2 hk.2]

/-- Fixed text that ends with a slash is matched by a text that ends with a slash. -/
theorem Matches.exists_eq_concat_slash {fixed text : List Char}
    (h : Matches (fixed ++ ['/']) text) : ∃ front, text = front ++ ['/'] ∧ Matches fixed front := by
  induction fixed generalizing text with
  | nil =>
    cases h with
    | cons hmatch hrest =>
      cases hrest
      have hlower := lowerChar_of_matchesLetter hmatch (by decide) (by decide)
      rw [(Ascii.lowerChar_eq_low_iff (by decide)).mp hlower]
      exact ⟨[], rfl, .nil⟩
  | cons f fixed ih =>
    cases h with
    | cons hmatch hrest =>
      obtain ⟨front, rfl, hfront⟩ := ih hrest
      exact ⟨_ :: front, rfl, .cons hmatch hfront⟩

/-- A collection ends with a slash. -/
theorem IsCollection.exists_eq_concat_slash {collection : List Char} (h : IsCollection collection) :
    ∃ front, collection = front ++ ['/'] := by
  obtain ⟨first, account, last, rfl, -, hforms⟩ := h
  have hlast : ∃ front, last = front ++ ['/'] := by
    rcases hforms with ⟨-, hlast⟩ | ⟨-, hlast⟩
    · have hlast : Matches (".visualstudio.com".toList ++ ['/']) last := hlast
      obtain ⟨front, hfront, -⟩ := hlast.exists_eq_concat_slash
      exact ⟨front, hfront⟩
    · have hlast : Matches ([] ++ ['/']) last := hlast
      obtain ⟨front, hfront, -⟩ := hlast.exists_eq_concat_slash
      exact ⟨front, hfront⟩
  obtain ⟨front, rfl⟩ := hlast
  exact ⟨first ++ (account ++ front), by simp only [List.append_assoc]⟩

/-- An address is its parts with a fixed one between them, and perhaps a slash behind them. -/
theorem IsTeamServicesAddress.exists_eq {text collection project name : List Char}
    (h : IsTeamServicesAddress text collection project name) :
    ∃ git slash, git.map Ascii.lowerChar = "_git".toList ∧ (slash = [] ∨ slash = ['/'])
      ∧ text = collection ++ project ++ ['/'] ++ git ++ ['/'] ++ name ++ slash := by
  obtain ⟨git, slash, rfl, hgit, hslash⟩ := h.spelled
  have hgit : Matches ("_git".toList ++ ['/']) git := hgit
  obtain ⟨front, rfl, hfront⟩ := hgit.exists_eq_concat_slash
  refine ⟨front, slash, hfront.map_lowerChar (by decide) (by decide), hslash, ?_⟩
  simp only [List.append_assoc, List.cons_append, List.nil_append]

end Shape

end Remote

/-! ## Indexes -/

namespace Index

/-- The head of an index is read back when everything that it shows is unbroken, whatever the
entries hold. -/
theorem splitText_textOf_layout {context : Context} {head : List String} (hhead : Head context head)
    (h : ∀ text ∈ shown context, Unbroken text.toList) (ending : LineEnding) :
    splitText ending (textOf ending (layout context head))
      = head ++ entriesHeader :: splitText ending
        (textOf ending (context.paths.map (entry context.dialect) ++ [terminator])) := by
  have hfront : ∀ line ∈ head ++ [entriesHeader], Unbroken line.toList := by
    rw [List.forall_mem_append, List.forall_mem_singleton]
    exact ⟨hhead.unbroken_iff.mpr h, unbroken_of_eq rfl (by decide)⟩
  rw [layout, List.append_assoc, splitText_textOf_append hfront, List.append_assoc,
    List.singleton_append]

/-- With a short revision there is an index in the Team Foundation dialect, and above its entries
each variable of the host is set by one line. -/
theorem exists_render_hostVariables {context : Context}
    (hdialect : context.dialect = .teamFoundation)
    (hshort : ∃ short, shortRevision context.revision = .ok short)
    (hshown : ∀ text ∈ shown context, Unbroken text.toList) :
    ∃ text above below, render context = .ok text
      ∧ splitText context.lineEnding text = above ++ entriesHeader :: below
      ∧ entriesHeader ∉ above
      ∧ ∀ key ∈ hostKeys, ∀ value, context.metadata.lookup key = some value →
        above.filter (sets key) = [key ++ "=" ++ value] := by
  have hadmits : Admits context.dialect context.revision := by
    rw [hdialect]
    exact Revision.exists_shortRevision_iff.mp hshort
  have htemplate : AdmitsTemplate context := by
    intro hgeneric
    rw [hdialect] at hgeneric
    cases hgeneric
  obtain ⟨text, hrender⟩ := exists_render_iff.mpr ⟨hadmits, htemplate⟩
  obtain ⟨lines, hlines, rfl⟩ := render_eq_ok.mp hrender
  obtain ⟨head, hhead, rfl⟩ := lines_eq_ok hlines
  exact ⟨_, head, _, hrender, splitText_textOf_layout hhead hshown _, hhead.entriesHeader_notMem,
    fun key hkey value hvalue => hhead.filter_sets_of_hostKey hdialect hkey hvalue⟩

end Index

namespace Remote

open Index (collectionKey projectKey repositoryKey)

/-- **A remote of Team Services keeps the parts of its address, and its indexes tell them.** The
address is the collection, the project, `_git` in any case and the repository, and perhaps one slash
behind them. For a revision that has a short form there is an index, and as long as the revision and
the parts are unbroken, each part is the value of its variable, which is set by one line above the
entries, whatever paths are indexed. -/
theorem teamServices_keeps_parts {url : String} {remote : Remote}
    (h : teamServices url = .ok remote) :
    ∃ collection project repository,
      remote.service = .teamServices collection project repository
      ∧ (∃ git slash, Ascii.lower git = "_git" ∧ (slash = "" ∨ slash = "/")
        ∧ url = collection ++ project ++ "/" ++ git ++ "/" ++ repository ++ slash)
      ∧ (∃ front, collection = front ++ "/")
      ∧ (project ≠ "" ∧ '/' ∉ project.toList) ∧ (repository ≠ "" ∧ '/' ∉ repository.toList)
      ∧ ∀ context short, context.dialect = remote.dialect → context.metadata = remote.metadata →
        Index.shortRevision context.revision = .ok short → Unbroken context.revision.toList →
        Unbroken project.toList → Unbroken repository.toList →
          ∃ text above below, Index.render context = .ok text
            ∧ Index.splitText context.lineEnding text = above ++ Index.entriesHeader :: below
            ∧ Index.entriesHeader ∉ above
            ∧ above.filter (Index.sets "TFS_COLLECTION") = ["TFS_COLLECTION=" ++ collection]
            ∧ above.filter (Index.sets "TFS_TEAM_PROJECT") = ["TFS_TEAM_PROJECT=" ++ project]
            ∧ above.filter (Index.sets "TFS_REPO") = ["TFS_REPO=" ++ repository] := by
  obtain ⟨collection, project, repository, hparts, hremote⟩ := teamServices_eq_ok h
  have hservice : remote.service = .teamServices collection project repository := by rw [hremote]
  have haddress := Shape.isTeamServicesAddress_of_parts? hparts
  refine ⟨collection, project, repository, hservice, ?_, ?_, ?_, ?_, ?_⟩
  · obtain ⟨git, slash, hgit, hslash, htext⟩ := haddress.exists_eq
    refine ⟨String.ofList git, String.ofList slash, ?_, ?_, ?_⟩
    · rw [Ascii.lower, String.toList_ofList, hgit, String.ofList_toList]
    · rcases hslash with rfl | rfl
      · exact .inl rfl
      · exact .inr rfl
    · rw [← String.toList_inj, htext]
      simp
  · obtain ⟨front, hfront⟩ := haddress.isCollection.exists_eq_concat_slash
    refine ⟨String.ofList front, ?_⟩
    rw [← String.toList_inj, hfront]
    simp
  · exact ⟨fun hempty => haddress.isPart.1 (by rw [hempty]; rfl), haddress.isPart.2⟩
  · exact ⟨fun hempty => haddress.isName.1 (by rw [hempty]; rfl),
      fun hslash => (haddress.isName.2 '/' hslash).1 rfl⟩
  · intro context short hdialect hmetadata hshort hrevision hproject hrepository
    have hcollection : Unbroken collection.toList :=
      Shape.unbroken_of_isAddressChar haddress.isCollection.all_isAddressChar
    have hshown : ∀ text ∈ Index.shown context, Unbroken text.toList := by
      rw [Index.shown_of_teamServices hservice hdialect hmetadata]
      simp only [List.forall_mem_cons]
      exact ⟨hrevision, hcollection, hproject, hrepository, by simp⟩
    obtain ⟨text, above, below, hrender, hsplit, habove, hvalues⟩ :=
      Index.exists_render_hostVariables (hdialect.trans (dialect_of_teamServices hservice))
        ⟨short, hshort⟩ hshown
    rw [metadata_of_teamServices hservice] at hmetadata
    exact ⟨text, above, below, hrender, hsplit, habove,
      hvalues collectionKey (by decide) collection (by rw [hmetadata]; rfl),
      hvalues projectKey (by decide) project (by rw [hmetadata]; rfl),
      hvalues repositoryKey (by decide) repository (by rw [hmetadata]; rfl)⟩

/-- An address with a capital part and a slash at its end, and a file whose path imitates a
variable. -/
theorem teamServices_keeps_parts_imitated :
    ∃ remote text above below,
      teamServices "https://dev.azure.com/acme/Tools/_GIT/linker/" = .ok remote
      ∧ remote.service = .teamServices "https://dev.azure.com/acme/" "Tools" "linker"
      ∧ Index.shortRevision "deadbeef00" = .ok "deadbeef"
      ∧ Index.render (indexContext remote "deadbeef00" [⟨"a\nTFS_REPO=b"⟩]
        ⟨⟨""⟩, false, false, .lf⟩ ⟨2024, 3, 5, 14, 7, 9⟩) = .ok text
      ∧ Index.splitText .lf text = above ++ Index.entriesHeader :: below
      ∧ above.filter (Index.sets "TFS_COLLECTION") = ["TFS_COLLECTION=https://dev.azure.com/acme/"]
      ∧ above.filter (Index.sets "TFS_TEAM_PROJECT") = ["TFS_TEAM_PROJECT=Tools"]
      ∧ above.filter (Index.sets "TFS_REPO") = ["TFS_REPO=linker"] := by
  obtain ⟨remote, hremote, hparts⟩ : ∃ remote,
      teamServices "https://dev.azure.com/acme/Tools/_GIT/linker/" = .ok remote
        ∧ remote.service = .teamServices "https://dev.azure.com/acme/" "Tools" "linker" :=
    ⟨_, rfl, rfl⟩
  have hshort : Index.shortRevision "deadbeef00" = .ok "deadbeef" := by decide
  have hrevision : Unbroken "deadbeef00".toList := by decide
  obtain ⟨collection, project, repository, hservice, -, -, -, -, hindex⟩ :=
    teamServices_keeps_parts hremote
  obtain ⟨rfl, rfl, rfl⟩ := Service.teamServices.inj (hparts.symm.trans hservice)
  obtain ⟨text, above, below, hrender, hsplit, -, hcollection, hproject, hrepository⟩ :=
    hindex (indexContext remote "deadbeef00" [⟨"a\nTFS_REPO=b"⟩] ⟨⟨""⟩, false, false, .lf⟩
      ⟨2024, 3, 5, 14, 7, 9⟩) "deadbeef" rfl rfl hshort hrevision (by decide) (by decide)
  exact ⟨remote, text, above, below, hremote, hservice, hshort, hrender, hsplit, hcollection,
    hproject, hrepository⟩

end Remote

end SourceServer
