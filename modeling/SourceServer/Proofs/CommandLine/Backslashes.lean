import SourceServer.CommandLine.Commands
import SourceServer.Proofs.Link.RelativePath
import SourceServer.Proofs.Remote.Unbroken

/-!
# Backslashes on demand

A server of the web may be asked for with backslashes. This chooses the same server again and changes
nothing but the separators that its entries show; any other remote has no use for backslashes and is
left as it is.

- `Remote.withBackslashes`: a remote asked for with backslashes.
- `Remote.customUrl_true`: the same server chosen again.
- `Remote.relativePath_withBackslashes`, `Remote.relativePath_tidy`: what entries show.
- `Commands.selectRemote_backslashes`: the choice with and without the switch.
-/

namespace SourceServer

namespace Remote

/-! ## What entries show -/

/-- A text with every slash turned into a backslash. -/
def backslashed (text : String) : String :=
  String.ofList (text.toList.map fun c => if c = '/' then '\\' else c)

/-- The separator that entries for a remote do not show. -/
def otherSeparator (remote : Remote) : Char :=
  if remote.usesBackslashes then '/' else '\\'

/-- A remote asked for with backslashes. -/
def withBackslashes (remote : Remote) : Remote :=
  match remote.service with
  | .customUrl _ => { remote with service := .customUrl true }
  | _ => remote

theorem toList_relativePath (remote : Remote) (path : String) :
    (remote.relativePath path).toList
      = (path.toList.map remote.shownChar).dropWhile isSeparator := by
  rw [relativePath, String.toList_ofList]
  rfl

/-- No character is shown as the other separator. -/
theorem shownChar_ne_otherSeparator (remote : Remote) (c : Char) :
    remote.shownChar c ≠ remote.otherSeparator := by
  rw [shownChar, otherSeparator]
  by_cases hc : isSeparator c = true
  · rw [if_pos hc]
    cases remote.usesBackslashes <;> decide
  · rw [if_neg hc]
    rintro rfl
    cases hbackslashes : remote.usesBackslashes <;> simp [hbackslashes, isSeparator] at hc

/-- A relative path begins with no separator, and holds none but the one that the remote uses. -/
theorem relativePath_tidy (remote : Remote) (path : String) :
    (∀ c ∈ (remote.relativePath path).toList.head?, isSeparator c = false)
      ∧ remote.otherSeparator ∉ (remote.relativePath path).toList := by
  rw [toList_relativePath]
  refine ⟨fun c hc => ?_, fun hmem => ?_⟩
  · have hfirst := List.head?_dropWhile_not isSeparator (path.toList.map remote.shownChar)
    rw [Option.mem_def.mp hc] at hfirst
    exact hfirst
  · obtain ⟨c, -, hshown⟩ := List.mem_map.mp ((List.dropWhile_suffix _).subset hmem)
    exact remote.shownChar_ne_otherSeparator c hshown

/-- A server that shows slashes, asked for with backslashes, shows each slash as a backslash. -/
theorem relativePath_withBackslashes {remote : Remote} (h : remote.service = .customUrl false)
    (path : String) :
    remote.withBackslashes.relativePath path = backslashed (remote.relativePath path) := by
  have hslashes : remote.usesBackslashes = false := by rw [usesBackslashes, h]
  have hbackslashes : remote.withBackslashes.usesBackslashes = true := by
    rw [withBackslashes, h]
    rfl
  have hshown : ∀ c, remote.withBackslashes.shownChar c
      = if remote.shownChar c = '/' then '\\' else remote.shownChar c := by
    intro c
    rw [shownChar, shownChar, hslashes, hbackslashes]
    by_cases hc : isSeparator c = true
    · simp [hc]
    · have hslash : c ≠ '/' := by
        rintro rfl
        exact hc rfl
      simp [hc, hslash]
  -- turning slashes into backslashes leaves separators what they are, so as many go in front
  have hkept : isSeparator ∘ (fun c => if c = '/' then '\\' else c) = isSeparator := by
    funext c
    by_cases hc : c = '/'
    · rw [Function.comp_apply, if_pos hc, hc]
      rfl
    · rw [Function.comp_apply, if_neg hc]
  have htidied : ∀ text : List Char,
      (text.dropWhile isSeparator).map (fun c => if c = '/' then '\\' else c)
        = (text.map fun c => if c = '/' then '\\' else c).dropWhile isSeparator := by
    intro text
    rw [List.dropWhile_map, hkept]
  apply String.toList_inj.mp
  rw [backslashed, String.toList_ofList, toList_relativePath, toList_relativePath, htidied,
    List.map_map]
  exact congrArg (List.dropWhile isSeparator) (List.map_congr_left fun c _ => hshown c)

/-! ## The same server again -/

/-- Whether backslashes are used changes neither whether an address is accepted nor the template. -/
theorem customUrl_true (url : String) :
    customUrl url true = (customUrl url false).map withBackslashes := by
  rw [customUrl, customUrl]
  cases Url.parse url with
  | error fault => rfl
  | ok parsed =>
    dsimp only
    split
    · cases templateOf? url with
      | error fault => rfl
      | ok template => cases template <;> rfl
    · rfl

/-- A server of the web that is found for an address shows slashes, and is the custom remote of this
address. -/
theorem customUrl_of_detect {url : String} {remote : Remote} {backslashes : Bool}
    (h : detect url = .ok remote) (hservice : remote.service = .customUrl backslashes) :
    customUrl url false = .ok remote ∧ remote.service = .customUrl false := by
  rcases detect_eq_ok h with h | h | h | h
  · obtain ⟨template, -, rfl⟩ := gitDaemon_eq_ok h
    cases hservice
  · obtain ⟨owner, repository, -, rfl⟩ := gitHub_eq_ok h
    cases hservice
  · obtain ⟨collection, project, repository, -, rfl⟩ := teamServices_eq_ok h
    cases hservice
  · exact ⟨h, (customUrl_eq_ok h).2.1⟩

end Remote

/-! ## With and without the switch -/

namespace Commands

open Remote (backslashed otherSeparator isSeparator)

/-- Without the switch the remote is the one that is found. -/
theorem result_selectRemote_plain (arguments : LinkArguments) :
    (selectRemote { arguments with backslashes := false }).result
      = (Remote.detect arguments.url).mapError (.noRemote arguments.url) := by
  rw [selectRemote, Task.result_bind, Task.result_ofExcept]
  cases Remote.detect arguments.url <;> rfl

/-- With the switch the remote that is found is asked for with backslashes. -/
theorem result_selectRemote_switched (arguments : LinkArguments) :
    (selectRemote { arguments with backslashes := true }).result
      = (selectRemote { arguments with backslashes := false }).result.map
        Remote.withBackslashes := by
  rw [result_selectRemote_plain, selectRemote, Task.result_bind, Task.result_ofExcept]
  cases hdetect : Remote.detect arguments.url with
  | error fault => rfl
  | ok remote =>
    obtain ⟨service, template⟩ := remote
    cases service with
    | gitDaemon => rfl
    | gitHub owner repository => rfl
    | teamServices collection project repository => rfl
    | customUrl backslashes =>
      obtain ⟨hcustom, -⟩ := Remote.customUrl_of_detect hdetect rfl
      show (Task.ofExcept ((Remote.customUrl arguments.url true).mapError _)).result = _
      rw [Task.result_ofExcept, Remote.customUrl_true, hcustom]
      rfl

theorem indexContext_withBackslashes {remote : Remote}
    (h : remote.service = .customUrl false) (revision : String) (files : List Path)
    (options : LinkOptions) (now : Timestamp) :
    indexContext remote.withBackslashes revision files options now
      = { indexContext remote revision files options now with
        paths := (indexContext remote revision files options now).paths.map
          fun entry => (entry.1, backslashed entry.2) } := by
  have hpaths : files.map (entryPaths remote.withBackslashes options.root)
      = (files.map (entryPaths remote options.root)).map
        fun entry => (entry.1, backslashed entry.2) := by
    rw [List.map_map]
    refine List.map_congr_left fun file _ => ?_
    rw [entryPaths, rawEntryPaths, Remote.relativePath_withBackslashes h]
    rfl
  rw [indexContext_eq, hpaths, Remote.withBackslashes, h]
  simp only [indexContext_eq, Remote.dialect, Remote.metadata, h]

/-- **What the switch for backslashes changes.** With and without it the same addresses are refused,
for the same reason. For a remote that is no plain server of the web, all indexes are the same. For
such a server everything that an index says is the same but for the relative paths, where each slash
has become a backslash. In both cases no relative path begins with a separator or holds the separator
that the remote does not use. -/
theorem selectRemote_backslashes (arguments : LinkArguments) :
    match (selectRemote { arguments with backslashes := false }).result,
      (selectRemote { arguments with backslashes := true }).result with
    | .error error, .error switchedError => switchedError = error
    | .ok remote, .ok switched =>
      ∀ revision files options now,
        ((∀ backslashes, remote.service ≠ .customUrl backslashes) →
          indexContext switched revision files options now
              = indexContext remote revision files options now
            ∧ Index.render (indexContext switched revision files options now)
              = Index.render (indexContext remote revision files options now))
          ∧ (∀ backslashes, remote.service = .customUrl backslashes →
            indexContext switched revision files options now
              = { indexContext remote revision files options now with
                paths := (indexContext remote revision files options now).paths.map
                  fun entry => (entry.1, backslashed entry.2) })
          ∧ ∀ chosen ∈ [remote, switched],
            ∀ entry ∈ (indexContext chosen revision files options now).paths,
              (∀ c ∈ entry.2.toList.head?, isSeparator c = false)
                ∧ chosen.otherSeparator ∉ entry.2.toList
    | _, _ => False := by
  rw [result_selectRemote_switched, result_selectRemote_plain]
  cases hdetect : Remote.detect arguments.url with
  | error fault => rfl
  | ok remote =>
    intro revision files options now
    refine ⟨fun hother => ?_, fun backslashes hservice => ?_, fun chosen _ entry hentry => ?_⟩
    · have hsame : remote.withBackslashes = remote := by
        rw [Remote.withBackslashes]
        split
        · rename_i hservice
          exact absurd hservice (hother _)
        · rfl
      rw [hsame]
      exact ⟨rfl, rfl⟩
    · obtain ⟨-, hslashes⟩ := Remote.customUrl_of_detect hdetect hservice
      exact indexContext_withBackslashes hslashes revision files options now
    · obtain ⟨file, -, rfl⟩ := List.mem_map.mp hentry
      exact chosen.relativePath_tidy _

end Commands

end SourceServer
