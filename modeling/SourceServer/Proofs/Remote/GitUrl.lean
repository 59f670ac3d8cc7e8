import SourceServer.Proofs.Remote.Template
import SourceServer.Proofs.Url.Authority

/-!
# Which templates belong to plain Git servers

Whether archives are asked for is decided by the template alone. A template begins like the address,
so it tells a plain Git server from all others.

- `Remote.isGitUrl_gitDaemon`: the template of a plain Git server.
- `Remote.isGitUrl_customUrl`: the template of any other server.
- `Remote.isGitUrl_gitHub`, `Remote.isGitUrl_teamServices`: the templates of hosting services.
-/

namespace SourceServer

namespace Remote

open Search (replaceAll)

/-! ## Plain Git servers -/

/-- Rewriting keeps what is in front of the first placeholder. -/
theorem isSome_dropPrefixIgnoringCase?_replaceAll {first : Char} {others start s : List Char}
    (hstart : start.all (fun c => Ascii.lowerChar c != Ascii.lowerChar first) = true)
    (replacement : List Char) (h : (Ascii.dropPrefixIgnoringCase? start s).isSome = true) :
    (Ascii.dropPrefixIgnoringCase? start
      (replaceAll (first :: others) replacement s)).isSome = true := by
  rw [replaceAll]
  induction start generalizing s with
  | nil => rfl
  | cons p start ih =>
    rw [List.all_cons, Bool.and_eq_true, bne_iff_ne] at hstart
    cases s with
    | nil => cases h
    | cons c s =>
      rw [Ascii.dropPrefixIgnoringCase?] at h
      split at h
      · rename_i heq
        have hother : ¬ (first :: others).isPrefixOf (c :: s) = true := by
          intro hfound
          have hfirst := (List.cons_prefix_cons.mp (List.isPrefixOf_iff_prefix.mp hfound)).1
          exact hstart.1 (heq.trans (congrArg Ascii.lowerChar hfirst.symm))
        rw [Search.replaceFrom, if_neg hother, Ascii.dropPrefixIgnoringCase?, if_pos heq]
        exact ih hstart.2 h
      · cases h

/-- A fixed character that the two further signs do not match. -/
def hasTwoCases (f : Char) : Bool :=
  f != 's' && f != 'k' && Ascii.lowerChar f == f

/-- Fixed texts without the two letters that have further signs are matched up to ASCII case. -/
theorem dropPrefixIgnoringCase?_eq_dropFixed? {fixed : List Char}
    (hfixed : fixed.all hasTwoCases = true) (text : List Char) :
    Ascii.dropPrefixIgnoringCase? fixed text = Shape.dropFixed? fixed text := by
  induction fixed generalizing text with
  | nil => rfl
  | cons f fixed ih =>
    rw [List.all_cons, Bool.and_eq_true, hasTwoCases, Bool.and_eq_true, Bool.and_eq_true,
      bne_iff_ne, bne_iff_ne, beq_iff_eq] at hfixed
    obtain ⟨⟨⟨hs, hk⟩, hlowerCase⟩, hrest⟩ := hfixed
    cases text with
    | nil => rfl
    | cons c text =>
      have hmatch : Shape.matchesLetter f c = true ↔ Ascii.lowerChar f = Ascii.lowerChar c := by
        rw [hlowerCase, Shape.matchesLetter, beq_false_of_ne hs, beq_false_of_ne hk]
        simp only [Bool.false_and, Bool.or_false, beq_iff_eq]
        exact eq_comm
      rw [Ascii.dropPrefixIgnoringCase?, Shape.dropFixed?, ih hrest text]
      simp only [hmatch]

theorem isGitUrl_eq (url : String) :
    Index.isGitUrl url = (Shape.dropFixed? "git://".toList url.toList).isSome := by
  rw [Index.isGitUrl, dropPrefixIgnoringCase?_eq_dropFixed? (by decide)]

/-- The address of a plain Git server has its scheme. -/
theorem isGitUrl_of_gitDaemon {url : String} {remote : Remote} (h : gitDaemon url = .ok remote) :
    Index.isGitUrl url = true := by
  have hshape : Shape.isGitDaemon url = true := by
    by_contra hother
    rw [gitDaemon, if_neg hother] at h
    cases h
  rw [Shape.isGitDaemon] at hshape
  rw [isGitUrl_eq]
  cases hdrop : Shape.dropFixed? "git://".toList url.toList with
  | none => rw [hdrop] at hshape; cases hshape
  | some rest => rfl

/-- The template of a plain Git server is asked for archives. -/
theorem isGitUrl_gitDaemon {url : String} {remote : Remote} (h : gitDaemon url = .ok remote) :
    Index.isGitUrl remote.template = true := by
  obtain ⟨template, htemplate, rfl⟩ := gitDaemon_eq_ok h
  have hgit := isGitUrl_of_gitDaemon h
  rw [Index.isGitUrl] at hgit
  rw [Index.isGitUrl, (templateOf?_eq_some htemplate).1, rewritten]
  exact isSome_dropPrefixIgnoringCase?_replaceAll (by decide) _
    (isSome_dropPrefixIgnoringCase?_replaceAll (by decide) _ hgit)

/-! ## Other servers -/

/-- The first character of a text is kept, or what replaces it comes first. -/
theorem head?_replaceAll {pattern replacement s : List Char} {c : Char}
    (hreplacement : replacement ≠ []) (h : c ∈ (replaceAll pattern replacement s).head?) :
    c ∈ s.head? ∨ c ∈ replacement.head? := by
  cases s with
  | nil => cases h
  | cons x s =>
    rw [replaceAll, Search.replaceFrom] at h
    split at h
    · rw [List.head?_append_of_ne_nil _ hreplacement] at h
      exact .inr h
    · exact .inl h

/-- A template begins like its address, unless with a placeholder or a slash. -/
theorem LeadsTo.head? {url template : String} {c : Char} (h : LeadsTo url template)
    (hc : c ∈ template.toList.head?) : c ∈ url.toList.head? ∨ c = '{' ∨ c = '%' ∨ c = '/' := by
  rcases h with h | ⟨-, rfl⟩
  · rw [(templateOf?_eq_some h).1, rewritten] at hc
    rcases head?_replaceAll (by decide) hc with hc | hc
    · rcases head?_replaceAll (by decide) hc with hc | hc
      · exact .inl hc
      · exact .inr (.inl (Option.some.inj hc).symm)
    · exact .inr (.inr (.inl (Option.some.inj hc).symm))
  · obtain ⟨slashes, hurl⟩ := prefix_dropFinalSlashes url.toList
    simp only [String.toList_append, String.toList_ofList, List.append_assoc] at hc
    cases hfront : dropFinalSlashes url.toList with
    | nil =>
      rw [hfront] at hc
      exact .inr (.inr (.inr (Option.some.inj hc).symm))
    | cons x front =>
      rw [hfront] at hc hurl
      rw [← hurl]
      exact .inl hc

theorem head?_of_isGitUrl {url : String} (h : Index.isGitUrl url = true) :
    ∃ c ∈ url.toList.head?, Ascii.lowerChar c = 'g' := by
  rw [Index.isGitUrl] at h
  cases htext : url.toList with
  | nil => rw [htext] at h; cases h
  | cons c rest =>
    refine ⟨c, rfl, ?_⟩
    rw [htext] at h
    change Option.isSome (if Ascii.lowerChar 'g' = Ascii.lowerChar c then _ else none) = true at h
    split at h
    · rename_i heq
      exact heq.symm
    · cases h

theorem eq_of_lowerChar {c : Char} (h : Ascii.lowerChar c = 'g') : c = 'g' ∨ c = 'G' := by
  rw [Ascii.lowerChar] at h
  split at h
  · rename_i hcapital
    exact .inr (Ascii.forall_capital (P := fun c => Char.ofNat (c.toNat + 32) = 'g' → c = 'G')
      (by decide) hcapital h)
  · exact .inl h

/-- The address of any other server does not begin like that of a plain Git server. -/
theorem lowerChar_ne_of_customUrl {url : String} {backslashes : Bool} {remote : Remote}
    (h : customUrl url backslashes = .ok remote) {c : Char} (hc : c ∈ url.toList.head?) :
    Ascii.lowerChar c ≠ 'g' := by
  intro hlower
  obtain ⟨⟨parsed, hparse, hscheme⟩, -, -⟩ := customUrl_eq_ok h
  have hedge : Url.isEdge c = false := by rcases eq_of_lowerChar hlower with rfl | rfl <;> rfl
  have hfirst := Url.head?_scheme hparse hc hedge
  rw [hlower] at hfirst
  rcases hscheme with hscheme | hscheme <;> rw [hscheme] at hfirst <;> cases hfirst

theorem isGitUrl_of_customUrl {url : String} {backslashes : Bool} {remote : Remote}
    (h : customUrl url backslashes = .ok remote) : Index.isGitUrl url = false := by
  rw [Bool.eq_false_iff]
  intro hgit
  obtain ⟨c, hc, hlower⟩ := head?_of_isGitUrl hgit
  exact lowerChar_ne_of_customUrl h hc hlower

/-- The template of any other server is not asked for archives. -/
theorem isGitUrl_customUrl {url : String} {backslashes : Bool} {remote : Remote}
    (h : customUrl url backslashes = .ok remote) : Index.isGitUrl remote.template = false := by
  rw [Bool.eq_false_iff]
  intro hgit
  obtain ⟨c, hc, hlower⟩ := head?_of_isGitUrl hgit
  rcases (customUrl_eq_ok h).2.2.head? hc with hc | rfl | rfl | rfl
  · exact lowerChar_ne_of_customUrl h hc hlower
  · cases hlower
  · cases hlower
  · cases hlower

/-! ## Hosting services -/

theorem isGitUrl_of_gitHub {url : String} {remote : Remote} (h : gitHub url = .ok remote) :
    Index.isGitUrl url = false := by
  obtain ⟨owner, name, _, haddress, -, -⟩ := gitHub_eq_ok_iff.mp h
  rw [isGitUrl_eq, haddress.dropFixed?_git]
  rfl

theorem isGitUrl_gitHub {url : String} {remote : Remote} (h : gitHub url = .ok remote) :
    Index.isGitUrl remote.template = false := by
  obtain ⟨owner, repository, -, rfl⟩ := gitHub_eq_ok h
  simp only [isGitUrl_eq, String.toList_append, List.append_assoc]
  rfl

theorem isGitUrl_of_teamServices {url : String} {remote : Remote}
    (h : teamServices url = .ok remote) : Index.isGitUrl url = false := by
  obtain ⟨collection, project, repository, hparts, -⟩ := teamServices_eq_ok h
  obtain ⟨⟨git, slash, htext, -, -⟩, hcollection, -, -⟩ :=
    Shape.isTeamServicesAddress_of_parts? hparts
  rw [isGitUrl_eq, htext, hcollection.dropFixed?_git]
  rfl

theorem isGitUrl_teamServices {url : String} {remote : Remote} (h : teamServices url = .ok remote) :
    Index.isGitUrl remote.template = false := by
  obtain ⟨collection, project, repository, hparts, rfl⟩ := teamServices_eq_ok h
  have hcollection := (Shape.isTeamServicesAddress_of_parts? hparts).isCollection
  simp only [isGitUrl_eq, String.toList_append, List.append_assoc]
  rw [hcollection.dropFixed?_git]
  rfl

end Remote

end SourceServer
