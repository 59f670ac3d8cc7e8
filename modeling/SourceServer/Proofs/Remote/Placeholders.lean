import SourceServer.Proofs.Remote.Template

/-!
# Placeholders in templates

A template is filled in at its placeholders, so it should have one for the revision and one for the
path. The addresses of plain servers are checked for this. The addresses of hosting services are
not: their parts go into the template as they are, and a placeholder in them stays one.

- `Remote.Foreign`: a text that fixed parts of addresses have no share in.
- `Remote.Accepts`: an address that a kind of remote accepts.
- `Remote.occurrences_template`: how often a placeholder occurs in a template.
- `Remote.placeholders_once_iff`: when each occurs once.
-/

namespace SourceServer

namespace Remote

open Index (revisionPlaceholder pathPlaceholder)
open Search (occurrences)

/-! ## Fixed parts -/

/-- The text neither begins nor ends in the fixed parts of an address, nor goes on over a slash. -/
structure Foreign (pattern : List Char) : Prop where
  ne_nil : pattern ≠ []
  head : pattern.head?.any Shape.isAddressChar = false
  last : pattern.getLast?.any Shape.isAddressChar = false
  slash : '/' ∉ pattern

variable {pattern : List Char}

theorem Foreign.occurrences_fixed_append (h : Foreign pattern) {front : List Char}
    (hfront : front.all Shape.isAddressChar = true) (rest : List Char) :
    occurrences pattern (front ++ rest) = occurrences pattern rest := by
  refine Search.occurrences_append_of_head (fun c hc hhead => ?_) h.ne_nil rest
  have hother := h.head
  rw [hhead, Option.any_some, List.all_eq_true.mp hfront c hc] at hother
  cases hother

theorem Foreign.occurrences_append_fixed (h : Foreign pattern) {ending : List Char}
    (hending : ending.all Shape.isAddressChar = true) (s : List Char) :
    occurrences pattern (s ++ ending) = occurrences pattern s := by
  refine Search.occurrences_append_of_getLast (fun c hc hlast => ?_) h.ne_nil s
  have hother := h.last
  rw [hlast, Option.any_some, List.all_eq_true.mp hending c hc] at hother
  cases hother

/-- The occurrences in an address are in the parts of the user's own. -/
theorem Foreign.occurrences_address (h : Foreign pattern) {text front first second : List Char}
    (haddress : Shape.Surrounds text front first second) :
    occurrences pattern text = occurrences pattern first + occurrences pattern second := by
  obtain ⟨middle, ending, rfl, hmiddle, hending⟩ := haddress.parts
  rw [h.occurrences_fixed_append haddress.fixed,
    Search.occurrences_append_cons h.ne_nil h.slash, h.occurrences_fixed_append hmiddle,
    h.occurrences_append_fixed hending]

theorem foreign_revision : Foreign revisionPlaceholder.toList :=
  ⟨by decide, by decide, by decide, by decide⟩

theorem foreign_path : Foreign pathPlaceholder.toList :=
  ⟨by decide, by decide, by decide, by decide⟩

/-! ## Templates -/

/-- A service whose template is put together from parts of the address. -/
def Service.isHosted : Service → Bool
  | .gitHub .. | .teamServices .. => true
  | .gitDaemon | .customUrl _ => false

/-- Some kind of remote accepts the address. -/
def Accepts (url : String) (remote : Remote) : Prop :=
  detect url = .ok remote ∨ gitDaemon url = .ok remote ∨ gitHub url = .ok remote
    ∨ teamServices url = .ok remote ∨ ∃ backslashes, customUrl url backslashes = .ok remote

/-- A placeholder of templates. -/
def IsPlaceholder (pattern : List Char) : Prop :=
  pattern = revisionPlaceholder.toList ∨ pattern = pathPlaceholder.toList

theorem IsPlaceholder.foreign (h : IsPlaceholder pattern) : Foreign pattern := by
  rcases h with rfl | rfl
  · exact foreign_revision
  · exact foreign_path

theorem LeadsTo.occurrences_eq_one {url template : String} (h : LeadsTo url template)
    (hpattern : IsPlaceholder pattern) : occurrences pattern template.toList = 1 := by
  rcases h with h | ⟨hnone, rfl⟩
  · obtain ⟨-, hrevision, hpath⟩ := templateOf?_eq_some h
    rcases hpattern with rfl | rfl
    · exact hrevision
    · exact hpath
  · obtain ⟨-, hrevision, hpath⟩ := templateOf?_eq_none hnone
    have hfront : occurrences pattern (dropFinalSlashes url.toList) = 0 := by
      rw [Search.occurrences_eq_zero_iff hpattern.foreign.ne_nil]
      intro hfound
      have hurl := hfound.trans (prefix_dropFinalSlashes url.toList).isInfix
      rcases hpattern with rfl | rfl
      · exact hrevision hurl
      · exact hpath hurl
    have hslash : "/".toList = ['/'] := rfl
    have hfresh : occurrences pattern (revisionPlaceholder.toList ++ '/' :: pathPlaceholder.toList)
        = 1 := by
      rcases hpattern with rfl | rfl <;> decide
    simp only [String.toList_append, String.toList_ofList, List.append_assoc, hslash,
      List.cons_append, List.nil_append]
    rw [Search.occurrences_append_cons hpattern.foreign.ne_nil hpattern.foreign.slash, hfront,
      hfresh]

theorem occurrences_gitHub {url : String} {remote : Remote} (h : gitHub url = .ok remote)
    (hpattern : IsPlaceholder pattern) :
    remote.service.isHosted = true
      ∧ occurrences pattern remote.template.toList = occurrences pattern url.toList + 1 := by
  obtain ⟨owner, repository, hparts, rfl⟩ := gitHub_eq_ok h
  obtain ⟨front, haddress⟩ := Shape.gitHubParts?_eq_some hparts
  have hforeign := hpattern.foreign
  have hslash : "/".toList = ['/'] := rfl
  have hfresh : occurrences pattern (revisionPlaceholder.toList ++ '/' :: pathPlaceholder.toList)
      = 1 := by
    rcases hpattern with rfl | rfl <;> decide
  refine ⟨rfl, ?_⟩
  simp only [String.toList_append, List.append_assoc, hslash, List.cons_append,
    List.nil_append]
  rw [hforeign.occurrences_fixed_append (by decide),
    Search.occurrences_append_cons hforeign.ne_nil hforeign.slash,
    Search.occurrences_append_cons hforeign.ne_nil hforeign.slash, hfresh,
    hforeign.occurrences_address haddress, Nat.add_assoc]

theorem occurrences_teamServices {url : String} {remote : Remote}
    (h : teamServices url = .ok remote) (hpattern : IsPlaceholder pattern) :
    remote.service.isHosted = true
      ∧ occurrences pattern remote.template.toList = occurrences pattern url.toList + 1 := by
  obtain ⟨collection, project, repository, hparts, rfl⟩ := teamServices_eq_ok h
  have haddress := Shape.teamServicesParts?_eq_some hparts
  have hforeign := hpattern.foreign
  have hrepositories : "/_apis/git/repositories/".toList
      = '/' :: "_apis/git/repositories/".toList := rfl
  have hitems : "/items?api-version=1.0&versionType=commit&version=".toList
      = '/' :: "items?api-version=1.0&versionType=commit&version=".toList := rfl
  have hfresh : occurrences pattern
      (revisionPlaceholder.toList ++ ("&scopePath=".toList ++ pathPlaceholder.toList)) = 1 := by
    rcases hpattern with rfl | rfl <;> decide
  refine ⟨rfl, ?_⟩
  simp only [String.toList_append, List.append_assoc, hrepositories, hitems, List.cons_append]
  rw [hforeign.occurrences_fixed_append haddress.fixed,
    Search.occurrences_append_cons hforeign.ne_nil hforeign.slash,
    hforeign.occurrences_fixed_append (by decide),
    Search.occurrences_append_cons hforeign.ne_nil hforeign.slash,
    hforeign.occurrences_fixed_append (by decide), hfresh,
    hforeign.occurrences_address haddress, Nat.add_assoc]

theorem Accepts.cases {url : String} {remote : Remote} (h : Accepts url remote) :
    (gitDaemon url = .ok remote ∨ ∃ backslashes, customUrl url backslashes = .ok remote)
      ∨ gitHub url = .ok remote ∨ teamServices url = .ok remote := by
  rcases h with h | h | h | h | h
  · rcases detect_eq_ok h with h | h | h | h
    · exact .inl (.inl h)
    · exact .inr (.inl h)
    · exact .inr (.inr h)
    · exact .inl (.inr ⟨false, h⟩)
  · exact .inl (.inl h)
  · exact .inr (.inl h)
  · exact .inr (.inr h)
  · exact .inl (.inr h)

/-- A placeholder occurs in a template once, and as often again as in the address of a hosting
service. -/
theorem occurrences_template {url : String} {remote : Remote} (h : Accepts url remote)
    (hpattern : IsPlaceholder pattern) :
    occurrences pattern remote.template.toList
      = if remote.service.isHosted then occurrences pattern url.toList + 1 else 1 := by
  rcases h.cases with h | h | h
  · obtain ⟨hservice, htemplate⟩ := leadsTo_of_accepted h
    have hhosted : remote.service.isHosted = false := by
      rcases hservice with hservice | ⟨backslashes, hservice⟩ <;> rw [hservice] <;> rfl
    rw [hhosted, htemplate.occurrences_eq_one hpattern]
    rfl
  · obtain ⟨hhosted, hcount⟩ := occurrences_gitHub h hpattern
    rw [hhosted, hcount, if_pos rfl]
  · obtain ⟨hhosted, hcount⟩ := occurrences_teamServices h hpattern
    rw [hhosted, hcount, if_pos rfl]

/-- **A template has each placeholder once, unless a hosting service is addressed with one.** The
address of a plain server is refused when its template would have more. -/
theorem placeholders_once_iff {url : String} {remote : Remote} (h : Accepts url remote) :
    occurrences revisionPlaceholder.toList remote.template.toList = 1
        ∧ occurrences pathPlaceholder.toList remote.template.toList = 1
      ↔ (remote.service.isHosted = true →
        ¬ revisionPlaceholder.toList <:+: url.toList ∧ ¬ pathPlaceholder.toList <:+: url.toList) := by
  rw [occurrences_template h (.inl rfl), occurrences_template h (.inr rfl),
    ← Search.occurrences_eq_zero_iff foreign_revision.ne_nil,
    ← Search.occurrences_eq_zero_iff foreign_path.ne_nil]
  cases remote.service.isHosted <;> simp

/-- A repository without placeholders in its address. -/
theorem placeholders_once_of_gitHub :
    ∃ remote, Accepts "https://github.com/a/b.git" remote ∧ remote.service = .gitHub "a" "b"
      ∧ occurrences revisionPlaceholder.toList remote.template.toList = 1
      ∧ occurrences pathPlaceholder.toList remote.template.toList = 1 := by
  have haccepts : Accepts "https://github.com/a/b.git"
      ⟨.gitHub "a" "b", "https://raw.githubusercontent.com/a/b/\x7b0\x7d/%var2%"⟩ := .inl rfl
  exact ⟨_, haccepts, rfl, (placeholders_once_iff haccepts).mpr fun _ => ⟨by decide, by decide⟩⟩

/-- An owner that is a placeholder. -/
theorem not_placeholders_once :
    ∃ url remote, detect url = .ok remote
      ∧ ¬ (occurrences revisionPlaceholder.toList remote.template.toList = 1
        ∧ occurrences pathPlaceholder.toList remote.template.toList = 1) := by
  refine ⟨"https://github.com/\x7b0\x7d/b", _, rfl, ?_⟩
  decide

end Remote

end SourceServer
