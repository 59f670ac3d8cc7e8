import SourceServer.Proofs.Remote.Parts

/-!
# Hosts of longer texts

The host of a URL of the web is named in front of the first separator. A text that is a URL stays
one with the same host when it is continued behind a separator, whatever follows, and blanks are
dropped at its ends only.

- `Url.significant_append`: what is read of a text that is continued.
- `Url.authority`: the part that names the host.
- `Url.parse_append`: the URL of a text that is continued.
-/

namespace SourceServer

namespace Url

/-! ## What is read of a text -/

/-- A character that is dropped at the ends of a text. -/
def isEdge (c : Char) : Bool :=
  decide (c.toNat ≤ 0x20)

/-- A character that is read inside of a text. -/
def isRead (c : Char) : Bool :=
  c != '\t' && c != '\n' && c != '\r'

/-- What is read of the end of a text. -/
def significantEnd (text : List Char) : List Char :=
  ((text.reverse.dropWhile isEdge).reverse).filter isRead

theorem significant_eq (text : String) :
    significant text = significantEnd (text.toList.dropWhile isEdge) :=
  rfl

/-- Dropping stops at a character that is kept. -/
theorem dropWhile_append_cons {p : Char → Bool} {c : Char} (hc : p c = false) (s t : List Char) :
    (s ++ c :: t).dropWhile p = s.dropWhile p ++ c :: t := by
  induction s with
  | nil => simp [hc]
  | cons x s ih =>
    cases hx : p x with
    | true => simp [hx, ih]
    | false => simp [hx]

theorem significantEnd_append {last : Char} (hlast : isEdge last = false) (front back : List Char) :
    significantEnd (front ++ last :: back)
      = significantEnd (front ++ [last]) ++ significantEnd back := by
  have hend : ∀ back, significantEnd (front ++ last :: back)
      = (front ++ [last]).filter isRead ++ significantEnd back := by
    intro back
    rw [significantEnd, List.reverse_append, List.reverse_cons, List.append_assoc,
      List.singleton_append, dropWhile_append_cons hlast, List.reverse_append, List.reverse_cons,
      List.reverse_reverse, List.filter_append]
    rfl
  rw [hend back, hend []]
  exact congrArg (· ++ significantEnd back) (List.append_nil _).symm

theorem isRead_of_isEdge {c : Char} (h : isEdge c = false) : isRead c = true := by
  rw [isRead, Bool.and_eq_true, Bool.and_eq_true, bne_iff_ne, bne_iff_ne, bne_iff_ne]
  refine ⟨⟨?_, ?_⟩, ?_⟩ <;> rintro rfl <;> cases h

theorem significantEnd_cons {c : Char} (hedge : isEdge c = false) (back : List Char) :
    significantEnd (c :: back) = c :: significantEnd back := by
  have hfirst : significantEnd [c] = [c] := by
    simp [significantEnd, hedge, isRead_of_isEdge hedge]
  have hall := significantEnd_append hedge [] back
  rwa [List.nil_append, List.nil_append, hfirst] at hall

/-- A text that ends in a character that is read is read like it stands in a longer one. -/
theorem significant_append {last : Char} (hlast : isEdge last = false) (front back : List Char) :
    significant (String.ofList (front ++ last :: back))
      = significant (String.ofList (front ++ [last])) ++ significantEnd back := by
  rw [significant_eq, significant_eq, String.toList_ofList, String.toList_ofList,
    dropWhile_append_cons hlast, dropWhile_append_cons hlast, significantEnd_append hlast]

/-- What is read of a text stands in it. -/
theorem mem_of_mem_significant {text : String} {c : Char} (h : c ∈ significant text) :
    c ∈ text.toList := by
  have hkept := List.mem_reverse.mp (List.mem_filter.mp h).1
  have hend := List.mem_reverse.mp ((List.dropWhile_suffix _).subset hkept)
  exact (List.dropWhile_suffix _).subset hend

/-! ## Schemes -/

/-- A scheme begins with a letter and goes on until the first colon. -/
theorem splitScheme?_eq_some_iff {text scheme rest : List Char} :
    splitScheme? text = some (scheme, rest)
      ↔ ∃ letters, text = letters ++ ':' :: rest ∧ scheme = letters.map Ascii.lowerChar
        ∧ (∀ c ∈ letters, isSchemeChar c = true)
        ∧ ∃ first ∈ letters.head?, Ascii.isLetter first = true := by
  constructor
  · intro h
    unfold splitScheme? at h
    split at h
    · cases h
    · rename_i first others
      split at h
      · rename_i hfirst
        split at h
        · rename_i letters behind hspan
          obtain ⟨rfl, rfl⟩ := Prod.mk.inj (Option.some.inj h)
          obtain ⟨htext, hletters⟩ := Remote.Shape.span_eq hspan
          refine ⟨letters, htext, rfl, hletters, ?_⟩
          cases letters with
          | nil =>
            obtain rfl : first = ':' := (List.cons.inj htext).1
            cases hfirst
          | cons c letters =>
            obtain rfl : first = c := (List.cons.inj htext).1
            exact ⟨first, rfl, hfirst⟩
        · cases h
      · cases h
  · rintro ⟨letters, rfl, rfl, hletters, first, hhead, hfirst⟩
    have hspan : (letters ++ ':' :: rest).span isSchemeChar = (letters, ':' :: rest) := by
      have hcolon : isSchemeChar ':' = false := by decide
      rw [List.span_eq_takeWhile_dropWhile, List.takeWhile_append_of_pos hletters,
        List.dropWhile_append_of_pos hletters]
      simp [hcolon]
    obtain ⟨others, rfl⟩ := List.head?_eq_some_iff.mp hhead
    rw [List.cons_append] at hspan ⊢
    rw [splitScheme?, if_pos hfirst, hspan]
    rfl

theorem splitScheme?_append {text scheme rest : List Char}
    (h : splitScheme? text = some (scheme, rest)) (back : List Char) :
    splitScheme? (text ++ back) = some (scheme, rest ++ back) := by
  obtain ⟨letters, rfl, hscheme, hletters, hfirst⟩ := splitScheme?_eq_some_iff.mp h
  refine splitScheme?_eq_some_iff.mpr ⟨letters, ?_, hscheme, hletters, hfirst⟩
  rw [List.append_assoc, List.cons_append]

theorem head?_of_splitScheme? {c : Char} {text scheme rest : List Char}
    (h : splitScheme? (c :: text) = some (scheme, rest)) :
    scheme.head? = some (Ascii.lowerChar c) := by
  obtain ⟨letters, htext, rfl, -, first, hhead, -⟩ := splitScheme?_eq_some_iff.mp h
  obtain ⟨others, rfl⟩ := List.head?_eq_some_iff.mp hhead
  obtain rfl : c = first := (List.cons.inj htext).1
  rfl

/-! ## Authorities -/

/-- The part of a URL of the web that names the host, from what follows the scheme. -/
def authority (rest : List Char) : List Char :=
  (rest.dropWhile isSlash).takeWhile fun c => !endsAuthority .web c

/-- Nothing follows, or a separator does. -/
def Separated (back : List Char) : Prop :=
  ∀ c ∈ back.head?, endsAuthority .web c = true

theorem separated_slash (back : List Char) : Separated ('/' :: back) := by
  intro c hc
  obtain rfl : '/' = c := Option.some.inj hc
  rfl

theorem endsAuthority_web_iff {c : Char} :
    endsAuthority .web c = true ↔ ((c = '/' ∨ c = '?') ∨ c = '#') ∨ c = '\\' := by
  simp [endsAuthority]

theorem isEdge_of_endsAuthority {c : Char} (h : endsAuthority .web c = true) :
    isEdge c = false := by
  rcases endsAuthority_web_iff.mp h with ((rfl | rfl) | rfl) | rfl <;> decide

/-- What is read of a text that begins with a separator does so, too. -/
theorem Separated.significantEnd {back : List Char} (h : Separated back) :
    Separated (significantEnd back) := by
  cases back with
  | nil => simp [Separated, Url.significantEnd]
  | cons c back =>
    rw [significantEnd_cons (isEdge_of_endsAuthority (h c rfl))]
    exact h

/-- What follows a separator does not name the host. -/
theorem authority_append {rest back : List Char} (hrest : authority rest ≠ [])
    (hback : Separated back) : authority (rest ++ back) = authority rest := by
  have hstart : (rest ++ back).dropWhile isSlash = rest.dropWhile isSlash ++ back := by
    rw [List.dropWhile_append, if_neg]
    intro hempty
    rw [authority, List.isEmpty_iff.mp hempty] at hrest
    exact hrest rfl
  have hnone : back.takeWhile (fun c => !endsAuthority .web c) = [] := by
    cases back with
    | nil => rfl
    | cons c back => simp [hback c rfl]
  rw [authority, hstart, List.takeWhile_append, hnone, List.append_nil]
  split
  · rename_i hall
    exact ((List.takeWhile_prefix _).eq_of_length hall).symm
  · rfl

/-- A host is named by some text. -/
theorem authority_ne_nil {rest : List Char} {host : Host} (h : webHost (authority rest) = .ok host) :
    authority rest ≠ [] := by
  intro hnil
  rw [hnil] at h
  cases h

/-- The kinds of scheme that servers of the web have. -/
theorem schemeKind_of_web {scheme : List Char}
    (h : String.ofList scheme = "http" ∨ String.ofList scheme = "https") :
    schemeKind scheme = .web := by
  rcases h with h | h
  · rw [show scheme = "http".toList by rw [← h, String.toList_ofList]]
    rfl
  · rw [show scheme = "https".toList by rw [← h, String.toList_ofList]]
    rfl

theorem parse_eq_ok_iff {text : String} {parsed : Url} :
    parse text = .ok parsed ↔ ∃ scheme rest, splitScheme? (significant text) = some (scheme, rest)
      ∧ parseHost (schemeKind scheme) rest = .ok parsed.host
      ∧ parsed.scheme = String.ofList scheme := by
  rw [parse]
  cases hsplit : splitScheme? (significant text) with
  | none => simp
  | some parts =>
    obtain ⟨scheme, rest⟩ := parts
    dsimp only
    cases hhost : parseHost (schemeKind scheme) rest with
    | error fault => simp [hhost]
    | ok host =>
      obtain ⟨name, found⟩ := parsed
      simp only [Except.ok.injEq, Url.mk.injEq, Option.some.injEq, Prod.mk.injEq]
      constructor
      · rintro ⟨rfl, rfl⟩
        exact ⟨scheme, rest, ⟨rfl, rfl⟩, hhost, rfl⟩
      · rintro ⟨_, _, ⟨rfl, rfl⟩, hfound, rfl⟩
        rw [hhost] at hfound
        exact ⟨rfl, Except.ok.inj hfound⟩

/-- The scheme of a URL is followed by a colon. -/
theorem colon_mem_of_parse {text : String} {parsed : Url} (h : parse text = .ok parsed) :
    ':' ∈ text.toList := by
  obtain ⟨scheme, rest, hsplit, -, -⟩ := parse_eq_ok_iff.mp h
  obtain ⟨letters, htext, -⟩ := splitScheme?_eq_some_iff.mp hsplit
  refine mem_of_mem_significant ?_
  rw [htext]
  exact List.mem_append_right letters (List.mem_cons_self ..)

/-- A scheme begins like the text, unless a blank stands in front. -/
theorem head?_scheme {text : String} {c : Char} {parsed : Url} (h : parse text = .ok parsed)
    (hc : c ∈ text.toList.head?) (hedge : isEdge c = false) :
    parsed.scheme.toList.head? = some (Ascii.lowerChar c) := by
  obtain ⟨scheme, rest, hsplit, -, hname⟩ := parse_eq_ok_iff.mp h
  obtain ⟨others, htext⟩ := List.head?_eq_some_iff.mp hc
  have hsignificant : significant text = c :: significantEnd others := by
    rw [significant_eq, htext, List.dropWhile_cons_of_neg (by simp [hedge])]
    exact significantEnd_cons hedge others
  rw [hsignificant] at hsplit
  rw [hname, String.toList_ofList]
  exact head?_of_splitScheme? hsplit

/-- A longer text has the scheme of its beginning, and the URL when the scheme is one of the web and
the beginning is followed by a separator. -/
theorem parse_append {front back : List Char} {last : Char} {parsed : Url}
    (h : parse (String.ofList (front ++ [last])) = .ok parsed) (hlast : isEdge last = false)
    (hback : Separated back) (hscheme : parsed.scheme = "http" ∨ parsed.scheme = "https") :
    parse (String.ofList (front ++ last :: back)) = .ok parsed := by
  obtain ⟨scheme, rest, hsplit, hhost, hname⟩ := parse_eq_ok_iff.mp h
  rw [hname] at hscheme
  rw [schemeKind_of_web hscheme] at hhost
  refine parse_eq_ok_iff.mpr ⟨scheme, rest ++ significantEnd back, ?_, ?_, hname⟩
  · rw [significant_append hlast, splitScheme?_append hsplit]
  · rw [schemeKind_of_web hscheme]
    have hauthority := authority_append (authority_ne_nil hhost) hback.significantEnd
    change webHost (authority _) = _
    rw [hauthority]
    exact hhost

end Url

end SourceServer
