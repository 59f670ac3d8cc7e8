import SourceServer.Proofs.Path.Length
import SourceServer.Proofs.Unicode.LowerCase

/-!
# Tidy paths

One path can be written in many ways: with slashes doubled, with points that stand for the same
directory, with a slash at the end. A tidy text has none of these. It consists of the names of the
path with slashes between them, so its lower case is known from theirs.

- `Path.IsTidy`: a text in which every piece counts.
- `Path.toList_of_isTidy`: a tidy path in terms of its names.
- `Path.lower_eq_of_isTidy`: tidy paths that agree name by name agree as texts.
- `Path.isTidy_below_start`, `Path.eq_of_isTidy`: the tidy path with some components.
-/

namespace SourceServer

namespace Path

/-- A path without doubled slash, without point for the same directory, and without slash at its
end. -/
def IsTidy (p : Path) : Prop :=
  ∀ piece ∈ p.pieces, isIdle piece = false

instance (p : Path) : Decidable p.IsTidy :=
  inferInstanceAs (Decidable (∀ piece ∈ p.pieces, isIdle piece = false))

variable {p q : Path}

theorem splitHead_append (text : List Char) : (splitHead text).1 ++ (splitHead text).2 = text := by
  unfold splitHead
  split <;> rfl

theorem splitHead_of_isPlain (h : p.IsPlain) :
    (splitHead p.text.toList).1 = if p.isAbsolute then ['/'] else [] := by
  have hhead : headComponent (splitHead p.text.toList).1 = p.top := head_of_isPlain h
  have hheads : (splitHead p.text.toList).1 = ['/'] ∨ (splitHead p.text.toList).1 = ['.']
      ∨ (splitHead p.text.toList).1 = [] := by
    unfold splitHead
    split <;> simp
  rw [top] at hhead
  by_cases habsolute : p.isAbsolute = true
  · rw [if_pos habsolute] at hhead ⊢
    rcases hheads with heq | heq | heq
    · exact heq
    · rw [heq] at hhead
      cases hhead
    · rw [heq] at hhead
      cases hhead
  · rw [if_neg habsolute] at hhead ⊢
    rcases hheads with heq | heq | heq
    · rw [heq] at hhead
      cases hhead
    · rw [heq] at hhead
      cases hhead
    · exact heq

/-- In a tidy path every piece is a name. -/
theorem pieces_of_isTidy (h : p.IsTidy) : p.pieces = p.names.map String.toList := by
  obtain ⟨front, before, rest, hfront, hbefore, hsplit, hpieces⟩ := p.exists_common_pieces
  -- the pieces of the whole text that are not of the body do not count as steps either
  have hnone : before = [] := by
    refine List.eq_nil_iff_forall_not_mem.mpr fun piece hpiece => ?_
    have hcounts := h piece (by rw [hpieces]; exact List.mem_append_left _ hpiece)
    rw [hbefore piece hpiece] at hcounts
    cases hcounts
  rw [hnone, List.nil_append] at hpieces
  have hrest : ∀ piece ∈ rest, piece ≠ [] ∧ String.ofList piece ≠ "." := by
    intro piece hpiece
    obtain ⟨hempty, hpoint⟩ := isIdle_eq_false.mp (h piece (hpieces ▸ hpiece))
    exact ⟨hempty, fun heq => hpoint (String.ofList_injective heq)⟩
  have hpoints : ((front.filter (· ≠ [])).map String.ofList).filter (· ≠ ".") = [] := by
    refine List.filter_eq_nil_iff.mpr fun step hstep => ?_
    obtain ⟨piece, hpiece, rfl⟩ := List.mem_map.mp hstep
    obtain ⟨hpiece, hempty⟩ := List.mem_filter.mp hpiece
    have hpoint : piece = ['.'] := by
      simpa [isIdle, of_decide_eq_true hempty] using hfront piece hpiece
    rw [hpoint]
    decide
  have hall : rest.filter (· ≠ []) = rest :=
    List.filter_eq_self.mpr fun piece hpiece => by simpa using (hrest piece hpiece).1
  have hnames : p.names = rest.map String.ofList := by
    rw [names, FileSystem.steps_of_splitOn hsplit, List.filter_append, hpoints, hall,
      List.nil_append, List.filter_eq_self]
    intro step hstep
    obtain ⟨piece, hpiece, rfl⟩ := List.mem_map.mp hstep
    simpa using (hrest piece hpiece).2
  rw [hnames, hpieces, List.map_map]
  simp

/-- A tidy path is its names with slashes between them. -/
theorem toList_of_isTidy (hp : p.IsPlain) (h : p.IsTidy) :
    p.text.toList = (if p.isAbsolute then ['/'] else [])
      ++ ['/'].intercalate (p.names.map String.toList) := by
  rw [← pieces_of_isTidy h, pieces, List.intercalate_splitOn, ← splitHead_of_isPlain hp,
    splitHead_append]

theorem toList_lower_of_isTidy (hp : p.IsPlain) (h : p.IsTidy) :
    (Unicode.lower p.text).toList = (if p.isAbsolute then ['/'] else [])
      ++ ['/'].intercalate ((p.names.map Unicode.lower).map String.toList) := by
  have hpieces : (p.names.map String.toList).map Unicode.lowerText
      = (p.names.map Unicode.lower).map String.toList := by
    simp [Unicode.lower]
  rw [Unicode.lower, String.toList_ofList, toList_of_isTidy hp h]
  split
  · have hslash := Unicode.lowerText_append_slash []
      (['/'].intercalate (p.names.map String.toList))
    rw [List.nil_append] at hslash
    rw [List.singleton_append, hslash, Unicode.lowerText_intercalate, hpieces]
    rfl
  · rw [List.nil_append, Unicode.lowerText_intercalate, hpieces, List.nil_append]

/-- Tidy paths that agree name by name agree as texts. -/
theorem lower_eq_of_isTidy (hp : p.IsPlain) (hq : q.IsPlain) (htidy : p.IsTidy) (htidy' : q.IsTidy)
    (habsolute : q.isAbsolute = p.isAbsolute)
    (hnames : q.names.map Unicode.lower = p.names.map Unicode.lower) :
    Unicode.lower q.text = Unicode.lower p.text := by
  apply String.toList_inj.mp
  rw [toList_lower_of_isTidy hp htidy, toList_lower_of_isTidy hq htidy', habsolute, hnames]

/-! ## The tidy path with some components -/

/-- Names taken from a path that does not end in a slash. -/
theorem toList_below {names : List String} (h : ∀ name ∈ names, IsName name) {place : Path}
    (hclosed : ¬ place.IsOpen) :
    (place.below names).text.toList
      = place.text.toList ++ names.flatMap fun name => '/' :: name.toList := by
  induction names generalizing place with
  | nil => simp
  | cons name rest ih =>
    rw [List.forall_mem_cons] at h
    have hends : ¬ (place.text = "" ∨ place.text.toList.getLast? = some '/') := hclosed
    rw [below_cons, ih h.2 (not_isOpen_join h.1 place), toList_join h.1, if_neg hends,
      List.flatMap_cons, List.append_assoc]

theorem intercalate_cons_eq_flatMap (first : List Char) (rest : List (List Char)) :
    ['/'].intercalate (first :: rest) = first ++ rest.flatMap fun piece => '/' :: piece := by
  induction rest generalizing first with
  | nil => simp [List.intercalate]
  | cons next rest ih =>
    rw [List.intercalate_cons_cons, ih, List.flatMap_cons, List.append_assoc]
    rfl

theorem toList_below_start {names : List String} (h : ∀ name ∈ names, IsName name)
    (hne : names ≠ []) (p : Path) :
    ((Capitalization.start p).below names).text.toList
      = (if p.isAbsolute then ['/'] else []) ++ ['/'].intercalate (names.map String.toList) := by
  cases names with
  | nil => exact absurd rfl hne
  | cons first rest =>
    rw [List.forall_mem_cons] at h
    have hopen : (Capitalization.start p).text = ""
        ∨ (Capitalization.start p).text.toList.getLast? = some '/' := by
      rw [Capitalization.start]
      split
      · exact .inr rfl
      · exact .inl rfl
    have hstart : (Capitalization.start p).text.toList = if p.isAbsolute then ['/'] else [] := by
      rw [Capitalization.start]
      split <;> rfl
    rw [below_cons, toList_below h.2 (not_isOpen_join h.1 _), toList_join h.1, if_pos hopen, hstart,
      List.map_cons, intercalate_cons_eq_flatMap, List.flatMap_map, List.append_assoc]

/-- Names taken from the beginning of a path make a tidy one. -/
theorem isTidy_below_start {names : List String} (h : ∀ name ∈ names, IsName name)
    (hne : names ≠ []) (p : Path) : ((Capitalization.start p).below names).IsTidy := by
  have habsolute := Capitalization.isAbsolute_below_start h p
  have hsplit := splitHead_append ((Capitalization.start p).below names).text.toList
  rw [splitHead_of_isPlain (Capitalization.isPlain_below_start h p), habsolute] at hsplit
  have hbody := List.append_cancel_left (hsplit.trans (toList_below_start h hne p))
  have hslash : ∀ piece ∈ names.map String.toList, '/' ∉ piece :=
    List.forall_mem_map.mpr fun name hname => (h name hname).slash_notMem
  intro piece hpiece
  rw [pieces, hbody, List.splitOn_intercalate '/' hslash (by simp [hne])] at hpiece
  obtain ⟨name, hname, rfl⟩ := List.mem_map.mp hpiece
  refine isIdle_eq_false.mpr ⟨fun hempty => ?_, fun hpoint => ?_⟩
  · exact (h name hname).ne_empty (String.toList_eq_nil_iff.mp hempty)
  · exact (h name hname).ne_here (String.toList_inj.mp hpoint)

/-- There is one tidy path with some components. -/
theorem eq_of_isTidy (hp : p.IsPlain) (hq : q.IsPlain) (htidy : p.IsTidy) (htidy' : q.IsTidy)
    (h : p.components = q.components) : p = q := by
  obtain ⟨habsolute, hnames⟩ := names_of_components_eq hp hq h
  have htext : p.text.toList = q.text.toList := by
    rw [toList_of_isTidy hp htidy, toList_of_isTidy hq htidy', habsolute, hnames]
  cases p
  cases q
  exact congrArg mk (String.toList_inj.mp htext)

end Path

end SourceServer
