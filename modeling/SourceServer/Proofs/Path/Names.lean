import SourceServer.Capitalization
import SourceServer.Proofs.Path.Steps

/-!
# Plain paths

A plain path consists of names, with a slash in front if it is absolute. Such a path is known from
its names and from whether it is absolute, however many slashes and idle points its text holds, and
taking a name from it puts one component behind the others.

- `IsName`: a text that is one step of a path and no point.
- `Path.components_eq_steps`: components in terms of steps.
- `Path.IsPlain`, `Path.components_of_isPlain`, `Capitalization.plainNames?_eq_some_iff`: plain
  paths and their names.
- `Path.below`, `Path.components_below`: names taken from a path one after the other.
-/

namespace SourceServer

/-- A text that is one step of a path and no point. -/
structure IsName (name : String) : Prop where
  ne_empty : name ≠ ""
  ne_here : name ≠ "."
  ne_up : name ≠ ".."
  slash_notMem : '/' ∉ name.toList

namespace Path

/-! ## Components and steps -/

/-- The component that comes from the beginning of a path, if any. -/
def head (p : Path) : List Component :=
  headComponent (splitHead p.text.toList).1

/-- What a step adds to the components. -/
def stepComponent (step : String) : List Component :=
  if step = "." then [] else if step = ".." then [.up] else [.name step]

theorem pieceComponent_of_isIdle {piece : List Char} (h : isIdle piece = true) :
    pieceComponent piece = [] := by
  rw [pieceComponent, if_pos h]

theorem flatMap_pieceComponent_of_isIdle {pieces : List (List Char)}
    (h : ∀ piece ∈ pieces, isIdle piece = true) : pieces.flatMap pieceComponent = [] :=
  List.flatMap_eq_nil_iff.mpr fun piece hpiece => pieceComponent_of_isIdle (h piece hpiece)

theorem pieceComponent_eq_stepComponent {piece : List Char} (h : piece ≠ []) :
    pieceComponent piece = stepComponent (String.ofList piece) := by
  have hhere : String.ofList piece = "." ↔ piece = ['.'] :=
    ⟨fun heq => String.ofList_injective heq, fun heq => by rw [heq]⟩
  have hup : String.ofList piece = ".." ↔ piece = ['.', '.'] :=
    ⟨fun heq => String.ofList_injective heq, fun heq => by rw [heq]⟩
  simp [pieceComponent, stepComponent, isIdle, h, hhere, hup]

theorem flatMap_pieceComponent (pieces : List (List Char)) :
    pieces.flatMap pieceComponent
      = ((pieces.filter (· ≠ [])).map String.ofList).flatMap stepComponent := by
  induction pieces with
  | nil => rfl
  | cons piece rest ih =>
    by_cases hempty : piece = []
    · subst hempty
      simpa [pieceComponent, isIdle] using ih
    · rw [List.flatMap_cons, ih, pieceComponent_eq_stepComponent hempty,
        List.filter_cons_of_pos (by simp [hempty]), List.map_cons, List.flatMap_cons]

/-- Behind the head, the components are what the steps add. -/
theorem components_eq_steps (p : Path) :
    p.components = p.head ++ (FileSystem.steps p).flatMap stepComponent := by
  obtain ⟨front, before, rest, hfront, hbefore, hsplit, hpieces⟩ := p.exists_common_pieces
  have hbody : p.pieces.flatMap pieceComponent
      = (p.text.toList.splitOn '/').flatMap pieceComponent := by
    rw [hsplit, hpieces, List.flatMap_append, List.flatMap_append,
      flatMap_pieceComponent_of_isIdle hfront, flatMap_pieceComponent_of_isIdle hbefore]
  rw [components, head, hbody, flatMap_pieceComponent, FileSystem.steps]

/-! ## The head of a path -/

/-- The three beginnings of a path. -/
theorem head_cases (p : Path) :
    (p.isAbsolute = true ∧ p.head = [.root])
      ∨ (p.isAbsolute = false ∧ (p.head = [.here] ∨ p.head = [])) := by
  rw [isAbsolute, head]
  unfold splitHead
  split
  · rename_i rest htext
    left
    rw [htext]
    exact ⟨rfl, rfl⟩
  · rename_i htext
    right
    rw [htext]
    exact ⟨rfl, .inl rfl⟩
  · rename_i rest htext
    right
    rw [htext]
    exact ⟨rfl, .inl rfl⟩
  · rename_i hslash _ _
    right
    refine ⟨?_, .inr rfl⟩
    cases htext : p.text.toList with
    | nil => rfl
    | cons c rest =>
      have hne : c ≠ '/' := by
        rintro rfl
        exact hslash rest htext
      simp [hne]

theorem root_notMem_stepComponent (step : String) : .root ∉ stepComponent step := by
  rw [stepComponent]
  split
  · simp
  · split <;> simp

theorem root_notMem_flatMap (steps : List String) : .root ∉ steps.flatMap stepComponent := by
  simp [root_notMem_stepComponent]

/-- A path is absolute when its first component is the root. -/
theorem isAbsolute_iff {p : Path} : p.isAbsolute = true ↔ p.components.head? = some .root := by
  rw [components_eq_steps]
  rcases p.head_cases with ⟨habsolute, hhead⟩ | ⟨hrelative, hhead⟩
  · simp [habsolute, hhead]
  · rcases hhead with hhead | hhead
    · simp [hrelative, hhead]
    · rw [hhead, hrelative, List.nil_append]
      refine iff_of_false (by simp) fun hroot => ?_
      exact root_notMem_flatMap _ (List.mem_of_head? hroot)

/-- No other component is the root. -/
theorem root_mem_components_iff {p : Path} : .root ∈ p.components ↔ p.isAbsolute = true := by
  refine ⟨fun hroot => ?_, fun habsolute => List.mem_of_head? (isAbsolute_iff.mp habsolute)⟩
  rw [components_eq_steps, List.mem_append, or_iff_left (root_notMem_flatMap _)] at hroot
  rcases p.head_cases with ⟨habsolute, -⟩ | ⟨-, hhead | hhead⟩
  · exact habsolute
  · simp [hhead] at hroot
  · simp [hhead] at hroot

/-! ## Plain paths -/

/-- A path made of names, with a slash in front if it is absolute. -/
def IsPlain (p : Path) : Prop :=
  .here ∉ p.components ∧ .up ∉ p.components

/-- The slash in front of an absolute path. -/
def top (p : Path) : List Component :=
  if p.isAbsolute then [.root] else []

/-- The steps of a path without the points that stand for the same directory. -/
def names (p : Path) : List String :=
  (FileSystem.steps p).filter (· ≠ ".")

theorem up_mem_components_iff {p : Path} : .up ∈ p.components ↔ ".." ∈ FileSystem.steps p := by
  have hhead : .up ∉ p.head := by
    rcases p.head_cases with ⟨-, hhead⟩ | ⟨-, hhead | hhead⟩ <;> simp [hhead]
  rw [components_eq_steps, List.mem_append, or_iff_right hhead, List.mem_flatMap]
  constructor
  · rintro ⟨step, hstep, hup⟩
    rw [stepComponent] at hup
    split at hup
    · cases hup
    · split at hup
      · rename_i heq
        exact heq ▸ hstep
      · simp at hup
  · intro hstep
    exact ⟨"..", hstep, by simp [stepComponent]⟩

theorem flatMap_stepComponent {steps : List String} (h : ".." ∉ steps) :
    steps.flatMap stepComponent = (steps.filter (· ≠ ".")).map .name := by
  induction steps with
  | nil => rfl
  | cons step rest ih =>
    rw [List.mem_cons, not_or] at h
    obtain ⟨hne, hrest⟩ := h
    rw [List.flatMap_cons, ih hrest]
    by_cases hhere : step = "."
    · subst hhere
      rfl
    · rw [List.filter_cons_of_pos (by simp [hhere]), List.map_cons, stepComponent, if_neg hhere,
        if_neg (Ne.symm hne), List.singleton_append]

/-- A plain path begins with nothing but the slash of an absolute one. -/
theorem head_of_isPlain {p : Path} (h : p.IsPlain) : p.head = p.top := by
  have hhere : .here ∉ p.head := by
    intro hmem
    refine h.1 ?_
    rw [components_eq_steps]
    exact List.mem_append_left _ hmem
  rcases p.head_cases with ⟨habsolute, hhead⟩ | ⟨hrelative, hhead | hhead⟩
  · rw [hhead, top, if_pos habsolute]
  · rw [hhead] at hhere
    exact absurd (List.mem_singleton_self _) hhere
  · rw [hhead, top, hrelative]
    rfl

/-- A plain path is its names, behind the slash if it is absolute. -/
theorem components_of_isPlain {p : Path} (h : p.IsPlain) :
    p.components = p.top ++ p.names.map .name := by
  have hsteps : ".." ∉ FileSystem.steps p := fun hmem => h.2 (up_mem_components_iff.mpr hmem)
  rw [components_eq_steps, head_of_isPlain h, flatMap_stepComponent hsteps, names]

theorem isPlain_of_components_eq {p : Path} {front : List Component} {names : List String}
    (hfront : front = p.top) (h : p.components = front ++ names.map .name) : p.IsPlain := by
  rw [IsPlain, h, hfront, top]
  constructor <;> split <;> simp

theorem map_name_inj {names others : List String} :
    names.map Component.name = others.map Component.name ↔ names = others :=
  List.map_inj_right fun _ _ h => Component.name.inj h

/-- Plain paths with the same components have the same names, and are absolute alike. -/
theorem names_of_components_eq {p q : Path} (hp : p.IsPlain) (hq : q.IsPlain)
    (h : p.components = q.components) : p.isAbsolute = q.isAbsolute ∧ p.names = q.names := by
  have habsolute : p.isAbsolute = q.isAbsolute := by
    rw [Bool.eq_iff_iff, isAbsolute_iff, isAbsolute_iff, h]
  refine ⟨habsolute, ?_⟩
  rw [components_of_isPlain hp, components_of_isPlain hq, top, top, habsolute,
    List.append_cancel_left_eq, map_name_inj] at h
  exact h

/-- A name in a plain path has names around it, but for the slash in front. -/
theorem exists_names_of_split {p : Path} {names : List String} {above behind : List Component}
    {name : String} (h : p.top ++ names.map .name = above ++ .name name :: behind) :
    ∃ front rest, names = front ++ name :: rest ∧ above = p.top ++ front.map .name
      ∧ behind = rest.map .name := by
  have htop : .name name ∉ p.top := by
    rw [top]
    split <;> simp
  have hbehind : ∃ middle, above = p.top ++ middle
      ∧ names.map .name = middle ++ .name name :: behind := by
    rcases List.append_eq_append_iff.mp h with ⟨middle, habove, hnames⟩ | ⟨middle, habove, hnames⟩
    · exact ⟨middle, habove, hnames⟩
    · cases middle with
      | nil =>
        rw [List.append_nil] at habove
        exact ⟨[], by rw [habove, List.append_nil], by rw [hnames]; rfl⟩
      | cons component middle =>
        rw [List.cons_append, List.cons.injEq] at hnames
        refine absurd ?_ htop
        rw [habove, hnames.1]
        exact List.mem_append_right above List.mem_cons_self
  obtain ⟨middle, rfl, hnames⟩ := hbehind
  obtain ⟨front, others, rfl, hfront, hothers⟩ := List.map_eq_append_iff.mp hnames
  obtain ⟨first, rest, rfl, hfirst, hrest⟩ := List.map_eq_cons_iff.mp hothers
  obtain rfl : first = name := Component.name.inj hfirst
  exact ⟨front, rest, rfl, by rw [hfront], hrest.symm⟩

/-- The names of a plain path are names. -/
theorem isName_of_mem_names {p : Path} (h : p.IsPlain) {name : String} (hname : name ∈ p.names) :
    IsName name := by
  obtain ⟨hstep, hhere⟩ := List.mem_filter.mp hname
  have hup : name ≠ ".." := by
    rintro rfl
    exact h.2 (up_mem_components_iff.mpr hstep)
  obtain ⟨piece, hpiece, hempty, rfl⟩ := FileSystem.mem_steps_iff.mp hstep
  refine ⟨?_, by simpa using hhere, hup, FileSystem.slash_notMem_step hstep⟩
  rw [Ne, ← String.toList_eq_nil_iff, String.toList_ofList]
  exact hempty

/-! ## Names taken from a path -/

/-- Names taken from a path one after the other. -/
def below (place : Path) (names : List String) : Path :=
  names.foldl (fun place name => place.join ⟨name⟩) place

@[simp] theorem below_nil (place : Path) : place.below [] = place := rfl

theorem below_cons (place : Path) (name : String) (rest : List String) :
    place.below (name :: rest) = (place.join ⟨name⟩).below rest := rfl

theorem below_append (place : Path) (first second : List String) :
    place.below (first ++ second) = (place.below first).below second :=
  List.foldl_append

variable {name : String} {directory : Path}

theorem isAbsolute_name (h : IsName name) : isAbsolute ⟨name⟩ = false := by
  rw [isAbsolute, beq_eq_false_iff_ne]
  intro hhead
  exact h.slash_notMem (List.mem_of_head? hhead)

theorem splitHead_name (h : IsName name) : splitHead name.toList = ([], name.toList) := by
  have hslash : ∀ rest, name.toList ≠ '/' :: rest := by
    intro rest heq
    exact h.slash_notMem (by simp [heq])
  have hpoint : name.toList ≠ ['.'] := fun heq => h.ne_here (String.toList_inj.mp heq)
  have hpointed : ∀ rest, name.toList ≠ '.' :: '/' :: rest := by
    intro rest heq
    exact h.slash_notMem (by simp [heq])
  unfold splitHead
  split
  · rename_i rest heq
    exact absurd heq (hslash rest)
  · rename_i heq
    exact absurd heq hpoint
  · rename_i rest heq
    exact absurd heq (hpointed rest)
  · rfl

/-- What a path begins with does not depend on what stands behind a slash. -/
theorem splitHead_append_slash {text : List Char} (h : text ≠ []) (tail : List Char) :
    (splitHead (text ++ '/' :: tail)).1 = (splitHead text).1 := by
  cases text with
  | nil => exact absurd rfl h
  | cons c rest =>
    by_cases hslash : c = '/'
    · subst hslash
      rfl
    · by_cases hpoint : c = '.'
      · subst hpoint
        cases rest with
        | nil => rfl
        | cons d rest =>
          by_cases hnext : d = '/'
          · subst hnext
            rfl
          · simp [splitHead, hnext]
      · simp [splitHead, hslash, hpoint]

/-- The text of a path from which a name is taken. -/
theorem toList_join (h : IsName name) (directory : Path) :
    (directory.join ⟨name⟩).text.toList
      = if directory.text = "" ∨ directory.text.toList.getLast? = some '/' then
          directory.text.toList ++ name.toList
        else directory.text.toList ++ '/' :: name.toList := by
  rw [join, isAbsolute_name h]
  simp only [Bool.false_eq_true, if_false]
  split
  · rw [String.toList_append]
  · simp [String.toList_append]

theorem head_join (h : IsName name) (directory : Path) :
    (directory.join ⟨name⟩).head = directory.head := by
  rw [head, head, toList_join h]
  split
  · rename_i hend
    rcases hend with hempty | hslash
    · have hname := splitHead_name h
      rw [hempty, String.toList_empty, List.nil_append, hname]
      rfl
    · obtain ⟨front, hfront⟩ := List.getLast?_eq_some_iff.mp hslash
      rw [hfront, List.append_assoc, List.singleton_append]
      cases front with
      | nil => rfl
      | cons c rest =>
        rw [splitHead_append_slash (List.cons_ne_nil c rest),
          splitHead_append_slash (List.cons_ne_nil c rest)]
  · rename_i hend
    rw [not_or, ← String.toList_eq_nil_iff] at hend
    rw [splitHead_append_slash hend.1]

theorem steps_join_name (h : IsName name) (directory : Path) :
    FileSystem.steps (directory.join ⟨name⟩) = FileSystem.steps directory ++ [name] := by
  rw [FileSystem.steps_join, isAbsolute_name h, FileSystem.steps_name h.slash_notMem h.ne_empty]
  rfl

theorem components_join (h : IsName name) (directory : Path) :
    (directory.join ⟨name⟩).components = directory.components ++ [.name name] := by
  rw [components_eq_steps, components_eq_steps, head_join h, steps_join_name h, List.flatMap_append,
    List.append_assoc]
  simp [stepComponent, h.ne_here, h.ne_up]

theorem components_below {names : List String} (h : ∀ name ∈ names, IsName name) (place : Path) :
    (place.below names).components = place.components ++ names.map .name := by
  induction names generalizing place with
  | nil => simp
  | cons name rest ih =>
    rw [List.forall_mem_cons] at h
    rw [below_cons, ih h.2, components_join h.1, List.map_cons, List.append_assoc,
      List.singleton_append]

theorem isAbsolute_join (h : IsName name) (directory : Path) :
    (directory.join ⟨name⟩).isAbsolute = directory.isAbsolute := by
  have hheads := head_join h directory
  rcases (directory.join ⟨name⟩).head_cases with ⟨hleft, hhead⟩ | ⟨hleft, hhead⟩ <;>
    rcases directory.head_cases with ⟨hright, hhead'⟩ | ⟨hright, hhead'⟩
  · rw [hleft, hright]
  · rw [hhead] at hheads
    rcases hhead' with hhead' | hhead' <;> simp [hhead'] at hheads
  · rw [hhead'] at hheads
    rcases hhead with hhead | hhead <;> simp [hhead] at hheads
  · rw [hleft, hright]

theorem isAbsolute_below {names : List String} (h : ∀ name ∈ names, IsName name) (place : Path) :
    (place.below names).isAbsolute = place.isAbsolute := by
  induction names generalizing place with
  | nil => rfl
  | cons name rest ih =>
    rw [List.forall_mem_cons] at h
    rw [below_cons, ih h.2, isAbsolute_join h.1]

/-- A character of a path from which names are taken. -/
theorem mem_below {names : List String} (h : ∀ name ∈ names, IsName name) {place : Path} {c : Char}
    (hc : c ∈ (place.below names).text.toList) :
    c ∈ place.text.toList ∨ c = '/' ∨ ∃ name ∈ names, c ∈ name.toList := by
  induction names generalizing place with
  | nil => exact .inl hc
  | cons name rest ih =>
    rw [List.forall_mem_cons] at h
    rw [below_cons] at hc
    rcases ih h.2 hc with hjoin | hslash | ⟨other, hother, hmem⟩
    · rw [toList_join h.1] at hjoin
      split at hjoin
      · rcases List.mem_append.mp hjoin with hplace | hname
        · exact .inl hplace
        · exact .inr (.inr ⟨name, List.mem_cons_self, hname⟩)
      · rcases List.mem_append.mp hjoin with hplace | hname
        · exact .inl hplace
        · rcases List.mem_cons.mp hname with hslash | hname
          · exact .inr (.inl hslash)
          · exact .inr (.inr ⟨name, List.mem_cons_self, hname⟩)
    · exact .inr (.inl hslash)
    · exact .inr (.inr ⟨other, List.mem_cons_of_mem name hother, hmem⟩)

/-- A character of a step is one of the path. -/
theorem mem_of_mem_step {p : Path} {step : String} (h : step ∈ FileSystem.steps p) {c : Char}
    (hc : c ∈ step.toList) : c ∈ p.text.toList := by
  obtain ⟨piece, hpiece, -, rfl⟩ := FileSystem.mem_steps_iff.mp h
  rw [String.toList_ofList] at hc
  exact mem_of_mem_piece hpiece hc

/-- A character that is neither slash nor point stands in one of the names. -/
theorem exists_name_of_mem {p : Path} {c : Char} (hc : c ∈ p.text.toList) (hslash : c ≠ '/')
    (hpoint : c ≠ '.') : ∃ name ∈ p.names, c ∈ name.toList := by
  obtain ⟨piece, hpiece, hmem⟩ := exists_piece_of_mem hc hslash
  have hstep : String.ofList piece ∈ FileSystem.steps p :=
    FileSystem.mem_steps_iff.mpr ⟨piece, hpiece, List.ne_nil_of_mem hmem, rfl⟩
  have hmem' : c ∈ (String.ofList piece).toList := by rwa [String.toList_ofList]
  refine ⟨String.ofList piece, List.mem_filter.mpr ⟨hstep, ?_⟩, hmem'⟩
  have hne : String.ofList piece ≠ "." := by
    intro heq
    rw [heq] at hmem'
    exact hpoint (List.mem_singleton.mp hmem')
  simpa using hne

end Path

namespace Capitalization

theorem names_eq_some_iff {components : List Component} {names : List String} :
    plainNames?.names components = some names ↔ components = names.map .name := by
  induction components generalizing names with
  | nil => cases names <;> simp [plainNames?.names]
  | cons component rest ih =>
    cases component with
    | name text =>
      rw [plainNames?.names, Option.map_eq_some_iff]
      cases names with
      | nil => simp
      | cons first others =>
        simp only [ih, List.cons.injEq, List.map_cons, Component.name.injEq]
        constructor
        · rintro ⟨found, rfl, hfirst, rfl⟩
          exact ⟨hfirst, rfl⟩
        · rintro ⟨hfirst, hrest⟩
          exact ⟨others, hrest, hfirst, rfl⟩
    | root => cases names <;> simp [plainNames?.names]
    | here => cases names <;> simp [plainNames?.names]
    | up => cases names <;> simp [plainNames?.names]

theorem plainNames?_eq (p : Path) :
    plainNames? p = if p.isAbsolute then plainNames?.names p.components.tail
      else plainNames?.names p.components := by
  rw [plainNames?]
  split
  · rename_i rest hcomponents
    have habsolute : p.isAbsolute = true := Path.isAbsolute_iff.mpr (by rw [hcomponents]; rfl)
    rw [if_pos habsolute, hcomponents, List.tail_cons]
  · rename_i hroot
    have hrelative : ¬ p.isAbsolute = true := by
      rw [Path.isAbsolute_iff]
      intro hhead
      obtain ⟨rest, hrest⟩ := List.head?_eq_some_iff.mp hhead
      exact hroot rest hrest
    rw [if_neg hrelative]

/-- The plain paths are those whose names are found. -/
theorem plainNames?_eq_some_iff {p : Path} {names : List String} :
    plainNames? p = some names ↔ p.IsPlain ∧ names = p.names := by
  have hnames : plainNames? p = some names ↔ p.components = p.top ++ names.map .name := by
    rw [plainNames?_eq, Path.top]
    split
    · rename_i habsolute
      obtain ⟨rest, hrest⟩ := List.head?_eq_some_iff.mp (Path.isAbsolute_iff.mp habsolute)
      rw [hrest, List.tail_cons, names_eq_some_iff, List.singleton_append, List.cons.injEq]
      exact (and_iff_right rfl).symm
    · rw [names_eq_some_iff, List.nil_append]
  rw [hnames]
  constructor
  · intro hcomponents
    have hplain := Path.isPlain_of_components_eq rfl hcomponents
    rw [Path.components_of_isPlain hplain, List.append_cancel_left_eq, Path.map_name_inj]
      at hcomponents
    exact ⟨hplain, hcomponents.symm⟩
  · rintro ⟨hplain, rfl⟩
    exact Path.components_of_isPlain hplain

theorem components_start (p : Path) : (start p).components = p.top := by
  rw [start, Path.top]
  split <;> rfl

theorem isAbsolute_start (p : Path) : (start p).isAbsolute = p.isAbsolute := by
  rw [start]
  cases p.isAbsolute <;> rfl

theorem start_eq_of_isAbsolute_eq {p q : Path} (h : q.isAbsolute = p.isAbsolute) :
    start q = start p := by
  rw [start, start, h]

theorem nul_notMem_start (p : Path) : '\x00' ∉ (start p).text.toList := by
  rw [start]
  split <;> simp

variable {names : List String}

theorem components_below_start (h : ∀ name ∈ names, IsName name) (p : Path) :
    ((start p).below names).components = p.top ++ names.map .name := by
  rw [Path.components_below h, components_start]

theorem isAbsolute_below_start (h : ∀ name ∈ names, IsName name) (p : Path) :
    ((start p).below names).isAbsolute = p.isAbsolute := by
  rw [Path.isAbsolute_below h, isAbsolute_start]

/-- Names taken from the beginning of a path make a plain path. -/
theorem isPlain_below_start (h : ∀ name ∈ names, IsName name) (p : Path) :
    ((start p).below names).IsPlain := by
  have htop : p.top = ((start p).below names).top := by
    rw [Path.top, Path.top, isAbsolute_below_start h]
  exact Path.isPlain_of_components_eq htop (components_below_start h p)

theorem names_below_start (h : ∀ name ∈ names, IsName name) (p : Path) :
    ((start p).below names).names = names := by
  have hcomponents := components_below_start h p
  have htop : ((start p).below names).top = p.top := by
    rw [Path.top, Path.top, isAbsolute_below_start h]
  rw [Path.components_of_isPlain (isPlain_below_start h p), htop, List.append_cancel_left_eq,
    Path.map_name_inj] at hcomponents
  exact hcomponents

theorem nul_notMem_below_start (h : ∀ name ∈ names, IsName name)
    (hfree : ∀ name ∈ names, '\x00' ∉ name.toList) (p : Path) :
    '\x00' ∉ ((start p).below names).text.toList := by
  intro hmem
  rcases Path.mem_below h hmem with hstart | hslash | ⟨name, hname, hmem⟩
  · exact nul_notMem_start p hstart
  · cases hslash
  · exact hfree name hname hmem

end Capitalization

end SourceServer
