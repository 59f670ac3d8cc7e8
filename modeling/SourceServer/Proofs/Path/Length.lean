import Mathlib.Algebra.GroupWithZero.Nat
import SourceServer.Proofs.Path.Names

/-!
# The length of a path

Taking the names of a path one after the other gives a text that is no longer than that of the path:
what it loses are slashes and idle points. So where a path is short enough to be looked up, all
directories on its way are.

- `Path.slashed`: the bytes of names with a slash behind each.
- `Path.slashed_steps_le`: the steps of a path fit into its text.
- `Path.utf8ByteSize_below_le`: names taken from the beginning of a path.
-/

namespace SourceServer

namespace Path

/-- A row of one character that takes one byte. -/
theorem size_replicate {c : Char} (h : c.utf8Size = 1) (n : Nat) :
    (String.ofList (List.replicate n c)).utf8ByteSize = n := by
  induction n with
  | zero => rfl
  | succ n ih =>
    rw [List.replicate_succ, String.ofList_cons, String.utf8ByteSize_append, ih,
      String.utf8ByteSize_singleton, h, Nat.add_comm]

/-- The bytes of some names with a slash behind each. -/
def slashed (names : List String) : Nat :=
  (names.map fun name => name.utf8ByteSize + 1).sum

@[simp] theorem slashed_nil : slashed [] = 0 := rfl

@[simp] theorem slashed_cons (name : String) (rest : List String) :
    slashed (name :: rest) = name.utf8ByteSize + 1 + slashed rest := by
  simp [slashed]

theorem slashed_append (first second : List String) :
    slashed (first ++ second) = slashed first + slashed second := by
  simp [slashed]

theorem slashed_filter_le (p : String → Bool) (names : List String) :
    slashed (names.filter p) ≤ slashed names := by
  induction names with
  | nil => exact Nat.le_refl _
  | cons name rest ih =>
    rw [List.filter_cons]
    split
    · rw [slashed_cons, slashed_cons]
      omega
    · rw [slashed_cons]
      omega

/-! ## Steps -/

/-- A text is as long as its pieces and the slashes between them. -/
theorem slashed_pieces {pieces : List (List Char)} (h : pieces ≠ []) :
    slashed (pieces.map String.ofList)
      = (String.ofList (['/'].intercalate pieces)).utf8ByteSize + 1 := by
  induction pieces with
  | nil => exact absurd rfl h
  | cons piece rest ih =>
    cases rest with
    | nil => simp [List.intercalate]
    | cons next rest =>
      have hslash : (String.ofList ['/']).utf8ByteSize = 1 := by decide
      rw [List.map_cons, slashed_cons, ih (List.cons_ne_nil next rest), List.intercalate_cons_cons,
        String.ofList_append, String.ofList_append, String.utf8ByteSize_append,
        String.utf8ByteSize_append, hslash]
      omega

theorem slashed_splitOn (p : Path) :
    slashed ((p.text.toList.splitOn '/').map String.ofList) = p.text.utf8ByteSize + 1 := by
  rw [slashed_pieces (List.splitOn_ne_nil '/' p.text.toList), List.intercalate_splitOn,
    String.ofList_toList]

/-- The steps of a path fit into its text, behind the slash if it is absolute. -/
theorem slashed_steps_le (p : Path) :
    slashed (FileSystem.steps p) + (if p.isAbsolute then 1 else 0) ≤ p.text.utf8ByteSize + 1 := by
  have hsteps : FileSystem.steps p
      = ((p.text.toList.splitOn '/').map String.ofList).filter (· ≠ "") := by
    rw [FileSystem.steps, List.filter_map]
    refine congrArg (List.map String.ofList) (List.filter_congr fun piece _ => ?_)
    have hempty : String.ofList piece = "" ↔ piece = [] := by
      rw [← String.toList_eq_nil_iff, String.toList_ofList]
    simp [hempty]
  rw [hsteps, ← slashed_splitOn]
  split
  · rename_i habsolute
    -- the piece before the first slash is empty
    rw [isAbsolute, beq_iff_eq] at habsolute
    obtain ⟨rest, hrest⟩ := List.head?_eq_some_iff.mp habsolute
    have hfirst : p.text.toList.splitOn '/' = [] :: rest.splitOn '/' := by
      rw [hrest, List.splitOn_cons_eq_if_modifyHead]
      rfl
    have hfit := slashed_filter_le (fun name => decide (name ≠ ""))
      ((rest.splitOn '/').map String.ofList)
    rw [hfirst, List.map_cons, List.filter_cons_of_neg (by simp), slashed_cons]
    omega
  · exact slashed_filter_le _ _

/-! ## Names taken from a path -/

/-- A path from which a name is taken without another slash. -/
def IsOpen (p : Path) : Prop :=
  p.text = "" ∨ p.text.toList.getLast? = some '/'

instance (p : Path) : Decidable p.IsOpen :=
  inferInstanceAs (Decidable (_ ∨ _))

/-- The bytes that stand in front of a name taken from a path. -/
def lead (p : Path) : Nat :=
  p.text.utf8ByteSize + if p.IsOpen then 0 else 1

variable {name : String}

theorem text_join (h : IsName name) (directory : Path) :
    (directory.join ⟨name⟩).text
      = if directory.IsOpen then directory.text ++ name else directory.text ++ "/" ++ name := by
  rw [join, isAbsolute_name h]
  by_cases hopen : directory.IsOpen
  · rw [if_pos hopen]
    exact congrArg Path.text (if_pos hopen)
  · rw [if_neg hopen]
    exact congrArg Path.text (if_neg hopen)

/-- A path that ends in a name is not open. -/
theorem not_isOpen_join (h : IsName name) (directory : Path) :
    ¬ (directory.join ⟨name⟩).IsOpen := by
  have hname : name.toList ≠ [] := fun heq => h.ne_empty (String.toList_eq_nil_iff.mp heq)
  have hlast : ∀ front : List Char, (front ++ name.toList).getLast? = name.toList.getLast? := by
    intro front
    rw [List.getLast?_append, List.getLast?_eq_some_getLast hname]
    rfl
  have hends : (directory.join ⟨name⟩).text.toList.getLast? = name.toList.getLast? := by
    rw [text_join h]
    split
    · rw [String.toList_append, hlast]
    · rw [String.toList_append, hlast]
  rintro (hempty | hslash)
  · rw [hempty, List.getLast?_eq_some_getLast hname] at hends
    cases hends
  · rw [hends] at hslash
    exact h.slash_notMem (List.mem_of_getLast? hslash)

theorem lead_join (h : IsName name) (directory : Path) :
    (directory.join ⟨name⟩).lead = directory.lead + name.utf8ByteSize + 1 := by
  have hslash : "/".utf8ByteSize = 1 := by decide
  rw [lead, if_neg (not_isOpen_join h directory), text_join h, lead]
  split
  · rw [String.utf8ByteSize_append]
    omega
  · rw [String.utf8ByteSize_append, String.utf8ByteSize_append, hslash]

theorem lead_below {names : List String} (h : ∀ name ∈ names, IsName name) (place : Path) :
    (place.below names).lead = place.lead + slashed names := by
  induction names generalizing place with
  | nil => simp
  | cons name rest ih =>
    rw [List.forall_mem_cons] at h
    rw [below_cons, ih h.2, lead_join h.1, slashed_cons]
    omega

theorem not_isOpen_below {names : List String} (h : ∀ name ∈ names, IsName name) (hne : names ≠ [])
    (place : Path) : ¬ (place.below names).IsOpen := by
  rcases List.eq_nil_or_concat names with rfl | ⟨front, last, rfl⟩
  · exact absurd rfl hne
  · rw [List.concat_eq_append] at h ⊢
    have hlast : IsName last := h last (by simp)
    rw [below_append, below_cons, below_nil]
    exact not_isOpen_join hlast _

theorem lead_start (p : Path) : (Capitalization.start p).lead = if p.isAbsolute then 1 else 0 := by
  rw [Capitalization.start]
  cases p.isAbsolute <;> decide

/-- Some of the first names of a plain path, taken from where it starts, are no longer than it. -/
theorem utf8ByteSize_below_le {p : Path} (hp : p.IsPlain) {front : List String}
    (hfront : front <+: p.names) (hne : front ≠ []) :
    ((Capitalization.start p).below front).text.utf8ByteSize ≤ p.text.utf8ByteSize := by
  have hnames : ∀ name ∈ front, IsName name :=
    fun name hname => isName_of_mem_names hp (hfront.subset hname)
  obtain ⟨back, hback⟩ := hfront
  have hlead := lead_below hnames (Capitalization.start p)
  rw [lead, if_neg (not_isOpen_below hnames hne _), lead_start] at hlead
  have hfit : slashed front ≤ slashed (FileSystem.steps p) := by
    have hall : slashed p.names ≤ slashed (FileSystem.steps p) := slashed_filter_le _ _
    rw [← hback, slashed_append] at hall
    omega
  have hsteps := slashed_steps_le p
  omega

end Path

end SourceServer
