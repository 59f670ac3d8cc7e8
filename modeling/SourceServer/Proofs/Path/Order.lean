import SourceServer.Path
import Std.Data.TreeSet

/-!
# The order of paths

Paths are ordered by their components, and two paths are equal in this order exactly when they have
the same components. Sets of paths therefore hold paths up to their meaning.

- `Path.compare_eq_iff`: equality in the order.
- `Path.mem_iff_exists_mem_toList`, `Path.mem_toList_insert`: the paths that a set holds.
-/

namespace SourceServer

namespace Component

theorem compare_eq (a b : Component) :
    compare a b = (compare a.rank b.rank).then (compare a.label b.label) := rfl

instance : Std.TransOrd Component :=
  inferInstanceAs (Std.TransCmp (compareLex (compareOn rank) (compareOn label)))

instance : Std.LawfulEqOrd Component where
  eq_of_compare {a b} h := by
    rw [compare_eq, Ordering.then_eq_eq, Std.compare_eq_iff_eq, Std.compare_eq_iff_eq] at h
    cases a <;> cases b <;> simp_all [rank, label]

end Component

namespace Path

instance : Std.TransOrd Path :=
  inferInstanceAs (Std.TransCmp (compareOn components))

theorem compare_eq_iff {p q : Path} : compare p q = .eq ↔ p.components = q.components :=
  Std.compare_eq_iff_eq (a := p.components)

/-- Paths as sets hold them: up to their components. -/
@[reducible] def sameComponents : BEq Path := ⟨fun p q => compare p q == .eq⟩

theorem lawfulBEqCmp_sameComponents :
    @Std.LawfulBEqCmp Path sameComponents (compare : Path → Path → Ordering) :=
  @Std.LawfulBEqCmp.mk _ sameComponents _ beq_iff_eq.symm

/-- A set holds a path when it holds one with the same components. -/
theorem mem_iff_exists_mem_toList {found : Std.TreeSet Path} {p : Path} :
    p ∈ found ↔ ∃ q ∈ found.toList, q.components = p.components := by
  let _ := sameComponents
  have := lawfulBEqCmp_sameComponents
  rw [← Std.TreeSet.contains_iff_mem, ← Std.TreeSet.contains_toList,
    List.contains_iff_exists_mem_beq]
  refine exists_congr fun q => and_congr_right fun _ => ?_
  show (compare p q == .eq) = true ↔ _
  rw [beq_iff_eq, compare_eq_iff, eq_comm]

/-- A set holds the paths that were put into it, and no other texts of them. -/
theorem mem_toList_insert {found : Std.TreeSet Path} {p q : Path}
    (h : q ∈ (found.insert p).toList) : q = p ∨ q ∈ found.toList := by
  let _ := sameComponents
  have := lawfulBEqCmp_sameComponents
  have hmem := Std.TreeSet.toList_insert_perm.mem_iff.mp h
  split at hmem
  · exact .inr hmem
  · exact List.mem_cons.mp hmem

end Path

end SourceServer
