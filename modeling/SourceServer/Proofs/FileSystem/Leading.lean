import SourceServer.Proofs.FileSystem.Writing
import SourceServer.Proofs.Path.Names

/-!
# Where a path leads

A path leads to a place when its directory exists and one name is left, whether something stands
there or not. Writing files changes nothing about where a path leads; a file written by a path
stands where the path leads, and what another path names stays as it was.

- `FileSystem.LeadsTo`: a path leads to a place.
- `FileSystem.LeadsTo.filePlace_eq`: a file is written where its path leads.
- `FileSystem.Wrote.leadsTo`, `FileSystem.Wrote.item_eq`: what a file that is written leaves as it was.
-/

namespace SourceServer

namespace FileSystem

/-- The walk along a path comes to a directory, with one name left. -/
structure LeadsTo (fs : FileSystem) (p : Path) (above : List String) (name : String) : Prop where
  isName : IsName name
  steps_eq : steps p = (steps p).dropLast ++ [name]
  walk_eq : fs.walk (fs.origin p) (steps p).dropLast = .ok above
  above_directory : fs.itemAt? above = some .directory

variable {fs after : FileSystem} {p : Path} {above place : List String} {name : String}
  {content : ByteArray}

/-- A file is written where its path leads. -/
theorem LeadsTo.filePlace_eq (h : fs.LeadsTo p above name) (hplace : fs.filePlace p = .ok place) :
    place = above ++ [name] := by
  obtain ⟨front, last, rfl, hopens⟩ := filePlace_eq_ok hplace
  have hfront : front = above := Except.ok.inj (hopens.walk_eq.symm.trans h.walk_eq)
  have hlast : [last] = [name] := List.append_cancel_left (hopens.steps_eq.symm.trans h.steps_eq)
  rw [hfront, hlast]

/-- A path leads to one place. -/
theorem LeadsTo.unique {others : List String} {other : String} (h : fs.LeadsTo p above name)
    (h' : fs.LeadsTo p others other) : above = others ∧ name = other :=
  ⟨Except.ok.inj (h.walk_eq.symm.trans h'.walk_eq),
    (List.cons.inj (List.append_cancel_left (h.steps_eq.symm.trans h'.steps_eq))).1⟩

namespace Wrote

/-- A path leads where it led. -/
theorem leadsTo (hwrote : fs.Wrote after place content) (h : fs.LeadsTo p above name) :
    after.LeadsTo p above name where
  isName := h.isName
  steps_eq := h.steps_eq
  walk_eq := by
    rw [origin_eq_of_current_eq hwrote.current_eq]
    exact hwrote.walk_of_ok h.walk_eq
  above_directory := hwrote.itemAt?_directory h.above_directory

/-- A path that leads to another place names what it named. -/
theorem item_eq (hwrote : fs.Wrote after place content) (h : fs.LeadsTo p above name)
    (hne : above ++ [name] ≠ place) : after.item p = fs.item p := by
  have hwalk : ∀ gs : FileSystem, gs.LeadsTo p above name → gs.walk (gs.origin p) (steps p)
      = if longestName < name.utf8ByteSize then .error .nameTooLong
        else if gs.itemAt? (above ++ [name]) = none then .error .notFound
        else .ok (above ++ [name]) := by
    intro gs hgs
    rw [hgs.steps_eq, walk_append, hgs.walk_eq]
    show gs.walk above [name] = _
    rw [walk_cons, hgs.above_directory]
    simp only [walk_nil, if_neg hgs.isName.ne_here, if_neg hgs.isName.ne_up]
  have hthere := hwrote.itemAt?_other hne
  rw [FileSystem.item_eq, FileSystem.item_eq, hwalk after (hwrote.leadsTo h), hwalk fs h, hthere]
  cases pathError? p with
  | some error => rfl
  | none =>
    by_cases hlong : longestName < name.utf8ByteSize
    · simp only [if_pos hlong]
    · by_cases hnone : fs.itemAt? (above ++ [name]) = none
      · simp only [if_neg hlong, if_pos hnone]
      · simp only [if_neg hlong, if_neg hnone, hthere]

end Wrote

end FileSystem

end SourceServer
