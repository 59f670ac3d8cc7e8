import Mathlib.Data.List.Basic
import SourceServer.Verification

/-!
# The digests of candidates

Candidates are hashed one after another. Each one that can be read is counted, but only the first one
with a digest is kept, so the number of candidates says nothing about the number of digests. What is
known after some candidates is said by the list of them: how many can be read, and which is the
first one with a digest.

- `CandidateDigests.isReadable`, `CandidateDigests.hasDigest`: what a candidate is asked for.
- `CandidateDigests.Represents`: what is known after some candidates.
- `CandidateDigests.Represents.add`, `CandidateDigests.Represents.foldl`: one more candidate, and
  a list of them.
- `CandidateDigests.ofFiles_spec`: the digests of a list of candidates.
-/

namespace SourceServer

namespace CandidateDigests

/-- A file that can be read. -/
def isReadable (fs : FileSystem) (file : Path) : Bool :=
  match fs.read file with
  | .ok _ => true
  | .error _ => false

/-- A file that can be read and whose content has the digest. -/
def hasDigest (fs : FileSystem) (digest : String) (file : Path) : Bool :=
  match fs.read file with
  | .ok content => Md5.hex content == digest
  | .error _ => false

variable {fs : FileSystem} {seen : List Path} {d : CandidateDigests} {file : Path}
  {digest : String}

theorem isReadable_iff : isReadable fs file = true ↔ ∃ content, fs.read file = .ok content := by
  rw [isReadable]
  cases fs.read file with
  | ok content => exact iff_of_true rfl ⟨content, rfl⟩
  | error error => exact iff_of_false nofun fun ⟨_, h⟩ => nomatch h

theorem hasDigest_iff :
    hasDigest fs digest file = true ↔ ∃ content, fs.read file = .ok content
      ∧ Md5.hex content = digest := by
  rw [hasDigest]
  cases fs.read file with
  | ok content => simp
  | error error => exact iff_of_false nofun fun ⟨_, h, _⟩ => nomatch h

/-! ## One candidate after another -/

/-- What is known after some candidates: how many of them can be read, and for each digest the first
one that has it. -/
structure Represents (fs : FileSystem) (seen : List Path) (d : CandidateDigests) : Prop where
  hashed_eq : d.hashed = seen.countP (isReadable fs)
  getElem?_eq : ∀ digest, d.byDigest[digest]? = seen.find? (hasDigest fs digest)

theorem represents_empty : Represents fs [] empty :=
  ⟨rfl, fun _ => rfl⟩

/-- A candidate that cannot be read changes nothing. -/
theorem add_of_read_eq_error {error : IoError} (h : fs.read file = .error error) :
    d.add fs file = d := by
  rw [add, fileDigest, h]

theorem add_of_read_eq_ok {content : ByteArray} (h : fs.read file = .ok content) :
    d.add fs file = ⟨d.byDigest.insertIfNew (Md5.hex content) file, d.hashed + 1⟩ := by
  rw [add, fileDigest, h]

/-- A digest keeps the first file that it was found for. -/
theorem getElem?_insertIfNew (kept : Std.TreeMap String Path) (other : String) :
    (kept.insertIfNew digest file)[other]?
      = kept[other]?.or (if digest == other then some file else none) := by
  rw [Std.TreeMap.getElem?_insertIfNew]
  by_cases hsame : digest = other
  · subst hsame
    rw [if_pos (beq_self_eq_true digest)]
    by_cases hknown : digest ∈ kept
    · obtain ⟨first, hfirst⟩ :=
        Option.isSome_iff_exists.mp (Std.TreeMap.mem_iff_isSome_getElem?.mp hknown)
      rw [if_neg fun h => h.2 hknown, hfirst, Option.some_or]
    · rw [if_pos ⟨Std.compare_self, hknown⟩, Std.TreeMap.getElem?_eq_none hknown, Option.none_or]
  · rw [if_neg fun h => hsame (Std.compare_eq_iff_eq.mp h.1), if_neg (by simpa using hsame),
      Option.or_none]

/-- One more candidate is counted if it can be read, and kept if its digest is new. -/
theorem Represents.add (h : Represents fs seen d) (file : Path) :
    Represents fs (seen ++ [file]) (d.add fs file) := by
  cases hread : fs.read file with
  | error error =>
    have hreadable : isReadable fs file = false := by rw [isReadable, hread]
    have hdigest : ∀ digest, hasDigest fs digest file = false := fun digest => by
      rw [hasDigest, hread]
    rw [add_of_read_eq_error hread]
    constructor
    · rw [h.hashed_eq, List.countP_append, List.countP_singleton, hreadable]
      rfl
    · intro digest
      rw [h.getElem?_eq, List.find?_append, List.find?_singleton, hdigest]
      simp
  | ok content =>
    have hreadable : isReadable fs file = true := by rw [isReadable, hread]
    have hdigest : ∀ digest, hasDigest fs digest file = (Md5.hex content == digest) :=
      fun digest => by rw [hasDigest, hread]
    rw [add_of_read_eq_ok hread]
    constructor
    · rw [h.hashed_eq, List.countP_append, List.countP_singleton, hreadable]
      rfl
    · intro digest
      rw [getElem?_insertIfNew, List.find?_append, List.find?_singleton, hdigest, h.getElem?_eq]

/-- A list of candidates. -/
theorem Represents.foldl (h : Represents fs seen d) (files : List Path) :
    Represents fs (seen ++ files) (files.foldl (CandidateDigests.add fs) d) := by
  induction files generalizing seen d with
  | nil =>
    rw [List.append_nil]
    exact h
  | cons file rest ih =>
    rw [List.foldl_cons, List.append_cons]
    exact ih (h.add file)

theorem represents_ofFiles (fs : FileSystem) (files : List Path) :
    Represents fs files (ofFiles fs files) :=
  represents_empty.foldl files

/-! ## All candidates -/

/-- The candidate that is found is the first one with the digest. -/
theorem file?_ofFiles (fs : FileSystem) (files : List Path) (checksum : String) :
    (ofFiles fs files).file? checksum = files.find? (hasDigest fs (Ascii.lower checksum)) :=
  (represents_ofFiles fs files).getElem?_eq (Ascii.lower checksum)

theorem file?_ofFiles_eq_none_iff {files : List Path} {checksum : String} :
    (ofFiles fs files).file? checksum = none
      ↔ ∀ file ∈ files, ∀ content, fs.read file = .ok content →
        Md5.hex content ≠ Ascii.lower checksum := by
  rw [file?_ofFiles, List.find?_eq_none]
  simp only [hasDigest_iff, not_exists, not_and, ne_eq]

theorem file?_ofFiles_eq_some_iff {files : List Path} {checksum : String} :
    (ofFiles fs files).file? checksum = some file
      ↔ ∃ before content behind, files = before ++ file :: behind ∧ fs.read file = .ok content
        ∧ Md5.hex content = Ascii.lower checksum
        ∧ ∀ other ∈ before, ∀ content, fs.read other = .ok content →
          Md5.hex content ≠ Ascii.lower checksum := by
  rw [file?_ofFiles, List.find?_eq_some_iff_append, hasDigest_iff]
  have hother : ∀ other, (!hasDigest fs (Ascii.lower checksum) other) = true
      ↔ ∀ content, fs.read other = .ok content → Md5.hex content ≠ Ascii.lower checksum := by
    intro other
    rw [Bool.not_eq_true', Bool.eq_false_iff, Ne, hasDigest_iff]
    simp only [not_exists, not_and, ne_eq]
  simp only [hother]
  constructor
  · rintro ⟨⟨content, hread, hdigest⟩, before, behind, hsplit, hbefore⟩
    exact ⟨before, content, behind, hsplit, hread, hdigest, hbefore⟩
  · rintro ⟨before, content, behind, hsplit, hread, hdigest, hbefore⟩
    exact ⟨⟨content, hread, hdigest⟩, before, behind, hsplit, hbefore⟩

theorem isEmpty_ofFiles_iff {files : List Path} :
    (ofFiles fs files).isEmpty = true ↔ ∀ file ∈ files, ∀ content, fs.read file ≠ .ok content := by
  rw [isEmpty, beq_iff_eq, (represents_ofFiles fs files).hashed_eq, List.countP_eq_zero]
  simp only [isReadable_iff, not_exists, ne_eq]

/-- **The digests of a list of candidates.** Their number is that of the places of the list whose
file can be read, so repeated and identical files count each, and there are none exactly when no file
can be read. For every checksum, in either case, the candidate that is found is the first one of the
list that can be read and whose content has this digest; none is found exactly when no candidate that
can be read has it. -/
theorem ofFiles_spec (fs : FileSystem) (files : List Path) :
    (ofFiles fs files).size = files.countP (isReadable fs)
      ∧ ((ofFiles fs files).isEmpty = true
        ↔ ∀ file ∈ files, ∀ content, fs.read file ≠ .ok content)
      ∧ ∀ checksum, (∀ file, (ofFiles fs files).file? checksum = some file
          ↔ ∃ before content behind, files = before ++ file :: behind
            ∧ fs.read file = .ok content ∧ Md5.hex content = Ascii.lower checksum
            ∧ ∀ other ∈ before, ∀ content, fs.read other = .ok content →
              Md5.hex content ≠ Ascii.lower checksum)
        ∧ ((ofFiles fs files).file? checksum = none
          ↔ ∀ file ∈ files, ∀ content, fs.read file = .ok content →
            Md5.hex content ≠ Ascii.lower checksum) := by
  refine ⟨(represents_ofFiles fs files).hashed_eq, isEmpty_ofFiles_iff, fun checksum => ⟨?_, ?_⟩⟩
  · exact fun file => file?_ofFiles_eq_some_iff
  · exact file?_ofFiles_eq_none_iff

/-- Of two empty files the first one is found, and both are counted. -/
example :
    let digests := ofFiles ⟨.directory [("a", .file .empty), ("b", .file .empty)], []⟩
      [⟨"gone"⟩, ⟨"b"⟩, ⟨"a"⟩]
    digests.size = 2 ∧ digests.file? "D41D8CD98F00B204E9800998ECF8427E" = some ⟨"b"⟩ := by
  decide +kernel

end CandidateDigests

end SourceServer
