import Mathlib.Data.List.Basic
import SourceServer.Link

/-!
# The records of streams

Streams are read one after the other, and the first one that cannot be read ends the matter. Where
all of them can be read, the records are those of the single streams. So they do not depend on how
the streams are read, and streams in another order give the same records in another order.

- `ChecksumStreams.recordIn?`: the record of a stream, as far as it can be read.
- `ChecksumStreams.recordsOf_eq_ok`, `ChecksumStreams.recordsOf_eq_error`: when there are records,
  and which, and why there are none.
- `SameStreams`, `ChecksumStreams.records_perm`: directories with the same streams.
-/

namespace SourceServer

theorem bind_eq_error {ε α β : Type} {x : Except ε α} {f : α → Except ε β} {e : ε} :
    x >>= f = .error e ↔ x = .error e ∨ ∃ a, x = .ok a ∧ f a = .error e := by
  cases x <;> simp [bind, Except.bind]

namespace ChecksumStreams

variable {ε : Type} {streams : StreamDirectory ε} {names : List String}
  {records : List ChecksumRecord}

/-- A stream with a path in its name. -/
def IsMarked (name : String) : Prop :=
  (markedPath? name).isSome = true

theorem isMarked_of_path {name path : String} (h : markedPath? name = some path) :
    IsMarked name := by
  rw [IsMarked, h]
  rfl

/-- A stream that can be read, with its content. -/
def Readable (streams : StreamDirectory ε) (name : String) : Prop :=
  ∃ bytes, streams.read name = .ok bytes

/-- The record of a path and the content of its stream. -/
def recordWith? (path : String) (bytes : List UInt8) : Option ChecksumRecord :=
  (digest? bytes).map fun digest => ⟨path, some digest⟩

/-- The record of a stream that can be read, if it is marked and has the right length. -/
def recordIn? (streams : StreamDirectory ε) (name : String) : Option ChecksumRecord :=
  (markedPath? name).bind fun path => (streams.read name).toOption.bind (recordWith? path)

theorem result_record? (streams : StreamDirectory ε) (name : String) :
    (record? streams name).result
      = match markedPath? name with
        | none => .ok none
        | some path => (streams.read name).map (recordWith? path) := by
  rw [record?]
  cases markedPath? name with
  | none => rfl
  | some path =>
    rw [Task.result_bind, Task.result_ofExcept]
    cases streams.read name with
    | error error => rfl
    | ok bytes =>
      show Task.result _ = _
      simp only [Except.map, recordWith?]
      cases digest? bytes <;> rfl

/-- A record is found or missed, but not for a stream that is marked and cannot be read. -/
theorem record?_eq_ok {name : String} {record : Option ChecksumRecord} :
    (record? streams name).result = .ok record
      ↔ (IsMarked name → Readable streams name) ∧ record = recordIn? streams name := by
  rw [result_record?, IsMarked, Readable, recordIn?]
  cases markedPath? name with
  | none => simp [eq_comm]
  | some path =>
    cases streams.read name with
    | error error => simp [Except.map]
    | ok bytes => simp [Except.map, Except.toOption, eq_comm]

/-- The records of streams, one after the other. -/
theorem recordsOf_eq_ok :
    (recordsOf streams names).result = .ok records
      ↔ (∀ name ∈ names, IsMarked name → Readable streams name)
        ∧ records = names.filterMap (recordIn? streams) := by
  induction names generalizing records with
  | nil => simp [recordsOf, eq_comm]
  | cons name rest ih =>
    rw [recordsOf, Task.result_bind, bind_eq_ok, List.forall_mem_cons]
    simp only [Task.result_bind, bind_eq_ok, Task.result_pure, Except.ok.injEq, record?_eq_ok, ih]
    have hcons : (name :: rest).filterMap (recordIn? streams)
        = (recordIn? streams name).toList ++ rest.filterMap (recordIn? streams) := by
      cases hrecord : recordIn? streams name <;> simp [hrecord]
    constructor
    · rintro ⟨_, ⟨hname, rfl⟩, _, ⟨hrest, rfl⟩, rfl⟩
      exact ⟨⟨hname, hrest⟩, hcons.symm⟩
    · rintro ⟨⟨hname, hrest⟩, rfl⟩
      exact ⟨_, ⟨hname, rfl⟩, _, ⟨hrest, rfl⟩, hcons.symm⟩

/-- The first marked stream that cannot be read ends the matter, and nothing else does. -/
theorem recordsOf_eq_error {error : ε} :
    (recordsOf streams names).result = .error error
      ↔ ∃ front name back, names = front ++ name :: back
        ∧ (∀ earlier ∈ front, IsMarked earlier → Readable streams earlier)
        ∧ IsMarked name ∧ streams.read name = .error error := by
  induction names with
  | nil => exact iff_of_false nofun (by simp)
  | cons name rest ih =>
    have hrecord : (record? streams name).result = .error error
        ↔ IsMarked name ∧ streams.read name = .error error := by
      rw [result_record?, IsMarked]
      cases markedPath? name with
      | none => simp
      | some path => cases streams.read name <;> simp [Except.map]
    rw [recordsOf, Task.result_bind, bind_eq_error, hrecord]
    simp only [Task.result_bind, bind_eq_error, Task.result_pure, reduceCtorEq, and_false,
      exists_false, or_false, record?_eq_ok, ih]
    constructor
    · rintro (⟨hmarked, hread⟩ | ⟨_, ⟨hname, -⟩, front, other, back, rfl, hfront, hother⟩)
      · exact ⟨[], name, rest, rfl, by simp, hmarked, hread⟩
      · exact ⟨name :: front, other, back, rfl, List.forall_mem_cons.mpr ⟨hname, hfront⟩, hother⟩
    · rintro ⟨front, other, back, hnames, hfront, hother⟩
      cases front with
      | nil =>
        obtain ⟨rfl, rfl⟩ := List.cons.inj hnames
        exact .inl hother
      | cons first front =>
        obtain ⟨rfl, rfl⟩ := List.cons.inj hnames
        rw [List.forall_mem_cons] at hfront
        exact .inr ⟨_, ⟨hfront.1, rfl⟩, front, other, back, rfl, hfront.2, hother⟩

theorem records_eq_ok :
    (ChecksumStreams.records streams).result = .ok records
      ↔ ∃ names, streams.names = .ok names ∧ (∀ name ∈ names, IsMarked name → Readable streams name)
        ∧ records = names.filterMap (recordIn? streams) := by
  rw [ChecksumStreams.records, Task.result_bind, bind_eq_ok]
  simp only [Task.result_ofExcept, recordsOf_eq_ok]

end ChecksumStreams

/-- Without a listing, the records of a symbol file are those of its streams. -/
theorem fileRecords_of_openFile {fs : FileSystem} {job : Job} {container : Pdb.Container}
    (hlisting : job.listing = none) (h : Pdb.openFile fs job.pdb = .ok container) :
    (fileRecords fs job).result = (ChecksumStreams.records container.streamDirectory).result := by
  rw [fileRecords, hlisting, Task.result_bind, Task.result_ofExcept, h]
  rfl

/-! ## The same streams in another order -/

/-- Directories that list the same readable streams, in whatever order. -/
structure SameStreams {ε : Type} (first second : StreamDirectory ε) : Prop where
  listed : ∃ names names', first.names = .ok names ∧ second.names = .ok names' ∧ names'.Perm names
  read : ∀ names, first.names = .ok names → ∀ name ∈ names, ∃ bytes,
    first.read name = .ok bytes ∧ second.read name = .ok bytes

namespace ChecksumStreams

variable {ε : Type} {first second : StreamDirectory ε}

/-- The same streams hold the same records, in whatever order. -/
theorem records_perm (h : SameStreams first second) :
    ∃ before after, (records first).result = .ok before ∧ (records second).result = .ok after
      ∧ after.Perm before := by
  obtain ⟨names, names', hnames, hnames', hperm⟩ := h.listed
  have hread := h.read names hnames
  have hagree : ∀ name ∈ names', recordIn? second name = recordIn? first name := by
    intro name hname
    obtain ⟨bytes, hfirst, hsecond⟩ := hread name (hperm.mem_iff.mp hname)
    rw [recordIn?, recordIn?, hfirst, hsecond]
  refine ⟨_, _, records_eq_ok.mpr ⟨names, hnames, ?_, rfl⟩,
    records_eq_ok.mpr ⟨names', hnames', ?_, rfl⟩, ?_⟩
  · intro name hname _
    obtain ⟨bytes, hfirst, -⟩ := hread name hname
    exact ⟨bytes, hfirst⟩
  · intro name hname _
    obtain ⟨bytes, -, hsecond⟩ := hread name (hperm.mem_iff.mp hname)
    exact ⟨bytes, hsecond⟩
  · rw [List.filterMap_congr hagree]
    exact hperm.filterMap _

end ChecksumStreams

end SourceServer
