import SourceServer.Proofs.Checksum.Streams
import SourceServer.Proofs.Text.Replacing

/-!
# What is extracted from streams

The records of a stream directory are those of its marked streams, in the order of the directory.
Streams without the marker are not read, and of the others only the digest counts, and only where
the stream has the length of a checksum stream. So directories that differ elsewhere hold the same
records.

- `ChecksumStreams.markedPath?_eq_some_iff`, `ChecksumStreams.isMarked_iff`: the marker in a name.
- `ChecksumStreams.Holds`, `ChecksumStreams.recordIn?_eq_some_iff`: the record of one stream.
- `ChecksumStreams.records_congr`: streams that are not read.
- `ChecksumStreams.AlikeStreams`, `ChecksumStreams.result_records_of_alike`: contents that do not
  count.
- `ChecksumStreams.records_of_marked_streams`: what is extracted, and when there is nothing.
-/

namespace SourceServer

namespace ChecksumStreams

variable {ε : Type} {streams other : StreamDirectory ε} {names : List String} {name : String}

/-! ## The marker in a name -/

/-- The path in the name of a stream: what follows the first marker. -/
def NamesPath (name path : String) : Prop :=
  ∃ before, name.toList = before ++ "/src/files/".toList ++ path.toList
    ∧ ∀ front back, name.toList = front ++ "/src/files/".toList ++ back →
      before.length ≤ front.length

theorem markedPath?_eq_some_iff {path : String} :
    markedPath? name = some path ↔ NamesPath name path := by
  rw [markedPath?, Option.map_eq_some_iff, NamesPath]
  constructor
  · rintro ⟨⟨before, after⟩, hsplit, rfl⟩
    have hafter : (String.ofList after).toList = after := String.toList_ofList
    refine ⟨before, ?_⟩
    rw [hafter]
    exact Search.splitAtFirst?_eq_some_iff.mp hsplit
  · rintro ⟨before, hsplit⟩
    exact ⟨(before, path.toList), Search.splitAtFirst?_eq_some_iff.mpr hsplit, String.ofList_toList⟩

/-- A name is marked when it contains the marker. -/
theorem isMarked_iff : IsMarked name ↔ "/src/files/".toList <:+: name.toList := by
  rw [IsMarked, Option.isSome_iff_ne_none, Ne, markedPath?, Option.map_eq_none_iff,
    Search.splitAtFirst?_eq_none_iff, not_not, marker]

/-! ## The record of a stream -/

theorem digest?_eq_some_iff {bytes : List UInt8} {digest : Digest} :
    digest? bytes = some digest ↔ bytes.length = 88 ∧ digest.bytes = bytes.drop 72 := by
  show _ ↔ bytes.length = streamLength ∧ digest.bytes = bytes.drop digestOffset
  obtain ⟨found, hlength⟩ := digest
  rw [digest?]
  split
  · rename_i h
    rw [and_iff_right h, Option.some.injEq, Digest.mk.injEq, eq_comm]
  · rename_i h
    exact iff_of_false nofun fun hdigest => h hdigest.1

/-- A stream holds a record: its name gives the path, and its content has the length of a checksum
stream and ends with the digest. -/
structure Holds (streams : StreamDirectory ε) (name : String) (record : ChecksumRecord) : Prop where
  path : NamesPath name record.path
  digest : ∃ bytes digest, streams.read name = .ok bytes ∧ bytes.length = 88
    ∧ record.digest = some digest ∧ digest.bytes = bytes.drop 72

theorem recordIn?_eq_some_iff {record : ChecksumRecord} :
    recordIn? streams name = some record ↔ Holds streams name record := by
  have hread : ∀ bytes,
      (streams.read name).toOption = some bytes ↔ streams.read name = .ok bytes := by
    cases streams.read name <;> simp [Except.toOption]
  rw [recordIn?, Option.bind_eq_some_iff]
  simp only [markedPath?_eq_some_iff, recordWith?, Option.bind_eq_some_iff, Option.map_eq_some_iff,
    digest?_eq_some_iff, hread]
  constructor
  · rintro ⟨path, hpath, bytes, hread, digest, ⟨hlength, hdigest⟩, rfl⟩
    exact ⟨hpath, bytes, digest, hread, hlength, rfl, hdigest⟩
  · obtain ⟨path, found⟩ := record
    rintro ⟨hpath, bytes, digest, hread, hlength, rfl, hdigest⟩
    exact ⟨path, hpath, bytes, hread, digest, ⟨hlength, hdigest⟩, rfl⟩

/-! ## What does not count -/

theorem record?_congr (h : IsMarked name → other.read name = streams.read name) :
    record? other name = record? streams name := by
  rw [record?, record?]
  cases hpath : markedPath? name with
  | none => rfl
  | some path => rw [h (isMarked_of_path hpath)]

theorem recordsOf_congr (h : ∀ name ∈ names, record? other name = record? streams name) :
    recordsOf other names = recordsOf streams names := by
  induction names with
  | nil => rfl
  | cons name rest ih =>
    rw [List.forall_mem_cons] at h
    rw [recordsOf, recordsOf, h.1, ih h.2]

/-- Streams that are not listed or not marked are not read: whatever they hold, and whether or not
they can be read, the records and all that is logged are the same. -/
theorem records_congr (hnames : other.names = streams.names)
    (hread : ∀ names, streams.names = .ok names → ∀ name ∈ names, IsMarked name →
      other.read name = streams.read name) :
    records other = records streams := by
  rw [records, records, hnames]
  cases hlisted : streams.names with
  | error error => rfl
  | ok names =>
    exact recordsOf_congr fun name hname => record?_congr (hread names hlisted name hname)

/-- Two readings of a stream that give the same record: they have the same outcome, or both contents
have the length of a checksum stream and the same digest, or neither has this length. -/
inductive AlikeReadings : Except ε (List UInt8) → Except ε (List UInt8) → Prop
  | same (reading : Except ε (List UInt8)) : AlikeReadings reading reading
  | checksum {first second : List UInt8} (hfirst : first.length = 88) (hsecond : second.length = 88)
      (hdigest : first.drop 72 = second.drop 72) : AlikeReadings (.ok first) (.ok second)
  | foreign {first second : List UInt8} (hfirst : first.length ≠ 88) (hsecond : second.length ≠ 88) :
      AlikeReadings (.ok first) (.ok second)

/-- Directories that list the same names, with marked streams that are read alike. -/
structure AlikeStreams (first second : StreamDirectory ε) : Prop where
  names : second.names = first.names
  read : ∀ names, first.names = .ok names → ∀ name ∈ names, "/src/files/".toList <:+: name.toList →
    AlikeReadings (first.read name) (second.read name)

/-- Contents that give the same record have the same digest, or both have none. -/
theorem AlikeReadings.map_recordWith? {first second : Except ε (List UInt8)}
    (h : AlikeReadings first second) (path : String) :
    second.map (recordWith? path) = first.map (recordWith? path) := by
  cases h with
  | same => rfl
  | @checksum first second hfirst hsecond hdigest =>
    have hsame : digest? second = digest? first := by
      ext digest
      rw [digest?_eq_some_iff, digest?_eq_some_iff, hfirst, hsecond, hdigest]
    simp only [Except.map, recordWith?, hsame]
  | @foreign first second hfirst hsecond =>
    have hsame : digest? second = digest? first := by
      ext digest
      rw [digest?_eq_some_iff, digest?_eq_some_iff]
      exact iff_of_false (fun hlength => hsecond hlength.1) fun hlength => hfirst hlength.1
    simp only [Except.map, recordWith?, hsame]

theorem result_recordsOf_congr
    (h : ∀ name ∈ names, (record? other name).result = (record? streams name).result) :
    (recordsOf other names).result = (recordsOf streams names).result := by
  induction names with
  | nil => rfl
  | cons name rest ih =>
    rw [List.forall_mem_cons] at h
    simp only [recordsOf, Task.result_bind, h.1, ih h.2]

/-- Directories that are read alike have the same records, or fail alike. -/
theorem result_records_of_alike (h : AlikeStreams streams other) :
    (records other).result = (records streams).result := by
  rw [records, records, Task.result_bind, Task.result_bind, h.names]
  cases hlisted : streams.names with
  | error error => rfl
  | ok names =>
    refine result_recordsOf_congr fun name hname => ?_
    rw [result_record?, result_record?]
    cases hpath : markedPath? name with
    | none => rfl
    | some path =>
      have hmarked := isMarked_iff.mp (isMarked_of_path hpath)
      exact (h.read names hlisted name hname hmarked).map_recordWith? path

/-! ## The records of a directory -/

/-- There are no records when the names cannot be listed, or a marked stream cannot be read. -/
theorem exists_error_iff :
    (∃ error, (records streams).result = .error error)
      ↔ (∃ error, streams.names = .error error)
        ∨ ∃ names, streams.names = .ok names
          ∧ ∃ name ∈ names, IsMarked name ∧ ∃ error, streams.read name = .error error := by
  simp only [records, Task.result_bind, Task.result_ofExcept, bind_eq_error]
  constructor
  · rintro ⟨error, hnames | ⟨names, hnames, hrecords⟩⟩
    · exact .inl ⟨error, hnames⟩
    · obtain ⟨front, name, back, rfl, -, hmarked, hread⟩ := recordsOf_eq_error.mp hrecords
      exact .inr ⟨_, hnames, name, by simp, hmarked, error, hread⟩
  · rintro (⟨error, hnames⟩ | ⟨names, hnames, name, hname, hmarked, error, hread⟩)
    · exact ⟨error, .inl hnames⟩
    · cases hrecords : (recordsOf streams names).result with
      | error failure => exact ⟨failure, .inr ⟨names, hnames, hrecords⟩⟩
      | ok found =>
        obtain ⟨bytes, hbytes⟩ := (recordsOf_eq_ok.mp hrecords).1 name hname hmarked
        rw [hread] at hbytes
        cases hbytes

/-- **What is extracted from streams.** Only listed streams with a marker are read: the records and
all that is logged do not depend on the others. There are no records exactly when the names cannot
be listed or a marked stream cannot be read. Otherwise the records are those that the listed streams
hold, in the order of their names. So they are the same for directories that are read alike. -/
theorem records_of_marked_streams (streams : StreamDirectory ε) :
    (∀ other : StreamDirectory ε, other.names = streams.names →
        (∀ names, streams.names = .ok names → ∀ name ∈ names,
          "/src/files/".toList <:+: name.toList → other.read name = streams.read name) →
            records other = records streams)
      ∧ ((∃ error, (records streams).result = .error error)
        ↔ (∃ error, streams.names = .error error)
          ∨ ∃ names, streams.names = .ok names
            ∧ ∃ name ∈ names, "/src/files/".toList <:+: name.toList
              ∧ ∃ error, streams.read name = .error error)
      ∧ (∀ found, (records streams).result = .ok found →
        ∃ names, streams.names = .ok names ∧ found = names.filterMap (recordIn? streams))
      ∧ (∀ name record, recordIn? streams name = some record ↔ Holds streams name record)
      ∧ ∀ other, AlikeStreams streams other →
        (records other).result = (records streams).result := by
  refine ⟨fun other hnames hread => ?_, ?_, fun found hfound => ?_,
    fun name record => recordIn?_eq_some_iff, fun other => result_records_of_alike⟩
  · simp only [← isMarked_iff] at hread
    exact records_congr hnames hread
  · simp only [exists_error_iff, isMarked_iff]
  · obtain ⟨names, hnames, -, hrecords⟩ := records_eq_ok.mp hfound
    exact ⟨names, hnames, hrecords⟩

/-- Two directories that differ in every stream: in one without a marker, which cannot be read in
the first, in the beginning of a checksum stream, and in a marked stream of other lengths. -/
theorem records_of_marked_streams_differing :
    ∃ first second : StreamDirectory Unit, AlikeStreams first second
      ∧ first.names = .ok ["/names", "x/src/files/src/files/a.cs", "/src/files/old.cs"]
      ∧ (∀ name ∈ ["/names", "x/src/files/src/files/a.cs", "/src/files/old.cs"],
        second.read name ≠ first.read name)
      ∧ (records first).result = .ok [⟨"src/files/a.cs", some ⟨List.replicate 16 1, rfl⟩⟩]
      ∧ (records second).result = (records first).result := by
  let first : StreamDirectory Unit :=
    { names := .ok ["/names", "x/src/files/src/files/a.cs", "/src/files/old.cs"]
      read := fun name =>
        if name = "/names" then .error ()
        else if name = "/src/files/old.cs" then .ok []
        else .ok (List.replicate 72 0 ++ List.replicate 16 1) }
  let second : StreamDirectory Unit :=
    { names := first.names
      read := fun name =>
        if name = "/names" then .ok []
        else if name = "/src/files/old.cs" then .ok [0]
        else .ok (List.replicate 72 255 ++ List.replicate 16 1) }
  have halike : AlikeStreams first second := by
    refine ⟨rfl, fun names hnames => ?_⟩
    obtain rfl := Except.ok.inj hnames
    simp only [List.forall_mem_cons]
    refine ⟨fun hmarked => absurd hmarked (by decide), fun _ => ?_, fun _ => ?_, by simp⟩
    · exact .checksum rfl rfl rfl
    · exact .foreign (by decide) (by decide)
  exact ⟨first, second, halike, rfl, by decide, by decide +kernel,
    (records_of_marked_streams first).2.2.2.2 second halike⟩

end ChecksumStreams

end SourceServer
