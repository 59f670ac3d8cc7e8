import SourceServer.Proofs.Checksum.Streams
import SourceServer.Proofs.Pdb.OneStream
import SourceServer.Proofs.Unicode.Utf8

/-!
# Reading the streams that are listed

A symbol file names its streams in bytes. They are listed as texts, with a replacement character for
what is no UTF-8, and a stream is looked up by the bytes of the text. So a stream is found under the
text that it is listed by when its name is UTF-8, and otherwise only by accident: when another stream
has the bytes of that text for a name. One marked stream that is not found ends the extraction.

- `Pdb.Container.Complete`: a container whose named streams are all there.
- `Pdb.Container.read_cases`: what is read under a text.
- `Pdb.Container.ReadsBack`, `Pdb.Container.readsBack_spec`: when every listed stream can be read,
  and when there are records.
-/

namespace SourceServer

namespace Pdb

/-- The text by which a stream is listed. -/
def NameEntry.text (entry : NameEntry) : String :=
  Utf8.decodeLossy entry.name

/-- Some stream has the bytes of the text for a name by which this one is listed. -/
def NameEntry.IsFound (entries : List NameEntry) (entry : NameEntry) : Prop :=
  ∃ other ∈ entries, other.name = Utf8.encode entry.text

theorem NameEntry.text_of_name_eq {entry : NameEntry} {text : String}
    (h : entry.name = Utf8.encode text) : entry.text = text := by
  rw [NameEntry.text, h, Utf8.decodeLossy_encode]

/-- A name that is UTF-8 is found. -/
theorem NameEntry.isFound_of_name_eq {entries : List NameEntry} {entry : NameEntry} {text : String}
    (hentry : entry ∈ entries) (h : entry.name = Utf8.encode text) : entry.IsFound entries := by
  refine ⟨entry, hentry, ?_⟩
  rw [NameEntry.text_of_name_eq h]
  exact h

namespace Container

/-- A container whose information stream and name table can be read and whose named streams are all
there. -/
structure Complete (c : Container) (information : Information) (entries : List NameEntry) : Prop
    where
  information_eq : c.information = .ok information
  names_eq : information.names = .ok entries
  streams : ∀ entry ∈ entries, entry.stream ≠ noStream ∧ ∃ bytes, c.stream entry.stream = .ok bytes

/-- The streams are listed, and under every listed name the content of a stream is read that is
listed by this name. -/
def ReadsBack (c : Container) (entries : List NameEntry) : Prop :=
  ∃ names, c.streamDirectory.names = .ok names
    ∧ ∀ name ∈ names, ∃ entry ∈ entries, entry.text = name
      ∧ ∃ bytes, c.stream entry.stream = .ok bytes ∧ c.streamDirectory.read name = .ok bytes

variable {c : Container} {information : Information} {entries : List NameEntry}

theorem Complete.names (h : c.Complete information entries) :
    c.streamDirectory.names = .ok (entries.map NameEntry.text) :=
  names_of_table h.information_eq h.names_eq

/-- Under a text, the content of a stream is read that has its bytes for a name, and nothing if there
is none. -/
theorem read_cases (h : c.Complete information entries) (text : String) :
    (∃ entry ∈ entries, entry.name = Utf8.encode text
        ∧ ∃ bytes, c.stream entry.stream = .ok bytes ∧ c.streamDirectory.read text = .ok bytes)
      ∨ ((∀ entry ∈ entries, entry.name ≠ Utf8.encode text)
        ∧ c.streamDirectory.read text = .error (.pdb .namedStream .streamNameNotFound)) := by
  rw [read_of_table h.information_eq h.names_eq]
  cases hfind : entries.find? fun entry => entry.name == Utf8.encode text with
  | none =>
    right
    constructor
    · intro entry hentry
      simpa using List.find?_eq_none.mp hfind entry hentry
    · rw [namedStream, hfind]
      rfl
  | some entry =>
    left
    have hentry := List.mem_of_find?_eq_some hfind
    obtain ⟨hstream, bytes, hbytes⟩ := h.streams entry hentry
    have hname := List.find?_some hfind
    refine ⟨entry, hentry, beq_iff_eq.mp hname, bytes, hbytes, ?_⟩
    rw [namedStream_of_find? hfind hstream, hbytes]
    rfl

/-- A listed stream can be read exactly when it is found. -/
theorem readable_iff (h : c.Complete information entries) (entry : NameEntry) :
    ChecksumStreams.Readable c.streamDirectory entry.text ↔ entry.IsFound entries := by
  constructor
  · rintro ⟨bytes, hread⟩
    rcases read_cases h entry.text with ⟨other, hother, hname, -⟩ | ⟨-, hmissing⟩
    · exact ⟨other, hother, hname⟩
    · rw [hread] at hmissing
      cases hmissing
  · rintro ⟨other, hother, hname⟩
    rcases read_cases h entry.text with ⟨-, -, -, bytes, -, hread⟩ | ⟨hnone, -⟩
    · exact ⟨bytes, hread⟩
    · exact absurd hname (hnone other hother)

theorem readsBack_iff (h : c.Complete information entries) :
    c.ReadsBack entries ↔ ∀ entry ∈ entries, entry.IsFound entries := by
  constructor
  · rintro ⟨names, hnames, hread⟩ entry hentry
    obtain rfl : entries.map NameEntry.text = names := Except.ok.inj (h.names.symm.trans hnames)
    obtain ⟨-, -, -, bytes, -, hbytes⟩ := hread entry.text (List.mem_map_of_mem hentry)
    exact (readable_iff h entry).mp ⟨bytes, hbytes⟩
  · intro hfound
    refine ⟨_, h.names, ?_⟩
    rintro _ hname
    obtain ⟨entry, hentry, rfl⟩ := List.mem_map.mp hname
    rcases read_cases h entry.text with ⟨other, hother, hname, hbytes⟩ | ⟨hnone, -⟩
    · -- the stream that is read is listed by the same text, for a text is read back from its bytes
      exact ⟨other, hother, NameEntry.text_of_name_eq hname, hbytes⟩
    · obtain ⟨other, hother, hname⟩ := hfound entry hentry
      exact absurd hname (hnone other hother)

/-- There are records exactly when every marked stream is found. -/
theorem exists_records_iff (h : c.Complete information entries) :
    (∃ records, (ChecksumStreams.records c.streamDirectory).result = .ok records)
      ↔ ∀ entry ∈ entries, ChecksumStreams.IsMarked entry.text → entry.IsFound entries := by
  constructor
  · rintro ⟨records, hrecords⟩ entry hentry hmarked
    obtain ⟨names, hnames, hread, -⟩ := ChecksumStreams.records_eq_ok.mp hrecords
    obtain rfl : entries.map NameEntry.text = names := Except.ok.inj (h.names.symm.trans hnames)
    exact (readable_iff h entry).mp (hread entry.text (List.mem_map_of_mem hentry) hmarked)
  · intro hfound
    refine ⟨_, ChecksumStreams.records_eq_ok.mpr ⟨_, h.names, ?_, rfl⟩⟩
    intro name hname hmarked
    obtain ⟨entry, hentry, rfl⟩ := List.mem_map.mp hname
    exact (readable_iff h entry).mpr (hfound entry hentry hmarked)

/-- When there are no records, a listed stream was not found. -/
theorem records_eq_error (h : c.Complete information entries) {failure : Failure}
    (hfailure : (ChecksumStreams.records c.streamDirectory).result = .error failure) :
    failure = .pdb .namedStream .streamNameNotFound := by
  rw [ChecksumStreams.records, Task.result_bind, Task.result_ofExcept, h.names] at hfailure
  obtain ⟨-, name, -, -, -, -, hread⟩ := ChecksumStreams.recordsOf_eq_error.mp hfailure
  rcases read_cases h name with ⟨-, -, -, bytes, -, hbytes⟩ | ⟨-, hmissing⟩
  · rw [hread] at hbytes
    cases hbytes
  · rw [hread] at hmissing
    exact Except.error.inj hmissing

/-- **When every listed stream can be read.** It can exactly when every name, read as text, has its
bytes for the name of some stream, in particular when all names are UTF-8. There are records exactly
when this holds of the marked streams, and otherwise there is none to be had at all: the extraction
ends with a stream that is not found. -/
theorem readsBack_spec (h : c.Complete information entries) :
    (c.ReadsBack entries ↔ ∀ entry ∈ entries, entry.IsFound entries)
      ∧ ((∀ entry ∈ entries, ∃ text, entry.name = Utf8.encode text) →
        c.ReadsBack entries
          ∧ ∃ records, (ChecksumStreams.records c.streamDirectory).result = .ok records)
      ∧ ((∃ records, (ChecksumStreams.records c.streamDirectory).result = .ok records)
        ↔ ∀ entry ∈ entries, ChecksumStreams.IsMarked entry.text → entry.IsFound entries)
      ∧ ∀ failure, (ChecksumStreams.records c.streamDirectory).result = .error failure →
        failure = .pdb .namedStream .streamNameNotFound := by
  refine ⟨readsBack_iff h, fun hutf8 => ?_, exists_records_iff h, fun _ => records_eq_error h⟩
  have hfound : ∀ entry ∈ entries, entry.IsFound entries := by
    intro entry hentry
    obtain ⟨text, hname⟩ := hutf8 entry hentry
    exact NameEntry.isFound_of_name_eq hentry hname
  exact ⟨(readsBack_iff h).mpr hfound, (exists_records_iff h).mpr fun entry hentry _ =>
    hfound entry hentry⟩

end Container

/-! ## One named stream -/

/-- The one stream is there. -/
theorem OneStream.complete (s : OneStream) :
    s.container.Complete ⟨s.name.length + 1, s.name ++ [0] ++ table⟩ [⟨s.name, 2⟩] where
  information_eq := s.information_container
  names_eq := s.names_information
  streams := by
    intro entry hentry
    obtain rfl : entry = ⟨s.name, 2⟩ := List.mem_singleton.mp hentry
    exact ⟨show 2 ≠ noStream by decide, s.content, s.stream_content⟩

/-- A name outside ASCII: its stream is listed and read, and its record is found. -/
theorem Container.readsBack_spec_umlaut :
    ∃ (file : ByteArray) (c : Container) (information : Information) (entries : List NameEntry),
      Container.ofBytes file = .ok c ∧ c.Complete information entries
        ∧ c.streamDirectory.names = .ok ["/src/files/Ä.cs"] ∧ c.ReadsBack entries
        ∧ ∃ records, (ChecksumStreams.records c.streamDirectory).result = .ok records := by
  let s : OneStream := ⟨Utf8.encode "/src/files/Ä.cs", List.replicate 88 0, by decide +kernel,
    by decide +kernel, by decide +kernel⟩
  have hnames : s.container.streamDirectory.names = .ok ["/src/files/Ä.cs"] := by
    rw [s.names_streamDirectory, Utf8.decodeLossy_encode]
  have hutf8 : ∀ entry ∈ [(⟨s.name, 2⟩ : NameEntry)], ∃ text, entry.name = Utf8.encode text := by
    intro entry hentry
    exact ⟨"/src/files/Ä.cs", by rw [List.mem_singleton.mp hentry]⟩
  obtain ⟨-, hread, -, -⟩ := Container.readsBack_spec s.complete
  exact ⟨_, _, _, _, s.ofBytes_file, s.complete, hnames, hread hutf8⟩

/-- A name with a byte that is no UTF-8: its stream is listed and not found, and there are no
records. -/
theorem Container.not_readsBack :
    ∃ (file : ByteArray) (c : Container) (information : Information) (entries : List NameEntry),
      Container.ofBytes file = .ok c ∧ c.Complete information entries ∧ ¬ c.ReadsBack entries
        ∧ (ChecksumStreams.records c.streamDirectory).result
          = .error (.pdb .namedStream .streamNameNotFound) := by
  let s : OneStream := ⟨Utf8.encode "/src/files/" ++ 0xff :: Utf8.encode ".cs",
    List.replicate 88 0, by decide +kernel, by decide +kernel, by decide +kernel⟩
  have hdiffer : Utf8.encode (Utf8.decodeLossy s.name) ≠ s.name := by decide +kernel
  have hmarked : ChecksumStreams.IsMarked (Utf8.decodeLossy s.name) := by
    show (ChecksumStreams.markedPath? (Utf8.decodeLossy s.name)).isSome = true
    decide +kernel
  have hlost : ¬ NameEntry.IsFound [⟨s.name, 2⟩] ⟨s.name, 2⟩ := by
    rintro ⟨other, hother, hname⟩
    rw [List.mem_singleton.mp hother] at hname
    exact hdiffer hname.symm
  refine ⟨_, _, _, _, s.ofBytes_file, s.complete, fun hback => ?_, ?_⟩
  · exact hlost ((Container.readsBack_iff s.complete).mp hback _ (List.mem_singleton_self _))
  · cases hrecords : (ChecksumStreams.records s.container.streamDirectory).result with
    | error failure => rw [Container.records_eq_error s.complete hrecords]
    | ok records =>
      have hfound := (Container.exists_records_iff s.complete).mp ⟨records, hrecords⟩
      exact absurd (hfound _ (List.mem_singleton_self _) hmarked) hlost

end Pdb

end SourceServer
