import SourceServer.Checksum.Map

/-!
# The files of a checksum map

A map keeps the first spelling of each path that was put into it, so the files of a map of records
are among the records.

- `ChecksumMap.insert_cases`, `ChecksumMap.insert_eq_error_iff`: what one more record changes, and
  when it is refused.
- `ChecksumMap.addRecords_induction`: what a row of records keeps.
- `ChecksumMap.Holds`: the paths in a map satisfy a condition.
- `ChecksumMap.forall_mem_toList`: the files of a map of records.
- `ChecksumMap.Keyed`: the entries of a map stand under the lower case of their paths.
-/

namespace SourceServer

namespace ChecksumMap

/-- Every file of a map satisfies a condition. -/
def Holds (P : String → Prop) (m : ChecksumMap) : Prop :=
  ∀ (key : String) (entry : ChecksumEntry), m.entries[key]? = some entry → P entry.path

theorem holds_empty (P : String → Prop) : Holds P empty := by
  intro key entry h
  simp [empty] at h

theorem getElem?_insert_eq_ite (entries : Std.TreeMap String ChecksumEntry) (key other : String)
    (entry : ChecksumEntry) :
    (entries.insert key entry)[other]? = if key = other then some entry else entries[other]? := by
  rw [Std.TreeMap.getElem?_insert]
  by_cases h : key = other
  · rw [if_pos h, if_pos (Std.compare_eq_iff_eq.mpr h)]
  · rw [if_neg h, if_neg (mt Std.compare_eq_iff_eq.mp h)]

/-! ## One more record -/

/-- The entry of a file with one more record: what is known is kept, and a gap is filled. -/
def extended (path : String) (checksum : Option String) : Option ChecksumEntry → ChecksumEntry
  | none => ⟨path, checksum⟩
  | some entry => ⟨entry.path, entry.checksum.or checksum⟩

/-- A record with another checksum than the one that a map has of its file. -/
structure Clashes (m : ChecksumMap) (path : String) (checksum : Option String)
    (conflict : ChecksumConflict) : Prop where
  held : m.entries[Unicode.lower path]? = some ⟨conflict.path, some conflict.first⟩
  brought : checksum = some conflict.second
  differ : Ascii.equalIgnoringCase conflict.first conflict.second = false

/-- Merging keeps what is known and fills a gap, unless two checksums differ. -/
theorem merge_cases (entry : ChecksumEntry) (checksum : Option String) :
    merge entry checksum = .ok ⟨entry.path, entry.checksum.or checksum⟩
      ∨ ∃ first second, entry.checksum = some first ∧ checksum = some second
        ∧ Ascii.equalIgnoringCase first second = false
        ∧ merge entry checksum = .error ⟨entry.path, first, second⟩ := by
  obtain ⟨path, held⟩ := entry
  cases checksum with
  | none => exact .inl (by cases held <;> rfl)
  | some second =>
    cases held with
    | none => exact .inl rfl
    | some first =>
      cases hequal : Ascii.equalIgnoringCase first second with
      | true => exact .inl (by simp [merge, hequal])
      | false => exact .inr ⟨first, second, rfl, rfl, hequal, by simp [merge, hequal]⟩

/-- A record is merged into the entry of its file, unless it clashes with it. -/
theorem insert_cases (m : ChecksumMap) (path : String) (checksum : Option String) :
    m.insert path checksum
        = .ok ⟨m.entries.insert (Unicode.lower path)
          (extended path checksum m.entries[Unicode.lower path]?)⟩
      ∨ ∃ conflict, m.Clashes path checksum conflict
        ∧ m.insert path checksum = .error conflict := by
  simp only [insert]
  cases hentry : m.entries[Unicode.lower path]? with
  | none => exact .inl rfl
  | some entry =>
    dsimp only
    rcases merge_cases entry checksum with
      hmerge | ⟨first, second, hfirst, hsecond, hdiffer, hmerge⟩
    · exact .inl (by rw [hmerge]; rfl)
    · refine .inr ⟨⟨entry.path, first, second⟩, ⟨?_, hsecond, hdiffer⟩, by rw [hmerge]⟩
      rw [hentry, ← hfirst]

theorem insert_eq_error_iff {m : ChecksumMap} {path : String} {checksum : Option String}
    {conflict : ChecksumConflict} :
    m.insert path checksum = .error conflict ↔ m.Clashes path checksum conflict := by
  constructor
  · intro h
    rcases insert_cases m path checksum with hok | ⟨other, hclashes, herror⟩
    · rw [h] at hok
      cases hok
    · rwa [Except.error.inj (h.symm.trans herror)]
  · intro h
    simp [insert, h.held, h.brought, merge, h.differ]

/-- One more record puts one entry under its key: a new one with its own path, or one with the path
that was there. -/
theorem exists_entry_of_insert {m next : ChecksumMap} {path : String} {checksum : Option String}
    (h : m.insert path checksum = .ok next) :
    ∃ entry, next.entries = m.entries.insert (Unicode.lower path) entry
      ∧ (entry.path = path
        ∨ ∃ old, m.entries[Unicode.lower path]? = some old ∧ entry.path = old.path) := by
  rcases insert_cases m path checksum with hok | ⟨conflict, -, herror⟩
  · rw [Except.ok.inj (h.symm.trans hok)]
    refine ⟨_, rfl, ?_⟩
    cases hold : m.entries[Unicode.lower path]? with
    | none => exact .inl rfl
    | some old => exact .inr ⟨old, rfl, rfl⟩
  · rw [h] at herror
    cases herror

/-! ## Rows of records -/

/-- What every record keeps, a row of records keeps. -/
theorem addRecords_induction {motive : ChecksumMap → Prop} {m next : ChecksumMap}
    {records : List ChecksumRecord}
    (hstep : ∀ record ∈ records, ∀ m next, motive m →
      m.insert record.path (record.digest.map Digest.hex) = .ok next → motive next)
    (hm : motive m) (h : m.addRecords records = .ok next) : motive next := by
  induction records generalizing m with
  | nil =>
    rw [addRecords, Except.ok.injEq] at h
    exact h ▸ hm
  | cons record rest ih =>
    rw [List.forall_mem_cons] at hstep
    rw [addRecords] at h
    cases hinsert : m.insert record.path (record.digest.map Digest.hex) with
    | error conflict => rw [hinsert] at h; cases h
    | ok inserted =>
      rw [hinsert] at h
      exact ih hstep.2 (hstep.1 m inserted hm hinsert) h

/-- One more record brings in its own path at most. -/
theorem holds_insert {P : String → Prop} {m next : ChecksumMap} {path : String}
    {checksum : Option String} (hm : Holds P m) (hpath : P path)
    (h : m.insert path checksum = .ok next) : Holds P next := by
  obtain ⟨entry, hnext, hentry⟩ := exists_entry_of_insert h
  intro key other hother
  rw [hnext, getElem?_insert_eq_ite] at hother
  split at hother
  · rw [← Option.some.inj hother]
    rcases hentry with hnew | ⟨old, hold, hkept⟩
    · rwa [hnew]
    · -- what was there keeps its spelling
      rw [hkept]
      exact hm _ old hold
  · exact hm key other hother

theorem holds_addRecords {P : String → Prop} {m next : ChecksumMap} {records : List ChecksumRecord}
    (hm : Holds P m) (hrecords : ∀ record ∈ records, P record.path)
    (h : m.addRecords records = .ok next) : Holds P next :=
  addRecords_induction (fun record hrecord _ _ hm hinsert =>
    holds_insert hm (hrecords record hrecord) hinsert) hm h

/-- What all records satisfy, the files of their map satisfy. -/
theorem forall_mem_toList {P : String → Prop} {records : List ChecksumRecord} {m : ChecksumMap}
    (hrecords : ∀ record ∈ records, P record.path) (h : ofRecords records = .ok m) :
    ∀ file ∈ m.toList, P file.1 := by
  intro file hfile
  obtain ⟨⟨key, entry⟩, hentry, rfl⟩ := List.mem_map.mp hfile
  exact holds_addRecords (holds_empty P) hrecords h key entry
    (Std.TreeMap.mem_toList_iff_getElem?_eq_some.mp hentry)

/-! ## Keys -/

/-- The entries stand under the lower case of their paths, as every map has them that records were
added to. -/
def Keyed (m : ChecksumMap) : Prop :=
  ∀ (key : String) (entry : ChecksumEntry), m.entries[key]? = some entry →
    Unicode.lower entry.path = key

/-- What is known of a file is known from the lower case of its path. -/
theorem Keyed.eq_of_lower_eq {m : ChecksumMap} (hm : Keyed m) {a b : String × Option String}
    (ha : a ∈ m.toList) (hb : b ∈ m.toList) (hlower : Unicode.lower a.1 = Unicode.lower b.1) :
    a = b := by
  obtain ⟨⟨key, entry⟩, hentry, rfl⟩ := List.mem_map.mp ha
  obtain ⟨⟨key', entry'⟩, hentry', rfl⟩ := List.mem_map.mp hb
  rw [Std.TreeMap.mem_toList_iff_getElem?_eq_some] at hentry hentry'
  have hkeys : key = key' := by
    rw [← hm key entry hentry, ← hm key' entry' hentry']
    exact hlower
  rw [hkeys, hentry', Option.some.injEq] at hentry
  rw [hentry]

end ChecksumMap

end SourceServer
