import Mathlib.Data.List.Pairwise
import Mathlib.Tactic.ByContra
import Mathlib.Tactic.Push
import SourceServer.Proofs.Checksum.Map
import SourceServer.Proofs.Text.Hex

/-!
# Gathering records

The map of some records is built record by record, and each record is compared with what the map
holds, not with the records before it. Here the map is described by the records alone: by the first
spelling of each path and the first digest that is known of it.

- `ChecksumRecord.Contradicts`: two records of one file with different digests.
- `ChecksumMap.Gathers`: a map that holds what some records say.
- `ChecksumMap.addRecords_cases`: gathering goes on up to the first contradiction.
- `ChecksumMap.ofRecords_spec`: **when the records of a symbol file are refused, and what their map
  holds otherwise**; the order of the records has no influence but on spellings.
-/

namespace SourceServer

namespace Digest

theorem equalIgnoringCase_hex_iff {d e : Digest} :
    Ascii.equalIgnoringCase d.hex e.hex = true ↔ d = e := by
  rw [hex, hex, Hex.equalIgnoringCase_encode_iff, Digest.mk.injEq]

end Digest

namespace ChecksumRecord

/-- The key of a record: its path up to case. -/
def key (r : ChecksumRecord) : String :=
  Unicode.lower r.path

/-- Two records of one file with different digests. -/
def Contradicts (a b : ChecksumRecord) : Prop :=
  a.key = b.key ∧ ∃ d e, a.digest = some d ∧ b.digest = some e ∧ d ≠ e

theorem Contradicts.symm {a b : ChecksumRecord} (h : a.Contradicts b) : b.Contradicts a := by
  obtain ⟨hkey, d, e, hd, he, hne⟩ := h
  exact ⟨hkey.symm, e, d, he, hd, hne.symm⟩

theorem not_contradicts_self (a : ChecksumRecord) : ¬ a.Contradicts a := by
  rintro ⟨-, d, e, hd, he, hne⟩
  rw [hd] at he
  exact hne (Option.some.inj he)

end ChecksumRecord

namespace ChecksumMap

/-! ## What records say of a file -/

section Records

/-- The first spelling of a path among records. -/
def firstPath? (records : List ChecksumRecord) (key : String) : Option String :=
  (records.find? fun r => r.key == key).map ChecksumRecord.path

/-- The first digest of a path among records, those without digest passed over. -/
def firstDigest? (records : List ChecksumRecord) (key : String) : Option Digest :=
  records.findSome? fun r => if r.key = key then r.digest else none

/-- No two records contradict each other. -/
def Consistent (records : List ChecksumRecord) : Prop :=
  records.Pairwise fun a b => ¬ a.Contradicts b

variable {records before : List ChecksumRecord} {record : ChecksumRecord} {key : String}

theorem firstPath?_concat (before : List ChecksumRecord) (record : ChecksumRecord) (key : String) :
    firstPath? (before ++ [record]) key
      = (firstPath? before key).or (if record.key = key then some record.path else none) := by
  rw [firstPath?, firstPath?, List.find?_append]
  by_cases h : record.key = key
  · cases before.find? fun r => r.key == key <;> simp [h]
  · cases before.find? fun r => r.key == key <;> simp [h]

theorem firstDigest?_concat (before : List ChecksumRecord) (record : ChecksumRecord)
    (key : String) :
    firstDigest? (before ++ [record]) key
      = (firstDigest? before key).or (if record.key = key then record.digest else none) := by
  rw [firstDigest?, firstDigest?, List.findSome?_append]
  congr 1
  cases h : (if record.key = key then record.digest else none) <;> simp [h]

theorem firstPath?_eq_none : firstPath? records key = none ↔ ∀ r ∈ records, r.key ≠ key := by
  simp [firstPath?]

theorem exists_firstPath? (h : record ∈ records) : ∃ path, firstPath? records record.key = some path
    := by
  cases hpath : firstPath? records record.key with
  | none => exact absurd rfl (firstPath?_eq_none.mp hpath record h)
  | some path => exact ⟨path, rfl⟩

theorem lower_firstPath? {path : String} (h : firstPath? records key = some path) :
    Unicode.lower path = key := by
  rw [firstPath?, Option.map_eq_some_iff] at h
  obtain ⟨r, hfind, rfl⟩ := h
  have hkey := List.find?_some hfind
  exact beq_iff_eq.mp hkey

theorem mem_of_firstDigest? {d : Digest} (h : firstDigest? records key = some d) :
    ∃ r ∈ records, r.key = key ∧ r.digest = some d := by
  obtain ⟨r, hr, hdigest⟩ := List.exists_of_findSome?_eq_some h
  split at hdigest
  · rename_i hkey
    exact ⟨r, hr, hkey, hdigest⟩
  · cases hdigest

theorem firstDigest?_eq_none :
    firstDigest? records key = none ↔ ∀ r ∈ records, r.key = key → r.digest = none := by
  simp [firstDigest?]

theorem Consistent.forall_mem (h : Consistent records) {a b : ChecksumRecord} (ha : a ∈ records)
    (hb : b ∈ records) : ¬ a.Contradicts b := by
  have hsymm : Std.Symm fun a b : ChecksumRecord => ¬ a.Contradicts b :=
    ⟨fun a b hab hba => hab hba.symm⟩
  exact List.Pairwise.forall_of_forall (fun a _ => a.not_contradicts_self) h ha hb

theorem consistent_iff :
    Consistent records ↔ ¬ ∃ a ∈ records, ∃ b ∈ records, a.Contradicts b := by
  constructor
  · rintro h ⟨a, ha, b, hb, hab⟩
    exact h.forall_mem ha hb hab
  · intro h
    refine List.Pairwise.imp_of_mem ?_ (List.pairwise_of_forall (R := fun _ _ => True) (by simp))
    intro a b ha hb _ hab
    exact h ⟨a, ha, b, hb, hab⟩

theorem consistent_concat_iff :
    Consistent (before ++ [record])
      ↔ Consistent before ∧ ∀ earlier ∈ before, ¬ earlier.Contradicts record := by
  simp [Consistent, List.pairwise_append]

/-- Among records that agree, the digest of each is the first one known of its file. -/
theorem Consistent.firstDigest?_eq (h : Consistent records) (hr : record ∈ records) {d : Digest}
    (hd : record.digest = some d) : firstDigest? records record.key = some d := by
  cases hfirst : firstDigest? records record.key with
  | none =>
    rw [firstDigest?_eq_none.mp hfirst record hr rfl] at hd
    cases hd
  | some e =>
    obtain ⟨r, hmem, hkey, he⟩ := mem_of_firstDigest? hfirst
    by_contra hne
    have hdiffer : e ≠ d := fun heq => hne (congrArg some heq)
    exact h.forall_mem hmem hr ⟨hkey, e, d, he, hd, hdiffer⟩

/-- To agree with all records before is to agree with the first digest known of the file. -/
theorem Consistent.agrees_iff (h : Consistent before) :
    (∀ earlier ∈ before, ¬ earlier.Contradicts record)
      ↔ ∀ d e, firstDigest? before record.key = some d → record.digest = some e → d = e := by
  constructor
  · intro hagrees d e hd he
    obtain ⟨r, hr, hkey, hdigest⟩ := mem_of_firstDigest? hd
    by_contra hne
    exact hagrees r hr ⟨hkey, d, e, hdigest, he, hne⟩
  · rintro hfirst r hr ⟨hkey, d, e, hd, he, hne⟩
    have hfound := h.firstDigest?_eq hr hd
    rw [hkey] at hfound
    exact hne (hfirst d e hfound he)

end Records

/-! ## One more record -/

/-- A map that holds what some records say: for each path its first spelling and the first digest
that is known of it. -/
def Gathers (records : List ChecksumRecord) (m : ChecksumMap) : Prop :=
  ∀ key, m.entries[key]?
    = (firstPath? records key).map fun path =>
      ⟨path, (firstDigest? records key).map Digest.hex⟩

/-- What is reported of a record that contradicts one before it. -/
structure Refutes (before : List ChecksumRecord) (record : ChecksumRecord)
    (conflict : ChecksumConflict) : Prop where
  contradicts : ∃ earlier ∈ before, earlier.Contradicts record
  /-- The first spelling of its path. -/
  path_eq : firstPath? before record.key = some conflict.path
  /-- The first digest that is known of its file. -/
  first_eq : (firstDigest? before record.key).map Digest.hex = some conflict.first
  /-- Its own digest. -/
  second_eq : record.digest.map Digest.hex = some conflict.second

section Steps

variable {before rest records : List ChecksumRecord} {record : ChecksumRecord} {m : ChecksumMap}

theorem gathers_empty : Gathers [] empty := by
  intro key
  simp [empty, firstPath?]

/-- The merged entry of a digest that agrees with the first one. -/
theorem merge_of_agrees {path : String} {first? second? : Option Digest}
    (h : ∀ d e, first? = some d → second? = some e → d = e) :
    merge ⟨path, first?.map Digest.hex⟩ (second?.map Digest.hex)
      = .ok ⟨path, (first?.or second?).map Digest.hex⟩ := by
  cases second? with
  | none => cases first? <;> rfl
  | some e =>
    cases first? with
    | none => rfl
    | some d =>
      obtain rfl := h d e rfl rfl
      have hequal : Ascii.equalIgnoringCase d.hex d.hex = true :=
        Digest.equalIgnoringCase_hex_iff.mpr rfl
      simp [merge, hequal]

theorem merge_of_ne {path : String} {d e : Digest} (h : d ≠ e) :
    merge ⟨path, some d.hex⟩ (some e.hex) = .error ⟨path, d.hex, e.hex⟩ := by
  have hdiffer : Ascii.equalIgnoringCase d.hex e.hex = false :=
    Bool.eq_false_iff.mpr fun hequal => h (Digest.equalIgnoringCase_hex_iff.mp hequal)
  simp [merge, hdiffer]

/-- A record that agrees with the ones before is gathered. -/
theorem insert_of_agrees (hm : Gathers before m) (hbefore : Consistent before)
    (hagrees : ∀ earlier ∈ before, ¬ earlier.Contradicts record) :
    ∃ next, m.insert record.path (record.digest.map Digest.hex) = .ok next
      ∧ Gathers (before ++ [record]) next := by
  have hentry : m.entries[Unicode.lower record.path]? = _ := hm record.key
  simp only [insert, hentry]
  cases hpath : firstPath? before record.key with
  | none =>
    -- the first record of its file
    have hdigest : firstDigest? before record.key = none :=
      firstDigest?_eq_none.mpr fun r hr hkey => absurd hkey (firstPath?_eq_none.mp hpath r hr)
    refine ⟨_, rfl, fun key => ?_⟩
    rw [getElem?_insert_eq_ite, firstPath?_concat, firstDigest?_concat]
    show (if record.key = key then _ else _) = _
    by_cases hkey : record.key = key
    · subst hkey
      simp [hpath, hdigest]
    · simp [hkey, hm key]
  | some path =>
    have hmerge : merge ⟨path, (firstDigest? before record.key).map Digest.hex⟩
        (record.digest.map Digest.hex) = _ := merge_of_agrees (hbefore.agrees_iff.mp hagrees)
    simp only [Option.map_some, hmerge]
    refine ⟨_, rfl, fun key => ?_⟩
    rw [getElem?_insert_eq_ite, firstPath?_concat, firstDigest?_concat]
    show (if record.key = key then _ else _) = _
    by_cases hkey : record.key = key
    · subst hkey
      simp [hpath]
    · simp [hkey, hm key]

/-- A record that contradicts one before it is refused. -/
theorem insert_of_contradicts (hm : Gathers before m) (hbefore : Consistent before)
    (hcontradicts : ∃ earlier ∈ before, earlier.Contradicts record) :
    ∃ conflict, m.insert record.path (record.digest.map Digest.hex) = .error conflict
      ∧ Refutes before record conflict := by
  obtain ⟨earlier, hearlier, hkey, d, e, hd, he, hne⟩ := hcontradicts
  have hfirst : firstDigest? before record.key = some d :=
    hkey ▸ hbefore.firstDigest?_eq hearlier hd
  obtain ⟨path, hpath⟩ := exists_firstPath? hearlier
  rw [hkey] at hpath
  have hentry : m.entries[Unicode.lower record.path]? = _ := hm record.key
  refine ⟨⟨path, d.hex, e.hex⟩, ?_, ?_⟩
  · simp only [insert, hentry, hpath, hfirst, he, Option.map_some, merge_of_ne hne]
  · exact {
      contradicts := ⟨earlier, hearlier, hkey, d, e, hd, he, hne⟩
      path_eq := hpath
      first_eq := by rw [hfirst]; rfl
      second_eq := by rw [he]; rfl }

theorem Refutes.unique {conflict conflict' : ChecksumConflict} (h : Refutes before record conflict)
    (h' : Refutes before record conflict') : conflict = conflict' := by
  obtain ⟨path, first, second⟩ := conflict
  obtain ⟨path', first', second'⟩ := conflict'
  have hpath : path = path' := Option.some.inj (h.path_eq.symm.trans h'.path_eq)
  have hfirst : first = first' := Option.some.inj (h.first_eq.symm.trans h'.first_eq)
  have hsecond : second = second' := Option.some.inj (h.second_eq.symm.trans h'.second_eq)
  rw [hpath, hfirst, hsecond]

/-! ## All records -/

/-- Gathering goes through when no two records contradict each other, and stops at the first record
that contradicts one before it otherwise. -/
theorem addRecords_cases (hm : Gathers before m) (hbefore : Consistent before)
    (rest : List ChecksumRecord) :
    (∃ next, m.addRecords rest = .ok next ∧ Gathers (before ++ rest) next
        ∧ Consistent (before ++ rest))
      ∨ ∃ conflict front record back, m.addRecords rest = .error conflict
        ∧ before ++ rest = front ++ record :: back ∧ Consistent front
        ∧ Refutes front record conflict := by
  induction rest generalizing before m with
  | nil =>
    left
    rw [List.append_nil]
    exact ⟨m, rfl, hm, hbefore⟩
  | cons record rest ih =>
    by_cases hagrees : ∀ earlier ∈ before, ¬ earlier.Contradicts record
    · obtain ⟨next, hnext, hgathers⟩ := insert_of_agrees hm hbefore hagrees
      have hconsistent : Consistent (before ++ [record]) :=
        consistent_concat_iff.mpr ⟨hbefore, hagrees⟩
      have hstep : m.addRecords (record :: rest) = next.addRecords rest := by
        rw [addRecords, hnext]
      rw [hstep, List.append_cons]
      exact ih hgathers hconsistent
    · right
      push Not at hagrees
      obtain ⟨conflict, hconflict, hrefutes⟩ := insert_of_contradicts hm hbefore hagrees
      refine ⟨conflict, before, record, rest, ?_, rfl, hbefore, hrefutes⟩
      rw [addRecords, hconflict]

theorem ofRecords_cases (records : List ChecksumRecord) :
    (∃ m, ofRecords records = .ok m ∧ Gathers records m ∧ Consistent records)
      ∨ ∃ conflict front record back, ofRecords records = .error conflict
        ∧ records = front ++ record :: back ∧ Consistent front ∧ Refutes front record conflict :=
  addRecords_cases gathers_empty List.Pairwise.nil records

/-- The first record that contradicts one before it is the only one. -/
theorem refuted_unique {front back front' back' : List ChecksumRecord}
    {record record' : ChecksumRecord} {conflict conflict' : ChecksumConflict}
    (hrecords : front ++ record :: back = front' ++ record' :: back')
    (hfront : Consistent front) (hrefutes : Refutes front record conflict)
    (hfront' : Consistent front') (hrefutes' : Refutes front' record' conflict') :
    conflict = conflict' := by
  -- the longer of two consistent beginnings would hold a contradiction
  have hlonger : ∀ {front back front' back' : List ChecksumRecord}
      {record record' : ChecksumRecord} {conflict : ChecksumConflict},
      front ++ record :: back = front' ++ record' :: back' → Consistent front' →
      Refutes front record conflict → front'.length ≤ front.length := by
    intro front back front' back' record record' conflict hrecords hfront' hrefutes
    by_contra hlength
    obtain ⟨earlier, hearlier, hcontradicts⟩ := hrefutes.contradicts
    have hall : front ++ [record] <+: front ++ record :: back := ⟨back, by simp⟩
    have hall' : front' <+: front ++ record :: back := ⟨record' :: back', hrecords.symm⟩
    have hbeginning : front ++ [record] <+: front' := by
      apply List.prefix_of_prefix_length_le hall hall'
      rw [List.length_append, List.length_singleton]
      omega
    have hmem : earlier ∈ front' := hbeginning.subset (List.mem_append_left _ hearlier)
    have hrecord : record ∈ front' := hbeginning.subset (by simp)
    exact hfront'.forall_mem hmem hrecord hcontradicts
  have hlength : front.length = front'.length :=
    Nat.le_antisymm (hlonger hrecords.symm hfront hrefutes') (hlonger hrecords hfront' hrefutes)
  obtain ⟨rfl, hrest⟩ := List.append_inj hrecords hlength
  obtain ⟨rfl, -⟩ := List.cons.inj hrest
  exact hrefutes.unique hrefutes'

theorem ofRecords_eq_error_iff {conflict : ChecksumConflict} :
    ofRecords records = .error conflict
      ↔ ∃ front record back, records = front ++ record :: back ∧ Consistent front
        ∧ Refutes front record conflict := by
  rcases ofRecords_cases records with
    ⟨m, hm, -, hconsistent⟩ | ⟨reported, front, record, back, herror, hrecords, hfront, hrefutes⟩
  · rw [hm]
    constructor
    · intro h
      cases h
    · rintro ⟨front, record, back, rfl, -, hrefutes⟩
      obtain ⟨earlier, hearlier, hcontradicts⟩ := hrefutes.contradicts
      exact absurd hcontradicts
        (hconsistent.forall_mem (List.mem_append_left _ hearlier) (by simp))
  · rw [herror]
    constructor
    · intro h
      rw [← Except.error.inj h]
      exact ⟨front, record, back, hrecords, hfront, hrefutes⟩
    · rintro ⟨front', record', back', hrecords', hfront', hrefutes'⟩
      rw [refuted_unique (hrecords.symm.trans hrecords') hfront hrefutes hfront' hrefutes']

theorem exists_ofRecords_iff : (∃ m, ofRecords records = .ok m) ↔ Consistent records := by
  rcases ofRecords_cases records with
    ⟨m, hm, -, hconsistent⟩ | ⟨conflict, front, record, back, herror, rfl, -, hrefutes⟩
  · exact iff_of_true ⟨m, hm⟩ hconsistent
  · refine iff_of_false ?_ fun hconsistent => ?_
    · rintro ⟨m, hm⟩
      rw [herror] at hm
      cases hm
    · obtain ⟨earlier, hearlier, hcontradicts⟩ := hrefutes.contradicts
      exact hconsistent.forall_mem (List.mem_append_left _ hearlier) (by simp) hcontradicts

theorem gathers_of_ofRecords (h : ofRecords records = .ok m) :
    Gathers records m ∧ Consistent records := by
  rcases ofRecords_cases records with ⟨m', hm', hgathers, hconsistent⟩ | ⟨_, _, _, _, herror, -⟩
  · rw [h, Except.ok.injEq] at hm'
    subst hm'
    exact ⟨hgathers, hconsistent⟩
  · rw [h] at herror
    cases herror

/-- The files of a map: the first spelling of each path, with the first digest known of it. -/
theorem Gathers.mem_toList_iff (h : Gathers records m) {file : String} {checksum : Option String} :
    (file, checksum) ∈ m.toList
      ↔ ∃ key, firstPath? records key = some file
        ∧ (firstDigest? records key).map Digest.hex = checksum := by
  constructor
  · intro hmem
    obtain ⟨⟨key, entry⟩, hentry, heq⟩ := List.mem_map.mp hmem
    rw [Std.TreeMap.mem_toList_iff_getElem?_eq_some, h, Option.map_eq_some_iff] at hentry
    obtain ⟨path, hpath, rfl⟩ := hentry
    obtain ⟨rfl, rfl⟩ := Prod.mk.inj heq
    exact ⟨key, hpath, rfl⟩
  · rintro ⟨key, hpath, rfl⟩
    refine List.mem_map.mpr ⟨(key, ⟨file, (firstDigest? records key).map Digest.hex⟩), ?_, rfl⟩
    rw [Std.TreeMap.mem_toList_iff_getElem?_eq_some, h, hpath]
    rfl

end Steps

/-! ## What a gathered map holds -/

/-- The files of a map by their lower case, with what is known of their digests, in its order. -/
def known (m : ChecksumMap) : List (String × Option String) :=
  m.toList.map fun file => (Unicode.lower file.1, file.2)

section Known

variable {records : List ChecksumRecord} {m : ChecksumMap} {path : String}

theorem Gathers.get?_eq (h : Gathers records m) (path : String) :
    m.get? path = (firstPath? records (Unicode.lower path)).map fun _ =>
      (firstDigest? records (Unicode.lower path)).map Digest.hex := by
  rw [get?, h, Option.map_map]
  rfl

theorem Gathers.get?_eq_none (h : Gathers records m) :
    m.get? path = none ↔ ∀ r ∈ records, Unicode.lower r.path ≠ Unicode.lower path := by
  rw [h.get?_eq, Option.map_eq_none_iff, firstPath?_eq_none]
  rfl

theorem Gathers.get?_eq_digest (h : Gathers records m) (hrecords : Consistent records)
    {record : ChecksumRecord} (hrecord : record ∈ records)
    (hpath : Unicode.lower record.path = Unicode.lower path) {d : Digest}
    (hd : record.digest = some d) : m.get? path = some (some d.hex) := by
  obtain ⟨first, hfirst⟩ := exists_firstPath? hrecord
  have hdigest := hrecords.firstDigest?_eq hrecord hd
  rw [h.get?_eq, ← hpath]
  show (firstPath? records record.key).map _ = _
  rw [hfirst]
  show some ((firstDigest? records record.key).map Digest.hex) = _
  rw [hdigest]
  rfl

theorem Gathers.get?_eq_unknown (h : Gathers records m) {record : ChecksumRecord}
    (hrecord : record ∈ records) (hpath : Unicode.lower record.path = Unicode.lower path)
    (hnone : ∀ r ∈ records, Unicode.lower r.path = Unicode.lower path → r.digest = none) :
    m.get? path = some none := by
  obtain ⟨first, hfirst⟩ := exists_firstPath? hrecord
  have hdigest : firstDigest? records (Unicode.lower path) = none :=
    firstDigest?_eq_none.mpr hnone
  rw [h.get?_eq, hdigest, ← hpath]
  show (firstPath? records record.key).map _ = _
  rw [hfirst]
  rfl

/-- The lower cases of the files are the keys under which they are held. -/
theorem Keyed.known_eq (h : m.Keyed) :
    m.known = (m.entries.map fun _ entry => entry.checksum).toList := by
  rw [known, toList, List.map_map, Std.TreeMap.toList_map]
  refine List.map_congr_left fun file hfile => ?_
  obtain ⟨key, entry⟩ := file
  have hentry := Std.TreeMap.mem_toList_iff_getElem?_eq_some.mp hfile
  simp [h key entry hentry]

theorem Keyed.map_fst_known (h : m.Keyed) : m.known.map Prod.fst = m.entries.keys := by
  rw [h.known_eq, Std.TreeMap.map_fst_toList_eq_keys, Std.TreeMap.keys_map]

/-- The map of a row of records is keyed. -/
theorem Gathers.keyed (h : Gathers records m) : m.Keyed := by
  intro key entry hentry
  rw [h, Option.map_eq_some_iff] at hentry
  obtain ⟨path, hpath, rfl⟩ := hentry
  exact lower_firstPath? hpath

theorem Gathers.nodup_known (h : Gathers records m) : (m.known.map Prod.fst).Nodup := by
  rw [h.keyed.map_fst_known]
  refine Std.TreeMap.distinct_keys.imp fun hne heq => ?_
  rw [heq] at hne
  exact hne Std.ReflCmp.compare_self

theorem Gathers.mem_known_iff (h : Gathers records m) {key : String} :
    key ∈ m.known.map Prod.fst ↔ ∃ r ∈ records, Unicode.lower r.path = key := by
  rw [h.keyed.map_fst_known, Std.TreeMap.mem_keys, Std.TreeMap.mem_iff_isSome_getElem?,
    Option.isSome_iff_ne_none, h, Ne, Option.map_eq_none_iff, firstPath?_eq_none]
  simp [ChecksumRecord.key]

theorem consistent_perm {permuted : List ChecksumRecord} (h : permuted.Perm records) :
    Consistent permuted ↔ Consistent records := by
  rw [consistent_iff, consistent_iff]
  simp only [h.mem_iff]

/-- Records in another order say the same of every file. -/
theorem Gathers.get?_perm {permuted : List ChecksumRecord} {m' : ChecksumMap}
    (hperm : permuted.Perm records) (hrecords : Consistent records) (h : Gathers records m)
    (h' : Gathers permuted m') (path : String) : m'.get? path = m.get? path := by
  have hpermuted : Consistent permuted := (consistent_perm hperm).mpr hrecords
  cases hpath : m.get? path with
  | none =>
    rw [h.get?_eq_none] at hpath
    exact h'.get?_eq_none.mpr fun r hr => hpath r (hperm.mem_iff.mp hr)
  | some checksum =>
    have hfile : ∃ r ∈ records, Unicode.lower r.path = Unicode.lower path := by
      by_contra hnot
      push Not at hnot
      rw [h.get?_eq_none.mpr hnot] at hpath
      cases hpath
    obtain ⟨r, hr, hlower⟩ := hfile
    by_cases hunknown : ∀ r ∈ records, Unicode.lower r.path = Unicode.lower path → r.digest = none
    · rw [← hpath, h.get?_eq_unknown hr hlower hunknown]
      exact h'.get?_eq_unknown (hperm.mem_iff.mpr hr) hlower
        fun r hr => hunknown r (hperm.mem_iff.mp hr)
    · push Not at hunknown
      obtain ⟨s, hs, hlower', hdigest⟩ := hunknown
      obtain ⟨d, hd⟩ := Option.ne_none_iff_exists'.mp hdigest
      rw [← hpath, h.get?_eq_digest hrecords hs hlower' hd]
      exact h'.get?_eq_digest hpermuted (hperm.mem_iff.mpr hs) hlower' hd

theorem Gathers.known_perm {permuted : List ChecksumRecord} {m' : ChecksumMap}
    (hperm : permuted.Perm records) (hrecords : Consistent records) (h : Gathers records m)
    (h' : Gathers permuted m') : m'.known = m.known := by
  rw [h.keyed.known_eq, h'.keyed.known_eq]
  apply Std.TreeMap.Equiv.toList_eq
  apply Std.TreeMap.Equiv.of_forall_constGet?_eq
  intro key
  rw [Std.TreeMap.getElem?_map, Std.TreeMap.getElem?_map]
  -- a key that no path has is held by neither map
  by_cases hkey : ∃ r ∈ records, Unicode.lower r.path = key
  · obtain ⟨r, -, rfl⟩ := hkey
    exact Gathers.get?_perm hperm hrecords h h' r.path
  · push Not at hkey
    have hnone : firstPath? records key = none := firstPath?_eq_none.mpr hkey
    have hnone' : firstPath? permuted key = none :=
      firstPath?_eq_none.mpr fun r hr => hkey r (hperm.mem_iff.mp hr)
    rw [h key, h' key, hnone, hnone']
    rfl

/-- What a map of records holds: one file for each path up to case, with the digest that its records
have in common, if any of them has one. -/
structure Describes (records : List ChecksumRecord) (m : ChecksumMap) : Prop where
  nodup : (m.known.map Prod.fst).Nodup
  mem_iff : ∀ key, key ∈ m.known.map Prod.fst ↔ ∃ r ∈ records, Unicode.lower r.path = key
  absent_iff : ∀ path, m.get? path = none
    ↔ ∀ r ∈ records, Unicode.lower r.path ≠ Unicode.lower path
  common : ∀ path, ∀ r ∈ records, Unicode.lower r.path = Unicode.lower path →
    ∀ d, r.digest = some d → m.get? path = some (some d.hex)
  unknown : ∀ path, (∃ r ∈ records, Unicode.lower r.path = Unicode.lower path) →
    (∀ r ∈ records, Unicode.lower r.path = Unicode.lower path → r.digest = none) →
    m.get? path = some none

theorem Gathers.describes (h : Gathers records m) (hrecords : Consistent records) :
    Describes records m where
  nodup := h.nodup_known
  mem_iff _ := h.mem_known_iff
  absent_iff _ := h.get?_eq_none
  common _ _ hr hpath _ hd := h.get?_eq_digest hrecords hr hpath hd
  unknown _ hfile hnone := by
    obtain ⟨r, hr, hpath⟩ := hfile
    exact h.get?_eq_unknown hr hpath hnone

/-- **What becomes of the records of a symbol file.** They are refused exactly when two of them
contradict each other. The refusal names the first record that contradicts one before it, by the
first spelling of its path, with the first digest known of its file and its own. Otherwise each path
has one entry up to case, with the digest that its records have in common. The order of the records
makes no difference to whether they are refused, and none to the files and digests of the map. -/
theorem ofRecords_spec (records : List ChecksumRecord) :
    ((∃ conflict, ofRecords records = .error conflict)
        ↔ ∃ a ∈ records, ∃ b ∈ records, a.Contradicts b)
      ∧ (∀ conflict, ofRecords records = .error conflict
        ↔ ∃ front record back, records = front ++ record :: back ∧ Consistent front
          ∧ Refutes front record conflict)
      ∧ (∀ m, ofRecords records = .ok m → Describes records m)
      ∧ ∀ permuted, permuted.Perm records →
        match ofRecords permuted, ofRecords records with
        | .ok m', .ok m => m'.known = m.known ∧ ∀ path, m'.get? path = m.get? path
        | .error _, .error _ => True
        | _, _ => False := by
  refine ⟨?_, fun conflict => ofRecords_eq_error_iff, fun m hm => ?_, fun permuted hperm => ?_⟩
  · have hrefused : (∃ conflict, ofRecords records = .error conflict)
        ↔ ¬ ∃ m, ofRecords records = .ok m := by
      cases ofRecords records <;> simp
    rw [hrefused, exists_ofRecords_iff, consistent_iff, not_not]
  · obtain ⟨hgathers, hconsistent⟩ := gathers_of_ofRecords hm
    exact hgathers.describes hconsistent
  · have hboth : (∃ m, ofRecords permuted = .ok m) ↔ ∃ m, ofRecords records = .ok m := by
      rw [exists_ofRecords_iff, exists_ofRecords_iff, consistent_perm hperm]
    cases hpermuted : ofRecords permuted with
    | error conflict' =>
      cases hrecords : ofRecords records with
      | error conflict => trivial
      | ok m =>
        obtain ⟨m', hm'⟩ := hboth.mpr ⟨m, hrecords⟩
        rw [hpermuted] at hm'
        cases hm'
    | ok m' =>
      cases hrecords : ofRecords records with
      | error conflict =>
        obtain ⟨m, hm⟩ := hboth.mp ⟨m', hpermuted⟩
        rw [hrecords] at hm
        cases hm
      | ok m =>
        obtain ⟨hgathers', -⟩ := gathers_of_ofRecords hpermuted
        obtain ⟨hgathers, hconsistent⟩ := gathers_of_ofRecords hrecords
        exact ⟨hgathers.known_perm hperm hconsistent hgathers',
          hgathers.get?_perm hperm hconsistent hgathers'⟩

end Known

end ChecksumMap

end SourceServer
