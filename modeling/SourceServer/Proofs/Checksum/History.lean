import Mathlib.Data.List.Dedup
import Mathlib.Data.List.Induction
import Mathlib.Data.List.Perm.Basic
import SourceServer.Proofs.Checksum.Gathering

/-!
# The history of a checksum map

A map may be offered any texts as checksums, and its owner may go on after a refusal. Whatever was
offered, each file has the spelling that came first and the first checksum that was known of it: an
offer creates an entry, fills a gap or changes nothing.

- `ChecksumMap.offer`, `ChecksumMap.history`: offers one after the other, refused ones included.
- `ChecksumMap.getElem?_offer`, `ChecksumMap.getElem?_history`: what one offer changes, and what all
  of them lead to.
- `ChecksumMap.Remembers`, `ChecksumMap.history_remembers`: what a map holds after any history.
-/

namespace SourceServer

/-- One occurrence of a file that is offered to a map, with any text as its checksum. -/
structure Offer where
  path : String
  checksum : Option String

namespace Offer

/-- The key of an offer: its path up to case. -/
def key (o : Offer) : String :=
  Unicode.lower o.path

/-- The first value that offers of one file have. -/
def first? (value : Offer → Option String) (offers : List Offer) (key : String) : Option String :=
  offers.findSome? fun o => if o.key = key then value o else none

/-- The spelling of the first offer of a file. -/
def spelling? (offers : List Offer) (key : String) : Option String :=
  first? (fun o => some o.path) offers key

/-- The first checksum that is offered for a file, offers without checksum passed over. -/
def checksum? (offers : List Offer) (key : String) : Option String :=
  first? Offer.checksum offers key

variable {value : Offer → Option String} {offers : List Offer} {key : String}

theorem first?_append (value : Offer → Option String) (offers more : List Offer) (key : String) :
    first? value (offers ++ more) key = (first? value offers key).or (first? value more key) :=
  List.findSome?_append

theorem first?_singleton (value : Offer → Option String) (o : Offer) (key : String) :
    first? value [o] key = if o.key = key then value o else none := by
  rw [first?, List.findSome?_cons, List.findSome?_nil]
  cases (if o.key = key then value o else none) <;> rfl

theorem first?_eq_none :
    first? value offers key = none ↔ ∀ o ∈ offers, o.key = key → value o = none := by
  simp [first?]

theorem spelling?_eq_none : spelling? offers key = none ↔ ∀ o ∈ offers, o.key ≠ key := by
  simp [spelling?, first?_eq_none]

theorem lower_spelling? {path : String} (h : spelling? offers key = some path) :
    Unicode.lower path = key := by
  obtain ⟨o, -, hpath⟩ := List.exists_of_findSome?_eq_some h
  split at hpath
  · rename_i hkey
    rw [← Option.some.inj hpath]
    exact hkey
  · cases hpath

end Offer

namespace ChecksumMap

open Offer (spelling? checksum? first?_append first?_singleton)

/-! ## One offer -/

/-- A map after an offer. A refused offer leaves it as it was. -/
def offer (m : ChecksumMap) (o : Offer) : ChecksumMap :=
  match m.insert o.path o.checksum with
  | .ok next => next
  | .error _ => m

theorem offer_of_error {m : ChecksumMap} {o : Offer} {conflict : ChecksumConflict}
    (h : m.insert o.path o.checksum = .error conflict) : m.offer o = m := by
  rw [offer, h]

/-- An offer changes nothing but the entry of its file. A refused one would not change it either:
what is known is kept. -/
theorem getElem?_offer (m : ChecksumMap) (o : Offer) (key : String) :
    (m.offer o).entries[key]?
      = if o.key = key then some (extended o.path o.checksum m.entries[o.key]?)
        else m.entries[key]? := by
  rcases insert_cases m o.path o.checksum with hok | ⟨conflict, hclashes, herror⟩
  · rw [offer, hok]
    exact getElem?_insert_eq_ite m.entries o.key key _
  · rw [offer_of_error herror]
    have hheld : m.entries[o.key]? = _ := hclashes.held
    by_cases hkey : o.key = key
    · rw [if_pos hkey, ← hkey, hheld]
      rfl
    · rw [if_neg hkey]

/-! ## All offers -/

/-- The map of all offers, refused ones included. -/
def history (offers : List Offer) : ChecksumMap :=
  offers.foldl offer empty

variable {offers : List Offer} {path : String}

theorem history_concat (offers : List Offer) (o : Offer) :
    history (offers ++ [o]) = (history offers).offer o := by
  rw [history, List.foldl_concat]
  rfl

/-- A file has the spelling and the checksum that came first. -/
theorem getElem?_history (offers : List Offer) (key : String) :
    (history offers).entries[key]?
      = (spelling? offers key).map fun path => ⟨path, checksum? offers key⟩ := by
  induction offers using List.reverseRecOn with
  | nil => simp [history, empty, spelling?, Offer.first?]
  | append_singleton offers o ih =>
    rw [history_concat, getElem?_offer, spelling?, checksum?, first?_append, first?_append,
      first?_singleton, first?_singleton]
    by_cases hkey : o.key = key
    · rw [hkey, ih, if_pos rfl, if_pos rfl, if_pos rfl]
      cases hspelling : spelling? offers key with
      | none =>
        -- the first offer of its file
        have hchecksum : checksum? offers key = none :=
          Offer.first?_eq_none.mpr fun other hother hsame =>
            absurd hsame (Offer.spelling?_eq_none.mp hspelling other hother)
        rw [spelling?] at hspelling
        rw [checksum?] at hchecksum
        rw [hspelling, hchecksum]
        rfl
      | some path =>
        rw [spelling?] at hspelling
        rw [hspelling]
        rfl
    · rw [if_neg hkey, if_neg hkey, if_neg hkey, Option.or_none, Option.or_none]
      exact ih

theorem keyed_history (offers : List Offer) : (history offers).Keyed := by
  intro key entry hentry
  rw [getElem?_history, Option.map_eq_some_iff] at hentry
  obtain ⟨path, hpath, rfl⟩ := hentry
  exact Offer.lower_spelling? hpath

/-- A refusal is about the spelling and the checksum that came first. -/
theorem insert_history_eq_error_iff {o : Offer} {conflict : ChecksumConflict} :
    (history offers).insert o.path o.checksum = .error conflict
      ↔ spelling? offers o.key = some conflict.path
        ∧ checksum? offers o.key = some conflict.first ∧ o.checksum = some conflict.second
        ∧ Ascii.equalIgnoringCase conflict.first conflict.second = false := by
  have hheld : (history offers).entries[Unicode.lower o.path]?
        = some ⟨conflict.path, some conflict.first⟩
      ↔ spelling? offers o.key = some conflict.path
        ∧ checksum? offers o.key = some conflict.first := by
    rw [getElem?_history, Option.map_eq_some_iff]
    simp [Offer.key]
  rw [insert_eq_error_iff]
  constructor
  · rintro ⟨hentry, hbrought, hdiffer⟩
    obtain ⟨hspelling, hchecksum⟩ := hheld.mp hentry
    exact ⟨hspelling, hchecksum, hbrought, hdiffer⟩
  · rintro ⟨hspelling, hchecksum, hbrought, hdiffer⟩
    exact ⟨hheld.mpr ⟨hspelling, hchecksum⟩, hbrought, hdiffer⟩

/-- What is known of a file stays known. -/
theorem get?_history_append {first : String}
    (h : (history offers).get? path = some (some first)) (more : List Offer) :
    (history (offers ++ more)).get? path = some (some first) := by
  rw [get?, getElem?_history, Option.map_map, Option.map_eq_some_iff] at h
  obtain ⟨spelling, hspelling, hchecksum⟩ := h
  have hchecksum : checksum? offers (Unicode.lower path) = some first := hchecksum
  rw [spelling?] at hspelling
  rw [checksum?] at hchecksum
  rw [get?, getElem?_history, spelling?, checksum?, first?_append, first?_append, hspelling,
    hchecksum]
  rfl

/-! ## What a map holds -/

/-- What a map holds after some offers: the files that were offered, each once and in the order of
their keys, with the spelling and the checksum that came first. -/
structure Remembers (offers : List Offer) (m : ChecksumMap) : Prop where
  absent_iff : ∀ path, m.get? path = none ↔ ∀ o ∈ offers, o.key ≠ Unicode.lower path
  known : ∀ path, (∃ o ∈ offers, o.key = Unicode.lower path) →
    m.get? path = some (checksum? offers (Unicode.lower path))
  /-- The files are listed by their keys. -/
  increasing : (m.known.map Prod.fst).Pairwise (· < ·)
  listed_iff : ∀ key, key ∈ m.known.map Prod.fst ↔ ∃ o ∈ offers, o.key = key
  /-- A file is listed with its first spelling and with what is known of it. -/
  mem_toList_iff : ∀ file checksum, (file, checksum) ∈ m.toList
    ↔ spelling? offers (Unicode.lower file) = some file ∧ m.get? file = some checksum
  size_eq : m.size = (offers.map Offer.key).dedup.length
  isEmpty_iff : m.isEmpty = true ↔ offers = []

theorem size_eq_length_known (m : ChecksumMap) : m.size = (m.known.map Prod.fst).length := by
  rw [size, known, toList, List.length_map, List.length_map, List.length_map,
    Std.TreeMap.length_toList]

theorem listed_history_iff {key : String} :
    key ∈ (history offers).known.map Prod.fst ↔ ∃ o ∈ offers, o.key = key := by
  rw [(keyed_history offers).map_fst_known, Std.TreeMap.mem_keys,
    Std.TreeMap.mem_iff_isSome_getElem?, getElem?_history, Option.isSome_map,
    Option.isSome_iff_ne_none, Ne, Offer.spelling?_eq_none]
  simp

theorem increasing_known {m : ChecksumMap} (h : m.Keyed) :
    (m.known.map Prod.fst).Pairwise (· < ·) := by
  rw [h.map_fst_known]
  exact (Std.TreeMap.ordered_keys (t := m.entries)).imp fun hlt => compareOfLessAndEq_eq_lt.mp hlt

/-- The number of files is the number of different keys. -/
theorem size_history (offers : List Offer) :
    (history offers).size = (offers.map Offer.key).dedup.length := by
  have hnodup : ((history offers).known.map Prod.fst).Nodup := by
    refine (increasing_known (keyed_history offers)).imp fun hlt heq => ?_
    rw [heq] at hlt
    exact String.lt_irrefl _ hlt
  rw [size_eq_length_known]
  apply List.Perm.length_eq
  rw [List.perm_ext_iff_of_nodup hnodup (List.nodup_dedup _)]
  intro key
  rw [listed_history_iff, List.mem_dedup, List.mem_map]

theorem remembers_history (offers : List Offer) : Remembers offers (history offers) where
  absent_iff path := by
    rw [get?, getElem?_history, Option.map_map, Option.map_eq_none_iff, Offer.spelling?_eq_none]
  known path h := by
    have hoffered : spelling? offers (Unicode.lower path) ≠ none := by
      rw [Ne, Offer.spelling?_eq_none]
      simpa using h
    obtain ⟨spelling, hspelling⟩ := Option.ne_none_iff_exists'.mp hoffered
    rw [get?, getElem?_history, hspelling]
    rfl
  increasing := increasing_known (keyed_history offers)
  listed_iff _ := listed_history_iff
  mem_toList_iff file checksum := by
    rw [toList, List.mem_map]
    constructor
    · rintro ⟨⟨key, entry⟩, hentry, heq⟩
      obtain ⟨rfl, rfl⟩ := Prod.mk.inj heq
      rw [Std.TreeMap.mem_toList_iff_getElem?_eq_some] at hentry
      have hkey : Unicode.lower entry.path = key := keyed_history offers key entry hentry
      rw [get?, hkey, hentry]
      rw [getElem?_history, Option.map_eq_some_iff] at hentry
      obtain ⟨spelling, hspelling, rfl⟩ := hentry
      exact ⟨hspelling, rfl⟩
    · rintro ⟨hspelling, hchecksum⟩
      rw [get?, Option.map_eq_some_iff] at hchecksum
      obtain ⟨entry, hentry, rfl⟩ := hchecksum
      have hlisted := Std.TreeMap.mem_toList_iff_getElem?_eq_some.mpr hentry
      refine ⟨(Unicode.lower file, entry), hlisted, ?_⟩
      rw [getElem?_history, hspelling, Option.map_some, Option.some.injEq] at hentry
      rw [← hentry]
  size_eq := size_history offers
  isEmpty_iff := by
    rw [isEmpty, Std.TreeMap.isEmpty_eq_size_eq_zero, beq_iff_eq]
    show (history offers).size = 0 ↔ _
    rw [size_history, List.length_eq_zero_iff, List.dedup_eq_nil, List.map_eq_nil_iff]

end ChecksumMap

end SourceServer
