import SourceServer.Proofs.Remote.Parts

/-!
# Patterns

The kinds of addresses are given by patterns, which begin where the address begins and are matched
without regard to case. A pattern may match in several ways, which have an order: what is optional is
rather taken than left out, and a row of characters is as long as possible, or as short as possible
when it is lazy. The first way in which the whole pattern matches is the one that counts.

- `Pattern`, `Pattern.CharSet`: patterns and sets of characters.
- `Pattern.ways`, `Pattern.match?`: the ways to match in their order, and the first one.
- `Pattern.reads`: the first way that is also good for what stands behind the pattern.
- `Pattern.reads_text`, `Pattern.reads_maybe`, `Pattern.reads_greedy`, `Pattern.reads_lazy_eq_some`:
  one law for each form of pattern.
-/

namespace SourceServer

/-- A set of characters: those of some ranges, or all others. -/
structure Pattern.CharSet where
  ranges : List (Char × Char)
  negated : Bool
deriving DecidableEq

/-- A pattern for the front of a text. Its letters and ranges are given in lower case. -/
inductive Pattern where
  | empty
  | letter (c : Char)
  /-- One or more characters of a set. -/
  | row (set : Pattern.CharSet) (lazy : Bool)
  /-- What may be missing. -/
  | maybe (part : Pattern)
  | seq (first second : Pattern)
  | capture (name : String) (part : Pattern)
  /-- The end of the text. -/
  | finish
deriving DecidableEq

namespace Pattern

instance : Append Pattern := ⟨seq⟩

/-- Fixed text. -/
def text (fixed : String) : Pattern :=
  fixed.toList.foldr (fun c rest => letter c ++ rest) empty

/-- A character up to case. The long s and the Kelvin sign are letters s and k. -/
def folded (c : Char) : Char :=
  if c.toNat = 0x17f then 's' else if c.toNat = 0x212a then 'k' else Ascii.lowerChar c

/-- Whether a character belongs to a set up to case. -/
def CharSet.accepts (set : CharSet) (c : Char) : Bool :=
  (set.ranges.any fun (low, high) => low ≤ folded c && folded c ≤ high) != set.negated

/-- A text that is read in part: what has been captured by name, and what is left. -/
structure Reading where
  captured : List (String × List Char)
  rest : List Char
deriving DecidableEq

/-- What is left behind one or more characters of a set, the shortest row first. -/
def behindRow (set : CharSet) : List Char → List (List Char)
  | [] => []
  | c :: rest => if set.accepts c then rest :: behindRow set rest else []

/-- What has been read between two readings is captured. -/
def Reading.keep (name : String) (before after : Reading) : Reading :=
  ⟨(name, before.rest.take (before.rest.length - after.rest.length)) :: after.captured, after.rest⟩

/-- The ways to match a pattern, the preferred one first. -/
def ways : Pattern → Reading → List Reading
  | empty, reading => [reading]
  | letter f, reading =>
    match reading.rest with
    | [] => []
    | c :: rest => if folded c = f then [⟨reading.captured, rest⟩] else []
  | row set lazy, reading =>
    let rests := behindRow set reading.rest
    (if lazy then rests else rests.reverse).map (Reading.mk reading.captured)
  | maybe part, reading => part.ways reading ++ [reading]
  | seq first second, reading => (first.ways reading).flatMap second.ways
  | capture name part, reading => (part.ways reading).map (reading.keep name)
  | finish, reading => if reading.rest = [] then [reading] else []

/-- The way in which a text is matched. -/
def match? (pattern : Pattern) (text : String) : Option Reading :=
  (pattern.ways ⟨[], text.toList⟩).head?

/-- What has been captured last by a name. -/
def Reading.group (reading : Reading) (name : String) : String :=
  String.ofList ((reading.captured.lookup name).getD [])

/-! ## The first way that is good for the rest -/

open Remote.Shape (dropFixed? isLow lowerChar_of_high matchesLetter)

variable {α : Type} {p q : Pattern} {set : CharSet} {reading : Reading} {k : Reading → Option α}

/-- The first way to match a pattern for which `k`, which reads on, has an answer. -/
def reads (p : Pattern) (k : Reading → Option α) (reading : Reading) : Option α :=
  (p.ways reading).findSome? k

theorem findSome?_some {β : Type} (found : List β) : found.findSome? some = found.head? := by
  cases found with
  | nil => rfl
  | cons first others => rfl

theorem findSome?_flatMap {β γ : Type} (found : List β) (f : β → List γ) (k : γ → Option α) :
    (found.flatMap f).findSome? k = found.findSome? fun x => (f x).findSome? k := by
  induction found with
  | nil => rfl
  | cons first others ih =>
    rw [List.flatMap_cons, List.findSome?_append, List.findSome?_cons, ih]
    cases (f first).findSome? k <;> rfl

theorem match?_eq_reads (p : Pattern) (text : String) :
    p.match? text = p.reads some ⟨[], text.toList⟩ := by
  rw [match?, reads, findSome?_some]

@[simp] theorem reads_seq : (p ++ q).reads k reading = p.reads (q.reads k) reading :=
  findSome?_flatMap (p.ways reading) q.ways k

@[simp] theorem reads_maybe : (maybe p).reads k reading = (p.reads k reading).or (k reading) := by
  rw [reads, ways, List.findSome?_append, List.findSome?_singleton]
  rfl

@[simp] theorem reads_capture {name : String} :
    (capture name p).reads k reading
      = p.reads (fun after => k (reading.keep name after)) reading := by
  rw [reads, ways, List.findSome?_map]
  rfl

@[simp] theorem reads_finish :
    finish.reads k reading = if reading.rest = [] then k reading else none := by
  rw [reads, ways]
  split
  · exact List.findSome?_singleton
  · rfl

/-! ## Fixed text -/

/-- Letters of fixed text are matched as the readers of addresses match them. -/
theorem matchesLetter_iff {f : Char} (hf : isLow f = true) (c : Char) :
    matchesLetter f c = true ↔ folded c = f := by
  rw [matchesLetter, Bool.or_eq_true, Bool.or_eq_true, Bool.and_eq_true, Bool.and_eq_true,
    beq_iff_eq, beq_iff_eq, beq_iff_eq, beq_iff_eq, beq_iff_eq, folded]
  have hother : 0x80 ≤ c.toNat → Ascii.lowerChar c ≠ f := by
    intro hhigh hlower
    have hc : isLow c = false := decide_eq_false (Nat.not_lt.mpr hhigh)
    rw [lowerChar_of_high hc] at hlower
    rw [hlower, hf] at hc
    cases hc
  split
  · rename_i hsign
    simp [hother (by omega), hsign, eq_comm]
  · split
    · rename_i hsign
      simp [hother (by omega), hsign, eq_comm]
    · rename_i hs hk
      simp [hs, hk]

/-- Behind fixed text the reading goes on. -/
theorem reads_text {fixed : String} (hfixed : fixed.toList.all isLow = true) :
    (text fixed).reads k reading
      = (dropFixed? fixed.toList reading.rest).bind fun rest => k ⟨reading.captured, rest⟩ := by
  rw [text]
  generalize fixed.toList = letters at hfixed
  induction letters generalizing reading with
  | nil => exact List.findSome?_singleton
  | cons f letters ih =>
    rw [List.all_cons, Bool.and_eq_true] at hfixed
    obtain ⟨captured, rest⟩ := reading
    rw [List.foldr_cons, reads_seq, reads, ways]
    cases rest with
    | nil => rfl
    | cons c rest =>
      dsimp only
      rw [dropFixed?]
      by_cases hmatch : folded c = f
      · rw [if_pos hmatch, if_pos ((matchesLetter_iff hfixed.1 c).mpr hmatch),
          List.findSome?_singleton, ih hfixed.2]
      · rw [if_neg hmatch, if_neg (mt (matchesLetter_iff hfixed.1 c).mp hmatch)]
        rfl

/-! ## Rows -/

/-- A row that is as long as possible stops in front of the first other character, if what follows
cannot begin with a character of the row. -/
theorem reads_greedy
    (hk : ∀ c rest, set.accepts c = true → k ⟨reading.captured, c :: rest⟩ = none) :
    (row set false).reads k reading
      = match reading.rest.span set.accepts with
        | ([], _) => none
        | (_, rest) => k ⟨reading.captured, rest⟩ := by
  obtain ⟨captured, rest⟩ := reading
  rw [reads, ways, List.findSome?_map, if_neg Bool.false_ne_true, List.span_eq_takeWhile_dropWhile]
  dsimp only at hk ⊢
  induction rest with
  | nil => rfl
  | cons c rest ih =>
    rw [behindRow, List.takeWhile_cons, List.dropWhile_cons]
    by_cases hc : set.accepts c = true
    · rw [if_pos hc, if_pos hc, if_pos hc, List.reverse_cons, List.findSome?_append, ih,
        List.findSome?_singleton]
      -- the longer rows come first, and unless there are none, the shortest is good for nothing
      cases rest with
      | nil => rfl
      | cons d rest =>
        by_cases hd : set.accepts d = true
        · rw [List.takeWhile_cons, if_pos hd]
          dsimp only [Function.comp]
          rw [hk d rest hd, Option.or_none]
        · rw [List.takeWhile_cons, if_neg hd, List.dropWhile_cons, if_neg hd]
          rfl
    · rw [if_neg hc, if_neg hc]
      rfl

/-- A row can be read where a character of its set stands. -/
theorem isSome_reads_row (lazy : Bool) :
    ((row set lazy).reads some reading).isSome = reading.rest.head?.any set.accepts := by
  have hways : (row set lazy).ways reading = [] ↔ behindRow set reading.rest = [] := by
    rw [ways, List.map_eq_nil_iff]
    cases lazy with
    | false => exact List.reverse_eq_nil_iff
    | true => rfl
  rw [reads, findSome?_some, Bool.eq_iff_iff, List.isSome_head?, Ne, hways]
  cases reading.rest with
  | nil => simp [behindRow]
  | cons c rest => by_cases hc : set.accepts c = true <;> simp [behindRow, hc]

/-- What may be left behind a row. -/
theorem mem_behindRow_iff {text rest : List Char} :
    rest ∈ behindRow set text
      ↔ ∃ front, front ≠ [] ∧ front.all set.accepts = true ∧ text = front ++ rest := by
  induction text with
  | nil => simp [behindRow]
  | cons c text ih =>
    rw [behindRow]
    constructor
    · intro h
      split at h
      · rename_i hc
        rw [List.mem_cons, ih] at h
        rcases h with rfl | ⟨front, -, hfront, rfl⟩
        · exact ⟨[c], by simp, by simp [hc], rfl⟩
        · exact ⟨c :: front, by simp, by simp [hc, hfront], rfl⟩
      · cases h
    · rintro ⟨front, hne, hfront, htext⟩
      cases front with
      | nil => exact absurd rfl hne
      | cons d front =>
        rw [List.cons_append, List.cons.injEq] at htext
        obtain ⟨rfl, rfl⟩ := htext
        rw [List.all_cons, Bool.and_eq_true] at hfront
        rw [if_pos hfront.1, List.mem_cons, ih]
        by_cases hempty : front = []
        · exact .inl (by rw [hempty, List.nil_append])
        · exact .inr ⟨front, hempty, hfront.2, rfl⟩

/-- A lazy row stops as soon as what follows can be read. -/
theorem reads_lazy_eq_some {front rest : List Char} {answer : α} (hne : front ≠ [])
    (hfront : front.all set.accepts = true) (hrest : reading.rest = front ++ rest)
    (hk : k ⟨reading.captured, rest⟩ = some answer)
    (hshorter : ∀ shorter longer, shorter ≠ [] → longer ≠ [] → front = shorter ++ longer →
      k ⟨reading.captured, longer ++ rest⟩ = none) :
    (row set true).reads k reading = some answer := by
  obtain ⟨captured, text⟩ := reading
  obtain rfl : text = front ++ rest := hrest
  rw [reads, ways, List.findSome?_map, if_pos rfl]
  dsimp only at hk hshorter ⊢
  induction front with
  | nil => exact absurd rfl hne
  | cons c front ih =>
    rw [List.all_cons, Bool.and_eq_true] at hfront
    rw [List.cons_append, behindRow, if_pos hfront.1, List.findSome?_cons, Function.comp]
    by_cases hempty : front = []
    · rw [hempty, List.nil_append, hk]
    · rw [hshorter [c] front (by simp) hempty rfl]
      refine ih hempty hfront.2 fun shorter longer _ hlonger hsplit => ?_
      exact hshorter (c :: shorter) longer (by simp) hlonger (by rw [hsplit, List.cons_append])

/-- A lazy row fails if what follows can be read behind none. -/
theorem reads_lazy_eq_none
    (hk : ∀ front rest, front ≠ [] → front.all set.accepts = true → reading.rest = front ++ rest →
      k ⟨reading.captured, rest⟩ = none) : (row set true).reads k reading = none := by
  rw [reads, ways, List.findSome?_map, if_pos rfl, List.findSome?_eq_none_iff]
  intro rest hmem
  obtain ⟨front, hne, hfront, hsplit⟩ := mem_behindRow_iff.mp hmem
  exact hk front rest hne hfront hsplit

end Pattern

end SourceServer
