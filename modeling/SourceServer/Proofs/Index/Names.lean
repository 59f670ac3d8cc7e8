import SourceServer.Proofs.Index.Layout

/-!
# Names of variables

A line of a head names a variable in front of its first `=`, or it opens a section. The names do not
depend on the texts that the lines show.

- `Index.nameOf`: what a line names.
- `Index.Head.map_nameOf`: the names in a head.
- `Index.Head.entriesHeader_notMem`: entries are announced below the head only.
- `Index.sets`, `Index.Head.filter_sets_of_hostKey`: a variable of the host is set by one line.
-/

namespace SourceServer

namespace Index

/-- What a line names: the part in front of its first `=`. -/
def nameOf (line : String) : String :=
  String.ofList (line.toList.takeWhile (· != '='))

/-- The names in the lines that say how files are obtained. -/
def retrievalNames : Retrieval → List String
  | .archive =>
    ["TRGFILE", "TMPZIP", "SRCSRVTRG", "CMDGITARCHIVE", "CMDUNZIP", "CMDDELZIP", "SRCSRVCMD"]
  | .powershell => ["TRGFILE", "SRCSRVTRG", "SRCSRVCMD"]
  | .direct => ["SRCSRVVERCTRL", "SRCSRVTRG"]

/-- The name of a variable of the host, when the host has it. -/
def metadataName (context : Context) (key : String) : List String :=
  if (context.metadata.lookup key).isSome then [key] else []

/-- The names in a head, in their order; the lines that open a section name themselves. -/
def headNames (context : Context) : List String :=
  match context.dialect with
  | .generic =>
    [iniHeader, "VERSION", variablesHeader, "RAWURL", "GITREVISION"]
      ++ retrievalNames context.retrieval
  | .teamFoundation =>
    [iniHeader, "VERSION", "INDEXVERSION", "VERCTRL", "DATETIME", "INDEXER", variablesHeader,
        "TFS_EXTRACT_TARGET", "TFS_EXTRACT_CMD"]
      ++ metadataName context collectionKey ++ metadataName context projectKey
      ++ metadataName context repositoryKey
      ++ ["TFS_COMMIT", "TFS_SHORT_COMMIT", "TFS_APPLY_FILTERS", "SRCSRVVERCTRL",
        "SRCSRVERRDESC", "SRCSRVERRVAR", "SRCSRVTRG", "SRCSRVCMD"]

theorem nameOf_of_eq {line : String} {characters : List Char}
    (h : line = String.ofList characters) :
    nameOf line = String.ofList (characters.takeWhile (· != '=')) := by
  rw [nameOf, h, String.toList_ofList]

theorem nameOf_append {first : String} {characters : List Char}
    (h : first = String.ofList characters) (rest : String) :
    nameOf (first ++ rest)
      = String.ofList ((characters ++ rest.toList).takeWhile (· != '=')) := by
  rw [nameOf, String.toList_append, h, String.toList_ofList]

theorem map_nameOf_retrievalLines {context : Context} {lines : List String}
    (h : retrievalLines context = .ok lines) :
    lines.map nameOf = retrievalNames context.retrieval := by
  rw [retrievalLines] at h
  cases hretrieval : context.retrieval with
  | archive =>
    rw [hretrieval] at h
    rw [← Except.ok.inj h]
    simp only [List.map_cons, String.append_assoc, nameOf_append rfl, nameOf_of_eq rfl]
    rfl
  | powershell =>
    rw [hretrieval] at h
    rw [← Except.ok.inj h]
    simp only [List.map_cons, String.append_assoc, nameOf_append rfl]
    rfl
  | direct =>
    rw [hretrieval] at h
    dsimp only at h
    cases hurl : Url.parse context.template with
    | error fault => rw [hurl] at h; cases h
    | ok url =>
      rw [hurl] at h
      rw [← Except.ok.inj h]
      simp only [List.map_cons, nameOf_append rfl]
      rfl

theorem bne_of_notMem {s : List Char} {c : Char} (h : c ∉ s) : ∀ x ∈ s, (x != c) = true := by
  intro x hx
  rw [bne_iff_ne]
  rintro rfl
  exact h hx

/-- A name that stands in front of its `=`. -/
theorem nameOf_variable {name : String} (hname : '=' ∉ name.toList) (value : String) :
    nameOf (name ++ "=" ++ value) = name := by
  have hequals : ("=".toList ++ value.toList).takeWhile (· != '=') = [] := rfl
  rw [nameOf, String.toList_append, String.toList_append, List.append_assoc,
    List.takeWhile_append_of_pos (bne_of_notMem hname), hequals, List.append_nil, String.ofList_toList]

theorem map_nameOf_metadataLine (context : Context) {key : String} (hkey : '=' ∉ key.toList) :
    (metadataLine context key).map nameOf = metadataName context key := by
  rw [metadataLine, metadataName]
  cases context.metadata.lookup key with
  | none => rfl
  | some value => simp [nameOf_variable hkey]

/-- The names in a head are those of its dialect. -/
theorem Head.map_nameOf {context : Context} {head : List String} (h : Head context head) :
    head.map nameOf = headNames context := by
  cases h with
  | generic hdialect hretrieval =>
    rw [genericHead, List.map_append, map_nameOf_retrievalLines hretrieval, headNames, hdialect]
    simp only [List.map_cons, nameOf_append rfl]
    rfl
  | @teamFoundation short hdialect hshort =>
    rw [teamFoundationHead, headNames, hdialect]
    have hcollection := map_nameOf_metadataLine context (show '=' ∉ collectionKey.toList by decide)
    have hproject := map_nameOf_metadataLine context (show '=' ∉ projectKey.toList by decide)
    have hrepository := map_nameOf_metadataLine context (show '=' ∉ repositoryKey.toList by decide)
    simp only [List.map_append, hcollection, hproject, hrepository]
    simp only [List.map_cons, String.append_assoc, nameOf_append rfl]
    rfl

theorem entriesHeader_notMem_headNames (context : Context) :
    entriesHeader ∉ headNames context := by
  have hretrieval : ∀ retrieval, entriesHeader ∉ retrievalNames retrieval := by
    intro retrieval
    cases retrieval <;> decide
  have hmetadata : ∀ key, entriesHeader ≠ key → entriesHeader ∉ metadataName context key := by
    intro key hkey
    rw [metadataName]
    split <;> simp [hkey]
  rw [headNames]
  cases context.dialect with
  | generic =>
    rw [List.mem_append, not_or]
    exact ⟨by decide, hretrieval _⟩
  | teamFoundation =>
    simp only [List.mem_append, not_or]
    exact ⟨⟨⟨⟨by decide, hmetadata _ (by decide)⟩, hmetadata _ (by decide)⟩,
      hmetadata _ (by decide)⟩, by decide⟩

/-- Entries are announced below the head only. -/
theorem Head.entriesHeader_notMem {context : Context} {head : List String}
    (h : Head context head) : entriesHeader ∉ head := by
  intro hmem
  have hopens : nameOf entriesHeader = entriesHeader := (nameOf_of_eq rfl).trans rfl
  refine entriesHeader_notMem_headNames context ?_
  rw [← h.map_nameOf, ← hopens]
  exact List.mem_map_of_mem hmem

/-! ## Lines that set a variable -/

/-- A line that gives a value to a variable. -/
def sets (key line : String) : Bool :=
  (key ++ "=").toList.isPrefixOf line.toList

theorem toList_variable (key value : String) :
    (key ++ "=" ++ value).toList = (key ++ "=").toList ++ value.toList :=
  String.toList_append

theorem sets_variable (key value : String) : sets key (key ++ "=" ++ value) = true := by
  rw [sets, List.isPrefixOf_iff_prefix, toList_variable]
  exact List.prefix_append _ _

/-- A line that sets a variable names it. -/
theorem nameOf_of_sets {key line : String} (hkey : '=' ∉ key.toList) (h : sets key line = true) :
    nameOf line = key := by
  obtain ⟨value, hvalue⟩ := List.isPrefixOf_iff_prefix.mp h
  have hline : line = key ++ "=" ++ String.ofList value := by
    rw [← String.toList_inj, ← hvalue, toList_variable, String.toList_ofList]
  rw [hline, nameOf_variable hkey]

/-- A variable that a head names once is set by one line. -/
theorem Head.filter_sets {context : Context} {head : List String} (h : Head context head)
    {key value : String} (hkey : '=' ∉ key.toList) (hnamed : (headNames context).count key = 1)
    (hline : key ++ "=" ++ value ∈ head) : head.filter (sets key) = [key ++ "=" ++ value] := by
  obtain ⟨front, back, rfl⟩ := List.append_of_mem hline
  rw [← h.map_nameOf, List.map_append, List.map_cons, nameOf_variable hkey, List.count_append,
    List.count_cons_self] at hnamed
  -- the line is the one that names the variable, so no line before or behind it does
  have hfront : key ∉ front.map nameOf := List.count_eq_zero.mp (by omega)
  have hback : key ∉ back.map nameOf := List.count_eq_zero.mp (by omega)
  have hother : ∀ lines : List String, key ∉ lines.map nameOf → lines.filter (sets key) = [] := by
    intro lines hlines
    refine List.filter_eq_nil_iff.mpr fun line hmem hsets => hlines ?_
    rw [← nameOf_of_sets hkey hsets]
    exact List.mem_map_of_mem hmem
  rw [List.filter_append, List.filter_cons_of_pos (sets_variable key value), hother front hfront,
    hother back hback, List.nil_append]

/-- The variables in which the Team Foundation dialect tells what the host is. -/
def hostKeys : List String := [collectionKey, projectKey, repositoryKey]

theorem count_headNames_of_hostKey {context : Context} {key value : String}
    (hdialect : context.dialect = .teamFoundation) (hkey : key ∈ hostKeys)
    (hvalue : context.metadata.lookup key = some value) : (headNames context).count key = 1 := by
  have hself : (metadataName context key).count key = 1 := by
    rw [metadataName, hvalue]
    simp
  have hother : ∀ other, other ≠ key → (metadataName context other).count key = 0 := by
    intro other hne
    rw [metadataName]
    split <;> simp [hne]
  simp only [headNames, hdialect, List.count_append]
  simp only [hostKeys, List.mem_cons, List.not_mem_nil, or_false] at hkey
  rcases hkey with rfl | rfl | rfl
  · rw [hself, hother projectKey (by decide), hother repositoryKey (by decide)]
    decide
  · rw [hself, hother collectionKey (by decide), hother repositoryKey (by decide)]
    decide
  · rw [hself, hother collectionKey (by decide), hother projectKey (by decide)]
    decide

/-- A variable of the host is set by one line, to what the host says. -/
theorem Head.filter_sets_of_hostKey {context : Context} {head : List String}
    (h : Head context head) (hdialect : context.dialect = .teamFoundation) {key value : String}
    (hkey : key ∈ hostKeys) (hvalue : context.metadata.lookup key = some value) :
    head.filter (sets key) = [key ++ "=" ++ value] := by
  have hplain : ∀ other ∈ hostKeys, '=' ∉ other.toList := by decide
  refine h.filter_sets (hplain key hkey) (count_headNames_of_hostKey hdialect hkey hvalue) ?_
  have hline : key ++ "=" ++ value ∈ metadataLine context key := by
    rw [metadataLine, hvalue]
    exact List.mem_singleton_self _
  cases h with
  | generic hgeneric hretrieval =>
    rw [hgeneric] at hdialect
    cases hdialect
  | teamFoundation _ hshort =>
    simp only [hostKeys, List.mem_cons, List.not_mem_nil, or_false] at hkey
    rw [teamFoundationHead]
    simp only [List.mem_append]
    rcases hkey with rfl | rfl | rfl
    · exact .inl (.inl (.inl (.inr hline)))
    · exact .inl (.inl (.inr hline))
    · exact .inl (.inr hline)

end Index

end SourceServer
