import Mathlib.Data.List.TakeDrop
import SourceServer.Checksum.Streams

/-!
# Symbol files with one named stream

The smallest symbol file that records a source file is put together here page by page: a header, the
list of the directory's pages, the directory, an information stream with one name, and the stream of
this name. What is put together is read back, whatever the name and the content are. The same pages
with a name that begins outside its buffer are a file on which the reader breaks down.

- `Pdb.takeWord_word`: numbers of four bytes.
- `Pdb.readAt_flatten`, `Pdb.readPages_singleton`: whole pages.
- `Pdb.TwoStreams`, `Pdb.TwoStreams.file`: an information stream and another one, and the file.
- `Pdb.OneStream`: the name and the content of a named stream.
- `Pdb.OneStream.names_streamDirectory`, `Pdb.OneStream.read_streamDirectory`: what is read back.
- `Pdb.brokenName`: a name outside the buffer.
-/

namespace SourceServer

namespace Pdb

/-! ## Numbers -/

/-- A number in four bytes, the lowest first. -/
def word (n : Nat) : List UInt8 :=
  [.ofNat n, .ofNat (n / 256), .ofNat (n / 65536), .ofNat (n / 16777216)]

@[simp] theorem length_word (n : Nat) : (word n).length = 4 := rfl

/-- A number of four bytes is read back, and what follows it is left. -/
theorem takeWord_word {n : Nat} (h : n < 4294967296) (rest : List UInt8) :
    takeWord (word n ++ rest) = .ok (n, rest) := by
  have hbytes : n % 256 + 256 * (n / 256 % 256 + 256 * (n / 65536 % 256
      + 256 * (n / 16777216 % 256))) = n := by omega
  simp only [word, List.cons_append, List.nil_append, takeWord, UInt8.toNat_ofNat']
  exact congrArg (fun n => Except.ok (n, rest)) hbytes

/-- So many bytes in front are passed over. -/
theorem skip_append {count : Nat} {front : List UInt8} (h : front.length = count)
    (rest : List UInt8) : skip count (front ++ rest) = .ok rest := by
  rw [skip, if_pos (by rw [List.length_append]; omega), List.drop_left' h]

theorem skip_zero (rest : List UInt8) : skip 0 rest = .ok rest := by
  rw [skip, if_pos (Nat.zero_le _), List.drop_zero]

/-- The number of one page. -/
theorem takePages_word {pageCount page : Nat} (hpage : page ≠ 0 ∧ page ≤ pageCount)
    (h : page < 4294967296) (rest : List UInt8) :
    takePages pageCount 1 (word page ++ rest) = .ok [page] := by
  have hcheck : checkPage pageCount page = .ok page := by
    rw [checkPage, if_neg]
    omega
  simp only [takePages, takeWord_word h, hcheck, bind, Except.bind, pure, Except.pure]

/-! ## Pages -/

/-- The size of the pages. -/
def onePage : Nat := 256

/-- Some bytes, filled up to a whole page. -/
def fill (bytes : List UInt8) : List UInt8 :=
  bytes ++ List.replicate (onePage - bytes.length) 0

theorem length_fill {bytes : List UInt8} (h : bytes.length ≤ onePage) :
    (fill bytes).length = onePage := by
  rw [fill, List.length_append, List.length_replicate]
  omega

theorem take_fill (bytes : List UInt8) : (fill bytes).take bytes.length = bytes :=
  List.take_left' rfl

theorem readAt_eq (bytes : List UInt8) {position count : Nat}
    (h : position + count ≤ bytes.length) :
    readAt ⟨bytes.toArray⟩ position count = .ok ((bytes.drop position).take count) := by
  have hsize : position + count ≤ (ByteArray.mk bytes.toArray).size := h
  rw [readAt, if_pos hsize]
  refine congrArg Except.ok ?_
  rw [ByteArray.data_extract, Array.toList_extract, List.extract_eq_take_drop,
    Nat.add_sub_cancel_left]

theorem length_flatten_of_pages {pages : List (List UInt8)}
    (hpages : ∀ page ∈ pages, page.length = onePage) :
    pages.flatten.length = pages.length * onePage := by
  induction pages with
  | nil => rfl
  | cons page rest ih =>
    rw [List.forall_mem_cons] at hpages
    rw [List.flatten_cons, List.length_append, hpages.1, ih hpages.2, List.length_cons,
      Nat.succ_mul, Nat.add_comm]

/-- The bytes from a page on are the rest of the pages. -/
theorem drop_flatten {pages : List (List UInt8)} (hpages : ∀ page ∈ pages, page.length = onePage)
    (number : Nat) : pages.flatten.drop (number * onePage) = (pages.drop number).flatten := by
  induction number generalizing pages with
  | zero => simp
  | succ number ih =>
    cases pages with
    | nil => simp
    | cons page rest =>
      rw [List.forall_mem_cons] at hpages
      rw [List.flatten_cons, List.drop_succ_cons, ← ih hpages.2, Nat.succ_mul, Nat.add_comm,
        ← List.drop_drop, List.drop_left' hpages.1]

/-- The beginning of a page is read where the page stands. -/
theorem readAt_flatten {pages : List (List UInt8)} (hpages : ∀ page ∈ pages, page.length = onePage)
    {number count : Nat} {page : List UInt8} (hpage : pages[number]? = some page)
    (hcount : count ≤ onePage) :
    readAt ⟨pages.flatten.toArray⟩ (number * onePage) count = .ok (page.take count) := by
  obtain ⟨hnumber, rfl⟩ := List.getElem?_eq_some_iff.mp hpage
  have hlength : pages[number].length = onePage := hpages _ (List.getElem_mem hnumber)
  have hfits : number * onePage + count ≤ pages.flatten.length := by
    have hbehind : (number + 1) * onePage ≤ pages.length * onePage :=
      Nat.mul_le_mul_right onePage hnumber
    rw [length_flatten_of_pages hpages]
    rw [Nat.succ_mul] at hbehind
    omega
  rw [readAt_eq _ hfits, drop_flatten hpages, List.drop_eq_getElem_cons hnumber, List.flatten_cons,
    List.take_append_of_le_length (by omega)]

/-- What fits on one page is read from it. -/
theorem readPages_singleton {pages : List (List UInt8)}
    (hpages : ∀ page ∈ pages, page.length = onePage) {number : Nat} {bytes : List UInt8}
    (hpage : pages[number]? = some (fill bytes)) (hlength : bytes.length ≤ onePage) :
    readPages ⟨pages.flatten.toArray⟩ onePage [number] bytes.length = .ok bytes := by
  rw [readPages]
  split
  · rename_i hempty
    rw [List.length_eq_zero_iff.mp hempty]
  · rw [Nat.min_eq_left hlength, readAt_flatten hpages hpage hlength, take_fill]
    simp [readPages, bind, Except.bind, pure, Except.pure]

/-- So many bytes that fit on one page take one page, unless there are none. -/
theorem pagesFor_onePage {count : Nat} (h : count ≤ onePage) :
    pagesFor onePage count = if count = 0 then 0 else 1 := by
  have hsize : onePage = 256 := rfl
  rw [pagesFor, hsize]
  split <;> omega

/-! ## Streams -/

section Streams

variable {c : Container} {list : List UInt8} {pages : List Nat} {information : Information}
  {entries : List NameEntry}

theorem directory_of_pages
    (hlist : readPages c.file c.pageSize c.listPages (4 * pagesFor c.pageSize c.directorySize)
      = .ok list)
    (hpages : allPages c.pageCount list = .ok pages) :
    c.directory = readPages c.file c.pageSize pages c.directorySize := by
  rw [Container.directory, hlist]
  simp only [bind, Except.bind, hpages]

theorem stream_of_locate {number size : Nat} (h : c.locate number = .ok (size, pages)) :
    c.stream number = readPages c.file c.pageSize pages size := by
  rw [Container.stream, h]
  rfl

theorem names_of_table (hinformation : c.information = .ok information)
    (hnames : information.names = .ok entries) :
    c.streamDirectory.names = .ok (entries.map fun entry => Utf8.decodeLossy entry.name) := by
  simp only [Container.streamDirectory, hinformation, Except.map, hnames]

theorem read_of_table (hinformation : c.information = .ok information)
    (hnames : information.names = .ok entries) (text : String) :
    c.streamDirectory.read text
      = (c.namedStream entries (Utf8.encode text)).mapError (.pdb .namedStream) := by
  simp only [Container.streamDirectory, hinformation, Except.map, hnames]

theorem namedStream_of_find? {name : List UInt8} {entry : NameEntry}
    (hentry : entries.find? (fun entry => entry.name == name) = some entry)
    (hstream : entry.stream ≠ noStream) : c.namedStream entries name = c.stream entry.stream := by
  rw [Container.namedStream, hentry]
  exact if_neg hstream

end Streams

/-! ## The file -/

/-- An information stream, and a stream with the number two. Each of them fits on a page. -/
structure TwoStreams where
  information : List UInt8
  content : List UInt8
  information_ne : information ≠ []
  information_le : information.length ≤ onePage
  content_le : content.length ≤ onePage

namespace TwoStreams

variable (s : TwoStreams)

/-- The directory: three streams, of which the first is empty, and their pages. -/
def directory : List UInt8 :=
  word 3 ++ word 0 ++ word s.information.length ++ word s.content.length ++ word 3 ++ word 4

/-- The number of pages of the file. -/
def pageCount : Nat := 16

/-- The header. -/
def header : List UInt8 :=
  magic ++ word onePage ++ word 0 ++ word pageCount ++ word s.directory.length ++ word 0 ++ word 1

/-- The pages that are in use. -/
def used : List (List UInt8) :=
  [s.header, word 2, s.directory, s.information, s.content]

/-- The pages of the file. -/
def pages : List (List UInt8) :=
  s.used.map fill ++ List.replicate (pageCount - 5) (fill [])

/-- The file. -/
def file : ByteArray :=
  ⟨s.pages.flatten.toArray⟩

/-- The container of the file. -/
def container : Container :=
  ⟨s.file, onePage, pageCount, s.directory.length, [1]⟩

@[simp] theorem length_directory : s.directory.length = 24 := rfl

theorem used_le : ∀ bytes ∈ s.used, bytes.length ≤ onePage := by
  have hheader : s.header.length ≤ onePage := by
    have hmagic : magic.length = 32 := by decide +kernel
    have hsize : onePage = 256 := rfl
    simp only [header, List.length_append, length_word, hmagic]
    omega
  simp only [used, List.forall_mem_cons]
  exact ⟨hheader, by decide, by rw [length_directory]; decide, s.information_le, s.content_le,
    by simp⟩

theorem length_of_mem_pages : ∀ page ∈ s.pages, page.length = onePage := by
  intro page hpage
  rcases List.mem_append.mp hpage with hused | hempty
  · obtain ⟨bytes, hbytes, rfl⟩ := List.mem_map.mp hused
    exact length_fill (s.used_le bytes hbytes)
  · rw [List.eq_of_mem_replicate hempty]
    exact length_fill (Nat.zero_le _)

theorem size_file : s.file.size = headerSize := by
  show s.pages.flatten.length = headerSize
  have hcount : s.pages.length = 16 := rfl
  rw [length_flatten_of_pages s.length_of_mem_pages, hcount]
  decide

/-- What stands on one of the pages in use is read from it. -/
theorem readPages_used {number : Nat} {bytes : List UInt8} (h : s.used[number]? = some bytes) :
    readPages s.file onePage [number] bytes.length = .ok bytes := by
  have hpage : s.pages[number]? = some (fill bytes) := by
    obtain ⟨hnumber, rfl⟩ := List.getElem?_eq_some_iff.mp h
    rw [pages, List.getElem?_append_left (by rwa [List.length_map]), List.getElem?_map, h]
    rfl
  exact readPages_singleton s.length_of_mem_pages hpage (s.used_le _ (List.mem_of_getElem? h))

/-! ## Reading it back -/

/-- The file is opened. -/
theorem ofBytes_file : Container.ofBytes s.file = .ok s.container := by
  obtain ⟨behind, hbehind⟩ : ∃ behind, s.pages.flatten = s.header ++ behind := by
    simp [pages, used, fill]
  have hheader : (s.file.extract 0 headerSize).data.toList = s.header ++ behind := by
    rw [ByteArray.data_extract, Array.toList_extract, List.extract_eq_take_drop]
    show (s.pages.flatten.drop 0).take headerSize = _
    rw [List.drop_zero, List.take_of_length_le (Nat.le_of_eq s.size_file), hbehind]
  have hlong : ¬ s.file.size < headerSize := by
    rw [size_file]
    exact Nat.lt_irrefl _
  have hmagic : magic.isPrefixOf (s.header ++ behind) = true := by
    rw [List.isPrefixOf_iff_prefix]
    simp [header]
  have hrest : (s.header ++ behind).drop magic.length = word onePage ++ (word 0 ++ (word pageCount
      ++ (word 24 ++ (word 0 ++ (word 1 ++ behind))))) := by
    simp [header]
  have hsize : isPageSize onePage = true := by decide +kernel
  have hcount : pagesFor onePage (4 * pagesFor onePage 24) = 1 := by decide
  have hpage : takePages pageCount 1 (word 1 ++ behind) = .ok [1] :=
    takePages_word (by decide) (by decide) behind
  rw [Container.ofBytes]
  simp (disch := decide) only [hlong, hheader, hmagic, hrest, takeWord_word, hsize, hcount, hpage,
    Bool.not_true, Bool.false_eq_true, if_false, bind, Except.bind, pure, Except.pure]
  rfl

/-- The directory is found. -/
theorem directory_container : s.container.directory = .ok s.directory := by
  have hlist : readPages s.file onePage [1] (word 2).length = .ok (word 2) := s.readPages_used rfl
  have hpages : allPages pageCount (word 2) = .ok [2] :=
    takePages_word (by decide) (by decide) []
  have hdirectory : readPages s.file onePage [2] s.directory.length = .ok s.directory :=
    s.readPages_used rfl
  have hcount : 4 * pagesFor onePage s.directory.length = (word 2).length := by
    rw [length_directory, length_word]
    decide
  rw [← hcount] at hlist
  exact (directory_of_pages hlist hpages).trans hdirectory

@[simp] theorem pageSize_container : s.container.pageSize = onePage := rfl

@[simp] theorem pageCount_container : s.container.pageCount = pageCount := rfl

/-- The information stream stands on a page of its own. -/
theorem locate_information :
    s.container.locate informationStream = .ok (s.information.length, [3]) := by
  have hle := s.information_le
  have hpos := List.length_pos_iff.mpr s.information_ne
  have hone : onePage = 256 := rfl
  have hstored : s.information.length ≠ Container.absentSize := by
    rw [Container.absentSize]
    omega
  have hpages : pagesFor onePage s.information.length = 1 := by
    rw [pagesFor_onePage hle, if_neg (by omega)]
  -- the first stream, which is empty, has no pages
  have hbefore : (if 0 = Container.absentSize then 0 else pagesFor onePage 0) + 0 = 0 := by decide
  have hsizes : ∀ rest, skip ((3 - 1 - 1) * 4) (word s.content.length ++ rest) = .ok rest :=
    fun rest => skip_append (length_word _) rest
  have hnone : ∀ rest : List UInt8, skip (0 * 4) rest = .ok rest :=
    skip_zero
  have hnumber : takePages pageCount 1 (word 3 ++ word 4) = .ok [3] :=
    takePages_word (by decide) (by decide) (word 4)
  have hthere : ¬ 3 ≤ 1 := by decide
  rw [Container.locate, directory_container]
  simp (disch := omega) only [directory, List.append_assoc, takeWord_word, informationStream,
    Container.pagesBefore, pageSize_container, pageCount_container, hthere, hstored, hbefore,
    hsizes, hnone, hpages, hnumber, if_false, bind, Except.bind, pure, Except.pure]

/-- The pages of the stream behind the information stream, if it is not empty. -/
def contentPages : List Nat :=
  if s.content.length = 0 then [] else [4]

/-- The other stream stands behind the information stream. -/
theorem locate_content : s.container.locate 2 = .ok (s.content.length, s.contentPages) := by
  have hle := s.content_le
  have hpos := List.length_pos_iff.mpr s.information_ne
  have hinformation := s.information_le
  have hone : onePage = 256 := rfl
  have hstored : s.content.length ≠ Container.absentSize := by
    rw [Container.absentSize]
    omega
  have hbefore : (if 0 = Container.absentSize then 0 else pagesFor onePage 0)
      + ((if s.information.length = Container.absentSize then 0
        else pagesFor onePage s.information.length) + 0) = 1 := by
    rw [if_neg (by decide), if_neg (by rw [Container.absentSize]; omega),
      pagesFor_onePage s.information_le, if_neg (by omega)]
    decide
  have hsizes : ∀ rest : List UInt8, skip ((3 - 2 - 1) * 4) rest = .ok rest :=
    skip_zero
  have hnumber : ∀ rest, skip (1 * 4) (word 3 ++ rest) = .ok rest :=
    fun rest => skip_append (length_word 3) rest
  have hpages : takePages pageCount (pagesFor onePage s.content.length) (word 4)
      = .ok s.contentPages := by
    rw [pagesFor_onePage hle, contentPages]
    split
    · rfl
    · exact takePages_word (by decide) (by decide) []
  have hthere : ¬ 3 ≤ 2 := by decide
  rw [Container.locate, directory_container]
  simp (disch := omega) only [directory, List.append_assoc, takeWord_word,
    Container.pagesBefore, pageSize_container, pageCount_container, hthere, hstored, hbefore,
    hsizes, hnumber, hpages, if_false, bind, Except.bind, pure, Except.pure]

theorem stream_information : s.container.stream informationStream = .ok s.information := by
  have hread : readPages s.file onePage [3] s.information.length = .ok s.information :=
    s.readPages_used rfl
  exact (stream_of_locate s.locate_information).trans hread

theorem stream_content : s.container.stream 2 = .ok s.content := by
  have hread : readPages s.file onePage s.contentPages s.content.length = .ok s.content := by
    rw [contentPages]
    split
    · rename_i hempty
      rw [List.length_eq_zero_iff.mp hempty]
      rfl
    · exact s.readPages_used rfl
  exact (stream_of_locate s.locate_content).trans hread

end TwoStreams

/-! ## A named stream -/

/-- The name and the content of the one named stream. Both fit on a page. -/
structure OneStream where
  name : List UInt8
  content : List UInt8
  zero_notMem : 0 ∉ name
  name_le : name.length ≤ 199
  content_le : content.length ≤ onePage

namespace OneStream

variable (s : OneStream)

/-- The information stream: the buffer with the name, and a table that gives it to the stream with
the number two. -/
def information : List UInt8 :=
  List.replicate informationHead 0 ++ word (s.name.length + 1) ++ (s.name ++ [0])
    ++ (word 1 ++ word 0 ++ word 0 ++ word 0 ++ word 0 ++ word 2)

theorem length_information : s.information.length = s.name.length + 57 := by
  simp only [information, informationHead, List.length_append, List.length_replicate, length_word,
    List.length_singleton]
  omega

/-- The streams of the file. -/
def streams : TwoStreams where
  information := s.information
  content := s.content
  information_ne := List.ne_nil_of_length_pos (by rw [length_information]; omega)
  information_le := by
    have hname := s.name_le
    have hsize : onePage = 256 := rfl
    rw [length_information]
    omega
  content_le := s.content_le

/-- The file. -/
def file : ByteArray := s.streams.file

/-- The container of the file. -/
def container : Container := s.streams.container

/-- The file is opened. -/
theorem ofBytes_file : Container.ofBytes s.file = .ok s.container :=
  s.streams.ofBytes_file

theorem stream_information : s.container.stream informationStream = .ok s.information :=
  s.streams.stream_information

theorem stream_content : s.container.stream 2 = .ok s.content :=
  s.streams.stream_content

/-! ## The name -/

/-- What stands behind the name buffer. -/
def table : List UInt8 :=
  word 1 ++ word 0 ++ word 0 ++ word 0 ++ word 0 ++ word 2

theorem information_container :
    s.container.information = .ok ⟨s.name.length + 1, s.name ++ [0] ++ table⟩ := by
  have hname := s.name_le
  have hhead : ∀ rest, skip informationHead (List.replicate informationHead 0 ++ rest) = .ok rest :=
    fun rest => skip_append (List.length_replicate) rest
  rw [Container.information, stream_information]
  simp (disch := omega) only [information, List.append_assoc, hhead, takeWord_word, bind,
    Except.bind, pure, Except.pure]
  simp [table]

/-- The name ends at the first zero. -/
theorem nameAt_buffer : nameAt (s.name ++ [0]) = .ok s.name := by
  have hname : ∀ byte ∈ s.name, decide (byte ≠ 0) = true := by
    intro byte hbyte
    have hne : byte ≠ 0 := fun heq => s.zero_notMem (heq ▸ hbyte)
    exact decide_eq_true hne
  have hspan : (s.name ++ [0]).span (· ≠ 0) = (s.name, [0]) := by
    rw [List.span_eq_takeWhile_dropWhile, List.takeWhile_append_of_pos hname,
      List.dropWhile_append_of_pos hname]
    simp
  rw [nameAt, hspan]

theorem names_information :
    Information.names ⟨s.name.length + 1, s.name ++ [0] ++ table⟩ = .ok [⟨s.name, 2⟩] := by
  have hbuffer : (s.name ++ [0]).length = s.name.length + 1 := by simp
  have hskip : skip (s.name.length + 1) (s.name ++ [0] ++ table) = .ok table :=
    skip_append hbuffer table
  have htake : (s.name ++ [0] ++ table).take (s.name.length + 1) = s.name ++ [0] :=
    List.take_left' hbuffer
  have hbytes : tableBytes table = .ok (1, word 0 ++ word 2) := by
    have hwords : ∀ rest, skipWords (word 0 ++ rest) = .ok rest := by
      intro rest
      simp (disch := decide) only [skipWords, takeWord_word, skip_zero, Nat.zero_mul, bind,
        Except.bind]
    simp (disch := decide) only [tableBytes, table, List.append_assoc, takeWord_word, hwords, bind,
      Except.bind, pure, Except.pure]
  have hoffset : ¬ (s.name ++ [0]).length < 0 := Nat.not_lt_zero _
  have hnumber : takeWord (word 2) = .ok (2, []) := takeWord_word (by decide) []
  rw [Information.names]
  simp (disch := decide) only [hskip, htake, hbytes, takeEntries, takeWord_word, hnumber, hoffset,
    List.drop_zero, nameAt_buffer, Except.mapError, if_false, bind, Except.bind, pure, Except.pure]

/-- The only name is that of the stream. -/
theorem names_streamDirectory :
    s.container.streamDirectory.names = .ok [Utf8.decodeLossy s.name] :=
  names_of_table s.information_container s.names_information

/-- Under its name the content is read, and under any other nothing. -/
theorem read_streamDirectory (text : String) :
    s.container.streamDirectory.read text
      = if Utf8.encode text = s.name then .ok s.content
        else .error (.pdb .namedStream .streamNameNotFound) := by
  rw [read_of_table s.information_container s.names_information]
  by_cases hname : Utf8.encode text = s.name
  · have hentry : [(⟨s.name, 2⟩ : NameEntry)].find? (fun entry => entry.name == s.name)
        = some ⟨s.name, 2⟩ := by
      simp
    rw [if_pos hname, hname, namedStream_of_find? hentry (show 2 ≠ noStream by decide),
      stream_content]
    rfl
  · rw [if_neg hname, Container.namedStream, List.find?_cons_of_neg (by simpa using Ne.symm hname)]
    rfl

end OneStream

/-! ## A name outside the buffer -/

/-- A file whose name buffer is empty, with a name that begins behind it. -/
def brokenName : TwoStreams where
  information := List.replicate informationHead 0 ++ word 0
    ++ (word 1 ++ word 0 ++ word 0 ++ word 0 ++ word 1 ++ word 2)
  content := []
  information_ne := by decide
  information_le := by decide
  content_le := by decide

/-- The reader breaks down when it lists the names. -/
theorem names_brokenName : brokenName.container.streamDirectory.names = .error .breakdown := by
  have hstream : brokenName.container.stream informationStream = .ok brokenName.information :=
    brokenName.stream_information
  have hinformation : brokenName.container.information
      = .ok ⟨0, word 1 ++ word 0 ++ word 0 ++ word 0 ++ word 1 ++ word 2⟩ := by
    rw [Container.information, hstream]
    rfl
  have hnames : Information.names ⟨0, word 1 ++ word 0 ++ word 0 ++ word 0 ++ word 1 ++ word 2⟩
      = .error .nameOutsideBuffer := rfl
  simp only [Container.streamDirectory, hinformation, Except.map, hnames, TableFault.failure]

end Pdb

end SourceServer
