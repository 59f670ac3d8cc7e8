import SourceServer.Path
import SourceServer.Unicode.Utf8

/-!
# Raw texts

Names and paths are rows of bytes to the operating system, and UTF-8 by convention only. They are
compared as bytes and shown as text.

- `RawText`: a name or a path as the operating system has it.
- `RawText.ofText`, `RawText.lossy`: from a text and to a text.
- `Path.raw`: a path that is a text.
-/

namespace SourceServer

/-- A name or a path as the operating system has it. -/
@[ext] structure RawText where
  bytes : List UInt8
deriving DecidableEq

namespace RawText

/-- The bytes of a text. -/
def ofText (text : String) : RawText := ⟨Utf8.encode text⟩

/-- The text of the bytes, with a replacement character for each part that is not UTF-8
(`to_string_lossy`, `display`). -/
def lossy (raw : RawText) : String := Utf8.decodeLossy raw.bytes

end RawText

/-- The bytes of a path. -/
def Path.raw (p : Path) : RawText := .ofText p.text

end SourceServer
