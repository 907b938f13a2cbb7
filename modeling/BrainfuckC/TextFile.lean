import BrainfuckC.FileTree
import BrainfuckC.Text.Encoding
import BrainfuckC.Text.Newline

/-!
# Text files

Reading a text file opens it, looks up the encoding, decodes all of the file and
unifies its line ends, in this order; the first step that fails decides the
error. Writing opens the file first, which makes an empty one, then looks up the
encoding and encodes the text. So a text that cannot be written leaves an empty
file behind, unless the file could not even be opened.

The system takes neither a path nor a label that holds a null character. This is
found out before anything is opened.
-/

namespace BrainfuckC

/-- Why a text file could not be read or written. A null character in the path
or the label keeps the file from being opened at all, and an encoding may be
unknown or lack a character of the text. -/
inductive TextFileError where
  | nullCharacter
  | refused (path : Path) (reason : AccessError)
  | unknownEncoding
  | undecodable (path : Path) (encoding : Encoding) (offset : Nat)
  | unencodable

namespace TextFileError

/-- The error as a report on a file, for those that concern its path or its
content. -/
def fileError? : TextFileError → Option FileError
  | refused path reason => some ⟨path.render, .reported (reason.report path.render)⟩
  | undecodable path encoding offset =>
    some ⟨path.render, .undecodable encoding.codec offset⟩
  | nullCharacter | unknownEncoding | unencodable => none

end TextFileError

namespace TextFile

def hasNull (p : Path) (label : Text) : Bool :=
  label.contains '\x00' || p.components.any (·.contains '\x00')

def decode (p : Path) (label : Text) (content : Bytes) : Except TextFileError Text :=
  match Encoding.ofLabel? label with
  | none => .error .unknownEncoding
  | some encoding =>
    match encoding.decode content with
    | .error offset => .error (.undecodable p encoding offset)
    | .ok text => .ok text.unifyNewlines

/-- The content of a file that holds a text. Line ends stay as they are. -/
def encode (label : Text) (text : Text) : Except TextFileError Bytes :=
  match Encoding.ofLabel? label with
  | none => .error .unknownEncoding
  | some encoding =>
    match encoding.encode? text with
    | none => .error .unencodable
    | some content => .ok content

def read (t : FileTree) (here : Place) (p : Path) (label : Text) : Except TextFileError Text :=
  if hasNull p label then .error .nullCharacter
  else
    match t.read here p with
    | .error reason => .error (.refused p reason)
    | .ok content => decode p label content

/-- Writes a text to a file. The outcome says whether that was possible, and the
tree is given back as it is left. -/
def write (t : FileTree) (here : Place) (p : Path) (label : Text) (text : Text) :
    Except TextFileError Unit × FileTree :=
  if hasNull p label then (.error .nullCharacter, t)
  else
    match t.target here p with
    | .error reason => (.error (.refused p reason), t)
    | .ok place =>
      match encode label text with
      | .error e => (.error e, t.put place (.file []))
      | .ok content => (.ok (), t.put place (.file content))

end TextFile

end BrainfuckC
