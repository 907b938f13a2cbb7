import BrainfuckC.Text.Utf8

/-!
# Encodings

The encodings in which text files are read and written. ASCII and Latin-1 have
one byte for a character, and UTF-8 has them all; the marked form of UTF-8 puts a
byte order mark in front of every file and takes one away when reading.

An encoding is asked for by a label. Labels differ in letter case and in how
their words are set apart, and an encoding goes by several of them.
-/

namespace BrainfuckC

inductive Encoding where
  | utf8
  | markedUtf8
  | ascii
  | latin1
  deriving DecidableEq

namespace Encoding

/-- The name of the codec, as errors give it. -/
def codec : Encoding → Text
  | utf8 | markedUtf8 => "utf-8".toList
  | ascii => "ascii".toList
  | latin1 => "latin-1".toList

/-! ## Labels -/

/-- A label in lower case from a place where `gap` says whether punctuation has
just been left out: every such gap between two words becomes one underscore. -/
def simplifiedFrom (gap : Bool) : Text → Text
  | [] => []
  | c :: t =>
    if c.isAlphanum || c = '.' then
      if gap then '_' :: c.toLower :: simplifiedFrom false t
      else c.toLower :: simplifiedFrom false t
    else simplifiedFrom true t

/-- A label in the form in which labels are compared. -/
def simplified (label : Text) : Text :=
  simplifiedFrom false (label.dropWhile fun c => !(c.isAlphanum || c = '.'))

def ownLabel : Encoding → Text
  | utf8 => "utf_8".toList
  | markedUtf8 => "utf_8_sig".toList
  | ascii => "ascii".toList
  | latin1 => "latin_1".toList

def otherLabels : Encoding → List Text
  | utf8 => ["cp65001", "u8", "utf", "utf8", "utf8_ucs2", "utf8_ucs4"].map String.toList
  | markedUtf8 => []
  | ascii =>
    ["646", "ansi_x3.4_1968", "ansi_x3.4_1986", "ansi_x3_4_1968", "cp367", "csascii", "ibm367",
      "iso646_us", "iso_646.irv_1991", "iso_ir_6", "us", "us_ascii"].map String.toList
  | latin1 =>
    ["8859", "cp819", "csisolatin1", "ibm819", "iso8859", "iso8859_1", "iso_8859_1",
      "iso_8859_1_1987", "iso_ir_100", "l1", "latin", "latin1"].map String.toList

/-- Whether an encoding goes by a label in compared form. In the other labels a
dot may be written for an underscore. -/
def answersTo (label : Text) (e : Encoding) : Bool :=
  label = e.ownLabel || e.otherLabels.contains label ||
    e.otherLabels.contains (label.map fun c => if c = '.' then '_' else c)

def ofLabel? (label : Text) : Option Encoding :=
  [utf8, markedUtf8, ascii, latin1].find? (answersTo (simplified label))

/-! ## One byte for a character -/

/-- Reads each byte below `limit` as the character of that number. The error is
the offset of the first other byte. -/
def widen (limit offset : Nat) : Bytes → Except Nat Text
  | [] => .ok []
  | b :: bs =>
    if b.toNat < limit then (widen limit (offset + 1) bs).map (Char.ofNat b.toNat :: ·)
    else .error offset

/-- Writes each character below `limit` as the byte of that number, if all of
them are. -/
def narrow? (limit : Nat) (t : Text) : Option Bytes :=
  if t.all fun c => decide (c.toNat < limit) then some (t.map fun c => UInt8.ofNat c.toNat)
  else none

/-! ## The byte order mark -/

def byteOrderMark : Bytes := [0xef, 0xbb, 0xbf]

/-- The bytes behind the mark. A file that ends before its mark is complete holds
nothing but the mark. -/
def withoutMark (bs : Bytes) : Bytes :=
  if bs.isPrefixOf byteOrderMark then []
  else if byteOrderMark.isPrefixOf bs then bs.drop byteOrderMark.length
  else bs

/-! ## Reading and writing -/

/-- The text that the bytes encode. The error is the offset of the first byte
that does not belong, counted behind the mark if there is one. -/
def decode : Encoding → Bytes → Except Nat Text
  | utf8, bs => Utf8.decode bs
  | markedUtf8, bs => Utf8.decode (withoutMark bs)
  | ascii, bs => widen 0x80 0 bs
  | latin1, bs => widen 0x100 0 bs

def encode? : Encoding → Text → Option Bytes
  | utf8, t => some (Utf8.encode t)
  | markedUtf8, t => some (byteOrderMark ++ Utf8.encode t)
  | ascii, t => narrow? 0x80 t
  | latin1, t => narrow? 0x100 t

end Encoding

end BrainfuckC
