import BrainfuckC.Text.Printable

/-!
# Quoted text

A text in quotes is shown so that its ends and every one of its characters can
be seen. Quotes are single ones, unless the text holds single quotes and no
double ones. Inside, the quote in use and the backslash stand behind a
backslash, line feed, carriage return and tab have their letters, and any other
character that is not printable is written by its number, with two, four or
eight hexadecimal digits.
-/

namespace BrainfuckC

namespace Text

def quoteMark (t : Text) : Char :=
  if t.contains '\'' && !t.contains '"' then '"' else '\''

/-- A number in hexadecimal digits, filled up with zeros on the left. -/
def hexadecimal (width n : Nat) : Text := List.leftpad width '0' (Nat.toDigits 16 n)

/-- A character by its number, in the shortest of the three forms. -/
def numbered (c : Char) : Text :=
  if c.toNat < 0x100 then "\\x".toList ++ hexadecimal 2 c.toNat
  else if c.toNat < 0x10000 then "\\u".toList ++ hexadecimal 4 c.toNat
  else "\\U".toList ++ hexadecimal 8 c.toNat

def escaped (mark c : Char) : Text :=
  if c = mark ∨ c = '\\' then ['\\', c]
  else if c = '\n' then "\\n".toList
  else if c = '\r' then "\\r".toList
  else if c = '\t' then "\\t".toList
  else if isPrintable c then [c]
  else numbered c

def quoted (t : Text) : Text :=
  quoteMark t :: t.flatMap (escaped (quoteMark t)) ++ [quoteMark t]

@[simp] theorem quoted_nil : quoted [] = ['\'', '\''] := rfl

/-- The quote in use never stands in the text without a backslash before it. -/
theorem escaped_mark (mark : Char) : escaped mark mark = ['\\', mark] := by
  simp [escaped]

end Text

end BrainfuckC
