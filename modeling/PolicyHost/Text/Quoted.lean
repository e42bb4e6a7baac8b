import PolicyHost.Text.Printable

/-!
# Quoted text

Texts in messages stand between apostrophes, or between quotation marks when they hold an
apostrophe and no quotation mark. What is not printable is escaped by its number, in the shortest of
the forms with two, four and eight hexadecimal digits.
-/

namespace PolicyHost.Text

/-- A code point as the shortest numbered escape. -/
def numberedEscape (c : CodePoint) : Text :=
  if c.val < 0x100 then "\\x" ++ hexDigits 2 c.val
  else if c.val < 0x10000 then "\\u" ++ hexDigits 4 c.val
  else "\\U" ++ hexDigits 8 c.val

def quotePoint (mark c : CodePoint) : Text :=
  if c = mark ∨ c = '\\' then ['\\', c]
  else if c = '\n' then "\\n"
  else if c = '\r' then "\\r"
  else if c = '\t' then "\\t"
  else if c.isPrintable then [c]
  else numberedEscape c

def quoteMark (t : Text) : CodePoint :=
  if t.contains '\'' && !t.contains '"' then '"' else '\''

def quoted (t : Text) : Text :=
  let mark := quoteMark t
  mark :: t.flatMap (quotePoint mark) ++ [mark]

/-- Octets between marks, with a letter in front. What is not printable in ASCII is escaped. -/
def quotedOctets (octets : Bytes) : Text :=
  let points : Text := octets.map fun b => Fin.ofNat 0x110000 b.toNat
  let mark := quoteMark points
  let point := fun (c : CodePoint) => if c.val < 0x80 then quotePoint mark c else numberedEscape c
  CodePoint.ofChar 'b' :: mark :: points.flatMap point ++ [mark]

end PolicyHost.Text
