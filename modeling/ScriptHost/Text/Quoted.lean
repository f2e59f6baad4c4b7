/-
Quoted texts. A text is quoted between apostrophes, or between double quotes when it holds an
apostrophe and no double quote. The backslash and the chosen quote are escaped, the three common
controls by a letter, and every other code point that is not printable by its number.
-/
import ScriptHost.Text.Printable

namespace ScriptHost.Text

/-- The quote around a text. -/
def quoteFor (t : Text) : Char := if t.any (·.is '\'') && !t.any (·.is '"') then '"' else '\''

/-- One code point between `quote`s. -/
def quotePoint (quote : Char) (c : CodePoint) : Text :=
  if c.is quote || c.is '\\' then [CodePoint.ofChar '\\', c]
  else if c.is '\n' then "\\n"
  else if c.is '\r' then "\\r"
  else if c.is '\t' then "\\t"
  else if c.isPrintable then [c]
  else if c.val < 0x100 then "\\x" ++ hex 2 c.val
  else if c.val < 0x10000 then "\\u" ++ hex 4 c.val
  else "\\U" ++ hex 8 c.val

/-- The quoted form of a text. -/
def quoted (t : Text) : Text :=
  let q := quoteFor t
  CodePoint.ofChar q :: (t.flatMap (quotePoint q) ++ [CodePoint.ofChar q])

end ScriptHost.Text
