import DockCheck.Text
import DockCheck.Text.Printable

/-!
# Quoted texts

Messages show a text between quotes, with an escape for every character that could not be read
otherwise.  The quotes are single ones, unless the text holds a single quote and no double one.
-/

namespace DockCheck.Text

/-- A character between quotes: the quote itself and the backslash get a backslash, and a
character that is not printable becomes a letter escape or its code point in hexadecimal. -/
def quotedChar (quote c : Char) : Text :=
  if c == quote || c == '\\' then ['\\', c]
  else if c == '\t' then "\\t"
  else if c == '\n' then "\\n"
  else if c == '\r' then "\\r"
  else if isPrintable c then [c]
  else if c.toNat < 0x100 then "\\x" ++ hex 2 c.toNat
  else if c.toNat < 0x10000 then "\\u" ++ hex 4 c.toNat
  else "\\U" ++ hex 8 c.toNat

/-- The quote that a text is shown in. -/
def quoteOf (t : Text) : Char := if t.contains '\'' && !t.contains '"' then '"' else '\''

/-- The text between quotes. -/
def quoted (t : Text) : Text :=
  quoteOf t :: (t.flatMap (quotedChar (quoteOf t)) ++ [quoteOf t])

end DockCheck.Text
