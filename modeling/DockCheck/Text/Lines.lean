import DockCheck.Text

/-!
# Physical lines

`lines` cuts a text at every line boundary.  The pair of a carriage return and a line feed is one
boundary, and a boundary at the end of the text opens no further line.  `newlines` is the coarser
reading that files go through: it turns carriage returns, alone or before a line feed, into line
feeds and leaves every other boundary as it is.
-/

namespace DockCheck.Text

/-- The characters that end a line: line feed, vertical tab, form feed, carriage return, the
three upper information separators, next line, and the Unicode line and paragraph separators. -/
def isLineBoundary (c : Char) : Bool :=
  let n := c.toNat
  (10 ≤ n && n ≤ 13) || (28 ≤ n && n ≤ 30) || n == 0x85 || n == 0x2028 || n == 0x2029

/-- The lines of a text, without their boundaries. -/
def lines : Text → List Text
  | [] => []
  | '\r' :: '\n' :: rest => [] :: lines rest
  | c :: rest =>
    if isLineBoundary c then [] :: lines rest
    else match lines rest with
      | [] => [[c]]
      | line :: others => (c :: line) :: others

/-- The text with every carriage return, and every pair of a carriage return and a line feed,
replaced by a line feed. -/
def newlines : Text → Text
  | [] => []
  | '\r' :: '\n' :: rest => '\n' :: newlines rest
  | '\r' :: rest => '\n' :: newlines rest
  | c :: rest => c :: newlines rest

end DockCheck.Text
