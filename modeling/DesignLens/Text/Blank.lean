/-!
# Blanks and lines

Which characters count as blank and which end a line, and what follows from it: trimming, the words
of a text and its lines. A carriage return followed by a newline is one line end.
-/

namespace DesignLens.Text

/-- Characters that trimming removes and that separate words. -/
def isBlank (c : Char) : Bool :=
  let n := c.toNat
  (9 ≤ n && n ≤ 13) || (28 ≤ n && n ≤ 32) || n == 0x85 || n == 0xa0 || n == 0x1680 ||
    (0x2000 ≤ n && n ≤ 0x200a) || n == 0x2028 || n == 0x2029 || n == 0x202f || n == 0x205f ||
    n == 0x3000

/-- Characters that end a line. -/
def isLineEnd (c : Char) : Bool :=
  let n := c.toNat
  (10 ≤ n && n ≤ 13) || (28 ≤ n && n ≤ 30) || n == 0x85 || n == 0x2028 || n == 0x2029

theorem isBlank_of_isLineEnd {c : Char} (h : isLineEnd c = true) : isBlank c = true := by
  simp [isLineEnd, isBlank] at h ⊢
  omega

/-- The text without the characters at its end that satisfy a condition. -/
def dropEndWhile (p : Char → Bool) (cs : List Char) : List Char := (cs.reverse.dropWhile p).reverse

def trimChars (cs : List Char) : List Char := dropEndWhile isBlank (cs.dropWhile isBlank)

def trimRight (s : String) : String := String.ofList (dropEndWhile isBlank s.toList)

def trim (s : String) : String := String.ofList (trimChars s.toList)

/-- The longest stretches without blanks; `word` holds the current one backwards. -/
def wordsFrom (word : List Char) : List Char → List (List Char)
  | [] => if word.isEmpty then [] else [word.reverse]
  | c :: rest =>
    if isBlank c then
      if word.isEmpty then wordsFrom [] rest else word.reverse :: wordsFrom [] rest
    else wordsFrom (c :: word) rest

def words (s : String) : List String := (wordsFrom [] s.toList).map String.ofList

/-- The lines of a text with their ends; `line` holds the current one backwards. -/
def linesFrom (line : List Char) : List Char → List (List Char)
  | [] => if line.isEmpty then [] else [line.reverse]
  | '\r' :: '\n' :: rest => ('\n' :: '\r' :: line).reverse :: linesFrom [] rest
  | c :: rest =>
    if isLineEnd c then (c :: line).reverse :: linesFrom [] rest else linesFrom (c :: line) rest

/-- A line without its end. -/
def dropLineEnd (line : List Char) : List Char :=
  match line.reverse with
  | '\n' :: '\r' :: rest => rest.reverse
  | c :: rest => if isLineEnd c then rest.reverse else line
  | [] => []

/-- The lines of a text, each with the characters that end it. -/
def linesWithEnds (s : String) : List String := (linesFrom [] s.toList).map String.ofList

/-- The lines of a text without their ends. A line end at the end of the text starts no line. -/
def lines (s : String) : List String :=
  (linesFrom [] s.toList).map fun line => String.ofList (dropLineEnd line)

/-- Newlines for line ends of any spelling. -/
def plainNewlines : List Char → List Char
  | [] => []
  | '\r' :: '\n' :: rest => '\n' :: plainNewlines rest
  | c :: rest => (if c = '\r' then '\n' else c) :: plainNewlines rest

end DesignLens.Text
