/-! Whitespace of any script, and the ways of cutting text at it. Expressions and tag arguments are
separated by any whitespace character; the folding of a tag over several lines knows only
the space, the tab and the carriage return, and has its own module. -/
namespace TextTemplate.Text

/-- A whitespace character of any script: the controls from tab to carriage return, the next-line
control, and every space, line and paragraph separator. -/
def isSpace (c : Char) : Bool :=
  let n := c.toNat
  (9 ≤ n && n ≤ 13) || n == 32 || n == 0x85 || n == 0xA0 || n == 0x1680 ||
    (0x2000 ≤ n && n ≤ 0x200A) || n == 0x2028 || n == 0x2029 || n == 0x202F || n == 0x205F ||
    n == 0x3000

/-- Text without whitespace at its start. -/
def trimStart (cs : List Char) : List Char := cs.dropWhile isSpace

/-- Text without the characters of a class at either end. -/
def trimWith (p : Char → Bool) (cs : List Char) : List Char :=
  ((cs.dropWhile p).reverse.dropWhile p).reverse

/-- Text without whitespace at either end. -/
def trim (cs : List Char) : List Char := trimWith isSpace cs

/-- The whitespace-separated words of a text; `word` holds the one being read, reversed. -/
def wordsFrom (word : List Char) : List Char → List (List Char)
  | [] => if word.isEmpty then [] else [word.reverse]
  | c :: rest =>
    if isSpace c then
      if word.isEmpty then wordsFrom [] rest else word.reverse :: wordsFrom [] rest
    else wordsFrom (c :: word) rest

/-- The whitespace-separated words of a text, none of them empty. -/
def words (cs : List Char) : List (List Char) := wordsFrom [] cs

/-- Text cut at every occurrence of a character. -/
def splitAtChar (separator : Char) : List Char → List (List Char)
  | [] => [[]]
  | c :: rest =>
    if c = separator then [] :: splitAtChar separator rest
    else match splitAtChar separator rest with
      | [] => [[c]]
      | first :: others => (c :: first) :: others

end TextTemplate.Text
