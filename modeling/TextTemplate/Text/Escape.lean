/-! The escaping of text for HTML: the five characters that markup is made of become entities. -/
namespace TextTemplate.Text

/-- A character as it stands in escaped text. -/
def escapeChar (c : Char) : List Char :=
  if c = '&' then "&amp;".toList
  else if c = '<' then "&lt;".toList
  else if c = '>' then "&gt;".toList
  else if c = '"' then "&#34;".toList
  else if c = '\x27' then "&#39;".toList
  else [c]

/-- Text escaped for HTML. -/
def escapeHtml (s : String) : String := String.ofList (s.toList.flatMap escapeChar)

/-- Text whose opening angle brackets are spelled out. -/
def spellBrackets (s : String) : String :=
  String.ofList (s.toList.flatMap fun c => if c = '<' then "[lt]".toList else [c])

/-- Text in parentheses. -/
def parenthesize (s : String) : String := "(" ++ s ++ ")"

end TextTemplate.Text
