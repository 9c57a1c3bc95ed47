/-! Searching a text for another one: whether it occurs, and the pieces between its leftmost occurrences
that do not overlap. -/
namespace TextTemplate.Text

/-- One text occurs within another. -/
def isInfix (part : List Char) : List Char → Bool
  | [] => part.isEmpty
  | c :: rest => part.isPrefixOf (c :: rest) || isInfix part rest

/-- A text cut at every occurrence of a separator, after `skip` characters of the last occurrence have
been passed over. -/
def splitSkipping (separator : List Char) : Nat → List Char → List (List Char)
  | _, [] => [[]]
  | skip + 1, _ :: rest => splitSkipping separator skip rest
  | 0, c :: rest =>
    if separator.isPrefixOf (c :: rest) then
      [] :: splitSkipping separator (separator.length - 1) rest
    else match splitSkipping separator 0 rest with
      | [] => [[c]]
      | first :: others => (c :: first) :: others

/-- A text cut at the leftmost occurrences of a separator that do not overlap. -/
def splitAtText (separator cs : List Char) : List (List Char) := splitSkipping separator 0 cs

/-- A text repeated. Nothing repeated any number of times is nothing. -/
def replicate (count : Nat) (cs : List Char) : List Char :=
  if cs.isEmpty then [] else (List.replicate count cs).flatten

end TextTemplate.Text
