import TextTemplate.Fault
import TextTemplate.Text.Letters
import TextTemplate.Token

/-! The lexemes of an expression. Whitespace separates them and is dropped. A number takes a point
only before a digit and only once, so that `items.0.name` keeps its dots and the tail of
`items.0.1` is the single lexeme `0.1`. -/
namespace TextTemplate.Lexeme

/-- A character that an identifier may start with. -/
def startsIdentifier (c : Char) : Bool := Text.isAlphabetic c || c = '_'

/-- A character that an identifier may go on with. -/
def continuesIdentifier (c : Char) : Bool := startsIdentifier c || c.isDigit

/-- The text up to a closing quote, and what follows the quote. -/
def splitQuote (quote : Char) : List Char → Option (List Char × List Char)
  | [] => none
  | c :: rest =>
    if c = quote then some ([], rest)
    else (splitQuote quote rest).map fun (text, rest) => (c :: text, rest)

/-- The digits of a number with at most one point among them, and what follows. `pointed` says that
the point has been read. -/
def splitNumber (pointed : Bool) : List Char → List Char × List Char
  | [] => ([], [])
  | c :: rest =>
    if c.isDigit then
      let (digits, after) := splitNumber pointed rest
      (c :: digits, after)
    else if c = '.' && !pointed && rest.head?.any Char.isDigit then
      let (digits, after) := splitNumber true rest
      (c :: digits, after)
    else ([], c :: rest)

/-- An operator of one character, or of two when an equals sign follows. -/
def relational (alone orEqual : Operator) (rest : List Char) : Lexeme × List Char :=
  match rest with
  | '=' :: after => (.operator orEqual, after)
  | _ => (.operator alone, rest)

/-- An operator whose second character must be an equals sign. -/
def withEquals (op : Operator) (fault : Fault) (rest : List Char) :
    Except Fault (Lexeme × List Char) :=
  match rest with
  | '=' :: after => .ok (.operator op, after)
  | _ => .error fault

/-- The string after an opening quote. -/
def stringAfter (quote : Char) (rest : List Char) : Except Fault (Lexeme × List Char) :=
  match splitQuote quote rest with
  | some (text, after) => .ok (.string (String.ofList text), after)
  | none => .error .unbalancedQuotes

/-- The number that starts with a digit or a sign. -/
def numberFrom (c : Char) (rest : List Char) : Lexeme × List Char :=
  (.number (String.ofList (c :: (splitNumber false rest).1)), (splitNumber false rest).2)

/-- The identifier that starts with a character. -/
def identifierFrom (c : Char) (rest : List Char) : Lexeme × List Char :=
  (.identifier (String.ofList (c :: rest.takeWhile continuesIdentifier)),
    rest.dropWhile continuesIdentifier)

/-- The lexeme that starts with a character other than whitespace, and what follows it. -/
def next (c : Char) (rest : List Char) : Except Fault (Lexeme × List Char) :=
  if c = '.' then .ok (.dot, rest)
  else if c = '|' then .ok (.pipe, rest)
  else if c = ',' then .ok (.comma, rest)
  else if c = '(' then .ok (.leftParen, rest)
  else if c = ')' then .ok (.rightParen, rest)
  else if c = '=' then withEquals .equal .lonelyEquals rest
  else if c = '!' then withEquals .notEqual .lonelyExclamation rest
  else if c = '<' then .ok (relational .less .lessOrEqual rest)
  else if c = '>' then .ok (relational .greater .greaterOrEqual rest)
  else if isQuote c then stringAfter c rest
  else if c.isDigit || (c = '-' && rest.head?.any Char.isDigit) then .ok (numberFrom c rest)
  else if startsIdentifier c then .ok (identifierFrom c rest)
  else .error (.unexpectedCharacter c)

theorem splitQuote_length (quote : Char) (cs text after : List Char)
    (h : splitQuote quote cs = some (text, after)) : after.length ≤ cs.length := by
  induction cs generalizing text with
  | nil => simp [splitQuote] at h
  | cons c rest ih =>
    rw [splitQuote] at h
    split at h
    · simp only [Option.some.injEq, Prod.mk.injEq] at h
      simp [← h.2]
    · obtain ⟨⟨t, a⟩, found, same⟩ := Option.map_eq_some_iff.1 h
      simp only [Prod.mk.injEq] at same
      have := ih t (same.2 ▸ found)
      simp only [List.length_cons]
      omega

theorem splitNumber_length (pointed : Bool) (cs : List Char) :
    (splitNumber pointed cs).2.length ≤ cs.length := by
  induction cs generalizing pointed with
  | nil => simp [splitNumber]
  | cons c rest ih =>
    rw [splitNumber]
    split
    · have := ih pointed
      simp only [List.length_cons]
      omega
    · split
      · have := ih true
        simp only [List.length_cons]
        omega
      · simp

/-- What follows a lexeme is no longer than the text it was read from. -/
def Shortens (rest : List Char) (read : Except Fault (Lexeme × List Char)) : Prop :=
  ∀ l after, read = .ok (l, after) → after.length ≤ rest.length

theorem shortens_ok {rest : List Char} {read : Lexeme × List Char}
    (le : read.2.length ≤ rest.length) : Shortens rest (.ok read) := by
  intro l after h
  cases h
  exact le

theorem shortens_error {rest : List Char} {fault : Fault} : Shortens rest (.error fault) := by
  intro l after h
  cases h

theorem shortens_withEquals (op : Operator) (fault : Fault) (rest : List Char) :
    Shortens rest (withEquals op fault rest) := by
  unfold withEquals
  split
  · exact shortens_ok (by simp)
  · exact shortens_error

theorem shortens_stringAfter (quote : Char) (rest : List Char) :
    Shortens rest (stringAfter quote rest) := by
  rw [stringAfter]
  split
  · rename_i text after found
    exact shortens_ok (splitQuote_length quote rest text after found)
  · exact shortens_error

theorem shortens_relational (alone orEqual : Operator) (rest : List Char) :
    Shortens rest (.ok (relational alone orEqual rest)) := by
  apply shortens_ok
  unfold relational
  split <;> simp

/-- Something holds of the first lexeme, and of the fault there, if it holds in each of the cases. -/
theorem next_cases {holds : Except Fault (Lexeme × List Char) → Prop} {c : Char} {rest : List Char}
    (bare : ∀ l ∈ [dot, pipe, comma, leftParen, rightParen], holds (.ok (l, rest)))
    (equals : ∀ op, ∀ fault ∈ [Fault.lonelyEquals, .lonelyExclamation], holds (withEquals op fault rest))
    (relation : ∀ alone orEqual, holds (.ok (relational alone orEqual rest)))
    (string : isQuote c → holds (stringAfter c rest))
    (number : c.isDigit = true ∨ c = '-' ∧ rest.head?.any Char.isDigit = true →
      holds (.ok (numberFrom c rest)))
    (word : startsIdentifier c → holds (.ok (identifierFrom c rest)))
    (unexpected : holds (.error (.unexpectedCharacter c))) : holds (next c rest) := by
  unfold next
  refine iteInduction (fun _ => bare _ (by simp)) fun _ => ?_
  refine iteInduction (fun _ => bare _ (by simp)) fun _ => ?_
  refine iteInduction (fun _ => bare _ (by simp)) fun _ => ?_
  refine iteInduction (fun _ => bare _ (by simp)) fun _ => ?_
  refine iteInduction (fun _ => bare _ (by simp)) fun _ => ?_
  refine iteInduction (fun _ => equals _ _ (by simp)) fun _ => ?_
  refine iteInduction (fun _ => equals _ _ (by simp)) fun _ => ?_
  refine iteInduction (fun _ => relation _ _) fun _ => ?_
  refine iteInduction (fun _ => relation _ _) fun _ => ?_
  refine iteInduction string fun _ => ?_
  refine iteInduction (fun starts => number (by simpa using starts)) fun _ => ?_
  exact iteInduction word fun _ => unexpected

theorem shortens_next (c : Char) (rest : List Char) : Shortens rest (next c rest) := by
  apply next_cases
  case bare => exact fun l _ => shortens_ok (Nat.le_refl _)
  case equals => exact fun op fault _ => shortens_withEquals op fault rest
  case relation => exact fun alone orEqual => shortens_relational alone orEqual rest
  case string => exact fun _ => shortens_stringAfter c rest
  case number => exact fun _ => shortens_ok (splitNumber_length _ _)
  case word => exact fun _ => shortens_ok (List.dropWhile_suffix _).length_le
  case unexpected => exact shortens_error

/-- The lexemes of a text, or the first fault in it. -/
def ofText (cs : List Char) : Except Fault (List Lexeme) :=
  match cs with
  | [] => .ok []
  | c :: rest =>
    if Text.isSpace c then ofText rest
    else match _found : next c rest with
      | .error fault => .error fault
      | .ok (l, after) => (ofText after).map (l :: ·)
termination_by cs.length
decreasing_by
  · simp
  · have := shortens_next c rest l after _found
    simp only [List.length_cons]
    omega

section OfText

variable {c : Char} {rest after : List Char} {l : Lexeme} {fault : Fault}

theorem ofText_nil : ofText [] = .ok [] := by rw [ofText]

theorem ofText_space (blank : Text.isSpace c) : ofText (c :: rest) = ofText rest := by
  rw [ofText, if_pos blank]

theorem ofText_fault (visible : ¬ Text.isSpace c) (failed : next c rest = .error fault) :
    ofText (c :: rest) = .error fault := by
  rw [ofText, if_neg visible, failed]

theorem ofText_next (visible : ¬ Text.isSpace c) (read : next c rest = .ok (l, after)) :
    ofText (c :: rest) = (ofText after).map (l :: ·) := by
  rw [ofText, if_neg visible, read]

/-- What holds of a lexeme wherever it is read holds of all lexemes of a text. -/
theorem ofText_all {holds : Lexeme → Prop} {cs : List Char} {ls : List Lexeme}
    (each : ∀ c rest l after, next c rest = .ok (l, after) → holds l) (read : ofText cs = .ok ls) :
    ∀ l ∈ ls, holds l := by
  induction cs using ofText.induct generalizing ls with
  | case1 =>
    rw [ofText_nil] at read
    cases read
    exact List.forall_mem_nil _
  | case2 c rest blank ih =>
    rw [ofText_space blank] at read
    exact ih read
  | case3 c rest visible fault failed =>
    rw [ofText_fault visible failed] at read
    cases read
  | case4 c rest visible l after found ih =>
    rw [ofText_next visible found] at read
    cases later : ofText after with
    | error fault => simp [later, Except.map] at read
    | ok others =>
      simp only [later, Except.map, Except.ok.injEq] at read
      rw [← read]
      exact List.forall_mem_cons.mpr ⟨each c rest l after found, ih later⟩

end OfText

end TextTemplate.Lexeme
