import TextTemplate.Proofs.Folding

/-! Folding line by line. Texts that a line feed separates are folded one by one, and a space stands between
the results if there is something on either side; so it does not matter where a text of several lines is
taken apart. A line may end with a carriage return and a line feed, and a text with the end of a line;
folding gives the same as if there were nothing but line feeds between lines. -/
namespace TextTemplate.Text

/-- A line without the carriage return that belongs to its end. -/
def withoutReturn (line : List Char) : List Char :=
  if line.getLast? = some '\r' then line.dropLast else line

/-- What stands between line feeds, as lines. Each piece but the last ends with a line feed; the last one is a
line only if there is anything in it. -/
def linesOf : List (List Char) → List (List Char)
  | [] => []
  | [last] => if last = [] then [] else [last]
  | line :: next :: rest => withoutReturn line :: linesOf (next :: rest)

/-- The lines of a text. A line feed, or a carriage return and a line feed, ends a line, and behind the last
end there is a line only if there is anything. -/
def lines (cs : List Char) : List (List Char) := linesOf (splitAtChar '\n' cs)

section Lines

variable {cs line : List Char}

theorem withoutReturn_trim (line : List Char) :
    trimWith isBlank (withoutReturn line) = trimWith isBlank line := by
  unfold withoutReturn
  split
  · rename_i ends
    have parts := List.dropLast_append_getLast? '\r' ends
    have none : ∀ c ∈ ([] : List Char), isBlank c := by simp
    have blank : ∀ c ∈ ['\r'], isBlank c := by simp [isBlank]
    have trims := trimWith_ends isBlank none blank line.dropLast
    rw [List.nil_append, parts] at trims
    exact trims.symm
  · rfl

/-- The ends of lines do not show in what is folded. -/
theorem foldedLines_eq_lines (cs : List Char) :
    foldedLines cs = ((lines cs).map (trimWith isBlank)).filter fun line => !line.isEmpty := by
  have onFirst (line : List Char) (rest : List (List Char)) :
      ((line :: rest).map (trimWith isBlank)).filter (fun line => !line.isEmpty) =
        ([line].map (trimWith isBlank)).filter (fun line => !line.isEmpty) ++
          (rest.map (trimWith isBlank)).filter fun line => !line.isEmpty := by
    rw [← List.filter_append, ← List.map_append, List.singleton_append]
  unfold foldedLines lines
  induction splitAtChar '\n' cs with
  | nil => rfl
  | cons line rest ih =>
    cases rest with
    | nil =>
      rw [linesOf]
      split
      · rename_i empty
        subst empty
        rfl
      · rfl
    | cons next rest =>
      rw [linesOf, onFirst, onFirst (withoutReturn line), ih, List.map_singleton, List.map_singleton,
        withoutReturn_trim]

theorem joinFolded_assoc (first second third : List Char) :
    joinFolded (joinFolded first second) third = joinFolded first (joinFolded second third) := by
  by_cases one : first = []
  · simp [joinFolded, one]
  · by_cases two : second = []
    · simp [joinFolded, one, two]
    · by_cases three : third = []
      · simp [joinFolded, one, two, three]
      · simp [joinFolded, one, two, three]

/-- A text is folded in parts wherever a line feed separates them. -/
theorem fold_append (first second : List Char) :
    fold (first ++ '\n' :: second) = joinFolded (fold first) (fold second) := by
  induction first using lines_induction with
  | single line free => rw [fold_several free, fold_single free]
  | several line rest free ih =>
    rw [List.append_assoc, List.cons_append, fold_several free, fold_several free, ih, joinFolded_assoc]

/-- Folded text stays as it is when it is folded. -/
theorem fold_fold (cs : List Char) : fold (fold cs) = fold cs := by
  rw [fold_single (fold_newline_free cs), trimWith_of_trimmed isBlank (fold_trimmed cs)]

end Lines

/-- Texts on both sides of a line feed are folded by themselves, and put together with a space between them
unless one of them is blank. Folding uses the lines of a text, whichever way they end. It changes nothing
in what is folded already, leaves no line feed and no blank at either end, and keeps all other
characters in their order. -/
theorem fold_linewise (first second : List Char) :
    fold (first ++ ['\n'] ++ second) =
        (if fold first = [] then fold second
        else if fold second = [] then fold first
        else fold first ++ [' '] ++ fold second) ∧
      fold first = [' '].intercalate
        (((lines first).map (trimWith isBlank)).filter fun line => !line.isEmpty) ∧
      fold (fold first) = fold first ∧
      '\n' ∉ fold first ∧
      (∀ c, c ∈ (fold first).head? ∨ c ∈ (fold first).getLast? → c ≠ ' ' ∧ c ≠ '\t' ∧ c ≠ '\r') ∧
      (fold first).filter (· ∉ [' ', '\t', '\r', '\n']) = first.filter (· ∉ [' ', '\t', '\r', '\n']) := by
  have ink_eq (cs : List Char) : cs.filter (· ∉ [' ', '\t', '\r', '\n']) = ink cs := by
    apply List.filter_congr
    intro c _
    simp [isInk, isBlank, Bool.and_assoc]
  have trimmed := fold_trimmed first
  refine ⟨?_, ?_, fold_fold first, fold_newline_free first, fun c ends => ?_, ?_⟩
  · rw [List.append_assoc, List.singleton_append, fold_append, joinFolded, List.append_assoc,
      List.singleton_append]
  · rw [fold, foldedLines_eq_lines]
  · have visible : ¬ isBlank c := ends.elim (trimmed.first c) (trimmed.last c)
    simpa [isBlank, and_assoc] using visible
  · rw [ink_eq, ink_eq, fold_ink]

end TextTemplate.Text
