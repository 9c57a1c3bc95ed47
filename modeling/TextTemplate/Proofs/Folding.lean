import Mathlib.Data.List.DropRight
import TextTemplate.Text.Fold

/-! Folding. A text of several lines is folded line by line, and the folded lines are joined by single
spaces. Only blanks and line feeds come and go: the other characters stay in their order, and two
of them that are neighbours afterwards were neighbours before. A text that is folded stays
as it is when it is folded again. -/
namespace TextTemplate.Text

/-! Trimming -/

section Trimming

variable (p : Char → Bool) {c d : Char} {cs : List Char}

/-- Trimming takes characters of the class away, at the start as many as there are. -/
theorem trimWith_parts (cs : List Char) : ∃ right, cs.dropWhile p = trimWith p cs ++ right ∧
    cs = cs.takeWhile p ++ trimWith p cs ++ right ∧ ∀ c ∈ right, p c := by
  have kept : cs.dropWhile p =
      trimWith p cs ++ ((cs.dropWhile p).reverse.takeWhile p).reverse := by
    rw [trimWith, ← List.reverse_append, List.takeWhile_append_dropWhile, List.reverse_reverse]
  refine ⟨_, kept, ?_, fun c member => ?_⟩
  · rw [List.append_assoc, ← kept, List.takeWhile_append_dropWhile]
  · have := List.all_takeWhile (p := p) (l := (cs.dropWhile p).reverse)
    exact List.all_eq_true.mp this c (List.mem_reverse.mp member)

/-- Neither end of the text is in the class. -/
structure Trimmed (cs : List Char) : Prop where
  first : ∀ c ∈ cs.head?, ¬ p c
  last : ∀ c ∈ cs.getLast?, ¬ p c

theorem dropWhile_of_first (first : ∀ c ∈ cs.head?, ¬ p c) : cs.dropWhile p = cs := by
  cases cs with
  | nil => rfl
  | cons c cs => exact List.dropWhile_cons_of_neg (first c rfl)

theorem dropWhile_reverse_of_last (last : ∀ c ∈ cs.getLast?, ¬ p c) :
    cs.reverse.dropWhile p = cs.reverse := by
  apply dropWhile_of_first
  rw [List.head?_reverse]
  exact last

theorem dropWhile_first (cs : List Char) : ∀ c ∈ (cs.dropWhile p).head?, ¬ p c := by
  intro c starts
  have := List.head?_dropWhile_not p cs
  rw [Option.mem_def.mp starts] at this
  simpa using this

theorem trimWith_trimmed (cs : List Char) : Trimmed p (trimWith p cs) := by
  constructor
  · obtain ⟨right, kept, -⟩ := trimWith_parts p cs
    intro c starts
    refine dropWhile_first p cs c ?_
    rw [kept, List.head?_append, Option.mem_def.mp starts]
    rfl
  · rw [trimWith, List.getLast?_reverse]
    exact dropWhile_first p _

/-- What is trimmed already comes out of the characters of the class that are put around it. -/
theorem trimWith_around {left right : List Char} (trimmed : Trimmed p cs) (before : ∀ c ∈ left, p c)
    (after : ∀ c ∈ right, p c) : trimWith p (left ++ cs ++ right) = cs := by
  have behind : ∀ c ∈ right.reverse, p c := fun c member => after c (List.mem_reverse.mp member)
  rw [trimWith, List.append_assoc, List.dropWhile_append_of_pos before]
  cases cs with
  | nil =>
    rw [List.nil_append, List.dropWhile_eq_nil_iff.mpr after]
    rfl
  | cons e cs =>
    have start : (e :: cs ++ right).dropWhile p = e :: cs ++ right := dropWhile_of_first p trimmed.first
    rw [start, List.reverse_append, List.dropWhile_append_of_pos behind,
      dropWhile_reverse_of_last p trimmed.last, List.reverse_reverse]

/-- Text that neither starts nor ends with a character of the class is trimmed to itself. -/
theorem trimWith_of_trimmed (trimmed : Trimmed p cs) : trimWith p cs = cs := by
  rw [trimWith, dropWhile_of_first p trimmed.first, dropWhile_reverse_of_last p trimmed.last,
    List.reverse_reverse]

/-- Characters of the class at the ends make no difference to trimming. -/
theorem trimWith_ends {left right : List Char} (before : ∀ c ∈ left, p c) (after : ∀ c ∈ right, p c)
    (cs : List Char) : trimWith p (left ++ cs ++ right) = trimWith p cs := by
  obtain ⟨behind, -, parts, trailing⟩ := trimWith_parts p cs
  have leading : ∀ c ∈ cs.takeWhile p, p c := List.all_eq_true.mp List.all_takeWhile
  have whole : left ++ cs ++ right =
      left ++ cs.takeWhile p ++ trimWith p cs ++ (behind ++ right) := by
    nth_rewrite 1 [parts]
    simp only [List.append_assoc]
  rw [whole]
  exact trimWith_around p (trimWith_trimmed p cs) (List.forall_mem_append.mpr ⟨before, leading⟩)
    (List.forall_mem_append.mpr ⟨trailing, after⟩)

end Trimming

/-! Lines -/

section Lines

variable {line rest cs : List Char}

theorem splitAtChar_single {separator : Char} (free : separator ∉ line) :
    splitAtChar separator line = [line] := by
  induction line with
  | nil => rfl
  | cons c line ih =>
    obtain ⟨other, free⟩ : separator ≠ c ∧ separator ∉ line := by simpa using free
    simp only [splitAtChar, other.symm, if_false, ih free]

theorem splitAtChar_ne_nil (separator : Char) (cs : List Char) : splitAtChar separator cs ≠ [] := by
  cases cs with
  | nil => exact List.cons_ne_nil _ _
  | cons c rest =>
    rw [splitAtChar]
    split
    · exact List.cons_ne_nil _ _
    · split <;> exact List.cons_ne_nil _ _

/-- A text is cut at a separator wherever it stands, and what is on either side of it by itself. -/
theorem splitAtChar_append (separator : Char) (first rest : List Char) :
    splitAtChar separator (first ++ separator :: rest) =
      splitAtChar separator first ++ splitAtChar separator rest := by
  induction first with
  | nil => simp [splitAtChar]
  | cons c first ih =>
    rw [List.cons_append, splitAtChar, splitAtChar, ih]
    split
    · rfl
    · cases pieces : splitAtChar separator first with
      | nil => exact absurd pieces (splitAtChar_ne_nil separator first)
      | cons piece others => rfl

theorem splitAtChar_several {separator : Char} (free : separator ∉ line) :
    splitAtChar separator (line ++ separator :: rest) = line :: splitAtChar separator rest := by
  rw [splitAtChar_append, splitAtChar_single free, List.singleton_append]

/-- No piece holds the separator. -/
theorem splitAtChar_pieces (separator : Char) (cs : List Char) :
    ∀ piece ∈ splitAtChar separator cs, separator ∉ piece := by
  induction cs with
  | nil => simp [splitAtChar]
  | cons c rest ih =>
    rw [splitAtChar]
    split
    · simpa using ih
    · rename_i other
      cases pieces : splitAtChar separator rest with
      | nil => simpa using Ne.symm other
      | cons piece others =>
        rw [pieces] at ih
        simpa [Ne.symm other] using ih

/-- Lines that are joined by line feeds are the lines of the text. -/
theorem splitAtChar_intercalate {separator : Char} {pieces : List (List Char)} (some : pieces ≠ [])
    (free : ∀ piece ∈ pieces, separator ∉ piece) :
    splitAtChar separator ([separator].intercalate pieces) = pieces := by
  induction pieces with
  | nil => exact absurd rfl some
  | cons piece others ih =>
    obtain ⟨alone, later⟩ := List.forall_mem_cons.mp free
    cases others with
    | nil => simpa using splitAtChar_single alone
    | cons next others =>
      rw [List.intercalate_cons_cons, List.append_assoc, List.singleton_append,
        splitAtChar_several alone, ih (List.cons_ne_nil next others) later]

/-- What holds of every single line, and of more lines if it holds of those after the first, holds of
every text. -/
theorem lines_induction {motive : List Char → Prop} (single : ∀ line, '\n' ∉ line → motive line)
    (several : ∀ line rest, '\n' ∉ line → motive rest → motive (line ++ '\n' :: rest))
    (cs : List Char) : motive cs := by
  induction size : cs.length using Nat.strongRecOn generalizing cs with
  | _ length ih =>
    by_cases more : '\n' ∈ cs
    · obtain ⟨line, rest, rfl, free⟩ := List.eq_append_cons_of_mem more
      refine several line rest free (ih rest.length ?_ rest rfl)
      simp only [List.length_append, List.length_cons] at size
      omega
    · exact single cs more

/-- Two folded texts as one, with a space between them if neither is empty. -/
def joinFolded (first second : List Char) : List Char :=
  if first = [] then second else if second = [] then first else first ++ ' ' :: second

/-- A single line loses the blanks at its ends. -/
theorem fold_single (free : '\n' ∉ line) : fold line = trimWith isBlank line := by
  rw [fold, foldedLines, splitAtChar_single free]
  by_cases empty : trimWith isBlank line = []
  · simp [empty]
  · simp [empty]

theorem spaced_cons (first : List Char) (others : List (List Char)) :
    [' '].intercalate (first :: others) =
      if others = [] then first else first ++ ' ' :: [' '].intercalate others := by
  cases others with
  | nil => simp
  | cons second others => simp [List.intercalate]

theorem fold_eq_nil : fold cs = [] ↔ foldedLines cs = [] := by
  constructor
  · intro empty
    cases lines : foldedLines cs with
    | nil => rfl
    | cons first others =>
      have member : first ∈ foldedLines cs := lines ▸ List.mem_cons_self
      obtain ⟨-, kept⟩ := List.mem_filter.mp member
      rw [fold, lines, spaced_cons] at empty
      split at empty <;> simp_all
  · intro empty
    rw [fold, empty]
    rfl

/-- The first line is folded by itself. -/
theorem fold_several (free : '\n' ∉ line) :
    fold (line ++ '\n' :: rest) = joinFolded (trimWith isBlank line) (fold rest) := by
  have lines : foldedLines (line ++ '\n' :: rest) =
      if trimWith isBlank line = [] then foldedLines rest
      else trimWith isBlank line :: foldedLines rest := by
    rw [foldedLines, splitAtChar_several free, List.map_cons, List.filter_cons, foldedLines]
    split <;> simp_all
  rw [fold, lines, joinFolded]
  split
  · rfl
  · rw [spaced_cons]
    simp only [fold_eq_nil]
    rfl

end Lines

/-! What folding keeps -/

section Kept

variable {cs left right : List Char} {c : Char}

/-- A character that is neither a blank nor a line feed. -/
def isInk (c : Char) : Bool := !(isBlank c || c = '\n')

/-- The characters of a text without blanks and line feeds. -/
def ink (cs : List Char) : List Char := cs.filter isInk

@[simp] theorem ink_nil : ink [] = [] := rfl

@[simp] theorem ink_append (cs ds : List Char) : ink (cs ++ ds) = ink cs ++ ink ds :=
  List.filter_append cs ds

theorem ink_blanks (blanks : ∀ c ∈ cs, isBlank c) : ink cs = [] := by
  refine List.filter_eq_nil_iff.mpr fun c member => ?_
  simp [isInk, blanks c member]

/-- Blanks and line feeds alone are no ink. -/
theorem ink_eq_nil : ink cs = [] ↔ ∀ c ∈ cs, isBlank c ∨ c = '\n' := by
  refine List.filter_eq_nil_iff.trans (forall₂_congr fun c _ => ?_)
  cases blank : isBlank c <;> simp [isInk, blank]

theorem ink_newline (cs : List Char) : ink ('\n' :: cs) = ink cs := rfl

theorem ink_space (cs : List Char) : ink (' ' :: cs) = ink cs := rfl

/-- Trimming a line takes blanks away at its ends. -/
theorem trimBlanks_parts (line : List Char) : ∃ left right,
    line = left ++ trimWith isBlank line ++ right ∧ ink left = [] ∧ ink right = [] := by
  obtain ⟨right, -, parts, blanks⟩ := trimWith_parts isBlank line
  have leading := List.all_takeWhile (p := isBlank) (l := line)
  exact ⟨_, right, parts, ink_blanks (List.all_eq_true.mp leading), ink_blanks blanks⟩

theorem trimBlanks_ink (line : List Char) : ink (trimWith isBlank line) = ink line := by
  obtain ⟨left, right, parts, leading, trailing⟩ := trimBlanks_parts line
  have inked := congrArg ink parts
  rw [ink_append, ink_append, leading, trailing, List.nil_append, List.append_nil] at inked
  exact inked.symm

theorem joinFolded_ink (first second : List Char) :
    ink (joinFolded first second) = ink first ++ ink second := by
  unfold joinFolded
  split
  · simp [*]
  · split
    · simp [*]
    · rw [ink_append, ink_space]

/-- Folding leaves all characters in their order but blanks and line feeds. -/
theorem fold_ink (cs : List Char) : ink (fold cs) = ink cs := by
  induction cs using lines_induction with
  | single line free => rw [fold_single free, trimBlanks_ink]
  | several line rest free ih =>
    rw [fold_several free, joinFolded_ink, ih, trimBlanks_ink, ink_append, ink_newline]

theorem joinFolded_trimmed {first second : List Char} (left : Trimmed isBlank first)
    (right : Trimmed isBlank second) : Trimmed isBlank (joinFolded first second) := by
  unfold joinFolded
  split
  · exact right
  · split
    · exact left
    · rename_i nonempty other
      constructor
      · cases first with
        | nil => exact absurd rfl nonempty
        | cons c first => exact left.first
      · cases second with
        | nil => exact absurd rfl other
        | cons c second =>
          have ends : (first ++ ' ' :: c :: second).getLast? = (c :: second).getLast? := by
            simp [List.getLast?_cons]
          rw [ends]
          exact right.last

/-- Folded text has no blank at either end. -/
theorem fold_trimmed (cs : List Char) : Trimmed isBlank (fold cs) := by
  induction cs using lines_induction with
  | single line free => exact fold_single free ▸ trimWith_trimmed isBlank line
  | several line rest free ih =>
    exact fold_several free ▸ joinFolded_trimmed (trimWith_trimmed isBlank line) ih

theorem trimWith_free {line : List Char} (free : '\n' ∉ line) : '\n' ∉ trimWith isBlank line := by
  obtain ⟨left, right, parts, -⟩ := trimBlanks_parts line
  rw [parts] at free
  simp only [List.mem_append, not_or] at free
  exact free.1.2

/-- Folded text is a single line. -/
theorem fold_newline_free (cs : List Char) : '\n' ∉ fold cs := by
  induction cs using lines_induction with
  | single line free => exact fold_single free ▸ trimWith_free free
  | several line rest free ih =>
    have first := trimWith_free free
    rw [fold_several free, joinFolded]
    split
    · exact ih
    · split
      · exact first
      · simp [first, ih]

theorem fold_cons (white : isBlank c ∨ c = '\n') (cs : List Char) : fold (c :: cs) = fold cs := by
  by_cases ends : c = '\n'
  · subst ends
    exact @fold_several [] cs List.not_mem_nil
  · have blank : ∀ d ∈ [c], isBlank d := by simpa [ends] using white
    have trims (line : List Char) : trimWith isBlank (c :: line) = trimWith isBlank line := by
      have ends : trimWith isBlank ([c] ++ line ++ []) = _ := @trimWith_ends isBlank [c] [] blank nofun line
      rwa [List.append_nil] at ends
    induction cs using lines_induction with
    | single line free => rw [fold_single free, fold_single (by simp [Ne.symm ends, free]), trims]
    | several line rest free _ =>
      rw [← List.cons_append, fold_several free, fold_several (by simp [Ne.symm ends, free]), trims]

theorem fold_concat (white : isBlank c ∨ c = '\n') (cs : List Char) : fold (cs ++ [c]) = fold cs := by
  induction cs using lines_induction with
  | single line free =>
    by_cases ends : c = '\n'
    · subst ends
      rw [fold_several free, fold_single free, joinFolded]
      split
      · simp_all [fold, foldedLines, splitAtChar, trimWith]
      · rfl
    · have blank : ∀ d ∈ [c], isBlank d := by simpa [ends] using white
      rw [fold_single (by simp [Ne.symm ends, free]), fold_single free]
      exact @trimWith_ends isBlank [] [c] nofun blank line
  | several line rest free ih =>
    rw [List.append_assoc, List.cons_append, fold_several free, fold_several free, ih]

/-- Blanks and line feeds at the ends make no difference to folding. -/
theorem fold_ends (before : ink left = []) (after : ink right = []) :
    fold (left ++ cs ++ right) = fold cs := by
  have leading (cs : List Char) : fold (left ++ cs) = fold cs := by
    rw [ink_eq_nil] at before
    induction left with
    | nil => rfl
    | cons c left ih =>
      obtain ⟨white, later⟩ := List.forall_mem_cons.mp before
      rw [List.cons_append, fold_cons white, ih later]
  have trailing (cs : List Char) : fold (cs ++ right) = fold cs := by
    rw [ink_eq_nil] at after
    induction right generalizing cs with
    | nil => rw [List.append_nil]
    | cons c right ih =>
      obtain ⟨white, later⟩ := List.forall_mem_cons.mp after
      rw [← List.singleton_append, ← List.append_assoc, ih later, fold_concat white]
  rw [trailing, leading]

/-- Other characters at the ends do make a difference. -/
theorem fold_ends_iff :
    fold (left ++ cs ++ right) = fold cs ↔ ink left = [] ∧ ink right = [] := by
  constructor
  · intro same
    have inked := congrArg (List.length ∘ ink) same
    simp only [Function.comp_apply, fold_ink, ink_append, List.length_append] at inked
    exact ⟨List.length_eq_zero_iff.mp (by omega), List.length_eq_zero_iff.mp (by omega)⟩
  · exact fun ⟨before, after⟩ => fold_ends before after

theorem fold_eq_nil_iff_ink : fold cs = [] ↔ ink cs = [] := by
  constructor
  · intro empty
    rw [← fold_ink, empty, ink_nil]
  · intro blank
    have folded : fold (cs ++ [] ++ []) = fold [] := fold_ends blank rfl
    rw [List.append_nil, List.append_nil] at folded
    exact folded

/-- A trimmed line between single spaces is folded to itself. -/
theorem fold_wrapped (trimmed : Trimmed isBlank cs) (free : '\n' ∉ cs) :
    fold (' ' :: (cs ++ [' '])) = cs := by
  have space : ∀ c ∈ [' '], isBlank c := by simp [isBlank]
  rw [fold_single (by simp [free])]
  exact trimWith_around isBlank trimmed space space

/-- Folded text between single spaces is folded to itself. -/
theorem fold_spaced (cs : List Char) : fold (' ' :: (fold cs ++ [' '])) = fold cs :=
  fold_wrapped (fold_trimmed cs) (fold_newline_free cs)

/-- Of two texts with a space between them, characters other than spaces that are neighbours lie in one. -/
theorem neighbours_cases {first second before after : List Char} {x y : Char} (left : x ≠ ' ')
    (right : y ≠ ' ') (here : first ++ ' ' :: second = before ++ x :: y :: after) :
    (∃ more, first = before ++ x :: y :: more) ∨
      ∃ more, before = first ++ ' ' :: more ∧ second = more ++ x :: y :: after := by
  rcases List.append_eq_append_iff.mp here with ⟨more, rfl, later⟩ | ⟨more, rfl, later⟩
  · cases more with
    | nil => exact absurd (List.cons.inj later).1.symm left
    | cons c more =>
      obtain ⟨rfl, rfl⟩ := List.cons.inj later
      exact .inr ⟨more, rfl, rfl⟩
  · match more with
    | [] => exact absurd (List.cons.inj later).1 left
    | [c] => exact absurd (List.cons.inj (List.cons.inj later).2).1 right
    | c :: d :: more =>
      obtain ⟨rfl, behind⟩ := List.cons.inj later
      obtain ⟨rfl, -⟩ := List.cons.inj behind
      exact .inl ⟨more, rfl⟩

/-- Two characters are neighbours in a text, behind the same characters as in another place but for
blanks and line feeds. -/
def Neighbours (x y : Char) (before cs : List Char) : Prop :=
  ∃ before' after, cs = before' ++ x :: y :: after ∧ ink before' = ink before

theorem trimBlanks_neighbours {line before after : List Char} {x y : Char}
    (here : trimWith isBlank line = before ++ x :: y :: after) : Neighbours x y before line := by
  obtain ⟨left, right, parts, leading, -⟩ := trimBlanks_parts line
  refine ⟨left ++ before, after ++ right, ?_, ?_⟩
  · rw [here] at parts
    simpa using parts
  · rw [ink_append, leading, List.nil_append]

/-- Two characters that are neighbours in folded text, neither of them a space, were neighbours before. -/
theorem fold_neighbours {before after : List Char} {x y : Char} (left : x ≠ ' ') (right : y ≠ ' ')
    (here : fold cs = before ++ x :: y :: after) : Neighbours x y before cs := by
  induction cs using lines_induction generalizing before after with
  | single line free => exact trimBlanks_neighbours (fold_single free ▸ here)
  | several line rest free ih =>
    have inFirst : ∀ more, trimWith isBlank line = before ++ x :: y :: more →
        Neighbours x y before (line ++ '\n' :: rest) := by
      intro more here
      obtain ⟨before', after', rfl, inked⟩ := trimBlanks_neighbours here
      exact ⟨before', after' ++ '\n' :: rest, by simp, inked⟩
    have inRest : ∀ more, fold rest = more ++ x :: y :: after →
        ink before = ink line ++ ink more → Neighbours x y before (line ++ '\n' :: rest) := by
      intro more here inked
      obtain ⟨before', after', rfl, same⟩ := ih here
      refine ⟨line ++ '\n' :: before', after', by simp, ?_⟩
      rw [ink_append, ink_newline, same, inked]
    rw [fold_several free, joinFolded] at here
    split at here
    · rename_i empty
      exact inRest before here (by rw [← trimBlanks_ink line, empty]; rfl)
    · split at here
      · exact inFirst after here
      · rcases neighbours_cases left right here with ⟨more, first⟩ | ⟨more, rfl, second⟩
        · exact inFirst more first
        · exact inRest more second (by rw [ink_append, ink_space, trimBlanks_ink])

end Kept

end TextTemplate.Text
