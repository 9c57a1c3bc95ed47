import Mathlib.Data.List.Sort
import TextTemplate.Filter

/-! Splitting and joining. A text is cut at those occurrences of a separator that are met from left to right:
none of them overlaps the one before, and every occurrence that is left out starts within one of them.
There is only one such row of places. No piece holds the separator, and the pieces with the separator
between them are the text again. -/
namespace TextTemplate.Text

/-- The places at which a text occurs in another one, as far as they are met from left to right. None of
these occurrences overlaps the one before, and any other one starts within one of them. -/
structure MetAt (part cs : List Char) (places : List Nat) : Prop where
  occurs : ∀ place ∈ places, part <+: cs.drop place
  apart : places.Pairwise fun earlier later => earlier + part.length ≤ later
  leftmost : ∀ other, part <+: cs.drop other →
    ∃ place ∈ places, place ≤ other ∧ other < place + part.length

namespace MetAt

variable {part cs rest : List Char} {places others : List Nat} {c : Char} {place : Nat}

theorem nonempty (met : MetAt part cs places) : part ≠ [] := by
  rintro rfl
  obtain ⟨place, -, le, lt⟩ := met.leftmost 0 List.nil_prefix
  exact absurd lt (Nat.not_lt.mpr le)

theorem ascending (met : MetAt part cs places) : places.Pairwise (· < ·) := by
  have positive := List.length_pos_iff.mpr met.nonempty
  apply met.apart.imp
  intro earlier later behind
  omega

/-- Of two places the second does not lie within the occurrence at the first. -/
theorem behind (met : MetAt part cs places) {earlier later : Nat} (first : earlier ∈ places)
    (second : later ∈ places) (lt : earlier < later) : earlier + part.length ≤ later := by
  have order := List.pairwise_iff_getElem.mp met.apart
  obtain ⟨i, inside, rfl⟩ := List.getElem_of_mem first
  obtain ⟨j, within, rfl⟩ := List.getElem_of_mem second
  rcases Nat.lt_trichotomy i j with before | rfl | after
  · exact order i j inside within before
  · exact absurd lt (Nat.lt_irrefl _)
  · have reversed := order j i within inside after
    omega

/-- A place is in every row if it is in one, provided that the rows agree before it. -/
theorem mem_of_agree (met : MetAt part cs places) (again : MetAt part cs others)
    (agree : ∀ earlier < place, earlier ∈ others → earlier ∈ places) (member : place ∈ places) :
    place ∈ others := by
  obtain ⟨start, among, le, lt⟩ := again.leftmost place (met.occurs place member)
  rcases Nat.lt_or_eq_of_le le with before | rfl
  · have := met.behind (agree start before among) member before
    omega
  · exact among

/-- There is only one row of places. -/
theorem unique (met : MetAt part cs places) (again : MetAt part cs others) : places = others := by
  apply met.ascending.eq_of_mem_iff again.ascending
  intro place
  induction place using Nat.strongRecOn with
  | _ place ih =>
    constructor
    · exact met.mem_of_agree again fun earlier lt => (ih earlier lt).mpr
    · exact again.mem_of_agree met fun earlier lt => (ih earlier lt).mp

theorem nothing (nonempty : part ≠ []) : MetAt part [] [] := by
  refine ⟨nofun, List.Pairwise.nil, fun other occurs => ?_⟩
  rw [List.drop_nil] at occurs
  exact absurd (List.prefix_nil.mp occurs) nonempty

/-- The places in a text move on with the text when something is put in front of it. -/
theorem moved (met : MetAt part rest places) (front : List Char) :
    (∀ place ∈ places.map (front.length + ·), part <+: (front ++ rest).drop place) ∧
      (places.map (front.length + ·)).Pairwise (fun earlier later => earlier + part.length ≤ later) ∧
      ∀ other, front.length ≤ other → part <+: (front ++ rest).drop other →
        ∃ place ∈ places.map (front.length + ·), place ≤ other ∧ other < place + part.length := by
  have later (place : Nat) : (front ++ rest).drop (front.length + place) = rest.drop place := by
    rw [← List.drop_drop, List.drop_left]
  refine ⟨List.forall_mem_map.mpr fun place member => ?_, ?_, fun other beyond occurs => ?_⟩
  · rw [later]
    exact met.occurs place member
  · apply List.pairwise_map.mpr
    apply met.apart.imp
    intro earlier later behind
    omega
  · obtain ⟨place, rfl⟩ := Nat.exists_eq_add_of_le beyond
    rw [later] at occurs
    obtain ⟨start, member, le, lt⟩ := met.leftmost place occurs
    exact ⟨_, List.mem_map_of_mem member, by omega, by omega⟩

/-- An occurrence at the start is met, and then those behind it. -/
theorem occurrence (met : MetAt part rest places) :
    MetAt part (part ++ rest) (0 :: places.map (part.length + ·)) := by
  obtain ⟨occurs, apart, leftmost⟩ := met.moved part
  constructor
  · exact List.forall_mem_cons.mpr ⟨List.prefix_append part rest, occurs⟩
  · refine List.pairwise_cons.mpr ⟨List.forall_mem_map.mpr fun place _ => ?_, apart⟩
    omega
  · intro other here
    by_cases inside : other < part.length
    · exact ⟨0, List.mem_cons_self, Nat.zero_le _, by omega⟩
    · obtain ⟨place, member, within⟩ := leftmost other (Nat.not_lt.mp inside) here
      exact ⟨place, List.mem_cons_of_mem _ member, within⟩

/-- A character that begins no occurrence is passed over. -/
theorem character (other : ¬ part <+: c :: rest) (met : MetAt part rest places) :
    MetAt part (c :: rest) (places.map (1 + ·)) := by
  obtain ⟨occurs, apart, leftmost⟩ := met.moved [c]
  refine ⟨occurs, apart, fun place here => leftmost place ?_ here⟩
  apply Nat.pos_of_ne_zero
  rintro rfl
  exact other here

end MetAt

section Cutting

variable {separator : List Char}

theorem splitSkipping_drop (separator : List Char) (skip : Nat) (cs : List Char) :
    splitSkipping separator skip cs = splitAtText separator (cs.drop skip) := by
  induction cs generalizing skip with
  | nil => cases skip <;> rfl
  | cons c rest ih =>
    cases skip with
    | zero => rfl
    | succ skip => exact ih skip

theorem splitAtText_occurrence (nonempty : separator ≠ []) (rest : List Char) :
    splitAtText separator (separator ++ rest) = [] :: splitAtText separator rest := by
  obtain ⟨c, later, rfl⟩ := List.exists_cons_of_ne_nil nonempty
  have begins : (c :: later).isPrefixOf (c :: (later ++ rest)) := by
    apply List.isPrefixOf_iff_prefix.mpr
    exact List.prefix_append (c :: later) rest
  have skipped : (later ++ rest).drop later.length = rest := List.drop_left
  rw [List.cons_append, splitAtText, splitSkipping, if_pos begins, splitSkipping_drop,
    List.length_cons, Nat.add_sub_cancel, skipped]

theorem splitAtText_character {c : Char} {rest : List Char} (other : ¬ separator <+: c :: rest) :
    splitAtText separator (c :: rest) = match splitAtText separator rest with
      | [] => [[c]]
      | first :: others => (c :: first) :: others := by
  have begins : ¬ separator.isPrefixOf (c :: rest) := mt List.isPrefixOf_iff_prefix.mp other
  rw [splitAtText, splitSkipping, if_neg begins]
  rfl

/-- A text is nothing, or begins with the separator, or with a character that begins no occurrence of it. -/
theorem splitting_induction {motive : List Char → Prop} (nonempty : separator ≠ [])
    (nothing : motive []) (occurrence : ∀ rest, motive rest → motive (separator ++ rest))
    (character : ∀ c rest, ¬ separator <+: c :: rest → motive rest → motive (c :: rest))
    (cs : List Char) : motive cs := by
  induction size : cs.length using Nat.strongRecOn generalizing cs with
  | _ length ih =>
    subst size
    by_cases begins : separator <+: cs
    · obtain ⟨rest, rfl⟩ := begins
      apply occurrence
      apply ih rest.length _ rest rfl
      have := List.length_pos_iff.mpr nonempty
      rw [List.length_append]
      omega
    · cases cs with
      | nil => exact nothing
      | cons c rest => exact character c rest begins (ih rest.length (Nat.lt_succ_self _) rest rfl)

/-- There is a first piece, and the text begins with it. -/
theorem splitAtText_first (nonempty : separator ≠ []) (cs : List Char) :
    ∃ first others, splitAtText separator cs = first :: others ∧ first <+: cs := by
  induction cs using splitting_induction nonempty with
  | nothing => exact ⟨[], [], rfl, List.nil_prefix⟩
  | occurrence rest _ => exact ⟨[], _, splitAtText_occurrence nonempty rest, List.nil_prefix⟩
  | character c rest other ih =>
    obtain ⟨first, others, pieces, begins⟩ := ih
    refine ⟨c :: first, others, ?_, List.cons_prefix_cons.mpr ⟨rfl, begins⟩⟩
    rw [splitAtText_character other, pieces]

/-- The pieces with the separator between them are the text. -/
theorem intercalate_splitAtText (nonempty : separator ≠ []) (cs : List Char) :
    separator.intercalate (splitAtText separator cs) = cs := by
  induction cs using splitting_induction nonempty with
  | nothing => rfl
  | occurrence rest ih =>
    obtain ⟨first, others, pieces, -⟩ := splitAtText_first nonempty rest
    rw [splitAtText_occurrence nonempty, pieces, List.intercalate_cons_cons, ← pieces, ih,
      List.nil_append]
  | character c rest other ih =>
    obtain ⟨first, others, pieces, -⟩ := splitAtText_first nonempty rest
    rw [pieces] at ih
    rw [splitAtText_character other, pieces, ← ih]
    cases others with
    | nil => simp
    | cons second others => simp

/-- No piece holds the separator. -/
theorem splitAtText_pieces (nonempty : separator ≠ []) (cs : List Char) :
    ∀ piece ∈ splitAtText separator cs, ¬ separator <:+: piece := by
  have empty : ¬ separator <:+: [] := mt List.infix_nil.mp nonempty
  induction cs using splitting_induction nonempty with
  | nothing => simpa [splitAtText, splitSkipping] using nonempty
  | occurrence rest ih =>
    rw [splitAtText_occurrence nonempty]
    exact List.forall_mem_cons.mpr ⟨empty, ih⟩
  | character c rest other ih =>
    obtain ⟨first, others, pieces, begins⟩ := splitAtText_first nonempty rest
    rw [pieces] at ih
    obtain ⟨free, later⟩ := List.forall_mem_cons.mp ih
    rw [splitAtText_character other, pieces]
    refine List.forall_mem_cons.mpr ⟨fun within => ?_, later⟩
    rcases List.infix_cons_iff.mp within with here | inside
    · exact other (here.trans (List.cons_prefix_cons.mpr ⟨rfl, begins⟩))
    · exact free inside

/-- Each piece is a stretch of the text. -/
theorem infix_of_mem_splitAtText (nonempty : separator ≠ []) (cs : List Char) :
    ∀ piece ∈ splitAtText separator cs, piece <:+: cs := by
  induction cs using splitting_induction nonempty with
  | nothing => simp [splitAtText, splitSkipping]
  | occurrence rest ih =>
    rw [splitAtText_occurrence nonempty]
    refine List.forall_mem_cons.mpr ⟨List.nil_infix, fun piece member => ?_⟩
    exact (ih piece member).trans (List.suffix_append separator rest).isInfix
  | character c rest other ih =>
    obtain ⟨first, others, pieces, begins⟩ := splitAtText_first nonempty rest
    rw [pieces] at ih
    rw [splitAtText_character other, pieces]
    refine List.forall_mem_cons.mpr ⟨?_, fun piece member => ?_⟩
    · exact (List.cons_prefix_cons.mpr ⟨rfl, begins⟩).isInfix
    · exact List.infix_cons (ih piece (List.mem_cons_of_mem _ member))

/-- Cutting at a character is cutting at the text that is made of it. -/
theorem splitAtChar_eq (c : Char) (cs : List Char) : splitAtChar c cs = splitAtText [c] cs := by
  induction cs with
  | nil => rfl
  | cons d rest ih =>
    by_cases same : d = c
    · subst same
      rw [splitAtChar, if_pos rfl, ih, ← splitAtText_occurrence (List.cons_ne_nil d []),
        List.singleton_append]
    · have other : ¬ [c] <+: d :: rest := fun here => same (List.cons_prefix_cons.mp here).1.symm
      have onward := splitAtText_character other
      rw [← ih] at onward
      rw [splitAtChar, if_neg same]
      exact onward.symm

/-- There is one piece more than there are places at which the separator is met. -/
theorem splitAtText_places (nonempty : separator ≠ []) (cs : List Char) :
    ∃ places, MetAt separator cs places ∧ (splitAtText separator cs).length = places.length + 1 := by
  induction cs using splitting_induction nonempty with
  | nothing => exact ⟨[], .nothing nonempty, rfl⟩
  | occurrence rest ih =>
    obtain ⟨places, met, count⟩ := ih
    refine ⟨_, met.occurrence, ?_⟩
    rw [splitAtText_occurrence nonempty, List.length_cons, count, List.length_cons, List.length_map]
  | character c rest other ih =>
    obtain ⟨places, met, count⟩ := ih
    obtain ⟨first, others, pieces, -⟩ := splitAtText_first nonempty rest
    refine ⟨_, met.character other, ?_⟩
    rw [pieces] at count
    rw [splitAtText_character other, pieces, List.length_map]
    exact count

end Cutting

end TextTemplate.Text

namespace TextTemplate

variable {value : Value} {separator : String}

/-- Splitting gives the pieces of the text as strings. -/
theorem Filter.split_eq (nonempty : separator ≠ "") (value : Value) :
    split value [.string separator] = .ok (.array
      ((Text.splitAtText separator.toList value.text.toList).map fun piece =>
        .string (String.ofList piece))) :=
  if_neg nonempty

/-- Joining strings puts the separator between them. -/
theorem Filter.join_eq (separator : String) (pieces : List (List Char)) :
    join (.array (pieces.map fun piece => .string (String.ofList piece))) [.string separator] =
      .ok (.string (String.ofList (separator.toList.intercalate pieces))) := by
  have texts : (pieces.map fun piece => Value.string (String.ofList piece)).map Value.text =
      pieces.map String.ofList := List.map_map
  have joined : separator.intercalate (pieces.map String.ofList) =
      String.ofList (separator.toList.intercalate pieces) := by
    apply String.toList_inj.mp
    rw [String.toList_intercalate, String.toList_ofList, List.map_map]
    simp [Function.comp_def]
  rw [← joined, ← texts]
  rfl

/-- Joining the pieces of a text with the separator that it was split at gives the text. No piece holds the
separator, and there is one piece more than there are places at which it is met from left to right. -/
theorem join_split (value : Value) (nonempty : separator ≠ "") :
    ∃ pieces : List String,
      Filter.split value [.string separator] = .ok (.array (pieces.map .string)) ∧
      Filter.join (.array (pieces.map .string)) [.string separator] = .ok (.string value.text) ∧
      (∀ piece ∈ pieces, ¬ separator.toList <:+: piece.toList) ∧
      (∃ places, Text.MetAt separator.toList value.text.toList places) ∧
      ∀ places, Text.MetAt separator.toList value.text.toList places →
        pieces.length = places.length + 1 := by
  have some : separator.toList ≠ [] := mt String.toList_eq_nil_iff.mp nonempty
  obtain ⟨places, met, count⟩ := Text.splitAtText_places some value.text.toList
  refine ⟨(Text.splitAtText separator.toList value.text.toList).map String.ofList, ?_, ?_, ?_,
    ⟨places, met⟩, fun others again => ?_⟩
  · rw [Filter.split_eq nonempty, List.map_map]
    rfl
  · rw [List.map_map]
    refine (Filter.join_eq separator _).trans ?_
    rw [Text.intercalate_splitAtText some, String.ofList_toList]
  · refine List.forall_mem_map.mpr fun piece member => ?_
    rw [String.toList_ofList]
    exact Text.splitAtText_pieces some _ piece member
  · rw [List.length_map, count, met.unique again]

/-- A separator that overlaps itself, at both ends of a text and next to itself. -/
theorem join_split_overlapping :
    "aa" ≠ "" ∧
      Filter.split (.string "aaaébaaaa") [.string "aa"] =
        .ok (.array [.string "", .string "aéb", .string "", .string ""]) ∧
      Filter.join (.array [.string "", .string "aéb", .string "", .string ""]) [.string "aa"] =
        .ok (.string "aaaébaaaa") ∧
      ∀ places, Text.MetAt "aa".toList "aaaébaaaa".toList places → places.length = 3 := by
  have some : "aa" ≠ "" := by decide
  obtain ⟨pieces, cut, joined, -, -, count⟩ := join_split (.string "aaaébaaaa") some
  have known : Filter.split (.string "aaaébaaaa") [.string "aa"] =
      .ok (.array [.string "", .string "aéb", .string "", .string ""]) := by rfl
  have same := Value.array.inj (Except.ok.inj (cut.symm.trans known))
  rw [same] at joined
  refine ⟨some, known, joined, fun places met => ?_⟩
  have length := congrArg List.length same
  rw [List.length_map, count places met] at length
  exact Nat.succ.inj length

end TextTemplate
