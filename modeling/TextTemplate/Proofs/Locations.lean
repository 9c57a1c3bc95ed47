import TextTemplate.Proofs.SourceSlices
import TextTemplate.Source.LineStarts

/-! Locations by plain counting. The line of an offset is one more than the number of line feeds before it,
and the column one more than the number of characters behind the last of these. The lines of a source
and the table of their starts both say just that, and so a later offset has a later location. -/
namespace TextTemplate

/-- The location behind a text, with its line feeds counted and the characters behind the last one. -/
def Location.behind (text : List Char) : Location :=
  ⟨byteLength text, text.count '\n' + 1, (text.reverse.takeWhile (· ≠ '\n')).length + 1⟩

/-- A location in an earlier line, or further to the left in the same one. -/
def Location.Precedes (first second : Location) : Prop :=
  first.line < second.line ∨ first.line = second.line ∧ first.column < second.column

section Counting

variable {text earlier line more : List Char}

theorem behind_parts (free : '\n' ∉ line) (complete : earlier = [] ∨ earlier.getLast? = some '\n') :
    Location.behind (earlier ++ line) =
      ⟨byteLength (earlier ++ line), earlier.count '\n' + 1, line.length + 1⟩ := by
  have last : (earlier ++ line).reverse.takeWhile (· ≠ '\n') = line.reverse := by
    have none : ∀ c ∈ line.reverse, decide (c ≠ '\n') = true := by
      simpa using fun c member => ne_of_mem_of_not_mem member free
    rw [List.reverse_append, List.takeWhile_append_of_pos none]
    rcases complete with rfl | complete
    · simp
    · obtain ⟨init, rfl⟩ := List.getLast?_eq_some_iff.mp complete
      simp
  rw [Location.behind, last, List.count_append, List.count_eq_zero_of_not_mem free, List.length_reverse,
    Nat.add_zero]

/-- A text that goes on ends further down or further to the right. -/
theorem behind_precedes (text : List Char) (nonempty : more ≠ []) :
    (Location.behind text).Precedes (Location.behind (text ++ more)) := by
  by_cases feed : '\n' ∈ more
  · have counted := List.count_pos_iff.mpr feed
    left
    simp only [Location.behind, List.count_append]
    omega
  · have grows := List.length_pos_of_ne_nil nonempty
    have none : ∀ c ∈ more.reverse, decide (c ≠ '\n') = true := by
      simpa using fun c member => ne_of_mem_of_not_mem member feed
    refine .inr ⟨?_, ?_⟩
    · simp [Location.behind, List.count_eq_zero_of_not_mem feed]
    · simp only [Location.behind, List.reverse_append, List.takeWhile_append_of_pos none,
        List.length_append, List.length_reverse]
      omega

end Counting

theorem location_behind (before after : List Char) :
    (LineIndex.ofSource (before ++ after)).location (byteLength before) = Location.behind before := by
  obtain ⟨earlier, line, rfl, free, complete, located⟩ := location_eq before after
  rw [located, behind_parts free complete]

namespace LineStarts

variable {starts : List Nat} {wanted low high : Nat}

/-- The first so many of the numbers are at most the wanted one, and the others are greater. -/
structure Divides (starts : List Nat) (wanted count : Nat) : Prop where
  bounded : count ≤ starts.length
  below : ∀ i (inside : i < starts.length), i < count → starts[i] ≤ wanted
  above : ∀ i (inside : i < starts.length), count ≤ i → wanted < starts[i]

/-- What a search may find: the number itself, or the place between the smaller and the greater ones. -/
inductive Found (starts : List Nat) (wanted : Nat) : Except Nat Nat → Prop
  | exact {place : Nat} : starts[place]? = some wanted → Found starts wanted (.ok place)
  | between {place : Nat} : Divides starts wanted place → Found starts wanted (.error place)

theorem search_found (ascending : starts.Pairwise (· < ·)) (bounded : high ≤ starts.length)
    (ordered : low ≤ high)
    (below : ∀ i (inside : i < starts.length), i < low → starts[i] < wanted)
    (above : ∀ i (inside : i < starts.length), high ≤ i → wanted < starts[i]) :
    Found starts wanted (search starts wanted low high bounded) := by
  have sorted := List.pairwise_iff_getElem.mp ascending
  fun_induction search starts wanted low high bounded with
  | case1 low high bounded remains middle inside found =>
    exact .exact (by rw [List.getElem?_eq_getElem (by omega), found])
  | case2 low high bounded remains middle inside other less ih =>
    refine ih (by omega) (fun i within early => ?_) above
    rcases Nat.lt_or_eq_of_le (Nat.le_of_lt_succ early) with before | rfl
    · exact (sorted i middle within (by omega) before).trans less
    · exact less
  | case3 low high bounded remains middle inside other notLess ih =>
    refine ih (by omega) below fun i within late => ?_
    have greater : wanted < starts[middle] := by omega
    rcases Nat.lt_or_eq_of_le late with behind | rfl
    · exact greater.trans (sorted middle i (by omega) within behind)
    · exact greater
  | case4 low high bounded ended =>
    have same : low = high := by omega
    exact .between ⟨by omega, fun i within early => (below i within early).le,
      fun i within late => above i within (by omega)⟩

/-- The place of the last number that is at most the wanted one. -/
theorem Found.lastPlace {count : Nat} {found : Except Nat Nat} (ascending : starts.Pairwise (· < ·))
    (divides : Divides starts wanted (count + 1)) (result : Found starts wanted found) :
    lastPlace? found = some count := by
  obtain ⟨bounded, below, above⟩ := divides
  cases result with
  | @exact place here =>
    obtain ⟨inside, same⟩ := List.getElem?_eq_some_iff.mp here
    have early : place < count + 1 := by
      by_contra late
      have := above place inside (by omega)
      omega
    -- A number further on would be greater than the wanted one.
    have last : ¬ place < count := fun before => by
      have := List.pairwise_iff_getElem.mp ascending place count inside (by omega) before
      have := below count (by omega) (by omega)
      omega
    exact congrArg some (by omega)
  | @between place between =>
    have notMore : ¬ count + 1 < place := fun more => by
      have := above (count + 1) (by have := between.bounded; omega) (by omega)
      have := between.below (count + 1) (by have := between.bounded; omega) more
      omega
    have notLess : ¬ place < count + 1 := fun less => by
      have := below place (by omega) less
      have := between.above place (by omega) (by omega)
      omega
    obtain rfl : place = count + 1 := by omega
    rfl

section Table

variable {cs ds : List Char} {start : Nat}

theorem behindFeeds_append (start : Nat) (cs ds : List Char) :
    behindFeeds start (cs ++ ds) = behindFeeds start cs ++ behindFeeds (start + byteLength cs) ds := by
  induction cs generalizing start with
  | nil => rfl
  | cons c cs ih =>
    simp only [List.cons_append, behindFeeds, ih, byteLength_cons, ← Nat.add_assoc]
    split
    · rfl
    · rfl

theorem behindFeeds_length (start : Nat) (cs : List Char) :
    (behindFeeds start cs).length = cs.count '\n' := by
  induction cs generalizing start with
  | nil => rfl
  | cons c cs ih =>
    rw [behindFeeds]
    split
    · rename_i feed
      rw [feed, List.length_cons, ih, List.count_cons_self]
    · rename_i other
      rw [ih, List.count_cons_of_ne other]

theorem behindFeeds_within (start : Nat) (cs : List Char) :
    ∀ s ∈ behindFeeds start cs, start < s ∧ s ≤ start + byteLength cs := by
  induction cs generalizing start with
  | nil => nofun
  | cons c cs ih =>
    have size := c.utf8Size_pos
    have later : ∀ s ∈ behindFeeds (start + c.utf8Size) cs,
        start < s ∧ s ≤ start + byteLength (c :: cs) := fun s member => by
      have := ih (start + c.utf8Size) s member
      rw [byteLength_cons]
      omega
    rw [behindFeeds]
    split
    · refine List.forall_mem_cons.mpr ⟨?_, later⟩
      rw [byteLength_cons]
      omega
    · exact later

theorem behindFeeds_ascending (start : Nat) (cs : List Char) :
    (behindFeeds start cs).Pairwise (· < ·) := by
  induction cs generalizing start with
  | nil => exact .nil
  | cons c cs ih =>
    rw [behindFeeds]
    split
    · exact List.pairwise_cons.mpr ⟨fun s member => (behindFeeds_within _ cs s member).1, ih _⟩
    · exact ih _

/-- The starts of the lines of a source ascend. -/
theorem starts_ascending (source : String) : (ofSource source).starts.Pairwise (· < ·) :=
  List.pairwise_cons.mpr
    ⟨fun s member => (behindFeeds_within 0 _ s member).1, behindFeeds_ascending 0 _⟩

/-- Up to an offset as many lines start as there are line feeds before it, and one more. -/
theorem starts_divide {source : String} {before after : List Char} (whole : source.toList = before ++ after) :
    Divides (ofSource source).starts (byteLength before) (before.count '\n' + 1) := by
  have parts : (ofSource source).starts =
      (0 :: behindFeeds 0 before) ++ behindFeeds (byteLength before) after := by
    rw [ofSource, whole, behindFeeds_append, Nat.zero_add, List.cons_append]
  have length : (0 :: behindFeeds 0 before).length = before.count '\n' + 1 := by
    rw [List.length_cons, behindFeeds_length]
  rw [parts]
  refine ⟨?_, fun i inside early => ?_, fun i inside late => ?_⟩
  · rw [List.length_append]
    omega
  · have within : i < (0 :: behindFeeds 0 before).length := length ▸ early
    rw [List.getElem_append_left within]
    rcases List.mem_cons.mp (List.getElem_mem within) with same | member
    · rw [same]
      exact Nat.zero_le _
    · simpa using (behindFeeds_within 0 before _ member).2
  · rw [List.getElem_append_right (by omega)]
    exact (behindFeeds_within _ after _ (List.getElem_mem _)).1

/-- The line of an offset starts behind the last line feed before it. -/
theorem start_of_line {source : String} {earlier line after : List Char}
    (whole : source.toList = earlier ++ line ++ after) (free : '\n' ∉ line)
    (complete : earlier = [] ∨ earlier.getLast? = some '\n') :
    (ofSource source).starts[(earlier ++ line).count '\n']? = some (byteLength earlier) := by
  have parts : (ofSource source).starts =
      (0 :: behindFeeds 0 earlier) ++ behindFeeds (byteLength earlier) (line ++ after) := by
    rw [ofSource, whole, List.append_assoc, behindFeeds_append, Nat.zero_add, List.cons_append]
  rw [parts, List.count_append, List.count_eq_zero_of_not_mem free, Nat.add_zero]
  rcases complete with rfl | complete
  · rfl
  · obtain ⟨init, rfl⟩ := List.getLast?_eq_some_iff.mp complete
    have feed : ('\n' : Char).utf8Size = 1 := rfl
    have table : 0 :: behindFeeds 0 (init ++ ['\n']) =
        (0 :: behindFeeds 0 init) ++ [byteLength (init ++ ['\n'])] := by
      simp [behindFeeds_append, behindFeeds, feed]
    rw [table, List.append_assoc, List.getElem?_append_right (by simp [behindFeeds_length])]
    simp [behindFeeds_length]

end Table

end LineStarts

/-- An offset lies between two characters if the source can be cut in two there. -/
theorem between_characters {source : String} {offset : Nat} :
    String.Pos.Raw.IsValid source ⟨offset⟩ ↔
      ∃ before after, source.toList = before ++ after ∧ offset = byteLength before := by
  rw [String.Pos.Raw.isValid_iff_exists_append]
  constructor
  · rintro ⟨first, second, rfl, same⟩
    refine ⟨first.toList, second.toList, String.toList_append, ?_⟩
    rw [byteLength_eq, String.utf8Len_toList]
    exact congrArg String.Pos.Raw.byteIdx same
  · rintro ⟨before, after, whole, rfl⟩
    refine ⟨String.ofList before, String.ofList after, ?_, ?_⟩
    · rw [← String.ofList_append, ← whole, String.ofList_toList]
    · rw [String.rawEndPos, String.utf8ByteSize_ofList, byteLength_eq]

theorem byteLength_toList (source : String) : byteLength source.toList = source.utf8ByteSize := by
  rw [byteLength_eq, String.utf8Len_toList]

namespace LineStarts

/-- A part of a source is taken out if neither end lies inside a character. -/
theorem slice?_eq {source : String} {before part after : List Char}
    (whole : source.toList = before ++ part ++ after) :
    slice? source (byteLength before) (byteLength (before ++ part)) = some (String.ofList part) := by
  have first := between_characters.mpr ⟨before, part ++ after, by rw [whole, List.append_assoc], rfl⟩
  have last := between_characters.mpr ⟨before ++ part, after, whole, rfl⟩
  have ordered : byteLength before ≤ byteLength (before ++ part) := by
    rw [byteLength_append]
    omega
  have slice : Slice source.toList (byteLength before) (byteLength (before ++ part)) part :=
    ⟨before, after, whole, rfl, byteLength_append before part⟩
  obtain ⟨-, -, taken⟩ := slice.extract
  rw [slice?, if_pos ⟨ordered, String.Pos.Raw.isValid_eq_true_iff.mpr first,
    String.Pos.Raw.isValid_eq_true_iff.mpr last⟩, taken]

/-- The search in the table finds the location of every offset that lies between two characters. -/
theorem location?_eq {source : String} {before after : List Char}
    (whole : source.toList = before ++ after) :
    (ofSource source).location? (byteLength before) = some (.behind before) := by
  obtain ⟨earlier, line, rfl, free, complete, -⟩ := location_eq before after
  have within : min (byteLength (earlier ++ line)) (ofSource source).source.utf8ByteSize =
      byteLength (earlier ++ line) := by
    change min _ source.utf8ByteSize = _
    rw [← byteLength_toList, whole, byteLength_append (earlier ++ line)]
    omega
  have line_found : (ofSource source).lineAt? (byteLength (earlier ++ line)) =
      some ((earlier ++ line).count '\n') := by
    refine Found.lastPlace (starts_ascending source) (starts_divide whole) ?_
    exact search_found (starts_ascending source) (Nat.le_refl _) (Nat.zero_le _) nofun
      fun i inside late => absurd inside (by omega)
  have taken : slice? (ofSource source).source (byteLength earlier) (byteLength (earlier ++ line)) =
      some (String.ofList line) := slice?_eq whole
  simp only [location?, within, line_found, start_of_line whole free complete, taken,
    Option.bind_eq_bind, Option.bind_some]
  rw [behind_parts free complete, List.count_append, List.count_eq_zero_of_not_mem free,
    String.length_ofList, Nat.add_zero]

end LineStarts

/-- The location of an offset between two characters is counted in the text before it: the line is one more
than the line feeds there, and the column one more than the characters behind the last of them. The
search in the table of line starts gives the same one, and later offsets have later locations. An offset
beyond the source stands for its end. -/
theorem location_counts (source : String) (offset : Nat)
    (boundary : String.Pos.Raw.IsValid source ⟨min offset source.utf8ByteSize⟩) :
    let location := (LineIndex.ofSource source.toList).location
    location offset =
        .behind (String.Pos.Raw.extract source 0 ⟨min offset source.utf8ByteSize⟩).toList ∧
      (LineStarts.ofSource source).location? offset = some (location offset) ∧
      ∀ later, String.Pos.Raw.IsValid source ⟨later⟩ → offset < later →
        (location offset).Precedes (location later) := by
  obtain ⟨before, after, whole, place⟩ := between_characters.mp boundary
  have size := byteLength_toList source
  have clamped : (LineIndex.ofSource source.toList).location offset = .behind before := by
    rw [← location_behind before after, ← whole, ← place]
    simp only [LineIndex.location, LineIndex.ofSource, size, Nat.min_assoc, Nat.min_self]
  have searched : (LineStarts.ofSource source).location? offset = some (.behind before) := by
    rw [← LineStarts.location?_eq whole, ← place]
    simp only [LineStarts.location?, LineStarts.ofSource, Nat.min_assoc, Nat.min_self]
  have text : String.Pos.Raw.extract source 0 ⟨min offset source.utf8ByteSize⟩ =
      String.ofList before := by
    have slice : Slice source.toList 0 (byteLength before) before :=
      ⟨[], after, whole, rfl, (Nat.zero_add _).symm⟩
    rw [place]
    exact slice.extract.2.2
  refine ⟨by rw [clamped, text, String.toList_ofList], by rw [searched, clamped], ?_⟩
  intro later between further
  obtain ⟨front, rest, whole', rfl⟩ := between_characters.mp between
  have inside : offset ≤ source.utf8ByteSize := by
    have whole_size := congrArg byteLength whole'
    rw [byteLength_append] at whole_size
    omega
  -- The text before the later offset goes on where the text before the earlier one ends.
  have longer : min offset source.utf8ByteSize < byteLength front := by omega
  rw [place] at longer
  obtain ⟨more, rfl, -⟩ | ⟨less, rfl, -⟩ := List.append_eq_append_iff.mp (whole.symm.trans whole')
  · have grows : more ≠ [] := by
      rintro rfl
      simp at longer
    rw [clamped, whole', location_behind]
    exact behind_precedes before grows
  · rw [byteLength_append] at longer
    omega

/-- In the third line, behind a character of two bytes; and an offset beyond the source. -/
theorem location_counts_columns :
    String.Pos.Raw.IsValid "a\n\né b" ⟨min 5 "a\n\né b".utf8ByteSize⟩ ∧
      (LineIndex.ofSource "a\n\né b".toList).location 5 = ⟨5, 3, 2⟩ ∧
      (LineIndex.ofSource "a\n\né b".toList).location 70 = ⟨7, 3, 4⟩ := by
  have inside : String.Pos.Raw.IsValid "a\n\né b" ⟨min 5 "a\n\né b".utf8ByteSize⟩ :=
    String.Pos.Raw.isValid_eq_true_iff.mp (by decide +kernel)
  have beyond : String.Pos.Raw.IsValid "a\n\né b" ⟨min 70 "a\n\né b".utf8ByteSize⟩ :=
    String.Pos.Raw.isValid_eq_true_iff.mp (by decide +kernel)
  refine ⟨inside, (location_counts _ 5 inside).1.trans ?_, (location_counts _ 70 beyond).1.trans ?_⟩
  · decide +kernel
  · decide +kernel

end TextTemplate
