import Mathlib.Data.String.Basic
import TextTemplate.Source.LineIndex

/-! Offsets in a source. An offset counts bytes, and it can be used to take a part out of the source only
if it lies between two characters. The offsets of parts that are put together are sums, and the
location of such an offset counts the line feeds and the characters before it. -/
namespace TextTemplate

theorem byteLength_eq (cs : List Char) : byteLength cs = String.utf8Len cs := by
  have counted : ∀ (cs : List Char) (size : Nat),
      cs.foldl (fun size c => size + c.utf8Size) size = size + String.utf8Len cs := by
    intro cs
    induction cs with
    | nil => exact fun _ => rfl
    | cons c cs ih =>
      intro size
      rw [List.foldl_cons, ih, String.utf8Len_cons]
      omega
  rw [byteLength, counted, Nat.zero_add]

@[simp] theorem byteLength_nil : byteLength [] = 0 := rfl

@[simp] theorem byteLength_cons (c : Char) (cs : List Char) :
    byteLength (c :: cs) = c.utf8Size + byteLength cs := by
  simp only [byteLength_eq, String.utf8Len_cons, Nat.add_comm]

@[simp] theorem byteLength_append (cs ds : List Char) :
    byteLength (cs ++ ds) = byteLength cs + byteLength ds := by
  simp only [byteLength_eq, String.utf8Len_append]

/-- From one offset to another a source reads as these characters. Both offsets lie between characters. -/
def Slice (source : List Char) (start stop : Nat) (part : List Char) : Prop :=
  ∃ before after, source = before ++ part ++ after ∧ start = byteLength before ∧
    stop = byteLength before + byteLength part

/-- A location with what is counted there: the lines that are complete before it, and the characters of
its own line before it. -/
inductive Marks : List Char → Location → Prop
  | intro (earlier line after : List Char) : '\n' ∉ line →
      (earlier = [] ∨ earlier.getLast? = some '\n') →
      Marks (earlier ++ line ++ after)
        ⟨byteLength (earlier ++ line), earlier.count '\n' + 1, line.length + 1⟩

/-- A span takes a part of a source in, and its ends are locations of the source. -/
structure Covers (source : List Char) (span : Span) (part : List Char) : Prop where
  slice : Slice source span.start.offset span.stop.offset part
  start : Marks source span.start
  stop : Marks source span.stop

namespace Slice

variable {source part : List Char} {start stop : Nat}

theorem le (slice : Slice source start stop part) : start ≤ stop := by
  obtain ⟨before, after, -, rfl, rfl⟩ := slice
  omega

/-- The offsets can be used on the source: they are valid positions, and the part is found between them. -/
theorem extract {source : String} (slice : Slice source.toList start stop part) :
    String.Pos.Raw.Valid source ⟨start⟩ ∧ String.Pos.Raw.Valid source ⟨stop⟩ ∧
      String.Pos.Raw.extract source ⟨start⟩ ⟨stop⟩ = String.ofList part := by
  obtain ⟨before, after, same, rfl, rfl⟩ := slice
  have whole : source = String.ofList (before ++ part ++ after) := by
    rw [← same, String.ofList_toList]
  rw [whole]
  refine ⟨?_, ?_, ?_⟩
  · rw [List.append_assoc]
    exact .mk before (part ++ after) (byteLength_eq before)
  · exact .mk (before ++ part) after (by simp only [byteLength_eq, String.utf8Len_append])
  · simp only [byteLength_eq]
    exact String.extract_of_valid before part after

/-- A part of a part. -/
theorem inner (left right : List Char) (slice : Slice source start stop (left ++ part ++ right)) :
    Slice source (start + byteLength left) (start + byteLength left + byteLength part) part := by
  obtain ⟨before, after, rfl, rfl, rfl⟩ := slice
  refine ⟨before ++ left, right ++ after, ?_, ?_, ?_⟩
  · simp only [List.append_assoc]
  · rw [byteLength_append]
  · rw [byteLength_append]

end Slice

section Lines

variable {start offset number : Nat} {cs line : List Char}

theorem ofSource_newline : Line.ofSource start ('\n' :: cs) =
    let later := Line.ofSource (start + 1) cs
    (⟨start, []⟩, later.1 :: later.2) := rfl

theorem ofSource_cons {c : Char} (other : c ≠ '\n') : Line.ofSource start (c :: cs) =
    let later := Line.ofSource (start + c.utf8Size) cs
    (⟨start, c :: later.1.text⟩, later.2) := by
  simp only [Line.ofSource, other, if_false]

@[simp] theorem ofSource_start (start : Nat) (cs : List Char) :
    (Line.ofSource start cs).1.start = start := by
  cases cs with
  | nil => rfl
  | cons c cs =>
    by_cases ends : c = '\n'
    · rw [ends, ofSource_newline]
    · rw [ofSource_cons ends]

theorem ofSource_later : ∀ next ∈ (Line.ofSource start cs).2, start < next.start := by
  induction cs generalizing start with
  | nil => nofun
  | cons c cs ih =>
    intro next member
    by_cases ends : c = '\n'
    · rw [ends, ofSource_newline] at member
      rcases List.mem_cons.mp member with rfl | member
      · rw [ofSource_start]
        omega
      · have := ih next member
        omega
    · rw [ofSource_cons ends] at member
      have size := c.utf8Size_pos
      have := ih next member
      omega

/-- Characters that end no line belong to the first one. -/
theorem ofSource_append (free : '\n' ∉ line) : Line.ofSource start (line ++ cs) =
    let later := Line.ofSource (start + byteLength line) cs
    (⟨start, line ++ later.1.text⟩, later.2) := by
  induction line generalizing start with
  | nil =>
    have first : (Line.ofSource start cs).1 = ⟨start, (Line.ofSource start cs).1.text⟩ := by
      rw [Line.mk.injEq]
      exact ⟨ofSource_start start cs, rfl⟩
    exact Prod.ext first rfl
  | cons c line ih =>
    obtain ⟨other, free⟩ : '\n' ≠ c ∧ '\n' ∉ line := by simpa using free
    rw [List.cons_append, ofSource_cons other.symm, ih free, byteLength_cons, ← Nat.add_assoc]
    rfl

theorem charsBefore_append (start : Nat) (line rest : List Char) :
    charsBefore (start + byteLength line) start (line ++ rest) = line.length := by
  induction line generalizing start with
  | nil => cases rest <;> simp [charsBefore]
  | cons c line ih =>
    have size := c.utf8Size_pos
    have more := ih (start + c.utf8Size)
    rw [Nat.add_assoc] at more
    simp only [List.cons_append, charsBefore, byteLength_cons, more, List.length_cons]
    rw [if_pos (by omega)]

/-- An offset belongs to the last line that starts at or before it. -/
theorem lineAt_first {first : Line} {after : List Char} :
    LineIndex.lineAt offset number first (Line.ofSource offset after).2 = (number, first) := by
  cases others : (Line.ofSource offset after).2 with
  | nil => rfl
  | cons next rest =>
    have later := ofSource_later next (others ▸ List.mem_cons_self)
    rw [LineIndex.lineAt, if_neg (by omega)]

/-- The line of an offset and the number of the characters before it there. -/
theorem lineAt_counts (before after : List Char) (start number : Nat) :
    ∃ earlier line, before = earlier ++ line ∧ '\n' ∉ line ∧
      (earlier = [] ∨ earlier.getLast? = some '\n') ∧
      let lines := Line.ofSource start (before ++ after)
      let found := LineIndex.lineAt (start + byteLength before) number lines.1 lines.2
      found.1 = number + earlier.count '\n' ∧
        charsBefore (start + byteLength before) found.2.start found.2.text = line.length := by
  induction size : before.length using Nat.strongRecOn generalizing start number before with
  | _ length ih =>
    by_cases ends : '\n' ∈ before
    · -- The first line is complete, and the offset is in one of the others.
      obtain ⟨first, rest, rfl, free⟩ := List.eq_append_cons_of_mem ends
      have shorter : rest.length < length := by
        simp only [List.length_append, List.length_cons] at size
        omega
      obtain ⟨earlier, line, rfl, unbroken, complete, counted, column⟩ :=
        ih rest.length shorter rest (start + byteLength first + 1) (number + 1) rfl
      have width : ('\n' : Char).utf8Size = 1 := rfl
      have offset : start + byteLength (first ++ '\n' :: (earlier ++ line)) =
          start + byteLength first + 1 + byteLength (earlier ++ line) := by
        simp only [byteLength_append, byteLength_cons, width]
        omega
      refine ⟨first ++ '\n' :: earlier, line, by simp, unbroken, .inr ?_, ?_⟩
      · rcases complete with rfl | complete
        · simp
        · simp [List.getLast?_cons, complete]
      · rw [List.append_assoc, List.cons_append, ofSource_append free, ofSource_newline, offset]
        simp only [LineIndex.lineAt, ofSource_start]
        rw [if_pos (by omega)]
        refine ⟨?_, column⟩
        rw [counted, List.count_append, List.count_cons_self, List.count_eq_zero_of_not_mem free]
        omega
    · refine ⟨[], before, rfl, ends, .inl rfl, ?_⟩
      rw [ofSource_append ends]
      simp only [lineAt_first]
      exact ⟨rfl, charsBefore_append start before _⟩

end Lines

/-- The location of an offset between two characters counts the lines that are complete before it, and the
characters of its own line. -/
theorem location_eq (before after : List Char) :
    ∃ earlier line, before = earlier ++ line ∧ '\n' ∉ line ∧
      (earlier = [] ∨ earlier.getLast? = some '\n') ∧
      (LineIndex.ofSource (before ++ after)).location (byteLength before) =
        ⟨byteLength before, earlier.count '\n' + 1, line.length + 1⟩ := by
  obtain ⟨earlier, line, parts, unbroken, complete, counted, column⟩ := lineAt_counts before after 0 1
  have within : min (byteLength before) (byteLength (before ++ after)) = byteLength before := by
    rw [byteLength_append]
    omega
  refine ⟨earlier, line, parts, unbroken, complete, ?_⟩
  rw [Nat.zero_add] at counted column
  simp only [LineIndex.location, LineIndex.ofSource, within, counted, column]
  rw [Nat.add_comm]

/-- The location of an offset between two characters of a source. -/
theorem location_marks (before after : List Char) :
    ((LineIndex.ofSource (before ++ after)).location (byteLength before)).offset = byteLength before ∧
      Marks (before ++ after)
        ((LineIndex.ofSource (before ++ after)).location (byteLength before)) := by
  obtain ⟨earlier, line, rfl, unbroken, complete, located⟩ := location_eq before after
  rw [located]
  exact ⟨rfl, .intro earlier line after unbroken complete⟩

/-- The span between two offsets of a source takes in what is between them. -/
theorem Slice.covers {source part : List Char} {start stop : Nat}
    (slice : Slice source start stop part) :
    ((LineIndex.ofSource source).span start stop).start.offset = start ∧
      ((LineIndex.ofSource source).span start stop).stop.offset = stop ∧
      Covers source ((LineIndex.ofSource source).span start stop) part := by
  have taken := slice
  obtain ⟨before, after, rfl, rfl, rfl⟩ := slice
  obtain ⟨first, starts⟩ := location_marks before (part ++ after)
  obtain ⟨last, stops⟩ := location_marks (before ++ part) after
  rw [← List.append_assoc] at first starts
  rw [byteLength_append] at last stops
  refine ⟨first, last, ?_, starts, stops⟩
  rw [LineIndex.span, first, last]
  exact taken

end TextTemplate
