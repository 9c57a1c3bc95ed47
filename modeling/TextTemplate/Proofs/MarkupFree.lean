import Mathlib.Tactic.SplitIfs
import TextTemplate.Filter.Catalog
import TextTemplate.Proofs.SplitAndJoin
import TextTemplate.Proofs.TableEntries

/-! Text in which no markup begins. Escaped text is free of it, and so are the text of a number and the
text of a value that has none in its strings. The standard filters bring none into what they are
given: whatever they give comes from the value before them, from the few arguments that they
insert, or from digits. -/
namespace TextTemplate

/-- No character of a text opens markup. -/
def MarkupFree (cs : List Char) : Prop := '<' ∉ cs

instance : DecidablePred MarkupFree := fun cs => inferInstanceAs (Decidable ('<' ∉ cs))

namespace MarkupFree

variable {cs ds : List Char}

theorem nil : MarkupFree [] := List.not_mem_nil

theorem append (first : MarkupFree cs) (second : MarkupFree ds) : MarkupFree (cs ++ ds) := by
  intro opens
  rcases List.mem_append.mp opens with here | there
  · exact first here
  · exact second there

theorem cons {c : Char} (head : c ≠ '<') (rest : MarkupFree cs) : MarkupFree (c :: cs) := by
  intro opens
  rcases List.mem_cons.mp opens with here | there
  · exact head here.symm
  · exact rest there

/-- What a text is made of is as free as the text. -/
theorem of_subset (free : MarkupFree cs) (part : ds ⊆ cs) : MarkupFree ds := fun opens =>
  free (part opens)

theorem append_iff : MarkupFree (cs ++ ds) ↔ MarkupFree cs ∧ MarkupFree ds := by
  constructor
  · intro free
    constructor
    · exact free.of_subset (List.subset_append_left cs ds)
    · exact free.of_subset (List.subset_append_right cs ds)
  · rintro ⟨first, second⟩
    exact first.append second

theorem head_ne {c : Char} (free : MarkupFree (c :: cs)) : c ≠ '<' := by
  rintro rfl
  exact free List.mem_cons_self

theorem tail {c : Char} (free : MarkupFree (c :: cs)) : MarkupFree cs :=
  free.of_subset (List.subset_cons_self c cs)

theorem flatMap {α : Type} {l : List α} {f : α → List Char} (each : ∀ a ∈ l, MarkupFree (f a)) :
    MarkupFree (l.flatMap f) := by
  intro opens
  obtain ⟨a, member, here⟩ := List.mem_flatMap.mp opens
  exact each a member here

theorem intercalate {separator : List Char} {pieces : List (List Char)}
    (between : MarkupFree separator) (each : ∀ piece ∈ pieces, MarkupFree piece) :
    MarkupFree (separator.intercalate pieces) := by
  induction pieces with
  | nil => exact nil
  | cons piece rest ih =>
    have first := each piece (by simp)
    have others := ih fun piece member => each piece (by simp [member])
    cases rest with
    | nil => simpa [List.intercalate] using first
    | cons next later =>
      rw [List.intercalate_cons_cons]
      exact (first.append between).append others

end MarkupFree

/-! Characters and their case -/

namespace Text

/-- No character is escaped to one that opens markup. -/
theorem escapeChar_free (c : Char) : MarkupFree (escapeChar c) := by
  unfold escapeChar
  split_ifs with amp opening
  · decide
  · decide
  · decide
  · decide
  · decide
  · exact .cons opening .nil

theorem escapeHtml_free (s : String) : MarkupFree (escapeHtml s).toList := by
  rw [escapeHtml, String.toList_ofList]
  exact .flatMap fun c _ => escapeChar_free c

theorem ofNat_ne_bracket {n : Nat} (other : n ≠ 60) : Char.ofNat n ≠ '<' := by
  intro same
  by_cases valid : n.isValidChar
  · rw [Char.ofNat, dif_pos valid] at same
    exact other (congrArg Char.toNat same)
  · rw [Char.ofNat, dif_neg valid] at same
    exact absurd same (by decide)

/-- A table of cases without an opening bracket among its images gives none for another character. -/
theorem mapCase_free {runs : List CaseRun} {expansions : List (Nat × List Nat)}
    (runs_above : ∀ r ∈ runs, 60 < r.target) (expansions_free : ∀ e ∈ expansions, 60 ∉ e.2)
    {c : Char} (other : c ≠ '<') : MarkupFree (mapCase runs expansions c) := by
  unfold mapCase
  split
  · rename_i images found
    obtain ⟨before, after, rfl, -⟩ := List.lookup_eq_some_iff.mp found
    have free := expansions_free (c.toNat, images) (by simp)
    intro opens
    obtain ⟨n, member, same⟩ := List.mem_map.mp opens
    exact ofNat_ne_bracket (fun code => free (code ▸ member)) same
  · refine .cons ?_ .nil
    cases found : runs.findSome? (·.map? c.toNat) with
    | none => exact other
    | some n =>
      obtain ⟨r, member, image⟩ := List.exists_of_findSome?_eq_some found
      have above := runs_above r member
      unfold CaseRun.map? at image
      split at image
      · cases image
        exact ofNat_ne_bracket (by omega)
      · cases image

theorem ascii_case : ∀ n < 128, n ≠ 60 →
    (Char.ofNat n).toUpper ≠ '<' ∧ (Char.ofNat n).toLower ≠ '<' := by
  decide +kernel

theorem toNat_ne_bracket {c : Char} (other : c ≠ '<') : c.toNat ≠ 60 := by
  intro same
  rw [← Char.ofNat_toNat c, same] at other
  exact other rfl

theorem upperChar_free {c : Char} (other : c ≠ '<') : MarkupFree (upperChar c) := by
  unfold upperChar
  by_cases ascii : c.toNat < 128
  · have upper := (ascii_case c.toNat ascii (toNat_ne_bracket other)).1
    rw [Char.ofNat_toNat] at upper
    rw [if_pos ascii]
    exact .cons upper .nil
  · rw [if_neg ascii]
    exact mapCase_free (by decide +kernel) (by decide +kernel) other

theorem lowerChar_free {c : Char} (other : c ≠ '<') : MarkupFree (lowerChar c) := by
  unfold lowerChar
  by_cases ascii : c.toNat < 128
  · have lower := (ascii_case c.toNat ascii (toNat_ne_bracket other)).2
    rw [Char.ofNat_toNat] at lower
    rw [if_pos ascii]
    exact .cons lower .nil
  · rw [if_neg ascii]
    exact mapCase_free (by decide +kernel) (by decide +kernel) other

theorem ne_of_free {cs : List Char} {c : Char} (free : MarkupFree cs) (member : c ∈ cs) :
    c ≠ '<' := fun same => free (same ▸ member)

theorem upper_free {s : String} (free : MarkupFree s.toList) : MarkupFree (upper s).toList := by
  rw [upper, String.toList_ofList]
  exact .flatMap fun c member => upperChar_free (ne_of_free free member)

theorem lowerFrom_free {before cs : List Char} (free : MarkupFree cs) :
    MarkupFree (lowerFrom before cs) := by
  induction cs generalizing before with
  | nil => exact free
  | cons c rest ih =>
    have later := @ih (c :: before) free.tail
    unfold lowerFrom
    split
    · rename_i same
      cases same
    · rename_i rest' same
      cases same
      refine .cons ?_ later
      split <;> decide
    · rename_i c' rest' _ same
      cases same
      exact (lowerChar_free free.head_ne).append later

theorem lower_free {s : String} (free : MarkupFree s.toList) : MarkupFree (lower s).toList := by
  rw [lower, String.toList_ofList]
  exact lowerFrom_free free

theorem capitalize_free {s : String} (free : MarkupFree s.toList) :
    MarkupFree (capitalize s).toList := by
  unfold capitalize
  split
  · exact .nil
  · rename_i c rest written
    rw [written] at free
    rw [String.toList_ofList]
    exact (upperChar_free free.head_ne).append free.tail

/-! Pieces of text -/

theorem trim_free {cs : List Char} (free : MarkupFree cs) : MarkupFree (trim cs) := by
  refine free.of_subset fun c member => ?_
  have inner := List.dropWhile_subset _ (List.mem_reverse.mp member)
  exact List.dropWhile_subset _ (List.mem_reverse.mp inner)

/-- Cutting a text at another one leaves out characters and brings none in. -/
theorem splitAtText_free {separator cs : List Char} (nonempty : separator ≠ []) (free : MarkupFree cs) :
    ∀ piece ∈ splitAtText separator cs, MarkupFree piece :=
  fun piece member => free.of_subset (infix_of_mem_splitAtText nonempty cs piece member).subset

theorem replicate_free {count : Nat} {cs : List Char} (free : MarkupFree cs) :
    MarkupFree (replicate count cs) := by
  unfold replicate
  split
  · exact .nil
  · intro opens
    obtain ⟨piece, member, here⟩ := List.mem_flatten.mp opens
    rw [List.eq_of_mem_replicate member] at here
    exact free here

end Text

/-! Numbers -/

theorem digit_ne_bracket {c : Char} (digit : c.isDigit) : c ≠ '<' := by
  intro same
  subst same
  exact absurd digit (by decide)

theorem nat_free (n : Nat) : MarkupFree (toString n).toList := by
  intro opens
  rw [Nat.toString_eq_ofList_toDigits, String.toList_ofList] at opens
  exact digit_ne_bracket (Nat.isDigit_of_mem_toDigits (by decide) (by decide) opens) rfl

theorem int_free (i : Int) : MarkupFree (toString i).toList := by
  cases i with
  | ofNat n => exact nat_free n
  | negSucc n =>
    have digits := nat_free (n + 1)
    have written : toString (Int.negSucc n) = "-" ++ toString (n + 1) := rfl
    rw [written, String.toList_append]
    exact .append (by decide) digits

theorem zeros_free (n : Nat) : MarkupFree (List.replicate n '0') := fun opens =>
  absurd (List.eq_of_mem_replicate opens) (by decide)

namespace Double

theorem positional_free {digits : List Char} (free : MarkupFree digits) (exponent : Int) :
    MarkupFree (positional digits exponent) := by
  unfold positional
  split
  · exact (free.append (zeros_free _)).append (by decide)
  · dsimp only
    split
    · exact (free.of_subset (List.take_subset _ _)).append
        (.cons (by decide) (free.of_subset (List.drop_subset _ _)))
    · exact .append (.cons (by decide) (.cons (by decide) (zeros_free _))) free

theorem scientific_free {digits : List Char} (free : MarkupFree digits) (exponent : Int) :
    MarkupFree (scientific digits exponent) := by
  unfold scientific
  refine .append ?_ (.cons (by decide) (.cons ?_ (nat_free _)))
  · split
    · rename_i first second rest
      exact .cons free.head_ne (.cons (by decide) free.tail)
    · exact free
  · split <;> decide

theorem text_free (d : Double) : MarkupFree d.text.toList := by
  unfold text
  rw [String.toList_ofList]
  have magnitude : MarkupFree (if d.significand = 0 then ['0', '.', '0']
      else
        let decimal := d.shortest
        let digits := (toString decimal.digits).toList
        let exponent := decimal.exponent + digits.length - 1
        if positionalExponents.1 ≤ exponent ∧ exponent ≤ positionalExponents.2 then
          positional digits decimal.exponent
        else scientific digits exponent) := by
    split
    · decide
    · dsimp only
      split
      · exact positional_free (nat_free _) _
      · exact scientific_free (nat_free _) _
  split
  · exact .cons (by decide) magnitude
  · exact magnitude

end Double

theorem Number.text_free (n : Number) : MarkupFree n.text.toList := by
  cases n with
  | integer i => exact int_free i
  | double d => exact d.text_free

/-! Values -/

/-- No string of a value opens markup, at any depth. -/
inductive Value.Free : Value → Prop where
  | null : Free .null
  | bool (b : Bool) : Free (.bool b)
  | number (n : Number) : Free (.number n)
  | string {s : String} (free : MarkupFree s.toList) : Free (.string s)
  | array {items : List Value} (each : ∀ item ∈ items, Free item) : Free (.array items)
  | object {members : Members} (keys : ∀ entry ∈ Table.toList members, MarkupFree entry.1.toList)
      (each : ∀ entry ∈ Table.toList members, Free entry.2) : Free (.object members)

namespace Value

theorem hexDigit_ne_bracket : ∀ n < 16, hexDigit n ≠ '<' := by decide

theorem quotedChar_free {c : Char} (other : c ≠ '<') : MarkupFree (quotedChar c) := by
  unfold quotedChar
  split
  · decide
  · decide
  · decide
  · decide
  · decide
  · decide
  · decide
  · split
    · rename_i control
      have high := hexDigit_ne_bracket (c.toNat / 16) (by omega)
      have low := hexDigit_ne_bracket (c.toNat % 16) (by omega)
      exact .cons (by decide) (.cons (by decide) (.cons (by decide) (.cons (by decide)
        (.cons high (.cons low .nil)))))
    · exact .cons other .nil

theorem quoted_free {s : String} (free : MarkupFree s.toList) : MarkupFree (quoted s).toList := by
  rw [quoted, String.toList_ofList]
  exact .append (.cons (by decide)
    (.flatMap fun c member => quotedChar_free (Text.ne_of_free free member))) (by decide)

/-- A text between quotes is free exactly if the text is. -/
theorem quoted_free_iff {s : String} : MarkupFree (quoted s).toList ↔ MarkupFree s.toList := by
  constructor
  · intro free opens
    rw [quoted, String.toList_ofList] at free
    have here : '<' ∈ s.toList.flatMap quotedChar := List.mem_flatMap.mpr ⟨'<', opens, by decide⟩
    exact free (by simp [here])
  · exact quoted_free

theorem jsonItems_free_iff {items : List Value} :
    MarkupFree (jsonItems items).toList ↔ ∀ item ∈ items, MarkupFree item.json.toList := by
  have comma : MarkupFree ",".toList := by decide
  induction items with
  | nil =>
    constructor
    · exact fun _ => nofun
    · exact fun _ => .nil
  | cons item rest ih =>
    simp only [List.forall_mem_cons, ← ih]
    cases rest with
    | nil =>
      have nothing : MarkupFree "".toList := by decide
      simp only [jsonItems, nothing, and_true]
    | cons next later =>
      simp only [jsonItems, String.toList_append, MarkupFree.append_iff, comma, and_true]

theorem jsonMembers_free_iff {low : Option String} {members : Entries Value low} :
    MarkupFree (jsonMembers members).toList ↔
      ∀ entry ∈ Table.toList members, MarkupFree entry.1.toList ∧ MarkupFree entry.2.json.toList := by
  have comma : MarkupFree ",".toList := by decide
  have colon : MarkupFree ":".toList := by decide
  induction members with
  | nil =>
    constructor
    · exact fun _ => nofun
    · exact fun _ => .nil
  | cons key value above rest ih =>
    simp only [Table.toList, List.forall_mem_cons, ← ih]
    cases rest with
    | nil =>
      have nothing : MarkupFree "".toList := by decide
      simp only [jsonMembers, String.toList_append, MarkupFree.append_iff, quoted_free_iff, colon,
        nothing, and_true]
    | cons next later =>
      simp only [jsonMembers, String.toList_append, MarkupFree.append_iff, quoted_free_iff, colon,
        comma, and_true]

/-- The interchange text of a value is as free as its strings. -/
theorem Free.json {v : Value} (free : v.Free) : MarkupFree v.json.toList := by
  induction free with
  | null => decide
  | bool b => cases b <;> decide
  | number n => exact n.text_free
  | string free => exact quoted_free free
  | array each ih =>
    simp only [Value.json, String.toList_append]
    have inner := jsonItems_free_iff.mpr ih
    exact (MarkupFree.append (by decide) inner).append (by decide)
  | object keys each ih =>
    simp only [Value.json, String.toList_append]
    have inner := jsonMembers_free_iff.mpr fun entry member => ⟨keys entry member, ih entry member⟩
    exact (MarkupFree.append (by decide) inner).append (by decide)

theorem free_of_json : ∀ v : Value, MarkupFree v.json.toList → v.Free
  | .null, _ => .null
  | .bool b, _ => .bool b
  | .number n, _ => .number n
  | .string _, free => .string (quoted_free_iff.mp free)
  | .array items, free => by
    have inner : MarkupFree (jsonItems items).toList := by
      simp only [Value.json, String.toList_append, MarkupFree.append_iff] at free
      exact free.1.2
    have each := jsonItems_free_iff.mp inner
    exact .array fun item member => free_of_json item (each item member)
  | .object members, free => by
    have inner : MarkupFree (jsonMembers members).toList := by
      simp only [Value.json, String.toList_append, MarkupFree.append_iff] at free
      exact free.1.2
    have each := jsonMembers_free_iff.mp inner
    exact .object (fun entry member => (each entry member).1) fun entry member =>
      free_of_json entry.2 (each entry member).2
termination_by v => sizeOf v
decreasing_by
  · have := List.sizeOf_lt_of_mem member
    simp only [Value.array.sizeOf_spec]
    omega
  · have := Table.sizeOf_lt_of_mem member
    simp only [Value.object.sizeOf_spec]
    omega

theorem free_iff {v : Value} : v.Free ↔ MarkupFree v.json.toList := ⟨Free.json, free_of_json v⟩

instance : DecidablePred Free := fun _ => decidable_of_iff _ free_iff.symm

theorem dropFraction_free {cs : List Char} (free : MarkupFree cs) : MarkupFree (dropFraction cs) := by
  have kept : MarkupFree (cs.reverse.dropWhile (· = '0')) :=
    free.of_subset fun c member => List.mem_reverse.mp (List.dropWhile_subset _ member)
  unfold dropFraction
  split
  · dsimp only
    split
    · rename_i rest ends
      rw [ends] at kept
      exact kept.of_subset fun c member => List.mem_cons_of_mem _ (List.mem_reverse.mp member)
    · exact kept.of_subset fun c member => List.mem_reverse.mp member
  · exact free

/-- The text of a value is as free as its strings. -/
theorem Free.text {v : Value} (free : v.Free) : MarkupFree v.text.toList := by
  cases free with
  | null => decide
  | bool b => cases b <;> decide
  | number n =>
    cases n with
    | integer i => exact int_free i
    | double d =>
      rw [Value.text, String.toList_ofList]
      exact dropFraction_free d.text_free
  | string free => exact free
  | array each => exact (Free.array each).json
  | object keys each => exact (Free.object keys each).json

end Value

/-! Filters -/

namespace Filter

variable {value v : Value} {args : List Value}

theorem default_free (free : value.Free) (inserted : ∀ a, args[0]? = some a → a.Free)
    (given : Filter.default value args = .ok v) : v.Free := by
  cases given
  split
  · exact free
  · cases args with
    | nil => exact free
    | cons a rest => exact inserted a rfl

theorem safe_free (free : value.Free) (given : Filter.safe value args = .ok v) : v.Free := by
  cases given
  exact free

theorem onText_free {f : String → String}
    (keeps : ∀ s : String, MarkupFree s.toList → MarkupFree (f s).toList) (free : value.Free)
    (given : onText f value args = .ok v) : v.Free := by
  unfold onText at given
  split at given
  · rename_i items
    cases given
    cases free with
    | array each =>
      refine .array fun item member => ?_
      obtain ⟨origin, among, rfl⟩ := List.mem_map.mp member
      exact .string (keeps _ (each origin among).text)
  · cases given
    exact .string (keeps _ free.text)

theorem trim_free (free : value.Free) (given : Filter.trim value args = .ok v) : v.Free :=
  onText_free (fun s free => by
    rw [String.toList_ofList]
    exact Text.trim_free free) free given

theorem escape_free (given : Filter.escape value args = .ok v) : v.Free := by
  cases given
  exact .string (Text.escapeHtml_free _)

/-- Text that an argument gives, or that stands in for it, is free if the argument is. -/
theorem stringArg_free {filter byDefault : String} {position : Nat} {text : Option String}
    (inserted : ∀ a, args[position]? = some a → a.Free) (default_free : MarkupFree byDefault.toList)
    (given : stringArg filter args position = .ok text) : MarkupFree (text.getD byDefault).toList := by
  cases text with
  | none => exact default_free
  | some s =>
    cases inserted _ (stringArg_ok_iff.mp given) with
    | string free => exact free

theorem intercalate_free {separator : String} {pieces : List String}
    (between : MarkupFree separator.toList) (each : ∀ piece ∈ pieces, MarkupFree piece.toList) :
    MarkupFree (separator.intercalate pieces).toList := by
  rw [String.toList_intercalate]
  refine .intercalate between fun piece member => ?_
  obtain ⟨origin, among, rfl⟩ := List.mem_map.mp member
  exact each origin among

theorem join_free (free : value.Free) (inserted : ∀ a, args[0]? = some a → a.Free)
    (given : join value args = .ok v) : v.Free := by
  unfold join at given
  obtain ⟨text, read, joined⟩ := bind_ok given
  have between := stringArg_free inserted (show MarkupFree "".toList by decide) read
  split at joined
  · cases joined
    cases free with
    | array each =>
      refine .string (intercalate_free between fun piece member => ?_)
      obtain ⟨origin, among, rfl⟩ := List.mem_map.mp member
      exact (each origin among).text
  · cases joined
    exact free

theorem split_free (free : value.Free) (given : split value args = .ok v) : v.Free := by
  unfold split at given
  obtain ⟨text, -, pieces⟩ := bind_ok given
  dsimp only at pieces
  split at pieces
  · cases pieces
  · rename_i nonempty
    have some := mt String.toList_eq_nil_iff.mp nonempty
    cases pieces
    refine .array fun item member => ?_
    obtain ⟨piece, among, rfl⟩ := List.mem_map.mp member
    refine .string ?_
    rw [String.toList_ofList]
    exact Text.splitAtText_free some free.text piece among

theorem indentLines_free {margin : List Char} {lines : List (List Char)} (front : MarkupFree margin)
    (each : ∀ line ∈ lines, MarkupFree line) : ∀ line ∈ indentLines margin lines, MarkupFree line := by
  intro line member
  obtain ⟨origin, among, rfl⟩ := List.mem_map.mp member
  split
  · exact each origin among
  · exact front.append (each origin among)

/-- The margin is free if the argument that fills it is. -/
theorem ofArgs_free {i : Indentation} (inserted : ∀ a, args[1]? = some a → a.Free)
    (given : Indentation.ofArgs args = .ok i) : MarkupFree i.fill.toList := by
  unfold Indentation.ofArgs at given
  obtain ⟨width, -, filled⟩ := bind_ok given
  obtain ⟨text, read, made⟩ := bind_ok filled
  cases made
  exact stringArg_free inserted (by decide) read

theorem indent_free (free : value.Free) (inserted : ∀ a, args[1]? = some a → a.Free)
    (given : indent value args = .ok v) : v.Free := by
  unfold indent at given
  obtain ⟨i, read, roomy⟩ := bind_ok given
  obtain ⟨-, -, indented⟩ := bind_ok roomy
  obtain ⟨-, -, made⟩ := bind_ok indented
  cases made
  have front : MarkupFree i.margin := Text.replicate_free (ofArgs_free inserted read)
  have lines := Text.splitAtText_free (List.cons_ne_nil '\n' []) free.text
  rw [← Text.splitAtChar_eq] at lines
  have below := fun line among => lines line (List.drop_subset 1 _ among)
  refine .string ?_
  rw [Indentation.apply, String.toList_ofList]
  refine .intercalate (by decide) fun line member => ?_
  split at member
  · exact indentLines_free front lines line member
  · rcases List.mem_append.mp member with here | later
    · exact lines line (List.take_subset _ _ here)
    · exact indentLines_free front below line later

theorem length_free (given : length value args = .ok v) : v.Free := by
  unfold length at given
  split at given
  · cases given; exact .number _
  · cases given; exact .number _
  · cases given; exact .number _
  · cases given; exact .number _
  · cases given

theorem ofChar_free {c : Char} (other : c ≠ '<') : (Value.ofChar c).Free := by
  refine .string ?_
  rw [String.toList_singleton]
  exact .cons other .nil

theorem first_free (free : value.Free) (given : first value args = .ok v) : v.Free := by
  unfold first at given
  split at given
  · rename_i items
    cases given
    cases free with
    | array each =>
      cases items with
      | nil => exact .null
      | cons item rest => exact each item List.mem_cons_self
  · rename_i s
    cases given
    cases free with
    | string free =>
      cases written : s.toList with
      | nil => exact .null
      | cons c rest => exact ofChar_free (Text.ne_of_free free (written ▸ List.mem_cons_self))
  · cases given
    exact free

theorem last_free (free : value.Free) (given : last value args = .ok v) : v.Free := by
  unfold last at given
  split at given
  · rename_i items
    cases given
    cases free with
    | array each =>
      cases ends : items.getLast? with
      | none => exact .null
      | some item => exact each item (List.mem_of_getLast? ends)
  · rename_i s
    cases given
    cases free with
    | string free =>
      cases ends : s.toList.getLast? with
      | none => exact .null
      | some c => exact ofChar_free (Text.ne_of_free free (List.mem_of_getLast? ends))
  · cases given
    exact free

end Filter

namespace FilterCatalog

/-- The position of the argument whose text a standard filter may insert, if it inserts one. -/
def inserts (name : String) : Option Nat :=
  if name = "default" ∨ name = "join" then some 0 else if name = "indent" then some 1 else none

/-- A filter under a name gives nothing that opens markup unless its value or an argument that it inserts
does. -/
def Keeps (name : String) (filter : Filter) : Prop :=
  ∀ value v args, value.Free → (∀ i, inserts name = some i → ∀ a, args[i]? = some a → a.Free) →
    filter value args = .ok v → v.Free

/-- Every filter of a catalogue keeps markup out. -/
def AllKeep (catalog : FilterCatalog) : Prop :=
  ∀ name entry, Table.get? catalog name = some entry → Keeps name entry.apply

theorem AllKeep.insert {catalog : FilterCatalog} {name : String} {filter : Filter} {mark : Bool}
    (known : AllKeep catalog) (new : Keeps name filter) :
    AllKeep (Table.insert catalog name ⟨filter, mark⟩) := by
  intro other entry found
  rw [Table.get?_insert] at found
  split at found
  · rename_i same
    cases found
    exact same ▸ new
  · exact known other entry found

theorem onText_keeps {f : String → String}
    (keeps : ∀ s : String, MarkupFree s.toList → MarkupFree (f s).toList) (name : String) :
    Keeps name (Filter.onText f) := fun _ _ _ free _ given => Filter.onText_free keeps free given

/-- All standard filters keep markup out. -/
theorem standard_keeps : AllKeep standard := by
  have builtin : AllKeep builtin := by
    refine .insert (.insert ?_ ?_) ?_
    · intro name entry found
      cases found
    · exact fun _ _ _ free inserted given => Filter.default_free free (inserted 0 (by decide)) given
    · exact fun _ _ _ free _ given => Filter.safe_free free given
  have upper := onText_keeps fun _ => Text.upper_free
  have lower := onText_keeps fun _ => Text.lower_free
  have cased : AllKeep (register (register (register (register (register FilterCatalog.builtin
      "capitalize" Filter.capitalize) "uppercase" Filter.upper) "upper" Filter.upper)
      "lowercase" Filter.lower) "lower" Filter.lower) := by
    refine .insert (.insert (.insert (.insert (.insert builtin ?_) (upper _)) (upper _)) (lower _))
      (lower _)
    exact onText_keeps (fun _ => Text.capitalize_free) _
  refine .insert (.insert (.insert (.insert (.insert (.insert (.insert (.insert cased ?_) ?_) ?_) ?_) ?_)
    ?_) ?_) ?_
  · exact fun _ _ _ free inserted given => Filter.join_free free (inserted 0 (by decide)) given
  · exact fun _ _ _ free _ given => Filter.split_free free given
  · exact fun _ _ _ free inserted given => Filter.indent_free free (inserted 1 (by decide)) given
  · exact fun value v args _ _ given => @Filter.length_free value v args given
  · exact fun value v args free _ given => @Filter.first_free value v args free given
  · exact fun value v args free _ given => @Filter.last_free value v args free given
  · exact fun value v args free _ given => @Filter.trim_free value v args free given
  · exact fun _ _ _ _ _ given => Filter.escape_free given

/-- The standard catalogue escapes under the name `escape`. -/
theorem standard_escape : Table.get? standard "escape" = some ⟨Filter.escape, true⟩ := by
  unfold standard addStandard registerSafe
  rw [Table.get?_insert, if_pos rfl]

end FilterCatalog

end TextTemplate
