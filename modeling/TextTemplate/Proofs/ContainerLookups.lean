import TextTemplate.Environment
import TextTemplate.Proofs.MemberKeys
import TextTemplate.Render.Evaluate

/-! Arrays and texts as rows of elements. A lookup finds an element by its place, from the front or from the
back, and by the words for the first and the last one; a further word counts the elements. The filters
with these meanings give the same, and places come out the same in words of 64 bits. -/
namespace TextTemplate

/-- The elements of an array, or the characters of a text. -/
def Value.elements? : Value → Option (List Value)
  | .array items => some items
  | .string s => some (s.toList.map Value.ofChar)
  | _ => none

/-- The element at a place, which is counted from the end if it is negative. -/
def elementAt (items : List Value) (i : Int) : Option Value :=
  if 0 ≤ i then items[i.toNat]?
  else if -(items.length : Int) ≤ i then items[(items.length + i).toNat]?
  else none

/-- The place that an index means, reckoned in words of 64 bits. -/
def resolveIndex64 (length : UInt64) (index : Int64) : Option UInt64 :=
  if 0 ≤ index then
    let place := index.toUInt64
    if place < length then some place else none
  else
    let back := index.abs.toUInt64
    if back ≤ length then some (length - back) else none

/-- A word behind a point, and a filter with the name that it has in pipelines. -/
structure ElementWord where
  word : String
  filterName : String
  filter : Filter

/-- The words that ask arrays and texts for what a filter gives as well. -/
def elementWords : List ElementWord :=
  [⟨"first", "first", Filter.first⟩, ⟨"last", "last", Filter.last⟩, ⟨"count", "length", Filter.length⟩]

/-- A text is read as a pipeline that has a value. -/
def Environment.Evaluates (env : Environment) (scopes : Scopes) (text : String) (value : Value) : Prop :=
  ∀ span, ∃ p, Pipeline.ofText span text = .ok p ∧ env.evalPipeline scopes p = .ok value

section Places

variable {length place : Nat} {index : Int}

theorem resolveIndex_lt (found : resolveIndex length index = some place) : place < length := by
  unfold resolveIndex at found
  split at found
  · split at found
    · cases found
      assumption
    · cases found
  · split at found
    · cases found
      omega
    · cases found

theorem resolveIndex_element (items : List Value) (i : Int) :
    (resolveIndex items.length i).bind (items[·]?) = elementAt items i := by
  unfold resolveIndex elementAt
  by_cases front : 0 ≤ i
  · simp only [if_pos front]
    by_cases inside : i.toNat < items.length
    · rw [if_pos inside, Option.bind_some]
    · rw [if_neg inside, Option.bind_none, List.getElem?_eq_none (by omega)]
  · simp only [if_neg front]
    by_cases inside : i.natAbs ≤ items.length
    · have same : items.length - i.natAbs = (items.length + i).toNat := by omega
      rw [if_pos inside, if_pos (by omega), Option.bind_some, same]
    · rw [if_neg inside, if_neg (by omega), Option.bind_none]

/-- The size of an index fits into a word without a sign, even that of the least one. -/
theorem abs_toNat (index : Int64) : index.abs.toUInt64.toNat = index.toInt.natAbs := by
  have value : index.toInt = index.toBitVec.toInt := rfl
  rw [← Int64.toNat_toBitVec, Int64.toBitVec_abs, BitVec.toNat_abs, value, BitVec.toInt_eq_msb_cond]
  have bound := index.toBitVec.isLt
  split
  · omega
  · omega

theorem toUInt64_toNat {index : Int64} (front : 0 ≤ index.toInt) :
    index.toUInt64.toNat = index.toInt.toNat := by
  have value : index.toInt = index.toBitVec.toInt := rfl
  rw [← Int64.toNat_toBitVec]
  rw [value, BitVec.toInt_eq_msb_cond] at front ⊢
  have bound := index.toBitVec.isLt
  split at front
  · omega
  · rename_i positive
    rw [if_neg positive]
    omega

/-- No index is lost on the way from a word with a sign to one without. -/
theorem resolveIndex64_eq (length : UInt64) (index : Int64) :
    (resolveIndex64 length index).map UInt64.toNat = resolveIndex length.toNat index.toInt := by
  have order : 0 ≤ index ↔ 0 ≤ index.toInt := Int64.le_iff_toInt_le
  unfold resolveIndex64 resolveIndex
  by_cases front : 0 ≤ index.toInt
  · have place := toUInt64_toNat front
    simp only [if_pos (order.mpr front), if_pos front, UInt64.lt_iff_toNat_lt, place]
    split
    · exact congrArg some place
    · rfl
  · have back := abs_toNat index
    simp only [if_neg (mt order.mp front), if_neg front, UInt64.le_iff_toNat_le, back]
    split
    · rename_i inside
      rw [Option.map_some, UInt64.toNat_sub_of_le _ _ (by rwa [UInt64.le_iff_toNat_le, back]), back]
    · rfl

end Places

section Reading

variable {name : String}

/-- A name is read as a lookup without steps. -/
theorem name_reads (alone : Path.Writable ⟨name, []⟩) (span : Span) :
    Pipeline.ofText span name = .ok ⟨span, .lookup ⟨name, []⟩, []⟩ := by
  have same : lookupText name [] = name := by
    simp [lookupText, writtenText]
  have read := lookupText_reads alone [] span
  rwa [same] at read

/-- A path of a single step is read from its text. -/
theorem step_reads (alone : Path.Writable ⟨name, []⟩) {step : PathSegment} (writable : step.Writable)
    (span : Span) : Pipeline.ofText span (name ++ "." ++ step.text) =
      .ok ⟨span, .lookup ⟨name, [step]⟩, []⟩ := by
  obtain ⟨written, rfl, text⟩ := writable.written
  have accepted : refused? [written] = none :=
    refused?_none.mpr (List.forall_mem_singleton.mpr writable)
  have same : name ++ "." ++ written.segment.text = lookupText name [written] := by
    refine String.toList_injective ?_
    simp [lookupText, writtenText, text]
  rw [same, lookupText_reads alone, accepted]
  rfl

/-- A name with a filter behind it is read from its text. -/
theorem filter_reads (alone : Path.Writable ⟨name, []⟩) {filter : String}
    (single : Lexeme.isName filter.toList) (span : Span) :
    Pipeline.ofText span (name ++ "|" ++ filter) =
      .ok ⟨span, .lookup ⟨name, []⟩, [⟨filter, []⟩]⟩ := by
  have ends : ∀ c ∈ ('|' :: filter.toList).head?, Lexeme.continuesIdentifier c = false := by
    rintro c ⟨⟩
    decide +kernel
  have behind : Lexeme.ofText filter.toList = .ok [.identifier filter] := by
    have read : Lexeme.ofText (filter.toList ++ []) = _ := Lexeme.ofText_name single nofun
    rwa [List.append_nil, Lexeme.ofText_nil, String.ofList_toList] at read
  have bar : Lexeme.ofText ('|' :: filter.toList) = .ok [.pipe, .identifier filter] := by
    rw [Lexeme.ofText_next (by decide) rfl, behind]
    rfl
  refine Pipeline.ofText_iff.mpr ⟨⟨.lookup name [] alone.free alone.plain, [⟨filter, .absent⟩]⟩, ?_, rfl⟩
  have text : (name ++ "|" ++ filter).toList = name.toList ++ '|' :: filter.toList := by simp
  rw [text, Lexeme.ofText_name alone.name ends, bar, String.ofList_toList]
  rfl

end Reading

section Elements

variable {value : Value} {items : List Value} {scopes : Scopes} {name : String}

theorem elementAt_first (items : List Value) : elementAt items 0 = items.head? := by
  rw [elementAt, if_pos (le_refl 0), List.head?_eq_getElem?]
  rfl

theorem elementAt_last (items : List Value) : elementAt items (-1) = items.getLast? := by
  rw [elementAt, if_neg (by decide)]
  by_cases empty : items = []
  · rw [empty]
    rfl
  · have positive := List.length_pos_of_ne_nil empty
    have place : ((items.length : Int) + -1).toNat = items.length - 1 := by omega
    rw [if_pos (by omega), place, List.getLast?_eq_getElem?]

/-- A step by an index leads to the element at that place. -/
theorem step_index (parts : value.elements? = some items) (i : Int) :
    value.step (.index i) = elementAt items i := by
  cases value with
  | array items =>
    cases parts
    exact resolveIndex_element _ i
  | string s =>
    cases parts
    rw [← resolveIndex_element, List.length_map]
    simp only [Value.step, stepIntoText, List.getElem?_map]
    cases resolveIndex s.toList.length i <;> rfl
  | _ => cases parts

theorem step_first (parts : value.elements? = some items) :
    value.step (.key "first") = items.head? := by
  cases value with
  | array items => cases parts; rfl
  | string s => cases parts; exact List.head?_map.symm
  | _ => cases parts

theorem step_last (parts : value.elements? = some items) :
    value.step (.key "last") = items.getLast? := by
  cases value with
  | array items => cases parts; rfl
  | string s => cases parts; exact List.getLast?_map.symm
  | _ => cases parts

theorem step_count (parts : value.elements? = some items) :
    value.step (.key "count") = some (.ofNat items.length) := by
  cases value with
  | array items => cases parts; rfl
  | string s => cases parts; rw [List.length_map]; rfl
  | _ => cases parts

/-- What a word gives, null if it gives nothing, is what the filter makes of the value. -/
theorem elementWords_agree (parts : value.elements? = some items) : ∀ entry ∈ elementWords,
    entry.filter value [] = .ok ((value.step (.key entry.word)).getD .null) := by
  intro entry member
  simp only [elementWords, List.mem_cons, List.not_mem_nil, or_false] at member
  rcases member with rfl | rfl | rfl
  · cases value with
    | array | string => rfl
    | _ => cases parts
  · cases value with
    | array | string => rfl
    | _ => cases parts
  · rw [step_count parts]
    cases value with
    | array items => cases parts; rfl
    | string s => cases parts; simp [Filter.length, ← String.length_toList]
    | _ => cases parts

theorem resolve_name (bound : scopes.lookup name = some value) :
    scopes.resolve ⟨name, []⟩ = some value := by
  rw [Scopes.resolve, bound]
  rfl

theorem resolve_step (bound : scopes.lookup name = some value) (step : PathSegment) :
    scopes.resolve ⟨name, [step]⟩ = value.step step := by
  simp only [Scopes.resolve, bound, Option.bind_some, Value.follow]
  cases value.step step <;> rfl

namespace Environment

variable {env : Environment}

/-- In lenient mode a lookup gives its value, or null if it has none. -/
theorem evalPipeline_lookup (lenient : env.options.strictUndefined = false) (scopes : Scopes) (span : Span)
    (path : Path) :
    env.evalPipeline scopes ⟨span, .lookup path, []⟩ = .ok ((scopes.resolve path).getD .null) := by
  simp only [evalPipeline, evalPipelineWith, evalExpr, lenient]
  cases scopes.resolve path <;> rfl

theorem evalPipeline_name (bound : scopes.lookup name = some value) (env : Environment) (span : Span) :
    env.evalPipeline scopes ⟨span, .lookup ⟨name, []⟩, []⟩ = .ok value := by
  simp only [evalPipeline, evalPipelineWith, evalExpr, resolve_name bound]
  rfl

theorem evalPipeline_filter {filterName : String} {entry : FilterEntry} {result : Value}
    (bound : scopes.lookup name = some value) (found : Table.get? env.filters filterName = some entry)
    (made : entry.apply value [] = .ok result) (span : Span) :
    env.evalPipeline scopes ⟨span, .lookup ⟨name, []⟩, [⟨filterName, []⟩]⟩ = .ok result := by
  simp only [evalPipeline, evalPipelineWith, evalExpr, resolve_name bound, applyFilters, applyFilter, found, evalArgs]
  simp [Bind.bind, Except.bind, made]

end Environment

end Elements

/-- Lookups in an array or a text by a word or an index find its elements. What the words for the first and
the last element and for their number give in lenient mode is what the filters for them give, also
where there are no elements. An index leads to the element at its place, from the end if it is
negative, and to nothing if there is none; reckoning it in words of 64 bits loses no index and leads to no
place beyond the elements. -/
theorem container_lookups {scopes : Scopes} {name : String} {value : Value} {items : List Value}
    (alone : Path.Writable ⟨name, []⟩) (bound : scopes.lookup name = some value)
    (parts : value.elements? = some items) :
    (∀ env : Environment, env.options.strictUndefined = false → ∀ entry ∈ elementWords, ∀ safe,
      Table.get? env.filters entry.filterName = some ⟨entry.filter, safe⟩ →
      ∃ result, entry.filter value [] = .ok result ∧
        env.Evaluates scopes (name ++ "." ++ entry.word) result ∧
        env.Evaluates scopes (name ++ "|" ++ entry.filterName) result) ∧
    (∀ i, IndexRange i →
      (∀ span, Pipeline.ofText span (name ++ "." ++ toString i) =
        .ok ⟨span, .lookup ⟨name, [.index i]⟩, []⟩) ∧
      scopes.resolve ⟨name, [.index i]⟩ = elementAt items i) ∧
    (∀ (length : UInt64) (index : Int64), length.toNat = items.length →
      (resolveIndex64 length index).map UInt64.toNat = resolveIndex items.length index.toInt ∧
      ∀ place ∈ resolveIndex64 length index, place.toNat < items.length) ∧
    scopes.resolve ⟨name, [.key "first"]⟩ = scopes.resolve ⟨name, [.index 0]⟩ ∧
    scopes.resolve ⟨name, [.key "last"]⟩ = scopes.resolve ⟨name, [.index (-1)]⟩ := by
  refine ⟨fun env lenient entry member safe found => ?_, fun i range => ⟨?_, ?_⟩, ?_, ?_, ?_⟩
  · have agrees := elementWords_agree parts entry member
    have single : Lexeme.isName entry.word.toList ∧ Lexeme.isName entry.filterName.toList := by
      have all : ∀ entry ∈ elementWords,
          Lexeme.isName entry.word.toList ∧ Lexeme.isName entry.filterName.toList := by
        decide +kernel
      exact all entry member
    refine ⟨_, agrees, fun span => ?_, fun span => ?_⟩
    · have writable : (PathSegment.key entry.word).Writable := single.1
      refine ⟨_, step_reads alone writable span, ?_⟩
      rw [Environment.evalPipeline_lookup lenient, resolve_step bound]
    · exact ⟨_, filter_reads alone single.2 span, Environment.evalPipeline_filter bound found agrees span⟩
  · have writable : (PathSegment.index i).Writable := range
    exact step_reads alone writable
  · rw [resolve_step bound, step_index parts]
  · intro length index same
    have equal := resolveIndex64_eq length index
    rw [same] at equal
    refine ⟨equal, fun place found => ?_⟩
    rw [found, Option.map_some] at equal
    exact resolveIndex_lt equal.symm
  · rw [resolve_step bound, resolve_step bound, step_first parts, step_index parts, elementAt_first]
  · rw [resolve_step bound, resolve_step bound, step_last parts, step_index parts, elementAt_last]

/-- Two characters of which one has two bytes, and the least index that there is. -/
theorem container_lookups_text :
    let scopes : Scopes := ⟨[], .ofList [("x", .string "é!")]⟩
    Path.Writable ⟨"x", []⟩ ∧ scopes.lookup "x" = some (.string "é!") ∧
      Value.elements? (.string "é!") = some [.string "é", .string "!"] ∧
      Environment.standard.Evaluates scopes "x.last" (.string "!") ∧
      Environment.standard.Evaluates scopes "x|length" (.ofNat 2) ∧
      Pipeline.ofText {} "x.-9223372036854775808" = .ok ⟨{}, .lookup ⟨"x", [.index (-2 ^ 63)]⟩, []⟩ ∧
      scopes.resolve ⟨"x", [.index (-2 ^ 63)]⟩ = none ∧ resolveIndex64 2 Int64.minValue = none := by
  intro scopes
  have alone : Path.Writable ⟨"x", []⟩ :=
    ⟨by decide +kernel, by decide, by decide, List.forall_mem_nil _⟩
  have parts : Value.elements? (.string "é!") = some [.string "é", .string "!"] := rfl
  have bound : scopes.lookup "x" = some (.string "é!") := rfl
  obtain ⟨words, indices, machine, -⟩ := container_lookups alone bound parts
  obtain ⟨_, last, viaWord, -⟩ := words .standard rfl ⟨"last", "last", Filter.last⟩ (by simp [elementWords])
    false rfl
  obtain ⟨_, count, -, viaFilter⟩ := words .standard rfl ⟨"count", "length", Filter.length⟩
    (by simp [elementWords]) false rfl
  obtain ⟨read, found⟩ := indices (-2 ^ 63) (by decide)
  have far := (machine 2 Int64.minValue rfl).1
  cases last
  cases count
  refine ⟨alone, bound, parts, viaWord, viaFilter, read {}, found.trans ?_,
    Option.map_eq_none_iff.mp (far.trans ?_)⟩
  · decide
  · decide

end TextTemplate
