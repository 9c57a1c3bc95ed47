import TextTemplate.Proofs.Locations
import TextTemplate.Proofs.ParsingSteps
import TextTemplate.Proofs.QuotedStretches

/-! The keyword of a tag, its arguments, and its words. The keyword is the first of the words that whitespace
separates, and a search for it finds the place that it was taken from, because nothing but whitespace
stands before. A quote can hide whitespace, but not inside a keyword without quotes: the words that respect
quotes are then the keyword and the words of the arguments. So the name of a block is the same whether
it is looked for among all words or behind the keyword. -/
namespace TextTemplate

/-- A text cut in three: whitespace, a keyword, and a rest that whitespace sets off from the keyword. There is
no keyword only where there is nothing but whitespace. -/
structure KeywordCut (cs lead keyword rest : List Char) : Prop where
  parts : cs = lead ++ keyword ++ rest
  blank : ∀ c ∈ lead, Text.isSpace c
  visible : ∀ c ∈ keyword, ¬ Text.isSpace c
  apart : ∀ c ∈ rest.head?, Text.isSpace c
  missing : keyword = [] → rest = []

namespace Token

/-- The first of the words that whitespace separates, empty if there is none. -/
def firstWord (token : Token) : String :=
  String.ofList ((Text.words token.contents.toList).head?.getD [])

/-- What stands behind the first place in the contents at which the first word occurs, without the whitespace
in front of it; nothing if that place ends inside a character. -/
def behindFirstWord? (token : Token) : Option String :=
  let place := (token.contents.find? token.firstWord).map fun found => found.offset.byteIdx
  let start := place.getD 0 + token.firstWord.utf8ByteSize
  (LineStarts.slice? token.contents start token.contents.utf8ByteSize).map fun rest =>
    String.ofList (Text.trimStart rest.toList)

/-- The words of the arguments; a quoted stretch stays together and keeps its quotes. -/
def argumentWords (token : Token) : List String := { token with contents := token.arguments }.components

end Token

/-! Searching a text -/

section Search

open String.Slice.Pattern.Model

/-- A text is found at once behind characters of which none is its first one. -/
theorem find?_behind {source part : String} {before after cs : List Char} {c : Char}
    (starts : part.toList = c :: cs) (whole : source.toList = before ++ part.toList ++ after)
    (foreign : c ∉ before) :
    (source.find? part).map (fun found => found.offset.byteIdx) = some (byteLength before) := by
  have nonempty : part ≠ "" := by
    rintro rfl
    cases starts
  have copied : source.toSlice.copy = String.ofList before ++ (part ++ String.ofList after) := by
    rw [String.copy_toSlice, ← String.toList_inj]
    simp [whole]
  have := ForwardStringSearcher.strictPatternModel nonempty
  have := ForwardStringSearcher.lawfulToForwardSearcherModel nonempty
  have here := String.Slice.Pos.splits_ofEqAppend copied
  have found : source.toSlice.find? part = some (String.Slice.Pos.ofEqAppend copied) := by
    rw [find?_eq_some_iff]
    refine ⟨ForwardStringSearcher.matchesAt_iff_splits.mpr ⟨_, _, here⟩, fun earlier less occurs => ?_⟩
    obtain ⟨front, behind, there⟩ := ForwardStringSearcher.matchesAt_iff_splits.mp occurs
    obtain ⟨between, more, left, right⟩ := (there.lt_iff_exists_eq_append here).mp less
    -- An earlier occurrence would begin among the characters before, with one of them.
    have before_parts : before = front.toList ++ between.toList := by
      rw [← String.toList_append, ← left, String.toList_ofList]
    have first := congrArg String.toList right
    rw [String.toList_append, String.toList_append, starts] at first
    cases head : between.toList with
    | nil => exact more (String.toList_eq_nil_iff.mp head)
    | cons d ds =>
      rw [head] at before_parts first
      obtain rfl : c = d := (List.cons.inj first).1
      exact foreign (by simp [before_parts])
  rw [String.find?_eq_find?_toSlice, found, Option.map_some, Option.map_some, String.Pos.offset_ofToSlice,
    here.offset_eq_rawEndPos, String.rawEndPos, String.utf8ByteSize_ofList, byteLength_eq]

/-- The empty text is found at the start. -/
theorem find?_empty (source : String) :
    (source.find? "").map (fun found => found.offset.byteIdx) = some 0 := by
  rw [String.find?_eq_find?_toSlice, String.Slice.find?, ← Std.Iter.findSome?_toList,
    ForwardStringSearcher.toSearcher_empty, ForwardSliceSearcher.toList_emptyBefore_eq]
  split
  · rfl
  · rfl

end Search

/-! Words outside of quotes -/

section Words

variable {word lead taken rest : List Char}

theorem wordsFrom_lead (blank : ∀ c ∈ lead, Text.isSpace c) (rest : List Char) :
    Text.wordsFrom [] (lead ++ rest) = Text.wordsFrom [] rest := by
  induction lead with
  | nil => rfl
  | cons c lead ih =>
    obtain ⟨space, blank⟩ := List.forall_mem_cons.mp blank
    simp [Text.wordsFrom, space, ih blank]

theorem wordsFrom_taken (visible : ∀ c ∈ taken, ¬ Text.isSpace c) (word rest : List Char) :
    Text.wordsFrom word (taken ++ rest) = Text.wordsFrom (taken.reverse ++ word) rest := by
  induction taken generalizing word with
  | nil => rfl
  | cons c taken ih =>
    obtain ⟨seen, visible⟩ := List.forall_mem_cons.mp visible
    simp [Text.wordsFrom, seen, ih visible]

theorem wordsFrom_apart (started : word ≠ []) (apart : ∀ c ∈ rest.head?, Text.isSpace c) :
    Text.wordsFrom word rest = word.reverse :: Text.wordsFrom [] rest := by
  cases rest with
  | nil => simp [Text.wordsFrom, started]
  | cons c rest => simp [Text.wordsFrom, started, apart c rfl]

theorem componentsFrom_lead (blank : ∀ c ∈ lead, Text.isSpace c) (rest : List Char) :
    componentsFrom none [] (lead ++ rest) = componentsFrom none [] rest := by
  induction lead with
  | nil => rfl
  | cons c lead ih =>
    obtain ⟨space, blank⟩ := List.forall_mem_cons.mp blank
    simp [componentsFrom, isSpace_not_quote space, space, ih blank]

theorem componentsFrom_taken (visible : ∀ c ∈ taken, ¬ Text.isSpace c)
    (unquoted : ∀ c ∈ taken, ¬ isQuote c) (word rest : List Char) :
    componentsFrom none word (taken ++ rest) = componentsFrom none (taken.reverse ++ word) rest := by
  induction taken generalizing word with
  | nil => rfl
  | cons c taken ih =>
    obtain ⟨seen, visible⟩ := List.forall_mem_cons.mp visible
    obtain ⟨plain, unquoted⟩ := List.forall_mem_cons.mp unquoted
    simp [componentsFrom, seen, plain, ih visible unquoted]

theorem componentsFrom_apart (started : word ≠ []) (apart : ∀ c ∈ rest.head?, Text.isSpace c) :
    componentsFrom none word rest = word.reverse :: componentsFrom none [] rest := by
  cases rest with
  | nil => simp [componentsFrom, started]
  | cons c rest =>
    have space := apart c rfl
    simp [componentsFrom, isSpace_not_quote space, space, started]

theorem components_trimStart (cs : List Char) :
    componentsFrom none [] (Text.trimStart cs) = componentsFrom none [] cs := by
  have blank : ∀ c ∈ cs.takeWhile Text.isSpace, Text.isSpace c :=
    fun c member => List.all_eq_true.mp List.all_takeWhile c member
  rw [← componentsFrom_lead blank, Text.trimStart, List.takeWhile_append_dropWhile]

end Words

/-! The cut behind the keyword -/

/-- Every text can be cut so. -/
theorem exists_keywordCut (cs : List Char) : ∃ lead keyword rest, KeywordCut cs lead keyword rest := by
  induction cs with
  | nil => exact ⟨[], [], [], rfl, nofun, nofun, nofun, fun _ => rfl⟩
  | cons c cs ih =>
    by_cases space : Text.isSpace c
    · obtain ⟨lead, keyword, rest, cut⟩ := ih
      refine ⟨c :: lead, keyword, rest, ?_, List.forall_mem_cons.mpr ⟨space, cut.blank⟩, cut.visible,
        cut.apart, cut.missing⟩
      rw [cut.parts, List.cons_append, List.cons_append]
    · refine ⟨[], c :: cs.takeWhile fun c => !Text.isSpace c, cs.dropWhile fun c => !Text.isSpace c,
        ?_, nofun, List.forall_mem_cons.mpr ⟨space, fun d member => ?_⟩, fun d first => ?_, nofun⟩
      · rw [List.nil_append, List.cons_append, List.takeWhile_append_dropWhile]
      · simpa using List.all_eq_true.mp List.all_takeWhile d member
      · simpa using Text.dropWhile_first (fun c => !Text.isSpace c) cs d first

namespace KeywordCut

variable {cs lead keyword rest : List Char} {token : Token}

/-- No text can be cut so in two ways. -/
theorem keyword_rest (cut : KeywordCut cs lead keyword rest) :
    (Text.trimStart cs).takeWhile (fun c => !Text.isSpace c) = keyword ∧
      (Text.trimStart cs).dropWhile (fun c => !Text.isSpace c) = rest := by
  have trimmed : Text.trimStart cs = keyword ++ rest := by
    rw [cut.parts, List.append_assoc, Text.trimStart, List.dropWhile_append_of_pos cut.blank]
    cases keyword with
    | nil =>
      rw [cut.missing rfl]
      rfl
    | cons c keyword => simp [cut.visible c List.mem_cons_self]
  have visible : ∀ c ∈ keyword, (!Text.isSpace c) = true := fun c member => by
    simpa using cut.visible c member
  rw [trimmed, List.takeWhile_append_of_pos visible, List.dropWhile_append_of_pos visible]
  cases rest with
  | nil => simp
  | cons c rest => simp [cut.apart c rfl]

theorem keyword_eq (cut : KeywordCut token.contents.toList lead keyword rest) :
    token.keyword = String.ofList keyword := by
  rw [Token.keyword, cut.keyword_rest.1]

theorem arguments_eq (cut : KeywordCut token.contents.toList lead keyword rest) :
    token.arguments = String.ofList (Text.trimStart rest) := by
  rw [Token.arguments, cut.keyword_rest.2]

/-- The first word is the keyword. -/
theorem firstWord_eq (cut : KeywordCut token.contents.toList lead keyword rest) :
    token.firstWord = String.ofList keyword := by
  rw [Token.firstWord, cut.parts, Text.words, List.append_assoc, wordsFrom_lead cut.blank]
  cases keyword with
  | nil =>
    rw [cut.missing rfl]
    rfl
  | cons c keyword =>
    rw [wordsFrom_taken cut.visible, wordsFrom_apart (by simp) cut.apart]
    simp

/-- The search for the keyword finds the place that the keyword was cut from. Where there is none it stops at
the start, and what follows is whitespace as well. -/
theorem search {contents : String} (cut : KeywordCut contents.toList lead keyword rest) :
    ∃ before after, contents.toList = before ++ keyword ++ after ∧
      Text.trimStart after = Text.trimStart rest ∧
      (contents.find? (String.ofList keyword)).map (fun found => found.offset.byteIdx) =
        some (byteLength before) := by
  cases keyword with
  | nil =>
    -- The whole of the contents is left over here, and all of it is whitespace.
    refine ⟨[], contents.toList, rfl, ?_, find?_empty contents⟩
    rw [cut.parts, cut.missing rfl, List.append_nil, List.append_nil]
    exact List.dropWhile_eq_nil_iff.mpr cut.blank
  | cons c keyword =>
    -- The same word may come again, but not before: there it would begin with whitespace.
    have foreign : c ∉ lead :=
      fun member => cut.visible c List.mem_cons_self (cut.blank c member)
    have whole : contents.toList = lead ++ (String.ofList (c :: keyword)).toList ++ rest := by
      rw [String.toList_ofList, cut.parts]
    exact ⟨lead, rest, cut.parts, rfl, find?_behind String.toList_ofList whole foreign⟩

/-- The arguments stand behind the first occurrence of the first word. -/
theorem behindFirstWord?_eq (cut : KeywordCut token.contents.toList lead keyword rest) :
    token.behindFirstWord? = some (String.ofList (Text.trimStart rest)) := by
  obtain ⟨before, after, whole, same, found⟩ := cut.search
  have start : byteLength before + (String.ofList keyword).utf8ByteSize =
      byteLength (before ++ keyword) := by
    rw [byteLength_append, String.utf8ByteSize_ofList, byteLength_eq keyword]
  have stop : token.contents.utf8ByteSize = byteLength (before ++ keyword ++ after) := by
    rw [← whole, byteLength_toList]
  have taken : LineStarts.slice? token.contents (byteLength (before ++ keyword))
      (byteLength (before ++ keyword ++ after)) = some (String.ofList after) :=
    LineStarts.slice?_eq (by rw [whole, List.append_nil])
  unfold Token.behindFirstWord?
  rw [cut.firstWord_eq, found]
  simp only [Option.getD_some, start, stop, taken, Option.map_some, String.toList_ofList, same]

/-- Behind a keyword without quotes the words are those of the arguments. -/
theorem components_eq (cut : KeywordCut token.contents.toList lead keyword rest) (named : keyword ≠ [])
    (unquoted : ∀ c ∈ keyword, ¬ isQuote c) :
    token.components = String.ofList keyword :: token.argumentWords := by
  have words : componentsFrom none [] token.contents.toList =
      keyword :: componentsFrom none [] rest := by
    rw [cut.parts, List.append_assoc, componentsFrom_lead cut.blank,
      componentsFrom_taken cut.visible unquoted, componentsFrom_apart (by simpa using named) cut.apart]
    simp
  rw [Token.argumentWords, Token.components, Token.components, words, cut.arguments_eq,
    String.toList_ofList, components_trimStart, List.map_cons]

end KeywordCut

/-! The name of a block -/

section Blocks

variable {tags : Table Tag} {s s' : Parsing} {token : Token} {next : Option Token} {name word : String}

theorem components_of_keyword (keyword : token.keyword = word) (named : word ≠ "")
    (unquoted : ∀ c ∈ word.toList, ¬ isQuote c) : token.components = word :: token.argumentWords := by
  obtain ⟨lead, characters, rest, cut⟩ := exists_keywordCut token.contents.toList
  obtain rfl : String.ofList characters = word := cut.keyword_eq.symm.trans keyword
  rw [String.toList_ofList] at unquoted
  exact cut.components_eq (fun none => named (congrArg String.ofList none)) unquoted

/-- A quote in the keyword hides the space behind it from the words, but not from the keyword. -/
example : (Token.mk .tag "a'b c' d" {}).keyword = "a'b" ∧
    (Token.mk .tag "a'b c' d" {}).components = ["a'b c'", "d"] := by decide +kernel

/-- A tag that its keyword makes the start of a block is read if its arguments are one free name. -/
theorem Parsing.step_block_iff (kind : token.kind = .tag) (keyword : token.keyword = "block")
    (free : s.Free token) :
    s.step tags token next = .ok s' ↔ ∃ name, token.argumentWords = [name] ∧ isBlockName name ∧
      Table.contains s.blocks name = false ∧
      s' = { s with anyTag := true }.enter token (.blockPart name) := by
  have words := components_of_keyword keyword (by decide) (unquoted_of_all (by decide))
  constructor
  · intro read
    rw [step_free kind free (by simp [keyword])] at read
    have started : startBlock { s with anyTag := true } token = .ok s' := by
      simpa [startTag, keyword] using read
    unfold startBlock at started
    rw [words] at started
    split at started
    · rename_i name single
      split_ifs at started with invalid
      obtain ⟨_, fresh, rest⟩ := bind_ok started
      cases rest
      exact ⟨name, (List.cons.inj single).2, by simpa using invalid, requireFresh_ok fresh, rfl⟩
    · cases started
  · rintro ⟨name, single, valid, fresh, rfl⟩
    exact Opens.step kind free (.block keyword (words.trans (by rw [single])) valid fresh)

theorem closesBlock_iff (words : token.components = word :: token.argumentWords) :
    token.closesBlock name ↔ token.argumentWords = [] ∨ token.argumentWords = [name] := by
  unfold Token.closesBlock
  rw [words]
  rcases token.argumentWords with _ | ⟨closing, _ | ⟨other, others⟩⟩
  · simp
  · simp
  · simp

/-- A tag that its keyword makes the end of a block is read if its arguments are the name of the block or
nothing, and the name is still free. -/
theorem Parsing.step_endblock_iff {inner : OpenTag} {outer : List OpenTag} (kind : token.kind = .tag)
    (keyword : token.keyword = "endblock") (innermost : s.opened = inner :: outer)
    (block : inner.part = .blockPart name) :
    (∃ s', s.step tags token next = .ok s') ↔
      (token.argumentWords = [] ∨ token.argumentWords = [name]) ∧
        Table.contains s.blocks name = false := by
  have words := components_of_keyword keyword (by decide) (unquoted_of_all (by decide))
  have among : token.keyword ∈ inner.part.terminators := by simp [block, keyword, OpenPart.terminators]
  rw [step_ended kind (by simp [keyword]) innermost among, ← closesBlock_iff words]
  have ended : s.terminate inner outer token = s.endBlock inner outer token name := by
    unfold terminate
    rw [block]
  rw [ended, endBlock_eq]
  constructor
  · rintro ⟨s', read⟩
    split_ifs at read with unnamed
    obtain ⟨_, fresh, -⟩ := bind_ok read
    exact ⟨by simpa using unnamed, requireFresh_ok fresh⟩
  · rintro ⟨closes, fresh⟩
    rw [if_neg (by simp [closes]), requireFresh_of_fresh fresh]
    exact ⟨_, rfl⟩

end Blocks

/-- Contents are whitespace, the keyword, and a rest that whitespace sets off; the arguments are the rest
without the whitespace in front of it. The keyword is the first word, and a search for it leads to the same
arguments and never into a character. Unless there is a quote in the keyword, the words are the keyword and
the words of the arguments. So a tag that the keyword makes the start or the end of a block is read
by what the arguments are. -/
theorem keyword_leads_words (token : Token) :
    (∃ lead rest, KeywordCut token.contents.toList lead token.keyword.toList rest ∧
      token.arguments = String.ofList (Text.trimStart rest)) ∧
    token.firstWord = token.keyword ∧ token.behindFirstWord? = some token.arguments ∧
    (token.keyword ≠ "" → (∀ c ∈ token.keyword.toList, ¬ isQuote c) →
      token.components = token.keyword :: token.argumentWords) ∧
    (token.kind = .tag → token.keyword = "block" →
      ∀ (tags : Table Tag) (s s' : Parsing) (next : Option Token), s.Free token →
      (s.step tags token next = .ok s' ↔ ∃ name, token.argumentWords = [name] ∧ isBlockName name ∧
        Table.contains s.blocks name = false ∧
        s' = { s with anyTag := true }.enter token (.blockPart name))) ∧
    (token.kind = .tag → token.keyword = "endblock" →
      ∀ (tags : Table Tag) (s : Parsing) (next : Option Token) (inner : OpenTag) (outer : List OpenTag)
        (name : String), s.opened = inner :: outer → inner.part = .blockPart name →
      ((∃ s', s.step tags token next = .ok s') ↔
        (token.argumentWords = [] ∨ token.argumentWords = [name]) ∧
          Table.contains s.blocks name = false)) := by
  obtain ⟨lead, keyword, rest, cut⟩ := exists_keywordCut token.contents.toList
  have named := cut.keyword_eq
  have arguments := cut.arguments_eq
  refine ⟨⟨lead, rest, ?_, arguments⟩, cut.firstWord_eq.trans named.symm,
    cut.behindFirstWord?_eq.trans (congrArg some arguments.symm), components_of_keyword rfl,
    fun kind block tags s s' next free => Parsing.step_block_iff kind block free,
    fun kind endblock tags s next inner outer name innermost part =>
      Parsing.step_endblock_iff kind endblock innermost part⟩
  rw [named, String.toList_ofList]
  exact cut

/-- Whitespace of other scripts around the keyword, and a name that is the keyword again. -/
theorem keyword_leads_words_repeated :
    let token : Token := ⟨.tag, "\u2003block\u00a0 block", {}⟩
    token.keyword = "block" ∧ token.behindFirstWord? = some "block" ∧
      token.components = ["block", "block"] ∧ ∃ s, ({} : Parsing).step .empty token none = .ok s := by
  intro token
  have keyword : token.keyword = "block" := by decide +kernel
  have arguments : token.arguments = "block" := by decide +kernel
  have words : token.argumentWords = ["block"] := by decide +kernel
  have plain : ∀ c ∈ token.keyword.toList, ¬ isQuote c := unquoted_of_all (by decide +kernel)
  obtain ⟨-, -, behind, components, starts, -⟩ := keyword_leads_words token
  refine ⟨keyword, by rw [behind, arguments], ?_, _,
    (starts rfl keyword .empty {} _ none fun _ => rfl).mpr ⟨"block", words, by decide +kernel, rfl, rfl⟩⟩
  rw [components (by rw [keyword]; decide) plain, keyword, words]

end TextTemplate
