import Mathlib.Data.List.Infix
import TextTemplate.Filter

/-! The entities of escaped text. A text is escaped if no character of markup stands in it but ampersands, and
each of these begins one of the five entities. Reading the entities from left to right takes escaping
back, whatever the text was, and escaping takes the reading of an escaped text back; so each escaped text
comes from one text alone. -/
namespace TextTemplate.Text

/-- A character of markup with the name that stands for it behind an ampersand. -/
structure Entity where
  char : Char
  name : List Char

/-- An entity as it stands in a text. -/
def Entity.text (entity : Entity) : List Char := '&' :: entity.name

/-- The entities that escaping writes. -/
def entities : List Entity :=
  [⟨'&', ['a', 'm', 'p', ';']⟩, ⟨'<', ['l', 't', ';']⟩, ⟨'>', ['g', 't', ';']⟩,
    ⟨'"', ['#', '3', '4', ';']⟩, ⟨'\x27', ['#', '3', '9', ';']⟩]

/-- The entity that a text begins with. -/
def entityAt (cs : List Char) : Option Entity :=
  entities.find? fun entity => entity.text.isPrefixOf cs

/-- A text with its entities read, after `skip` characters of the last one have been passed over. -/
def unescapeSkipping : Nat → List Char → List Char
  | _, [] => []
  | skip + 1, _ :: rest => unescapeSkipping skip rest
  | 0, c :: rest =>
    match entityAt (c :: rest) with
    | some entity => entity.char :: unescapeSkipping (entity.text.length - 1) rest
    | none => c :: unescapeSkipping 0 rest

/-- A text with its entities read from left to right. What they stand for is not read again. -/
def unescape (cs : List Char) : List Char := unescapeSkipping 0 cs

/-- Text in which nothing of markup stands by itself: neither angle brackets nor quotes occur, and every
ampersand begins an entity. -/
structure Closed (cs : List Char) : Prop where
  bare : ∀ c ∈ cs, c ≠ '<' ∧ c ≠ '>' ∧ c ≠ '"' ∧ c ≠ '\x27'
  entity : ∀ rest, '&' :: rest <:+ cs → ∃ entity ∈ entities, entity.text <+: '&' :: rest

/-- Text that is made of entities and of characters that have none. -/
inductive Escaped : List Char → Prop where
  | nothing : Escaped []
  | entity {entity : Entity} {rest : List Char} (known : entity ∈ entities) (later : Escaped rest) :
      Escaped (entity.text ++ rest)
  | plain {c : Char} {rest : List Char} (other : ∀ entity ∈ entities, entity.char ≠ c)
      (later : Escaped rest) : Escaped (c :: rest)

section Reading

variable {entity : Entity} {c : Char} {cs rest skipped : List Char}

theorem plain_iff : (∀ entity ∈ entities, entity.char ≠ c) ↔
    c ≠ '&' ∧ c ≠ '<' ∧ c ≠ '>' ∧ c ≠ '"' ∧ c ≠ '\x27' := by
  simp [entities, eq_comm]

theorem entity_or_plain (c : Char) :
    (∃ entity ∈ entities, entity.char = c) ∨ ∀ entity ∈ entities, entity.char ≠ c := by
  by_cases known : ∃ entity ∈ entities, entity.char = c
  · exact .inl known
  · exact .inr fun entity member same => known ⟨entity, member, same⟩

/-- The names of entities are made of characters that have none. -/
theorem name_plain (known : entity ∈ entities) :
    ∀ c ∈ entity.name, c ≠ '&' ∧ c ≠ '<' ∧ c ≠ '>' ∧ c ≠ '"' ∧ c ≠ '\x27' := by
  revert entity
  simp [entities]

theorem escapeChar_entity (known : entity ∈ entities) : escapeChar entity.char = entity.text := by
  revert entity
  decide

theorem escapeChar_plain (other : ∀ entity ∈ entities, entity.char ≠ c) : escapeChar c = [c] := by
  have plain := plain_iff.mp other
  simp [escapeChar, plain]

theorem entityAt_text (known : entity ∈ entities) (rest : List Char) :
    entityAt (entity.text ++ rest) = some entity := by
  simp only [entities, List.mem_cons, List.not_mem_nil, or_false] at known
  rcases known with rfl | rfl | rfl | rfl | rfl <;> rfl

theorem entityAt_other (other : c ≠ '&') (rest : List Char) : entityAt (c :: rest) = none := by
  simp [entityAt, entities, Entity.text, other.symm]

theorem unescapeSkipping_append (skipped rest : List Char) :
    unescapeSkipping skipped.length (skipped ++ rest) = unescape rest := by
  induction skipped with
  | nil => rfl
  | cons c skipped ih => exact ih

/-- An entity is read as its character, and reading goes on behind it. -/
theorem unescape_entity (known : entity ∈ entities) (rest : List Char) :
    unescape (entity.text ++ rest) = entity.char :: unescape rest := by
  have read := entityAt_text known rest
  rw [Entity.text, List.cons_append] at read ⊢
  rw [unescape, unescapeSkipping, read]
  exact congrArg _ (unescapeSkipping_append entity.name rest)

/-- What is no ampersand stands for itself. -/
theorem unescape_other (other : c ≠ '&') (rest : List Char) :
    unescape (c :: rest) = c :: unescape rest := by
  rw [unescape, unescapeSkipping, entityAt_other other]
  rfl

/-- Escaping a text writes entities and characters that have none. -/
theorem escaped_flatMap (cs : List Char) : Escaped (cs.flatMap escapeChar) := by
  induction cs with
  | nil => exact .nothing
  | cons c rest ih =>
    rw [List.flatMap_cons]
    rcases entity_or_plain c with ⟨entity, known, rfl⟩ | plain
    · rw [escapeChar_entity known]
      exact .entity known ih
    · rw [escapeChar_plain plain]
      exact .plain plain ih

/-- Reading takes escaping back. -/
theorem unescape_flatMap (cs : List Char) : unescape (cs.flatMap escapeChar) = cs := by
  induction cs with
  | nil => rfl
  | cons c rest ih =>
    rw [List.flatMap_cons]
    rcases entity_or_plain c with ⟨entity, known, rfl⟩ | plain
    · rw [escapeChar_entity known, unescape_entity known, ih]
    · rw [escapeChar_plain plain, List.singleton_append, unescape_other (plain_iff.mp plain).1, ih]

/-- Escaping takes the reading of escaped text back. -/
theorem Escaped.flatMap_unescape (escaped : Escaped cs) : (unescape cs).flatMap escapeChar = cs := by
  induction escaped with
  | nothing => rfl
  | entity known later ih =>
    rw [unescape_entity known, List.flatMap_cons, escapeChar_entity known, ih]
  | plain other later ih =>
    rw [unescape_other (plain_iff.mp other).1, List.flatMap_cons, escapeChar_plain other,
      List.singleton_append, ih]

/-- An ampersand behind characters that are none is behind them all. -/
theorem suffix_of_skipped (free : '&' ∉ skipped) (here : '&' :: rest <:+ skipped ++ cs) :
    '&' :: rest <:+ cs := by
  induction skipped with
  | nil => exact here
  | cons c skipped ih =>
    obtain ⟨other, free⟩ : '&' ≠ c ∧ '&' ∉ skipped := by simpa using free
    rcases List.suffix_cons_iff.mp here with same | later
    · exact absurd (List.cons.inj same).1 other
    · exact ih free later

theorem Escaped.closed (escaped : Escaped cs) : Closed cs := by
  induction escaped with
  | nothing =>
    refine ⟨nofun, fun rest here => ?_⟩
    cases List.suffix_nil.mp here
  | @entity entity rest known later ih =>
    have plain := name_plain known
    constructor
    · refine List.forall_mem_cons.mpr ⟨by decide, List.forall_mem_append.mpr ⟨?_, ih.bare⟩⟩
      exact fun c member => (plain c member).2
    · intro behind here
      rcases List.suffix_cons_iff.mp here with same | inside
      · refine ⟨entity, known, ?_⟩
        rw [same]
        exact List.prefix_append entity.text rest
      · exact ih.entity behind (suffix_of_skipped (fun member => (plain '&' member).1 rfl) inside)
  | @plain c rest other later ih =>
    obtain ⟨noAmpersand, bare⟩ := plain_iff.mp other
    refine ⟨List.forall_mem_cons.mpr ⟨bare, ih.bare⟩, fun behind here => ?_⟩
    rcases List.suffix_cons_iff.mp here with same | inside
    · exact absurd (List.cons.inj same).1.symm noAmpersand
    · exact ih.entity behind inside

/-- What stands behind the start of a closed text is closed. -/
theorem Closed.of_suffix (closed : Closed cs) (behind : rest <:+ cs) : Closed rest :=
  ⟨fun c member => closed.bare c (behind.subset member),
    fun later here => closed.entity later (here.trans behind)⟩

/-- A closed text can be taken apart into entities and characters that have none. -/
theorem Closed.escaped (closed : Closed cs) : Escaped cs := by
  induction size : cs.length using Nat.strongRecOn generalizing cs with
  | _ length ih =>
    subst size
    cases cs with
    | nil => exact .nothing
    | cons c rest =>
      by_cases ampersand : c = '&'
      · subst ampersand
        obtain ⟨entity, known, later, parts⟩ := closed.entity rest List.suffix_rfl
        rw [← parts] at closed ih ⊢
        refine .entity known (ih later.length ?_ (closed.of_suffix (List.suffix_append _ _)) rfl)
        rw [Entity.text, List.length_append, List.length_cons]
        omega
      · have plain := plain_iff.mpr ⟨ampersand, closed.bare c List.mem_cons_self⟩
        refine .plain plain (ih rest.length ?_ (closed.of_suffix (List.suffix_cons c rest)) rfl)
        exact Nat.lt_succ_self _

theorem toList_escapeHtml (s : String) : (escapeHtml s).toList = s.toList.flatMap escapeChar :=
  String.toList_ofList

theorem escapeHtml_injective : Function.Injective escapeHtml := by
  intro first second same
  have read := congrArg (fun s => unescape s.toList) same
  simp only [toList_escapeHtml, unescape_flatMap] at read
  exact String.toList_inj.mp read

end Reading

end TextTemplate.Text

namespace TextTemplate

/-- Escaped text holds nothing of markup but ampersands that begin entities, and reading its entities gives the
text that was escaped. So different texts never escape to the same one, and what holds nothing of markup
by itself is the escaped form of a text. -/
theorem escape_reverses :
    (∀ s : String, Text.Closed (Text.escapeHtml s).toList ∧
      Text.unescape (Text.escapeHtml s).toList = s.toList) ∧
    Function.Injective Text.escapeHtml ∧
    (∀ t : String, Text.Closed t.toList → ∃ s, Text.escapeHtml s = t) ∧
    ∀ (first second : Value) (args others : List Value),
      Filter.escape first args = Filter.escape second others → first.text = second.text := by
  refine ⟨fun s => ?_, Text.escapeHtml_injective, fun t closed => ?_, fun first second args others same => ?_⟩
  · rw [Text.toList_escapeHtml]
    exact ⟨(Text.escaped_flatMap _).closed, Text.unescape_flatMap _⟩
  · refine ⟨String.ofList (Text.unescape t.toList), ?_⟩
    apply String.toList_inj.mp
    rw [Text.toList_escapeHtml, String.toList_ofList, closed.escaped.flatMap_unescape]
  · apply Text.escapeHtml_injective
    exact Value.string.inj (Except.ok.inj same)

/-- Text that holds an entity already, a beginning of one, and an ampersand at its end. -/
example : Text.escapeHtml "&lt; &amp &" = "&amp;lt; &amp;amp &amp;" ∧
    Text.unescape "&amp;lt; &amp;amp &amp;".toList = "&lt; &amp &".toList := by
  decide

end TextTemplate
