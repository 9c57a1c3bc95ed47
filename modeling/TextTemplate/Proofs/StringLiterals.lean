import TextTemplate.Proofs.ExpressionReading
import TextTemplate.Proofs.SingleOutputs

/-! String literals. What stands between quotes in an output reaches the output as it is: the scan for
the closer passes over it, folding changes nothing but the ends of its lines, the lexeme is
read up to the closing quote, and no filter, scope or option has a part in its value. -/
namespace TextTemplate

/-! Folding around a literal -/

namespace Text

variable {cs line s w : List Char} {c : Char}

/-- A text that ends without a blank and holds no line feed, such as what follows a literal in a tag. -/
structure Solid (cs : List Char) : Prop where
  last : ∀ c ∈ cs.getLast?, ¬ isBlank c
  single : '\n' ∉ cs

/-- The blanks at the start of a line end at a character that is none. -/
theorem dropBlanks_upTo (visible : ¬ isBlank c) (s w : List Char) :
    (s ++ c :: w).dropWhile isBlank = s.dropWhile isBlank ++ c :: w := by
  rw [List.dropWhile_append, List.dropWhile_cons_of_neg visible]
  split
  · rename_i empty
    rw [List.isEmpty_iff.mp empty, List.nil_append]
  · rfl

/-- Folding leaves alone what follows a character that is no blank, if that is in the last line. -/
theorem fold_upTo (visible : ¬ isBlank c) (s : List Char) :
    ∃ u, ∀ w, Solid (c :: w) → fold (s ++ c :: w) = u ++ c :: w := by
  induction s using lines_induction with
  | single line free =>
    refine ⟨line.dropWhile isBlank, fun w solid => ?_⟩
    have last : ∀ d ∈ (line.dropWhile isBlank ++ c :: w).getLast?, ¬ isBlank d := by
      rw [List.getLast?_append_of_ne_nil _ (List.cons_ne_nil c w)]
      exact solid.last
    rw [fold_single (by simpa [free] using solid.single), trimWith, dropBlanks_upTo visible,
      dropWhile_reverse_of_last _ last, List.reverse_reverse]
  | several line rest free ih =>
    obtain ⟨u, folded⟩ := ih
    refine ⟨if trimWith isBlank line = [] then u else trimWith isBlank line ++ ' ' :: u,
      fun w solid => ?_⟩
    rw [List.append_assoc, List.cons_append, fold_several free, folded w solid, joinFolded]
    split <;> simp

theorem isInk_iff : isInk c ↔ ¬ isBlank c ∧ '\n' ≠ c := by
  rw [isInk, Bool.not_eq_true', Bool.or_eq_false_iff, decide_eq_false_iff_not, Bool.not_eq_true,
    ne_comm]

/-- A quoted text is folded by itself: what it becomes does not depend on what follows the closing quote,
and the quotes are still those at its ends. Only a line feed changes it. -/
theorem fold_quoted {q : Char} (inked : isInk q) (free : q ∉ s) : ∃ t,
    (∀ w, Solid (q :: w) → fold (q :: (s ++ q :: w)) = q :: (t ++ q :: w)) ∧ q ∉ t ∧
      ('\n' ∉ s → t = s) := by
  obtain ⟨visible, other⟩ := isInk_iff.mp inked
  have closing : Solid [q] := ⟨by simpa using visible, by simpa using other⟩
  obtain ⟨u, folded⟩ := fold_upTo visible (q :: s)
  have alone := folded [] closing
  -- The first character that folding leaves is visible, so it is the opening quote.
  have kept : ink (u ++ [q]) = q :: (ink s ++ [q]) := by
    rw [← alone, fold_ink]
    simp [ink, inked]
  obtain ⟨t, rfl, same⟩ : ∃ t, u = q :: t ∧ ink t = ink s := by
    cases u with
    | nil =>
      have lengths := congrArg List.length kept
      simp [ink, inked] at lengths
    | cons d t =>
      have first : isInk d := by
        have starts := (fold_trimmed (q :: s ++ [q])).first d (by rw [alone]; rfl)
        have single := fold_newline_free (q :: s ++ [q])
        rw [alone] at single
        exact isInk_iff.mpr ⟨starts, fun same => single (same ▸ List.mem_cons_self)⟩
      have parts : d :: (ink t ++ [q]) = q :: (ink s ++ [q]) := by
        rw [← kept]
        simp [ink, inked, first]
      obtain ⟨rfl, parts⟩ := List.cons.inj parts
      exact ⟨t, rfl, List.append_cancel_right parts⟩
  refine ⟨t, folded, fun member => free ?_, fun single => ?_⟩
  · have remains : q ∈ ink t := List.mem_filter.mpr ⟨member, inked⟩
    rw [same] at remains
    exact List.mem_of_mem_filter remains
  · have line : '\n' ∉ q :: s ++ [q] := by simp [other, single]
    have whole : Trimmed isBlank (q :: s ++ [q]) := by
      refine ⟨by simpa using visible, ?_⟩
      rw [List.getLast?_append_of_ne_nil _ (List.cons_ne_nil q [])]
      exact closing.last
    rw [fold_single line, trimWith_of_trimmed isBlank whole] at alone
    exact (List.cons.inj (List.append_cancel_right alone)).2.symm

end Text

/-! The closer behind a literal -/

namespace TokenKind

variable {kind : TokenKind} {q : Char} {s rest : List Char}

/-- No closer is seen before the quote that has been opened is closed, whatever stands between. -/
theorem reaches_quoted (free : q ∉ s) :
    kind.Reaches (some q) (s ++ q :: rest) ↔ kind.Reaches none rest := by
  induction s with
  | nil => simp [reaches_cons, quoteStep]
  | cons c s ih =>
    obtain ⟨other, free⟩ : q ≠ c ∧ q ∉ s := by simpa using free
    rw [List.cons_append, reaches_cons]
    simp only [reduceCtorEq, false_and, not_false_eq_true, true_and, quoteStep, other.symm, if_false]
    exact ih free

end TokenKind

/-- A literal in an output, behind the opening quote: the text, the closing quote, and what follows. -/
def literalBody (s w : List Char) : List Char := ' ' :: '\x27' :: (s ++ '\x27' :: (w ++ [' ']))

/-- What may follow a literal in an output for the output to end where it seems to. -/
structure Follows (w : List Char) : Prop where
  solid : Text.Solid ('\x27' :: w)
  free : ∀ c ∈ w, ¬ isQuote c ∧ c ≠ '\x7d'

theorem follows_safe : Follows "|safe".toList :=
  ⟨⟨by simp [Text.isBlank], by decide⟩, by simp [isQuote]⟩

theorem follows_nothing : Follows [] := ⟨⟨by simp [Text.isBlank], by decide⟩, nofun⟩

section Reading

variable {s t w : List Char}

/-- An output that starts with a literal ends at its closer, whatever the literal holds. -/
theorem literal_isTag (free : '\x27' ∉ s) (follows : Follows w) :
    Segment.IsTag .output (literalBody s w) false := by
  refine ⟨nofun, ?_, nofun⟩
  have behind : TokenKind.output.Reaches none (w ++ [' ']) := TokenKind.reaches_free fun c member => by
    rcases List.mem_append.mp member with member | member
    · exact follows.free c member
    · obtain rfl := List.mem_singleton.mp member
      decide
  have opened : TokenKind.output.Reaches none ('\x27' :: (s ++ '\x27' :: (w ++ [' ']))) :=
    TokenKind.reaches_cons.mpr ⟨fun closes => absurd closes.2.1 (by decide),
      (TokenKind.reaches_quoted free).mpr behind⟩
  exact (TokenKind.reaches_plain (by decide)).mpr ((TokenKind.reaches_plain (by decide)).mpr opened)

/-- The only token of such an output has the folded literal for its contents. -/
theorem tokenize_literal (free : '\x27' ∉ s) (follows : Follows w)
    (folded : Text.fold ('\x27' :: (s ++ '\x27' :: w)) = '\x27' :: (t ++ '\x27' :: w)) :
    ∃ span, tokenize (String.ofList ("\x7b\x7b".toList ++ literalBody s w ++ "\x7d\x7d".toList)) =
      [⟨.output, String.ofList ('\x27' :: (t ++ '\x27' :: w)), span⟩] := by
  have contents : Text.fold (literalBody s w) = '\x27' :: (t ++ '\x27' :: w) := by
    have padded : literalBody s w = ' ' :: (('\x27' :: (s ++ '\x27' :: w)) ++ [' ']) := by
      simp [literalBody]
    rw [padded, Text.fold_cons (.inl rfl), Text.fold_concat (.inl rfl), folded]
  rw [← contents]
  exact tokenize_output (literal_isTag free follows)

/-- A closing quote ends the string that its opening quote starts. -/
theorem splitQuote_append {q : Char} (free : q ∉ t) :
    Lexeme.splitQuote q (t ++ q :: w) = some (t, w) := by
  induction t with
  | nil => simp [Lexeme.splitQuote]
  | cons c t ih =>
    obtain ⟨other, free⟩ : q ≠ c ∧ q ∉ t := by simpa using free
    simp [Lexeme.splitQuote, other.symm, ih free]

theorem ofText_quoted (free : '\x27' ∉ t) : Lexeme.ofText ('\x27' :: (t ++ '\x27' :: w)) =
    (Lexeme.ofText w).map (.string (String.ofList t) :: ·) := by
  have first : Lexeme.next '\x27' (t ++ '\x27' :: w) = .ok (.string (String.ofList t), w) := by
    have string : Lexeme.next '\x27' (t ++ '\x27' :: w) =
        Lexeme.stringAfter '\x27' (t ++ '\x27' :: w) := rfl
    rw [string, Lexeme.stringAfter, splitQuote_append free]
  exact Lexeme.ofText_next (by decide) first

/-- A quoted text and filters behind it are read as a pipeline with the text at its head. -/
theorem pipeline_literal (free : '\x27' ∉ t) {filters : List FilterForm}
    (lexed : Lexeme.ofText w = .ok (following .pipe FilterForm.lexemes filters)) (span : Span) :
    Pipeline.ofText span (String.ofList ('\x27' :: (t ++ '\x27' :: w))) =
      .ok ⟨span, .literal (.string (String.ofList t)), filters.map FilterForm.meaning⟩ := by
  refine Pipeline.ofText_iff.mpr ⟨⟨.string (String.ofList t), filters⟩, ?_, rfl⟩
  rw [String.toList_ofList, ofText_quoted free, lexed]
  rfl

end Reading

/-! What a literal gives -/

/-- A source compiles under every name, and gives the text for all data. -/
def Environment.Gives (env : Environment) (source text : String) : Prop :=
  ∀ name, ∃ t, env.template name source = .ok t ∧
    ∀ data bound, env.render (bound + 1) t data = .ok text

section Rendering

variable {env : Environment} {s t w : List Char}

/-- An output of a literal gives the literal as it is folded, if the filters behind it hand it on, and
escaped as they ask for. -/
theorem literal_gives (room : 1 ≤ env.options.maxDepth) (free : '\x27' ∉ s) (clean : '\x27' ∉ t)
    (follows : Follows w) (folded : Text.fold ('\x27' :: (s ++ '\x27' :: w)) = '\x27' :: (t ++ '\x27' :: w))
    {filters : List FilterForm}
    (lexed : Lexeme.ofText w = .ok (following .pipe FilterForm.lexemes filters))
    (passed : ∀ scopes span, env.applyFilters scopes span (filters.map FilterForm.meaning)
      (.string (String.ofList t)) = .ok (.string (String.ofList t)))
    {text : String} (shown : ∀ p : Pipeline, p.filters = filters.map FilterForm.meaning →
      Render.escaped env p (String.ofList t) = text) :
    env.Gives (String.ofList ("\x7b\x7b".toList ++ literalBody s w ++ "\x7d\x7d".toList)) text := by
  obtain ⟨span, tokens⟩ := tokenize_literal free follows folded
  let p : Pipeline :=
    ⟨span, .literal (.string (String.ofList t)), filters.map FilterForm.meaning⟩
  have written : String.ofList ('\x27' :: (t ++ '\x27' :: w)) ≠ "" := fun empty => by
    have lengths := congrArg (fun text => text.toList.length) empty
    simp at lengths
  refine fun name => ⟨_, ofSource_output tokens written (pipeline_literal clean lexed span),
    fun data bound => ?_⟩
  have evaluated : env.evalPipeline (Scopes.ofData data) p = .ok (.string (String.ofList t)) :=
    passed (Scopes.ofData data) span
  exact (render_output rfl rfl rfl room evaluated bound).trans (congrArg _ (shown p rfl))

/-- A literal that is marked as safe gives itself, wherever the mark has its built-in meaning. -/
theorem literal_gives_safe (room : 1 ≤ env.options.maxDepth)
    (marked : Table.get? env.filters "safe" = some ⟨Filter.safe, true⟩) (free : '\x27' ∉ s)
    (clean : '\x27' ∉ t) (folded : Text.fold ('\x27' :: (s ++ '\x27' :: "|safe".toList)) =
      '\x27' :: (t ++ '\x27' :: "|safe".toList)) :
    env.Gives (String.ofList ("\x7b\x7b".toList ++ literalBody s "|safe".toList ++ "\x7d\x7d".toList))
      (String.ofList t) := by
  have lexed : Lexeme.ofText "|safe".toList =
      .ok (following .pipe FilterForm.lexemes [⟨"safe", .absent⟩]) := by
    decide +kernel
  refine literal_gives room free clean follows_safe folded lexed ?_ ?_
  · intro scopes span
    simp [FilterForm.meaning, ArgumentsForm.meaning, Environment.applyFilters, Environment.applyFilter,
      Environment.evalArgs, marked, Filter.safe, bind, Except.bind]
  · intro p safe
    simp [Render.escaped, safe, FilterForm.meaning, FilterCatalog.isSafe, marked]

/-- A literal by itself gives what the escaper makes of it. -/
theorem literal_gives_escaped (room : 1 ≤ env.options.maxDepth) (escapes : env.options.autoescape)
    (free : '\x27' ∉ s) (clean : '\x27' ∉ t)
    (folded : Text.fold ('\x27' :: (s ++ '\x27' :: [])) = '\x27' :: (t ++ '\x27' :: [])) :
    env.Gives (String.ofList ("\x7b\x7b".toList ++ literalBody s [] ++ "\x7d\x7d".toList))
      (env.escape (String.ofList t)) := by
  have lexed : Lexeme.ofText [] = .ok (following .pipe FilterForm.lexemes []) := by
    decide +kernel
  refine literal_gives room free clean follows_nothing folded lexed (fun _ _ => rfl) ?_
  intro p plain
  simp [Render.escaped, plain, escapes]

end Rendering

/-- The two built-in settings mark `safe` as escaped already and escape for HTML. -/
theorem settings_safe : ∀ setting : Environment,
    setting = Environment.builtin ∨ setting = Environment.standard →
      Table.get? setting.filters "safe" = some ⟨Filter.safe, true⟩ ∧
        setting.escape = Text.escapeHtml := by
  rintro setting (rfl | rfl)
  · exact ⟨rfl, rfl⟩
  · exact ⟨rfl, rfl⟩

/-- A string literal reaches the output unharmed. What a text between quotes becomes in an output is the
text between the quotes after folding, which is the text itself if it is a single line. Marked as
safe it is written as it is, and otherwise escaped; neither the options nor the data matter
beyond that. -/
theorem literal_unharmed (s : String) (unquoted : '\x27' ∉ s.toList) : ∃ t : String,
    Text.fold ("\x27" ++ s ++ "\x27|safe").toList = ("\x27" ++ t ++ "\x27|safe").toList ∧
    ('\n' ∉ s.toList → t = s) ∧
    ∀ setting, setting = Environment.builtin ∨ setting = Environment.standard →
      ∀ options : RenderOptions, 1 ≤ options.maxDepth →
        let env := { setting with options := options }
        env.Gives ("\x7b\x7b \x27" ++ s ++ "\x27|safe \x7d\x7d") t ∧
          (options.autoescape → env.Gives ("\x7b\x7b \x27" ++ s ++ "\x27 \x7d\x7d") (Text.escapeHtml t)) := by
  obtain ⟨t, folded, clean, single⟩ := Text.fold_quoted (q := '\x27') rfl unquoted
  have marked : Text.fold ('\x27' :: (s.toList ++ '\x27' :: "|safe".toList)) = _ :=
    folded "|safe".toList follows_safe.solid
  have alone : Text.fold ('\x27' :: (s.toList ++ '\x27' :: [])) = _ :=
    folded [] follows_nothing.solid
  have source (w : List Char) (tail : String) (ends : tail.toList = '\x27' :: (w ++ " \x7d\x7d".toList)) :
      String.ofList ("\x7b\x7b".toList ++ literalBody s.toList w ++ "\x7d\x7d".toList) =
        "\x7b\x7b \x27" ++ s ++ tail := by
    refine String.toList_injective ?_
    simp [literalBody, ends]
  refine ⟨String.ofList t, by simpa using marked, fun line => ?_, ?_⟩
  · rw [single line, String.ofList_toList]
  · intro setting known options deep env
    obtain ⟨safe, escape⟩ := settings_safe setting known
    have room : 1 ≤ env.options.maxDepth := deep
    refine ⟨?_, fun escapes => ?_⟩
    · rw [← source "|safe".toList "\x27|safe \x7d\x7d" rfl]
      exact literal_gives_safe room safe unquoted clean marked
    · rw [← source [] "\x27 \x7d\x7d" rfl, ← escape]
      exact literal_gives_escaped room escapes unquoted clean alone

/-- Delimiters, other quotes and a line feed inside of a literal. -/
theorem literal_unharmed_delimiters :
    '\x27' ∉ "a\x7d\x7d \n \x7b% \"b\" #\x7d|c".toList ∧
    Environment.standard.Gives "\x7b\x7b \x27a\x7d\x7d \n \x7b% \"b\" #\x7d|c\x27|safe \x7d\x7d"
      "a\x7d\x7d \x7b% \"b\" #\x7d|c" ∧
    Environment.builtin.Gives "\x7b\x7b \x27a\x7d\x7d \n \x7b% \"b\" #\x7d|c\x27 \x7d\x7d"
      "a\x7d\x7d \x7b% &#34;b&#34; #\x7d|c" := by
  have unquoted : '\x27' ∉ "a\x7d\x7d \n \x7b% \"b\" #\x7d|c".toList := by decide
  obtain ⟨t, folded, -, gives⟩ := literal_unharmed "a\x7d\x7d \n \x7b% \"b\" #\x7d|c" unquoted
  have known : Text.fold ("\x27" ++ "a\x7d\x7d \n \x7b% \"b\" #\x7d|c" ++ "\x27|safe").toList =
      ("\x27" ++ "a\x7d\x7d \x7b% \"b\" #\x7d|c" ++ "\x27|safe").toList := by decide +kernel
  have same : t = "a\x7d\x7d \x7b% \"b\" #\x7d|c" := by
    refine String.toList_injective ?_
    have ends := known.symm.trans folded
    simp only [String.toList_append] at ends
    exact (List.append_cancel_left (List.append_cancel_right ends)).symm
  subst same
  exact ⟨unquoted, (gives .standard (.inr rfl) {} (by decide)).1,
    (gives .builtin (.inl rfl) {} (by decide)).2 rfl⟩

end TextTemplate
