import TextTemplate.Environment
import TextTemplate.Proofs.Isolation
import TextTemplate.Proofs.WritingBack

/-! Templates of a single output. The source is one token, whose contents are the folded body; what is
written there is read as a pipeline; and the template gives the text of its value. -/
namespace TextTemplate

/-! The token of an output -/

namespace TokenKind

variable {kind : TokenKind} {c : Char} {cs : List Char}

/-- A character that neither opens quotes nor starts a closer is passed over. -/
theorem reaches_plain (plain : ¬ isQuote c ∧ c ≠ kind.closeMarker) :
    kind.Reaches none (c :: cs) ↔ kind.Reaches none cs := by
  rw [reaches_cons]
  simp [quoteStep, plain.1, plain.2]

theorem reaches_free (free : ∀ c ∈ cs, ¬ isQuote c ∧ c ≠ kind.closeMarker) : kind.Reaches none cs := by
  induction cs with
  | nil => exact reaches_nil.mpr rfl
  | cons c cs ih =>
    obtain ⟨first, others⟩ := List.forall_mem_cons.mp free
    exact (reaches_plain first).mpr (ih others)

end TokenKind

/-- The only token of a source that is an output has the folded body for its contents. -/
theorem tokenize_output {body : List Char} (tag : Segment.IsTag .output body false) :
    ∃ span, tokenize (String.ofList ("\x7b\x7b".toList ++ body ++ "\x7d\x7d".toList)) =
      [⟨.output, String.ofList (Text.fold body), span⟩] := by
  have cut : Segment.Cut [.tag .output body false] [] := .tag tag .done
  have source : "\x7b\x7b".toList ++ body ++ "\x7d\x7d".toList =
      Segment.sources [.tag .output body false] ++ [] := by
    simp [Segment.sources, Segment.source, TokenKind.openMarker, TokenKind.closeMarker]
  have found : Segment.split
      (String.ofList (Segment.sources [.tag .output body false] ++ [])).toList =
      ([.tag .output body false], []) := by
    rw [String.toList_ofList]
    exact cut.split
  rw [source, tokenize_eq found]
  exact ⟨_, rfl⟩

/-- The source with nothing but an output, with spaces around what is written in it. -/
def outputText (contents : String) : String := "\x7b\x7b " ++ contents ++ " \x7d\x7d"

/-- A line without quotes and braces is the contents of the output that it is written in, if it is
trimmed. -/
theorem tokenize_line {contents : String} (trimmed : Text.Trimmed Text.isBlank contents.toList)
    (line : '\n' ∉ contents.toList) (free : ∀ c ∈ contents.toList, ¬ isQuote c ∧ c ≠ '\x7d') :
    ∃ span, tokenize (outputText contents) = [⟨.output, contents, span⟩] := by
  let body : List Char := ' ' :: (contents.toList ++ [' '])
  have inside : ∀ c ∈ TokenKind.output.openMarker :: body, ¬ isQuote c ∧ c ≠ '\x7d' := by
    refine List.forall_mem_cons.mpr ⟨by decide, List.forall_mem_cons.mpr ⟨by decide, ?_⟩⟩
    exact List.forall_mem_append.mpr ⟨free, List.forall_mem_singleton.mpr (by decide)⟩
  obtain ⟨span, tokens⟩ := tokenize_output
    (⟨nofun, TokenKind.reaches_free inside, nofun⟩ : Segment.IsTag .output body false)
  have source : outputText contents = String.ofList ("\x7b\x7b".toList ++ body ++ "\x7d\x7d".toList) :=
    String.toList_injective (by simp [outputText, body])
  rw [Text.fold_wrapped trimmed line, String.ofList_toList] at tokens
  exact ⟨span, by rw [source, tokens]⟩

/-! The template of an output -/

/-- A source with nothing but an output compiles if a pipeline is written in it. -/
theorem ofSource_output {tags : Table Tag} {name source contents : String} {span : Span}
    {p : Pipeline} (tokens : tokenize source = [⟨.output, contents, span⟩]) (written : contents ≠ "")
    (read : Pipeline.ofText span contents = .ok p) :
    Template.ofSource tags name source =
      .ok ⟨name, source, [.output span contents p], none, .empty⟩ := by
  have stepped : Parsing.step tags {} ⟨.output, contents, span⟩ none =
      .ok { Parsing.push {} (.output span contents p) with anyTag := true } := by
    simp only [Parsing.step, Parsing.readOutput, if_neg written, read]
    rfl
  rw [Template.ofSource, tokens, Template.ofTokens, Parsing.run]
  simp only [List.head?_nil, stepped]
  rfl

/-- It does not compile if no pipeline is written there. -/
theorem ofSource_output_fault {tags : Table Tag} {name source contents : String} {span : Span}
    {fault : Fault} (tokens : tokenize source = [⟨.output, contents, span⟩]) (written : contents ≠ "")
    (failed : Pipeline.ofText span contents = .error fault) :
    Template.ofSource tags name source = .error ((Error.spanned fault span).inTemplate name) := by
  have stepped : Parsing.step tags {} ⟨.output, contents, span⟩ none = .error (.spanned fault span) := by
    simp only [Parsing.step, Parsing.readOutput, if_neg written, failed]
  rw [Template.ofSource, tokens, Template.ofTokens, Parsing.run]
  simp only [List.head?_nil, stepped]
  rfl

/-- An output writes the text of its value, escaped as the output asks for. -/
theorem output_effect {env : Environment} {span : Span} {contents : String} {p : Pipeline} {value : Value}
    {s : RenderState} (plain : p.isSuper = false) (evaluated : env.evalPipeline s.scopes p = .ok value)
    (bound : Nat) : (Render.node env (bound + 1) (.output span contents p)).effect s =
      ⟨.ok (), Render.escaped env p value.text⟩ := by
  have written := (Render.bind_acts (Render.eval_acts fun scopes => env.evalPipeline scopes p)
    fun value => Render.write_acts (Render.escaped env p value.text)).effect_eq s
  have chosen : Render.node env (bound + 1) (.output span contents p) =
      Render.bind (Render.eval fun scopes => env.evalPipeline scopes p) fun value =>
        Render.write (Render.escaped env p value.text) := by
    rw [Render.node, Render.step, Render.output, plain]
    rfl
  rw [chosen, written, evaluated]
  exact Effect.andThen_pure value _

/-- The same of a list of nodes with nothing but an output. -/
theorem nodes_output_effect {env : Environment} {span : Span} {contents : String} {p : Pipeline}
    {value : Value} {s : RenderState} (plain : p.isSuper = false)
    (evaluated : env.evalPipeline s.scopes p = .ok value) (bound : Nat) :
    (Render.nodes (Render.node env (bound + 1)) [.output span contents p]).effect s =
      ⟨.ok (), Render.escaped env p value.text⟩ := by
  have whole := (Render.bind_acts (Render.node_tidy env (bound + 1) (.output span contents p)) fun _ =>
    Render.pure_acts ()).effect_eq s
  rw [output_effect plain evaluated, Effect.andThen_ok rfl, String.append_empty] at whole
  exact whole

/-- A template with nothing but an output gives the text of its value, escaped as the output asks for. -/
theorem render_output {env : Environment} {t : Template} {span : Span} {contents : String}
    {p : Pipeline} {value : Value} {data : Value} (root : t.root = [.output span contents p])
    (top : t.parent = none) (plain : p.isSuper = false) (room : 1 ≤ env.options.maxDepth)
    (evaluated : env.evalPipeline (Scopes.ofData data) p = .ok value) (bound : Nat) :
    env.render (bound + 1) t data = .ok (Render.escaped env p value.text) := by
  have entered : ¬ env.options.maxDepth ≤ 0 := by omega
  rw [Environment.render_ok_iff, Render.template_effect _ (Render.node_tidy _ _), if_neg entered,
    resolveChain_root top]
  have inside : env.evalPipeline
      (RenderState.entered (RenderState.deeper { scopes := Scopes.ofData data }) [t]).scopes p = .ok value :=
    evaluated
  simp only [List.getLastD_cons, List.getLastD_nil, root]
  exact congrArg (Effect.mapError _) (nodes_output_effect plain inside bound)

end TextTemplate
