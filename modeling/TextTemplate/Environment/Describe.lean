import TextTemplate.Environment
import TextTemplate.Text.Visible

/-! A readable account of a setting and of a template, for logs: which filters and tags are registered,
which options hold, what the template is called and what its source is. -/
namespace TextTemplate

/-- A character of a quoted text in an account. One that would not show as a shape of its own is given
by its code point. -/
def accountChar (c : Char) : List Char :=
  if c = '"' then ['\\', '"']
  else if c = '\\' then ['\\', '\\']
  else if c = '\n' then ['\\', 'n']
  else if c = '\r' then ['\\', 'r']
  else if c = '\t' then ['\\', 't']
  else if c = '\x00' then ['\\', '0']
  else if Text.isVisible c then [c]
  else '\\' :: 'u' :: '\x7b' :: (Nat.toDigits 16 c.toNat ++ ['\x7d'])

/-- A text between quotes, with quotes, backslashes and what does not show escaped. -/
def accountText (s : String) : String :=
  String.ofList ('"' :: s.toList.flatMap accountChar ++ ['"'])

/-- Names between brackets. -/
def accountNames (names : List String) : String :=
  "[" ++ ", ".intercalate (names.map accountText) ++ "]"

/-- A truth value in words. -/
def accountBool (b : Bool) : String := if b then "true" else "false"

/-- An account of options. -/
def RenderOptions.describe (o : RenderOptions) : String :=
  "RenderOptions \x7b strict_undefined: " ++ accountBool o.strictUndefined ++ ", autoescape: " ++
    accountBool o.autoescape ++ ", max_depth: " ++ toString o.maxDepth ++ " \x7d"

/-- An account of a setting. -/
def Environment.describe (env : Environment) : String :=
  "Environment \x7b has_loader: " ++ accountBool env.loader.isSome ++ ", filters: " ++
    accountNames (Table.keys env.filters) ++ ", tags: TagRegistry \x7b tags: " ++
    accountNames (Table.keys env.tags) ++ " \x7d, options: " ++ env.options.describe ++ ", .. \x7d"

/-- An account of a template. -/
def Template.describe (t : Template) : String :=
  "Template \x7b name: " ++ accountText t.name ++ ", source: " ++ accountText t.source ++ " \x7d"

end TextTemplate
