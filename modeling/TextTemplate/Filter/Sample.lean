import TextTemplate.Filter

/-! Filters of the kinds that a host may add: one that makes markup, one that shows what it was given,
one that looks inside the value, and one that always fails. -/
namespace TextTemplate.Filter

/-- The text of the value in angle brackets. -/
def bracket : Filter := fun value _ => .ok (.string ("<" ++ value.text ++ ">"))

/-- The value and the arguments, in one array. -/
def gather : Filter := fun value args => .ok (.array (value :: args))

/-- The member of an object under the name that the first argument gives, null if there is none. Without
a name as first argument the empty name is looked for. -/
def member : Filter := fun value args =>
  let name := match args.head? with
    | some (.string name) => name
    | _ => ""
  match value with
  | .object members => .ok ((Table.get? members name).getD .null)
  | _ => .ok .null

/-- A failure that tells the text of the value. -/
def refuse : Filter := fun value _ =>
  .error (.reported (.ofFault (.custom .expression ("boom " ++ value.text))))

end TextTemplate.Filter
