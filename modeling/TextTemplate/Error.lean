import TextTemplate.Fault

/-! Errors: a fault with what is known of its place, or a template that was not found. The span is set
where the fault is detected, and the name of the template as the error leaves it; neither
replaces one that is there. A computation may also break down, which is no error: nobody is
left to report one. -/
namespace TextTemplate

/-- What a file system answers to a read that fails for another reason than absence. -/
inductive FileFault where
  | invalidInput
  | isADirectory
  | notADirectory
  | invalidData
  | nameTooLong
  deriving DecidableEq

/-- Where an error happened, as far as it is known. -/
structure Place where
  span : Option Span := none
  template : Option String := none
  deriving DecidableEq

/-- An error, possibly with the error that caused it. -/
inductive Error where
  | raised (fault : Fault) (place : Place)
  | causedBy (fault : Fault) (place : Place) (cause : Error)
  | notFound (name : String) (cause : Option FileFault)
  deriving DecidableEq

/-- The place in front of a message: the template, the line and the column, as far as known. -/
def Place.text (p : Place) : String :=
  match p.template, p.span with
  | none, none => ""
  | some name, none => " in " ++ name
  | none, some span => " in " ++ span.start.text
  | some name, some span => " in " ++ name ++ ":" ++ span.start.text

namespace Error

/-- A fault at an unknown place. -/
def ofFault (fault : Fault) : Error := .raised fault {}

/-- A fault in a span of a template that is not known yet. -/
def spanned (fault : Fault) (span : Span) : Error := .raised fault { span := some span }

/-- A fault in a span, caused by another error. -/
def caused (fault : Fault) (span : Span) (cause : Error) : Error :=
  .causedBy fault { span := some span } cause

/-- Changes the place of an error that has one. -/
def mapPlace (f : Place → Place) : Error → Error
  | .raised fault place => .raised fault (f place)
  | .causedBy fault place cause => .causedBy fault (f place) cause
  | .notFound name cause => .notFound name cause

/-- Attributes an error to a template, unless it is attributed already. -/
def inTemplate (name : String) (e : Error) : Error :=
  e.mapPlace fun place => { place with template := place.template.or (some name) }

/-- Gives an error a span, unless it has one. -/
def orSpan (span : Span) (e : Error) : Error :=
  e.mapPlace fun place => { place with span := place.span.or (some span) }

/-- The place of an error. -/
def place : Error → Place
  | .raised _ place | .causedBy _ place _ => place
  | .notFound _ _ => {}

/-- An error is placed at a span, in a template that is not known yet. -/
def At (e : Error) (span : Span) : Prop := e.place = ⟨some span, none⟩

/-- The bare message, without stage and place. -/
def message : Error → String
  | .raised fault _ | .causedBy fault _ _ => fault.message
  | .notFound name _ => "template not found: " ++ name

/-- The whole report: stage, place and message. -/
def display : Error → String
  | .raised fault place | .causedBy fault place _ =>
    fault.stage.text ++ " error" ++ place.text ++ ": " ++ fault.message
  | .notFound name cause => message (.notFound name cause)

end Error

/-- Why a computation gives no value: it reports an error, or it breaks down. -/
inductive Failure where
  | reported (e : Error)
  | breakdown
  deriving DecidableEq

/-- Changes the error that is reported. -/
def Failure.map (f : Error → Error) : Failure → Failure
  | .reported e => .reported (f e)
  | .breakdown => .breakdown

/-- Where a computation succeeds its first part does, and the rest does with the value of that. -/
theorem bind_ok {ε α β : Type} {x : Except ε α} {f : α → Except ε β} {b : β}
    (ended : x >>= f = .ok b) : ∃ a, x = .ok a ∧ f a = .ok b := by
  cases x with
  | error e => cases ended
  | ok a => exact ⟨a, rfl, ended⟩

/-- A computation has only errors that its first part has, or that the rest has with the value of that. -/
theorem bind_errors {ε α β : Type} {x : Except ε α} {f : α → Except ε β} {allowed : ε → Prop}
    (first : ∀ e, x = .error e → allowed e)
    (next : ∀ a, x = .ok a → ∀ e, f a = .error e → allowed e) :
    ∀ e, x >>= f = .error e → allowed e := by
  intro e failed
  cases x with
  | error other =>
    cases failed
    exact first e rfl
  | ok a => exact next a rfl e failed

end TextTemplate
