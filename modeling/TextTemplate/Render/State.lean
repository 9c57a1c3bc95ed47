import TextTemplate.Error
import TextTemplate.Scopes
import TextTemplate.Template

/-! The state of a render and the actions on it. A render may nest: templates within templates, frames
for their chains of inheritance, blocks within a frame, scopes, and text that is collected
aside. Each such nesting is entered and left by one combinator, which leaves it after a
failure too, so that only the written output survives a failed action. -/
namespace TextTemplate

/-- A block whose definition is being rendered: its name, and how many overriding definitions have been
passed on the way to this one. -/
structure ActiveBlock where
  name : String
  level : Nat
  deriving DecidableEq

/-- A chain of templates, the most derived first, and the blocks of it that are being rendered, the
innermost first. -/
structure Frame where
  chain : List Template
  active : List ActiveBlock := []

/-- One definition of a block, with the name of the template that makes it. -/
structure Definition where
  template : String
  body : List Node

/-- The definitions of a block along a chain, the most derived first. -/
def Frame.definitions (f : Frame) (name : String) : List Definition :=
  f.chain.filterMap fun t => (t.block? name).map fun b => ⟨t.name, b.body⟩

/-- The state of a render: the number of templates entered, their frames, the innermost first, the
scopes, and what has been written. -/
structure RenderState where
  depth : Nat := 0
  frames : List Frame := []
  scopes : Scopes
  output : String := ""

/-- Why a render stops before its end: a failure, or the bound on its nesting. -/
inductive Halt where
  | failed (failure : Failure)
  | exhausted

/-- An action on the state of a render. The state after an error is known, too; what is said of it after
a breakdown or at the bound concerns nobody, for nothing goes on from there. -/
def Render (α : Type) : Type := RenderState → Except Halt α × RenderState

namespace Render

/-- Gives a value and changes nothing. -/
def pure {α : Type} (a : α) : Render α := fun s => (.ok a, s)

/-- Goes on with the value of an action, unless it stopped. -/
def bind {α β : Type} (x : Render α) (f : α → Render β) : Render β := fun s =>
  match x s with
  | (.ok a, s) => f a s
  | (.error halt, s) => (.error halt, s)

instance : Monad Render where
  pure := pure
  bind := bind

/-- The state. -/
def get : Render RenderState := fun s => (.ok s, s)

/-- Stops with a failure. -/
def fail {α : Type} (failure : Failure) : Render α := fun s => (.error (.failed failure), s)

/-- Stops at the bound on nesting. -/
def exhaust {α : Type} : Render α := fun s => (.error .exhausted, s)

/-- The value of a computation that does not depend on the state, or its failure. -/
def ofExcept {α : Type} : Except Failure α → Render α
  | .ok a => pure a
  | .error failure => fail failure

/-- Appends to the output. -/
def write (text : String) : Render Unit := fun s => (.ok (), { s with output := s.output ++ text })

/-- Changes the error that an action stops with. -/
def mapError {α : Type} (f : Error → Error) (x : Render α) : Render α := fun s =>
  match x s with
  | (.error (.failed failure), s) => (.error (.failed (failure.map f)), s)
  | result => result

/-- Enters, acts and leaves, whatever comes of the action. -/
def within {α : Type} (enter leave : RenderState → RenderState) (x : Render α) : Render α :=
  fun s =>
    let (result, s) := x (enter s)
    (result, leave s)

/-- Acts one template deeper. -/
def deeper {α : Type} (x : Render α) : Render α :=
  within (fun s => { s with depth := s.depth + 1 }) (fun s => { s with depth := s.depth - 1 }) x

/-- Acts in a new frame. -/
def inFrame {α : Type} (chain : List Template) (x : Render α) : Render α :=
  within (fun s => { s with frames := ⟨chain, []⟩ :: s.frames })
    (fun s => { s with frames := s.frames.tail }) x

/-- Changes the active blocks of the innermost frame. -/
def mapActive (f : List ActiveBlock → List ActiveBlock) (s : RenderState) : RenderState :=
  match s.frames with
  | [] => s
  | frame :: outer => { s with frames := { frame with active := f frame.active } :: outer }

/-- Acts inside a block of the innermost frame. -/
def inBlock {α : Type} (block : ActiveBlock) (x : Render α) : Render α :=
  within (mapActive (block :: ·)) (mapActive List.tail) x

/-- Acts with a scope added, and takes off afterwards what is above the former depth. -/
def inScope {α : Type} (scope : Members) (x : Render α) : Render α := fun s =>
  let (result, after) := x { s with scopes := s.scopes.push scope }
  (result, { after with scopes := after.scopes.truncate s.scopes.depth })

/-- Acts with nothing but the given variables, and takes the scopes up again afterwards. -/
def isolated {α : Type} (base : Members) (x : Render α) : Render α := fun s =>
  let (result, after) := x { s with scopes := ⟨[], base⟩ }
  (result, { after with scopes := s.scopes })

/-- The text that an action writes, which does not reach the output. -/
def capture (x : Render Unit) : Render String := fun s =>
  let (result, after) := x { s with output := "" }
  (result.map fun _ => after.output, { after with output := s.output })

/-- Acts on each item in order. -/
def each {α : Type} (act : α → Render Unit) : List α → Render Unit
  | [] => pure ()
  | a :: rest => bind (act a) fun _ => each act rest

/-- Acts a number of times. -/
def times (x : Render Unit) : Nat → Render Unit
  | 0 => pure ()
  | n + 1 => bind x fun _ => times x n

end Render

end TextTemplate
