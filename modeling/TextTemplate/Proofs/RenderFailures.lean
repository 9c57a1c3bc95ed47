import TextTemplate.Render

/-! The errors that an action may stop with. What an action may come to depends on the frames that it starts
in, and it leaves them as they are; so the errors of a render are known from those of its
actions, each in the frames that it really starts in. -/
namespace TextTemplate

namespace Render

variable {α β : Type} {frames inner : List Frame} {allowed other : Error → Prop} {x : Render α}

/-- Started in these frames, an action leaves them as they are, and stops only with errors for which
something holds. Breaking down is no error, and running out of a bound is none. -/
def FailsOnly (frames : List Frame) (allowed : Error → Prop) (x : Render α) : Prop :=
  ∀ s, s.frames = frames →
    (x s).2.frames = frames ∧ ∀ e, (x s).1 = .error (.failed (.reported e)) → allowed e

theorem FailsOnly.mono (fails : FailsOnly frames allowed x) (weaker : ∀ e, allowed e → other e) :
    FailsOnly frames other x := fun s start =>
  ⟨(fails s start).1, fun e stopped => weaker e ((fails s start).2 e stopped)⟩

theorem pure_fails (a : α) : FailsOnly frames allowed (Render.pure a) :=
  fun _ start => ⟨start, nofun⟩

theorem write_fails (text : String) : FailsOnly frames allowed (write text) :=
  fun _ start => ⟨start, nofun⟩

theorem get_fails : FailsOnly frames allowed get := fun _ start => ⟨start, nofun⟩

theorem exhaust_fails : FailsOnly frames allowed (exhaust : Render α) :=
  fun _ start => ⟨start, nofun⟩

theorem fail_fails {failure : Failure} (blamed : ∀ e, failure = .reported e → allowed e) :
    FailsOnly frames allowed (fail failure : Render α) :=
  fun _ start => ⟨start, fun e stopped => blamed e (by cases stopped; rfl)⟩

theorem report_fails {e : Error} (blamed : allowed e) :
    FailsOnly frames allowed (fail (.reported e) : Render α) :=
  fail_fails fun _ same => by
    cases same
    exact blamed

theorem ofExcept_fails {value : Except Failure α}
    (blamed : ∀ e, value = .error (.reported e) → allowed e) :
    FailsOnly frames allowed (ofExcept value) := by
  cases value with
  | ok a => exact pure_fails a
  | error failure => exact fail_fails fun e same => blamed e (by rw [same])

/-- What follows an action starts in the same frames, with a value that the action has come to. -/
theorem bind_fails {f : α → Render β} (first : FailsOnly frames allowed x)
    (next : ∀ a s, s.frames = frames → (x s).1 = .ok a → FailsOnly frames allowed (f a)) :
    FailsOnly frames allowed (Render.bind x f) := by
  intro s start
  obtain ⟨kept, blamed⟩ := first s start
  unfold Render.bind
  cases ended : x s with
  | mk result after =>
    rw [ended] at kept blamed
    cases result with
    | ok a => exact next a s start (by rw [ended]) after kept
    | error halt =>
      refine ⟨kept, fun e stopped => blamed e ?_⟩
      cases stopped
      rfl

/-- What follows a look at the state sees the frames. -/
theorem get_bind_fails {f : RenderState → Render α}
    (next : ∀ s, s.frames = frames → FailsOnly frames allowed (f s)) :
    FailsOnly frames allowed (Render.bind get f) :=
  bind_fails get_fails fun s _ start same => by
    cases same
    exact next s start

theorem eval_fails {f : Scopes → Except Failure α}
    (blamed : ∀ scopes e, f scopes = .error (.reported e) → allowed e) : FailsOnly frames allowed (eval f) :=
  get_bind_fails fun s _ => ofExcept_fails (blamed s.scopes)

/-- What follows a computation has its value. -/
theorem ofExcept_bind_fails {value : Except Failure α} {f : α → Render β}
    (blamed : ∀ e, value = .error (.reported e) → allowed e)
    (next : ∀ a, value = .ok a → FailsOnly frames allowed (f a)) :
    FailsOnly frames allowed (Render.bind (ofExcept value) f) :=
  bind_fails (ofExcept_fails blamed) fun a _ _ ended => next a (by
    cases value with
    | ok b =>
      cases ended
      rfl
    | error e => cases ended)

theorem mapError_fails {f : Error → Error} (fails : FailsOnly frames allowed x)
    (turned : ∀ e, allowed e → other (f e)) : FailsOnly frames other (mapError f x) := by
  intro s start
  obtain ⟨kept, blamed⟩ := fails s start
  unfold mapError
  split
  · rename_i failure after ended
    rw [ended] at kept blamed
    refine ⟨kept, fun _ same => ?_⟩
    cases failure with
    | reported e =>
      cases same
      exact turned e (blamed e rfl)
    | breakdown => cases same
  · rename_i unfailed
    exact ⟨kept, fun e stopped => (unfailed (.reported e) _ (Prod.ext stopped rfl)).elim⟩

/-- An action inside other frames that are left again. -/
theorem within_fails {enter leave : RenderState → RenderState} (fails : FailsOnly inner allowed x)
    (entered : ∀ s, s.frames = frames → (enter s).frames = inner)
    (left : ∀ s, s.frames = inner → (leave s).frames = frames) :
    FailsOnly frames allowed (within enter leave x) := fun s start =>
  have known := fails (enter s) (entered s start)
  ⟨left _ known.1, known.2⟩

theorem deeper_fails (fails : FailsOnly frames allowed x) : FailsOnly frames allowed (deeper x) :=
  within_fails fails (fun _ start => start) fun _ start => start

theorem inFrame_fails {chain : List Template} (fails : FailsOnly (⟨chain, []⟩ :: frames) allowed x) :
    FailsOnly frames allowed (inFrame chain x) :=
  within_fails fails (fun _ start => congrArg (⟨chain, []⟩ :: ·) start)
    fun _ start => congrArg List.tail start

/-- Frames with another innermost block in the innermost of them. -/
def activated (b : ActiveBlock) : List Frame → List Frame
  | [] => []
  | frame :: outer => { frame with active := b :: frame.active } :: outer

theorem inBlock_fails {b : ActiveBlock} (fails : FailsOnly (activated b frames) allowed x) :
    FailsOnly frames allowed (inBlock b x) := by
  refine within_fails fails (fun s start => ?_) fun s start => ?_
  · cases frames <;> simp only [mapActive, start, activated]
  · cases frames <;> simp only [mapActive, start, activated, List.tail_cons]

theorem inScope_fails {scope : Members} (fails : FailsOnly frames allowed x) :
    FailsOnly frames allowed (inScope scope x) := fun s start =>
  fails { s with scopes := s.scopes.push scope } start

theorem isolated_fails {base : Members} (fails : FailsOnly frames allowed x) :
    FailsOnly frames allowed (isolated base x) := fun s start =>
  fails { s with scopes := ⟨[], base⟩ } start

theorem capture_fails {x : Render Unit} (fails : FailsOnly frames allowed x) :
    FailsOnly frames allowed (capture x) := by
  intro s start
  obtain ⟨kept, blamed⟩ := fails { s with output := "" } start
  refine ⟨kept, fun e stopped => blamed e ?_⟩
  simp only [capture] at stopped
  cases ended : (x { s with output := "" }).1 with
  | ok u =>
    rw [ended] at stopped
    cases stopped
  | error halt =>
    rw [ended] at stopped
    cases stopped
    rfl

theorem each_fails {act : α → Render Unit} {items : List α}
    (fails : ∀ a ∈ items, FailsOnly frames allowed (act a)) :
    FailsOnly frames allowed (each act items) := by
  induction items with
  | nil => exact pure_fails ()
  | cons a rest ih =>
    exact bind_fails (fails a List.mem_cons_self) fun _ _ _ _ =>
      ih fun b member => fails b (List.mem_cons_of_mem a member)

theorem times_fails {x : Render Unit} (fails : FailsOnly frames allowed x) :
    ∀ n, FailsOnly frames allowed (times x n)
  | 0 => pure_fails ()
  | n + 1 => bind_fails fails fun _ _ _ _ => times_fails fails n

end Render

end TextTemplate
