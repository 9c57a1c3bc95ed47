import TextTemplate.Proofs.Folding
import TextTemplate.Proofs.SourceSlices
import TextTemplate.Filter

/-! Indentation. Arguments ask for a width, for what fills it and whether the first line is indented as well;
other arguments are refused. Each line stands in the indented text as it is or behind the margin, so that
no line is lost, none ends in another way, and empty lines stay empty. -/
namespace TextTemplate

/-- What is done to each line, whatever its place, relates the lines before to the lines after. -/
theorem forall₂_mapIdx {α β : Type} {R : α → β → Prop} {f : Nat → α → β}
    (each : ∀ number a, R a (f number a)) (items : List α) : List.Forall₂ R items (items.mapIdx f) := by
  induction items generalizing f with
  | nil => exact .nil
  | cons a rest ih =>
    rw [List.mapIdx_cons]
    exact .cons (each 0 a) (ih fun number => each (number + 1))

namespace Filter

variable {value : Value} {args : List Value} {i : Indentation}

/-- The text that an argument gives, or that stands in for it, is what the arguments hold there. -/
theorem stringArg_getD {filter byDefault : String} {position : Nat} {text : Option String}
    (read : stringArg filter args position = .ok text) :
    args[position]?.getD (.string byDefault) = .string (text.getD byDefault) := by
  rw [stringArg_ok_iff.mp read]
  cases text <;> rfl

theorem stringArg_given {filter byDefault s : String} {position : Nat}
    (asked : args[position]?.getD (.string byDefault) = .string s) :
    ∃ text, stringArg filter args position = .ok text ∧ text.getD byDefault = s := by
  cases found : args[position]? with
  | none =>
    rw [found] at asked
    exact ⟨none, stringArg_ok_iff.mpr found, Value.string.inj asked⟩
  | some arg =>
    rw [found] at asked
    obtain rfl : arg = .string s := asked
    exact ⟨some s, stringArg_ok_iff.mpr found, rfl⟩

namespace Indentation

/-- Arguments that ask for an indentation: the width, the text that fills it, and whether the first line is
indented as well. Each of them may be left out, and the last may be anything. -/
structure Asked (args : List Value) (i : Indentation) : Prop where
  width : args[0]?.getD (.ofNat 4) = .ofNat i.width
  fill : args[1]?.getD (.string " ") = .string i.fill
  first : args[2]?.any Value.isTruthy = i.first

/-- A line of a text as it stands in the indented text. Lines are counted from zero. -/
def lineAt (i : Indentation) (number : Nat) (line : List Char) : List Char :=
  if line = [] ∨ (number = 0 ∧ i.first = false) then line else i.margin ++ line

theorem widthOf_read {arg : Option Value} {width : Nat} (read : widthOf arg = .ok width) :
    arg.getD (.ofNat 4) = .ofNat width := by
  unfold widthOf at read
  split at read
  · cases read
    rfl
  · split at read
    · rename_i natural
      cases read
      rw [Number.toNat?_eq_some_iff.mp natural]
      rfl
    · cases read
  · cases read

theorem widthOf_given {arg : Option Value} {width : Nat} (asked : arg.getD (.ofNat 4) = .ofNat width) :
    widthOf arg = .ok width := by
  cases arg with
  | none =>
    have same := Number.integer.inj (Value.number.inj asked)
    rw [widthOf, Int.ofNat.inj same]
  | some arg =>
    obtain rfl : arg = .ofNat width := asked
    have natural := Number.toNat?_eq_some_iff.mpr (rfl : Number.integer width = .integer width)
    simp only [widthOf, Value.ofNat, natural]

theorem widthOf_error {arg : Option Value} {e : Failure} (failed : widthOf arg = .error e) :
    e = .reported (.ofFault .invalidWidth) := by
  unfold widthOf at failed
  split at failed
  · cases failed
  · split at failed <;> cases failed
    rfl
  · cases failed
    rfl

/-- The arguments that are accepted are those that ask for an indentation. -/
theorem ofArgs_ok_iff : ofArgs args = .ok i ↔ Asked args i := by
  constructor
  · intro made
    obtain ⟨width, read, filled⟩ := bind_ok made
    obtain ⟨fill, found, rest⟩ := bind_ok filled
    cases rest
    exact ⟨widthOf_read read, stringArg_getD found, rfl⟩
  · rintro ⟨width, fill, first⟩
    obtain ⟨text, found, same⟩ := @stringArg_given args "indent" " " i.fill 1 fill
    unfold ofArgs
    rw [widthOf_given width, found, first]
    cases i
    cases same
    rfl

/-- Other arguments are refused, for the width or for what fills it. -/
theorem ofArgs_error {e : Failure} (failed : ofArgs args = .error e) :
    ∃ fault ∈ [Fault.invalidWidth, .stringExpected "indent" 2], e = .reported (.ofFault fault) := by
  revert failed
  apply bind_errors
  · intro e failed
    exact ⟨_, List.mem_cons_self, widthOf_error failed⟩
  · intro width _
    apply bind_errors
    · intro e failed
      exact ⟨_, List.mem_cons_of_mem _ List.mem_cons_self, stringArg_error failed⟩
    · intro text _ e failed
      cases failed

/-- The margin has the bytes of the filling text as often as it is wide. -/
theorem margin_size (i : Indentation) :
    (String.ofList i.margin).utf8ByteSize = i.width * i.fill.utf8ByteSize := by
  obtain ⟨width, fill, first⟩ := i
  have repeated : ∀ count, (String.ofList (List.replicate count fill.toList).flatten).utf8ByteSize =
      count * fill.utf8ByteSize := by
    intro count
    induction count with
    | zero => simp
    | succ count ih =>
      rw [List.replicate_succ, List.flatten_cons, String.ofList_append, String.utf8ByteSize_append, ih,
        String.ofList_toList, Nat.succ_mul, Nat.add_comm]
  unfold margin Text.replicate
  split
  · rename_i empty
    obtain rfl : fill = "" := String.toList_eq_nil_iff.mp (List.isEmpty_iff.mp empty)
    simp
  · exact repeated width

/-- A line ends as it did, and an empty one stays empty. -/
theorem lineAt_keeps (i : Indentation) (number : Nat) (line : List Char) :
    line <:+ i.lineAt number line ∧ (line = [] → i.lineAt number line = []) := by
  unfold lineAt
  split
  · exact ⟨List.suffix_rfl, id⟩
  · rename_i indented
    exact ⟨List.suffix_append i.margin line, fun empty => absurd (.inl empty) indented⟩

/-- The lines of the indented text are those of the text, each as it stands there. -/
theorem indentLines_eq (i : Indentation) (lines : List (List Char)) :
    (if i.first then indentLines i.margin lines
      else lines.take 1 ++ indentLines i.margin (lines.drop 1)) = lines.mapIdx i.lineAt := by
  have later (number : Nat) : i.lineAt (number + 1) = fun line =>
      if line.isEmpty then line else i.margin ++ line := by
    funext line
    cases line <;> simp [lineAt]
  cases lines with
  | nil => simp [indentLines]
  | cons line rest =>
    have others : rest.mapIdx (fun number => i.lineAt (number + 1)) = indentLines i.margin rest := by
      simp only [later]
      apply List.ext_getElem?
      simp [indentLines]
    rw [List.mapIdx_cons, others]
    cases first : i.first <;> simp [lineAt, first, indentLines]

/-- An indented text is its lines as they stand there, joined by line feeds. -/
theorem apply_eq (i : Indentation) (text : String) : i.apply text =
    String.ofList (['\n'].intercalate ((Text.splitAtChar '\n' text.toList).mapIdx i.lineAt)) := by
  rw [← i.indentLines_eq, apply]

theorem lineAt_free {number : Nat} {line : List Char} (front : '\n' ∉ i.margin) (free : '\n' ∉ line) :
    '\n' ∉ i.lineAt number line := by
  unfold lineAt
  split
  · exact free
  · simp [front, free]

end Indentation

/-- An indentation that was asked for is done, provided that there is room for its margin and its result. -/
theorem indent_eq (asked : Indentation.Asked args i) (value : Value) (margin : i.marginSize ≤ maxTextSize)
    (result : (i.apply value.text).utf8ByteSize ≤ maxTextSize) :
    indent value args = .ok (.string (i.apply value.text)) := by
  unfold indent
  rw [Indentation.ofArgs_ok_iff.mpr asked]
  simp only [bind, Except.bind, allocate_eq_ok margin, allocate_eq_ok result]

/-- Indentation refuses arguments that do not ask for one, for their width or for what fills it. If they ask
for one, the margin has as many bytes as width and filling text make. As long as a text can have that
many, and as many as the result has, a text is given: the lines in turn, each as it is or behind the
margin, with a line feed between them. A line ends as it did, and an empty line stays empty. Without a
line feed in the margin these are the lines of the text that is given, as many as before. -/
theorem indent_lines (value : Value) (args : List Value) :
    let lines := Text.splitAtChar '\n' value.text.toList
    ((∀ i, ¬ Indentation.Asked args i) → ∃ fault ∈ [Fault.invalidWidth, .stringExpected "indent" 2],
      indent value args = .error (.reported (.ofFault fault))) ∧
    ∀ i, Indentation.Asked args i →
      let parts := lines.mapIdx i.lineAt
      let text := String.ofList (['\n'].intercalate parts)
      (String.ofList i.margin).utf8ByteSize = i.width * i.fill.utf8ByteSize ∧
      (i.width * i.fill.utf8ByteSize ≤ 2 ^ 63 - 1 → text.utf8ByteSize ≤ 2 ^ 63 - 1 →
        indent value args = .ok (.string text)) ∧
      List.Forall₂ (fun line part => line <:+ part ∧ (line = [] → part = [])) lines parts ∧
      ('\n' ∉ i.margin → Text.splitAtChar '\n' text.toList = parts) := by
  intro lines
  refine ⟨fun refused => ?_, fun i asked => ?_⟩
  · cases made : Indentation.ofArgs args with
    | ok i => exact absurd (Indentation.ofArgs_ok_iff.mp made) (refused i)
    | error e =>
      obtain ⟨fault, known, rfl⟩ := Indentation.ofArgs_error made
      refine ⟨fault, known, ?_⟩
      rw [indent, made]
      rfl
  intro parts text
  have whole : i.apply value.text = text := i.apply_eq value.text
  refine ⟨i.margin_size, fun margin result => ?_, forall₂_mapIdx i.lineAt_keeps lines, fun front => ?_⟩
  · rw [← whole] at result ⊢
    exact indent_eq asked value margin result
  · have free := Text.splitAtChar_pieces '\n' value.text.toList
    have some := Text.splitAtChar_ne_nil '\n' value.text.toList
    rw [String.toList_ofList]
    apply Text.splitAtChar_intercalate
    · rwa [Ne, List.mapIdx_eq_nil_iff]
    · intro part member
      obtain ⟨number, within, rfl⟩ := List.mem_mapIdx.mp member
      exact Indentation.lineAt_free front (free _ (List.getElem_mem within))

/-- All lines but an empty one are indented, with a character of two bytes. -/
theorem indent_lines_first :
    let args : List Value := [.ofNat 2, .string "é", .bool true]
    Indentation.Asked args ⟨2, "é", true⟩ ∧ 2 * "é".utf8ByteSize ≤ 2 ^ 63 - 1 ∧
      indent (.string "a\n\nb") args = .ok (.string "ééa\n\nééb") ∧
      Text.splitAtChar '\n' "ééa\n\nééb".toList = [['é', 'é', 'a'], [], ['é', 'é', 'b']] := by
  intro args
  have asked : Indentation.Asked args ⟨2, "é", true⟩ := ⟨rfl, rfl, rfl⟩
  have margin : 2 * "é".utf8ByteSize ≤ 2 ^ 63 - 1 := by decide
  obtain ⟨-, given, -, same⟩ := (indent_lines (.string "a\n\nb") args).2 _ asked
  exact ⟨asked, margin, given margin (by decide), same (by decide)⟩

/-- A margin that is longer than any text, with which the filter breaks down although no line needs it; and
one that brings a line feed along, so that there is a line more than before. -/
theorem indent_outgrows :
    let wide : Indentation := ⟨2 ^ 63, " ", false⟩
    Indentation.Asked [.ofNat (2 ^ 63)] wide ∧ ¬ wide.width * wide.fill.utf8ByteSize ≤ 2 ^ 63 - 1 ∧
      indent (.string "a") [.ofNat (2 ^ 63)] = .error .breakdown ∧
      indent (.string "a\nb") [.ofNat 1, .string "\n"] = .ok (.string "a\n\nb") ∧
      (Text.splitAtChar '\n' "a\n\nb".toList).length ≠ (Text.splitAtChar '\n' "a\nb".toList).length := by
  refine ⟨⟨rfl, rfl, rfl⟩, ?_, ?_, ?_, ?_⟩
  · decide
  · rfl
  · rfl
  · decide

end Filter

end TextTemplate
