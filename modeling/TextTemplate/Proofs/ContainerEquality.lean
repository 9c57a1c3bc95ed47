import TextTemplate.Proofs.ComparisonLaws
import TextTemplate.Proofs.IntegerComparison
import TextTemplate.Proofs.TableEntries

/-! Equality of containers. Two arrays and two objects are compared part by part, to any depth, but not quite
as conditions compare the parts by themselves: numbers that stand in containers are equal only if they
are integers both or doubles both. Of a value and the items of an array membership asks for no more
than a condition would. -/
namespace TextTemplate

namespace Number

/-- Two numbers are the same in the same form: one integer, or two doubles of one value. -/
inductive Alike : Number → Number → Prop
  | integers (i : Int) : Alike (.integer i) (.integer i)
  | doubles {d e : Double} (value : d.value = e.value) : Alike (.double d) (.double e)

theorem same_iff {m n : Number} : m.same n = true ↔ m.Alike n := by
  cases m with
  | integer i =>
    cases n with
    | integer j =>
      rw [same, beq_iff_eq]
      constructor
      · rintro rfl
        exact .integers i
      · rintro ⟨⟩
        rfl
    | double e => exact iff_of_false Bool.false_ne_true nofun
  | double d =>
    cases n with
    | integer j => exact iff_of_false Bool.false_ne_true nofun
    | double e =>
      rw [same, beq_iff_eq, Double.units_eq_iff]
      constructor
      · exact .doubles
      · intro alike
        cases alike with
        | doubles value => exact value

theorem Alike.rank {m n : Number} (alike : m.Alike n) : m.rank = n.rank := by
  cases alike with
  | integers => rfl
  | doubles value =>
    rw [Number.rank, Number.rank, toBinary64, toBinary64, Binary64.rank, Binary64.rank,
      Double.units_eq_iff.mpr value]

theorem same_comm (m n : Number) : m.same n = n.same m := by
  cases m <;> cases n <;> first | rfl | exact Bool.beq_comm

end Number

namespace Value

mutual

theorem same_comm (a b : Value) : a.same b = b.same a := by
  cases a <;> cases b <;> try rfl
  case bool.bool => exact Bool.beq_comm
  case number.number m n => exact Number.same_comm m n
  case string.string => exact Bool.beq_comm
  case array.array as bs => exact sameItems_comm as bs
  case object.object as bs => exact sameMembers_comm as bs

theorem sameItems_comm (as bs : List Value) : sameItems as bs = sameItems bs as := by
  cases as <;> cases bs <;> try rfl
  case cons.cons a as b bs => rw [sameItems, sameItems, same_comm a b, sameItems_comm as bs]

theorem sameMembers_comm {low low' : Option String} (as : Entries Value low) (bs : Entries Value low') :
    sameMembers as bs = sameMembers bs as := by
  cases as <;> cases bs <;> try rfl
  case cons.cons k a as _ l b bs _ =>
    rw [sameMembers, sameMembers, same_comm a b, sameMembers_comm as bs, Bool.beq_comm]

end

variable {a b : Value} {as bs : List Value}

theorem holds_equal_iff : Holds .equal a b ↔ a.equals b = true := by
  rw [Holds, compare, Except.ok.injEq]

theorem holds_equal_numbers {m n : Number} :
    Holds .equal (.number m) (.number n) ↔ m.rank = n.rank :=
  (numbers_comparedAs m n).holds_iff .equal nofun

/-- Values other than two numbers are equal if their structures are. -/
theorem holds_equal_of_other (other : ∀ m n, a = .number m → b ≠ .number n) :
    Holds .equal a b ↔ a.same b = true := by
  rw [holds_equal_iff, equals]
  exact fun m n first second => other m n first second

/-- Equality does not depend on which of two values comes first. -/
theorem equal_comm (a b : Value) : Holds .equal a b ↔ Holds .equal b a := by
  by_cases numbers : ∃ m n, a = .number m ∧ b = .number n
  · obtain ⟨m, n, rfl, rfl⟩ := numbers
    rw [holds_equal_numbers, holds_equal_numbers, eq_comm]
  · rw [holds_equal_of_other fun m n first second => numbers ⟨m, n, first, second⟩,
      holds_equal_of_other fun m n first second => numbers ⟨n, m, second, first⟩, same_comm]

/-- What two values have to be where they stand in equal containers: equal themselves and, if they are
numbers, alike. -/
def EqualInside (a b : Value) : Prop :=
  Holds .equal a b ∧ ∀ m n, a = .number m → b = .number n → m.Alike n

theorem same_iff_equalInside : a.same b = true ↔ EqualInside a b := by
  by_cases numbers : ∃ m n, a = .number m ∧ b = .number n
  · obtain ⟨m, n, rfl, rfl⟩ := numbers
    rw [same, Number.same_iff, EqualInside, holds_equal_numbers]
    constructor
    · refine fun alike => ⟨alike.rank, ?_⟩
      rintro _ _ ⟨⟩ ⟨⟩
      exact alike
    · exact fun inside => inside.2 m n rfl rfl
  · have other : ∀ m n, a = .number m → b ≠ .number n :=
      fun m n first second => numbers ⟨m, n, first, second⟩
    rw [EqualInside, holds_equal_of_other other]
    exact (and_iff_left fun m n first second => absurd second (other m n first)).symm

theorem sameItems_iff : sameItems as bs = true ↔ List.Forall₂ EqualInside as bs := by
  induction as generalizing bs with
  | nil => cases bs <;> simp [sameItems]
  | cons a as ih =>
    cases bs with
    | nil => simp [sameItems]
    | cons b bs =>
      rw [sameItems, Bool.and_eq_true, same_iff_equalInside, ih, List.forall₂_cons]

theorem sameMembers_iff {low low' : Option String} {ms : Entries Value low} {ns : Entries Value low'} :
    sameMembers ms ns = true ↔
      List.Forall₂ (fun entry entry' => entry.1 = entry'.1 ∧ EqualInside entry.2 entry'.2)
        (Table.toList ms) (Table.toList ns) := by
  induction ms generalizing low' with
  | nil => cases ns <;> simp [sameMembers, Table.toList]
  | cons k a _ ms ih =>
    cases ns with
    | nil => simp [sameMembers, Table.toList]
    | cons l b _ ns =>
      rw [sameMembers, Bool.and_eq_true, Bool.and_eq_true, same_iff_equalInside, ih, beq_iff_eq,
        Table.toList, Table.toList, List.forall₂_cons]

theorem holds_within_iff {x : Value} : Holds .within x (.array as) ↔ ∃ item ∈ as, Holds .equal x item := by
  rw [Holds, compare, isWithin, Except.ok.injEq, List.any_eq_true]
  exact exists_congr fun item => and_congr_right fun _ => by rw [equal_comm, holds_equal_iff]

/-- Two arrays are equal exactly if they have the same length and their items in turn are equal and, as
far as they are numbers, alike; and two objects if they have the same keys and their members under
each of them are so. A value is within an array if it is equal to one of the items by itself. -/
theorem equal_containers (x : Value) (as bs : List Value) (ms ns : Members) :
    (Holds .equal (.array as) (.array bs) ↔ List.Forall₂ EqualInside as bs) ∧
      (Holds .equal (.object ms) (.object ns) ↔
        ∀ key, Option.Rel EqualInside (Table.get? ms key) (Table.get? ns key)) ∧
      (Holds .within x (.array as) ↔ ∃ item ∈ as, Holds .equal x item) := by
  refine ⟨?_, ?_, holds_within_iff⟩
  · have other : ∀ m n, Value.array as = .number m → Value.array bs ≠ .number n := fun m n array => by
      cases array
    rw [holds_equal_of_other other, same, sameItems_iff]
  · have other : ∀ m n, Value.object ms = .number m → Value.object ns ≠ .number n := fun m n object => by
      cases object
    rw [holds_equal_of_other other, same, sameMembers_iff, Table.forall₂_iff]

/-- Two objects with an integer inside of an array and zeros of either sign. -/
theorem equal_containers_signed :
    let ms (negative : Bool) : Members :=
      .ofList [("a", .array [ofInt 1]), ("b", .number (.double (.zero negative)))]
    Holds .equal (.object (ms true)) (.object (ms false)) ∧
      ∀ key, Option.Rel EqualInside (Table.get? (ms true) key) (Table.get? (ms false) key) := by
  intro ms
  have equal : Holds .equal (.object (ms true)) (.object (ms false)) := by decide +kernel
  obtain ⟨-, objects, -⟩ := equal_containers (ofInt 1) [] [] (ms true) (ms false)
  exact ⟨equal, objects.mp equal⟩

/-- An integer and the double of its value are equal, but not where they stand in arrays: there the one is
found by itself in an array of the other, while the array of the one is not found in that of the
array of the other. -/
theorem equal_apart_inside :
    let double : Value := .number (.double (Double.ofInt 1))
    Holds .equal (ofInt 1) double ∧ ¬Holds .equal (.array [ofInt 1]) (.array [double]) ∧
      Holds .within (ofInt 1) (.array [double]) ∧
      ¬Holds .within (.array [ofInt 1]) (.array [.array [double]]) := by
  decide +kernel

end Value

end TextTemplate
