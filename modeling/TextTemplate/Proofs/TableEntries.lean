import Mathlib.Data.List.Forall2
import TextTemplate.Table

/-! The entries of tables. A table has each of its keys once, and what it gives under the keys makes out
its entries. A table that is filled entry by entry gives under a key the value that was stored there
last. -/
namespace TextTemplate.Table

variable {α : Type} {low low' : Option String} {entries : Entries α low} {key : String} {a : α}

theorem sizeOf_lt_of_mem [SizeOf α] {entry : String × α} (member : entry ∈ toList entries) :
    sizeOf entry.2 < sizeOf entries := by
  induction entries with
  | nil => cases member
  | cons k b above rest ih =>
    rcases List.mem_cons.mp member with rfl | among
    · simp only [Entries.cons.sizeOf_spec]
      omega
    · have := ih among
      simp only [Entries.cons.sizeOf_spec]
      omega

theorem lookup_cons (k : String) (a : α) (rest : List (String × α)) (key : String) :
    ((k, a) :: rest).lookup key = if k = key then some a else rest.lookup key := by
  rw [List.lookup_cons, Bool.beq_comm]
  by_cases same : k = key
  · rw [if_pos same, beq_iff_eq.mpr same]
  · rw [if_neg same, beq_false_of_ne same]

/-- What is stored under a key is the value of the first entry with this key. -/
theorem lookup_toList (entries : Entries α low) (key : String) :
    (toList entries).lookup key = get? entries key := by
  induction entries with
  | nil => rfl
  | cons k b above rest ih =>
    rw [toList, get?, lookup_cons, ih]

theorem mem_of_get? (found : get? entries key = some a) : (key, a) ∈ toList entries := by
  rw [← lookup_toList] at found
  obtain ⟨before, after, split, -⟩ := List.lookup_eq_some_iff.mp found
  rw [split]
  exact List.mem_append_right before List.mem_cons_self

theorem mem_keys_of_get? (found : get? entries key = some a) : key ∈ keys entries :=
  List.mem_map.mpr ⟨_, mem_of_get? found, rfl⟩

/-- A key that is not behind the bound is not in the table. -/
theorem get?_of_bound (entries : Entries α (some key)) : get? entries key = none :=
  Option.eq_none_iff_forall_ne_some.mpr fun _ found =>
    String.lt_irrefl key (above_of_mem (mem_of_get? found) key rfl)

/-- A key of which all others are behind is not in the table. -/
theorem get?_of_lt {first : String} {above : ∀ bound ∈ low, bound < first} {rest : Entries α (some first)}
    (less : key < first) : get? (.cons first a above rest) key = none := by
  refine Option.eq_none_iff_forall_ne_some.mpr fun b found => ?_
  rcases List.mem_cons.mp (mem_of_get? found) with same | among
  · cases same
    exact String.lt_irrefl key less
  · exact String.lt_irrefl key (String.lt_trans less (above_of_mem among first rfl))

/-- The entries with their keys in descending order give the same. -/
theorem lookup_reverse_toList (entries : Entries α low) (key : String) :
    (toList entries).reverse.lookup key = get? entries key := by
  induction entries with
  | nil => rfl
  | cons k b above rest ih =>
    rw [toList, List.reverse_cons, List.lookup_append, ih, get?, lookup_cons, List.lookup_nil]
    split
    · rename_i same
      subst same
      rw [get?_of_bound, Option.none_or]
    · rw [Option.or_none]

/-- Of the entries stored one after the other the last one under a key counts. -/
theorem get?_insertAll (table : Table α) (entries : List (String × α)) (key : String) :
    get? (insertAll table entries) key = (entries.reverse.lookup key).or (get? table key) := by
  induction entries generalizing table with
  | nil => rfl
  | cons entry rest ih =>
    obtain ⟨k, b⟩ := entry
    have stored : get? (insert table k b) key = (List.lookup key [(k, b)]).or (get? table key) := by
      rw [get?_insert, lookup_cons, List.lookup_nil]
      split <;> rfl
    calc get? (insertAll (insert table k b) rest) key
        = (rest.reverse.lookup key).or (get? (insert table k b) key) := ih _
      _ = (((k, b) :: rest).reverse.lookup key).or (get? table key) := by
        rw [stored, List.reverse_cons, List.lookup_append, Option.or_assoc]

/-- A table that is made of entries has under a key the last of them. -/
theorem get?_ofList (entries : List (String × α)) (key : String) :
    get? (ofList entries) key = entries.reverse.lookup key := by
  rw [ofList, get?_insertAll, get?_empty, Option.or_none]

theorem ofList_concat (entries : List (String × α)) (key : String) (a : α) :
    ofList (entries ++ [(key, a)]) = insert (ofList entries) key a := by
  rw [ofList, insertAll, List.foldl_append]
  rfl

/-- Two tables have related entries one by one exactly if they have the same keys, and under each of them
related values. -/
theorem forall₂_iff {β : Type} {related : α → β → Prop} {other : Entries β low'} :
    List.Forall₂ (fun entry entry' => entry.1 = entry'.1 ∧ related entry.2 entry'.2)
        (toList entries) (toList other) ↔
      ∀ key, Option.Rel related (get? entries key) (get? other key) := by
  constructor
  · intro each key
    rw [← lookup_toList, ← lookup_toList]
    generalize toList entries = first at each
    generalize toList other = second at each
    induction each with
    | nil => exact .none
    | @cons entry entry' rest rest' here _ ih =>
      obtain ⟨k, a⟩ := entry
      obtain ⟨k', b⟩ := entry'
      obtain ⟨rfl, values⟩ : k = k' ∧ related a b := here
      rw [lookup_cons, lookup_cons]
      split
      · exact .some values
      · exact ih
  · intro each
    induction entries generalizing low' with
    | nil =>
      cases other with
      | nil => exact .nil
      | cons k b _ rest =>
        have found := each k
        simp [get?] at found
    | cons k a above rest ih =>
      have found := each k
      cases other with
      | nil => simp [get?] at found
      | cons k' b above' rest' =>
        have same : k = k' := by
          by_contra apart
          by_cases less : k < k'
          · rw [get?_of_lt less, get?, if_pos rfl] at found
            cases found
          · have found' := each k'
            rw [get?_of_lt (lt_of_other (Ne.symm apart) less), get?, if_pos rfl] at found'
            cases found'
        subst same
        rw [get?, get?, if_pos rfl, if_pos rfl] at found
        refine .cons ⟨rfl, Option.rel_some_some.mp found⟩ (ih fun key => ?_)
        by_cases here : k = key
        · subst here
          rw [get?_of_bound, get?_of_bound]
          exact .none
        · have values := each key
          rwa [get?, get?, if_neg here, if_neg here] at values

end TextTemplate.Table
