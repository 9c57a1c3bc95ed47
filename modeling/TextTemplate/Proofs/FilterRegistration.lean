import TextTemplate.Filter.Registry
import TextTemplate.Filter.Sample
import TextTemplate.Proofs.TableEntries

/-! The marks of filters. In whatever order filters are registered, installed and taken over, a name means
what the last step that mentions it says, and that decides its filter and its mark alike: no
mark outlives the filter that it was set for. This holds of registries, which keep the marks
apart, and of catalogues, which therefore are the same collections. -/
namespace TextTemplate

mutual

/-- What a step says of a name: a filter and its mark, or nothing. A step that takes over a collection
says of each name what filling that collection said of it last. -/
def Registration.mention (name : String) : Registration → Option FilterEntry
  | .register other filter => if other = name then some ⟨filter, false⟩ else none
  | .registerSafe other filter => if other = name then some ⟨filter, true⟩ else none
  | .builtin => Table.get? FilterCatalog.builtin name
  | .standard => Table.get? FilterCatalog.standard name
  | .extend steps => lastMention name steps

/-- What the last of the steps that mention a name says of it. -/
def lastMention (name : String) : List Registration → Option FilterEntry
  | [] => none
  | step :: later => (lastMention name later).or (step.mention name)

end

/-- The last step that mentions a name says something of it, and no later one does. -/
theorem lastMention_eq_some_iff {name : String} {steps : List Registration} {entry : FilterEntry} :
    lastMention name steps = some entry ↔ ∃ before step after, steps = before ++ step :: after ∧
      step.mention name = some entry ∧ ∀ later ∈ after, later.mention name = none := by
  have none_iff : ∀ steps, lastMention name steps = none ↔
      ∀ step ∈ steps, step.mention name = none := by
    intro steps
    induction steps with
    | nil => simp [lastMention]
    | cons step later ih => simp [lastMention, ih, and_comm]
  induction steps with
  | nil => simp [lastMention]
  | cons step later ih =>
    simp only [lastMention, Option.or_eq_some_iff, ih, none_iff]
    constructor
    · rintro (⟨before, last, after, rfl, said, silent⟩ | ⟨silent, said⟩)
      · exact ⟨step :: before, last, after, rfl, said, silent⟩
      · exact ⟨[], step, later, rfl, said, silent⟩
    · rintro ⟨before, last, after, split, said, silent⟩
      cases before with
      | nil =>
        obtain ⟨rfl, rfl⟩ := List.cons.inj split
        exact .inr ⟨silent, said⟩
      | cons first before =>
        obtain ⟨rfl, rfl⟩ := List.cons.inj split
        exact .inl ⟨before, last, after, rfl, said, silent⟩

namespace FilterBuilder

variable {R : Type} {b : FilterBuilder R} {Sound : R → Prop}
  {find? : R → String → Option FilterEntry} {r r' r'' : R} {said later : String → Option FilterEntry}

/-- A sound collection that says of some names something new, and of the others what another one says. -/
structure Adds (Sound : R → Prop) (find? : R → String → Option FilterEntry) (r r' : R)
    (said : String → Option FilterEntry) : Prop where
  sound : Sound r'
  entry : ∀ name, find? r' name = (said name).or (find? r name)

theorem Adds.trans (first : Adds Sound find? r r' said) (second : Adds Sound find? r' r'' later) :
    Adds Sound find? r r'' fun name => (later name).or (said name) where
  sound := second.sound
  entry name := by rw [second.entry, first.entry, Option.or_assoc]

/-- Whatever is done to a sound collection adds to it what is mentioned, and nothing else. -/
structure Lawful (b : FilterBuilder R) (Sound : R → Prop)
    (find? : R → String → Option FilterEntry) : Prop where
  start : Sound b.empty
  empty : ∀ name, find? b.empty name = none
  register : ∀ {r}, Sound r → ∀ name filter, Adds Sound find? r (b.register r name filter)
    fun other => if name = other then some ⟨filter, false⟩ else none
  registerSafe : ∀ {r}, Sound r → ∀ name filter, Adds Sound find? r (b.registerSafe r name filter)
    fun other => if name = other then some ⟨filter, true⟩ else none
  addBuiltin : ∀ {r}, Sound r →
    Adds Sound find? r (b.addBuiltin r) (Table.get? FilterCatalog.builtin)
  addStandard : ∀ {r}, Sound r →
    Adds Sound find? r (b.addStandard r) (Table.get? FilterCatalog.standard)
  extend : ∀ {r other}, Sound r → Sound other → Adds Sound find? r (b.extend r other) (find? other)

/-- A step adds what it says, provided that the collection it may take over is filled in this way. -/
theorem Lawful.perform_adds {r : R} (lawful : Lawful b Sound find?) (step : Registration)
    (filled : ∀ steps, step = .extend steps →
      Adds Sound find? b.empty (b.performAll steps b.empty) fun name => lastMention name steps)
    (sound : Sound r) : Adds Sound find? r (b.perform step r) fun name => step.mention name := by
  cases step with
  | register name filter => exact lawful.register sound name filter
  | registerSafe name filter => exact lawful.registerSafe sound name filter
  | builtin => exact lawful.addBuiltin sound
  | standard => exact lawful.addStandard sound
  | extend steps =>
    have filled := filled steps rfl
    have added := lawful.extend sound filled.sound
    refine ⟨added.sound, fun name => ?_⟩
    rw [perform, added.entry, filled.entry, lawful.empty, Option.or_none, Registration.mention]

/-- Steps add what the last of them says. -/
theorem Lawful.performAll_adds {r : R} (lawful : Lawful b Sound find?)
    (steps : List Registration) (sound : Sound r) :
    Adds Sound find? r (b.performAll steps r) fun name => lastMention name steps := by
  cases steps with
  | nil => exact ⟨sound, fun _ => rfl⟩
  | cons step later =>
    have first := lawful.perform_adds step (fun _ _ => lawful.performAll_adds _ lawful.start) sound
    exact first.trans (lawful.performAll_adds later first.sound)
termination_by sizeOf steps
decreasing_by
  · simp_all +arith
  · simp +arith

theorem Lawful.build_sound (lawful : Lawful b Sound find?) (steps : List Registration) :
    Sound (b.build steps) :=
  (lawful.performAll_adds steps lawful.start).sound

/-- A collection says of each name what the last step that mentions it says. -/
theorem Lawful.build_entry (lawful : Lawful b Sound find?) (steps : List Registration)
    (name : String) : find? (b.build steps) name = lastMention name steps := by
  rw [build, (lawful.performAll_adds steps lawful.start).entry, lawful.empty, Option.or_none]

end FilterBuilder

/-! Catalogues -/

namespace FilterCatalog

variable {catalog : FilterCatalog}

/-- The filters that rendering itself gives a meaning, in the order in which they are added. -/
def builtinEntries : List (String × FilterEntry) :=
  [(defaultName, ⟨Filter.default, false⟩), ("safe", ⟨Filter.safe, true⟩)]

/-- The filters of the standard catalogue in the order in which they are added. -/
def standardEntries : List (String × FilterEntry) :=
  builtinEntries ++ [
    ("capitalize", ⟨Filter.capitalize, false⟩), ("uppercase", ⟨Filter.upper, false⟩),
    ("upper", ⟨Filter.upper, false⟩), ("lowercase", ⟨Filter.lower, false⟩),
    ("lower", ⟨Filter.lower, false⟩), ("join", ⟨Filter.join, false⟩),
    ("split", ⟨Filter.split, false⟩), ("indent", ⟨Filter.indent, false⟩),
    ("length", ⟨Filter.length, false⟩), ("first", ⟨Filter.first, false⟩),
    ("last", ⟨Filter.last, false⟩), ("trim", ⟨Filter.trim, false⟩),
    ("escape", ⟨Filter.escape, true⟩)]

theorem addBuiltin_eq (catalog : FilterCatalog) :
    catalog.addBuiltin = Table.insertAll catalog builtinEntries := rfl

theorem addStandard_eq (catalog : FilterCatalog) :
    catalog.addStandard = Table.insertAll catalog standardEntries := by
  rw [addStandard, addBuiltin_eq, Table.insertAll, Table.insertAll, standardEntries, List.foldl_append]
  simp only [List.foldl_cons, List.foldl_nil, register, registerSafe]

/-- Entries that are stored in a catalogue one after the other add the last of them under each name. -/
theorem insertAll_adds (catalog : FilterCatalog) (entries : List (String × FilterEntry)) :
    FilterBuilder.Adds (fun _ => True) Table.get? catalog (Table.insertAll catalog entries)
      fun name => entries.reverse.lookup name :=
  ⟨trivial, Table.get?_insertAll catalog entries⟩

theorem get?_builtin : Table.get? builtin = fun name => builtinEntries.reverse.lookup name :=
  funext (Table.get?_ofList builtinEntries)

theorem get?_standard : Table.get? standard = fun name => standardEntries.reverse.lookup name := by
  rw [standard, addStandard_eq]
  exact funext (Table.get?_ofList standardEntries)

theorem builder_lawful : builder.Lawful (fun _ => True) Table.get? where
  start := trivial
  empty _ := rfl
  register {catalog} _ name filter := by
    have added := insertAll_adds catalog [(name, ⟨filter, false⟩)]
    simp only [List.reverse_singleton, Table.lookup_cons] at added
    exact added
  registerSafe {catalog} _ name filter := by
    have added := insertAll_adds catalog [(name, ⟨filter, true⟩)]
    simp only [List.reverse_singleton, Table.lookup_cons] at added
    exact added
  addBuiltin {catalog} _ := by
    have added := insertAll_adds catalog builtinEntries
    rw [← addBuiltin_eq, ← get?_builtin] at added
    exact added
  addStandard {catalog} _ := by
    have added := insertAll_adds catalog standardEntries
    rw [← addStandard_eq, ← get?_standard] at added
    exact added
  extend {catalog other} _ _ := by
    have added := insertAll_adds catalog (Table.toList other)
    simp only [Table.lookup_reverse_toList] at added
    exact added

end FilterCatalog

/-! Registries -/

namespace FilterRegistry

variable {registry other : FilterRegistry}

/-- Only names of filters are marked. -/
structure Sound (registry : FilterRegistry) : Prop where
  marked : ∀ name ∈ registry.safe, Table.contains registry.filters name

/-- The entries of a registry, each filter with its mark. -/
def entries (registry : FilterRegistry) : List (String × FilterEntry) :=
  (Table.toList registry.filters).map fun entry => (entry.1, ⟨entry.2, registry.isSafe entry.1⟩)

theorem contains_insert (table : Table Filter) (name key : String) (filter : Filter) :
    Table.contains (Table.insert table name filter) key = (name = key || Table.contains table key) := by
  rw [Table.contains, Table.get?_insert]
  split <;> simp [*, Table.contains]

theorem register_adds (sound : registry.Sound) (name : String) (filter : Filter) :
    FilterBuilder.Adds Sound find? registry (registry.register name filter)
      fun other => if name = other then some ⟨filter, false⟩ else none := by
  refine ⟨⟨fun key safe => ?_⟩, fun key => ?_⟩
  · have before := sound.marked key (List.mem_filter.mp safe).1
    simp [register, contains_insert, before]
  · by_cases same : name = key
    · simp [find?, register, isSafe, Table.get?_insert, same]
    · simp [find?, register, isSafe, Table.get?_insert, same, Ne.symm same]

theorem registerSafe_adds (sound : registry.Sound) (name : String) (filter : Filter) :
    FilterBuilder.Adds Sound find? registry (registry.registerSafe name filter)
      fun other => if name = other then some ⟨filter, true⟩ else none := by
  refine ⟨⟨fun key safe => ?_⟩, fun key => ?_⟩
  · rcases List.mem_insert_iff.mp safe with rfl | before
    · simp [registerSafe, contains_insert]
    · simp [registerSafe, contains_insert, sound.marked key before]
  · by_cases same : name = key
    · simp [find?, registerSafe, isSafe, Table.get?_insert, same]
    · simp [find?, registerSafe, isSafe, Table.get?_insert, same, Ne.symm same]

theorem put_adds (sound : registry.Sound) (name : String) (entry : FilterEntry) :
    FilterBuilder.Adds Sound find? registry (registry.put name entry)
      fun other => if name = other then some entry else none := by
  obtain ⟨filter, safe⟩ := entry
  cases safe with
  | false => exact register_adds sound name filter
  | true => exact registerSafe_adds sound name filter

/-- Entries that are put into a registry one after the other add the last of them under each name. -/
theorem foldl_put_adds (sound : registry.Sound) (entries : List (String × FilterEntry)) :
    FilterBuilder.Adds Sound find? registry
      (entries.foldl (fun registry entry => registry.put entry.1 entry.2) registry)
      fun name => entries.reverse.lookup name := by
  induction entries generalizing registry with
  | nil => exact ⟨sound, fun _ => rfl⟩
  | cons entry rest ih =>
    have first := put_adds sound entry.1 entry.2
    have all := first.trans (ih first.sound)
    refine ⟨all.sound, fun name => (all.entry name).trans ?_⟩
    rw [List.reverse_cons, List.lookup_append, Table.lookup_cons]
    rfl

theorem addBuiltin_eq (registry : FilterRegistry) : registry.addBuiltin =
    FilterCatalog.builtinEntries.foldl (fun registry entry => registry.put entry.1 entry.2) registry :=
  rfl

theorem addStandard_eq (registry : FilterRegistry) : registry.addStandard =
    FilterCatalog.standardEntries.foldl (fun registry entry => registry.put entry.1 entry.2) registry :=
  rfl

theorem extend_eq (registry other : FilterRegistry) : registry.extend other =
    other.entries.foldl (fun registry entry => registry.put entry.1 entry.2) registry := by
  rw [extend, entries, List.foldl_map]

/-- The entries of a registry are what it says of their names. -/
theorem lookup_entries (registry : FilterRegistry) (name : String) :
    registry.entries.reverse.lookup name = registry.find? name := by
  rw [entries, find?, ← Table.lookup_reverse_toList, ← List.map_reverse]
  induction (Table.toList registry.filters).reverse with
  | nil => rfl
  | cons entry rest ih =>
    obtain ⟨k, filter⟩ := entry
    rw [List.map_cons, Table.lookup_cons, Table.lookup_cons, ih]
    split
    · rename_i same
      cases same
      rfl
    · rfl

theorem builder_lawful : builder.Lawful Sound find? where
  start := ⟨nofun⟩
  empty _ := rfl
  register := register_adds
  registerSafe := registerSafe_adds
  addBuiltin {registry} sound := by
    rw [FilterCatalog.get?_builtin]
    have added := foldl_put_adds sound FilterCatalog.builtinEntries
    rw [← addBuiltin_eq] at added
    exact added
  addStandard {registry} sound := by
    rw [FilterCatalog.get?_standard]
    have added := foldl_put_adds sound FilterCatalog.standardEntries
    rw [← addStandard_eq] at added
    exact added
  extend {registry other} sound _ := by
    have added := foldl_put_adds sound other.entries
    rwa [← extend_eq, funext other.lookup_entries] at added

/-- The mark of a name is that of its filter. -/
theorem Sound.isSafe_eq (sound : registry.Sound) (name : String) :
    registry.isSafe name = ((registry.find? name).map FilterEntry.safe).getD false := by
  rw [find?, Option.map_map]
  cases found : Table.get? registry.filters name with
  | some filter => rfl
  | none =>
    refine Bool.eq_false_iff.mpr fun safe => ?_
    have known := sound.marked name (List.contains_iff_mem.mp safe)
    simp [Table.contains, found] at known

end FilterRegistry

/-- A mark always belongs to the filter that is registered. Whatever steps fill a registry, only names of
filters are marked as safe, and a name has a filter and a mark exactly if the last step that
mentions it says so, where taking over a collection mentions just the names of that
collection, each with its filter and mark there. A catalogue that is filled by the same steps
has the same filters and the same marks. -/
theorem registered_last (steps : List Registration) :
    let registry := FilterRegistry.builder.build steps
    let catalog := FilterCatalog.builder.build steps
    (∀ name ∈ registry.safe, Table.contains registry.filters name) ∧
    (∀ name filter safe,
      (Table.get? registry.filters name = some filter ∧ registry.isSafe name = safe) ↔
        ∃ before step after, steps = before ++ step :: after ∧
          step.mention name = some ⟨filter, safe⟩ ∧ ∀ later ∈ after, later.mention name = none) ∧
    (∀ name others, (Registration.extend others).mention name =
      (FilterRegistry.builder.build others).find? name) ∧
    ∀ name, Table.get? catalog name = registry.find? name ∧
      FilterCatalog.isSafe catalog name = registry.isSafe name := by
  intro registry catalog
  have lawful := FilterRegistry.builder_lawful
  have sound : registry.Sound := lawful.build_sound steps
  have same : ∀ name, Table.get? catalog name = registry.find? name := fun name =>
    (FilterCatalog.builder_lawful.build_entry steps name).trans (lawful.build_entry steps name).symm
  refine ⟨sound.marked, fun name filter safe => ?_, fun name others => ?_, fun name => ?_⟩
  · rw [← lastMention_eq_some_iff, ← lawful.build_entry, FilterRegistry.find?]
    constructor
    · rintro ⟨found, rfl⟩
      rw [found, Option.map_some]
    · intro said
      obtain ⟨found, there, kept⟩ := Option.map_eq_some_iff.mp said
      cases kept
      exact ⟨there, rfl⟩
  · rw [lawful.build_entry, Registration.mention]
  · exact ⟨same name, by rw [FilterCatalog.isSafe, same, sound.isSafe_eq]⟩

/-- Steps that replace a filter marked as safe by one that is not, and another one the other way round in a
collection that is taken over. -/
def replacing : List Registration :=
  [.standard, .register "escape" Filter.bracket, .extend [.registerSafe "upper" Filter.bracket]]

/-- The mark that the standard catalogue sets for `escape` is gone with its filter. -/
theorem registered_last_replacing :
    (Table.get? (FilterRegistry.builder.build replacing).filters "escape" = some Filter.bracket ∧
      (FilterRegistry.builder.build replacing).isSafe "escape" = false) ∧
    "upper" ∈ (FilterRegistry.builder.build replacing).safe ∧
      Table.contains (FilterRegistry.builder.build replacing).filters "upper" := by
  obtain ⟨marked, last, -, -⟩ := registered_last replacing
  have unmarked := (last "escape" Filter.bracket false).mpr
    ⟨[.standard], _, [_], rfl, by simp [Registration.mention],
      by simp [Registration.mention, lastMention]⟩
  have safe := (last "upper" Filter.bracket true).mpr
    ⟨[.standard, _], _, [], rfl, by simp [Registration.mention, lastMention], nofun⟩
  have member := List.contains_iff_mem.mp safe.2
  exact ⟨unmarked, member, marked "upper" member⟩

end TextTemplate
