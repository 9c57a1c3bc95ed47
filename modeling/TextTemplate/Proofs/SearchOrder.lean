import TextTemplate.Proofs.SearchPaths

/-! The order of a search. A directory is passed over if following the path below it ends at an entry that
is missing. Nothing can stand at a path for other reasons too, above all where a file is met on the
way. Such a path is obstructed, and the search ends there without a look at the directories that
come after. -/
namespace TextTemplate

namespace FileTree

/-- The text of a place, which only a file can have. -/
def text : FileTree → Except ReadFailure String
  | .directory _ => .error (.other .isADirectory)
  | .file content =>
    match String.fromUTF8? content with
    | some text => .ok text
    | none => .error (.other .invalidData)

/-- A place cannot be left by a piece: it is a file, or it is a directory and has no such entry. A name
that no entry can have is refused for its length. -/
inductive Blocks : FileTree → String → ReadFailure → Prop
  | file {content : ByteArray} {piece : String} :
      Blocks (.file content) piece (.other .notADirectory)
  | missing {entries : Table FileTree} {piece : String} :
      piece ≠ "" → piece ≠ "." → piece ≠ ".." → Table.get? entries piece = none →
      piece.utf8ByteSize ≤ maxNameSize → Blocks (.directory entries) piece .missing
  | long {entries : Table FileTree} {piece : String} :
      piece ≠ "" → piece ≠ "." → piece ≠ ".." → Table.get? entries piece = none →
      maxNameSize < piece.utf8ByteSize → Blocks (.directory entries) piece (.other .nameTooLong)

/-! Following pieces -/

section Walks

variable {tree place : FileTree} {above : List FileTree} {front pieces : List String} {piece : String}
  {failure : ReadFailure}

theorem Blocks.walk (blocks : Blocks place piece failure) (above : List FileTree)
    (rest : List String) : place.walk above (piece :: rest) = .error failure := by
  cases blocks with
  | file => rfl
  | missing nonempty notHere notAbove absent size =>
    simp [FileTree.walk, nonempty, notHere, notAbove, absent, size]
  | long nonempty notHere notAbove absent size =>
    simp [FileTree.walk, nonempty, notHere, notAbove, absent, Nat.not_le.mpr size]

/-- A place cannot be left by a piece, or the piece leads to one from where the rest is followed. -/
theorem walk_cons (place : FileTree) (above : List FileTree) (piece : String) :
    (∃ failure, Blocks place piece failure) ∨
      ∃ (next : FileTree) (above' : List FileTree),
        ∀ rest, place.walk above (piece :: rest) = next.walk above' rest := by
  cases place with
  | file content => exact .inl ⟨_, .file⟩
  | directory entries =>
    by_cases stays : piece = "" ∨ piece = "."
    · exact .inr ⟨.directory entries, above, fun rest => by simp [walk, stays]⟩
    obtain ⟨nonempty, notHere⟩ := not_or.mp stays
    by_cases up : piece = ".."
    · subst up
      cases above with
      | nil => exact .inr ⟨.directory entries, [], fun rest => by simp [walk]⟩
      | cons parent others => exact .inr ⟨parent, others, fun rest => by simp [walk]⟩
    cases found : Table.get? entries piece with
    | some child =>
      exact .inr ⟨child, .directory entries :: above, fun rest => by simp [walk, stays, up, found]⟩
    | none =>
      rcases Nat.lt_or_ge maxNameSize piece.utf8ByteSize with long | size
      · exact .inl ⟨_, .long nonempty notHere up found long⟩
      · exact .inl ⟨_, .missing nonempty notHere up found size⟩

/-- From the place that some pieces lead to the walk goes on with the others, whatever they are. -/
theorem walk_append (led : tree.walk above front = .ok place) :
    ∃ above', ∀ back, tree.walk above (front ++ back) = place.walk above' back := by
  induction front generalizing tree above with
  | nil =>
    cases led
    exact ⟨above, fun _ => rfl⟩
  | cons piece front ih =>
    rcases walk_cons tree above piece with ⟨failure, blocks⟩ | ⟨next, above', step⟩
    · rw [blocks.walk] at led
      cases led
    · rw [step] at led
      obtain ⟨last, onward⟩ := ih led
      exact ⟨last, fun back => (step _).trans (onward back)⟩

/-- A walk fails at the first place that cannot be left by the piece that comes next. -/
theorem walk_eq_error : tree.walk above pieces = .error failure ↔ ∃ front piece back place,
    pieces = front ++ piece :: back ∧ tree.walk above front = .ok place ∧ Blocks place piece failure := by
  constructor
  · intro failed
    induction pieces generalizing tree above with
    | nil => cases failed
    | cons piece rest ih =>
      rcases walk_cons tree above piece with ⟨other, blocks⟩ | ⟨next, above', step⟩
      · rw [blocks.walk] at failed
        cases failed
        exact ⟨[], piece, rest, tree, rfl, rfl, blocks⟩
      · rw [step] at failed
        obtain ⟨front, last, back, place, rfl, led, blocks⟩ := ih failed
        exact ⟨piece :: front, last, back, place, rfl, (step front).trans led, blocks⟩
  · rintro ⟨front, piece, back, place, rfl, led, blocks⟩
    obtain ⟨above', onward⟩ := walk_append led
    rw [onward, blocks.walk]

end Walks

theorem text_ne_missing (place : FileTree) : place.text ≠ .error .missing := by
  cases place with
  | directory entries => nofun
  | file content => cases decoded : String.fromUTF8? content <;> simp [FileTree.text, decoded]

end FileTree

/-! Reading a path -/

/-- A path that is followed at all: it is not empty, holds no null character and is not too long. -/
structure IsFollowed (path : String) : Prop where
  some : path ≠ ""
  plain : '\x00' ∉ path.toList
  size : path.utf8ByteSize ≤ maxPathSize

/-- What is read at a path that is followed is the text of the place that its pieces lead to. -/
theorem IsFollowed.readText {path : String} (followed : IsFollowed path) (fs : FileSystem) :
    fs.readText path = fs.root.walk [] (fs.pieces path) >>= FileTree.text := by
  rw [FileSystem.readText, if_neg followed.some, if_neg (by simpa using followed.plain),
    if_neg (Nat.not_lt.mpr followed.size)]
  cases fs.root.walk [] (fs.pieces path) with
  | error failure => rfl
  | ok place => cases place <;> rfl

namespace FileSystem

/-- A file or directory stands at a path. -/
structure Stands (fs : FileSystem) (path : String) (place : FileTree) : Prop where
  followed : IsFollowed path
  leads : fs.root.walk [] (fs.pieces path) = .ok place

/-- Why a path cannot be followed to its end, other than that an entry is missing. -/
inductive Obstructed (fs : FileSystem) (path : String) : FileFault → Prop
  | null : '\x00' ∈ path.toList → Obstructed fs path .invalidInput
  | long : '\x00' ∉ path.toList → maxPathSize < path.utf8ByteSize → Obstructed fs path .nameTooLong
  | blocked {front back : List String} {piece : String} {place : FileTree} {fault : FileFault} :
      IsFollowed path → fs.pieces path = front ++ piece :: back →
      fs.root.walk [] front = .ok place → place.Blocks piece (.other fault) → Obstructed fs path fault

variable {fs : FileSystem} {path : String} {fault : FileFault}

/-- What stands at a path is read there. -/
theorem Stands.readText {place : FileTree} (stands : fs.Stands path place) :
    fs.readText path = place.text := by
  rw [stands.followed.readText, stands.leads]
  rfl

/-- A path that is not followed is empty or obstructed. -/
theorem isFollowed_or (fs : FileSystem) (path : String) :
    IsFollowed path ∨ path = "" ∨ ∃ fault, fs.Obstructed path fault := by
  by_cases empty : path = ""
  · exact .inr (.inl empty)
  by_cases null : '\x00' ∈ path.toList
  · exact .inr (.inr ⟨_, .null null⟩)
  · rcases Nat.lt_or_ge maxPathSize path.utf8ByteSize with long | size
    · exact .inr (.inr ⟨_, .long null long⟩)
    · exact .inl ⟨empty, null, size⟩

/-- A path that is obstructed gives that reason. -/
theorem Obstructed.readText (obstructed : fs.Obstructed path fault) :
    fs.readText path = .error (.other fault) := by
  cases obstructed with
  | null null =>
    have some : path ≠ "" := by
      rintro rfl
      cases null
    simp [FileSystem.readText, some, null]
  | long plain size =>
    have some : path ≠ "" := by
      rintro rfl
      cases size
    simp [FileSystem.readText, some, plain, size]
  | blocked followed pieces led blocks =>
    rw [followed.readText, FileTree.walk_eq_error.mpr ⟨_, _, _, _, pieces, led, blocks⟩]
    rfl

/-- Where nothing stands at a path, an entry is missing or the path is obstructed. -/
theorem readText_of_nothing (nothing : ∀ place, ¬ fs.Stands path place) :
    fs.readText path = .error .missing ∨ ∃ fault, fs.Obstructed path fault := by
  rcases isFollowed_or fs path with followed | rfl | obstructed
  · cases found : fs.root.walk [] (fs.pieces path) with
    | ok place => exact absurd ⟨followed, found⟩ (nothing place)
    | error failure =>
      cases failure with
      | missing =>
        rw [followed.readText, found]
        exact .inl rfl
      | other fault =>
        obtain ⟨front, piece, back, place, pieces, led, blocks⟩ := FileTree.walk_eq_error.mp found
        exact .inr ⟨fault, .blocked followed pieces led blocks⟩
  · exact .inl rfl
  · exact .inr obstructed

/-- A path is found missing if nothing stands there and it is not obstructed. -/
theorem readText_missing : fs.readText path = .error .missing ↔
    (∀ place, ¬ fs.Stands path place) ∧ ∀ fault, ¬ fs.Obstructed path fault := by
  constructor
  · intro missing
    refine ⟨fun place stands => ?_, fun fault obstructed => ?_⟩
    · exact place.text_ne_missing (stands.readText.symm.trans missing)
    · rw [obstructed.readText] at missing
      cases missing
  · rintro ⟨nothing, clear⟩
    exact (readText_of_nothing nothing).resolve_right fun ⟨fault, obstructed⟩ => clear fault obstructed

end FileSystem

/-! Searches -/

section Searches

variable {read : String → Except ReadFailure String} {name directory source : String}
  {absent rest : List String} {fault : FileFault}

/-- Directories where nothing is found are passed over. -/
theorem searchDirectories_passes (missing : ∀ d ∈ absent, read (joinPath d name) = .error .missing) :
    searchDirectories read name (absent ++ rest) =
      let later := searchDirectories read name rest
      { later with tried := absent.map (joinPath · name) ++ later.tried } := by
  induction absent with
  | nil => rfl
  | cons directory absent ih =>
    obtain ⟨first, others⟩ := List.forall_mem_cons.mp missing
    rw [List.cons_append, searchDirectories, first, ih others]
    rfl

theorem searchDirectories_finds (missing : ∀ d ∈ absent, read (joinPath d name) = .error .missing)
    (found : read (joinPath directory name) = .ok source) :
    searchDirectories read name (absent ++ directory :: rest) =
      ⟨(absent ++ [directory]).map (joinPath · name), .ok source⟩ := by
  rw [searchDirectories_passes missing, searchDirectories, found, List.map_append]
  rfl

theorem searchDirectories_stops (missing : ∀ d ∈ absent, read (joinPath d name) = .error .missing)
    (failed : read (joinPath directory name) = .error (.other fault)) :
    searchDirectories read name (absent ++ directory :: rest) =
      ⟨(absent ++ [directory]).map (joinPath · name), .error (.notFound name (some fault))⟩ := by
  rw [searchDirectories_passes missing, searchDirectories, failed, List.map_append]
  rfl

/-- A source is found behind directories that have none only if these are passed over. -/
theorem missing_of_ok (none : ∀ d ∈ absent, ∀ text, read (joinPath d name) ≠ .ok text)
    (found : (searchDirectories read name (absent ++ rest)).result = .ok source) :
    ∀ d ∈ absent, read (joinPath d name) = .error .missing := by
  induction absent with
  | nil => nofun
  | cons directory absent ih =>
    obtain ⟨first, others⟩ := List.forall_mem_cons.mp none
    rw [List.cons_append, searchDirectories] at found
    cases reading : read (joinPath directory name) with
    | ok text => exact absurd reading (first text)
    | error failure =>
      rw [reading] at found
      cases failure with
      | missing => exact List.forall_mem_cons.mpr ⟨reading, ih others found⟩
      | other fault => cases found

end Searches

/-- How the directories are searched for a name that does not lead elsewhere, if nothing stands at its path
below the first of them and a file with text does below the next one. The text is the source if no
path before is obstructed, and only then; all paths up to that of the file are tried, and none after
it. Otherwise the first path that is obstructed is the last that is tried, and the name is not found
for the reason given there. -/
theorem search_passes_absent {fs : FileSystem} {absent later : List String}
    {directory name source : String} {content : ByteArray} (accepted : ¬ LeadsElsewhere name)
    (nothing : ∀ d ∈ absent, ∀ place, ¬ fs.Stands (joinPath d name) place)
    (stands : fs.Stands (joinPath directory name) (.file content))
    (decodes : String.fromUTF8? content = some source) :
    (Loader.ofDirectories fs (absent ++ directory :: later) name = .ok source ↔
        ∀ d ∈ absent, ∀ fault, ¬ fs.Obstructed (joinPath d name) fault) ∧
      ((∀ d ∈ absent, ∀ fault, ¬ fs.Obstructed (joinPath d name) fault) →
        findSource fs.readText (absent ++ directory :: later) name =
          ⟨(absent ++ [directory]).map (joinPath · name), .ok source⟩) ∧
      ∀ passed blocked rest fault, absent = passed ++ blocked :: rest →
        (∀ d ∈ passed, ∀ fault, ¬ fs.Obstructed (joinPath d name) fault) →
        fs.Obstructed (joinPath blocked name) fault →
        findSource fs.readText (absent ++ directory :: later) name =
          ⟨(passed ++ [blocked]).map (joinPath · name), .error (.notFound name (some fault))⟩ := by
  have searched : findSource fs.readText (absent ++ directory :: later) name =
      searchDirectories fs.readText name (absent ++ directory :: later) :=
    if_neg (mt leadsElsewhere_iff.mpr accepted)
  have found : fs.readText (joinPath directory name) = .ok source := by
    rw [stands.readText, FileTree.text]
    simp only [decodes]
  have missing : (∀ d ∈ absent, ∀ fault, ¬ fs.Obstructed (joinPath d name) fault) →
      ∀ d ∈ absent, fs.readText (joinPath d name) = .error .missing :=
    fun clear d member => FileSystem.readText_missing.mpr ⟨nothing d member, clear d member⟩
  have finds (clear : ∀ d ∈ absent, ∀ fault, ¬ fs.Obstructed (joinPath d name) fault) :=
    searched.trans (searchDirectories_finds (missing clear) found)
  refine ⟨⟨fun loaded d member => ?_, fun clear => ?_⟩, finds, ?_⟩
  · have none : ∀ d ∈ absent, ∀ text, fs.readText (joinPath d name) ≠ .ok text := by
      intro d member text same
      rcases FileSystem.readText_of_nothing (nothing d member) with missing | ⟨fault, obstructed⟩
      · rw [missing] at same
        cases same
      · rw [obstructed.readText] at same
        cases same
    rw [Loader.ofDirectories, searched] at loaded
    exact (FileSystem.readText_missing.mp (missing_of_ok none loaded d member)).2
  · rw [Loader.ofDirectories, finds clear]
  · rintro passed blocked rest fault rfl clear obstructed
    rw [searched, List.append_assoc, List.cons_append]
    refine searchDirectories_stops (fun d member => ?_) obstructed.readText
    exact FileSystem.readText_missing.mpr
      ⟨nothing d (List.mem_append_left _ member), clear d member⟩

/-- The working directory `srv` has two directories `r` and `s`, of which the second one has a file `b` in
its directory `a`. -/
def twoDirectories (first : FileTree) : FileSystem where
  root := .directory <| Table.ofList [("srv", .directory <| Table.ofList [("r", first),
    ("s", .directory <| Table.ofList [("a", .directory <| Table.ofList [("b", .file "two".toUTF8)])])])]
  workingDirectory := ["srv"]

/-- Directories that do not exist and one without entries are passed over, wherever their paths start. -/
theorem search_passes_absent_empty :
    let fs := twoDirectories .empty
    (∀ d ∈ ["q", "/r", "../srv/r"], ∀ place, ¬ fs.Stands (joinPath d "a/b") place) ∧
      findSource fs.readText ["q", "/r", "../srv/r", "/srv/s", "t"] "a/b" =
        ⟨["q/a/b", "/r/a/b", "../srv/r/a/b", "/srv/s/a/b"], .ok "two"⟩ := by
  intro fs
  have accepted : ¬ LeadsElsewhere "a/b" := by decide
  have missing : ∀ d ∈ ["q", "/r", "../srv/r"], fs.readText (joinPath d "a/b") = .error .missing := by
    decide +kernel
  have nothing := fun d member => (FileSystem.readText_missing.mp (missing d member)).1
  have clear := fun d member => (FileSystem.readText_missing.mp (missing d member)).2
  have stands : fs.Stands (joinPath "/srv/s" "a/b") (.file "two".toUTF8) :=
    ⟨⟨by decide, by decide, by decide⟩, rfl⟩
  have decodes : String.fromUTF8? "two".toUTF8 = some "two" := by decide +kernel
  obtain ⟨-, finds, -⟩ := @search_passes_absent fs ["q", "/r", "../srv/r"] ["t"] "/srv/s" "a/b" "two" _
    accepted nothing stands decodes
  exact ⟨nothing, finds clear⟩

/-- A file in place of the directory `a` ends the search, although the file that is looked for stands
below the next directory. -/
theorem search_ends_at_file :
    let fs := twoDirectories (.directory <| Table.ofList [("a", .file "one".toUTF8)])
    ¬ LeadsElsewhere "a/b" ∧ (∀ place, ¬ fs.Stands (joinPath "r" "a/b") place) ∧
      fs.Stands (joinPath "s" "a/b") (.file "two".toUTF8) ∧
      String.fromUTF8? "two".toUTF8 = some "two" ∧
      Loader.ofDirectories fs ["r", "s"] "a/b" =
        .error (.notFound "a/b" (some .notADirectory)) := by
  intro fs
  refine ⟨by decide, ?_, ⟨⟨by decide, by decide, by decide⟩, rfl⟩, by decide +kernel, rfl⟩
  rintro place ⟨-, leads⟩
  cases leads

end TextTemplate
