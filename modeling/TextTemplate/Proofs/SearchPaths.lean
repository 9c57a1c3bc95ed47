import TextTemplate.Loader.Directories
import TextTemplate.Proofs.Folding

/-! Searching directories. Which names are refused is decided on the components of a name, while the paths
that are tried are made of its text. The two fit together: a path below a directory has the components
of the directory and then those of the name, so what is accepted only ever goes down. A search reads
nothing but the paths that it lists as tried, and tries none for a name that is refused. -/
namespace TextTemplate

/-- The components of a path that lead anywhere, which a single dot at its start does not. -/
def pathPlaces (path : String) : List PathComponent := (pathComponents path).filter (· ≠ .here)

/-- The pieces of a path between slashes without the empty ones and the single dots. -/
def properPieces (path : String) : List String :=
  (pathPieces path).filter fun piece => piece ≠ "" ∧ piece ≠ "."

/-- A name that an entry of a directory can have: no empty text, no dots that stand for a directory, and
no slash in it. -/
structure IsEntryName (name : String) : Prop where
  nonempty : name ≠ ""
  notHere : name ≠ "."
  notAbove : name ≠ ".."
  noSlash : '/' ∉ name.toList

/-- A name that leads elsewhere than below a directory: the empty one, one that starts at the top, and one
that goes up anywhere. -/
def LeadsElsewhere (name : String) : Prop :=
  name = "" ∨ name.toList.head? = some '/' ∨ ".." ∈ pathPieces name

instance (name : String) : Decidable (LeadsElsewhere name) :=
  inferInstanceAs (Decidable (_ ∨ _ ∨ _))

variable {directory name path piece : String} {directories : List String}

/-! The components of a path -/

theorem isAbsolute_iff : isAbsolute path = true ↔ path.toList.head? = some '/' := by
  rw [isAbsolute, beq_iff_eq]

/-- A piece is no component, or two dots, or a name. -/
theorem ofPiece?_of_ne (other : piece ≠ "..") :
    PathComponent.ofPiece? piece = if piece ≠ "" ∧ piece ≠ "." then some (.entry piece) else none := by
  unfold PathComponent.ofPiece?
  by_cases empty : piece = "" <;> by_cases dot : piece = "." <;> simp [empty, dot, other]

theorem ofPiece?_above : PathComponent.ofPiece? ".." = some .above := by decide

/-- Only pieces that are names or two dots are components, and those neither start at the top nor stay. -/
theorem ofPiece?_cases {component : PathComponent}
    (found : PathComponent.ofPiece? piece = some component) :
    piece = ".." ∧ component = .above ∨ piece ≠ ".." ∧ component = .entry piece := by
  by_cases up : piece = ".."
  · subst up
    rw [ofPiece?_above] at found
    exact .inl ⟨rfl, (Option.some.inj found).symm⟩
  · rw [ofPiece?_of_ne up] at found
    split at found
    · exact .inr ⟨up, (Option.some.inj found).symm⟩
    · cases found

theorem pathPlaces_eq (path : String) : pathPlaces path =
    (if isAbsolute path then [.top] else []) ++ (pathPieces path).filterMap PathComponent.ofPiece? := by
  have kept : ((pathPieces path).filterMap PathComponent.ofPiece?).filter (· ≠ .here) =
      (pathPieces path).filterMap PathComponent.ofPiece? := by
    refine List.filter_eq_self.mpr fun component member => ?_
    obtain ⟨piece, -, found⟩ := List.mem_filterMap.mp member
    rcases ofPiece?_cases found with ⟨-, rfl⟩ | ⟨-, rfl⟩ <;> rfl
  unfold pathPlaces pathComponents
  rw [List.filter_append, kept]
  congr 1
  split
  · rfl
  · split <;> rfl

/-- What is accepted by its components neither starts at the top nor has a piece that goes up. -/
theorem isContained_iff :
    isContained name = true ↔ isAbsolute name = false ∧ ".." ∉ pathPieces name := by
  unfold isContained pathComponents
  rw [List.all_append, Bool.and_eq_true]
  refine and_congr ?_ ?_
  · cases isAbsolute name with
    | true => simp
    | false =>
      simp only [Bool.false_eq_true, if_false, iff_true]
      split <;> rfl
  · rw [List.all_eq_true]
    constructor
    · intro down up
      have refused := down .above (List.mem_filterMap.mpr ⟨"..", up, ofPiece?_above⟩)
      cases refused
    · intro down component member
      obtain ⟨piece, among, found⟩ := List.mem_filterMap.mp member
      rcases ofPiece?_cases found with ⟨rfl, -⟩ | ⟨-, rfl⟩
      · exact absurd among down
      · rfl

theorem leadsElsewhere_iff : LeadsElsewhere name ↔ (name = "" || !isContained name) = true := by
  rw [Bool.or_eq_true, decide_eq_true_iff, Bool.not_eq_true', ← Bool.not_eq_true, isContained_iff,
    not_and_or, Bool.not_eq_false, isAbsolute_iff, not_not]
  rfl

/-! The path of a name below a directory -/

theorem pathPieces_join (directory name : String) :
    pathPieces (directory ++ "/" ++ name) = pathPieces directory ++ pathPieces name := by
  unfold pathPieces
  rw [← List.map_append, ← Text.splitAtChar_append]
  simp

theorem filterMap_pathPieces_nil : (pathPieces "").filterMap PathComponent.ofPiece? = [] := by decide

theorem joinPath_cases (directory : String) (relative : isAbsolute name = false) :
    directory = "" ∧ joinPath directory name = name ∨
      (∃ front, directory = front ++ "/" ∧ joinPath directory name = front ++ "/" ++ name) ∨
      directory ≠ "" ∧ joinPath directory name = directory ++ "/" ++ name := by
  unfold joinPath
  rw [relative, if_neg Bool.false_ne_true]
  by_cases empty : directory = ""
  · left
    simp [empty]
  · right
    by_cases slash : directory.toList.getLast? = some '/'
    · left
      obtain ⟨front, same⟩ := List.getLast?_eq_some_iff.mp slash
      have parts : directory = String.ofList front ++ "/" := by
        rw [← String.ofList_toList (s := directory), same, String.ofList_append]
      refine ⟨String.ofList front, parts, ?_⟩
      rw [if_pos (by simp [slash]), parts]
    · right
      exact ⟨empty, if_neg (by simp [empty, slash])⟩

theorem isAbsolute_append (nonempty : directory ≠ "") (rest : String) :
    isAbsolute (directory ++ rest) = isAbsolute directory := by
  unfold isAbsolute
  have letters : directory.toList ≠ [] := by simpa using nonempty
  rw [String.toList_append, List.head?_append_of_ne_nil _ letters]

/-- A path below a directory starts at the top if the directory does. -/
theorem isAbsolute_joinPath (relative : isAbsolute name = false) :
    isAbsolute (joinPath directory name) = isAbsolute directory := by
  rcases joinPath_cases directory relative with
    ⟨rfl, same⟩ | ⟨front, rfl, same⟩ | ⟨nonempty, same⟩
  · rw [same, relative]
    rfl
  · rw [same, isAbsolute_append (by simp)]
  · rw [same, String.append_assoc, isAbsolute_append nonempty]

/-- The places of a path below a directory are those of the directory and then those of the name,
whether or not a slash is put in between. -/
theorem pathPlaces_joinPath (relative : isAbsolute name = false) :
    pathPlaces (joinPath directory name) =
      pathPlaces directory ++ (pathPieces name).filterMap PathComponent.ofPiece? := by
  have pieces : (pathPieces (joinPath directory name)).filterMap PathComponent.ofPiece? =
      (pathPieces directory).filterMap PathComponent.ofPiece? ++
        (pathPieces name).filterMap PathComponent.ofPiece? := by
    rcases joinPath_cases directory relative with
      ⟨rfl, same⟩ | ⟨front, rfl, same⟩ | ⟨-, same⟩
    · rw [same, filterMap_pathPieces_nil, List.nil_append]
    · have shut := pathPieces_join front ""
      rw [String.append_empty] at shut
      rw [same, shut, pathPieces_join, List.filterMap_append, List.filterMap_append,
        filterMap_pathPieces_nil, List.append_nil]
    · rw [same, pathPieces_join, List.filterMap_append]
  rw [pathPlaces_eq, pathPlaces_eq, isAbsolute_joinPath relative, pieces, List.append_assoc]

/-- Pieces none of which goes up are components as far as they are names. -/
theorem filterMap_ofPiece? (down : ".." ∉ pathPieces name) :
    (pathPieces name).filterMap PathComponent.ofPiece? = (properPieces name).map .entry := by
  unfold properPieces
  generalize pathPieces name = pieces at down
  induction pieces with
  | nil => rfl
  | cons piece rest ih =>
    obtain ⟨other, down⟩ := not_or.mp (mt List.mem_cons.mpr down)
    rw [List.filterMap_cons, ofPiece?_of_ne (Ne.symm other), ih down]
    by_cases named : piece ≠ "" ∧ piece ≠ "."
    · rw [if_pos named, List.filter_cons_of_pos (by simpa using named), List.map_cons]
    · rw [if_neg named, List.filter_cons_of_neg (by simpa using named)]

theorem isEntryName_of_proper (down : ".." ∉ pathPieces name) (member : piece ∈ properPieces name) :
    IsEntryName piece := by
  obtain ⟨among, named⟩ := List.mem_filter.mp member
  obtain ⟨nonempty, notHere⟩ : piece ≠ "" ∧ piece ≠ "." := by simpa using named
  refine ⟨nonempty, notHere, fun up => down (up ▸ among), ?_⟩
  obtain ⟨letters, cut, rfl⟩ := List.mem_map.mp among
  rw [String.toList_ofList]
  exact Text.splitAtChar_pieces '/' name.toList letters cut

/-! Searches -/

section Searches

variable (read : String → Except ReadFailure String)

/-- The paths that are tried are those of the first directories, in their order. -/
theorem tried_prefix_candidates (name : String) (directories : List String) :
    (searchDirectories read name directories).tried <+: directories.map (joinPath · name) := by
  induction directories with
  | nil => exact List.prefix_rfl
  | cons directory rest ih =>
    have first : [joinPath directory name] <+: (directory :: rest).map (joinPath · name) :=
      ⟨rest.map (joinPath · name), rfl⟩
    rw [searchDirectories]
    split
    · exact first
    · exact List.prefix_cons_inj _ |>.mpr ih
    · exact first

/-- Where there is a directory, the path below the first one is tried. -/
theorem first_tried (name directory : String) (rest : List String) :
    joinPath directory name ∈ (searchDirectories read name (directory :: rest)).tried := by
  rw [searchDirectories]
  split <;> exact List.mem_cons_self

/-- A search comes to the same wherever the paths that it tries give the same. -/
theorem searchDirectories_agrees {other : String → Except ReadFailure String}
    (same : ∀ path ∈ (searchDirectories read name directories).tried, other path = read path) :
    searchDirectories other name directories = searchDirectories read name directories := by
  induction directories with
  | nil => rfl
  | cons directory rest ih =>
    have first := same _ (first_tried read name directory rest)
    rw [searchDirectories] at same
    rw [searchDirectories, searchDirectories, first]
    cases found : read (joinPath directory name) with
    | ok source => rfl
    | error failure =>
      cases failure with
      | missing =>
        rw [found] at same
        have later := ih fun path tried => same path (List.mem_cons_of_mem _ tried)
        simp only [later]
      | other fault => rfl

/-- Names are refused before any path is tried exactly if they are empty, start at the top or go up
anywhere. The paths that are tried for any other name lie below the directories, of which each keeps
its places and has those of the name, all of them entries, behind them; and nothing but these paths has
to do with what the search comes to. A source in a file tree is what such a search of the tree gives. -/
theorem search_stays_below (directories : List String) (name : String) :
    (findSource read directories name = ⟨[], .error (.notFound name (some .invalidInput))⟩ ↔
        LeadsElsewhere name) ∧
      (∀ path ∈ (findSource read directories name).tried, ∃ directory ∈ directories,
        path = joinPath directory name ∧
          pathPlaces path = pathPlaces directory ++ (properPieces name).map .entry ∧
          ∀ piece ∈ properPieces name, IsEntryName piece) ∧
      ∀ other : String → Except ReadFailure String,
        (∀ path ∈ (findSource read directories name).tried, other path = read path) →
          findSource other directories name = findSource read directories name := by
  unfold findSource
  by_cases elsewhere : LeadsElsewhere name
  · rw [if_pos (leadsElsewhere_iff.mp elsewhere)]
    exact ⟨by simp [elsewhere], nofun, fun other _ => by rw [if_pos (leadsElsewhere_iff.mp elsewhere)]⟩
  · have accepted := mt leadsElsewhere_iff.mpr elsewhere
    have relative : isAbsolute name = false := by
      rw [← Bool.not_eq_true, isAbsolute_iff]
      exact fun top => elsewhere (.inr (.inl top))
    have down : ".." ∉ pathPieces name := fun up => elsewhere (.inr (.inr up))
    rw [if_neg accepted]
    refine ⟨?_, fun path tried => ?_, fun other same => ?_⟩
    · refine iff_of_false (fun refused => ?_) elsewhere
      cases directories with
      | nil => simp [searchDirectories] at refused
      | cons directory rest =>
        have tried := first_tried read name directory rest
        rw [refused] at tried
        cases tried
    · have candidate := (tried_prefix_candidates read name directories).subset tried
      obtain ⟨directory, among, rfl⟩ := List.mem_map.mp candidate
      refine ⟨directory, among, rfl, ?_, fun piece => isEntryName_of_proper down⟩
      rw [pathPlaces_joinPath relative, filterMap_ofPiece? down]
    · rw [if_neg accepted, searchDirectories_agrees read same]

/-- Dots in front of a name, repeated slashes and dots between its pieces, and slashes at the ends, below
directories where nothing is found. -/
theorem search_stays_below_dotted :
    let search := findSource (fun _ => .error .missing) ["./t/..", "u/"] "..x//./y/"
    ¬LeadsElsewhere "..x//./y/" ∧ search.tried = ["./t/../..x//./y/", "u/..x//./y/"] ∧
      pathPlaces "./t/../..x//./y/" = [.entry "t", .above, .entry "..x", .entry "y"] ∧
      ∀ path ∈ search.tried, ∃ directory ∈ ["./t/..", "u/"],
        pathPlaces path = pathPlaces directory ++ [.entry "..x", .entry "y"] := by
  intro search
  refine ⟨by decide +kernel, by decide +kernel, by decide +kernel, fun path tried => ?_⟩
  obtain ⟨-, below, -⟩ :=
    search_stays_below (fun _ => .error .missing) ["./t/..", "u/"] "..x//./y/"
  obtain ⟨directory, among, -, places, -⟩ := below path tried
  exact ⟨directory, among, places⟩

end Searches

end TextTemplate
