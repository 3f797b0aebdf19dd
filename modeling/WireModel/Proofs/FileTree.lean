import WireModel.FileTree
import WireModel.Proofs.Outcome

/-!
Trees of files while a package is written. An entry that is put at a place is found there and
changes nothing elsewhere, a path leads where it led as long as no directory comes or goes, and
making directories adds them and nothing else.
-/

namespace WireModel

namespace FileTree

variable {tree between after : FileTree} {place other : FilePlace} {entry : FileEntry}

theorem named_of_get? (absent : tree.get? place ≠ some .directory) : place.parts ≠ [] := by
  intro unnamed
  apply absent
  rw [get?, unnamed]
  rfl

private theorem lookup_replaced {entries : List (FilePlace × FileEntry)} :
    (entries.map fun old => if old.1 == place then (place, entry) else old).lookup other =
      if other = place then (entries.lookup place).map fun _ => entry
        else entries.lookup other := by
  induction entries with
  | nil => simp
  | cons first rest ih =>
    obtain ⟨found, old⟩ := first
    rw [List.map_cons]
    by_cases replaced : found = place
    · subst replaced
      by_cases same : other = found
      · simp [same]
      · have differ : (other == found) = false := beq_false_of_ne same
        simp only [beq_self_eq_true, if_true, List.lookup_cons, differ, ih, if_neg same]
    · have kept : (found == place) = false := beq_false_of_ne replaced
      by_cases same : other = found
      · subst same
        simp [kept, if_neg replaced]
      · have differ : (other == found) = false := beq_false_of_ne same
        have behind : (place == found) = false := beq_false_of_ne (Ne.symm replaced)
        simp only [kept, Bool.false_eq_true, if_false, List.lookup_cons, differ, behind, ih]

/-- An entry is found at the place where it was put, and all others are where they were. -/
theorem get?_put (named : place.parts ≠ []) :
    (tree.put place entry).get? other = if other = place then some entry else tree.get? other := by
  by_cases start : other.parts = []
  · have differ : other ≠ place := by
      rintro rfl
      exact named start
    rw [get?, get?, start, if_neg differ]
    rfl
  have present (tree : FileTree) : tree.get? other = tree.entries.lookup other := by
    rw [get?, if_neg (by simpa using start)]
  rw [present, present, put]
  split
  · rename_i old
    obtain ⟨⟨found, text⟩, member, same⟩ := List.any_eq_true.mp old
    obtain rfl : found = place := by simpa using same
    obtain ⟨kept, looked⟩ : ∃ kept, tree.entries.lookup found = some kept := by
      rw [← Option.isSome_iff_exists, ← Option.ne_none_iff_isSome, Ne, List.lookup_eq_none_iff]
      intro absent
      simpa using absent _ member
    rw [lookup_replaced, looked]
    rfl
  · rename_i fresh
    rw [Bool.not_eq_true, List.any_eq_false] at fresh
    rw [List.lookup_append]
    by_cases same : other = place
    · subst same
      have absent : tree.entries.lookup other = none := by
        rw [List.lookup_eq_none_iff]
        intro old member
        have differ := fresh old member
        rw [beq_iff_eq] at differ
        simpa using Ne.symm differ
      simp [absent]
    · have differ : (other == place) = false := beq_false_of_ne same
      simp [List.lookup_cons, differ, same]

/-- The trees have the same directories. -/
def SameDirectories (tree after : FileTree) : Prop :=
  ∀ place, tree.get? place = some .directory ↔ after.get? place = some .directory

theorem SameDirectories.trans (first : SameDirectories tree between)
    (second : SameDirectories between after) : SameDirectories tree after :=
  fun place => (first place).trans (second place)

/-- Putting a file where no directory is leaves the directories. -/
theorem sameDirectories_put {text : String} (free : tree.get? place ≠ some .directory) :
    SameDirectories tree (tree.put place (.file text)) := by
  intro other
  rw [get?_put (named_of_get? free)]
  by_cases same : other = place
  · subst same
    simp [free]
  · rw [if_neg same]

/-- A step of a walk leads out of a directory. -/
theorem walk_cons {part : String} {rest : List String} :
    tree.walk place (part :: rest) = .ok other ↔ tree.get? place = some .directory ∧
      if part = ".." then tree.walk place.above rest = .ok other
      else Text.pathSize part ≤ FilePath.maxPartSize ∧
        tree.walk (place.inside part) rest = .ok other := by
  rw [walk]
  cases found : tree.get? place with
  | none => simp
  | some entry =>
    cases entry with
    | file text => simp
    | directory =>
      by_cases up : part = ".."
      · simp [up]
      · by_cases long : Text.pathSize part > FilePath.maxPartSize
        · simp [up, long, Nat.not_le.mpr long]
        · simp [up, long, Nat.not_lt.mp long]

/-- A walk leads to the same place in trees with the same directories. -/
theorem SameDirectories.walk (same : SameDirectories tree after) {parts : List String} :
    tree.walk place parts = .ok other ↔ after.walk place parts = .ok other := by
  induction parts generalizing place with
  | nil => exact Iff.rfl
  | cons part rest ih => rw [walk_cons, walk_cons, same place, ih, ih]

theorem locate_ok {path : FilePath} :
    tree.locate path = .ok place ↔
      Text.pathSize path.text < FilePath.maxSize ∧ tree.walk (.start path) path.parts =
        .ok place := by
  rw [locate]
  by_cases long : Text.pathSize path.text ≥ FilePath.maxSize
  · simp [long, Nat.not_lt.mpr long]
  · simp [long, Nat.not_le.mp long]

theorem SameDirectories.locate (same : SameDirectories tree after) {path : FilePath} :
    tree.locate path = .ok place ↔ after.locate path = .ok place := by
  rw [locate_ok, locate_ok, same.walk]

/-- The last part of a path names an entry of the directory to which the others lead. -/
theorem walk_last {parts : List String} {name : String} (down : name ≠ "..")
    (found : tree.walk place (parts ++ [name]) = .ok other) :
    ∃ directory, tree.walk place parts = .ok directory ∧ other = directory.inside name := by
  induction parts generalizing place with
  | nil =>
    rw [List.nil_append, walk_cons, if_neg down] at found
    obtain ⟨-, -, reached⟩ := found
    cases reached
    exact ⟨place, rfl, rfl⟩
  | cons part rest ih =>
    rw [List.cons_append, walk_cons] at found
    obtain ⟨directory, next⟩ := found
    by_cases up : part = ".."
    · rw [if_pos up] at next
      obtain ⟨last, reached, same⟩ := ih next
      exact ⟨last, walk_cons.mpr ⟨directory, by rw [if_pos up]; exact reached⟩, same⟩
    · rw [if_neg up] at next
      obtain ⟨last, reached, same⟩ := ih next.2
      exact ⟨last, walk_cons.mpr ⟨directory, by rw [if_neg up]; exact ⟨next.1, reached⟩⟩, same⟩

/-- Different names in one directory lead to different places. -/
theorem eq_of_locate {directory : FilePath} {name another : String} (down : name ≠ "..")
    (anotherDown : another ≠ "..")
    (found : tree.locate { directory with parts := directory.parts ++ [name] } = .ok place)
    (anotherFound :
      tree.locate { directory with parts := directory.parts ++ [another] } = .ok place) :
    name = another := by
  obtain ⟨inside, reached, same⟩ := walk_last down (locate_ok.mp found).2
  obtain ⟨otherInside, otherReached, otherSame⟩ :=
    walk_last anotherDown (locate_ok.mp anotherFound).2
  have directories : inside = otherInside := by
    rw [show FilePlace.start { directory with parts := directory.parts ++ [name] } =
      FilePlace.start { directory with parts := directory.parts ++ [another] } from rfl,
      otherReached] at reached
    cases reached
    rfl
  rw [same, directories] at otherSame
  have parts := congrArg FilePlace.parts otherSame
  simpa [FilePlace.inside] using parts

/-- The path leads to a file with a text. -/
def Holds (tree : FileTree) (path : FilePath) (text : String) : Prop :=
  ∃ place, tree.locate path = .ok place ∧ tree.get? place = some (.file text)

/-- Writing puts a file at a place that is no directory. -/
theorem write_ok {path : FilePath} {text : String} :
    tree.write path text = .ok after ↔ ∃ place, tree.locate path = .ok place ∧
      tree.get? place ≠ some .directory ∧ after = tree.put place (.file text) := by
  rw [write, Outcome.bind_ok]
  refine exists_congr fun place => and_congr_right fun _ => ?_
  rcases found : tree.get? place with _ | (text | _)
  · simp [Outcome.pure_ok]
  · simp [Outcome.pure_ok]
  · simp [throw, throwThe, MonadExceptOf.throw]

/-- The second tree has what the first one has, and nothing else but directories. -/
def AddsDirectories (tree after : FileTree) : Prop :=
  ∀ place, after.get? place = tree.get? place ∨
    tree.get? place = none ∧ after.get? place = some .directory

theorem AddsDirectories.refl (tree : FileTree) : AddsDirectories tree tree :=
  fun _ => .inl rfl

theorem AddsDirectories.trans (first : AddsDirectories tree between)
    (second : AddsDirectories between after) : AddsDirectories tree after := by
  intro place
  rcases second place with same | ⟨absent, made⟩
  · rw [same]
    exact first place
  · rcases first place with same | ⟨missing, -⟩
    · exact .inr ⟨same ▸ absent, made⟩
    · exact .inr ⟨missing, made⟩

theorem addsDirectories_addDirectory {path : FilePath} (made : tree.addDirectory path = .ok after) :
    AddsDirectories tree after := by
  obtain ⟨place, -, added⟩ := Outcome.bind_ok.mp made
  cases found : tree.get? place with
  | some entry =>
    rw [found] at added
    cases added
  | none =>
    rw [found] at added
    obtain rfl := Outcome.pure_ok.mp added
    have free : tree.get? place ≠ some .directory := by simp [found]
    have named := named_of_get? free
    intro other
    rw [get?_put named]
    by_cases same : other = place
    · subst same
      simp [found]
    · simp [same]

theorem addsDirectories_ensureDirectory {path : FilePath}
    (made : tree.ensureDirectory path = .ok after) : AddsDirectories tree after := by
  rw [ensureDirectory] at made
  split at made
  · rename_i added found
    cases made
    exact addsDirectories_addDirectory found
  · split at made
    · cases made
      exact .refl tree
    · cases made

theorem addsDirectories_makeReversed {slashes : Nat} {parts : List String}
    (made : makeReversed slashes parts tree = .ok after) : AddsDirectories tree after := by
  induction parts generalizing tree after with
  | nil => exact addsDirectories_ensureDirectory made
  | cons part above ih =>
    rw [makeReversed] at made
    split at made
    · obtain ⟨between, outer, inner⟩ := Outcome.bind_ok.mp made
      exact (ih outer).trans (addsDirectories_ensureDirectory inner)
    · exact addsDirectories_ensureDirectory made

/-- Making a directory adds directories and nothing else. -/
theorem addsDirectories_makeDirectory {path : FilePath}
    (made : tree.makeDirectory path = .ok after) :
    AddsDirectories tree after :=
  addsDirectories_makeReversed made

end FileTree

end WireModel
