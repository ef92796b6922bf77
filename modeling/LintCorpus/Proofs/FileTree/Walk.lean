import LintCorpus.FileTree

/-!
Walks in a tree of files, name by name (`step_or_endsAt`).  A walk that ends in a directory came
through directories, and it ends there too in every tree that has the same directories and more.
-/

namespace LintCorpus

/-- A name that an entry can have. -/
structure IsName (name : String) : Prop where
  ne_empty : name ≠ ""
  ne_dot : name ≠ "."
  ne_dots : name ≠ ".."
  no_slash : '/' ∉ name.toList

namespace FileTree

variable {tree before after : FileTree} {names out : List String}

@[simp] theorem entry?_put_self (tree : FileTree) (names : List String) (entry : Entry) :
    FileTree.entry? (tree.put names entry) names = some entry := by
  exact if_pos rfl

theorem entry?_put_of_ne {other : List String} (hne : other ≠ names) (entry : Entry) :
    FileTree.entry? (tree.put names entry) other = tree.entry? other := by
  exact if_neg hne

/-- Directories lead from the root to the last of the names. -/
inductive HasDirectory (tree : FileTree) : List String → Prop where
  | root : HasDirectory tree []
  | child {names : List String} {name : String} (hnames : HasDirectory tree names)
      (hname : IsName name) (hentry : tree.entry? (names ++ [name]) = some .directory) :
      HasDirectory tree (names ++ [name])

/-- All directories of one tree are in the other one. -/
structure DirectoriesIn (before after : FileTree) : Prop where
  start : after.workingDirectory = before.workingDirectory
  entry : ∀ names, before.entry? names = some .directory → after.entry? names = some .directory

namespace HasDirectory

theorem dropLast (hnames : tree.HasDirectory names) : tree.HasDirectory names.dropLast := by
  cases hnames with
  | root => exact .root
  | child hnames _ _ => rwa [List.dropLast_concat]

theorem isName (hnames : tree.HasDirectory names) : ∀ name ∈ names, IsName name := by
  induction hnames with
  | root => simp
  | child _ hname _ ih =>
      simp only [List.mem_append, List.mem_singleton]
      rintro other (hother | rfl)
      · exact ih other hother
      · exact hname

theorem mono (hkeep : DirectoriesIn before after) (hnames : before.HasDirectory names) :
    after.HasDirectory names := by
  induction hnames with
  | root => exact .root
  | child _ hname hentry ih => exact .child ih hname (hkeep.entry _ hentry)

end HasDirectory

/-- One name of a walk leads from a directory to a directory. -/
inductive Step (tree : FileTree) (names : List String) : String → List String → Prop where
  | stay : Step tree names "." names
  | back : Step tree names ".." names.dropLast
  | into {part : String} (hdot : part ≠ ".") (hdots : part ≠ "..")
      (hentry : tree.entry? (names ++ [part]) = some .directory) :
      Step tree names part (names ++ [part])

/-- The last name of a walk does not lead to a directory. -/
inductive EndsAt (tree : FileTree) (names : List String) (part : String) : Destination → Prop where
  | file {content : List UInt8} (hdot : part ≠ ".") (hdots : part ≠ "..")
      (hentry : tree.entry? (names ++ [part]) = some (.file content)) :
      EndsAt tree names part (.file (names ++ [part]) content)
  | vacant (hdot : part ≠ ".") (hdots : part ≠ "..")
      (hentry : tree.entry? (names ++ [part]) = none) :
      EndsAt tree names part (.vacant (names ++ [part]))

theorem walk_of_step {part : String} {next : List String} (hstep : tree.Step names part next)
    (parts : List String) : tree.walk names (part :: parts) = tree.walk next parts := by
  cases hstep with
  | stay => rw [walk, if_pos rfl]
  | back => rw [walk, if_neg (by decide), if_pos rfl]
  | into hdot hdots hentry => rw [walk, if_neg hdot, if_neg hdots, hentry]

theorem walk_of_endsAt {part : String} {destination : Destination}
    (hends : tree.EndsAt names part destination) :
    tree.walk names [part] = .ok destination := by
  cases hends with
  | file hdot hdots hentry => simp [walk, hdot, hdots, hentry]
  | vacant hdot hdots hentry => simp [walk, hdot, hdots, hentry]

/-- All that a walk can do at a name. -/
theorem step_or_endsAt {part : String} {parts : List String} {destination : Destination}
    (hwalk : tree.walk names (part :: parts) = .ok destination) :
    (∃ next, tree.Step names part next ∧ tree.walk next parts = .ok destination) ∨
      (parts = [] ∧ tree.EndsAt names part destination) := by
  by_cases hdot : part = "."
  · subst hdot
    exact .inl ⟨_, .stay, (walk_of_step .stay parts).symm.trans hwalk⟩
  by_cases hdots : part = ".."
  · subst hdots
    exact .inl ⟨_, .back, (walk_of_step .back parts).symm.trans hwalk⟩
  cases hentry : tree.entry? (names ++ [part]) with
  | none =>
      simp only [walk, hdot, hdots, hentry, ↓reduceIte, List.isEmpty_iff] at hwalk
      split at hwalk
      · cases hwalk
        exact .inr ⟨‹_›, .vacant hdot hdots hentry⟩
      · cases hwalk
  | some entry =>
      cases entry with
      | directory =>
          have hstep : tree.Step names part (names ++ [part]) := .into hdot hdots hentry
          exact .inl ⟨_, hstep, (walk_of_step hstep parts).symm.trans hwalk⟩
      | file content =>
          simp only [walk, hdot, hdots, hentry, ↓reduceIte, List.isEmpty_iff] at hwalk
          split at hwalk
          · cases hwalk
            exact .inr ⟨‹_›, .file hdot hdots hentry⟩
          · cases hwalk

theorem Step.mono {part : String} {next : List String} (hkeep : DirectoriesIn before after)
    (hstep : before.Step names part next) : after.Step names part next := by
  cases hstep with
  | stay => exact .stay
  | back => exact .back
  | into hdot hdots hentry => exact .into hdot hdots (hkeep.entry _ hentry)

theorem HasDirectory.step {part : String} {next : List String} (hnames : tree.HasDirectory names)
    (hpart : part ≠ "" ∧ '/' ∉ part.toList) (hstep : tree.Step names part next) :
    tree.HasDirectory next := by
  cases hstep with
  | stay => exact hnames
  | back => exact hnames.dropLast
  | into hdot hdots hentry => exact .child hnames ⟨hpart.1, hdot, hdots, hpart.2⟩ hentry

theorem HasDirectory.walk {parts : List String} (hnames : tree.HasDirectory names)
    (hparts : ∀ part ∈ parts, part ≠ "" ∧ '/' ∉ part.toList)
    (hwalk : tree.walk names parts = .ok (.directory out)) : tree.HasDirectory out := by
  induction parts generalizing names with
  | nil =>
      cases hwalk
      exact hnames
  | cons part parts ih =>
      obtain ⟨hpart, hparts⟩ := List.forall_mem_cons.mp hparts
      rcases step_or_endsAt hwalk with ⟨next, hstep, hwalk⟩ | ⟨-, hends⟩
      · exact ih (hnames.step hpart hstep) hparts hwalk
      · cases hends

theorem walk_mono {parts : List String} (hkeep : DirectoriesIn before after)
    (hwalk : before.walk names parts = .ok (.directory out)) :
    after.walk names parts = .ok (.directory out) := by
  induction parts generalizing names with
  | nil => exact hwalk
  | cons part parts ih =>
      rcases step_or_endsAt hwalk with ⟨next, hstep, hwalk⟩ | ⟨-, hends⟩
      · rw [walk_of_step (hstep.mono hkeep)]
        exact ih hwalk
      · cases hends

/-- Nothing is where a walk ends at a vacant name. -/
theorem entry?_of_walk_vacant {parts : List String}
    (hwalk : tree.walk names parts = .ok (.vacant out)) : tree.entry? out = none := by
  induction parts generalizing names with
  | nil => cases hwalk
  | cons part parts ih =>
      rcases step_or_endsAt hwalk with ⟨next, -, hwalk⟩ | ⟨-, hends⟩
      · exact ih hwalk
      · cases hends with
        | vacant _ _ hentry => exact hentry

/-- A walk to a vacant name ends in the directory that is made there. -/
theorem walk_of_walk_vacant {parts : List String} (hkeep : DirectoriesIn before after)
    (hwalk : before.walk names parts = .ok (.vacant out))
    (hout : after.entry? out = some .directory) :
    after.walk names parts = .ok (.directory out) := by
  induction parts generalizing names with
  | nil => cases hwalk
  | cons part parts ih =>
      rcases step_or_endsAt hwalk with ⟨next, hstep, hwalk⟩ | ⟨rfl, hends⟩
      · rw [walk_of_step (hstep.mono hkeep)]
        exact ih hwalk
      · cases hends with
        | vacant hdot hdots _ => rw [walk_of_step (.into hdot hdots hout), walk]

/-- A walk from the root passes along directories. -/
theorem walk_append (hnames : tree.HasDirectory names) (parts : List String) :
    tree.walk [] (names ++ parts) = tree.walk names parts := by
  induction hnames generalizing parts with
  | root => rfl
  | child _ hname hentry ih =>
      rw [List.append_assoc, ih, List.singleton_append,
        walk_of_step (.into hname.ne_dot hname.ne_dots hentry)]

end FileTree

end LintCorpus
