import LintCorpus.Export
import LintCorpus.Proofs.FileTree.Access

/-!
Making directories.  Whether it succeeds or not, all that changes is that some missing directories
are there, each of them at a path that was asked for or that encloses it (`Opened`).  When the
directory of an export is opened, a second time changes nothing.
-/

namespace LintCorpus.FileTree

variable {tree before between after : FileTree} {paths : List String} {path dir : String}
  {out : List String}

/-- The names lead to what they led to before, or to a directory that was missing, and one of the
paths leads there too. -/
def KeptOrMade (paths : List String) (before after : FileTree) (names : List String) : Prop :=
  after.entry? names = before.entry? names ∨
    before.entry? names = none ∧ after.entry? names = some .directory ∧
      ∃ path ∈ paths, after.locate path = .ok (.directory names)

/-- Nothing changes, except that missing directories are made to which the paths lead. -/
structure Opened (paths : List String) (before after : FileTree) : Prop where
  start : after.workingDirectory = before.workingDirectory
  entry : ∀ names, KeptOrMade paths before after names

theorem locate_mono (hkeep : DirectoriesIn before after)
    (hlocate : before.locate path = .ok (.directory out)) :
    after.locate path = .ok (.directory out) := by
  rw [locate] at hlocate ⊢
  split at hlocate
  · cases hlocate
  · rw [if_neg ‹_›, start, hkeep.start]
    exact walk_mono hkeep hlocate

theorem isDirectory_iff :
    tree.isDirectory path = true ↔ ∃ out, tree.locate path = .ok (.directory out) := by
  rw [isDirectory, find]
  cases hlocate : tree.locate path with
  | error error => simp
  | ok destination =>
      cases destination with
      | directory names => simp
      | vacant names => simp
      | file names content => by_cases hwants : wantsDirectory path <;> simp [hwants]

namespace Opened

theorem directoriesIn (hopened : Opened paths before after) : DirectoriesIn before after where
  start := hopened.start
  entry := by
    intro names hentry
    rcases hopened.entry names with hkept | ⟨hnone, -⟩
    · rw [hkept, hentry]
    · rw [hnone] at hentry
      cases hentry

theorem refl (paths : List String) (tree : FileTree) : Opened paths tree tree :=
  ⟨rfl, fun _ => .inl rfl⟩

theorem mono {more : List String} (hsubset : paths ⊆ more) (hopened : Opened paths before after) :
    Opened more before after where
  start := hopened.start
  entry := by
    intro names
    rcases hopened.entry names with hkept | ⟨hnone, hmade, path, hpath, hlocate⟩
    · exact .inl hkept
    · exact .inr ⟨hnone, hmade, path, hsubset hpath, hlocate⟩

theorem trans (hfirst : Opened paths before between) (hsecond : Opened paths between after) :
    Opened paths before after where
  start := hsecond.start.trans hfirst.start
  entry := by
    intro names
    rcases hsecond.entry names with hkept | ⟨hnone, hmade, hpath⟩
    · rcases hfirst.entry names with hfirst | ⟨hnone, hmade, path, hpath, hlocate⟩
      · exact .inl (hkept.trans hfirst)
      · exact .inr ⟨hnone, hkept.trans hmade, path, hpath,
          locate_mono hsecond.directoriesIn hlocate⟩
    · rcases hfirst.entry names with hfirst | ⟨-, hfirst, -⟩
      · exact .inr ⟨hfirst.symm.trans hnone, hmade, hpath⟩
      · rw [hnone] at hfirst
        cases hfirst

end Opened

theorem opened_of_makeDirectory (hmake : tree.makeDirectory path = .ok after) :
    Opened [path] tree after ∧ ∃ out, after.locate path = .ok (.directory out) := by
  rw [makeDirectory] at hmake
  split at hmake
  · cases hmake
  · rename_i names hlocate
    cases hmake
    have hhere := entry?_put_self tree names .directory
    rw [locate] at hlocate
    split at hlocate
    · cases hlocate
    · have hnone : tree.entry? names = none := entry?_of_walk_vacant hlocate
      have hkeep : DirectoriesIn tree (tree.put names .directory) := by
        refine ⟨rfl, fun other hentry => ?_⟩
        by_cases hne : other = names
        · rw [hne, hhere]
        · rw [entry?_put_of_ne hne, hentry]
      have hmade : (tree.put names .directory).locate path = .ok (.directory names) := by
        rw [locate, if_neg ‹_›]
        exact walk_of_walk_vacant hkeep hlocate hhere
      refine ⟨⟨rfl, fun other => ?_⟩, names, hmade⟩
      by_cases hne : other = names
      · subst hne
        exact .inr ⟨hnone, hhere, path, List.mem_singleton_self path, hmade⟩
      · exact .inl (entry?_put_of_ne hne .directory)
  · cases hmake

/-- What a program gives, and the tree that it leaves. -/
def run {α : Type} (tree : FileTree) (program : StateM FileTree α) : α × FileTree :=
  StateT.run program tree

theorem run_bind {α β : Type} (tree : FileTree) (program : StateM FileTree α)
    (next : α → StateM FileTree β) :
    tree.run (program >>= next) = (tree.run program).2.run (next (tree.run program).1) := by
  rfl

theorem run_makeDirectory (path : String) (tree : FileTree) :
    tree.run (MonadFiles.makeDirectory path) =
      match tree.makeDirectory path with
      | .ok after => (.ok (), after)
      | .error error => (.error error, tree) := by
  rfl

/-- Only missing directories to which the paths lead are made, and when that succeeds, the first
path leads to one. -/
def Leaves (paths : List String) (tree : FileTree) (result : Except FileError Unit × FileTree) :
    Prop :=
  Opened paths tree result.2 ∧
    (result.1 = .ok () → ∀ path ∈ paths.head?, ∃ out, result.2.locate path = .ok (.directory out))

theorem run_orPresent (path : String) (outcome : Except FileError Unit) (tree : FileTree) :
    tree.run (Files.orPresent path outcome) =
      (match outcome with
        | .ok () => .ok ()
        | .error error => if tree.isDirectory path then .ok () else .error error, tree) := by
  cases outcome <;> rfl

/-- A directory counts as made when it is there. -/
theorem leaves_orPresent {enclosing : List String} {outcome : Except FileError Unit}
    (hopened : Opened (path :: enclosing) tree after)
    (hmade : outcome = .ok () → ∃ out, after.locate path = .ok (.directory out)) :
    Leaves (path :: enclosing) tree (after.run (Files.orPresent path outcome)) := by
  rw [run_orPresent]
  refine ⟨hopened, fun hok => ?_⟩
  intro first hfirst
  obtain rfl : path = first := Option.some.inj hfirst
  cases outcome with
  | ok _ => exact hmade rfl
  | error error =>
      by_cases hthere : after.isDirectory path = true
      · exact isDirectory_iff.mp hthere
      · simp [hthere] at hok

theorem opened_run_makeDirectory (path : String) (tree : FileTree) :
    Opened [path] tree (tree.run (MonadFiles.makeDirectory path)).2 ∧
      ((tree.run (MonadFiles.makeDirectory path)).1 = .ok () →
        ∃ out, (tree.run (MonadFiles.makeDirectory path)).2.locate path = .ok (.directory out)) := by
  rw [run_makeDirectory]
  cases hmake : tree.makeDirectory path with
  | ok after =>
      obtain ⟨hopened, hmade⟩ := opened_of_makeDirectory hmake
      exact ⟨hopened, fun _ => hmade⟩
  | error error => exact ⟨.refl _ tree, fun hok => by cases hok⟩

theorem leaves_makeEnclosed (paths : List String) (tree : FileTree) :
    Leaves paths tree (tree.run (Files.makeEnclosed paths)) := by
  induction paths generalizing tree with
  | nil => exact ⟨.refl _ tree, fun _ => by simp⟩
  | cons path enclosing ih =>
      have hself : [path] ⊆ path :: enclosing := by simp
      have hothers : enclosing ⊆ path :: enclosing := List.subset_cons_self path enclosing
      obtain ⟨hopened, hmade⟩ := opened_run_makeDirectory path tree
      rw [Files.makeEnclosed, run_bind]
      generalize tree.run (MonadFiles.makeDirectory path) = first at hopened hmade
      obtain ⟨outcome, between⟩ := first
      split
      · -- The directory around it is missing, so that it is made first.
        rw [run_bind]
        obtain ⟨hinner, -⟩ := ih between
        generalize between.run (Files.makeEnclosed enclosing) = second at hinner
        obtain ⟨inner, within⟩ := second
        have hwithin : Opened (path :: enclosing) tree within :=
          (hopened.mono hself).trans (hinner.mono hothers)
        cases inner with
        | error error => exact ⟨hwithin, fun hok => by cases hok⟩
        | ok _ =>
            obtain ⟨hlast, hmade⟩ := opened_run_makeDirectory path within
            exact leaves_orPresent (hwithin.trans (hlast.mono hself)) hmade
      · exact leaves_orPresent (hopened.mono hself) hmade

theorem hasDirectory_of_locate (hstart : tree.HasDirectory tree.workingDirectory)
    (hlocate : tree.locate path = .ok (.directory out)) : tree.HasDirectory out := by
  rw [locate] at hlocate
  split at hlocate
  · cases hlocate
  · have hfirst : tree.HasDirectory (tree.start path) := by
      rw [FileTree.start]
      split
      · exact .root
      · exact hstart
    exact hfirst.walk isPart_of_mem_parts hlocate

theorem absolutePath_of_locate (hlocate : tree.locate path = .ok (.directory out)) :
    tree.absolutePath path = .ok (rootPath out) := by
  simp [absolutePath, find, hlocate, Except.map, rootPath]

/-- The result of opening a directory: some directories are made, and when all goes well, the path
leads to the one whose path from the root on is given. -/
structure Opens (dir : String) (tree : FileTree) (result : Except FileError String × FileTree) :
    Prop where
  opened : Opened (dir :: FilePath.enclosing dir) tree result.2
  there : ∀ directory, result.1 = .ok directory →
    ∃ out, directory = rootPath out ∧ result.2.locate dir = .ok (.directory out)

theorem opens_openDirectory (dir : String) (tree : FileTree) :
    Opens dir tree (tree.run (Corpus.openDirectory dir)) := by
  rw [Corpus.openDirectory, run_bind, Files.makeDirectories]
  by_cases hempty : dir = ""
  · subst hempty
    exact ⟨.refl _ tree, fun _ hok => by cases hok⟩
  · rw [if_neg hempty]
    have hleaves := leaves_makeEnclosed (dir :: FilePath.enclosing dir) tree
    generalize tree.run (Files.makeEnclosed (dir :: FilePath.enclosing dir)) = made at hleaves
    obtain ⟨outcome, after⟩ := made
    obtain ⟨hopened, hmade⟩ := hleaves
    cases outcome with
    | error error => exact ⟨hopened, fun _ hok => by cases hok⟩
    | ok _ =>
        obtain ⟨out, hlocate⟩ := hmade rfl dir rfl
        refine ⟨hopened, fun directory hok => ⟨out, ?_, hlocate⟩⟩
        have habsolute : after.absolutePath dir = .ok directory := hok
        rw [absolutePath_of_locate hlocate] at habsolute
        exact (Except.ok.inj habsolute).symm

/-- A directory that is there is opened without a change. -/
theorem run_openDirectory_of_locate (hlocate : tree.locate dir = .ok (.directory out)) :
    tree.run (Corpus.openDirectory dir) = (.ok (rootPath out), tree) := by
  have hne : dir ≠ "" := by
    rintro rfl
    cases hlocate
  have hmake : tree.makeDirectory dir = .error .alreadyExists := by
    rw [makeDirectory, hlocate]
  have hthere : tree.isDirectory dir = true := isDirectory_iff.mpr ⟨out, hlocate⟩
  rw [Corpus.openDirectory, run_bind, Files.makeDirectories, if_neg hne, Files.makeEnclosed,
    run_bind, run_makeDirectory, hmake]
  simp only [run_orPresent, hthere, ↓reduceIte]
  exact congrArg (·, tree) (absolutePath_of_locate hlocate)

end LintCorpus.FileTree
