import LintCorpus.Proofs.FileTree.Making

/-!
Writing files into a directory, one after the other.  A file can be written unless its name leads to
a directory, and the first file for which that fails ends the run (`exists_run_writeAll`).
-/

namespace LintCorpus.FileTree

variable {tree : FileTree} {names out : List String} {name : String} {content : List UInt8}
  {file : String × List UInt8} {files : List (String × List UInt8)}

/-- The tree in which files with these names and contents are in the directory. -/
def putAll (tree : FileTree) (out : List String) (files : List (String × List UInt8)) : FileTree :=
  files.foldl (fun tree file => tree.put (out ++ [file.1]) (.file file.2)) tree

/-- The path of a file in the directory, with its content. -/
def placed (out : List String) (file : String × List UInt8) : String × List UInt8 :=
  (pathIn out file.1, file.2)

theorem putAll_cons (tree : FileTree) (out : List String) (file : String × List UInt8)
    (files : List (String × List UInt8)) :
    tree.putAll out (file :: files) =
      (tree.put (out ++ [file.1]) (.file file.2)).putAll out files := by
  rfl

theorem directoriesIn_put (hentry : tree.entry? names ≠ some .directory) (content : List UInt8) :
    DirectoriesIn tree (tree.put names (.file content)) := by
  refine ⟨rfl, fun other hother => ?_⟩
  have hne : other ≠ names := by
    rintro rfl
    exact hentry hother
  rw [entry?_put_of_ne hne, hother]

/-- A file that is written does not change what else can be written. -/
theorem writable_put_iff (hname : tree.Writable out name) (content : List UInt8) {other : String} :
    (tree.put (out ++ [name]) (.file content)).Writable out other ↔ tree.Writable out other := by
  by_cases hother : other = name
  · subst hother
    simp [Writable, hname.1, hname.2]
  · have hne : out ++ [other] ≠ out ++ [name] := by simp [hother]
    rw [Writable, entry?_put_of_ne hne, Writable]

theorem put_eq_self (hentry : tree.entry? names = some (.file content)) :
    tree.put names (.file content) = tree := by
  have hsame : FileTree.entry? (tree.put names (.file content)) = tree.entry? := by
    funext other
    by_cases hne : other = names
    · rw [hne, entry?_put_self, hentry]
    · exact entry?_put_of_ne hne _
  exact congrArg (FileTree.mk · tree.workingDirectory) hsame

theorem entry?_putAll_of_ne (hne : ∀ file ∈ files, out ++ [file.1] ≠ names) :
    FileTree.entry? (tree.putAll out files) names = tree.entry? names := by
  induction files generalizing tree with
  | nil => rfl
  | cons file files ih =>
      obtain ⟨hfile, hfiles⟩ := List.forall_mem_cons.mp hne
      rw [putAll_cons, ih hfiles, entry?_put_of_ne (Ne.symm hfile)]

theorem entry?_putAll_of_mem (hnodup : (files.map (·.1)).Nodup) (hfile : file ∈ files) :
    FileTree.entry? (tree.putAll out files) (out ++ [file.1]) = some (.file file.2) := by
  induction files generalizing tree with
  | nil => cases hfile
  | cons first files ih =>
      obtain ⟨hfirst, hnodup⟩ := List.nodup_cons.mp hnodup
      rw [putAll_cons]
      rcases List.mem_cons.mp hfile with rfl | hfile
      · have hne : ∀ other ∈ files, out ++ [other.1] ≠ out ++ [file.1] := by
          intro other hother heq
          have hname : other.1 = file.1 := by simpa using heq
          exact hfirst (List.mem_map.mpr ⟨other, hother, hname⟩)
        rw [entry?_putAll_of_ne hne, entry?_put_self]
      · exact ih hnodup hfile

theorem directoriesIn_putAll (hwritable : ∀ file ∈ files, tree.Writable out file.1) :
    DirectoriesIn tree (tree.putAll out files) := by
  induction files generalizing tree with
  | nil => exact ⟨rfl, fun _ hentry => hentry⟩
  | cons file files ih =>
      obtain ⟨hfile, hfiles⟩ := List.forall_mem_cons.mp hwritable
      have hput := directoriesIn_put hfile.2 file.2
      have hrest : DirectoriesIn _ _ := ih fun other hother =>
        (writable_put_iff hfile file.2).mpr (hfiles other hother)
      rw [putAll_cons]
      exact ⟨hrest.start.trans hput.start, fun names hentry =>
        hrest.entry names (hput.entry names hentry)⟩

theorem putAll_eq_self
    (hfiles : ∀ file ∈ files, tree.entry? (out ++ [file.1]) = some (.file file.2)) :
    tree.putAll out files = tree := by
  induction files with
  | nil => rfl
  | cons file files ih =>
      obtain ⟨hfile, hfiles⟩ := List.forall_mem_cons.mp hfiles
      rw [putAll_cons, put_eq_self hfile, ih hfiles]

/-- What a run gives that wrote all files but these. -/
def outcomeOf (out : List String) : List (String × List UInt8) → Except FileFailure Unit
  | [] => .ok ()
  | file :: _ => .error ⟨pathIn out file.1, .isADirectory⟩

theorem run_writeAll_cons (tree : FileTree) (path : String) (content : List UInt8)
    (rest : List (String × List UInt8)) :
    tree.run (Files.writeAll ((path, content) :: rest)) =
      match tree.writeBytes path content with
      | .ok next => next.run (Files.writeAll rest)
      | .error error => (.error ⟨path, error⟩, tree) := by
  have hwrite : tree.run (MonadFiles.writeBytes path content) =
      match tree.writeBytes path content with
      | .ok next => (.ok (), next)
      | .error error => (.error error, tree) := rfl
  rw [Files.writeAll, run_bind, hwrite]
  cases tree.writeBytes path content with
  | ok next => rfl
  | error error => rfl

/-- The files are written up to the first one that cannot be written. -/
theorem exists_run_writeAll (hout : tree.HasDirectory out)
    (hslash : ∀ file ∈ files, '/' ∉ file.1.toList) :
    ∃ written rest, files = written ++ rest ∧ (∀ file ∈ written, tree.Writable out file.1) ∧
      (∀ file ∈ rest.head?, ¬ tree.Writable out file.1) ∧
      tree.run (Files.writeAll (files.map (placed out))) =
        (outcomeOf out rest, tree.putAll out written) := by
  induction files generalizing tree with
  | nil => exact ⟨[], [], rfl, by simp, by simp, rfl⟩
  | cons file files ih =>
      obtain ⟨hfile, hfiles⟩ := List.forall_mem_cons.mp hslash
      rw [List.map_cons, placed, run_writeAll_cons]
      by_cases hwritable : tree.Writable out file.1
      · have hput := directoriesIn_put hwritable.2 file.2
        obtain ⟨written, rest, hsplit, hwritten, hrest, hrun⟩ := ih (hout.mono hput) hfiles
        rw [writeBytes_of_writable hout hwritable]
        refine ⟨file :: written, rest, by rw [hsplit, List.cons_append], ?_, ?_, hrun⟩
        · rw [List.forall_mem_cons]
          exact ⟨hwritable, fun other hother =>
            (writable_put_iff hwritable file.2).mp (hwritten other hother)⟩
        · exact fun other hother =>
            mt (writable_put_iff hwritable file.2).mpr (hrest other hother)
      · rw [writeBytes_of_not_writable hout hfile hwritable]
        exact ⟨[], file :: files, rfl, by simp, by simpa using hwritable, rfl⟩

end LintCorpus.FileTree
