import LintCorpus.Proofs.FileTree.Walk
import LintCorpus.Proofs.Text.Cut

/-!
Files in a directory.  The path from the root to a directory with a name behind it leads to the
entry of that name, so that a file can be written there unless the entry is a directory
(`Writable`), and what was written can be read.
-/

namespace LintCorpus.FileTree

variable {tree : FileTree} {names : List String} {name path : String} {content : List UInt8}

theorem isPart_of_mem_parts : ∀ part ∈ parts path, part ≠ "" ∧ '/' ∉ part.toList := by
  intro part hpart
  simp only [parts, List.mem_map, List.mem_filter, decide_eq_true_eq] at hpart
  obtain ⟨cs, ⟨hcs, hne⟩, rfl⟩ := hpart
  rw [String.toList_ofList]
  exact ⟨by simpa using hne, Text.not_mem_of_mem_splitOn cs hcs⟩

/-- The characters of the names, with a slash before each of them. -/
def slashed (names : List String) : List Char :=
  (names.map String.toList).flatMap ('/' :: ·)

theorem slashed_append (first second : List String) :
    slashed (first ++ second) = slashed first ++ slashed second := by
  simp [slashed]

/-- The path from the root to the last of the names. -/
def rootPath (names : List String) : String :=
  FilePath.ofComponents true names

theorem toList_rootPath (hnames : names ≠ []) :
    (rootPath names).toList = slashed names := by
  have hslash : "/".toList = ['/'] := rfl
  have hjoin : ∀ (name : String) (more : List String),
      ("/".intercalate (name :: more)).toList = name.toList ++ slashed more := by
    intro name more
    rw [String.toList_intercalate, hslash, List.map_cons, Text.intercalate_cons, slashed]
  cases names with
  | nil => exact absurd rfl hnames
  | cons name more => simp [rootPath, FilePath.ofComponents, hjoin, slashed, hslash]

theorem getLast?_slashed_concat (names : List String) (hne : name ≠ "")
    (hslash : '/' ∉ name.toList) : (slashed (names ++ [name])).getLast? ≠ some '/' := by
  have hchars : name.toList ≠ [] := by simpa using hne
  have hlast : (slashed (names ++ [name])).getLast? = name.toList.getLast? := by
    rw [slashed_append, List.getLast?_append]
    simp only [slashed, List.map_cons, List.map_nil, List.flatMap_cons, List.flatMap_nil,
      List.append_nil]
    rw [List.getLast?_cons_of_ne_nil hchars]
    cases hget : name.toList.getLast? with
    | none => exact absurd (List.getLast?_eq_none_iff.mp hget) hchars
    | some c => rfl
  rw [hlast]
  exact fun hget => hslash (List.mem_of_getLast? hget)

/-- The path of a name in a directory that is given by its path from the root on. -/
def pathIn (names : List String) (name : String) : String :=
  FilePath.join (rootPath names) name

theorem toList_pathIn (hnames : ∀ name ∈ names, IsName name) (hslash : '/' ∉ name.toList) :
    (pathIn names name).toList = slashed (names ++ [name]) := by
  have hfile : FilePath.isAbsolute name.toList = false := by
    cases hchars : name.toList with
    | nil => rfl
    | cons c cs =>
        have hc : '/' ≠ c := by
          rintro rfl
          exact hslash (hchars ▸ List.mem_cons_self)
        simp [FilePath.isAbsolute, List.isPrefixOf, hc]
  have hmark : "/".toList = ['/'] := rfl
  rcases List.eq_nil_or_concat names with rfl | ⟨front, last, rfl⟩
  · have hdir : (rootPath []).toList = ['/'] := rfl
    simp [pathIn, FilePath.join, hfile, hdir, slashed]
  · rw [List.concat_eq_append] at hnames ⊢
    obtain ⟨hne, -, -, hlast⟩ := hnames last (by simp)
    have hdir : (rootPath (front ++ [last])).toList = slashed (front ++ [last]) :=
      toList_rootPath (by simp)
    have hopen : ¬ (slashed (front ++ [last]) = [] ∨
        (slashed (front ++ [last])).getLast? = some '/') := by
      rw [not_or]
      exact ⟨by simp [slashed], getLast?_slashed_concat front hne hlast⟩
    rw [pathIn, FilePath.join, hfile, hdir, if_neg Bool.false_ne_true, if_neg hopen,
      String.toList_append, String.toList_append, hdir, hmark, slashed_append _ [name]]
    simp [slashed]

theorem parts_pathIn (hnames : ∀ name ∈ names, IsName name) (hslash : '/' ∉ name.toList) :
    parts (pathIn names name) = names ++ [name].filter (· ≠ "") := by
  have hall : ∀ cs ∈ (names ++ [name]).map String.toList, '/' ∉ cs := by
    intro cs hcs
    obtain ⟨other, hother, rfl⟩ := List.mem_map.mp hcs
    rcases List.mem_append.mp hother with hother | hother
    · exact (hnames other hother).no_slash
    · rwa [List.mem_singleton.mp hother]
  have hkept : names.filter (· ≠ "") = names :=
    List.filter_eq_self.mpr fun other hother => decide_eq_true (hnames other hother).ne_empty
  have hnil : ∀ name : String, (name.toList ≠ []) = (name ≠ "") := by
    intro name
    simp
  rw [parts, toList_pathIn hnames hslash, slashed, Text.splitOn_flatMap hall,
    List.filter_cons_of_neg (by simp), List.filter_map, List.map_map]
  simp only [Function.comp_def, hnil, String.ofList_toList, List.map_id', List.filter_append, hkept]

theorem parts_pathIn_of_isName (hnames : ∀ name ∈ names, IsName name) (hname : IsName name) :
    parts (pathIn names name) = names ++ [name] := by
  rw [parts_pathIn hnames hname.no_slash, List.filter_cons_of_pos (by simpa using hname.ne_empty),
    List.filter_nil]

/-- The path leads where a walk leads that goes on from the directory by the name. -/
theorem locate_pathIn (hnames : tree.HasDirectory names) (hslash : '/' ∉ name.toList) :
    tree.locate (pathIn names name) = tree.walk names ([name].filter (· ≠ "")) := by
  have hchars : ∃ rest, (pathIn names name).toList = '/' :: rest := by
    rw [toList_pathIn hnames.isName hslash]
    cases names <;> exact ⟨_, rfl⟩
  obtain ⟨rest, hchars⟩ := hchars
  have hne : pathIn names name ≠ "" := by
    intro hempty
    rw [hempty] at hchars
    cases hchars
  have habsolute : FilePath.isAbsolute (pathIn names name).toList = true := by
    rw [hchars]
    rfl
  rw [locate, if_neg hne, start, if_pos habsolute, parts_pathIn hnames.isName hslash,
    walk_append hnames]

/-- A file can have the name in the directory. -/
def Writable (tree : FileTree) (names : List String) (name : String) : Prop :=
  IsName name ∧ tree.entry? (names ++ [name]) ≠ some .directory

theorem locate_pathIn_of_isName (hnames : tree.HasDirectory names) (hname : IsName name) :
    tree.locate (pathIn names name) = tree.walk names [name] := by
  rw [locate_pathIn hnames hname.no_slash, List.filter_cons_of_pos (by simpa using hname.ne_empty),
    List.filter_nil]

theorem wantsDirectory_pathIn (hnames : tree.HasDirectory names) (hname : IsName name) :
    wantsDirectory (pathIn names name) = false := by
  rw [wantsDirectory, toList_pathIn hnames.isName hname.no_slash]
  exact decide_eq_false (getLast?_slashed_concat names hname.ne_empty hname.no_slash)

theorem readBytes_pathIn (hnames : tree.HasDirectory names) (hname : IsName name)
    (hentry : tree.entry? (names ++ [name]) = some (.file content)) :
    tree.readBytes (pathIn names name) = .ok content := by
  have hlocate : tree.locate (pathIn names name) = .ok (.file (names ++ [name]) content) := by
    rw [locate_pathIn_of_isName hnames hname]
    exact walk_of_endsAt (.file hname.ne_dot hname.ne_dots hentry)
  simp [readBytes, find, hlocate, wantsDirectory_pathIn hnames hname]

theorem writeBytes_of_writable (hnames : tree.HasDirectory names) (hname : tree.Writable names name)
    (content : List UInt8) :
    tree.writeBytes (pathIn names name) content =
      .ok (tree.put (names ++ [name]) (.file content)) := by
  obtain ⟨hname, hentry⟩ := hname
  have hlocate := locate_pathIn_of_isName hnames hname
  have hwants := wantsDirectory_pathIn hnames hname
  cases hget : tree.entry? (names ++ [name]) with
  | none =>
      rw [walk_of_endsAt (.vacant hname.ne_dot hname.ne_dots hget)] at hlocate
      simp [writeBytes, hlocate, hwants]
  | some entry =>
      cases entry with
      | directory => exact absurd hget hentry
      | file old =>
          rw [walk_of_endsAt (.file hname.ne_dot hname.ne_dots hget)] at hlocate
          simp [writeBytes, hlocate, hwants]

/-- Nothing can be written at a path that leads to a directory. -/
theorem writeBytes_of_not_writable (hnames : tree.HasDirectory names) (hslash : '/' ∉ name.toList)
    (hname : ¬ tree.Writable names name) (content : List UInt8) :
    tree.writeBytes (pathIn names name) content = .error .isADirectory := by
  have hlocate : ∃ out, tree.locate (pathIn names name) = .ok (.directory out) := by
    rw [locate_pathIn hnames hslash]
    by_cases hempty : name = ""
    · exact ⟨names, by simp [hempty, walk]⟩
    rw [List.filter_cons_of_pos (by simpa using hempty), List.filter_nil]
    by_cases hdot : name = "."
    · subst hdot
      exact ⟨names, walk_of_step .stay []⟩
    by_cases hdots : name = ".."
    · subst hdots
      exact ⟨names.dropLast, walk_of_step .back []⟩
    have hentry : tree.entry? (names ++ [name]) = some .directory :=
      Decidable.byContradiction fun hentry => hname ⟨⟨hempty, hdot, hdots, hslash⟩, hentry⟩
    exact ⟨names ++ [name], walk_of_step (.into hdot hdots hentry) []⟩
  obtain ⟨out, hlocate⟩ := hlocate
  simp [writeBytes, hlocate]

end LintCorpus.FileTree
