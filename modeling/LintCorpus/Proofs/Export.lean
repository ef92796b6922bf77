import Mathlib.Data.List.Forall2
import LintCorpus.Proofs.FileTree.Writing

/-!
What an export leaves in a tree of files (`exportIn_ends`).  A corpus whose files can stand beside
each other and beside the two documents is written as a whole, or an export stops behind some of the
files, with each of those written and nothing else changed.
-/

namespace LintCorpus

open FileTree (rootPath pathIn placed)

variable {corpus : Corpus} {compilation : Compilation} {tree before opened after : FileTree}
  {dir : String} {out : List String} {files written : List (String × List UInt8)}

/-- The files have their contents, and nothing else changes, except that missing directories are
made to which the path or the paths that enclose it lead. -/
structure FileTree.WroteOnly (dir : String) (before after : FileTree)
    (files : List (String × List UInt8)) : Prop where
  content : ∀ path content, (path, content) ∈ files → after.readBytes path = .ok content
  others : ∀ names, (∀ file ∈ files, parts file.1 ≠ names) →
    KeptOrMade (dir :: FilePath.enclosing dir) before after names

/-- The digest and the hashes are those of the files that the entries name, in their order. -/
def Manifest.AgreesWith (manifest : Manifest) (tree : FileTree) (directory : String) : Prop :=
  ∃ contents, manifest.fixtures.map
      (fun entry => tree.readBytes (FilePath.join directory entry.file)) = contents.map .ok ∧
    manifest.fixtures.map (·.hash) = contents.map Blake3.hexHash ∧
    manifest.digest = Blake3.hexHash
      (List.zipWith digestRecord (manifest.fixtures.map (·.name)) contents).flatten

namespace Corpus

/-- The files can stand beside each other and beside the two documents. -/
structure Exportable (corpus : Corpus) : Prop where
  nodup : (corpus.fixtures.map (·.fileName)).Nodup
  no_slash : ∀ fixture ∈ corpus.fixtures, '/' ∉ fixture.fileName.toList
  ne_manifest : ∀ fixture ∈ corpus.fixtures, fixture.fileName ≠ manifestFile
  ne_compileCommands : ∀ fixture ∈ corpus.fixtures, fixture.fileName ≠ compileCommandsFile

/-- The outcome of an export in a tree, and the tree that it leaves. -/
def exportIn (corpus : Corpus) (tree : FileTree) (dir : String) (compilation : Compilation) :
    Except FileFailure ExportSummary × FileTree :=
  tree.run (corpus.exportTo dir compilation)

/-- The corpus is exported as a whole. -/
structure Exported (corpus : Corpus) (dir : String) (compilation : Compilation)
    (before after : FileTree) (summary : ExportSummary) : Prop where
  directory : after.absolutePath dir = .ok summary.directory
  files : summary.files =
    (corpus.fixtures.map (·.fileName) ++ [manifestFile, compileCommandsFile]).map
      (FilePath.join summary.directory)
  digest : summary.digest = corpus.digest
  sources : ∀ fixture ∈ corpus.fixtures,
    after.readBytes (FilePath.join summary.directory fixture.fileName) =
      .ok (Text.bytesOf fixture.source.toList)
  manifest : after.readBytes (FilePath.join summary.directory manifestFile) =
    .ok corpus.manifest.toJson.fileContent
  /-- The manifest tells what a reader of the files finds. -/
  manifest_agrees : corpus.manifest.AgreesWith after summary.directory
  compileCommands : after.readBytes (FilePath.join summary.directory compileCommandsFile) =
    .ok (Json.list CompileCommand.toJson
      (corpus.compileCommands summary.directory compilation)).fileContent
  /-- The commands compile the files of the fixtures, in their order. -/
  compileCommands_files :
    List.Forall₂ (fun command file => command.file = file ∧ command.arguments.getLast? = some file)
      (corpus.compileCommands summary.directory compilation) (summary.files.take corpus.size)
  others : ∀ names, (∀ file ∈ summary.files, FileTree.parts file ≠ names) →
    FileTree.KeptOrMade (dir :: FilePath.enclosing dir) before after names
  /-- Another export changes nothing. -/
  again : corpus.exportIn after dir compilation = (.ok summary, after)

/-- The export stopped behind these files, at the next one or at the directory itself.  The
directory is known unless nothing was written. -/
structure StoppedBehind (corpus : Corpus) (dir : String) (compilation : Compilation)
    (before after : FileTree) (failure : FileFailure) (directory : String)
    (written : List (String × List UInt8)) : Prop where
  place : written ≠ [] → after.absolutePath dir = .ok directory
  proper : ∃ next rest, corpus.exportFiles directory compilation = written ++ next :: rest ∧
    (failure.path = next.1 ∨ failure.path = dir ∧ written = [])
  wrote : FileTree.WroteOnly dir before after written
  /-- Neither document is written before the last source. -/
  documents : ∀ file ∈ written, file ∉ corpus.sourceFiles directory →
    corpus.sourceFiles directory <+: written

/-- What an export can end with: the whole corpus is exported, or it stopped behind some files. -/
inductive Ends (corpus : Corpus) (dir : String) (compilation : Compilation) (before : FileTree) :
    Except FileFailure ExportSummary × FileTree → Prop where
  | exported {summary : ExportSummary} {after : FileTree}
      (hexported : corpus.Exported dir compilation before after summary) :
      Ends corpus dir compilation before (.ok summary, after)
  | stopped {failure : FileFailure} {after : FileTree} {directory : String}
      {written : List (String × List UInt8)}
      (hstopped : corpus.StoppedBehind dir compilation before after failure directory written) :
      Ends corpus dir compilation before (.error failure, after)

/-- The names of the files of an export, with their contents. -/
def namedFiles (corpus : Corpus) (directory : String) (compilation : Compilation) :
    List (String × List UInt8) :=
  corpus.fixtures.map (fun fixture => (fixture.fileName, Text.bytesOf fixture.source.toList)) ++ [
    (manifestFile, corpus.manifest.toJson.fileContent),
    (compileCommandsFile,
      (Json.list CompileCommand.toJson (corpus.compileCommands directory compilation)).fileContent)]

theorem exportFiles_eq (corpus : Corpus) (compilation : Compilation) (out : List String) :
    corpus.exportFiles (rootPath out) compilation =
      (corpus.namedFiles (rootPath out) compilation).map (placed out) := by
  simp [exportFiles, sourceFiles, namedFiles, placed, pathIn, Function.comp_def]

theorem exportFiles_ne_nil (corpus : Corpus) (directory : String) (compilation : Compilation) :
    corpus.exportFiles directory compilation ≠ [] := by
  simp [exportFiles]

theorem map_fst_exportFiles (corpus : Corpus) (directory : String) (compilation : Compilation) :
    (corpus.exportFiles directory compilation).map (·.1) =
      (corpus.fixtures.map (·.fileName) ++ [manifestFile, compileCommandsFile]).map
        (FilePath.join directory) := by
  simp [exportFiles, sourceFiles, Function.comp_def]

theorem mem_exportFiles_source (directory : String) (compilation : Compilation) :
    ∀ fixture ∈ corpus.fixtures,
      (FilePath.join directory fixture.fileName, Text.bytesOf fixture.source.toList) ∈
        corpus.exportFiles directory compilation := by
  intro fixture hfixture
  exact List.mem_append_left _ (List.mem_map.mpr ⟨fixture, hfixture, rfl⟩)

theorem mem_exportFiles_manifest (corpus : Corpus) (directory : String)
    (compilation : Compilation) :
    (FilePath.join directory manifestFile, corpus.manifest.toJson.fileContent) ∈
      corpus.exportFiles directory compilation := by
  exact List.mem_append_right _ List.mem_cons_self

theorem mem_exportFiles_compileCommands (corpus : Corpus) (directory : String)
    (compilation : Compilation) :
    (FilePath.join directory compileCommandsFile,
      (Json.list CompileCommand.toJson
        (corpus.compileCommands directory compilation)).fileContent) ∈
      corpus.exportFiles directory compilation := by
  exact List.mem_append_right _ (List.mem_cons_of_mem _ List.mem_cons_self)

theorem map_fst_namedFiles (corpus : Corpus) (directory : String) (compilation : Compilation) :
    (corpus.namedFiles directory compilation).map (·.1) =
      corpus.fixtures.map (·.fileName) ++ [manifestFile, compileCommandsFile] := by
  simp [namedFiles, Function.comp_def]

namespace Exportable

theorem nodup_namedFiles (hcorpus : corpus.Exportable) (directory : String)
    (compilation : Compilation) :
    ((corpus.namedFiles directory compilation).map (·.1)).Nodup := by
  rw [map_fst_namedFiles, List.nodup_append]
  refine ⟨hcorpus.nodup, by decide, ?_⟩
  intro fileName hfileName document hdocument
  obtain ⟨fixture, hfixture, rfl⟩ := List.mem_map.mp hfileName
  simp only [List.mem_cons, List.not_mem_nil, or_false] at hdocument
  rcases hdocument with rfl | rfl
  · exact hcorpus.ne_manifest fixture hfixture
  · exact hcorpus.ne_compileCommands fixture hfixture

theorem no_slash_namedFiles (hcorpus : corpus.Exportable) (directory : String)
    (compilation : Compilation) :
    ∀ file ∈ corpus.namedFiles directory compilation, '/' ∉ file.1.toList := by
  intro file hfile
  have hname : file.1 ∈ corpus.fixtures.map (·.fileName) ++ [manifestFile, compileCommandsFile] :=
    map_fst_namedFiles corpus directory compilation ▸ List.mem_map_of_mem hfile
  simp only [List.mem_append, List.mem_map, List.mem_cons, List.not_mem_nil, or_false] at hname
  rcases hname with ⟨fixture, hfixture, heq⟩ | heq | heq
  · exact heq ▸ hcorpus.no_slash fixture hfixture
  · rw [heq]
    decide
  · rw [heq]
    decide

end Exportable

/-- What stands in the tree when some files are written into a directory that was opened. -/
theorem wroteOnly_putAll (hopened : FileTree.Opened (dir :: FilePath.enclosing dir) before opened)
    (hout : opened.HasDirectory out) (hnodup : (files.map (·.1)).Nodup)
    (hwritable : ∀ file ∈ files, opened.Writable out file.1) :
    FileTree.WroteOnly dir before (opened.putAll out files) (files.map (placed out)) where
  content := by
    intro path content hplaced
    obtain ⟨file, hfile, heq⟩ := List.mem_map.mp hplaced
    obtain ⟨rfl, rfl⟩ := Prod.mk.inj heq
    exact FileTree.readBytes_pathIn (hout.mono (FileTree.directoriesIn_putAll hwritable))
      (hwritable file hfile).1 (FileTree.entry?_putAll_of_mem hnodup hfile)
  others := by
    intro names hnames
    have hne : ∀ file ∈ files, out ++ [file.1] ≠ names := by
      intro file hfile
      rw [← FileTree.parts_pathIn_of_isName hout.isName (hwritable file hfile).1]
      exact hnames (placed out file) (List.mem_map_of_mem hfile)
    have hsame : FileTree.entry? (opened.putAll out files) names = opened.entry? names :=
      FileTree.entry?_putAll_of_ne hne
    rcases hopened.entry names with hkept | ⟨hnone, hmade, path, hpath, hlocate⟩
    · exact .inl (hsame.trans hkept)
    · exact .inr ⟨hnone, hsame.trans hmade, path, hpath,
        FileTree.locate_mono (FileTree.directoriesIn_putAll hwritable) hlocate⟩

theorem exportIn_of_run {directory : String}
    (hopen : tree.run (openDirectory dir) = (.ok directory, opened)) :
    corpus.exportIn tree dir compilation =
      match opened.run (Files.writeAll (corpus.exportFiles directory compilation)) with
      | (.ok (), after) =>
          (.ok ⟨directory, (corpus.exportFiles directory compilation).map (·.1), corpus.digest⟩,
            after)
      | (.error failure, after) => (.error failure, after) := by
  rw [exportIn, exportTo, FileTree.run_bind, hopen]
  simp only [FileTree.run_bind]
  generalize opened.run (Files.writeAll (corpus.exportFiles directory compilation)) = written
  obtain ⟨outcome, after⟩ := written
  cases outcome <;> rfl

theorem exportIn_of_error {error : FileError}
    (hopen : tree.run (openDirectory dir) = (.error error, opened)) :
    corpus.exportIn tree dir compilation = (.error ⟨dir, error⟩, opened) := by
  rw [exportIn, exportTo, FileTree.run_bind, hopen]
  rfl

/-- Where all files stand already, an export changes nothing. -/
theorem exportIn_of_written (hlocate : tree.locate dir = .ok (.directory out))
    (hout : tree.HasDirectory out)
    (hfiles : ∀ file ∈ corpus.namedFiles (rootPath out) compilation,
      IsName file.1 ∧ tree.entry? (out ++ [file.1]) = some (.file file.2)) :
    corpus.exportIn tree dir compilation =
      (.ok ⟨rootPath out, (corpus.exportFiles (rootPath out) compilation).map (·.1),
        corpus.digest⟩, tree) := by
  have hslash : ∀ file ∈ corpus.namedFiles (rootPath out) compilation, '/' ∉ file.1.toList :=
    fun file hfile => (hfiles file hfile).1.no_slash
  obtain ⟨written, rest, hsplit, -, hrest, hrun⟩ := FileTree.exists_run_writeAll hout hslash
  have hnil : rest = [] := by
    cases rest with
    | nil => rfl
    | cons file rest =>
        have hmem : file ∈ corpus.namedFiles (rootPath out) compilation := by
          rw [hsplit]
          exact List.mem_append_right _ List.mem_cons_self
        obtain ⟨hname, hentry⟩ := hfiles file hmem
        exact absurd ⟨hname, by simp [hentry]⟩ (hrest file rfl)
  subst hnil
  rw [List.append_nil] at hsplit
  rw [← exportFiles_eq, ← hsplit, FileTree.putAll_eq_self fun file hfile => (hfiles file hfile).2]
    at hrun
  rw [exportIn_of_run (FileTree.run_openDirectory_of_locate hlocate), hrun]
  rfl

theorem getLast?_arguments (compilation : Compilation) (file : String) :
    (compilation.arguments file).getLast? = some file := by
  have hsplit : compilation.arguments file =
      [compilation.compiler, "-std=" ++ compilation.standard] ++ compilation.extraArgs ++ ["-c"] ++
        [file] := by
    simp [Compilation.arguments]
  rw [hsplit, List.getLast?_concat]

theorem compileCommands_forall₂ (corpus : Corpus) (directory : String) (compilation : Compilation) :
    List.Forall₂ (fun command file => command.file = file ∧ command.arguments.getLast? = some file)
      (corpus.compileCommands directory compilation)
      (((corpus.exportFiles directory compilation).map (·.1)).take corpus.size) := by
  have htake : ((corpus.exportFiles directory compilation).map (·.1)).take corpus.size =
      corpus.fixtures.map fun fixture => FilePath.join directory fixture.fileName := by
    rw [map_fst_exportFiles, List.map_append, List.map_map,
      List.take_left' (by rw [List.length_map, size])]
    rfl
  rw [htake, compileCommands, List.forall₂_map_left_iff, List.forall₂_map_right_iff,
    List.forall₂_same]
  intro fixture _
  exact ⟨rfl, getLast?_arguments compilation _⟩

theorem agreesWith_of_sources {directory : String}
    (hsources : ∀ fixture ∈ corpus.fixtures,
      tree.readBytes (FilePath.join directory fixture.fileName) =
        .ok (Text.bytesOf fixture.source.toList)) :
    corpus.manifest.AgreesWith tree directory := by
  refine ⟨corpus.fixtures.map fun fixture => Text.bytesOf fixture.source.toList, ?_, ?_, ?_⟩
  · rw [manifest, List.map_map, List.map_map]
    exact List.map_congr_left hsources
  · simp [manifest, Fixture.manifestEntry, Fixture.contentHash, Function.comp_def]
  · simp [manifest, Fixture.manifestEntry, digest, digestInput, List.zipWith_map_left,
      List.zipWith_map_right, Function.comp_def, List.flatMap]

theorem exported_of_writable (hcorpus : corpus.Exportable)
    (hopened : FileTree.Opened (dir :: FilePath.enclosing dir) before opened)
    (hlocate : opened.locate dir = .ok (.directory out)) (hout : opened.HasDirectory out)
    (hwritable : ∀ file ∈ corpus.namedFiles (rootPath out) compilation,
      opened.Writable out file.1) :
    corpus.Exported dir compilation before
      (opened.putAll out (corpus.namedFiles (rootPath out) compilation))
      ⟨rootPath out, (corpus.exportFiles (rootPath out) compilation).map (·.1),
        corpus.digest⟩ := by
  have hnodup := hcorpus.nodup_namedFiles (rootPath out) compilation
  have hkeep := FileTree.directoriesIn_putAll hwritable
  have hthere := FileTree.locate_mono hkeep hlocate
  obtain ⟨hcontent, hothers⟩ := wroteOnly_putAll hopened hout hnodup hwritable
  rw [← exportFiles_eq] at hcontent hothers
  have hsources := fun fixture hfixture =>
    hcontent _ _ (mem_exportFiles_source (rootPath out) compilation fixture hfixture)
  have hmanifest := hcontent _ _ (mem_exportFiles_manifest corpus (rootPath out) compilation)
  have hcommands :=
    hcontent _ _ (mem_exportFiles_compileCommands corpus (rootPath out) compilation)
  exact {
    directory := FileTree.absolutePath_of_locate hthere
    files := map_fst_exportFiles corpus (rootPath out) compilation
    digest := rfl
    sources := hsources
    manifest := hmanifest
    manifest_agrees := agreesWith_of_sources hsources
    compileCommands := hcommands
    compileCommands_files := compileCommands_forall₂ corpus (rootPath out) compilation
    others := by
      intro names hnames
      apply hothers names
      intro file hfile
      exact hnames file.1 (List.mem_map_of_mem hfile)
    again := exportIn_of_written hthere (hout.mono hkeep) fun file hfile =>
      ⟨(hwritable file hfile).1, FileTree.entry?_putAll_of_mem hnodup hfile⟩ }

theorem stoppedBehind_of_writable {next : String × List UInt8}
    {rest : List (String × List UInt8)} (hcorpus : corpus.Exportable)
    (hopened : FileTree.Opened (dir :: FilePath.enclosing dir) before opened)
    (hlocate : opened.locate dir = .ok (.directory out)) (hout : opened.HasDirectory out)
    (hsplit : corpus.namedFiles (rootPath out) compilation = written ++ next :: rest)
    (hwritable : ∀ file ∈ written, opened.Writable out file.1) :
    corpus.StoppedBehind dir compilation before (opened.putAll out written)
      ⟨pathIn out next.1, .isADirectory⟩ (rootPath out) (written.map (placed out)) := by
  have hnodup : (written.map (·.1)).Nodup := by
    have hall := hcorpus.nodup_namedFiles (rootPath out) compilation
    rw [hsplit, List.map_append] at hall
    exact (List.nodup_append.mp hall).1
  have hfiles : corpus.exportFiles (rootPath out) compilation =
      written.map (placed out) ++ placed out next :: rest.map (placed out) := by
    rw [exportFiles_eq, hsplit, List.map_append, List.map_cons]
  refine ⟨fun _ => ?_, ⟨_, _, hfiles, .inl rfl⟩,
    wroteOnly_putAll hopened hout hnodup hwritable, ?_⟩
  · exact FileTree.absolutePath_of_locate
      (FileTree.locate_mono (FileTree.directoriesIn_putAll hwritable) hlocate)
  · intro file hfile hsource
    have hwritten : written.map (placed out) <+:
        corpus.exportFiles (rootPath out) compilation := ⟨_, hfiles.symm⟩
    have hsources : corpus.sourceFiles (rootPath out) <+:
        corpus.exportFiles (rootPath out) compilation := List.prefix_append _ _
    rcases List.prefix_or_prefix_of_prefix hwritten hsources with hshort | hlong
    · exact absurd (hshort.subset hfile) hsource
    · exact hlong

namespace ExportWitness

/-- A fixture of which only the file and the source count here. -/
def fixture (fileName source : String) : Fixture :=
  ⟨fileName, fileName, "", [], [], [], source⟩

def pair : Corpus where
  fixtures := [fixture "a.cpp" "int a;\n", fixture "b.cpp" ""]

/-- A directory with an old file in it. -/
def stale : FileTree :=
  let root : FileTree := { FileTree.empty with workingDirectory := ["w"] }
  (root.put ["w"] .directory).put ["w", "b.cpp"] (.file [0])

/-- The same, where another directory stands in the place of the second fixture. -/
def blocked : FileTree :=
  (stale.put ["w", "out"] .directory).put ["w", "out", "b.cpp"] .directory

theorem exportable_pair : pair.Exportable where
  nodup := by decide
  no_slash := by decide
  ne_manifest := by decide
  ne_compileCommands := by decide

theorem hasDirectory_stale : stale.HasDirectory stale.workingDirectory :=
  .child .root ⟨by decide, by decide, by decide, by decide⟩ rfl

theorem hasDirectory_blocked : blocked.HasDirectory blocked.workingDirectory :=
  .child .root ⟨by decide, by decide, by decide, by decide⟩ rfl

end ExportWitness

end Corpus

end LintCorpus
