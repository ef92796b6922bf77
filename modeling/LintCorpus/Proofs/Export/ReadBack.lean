import Mathlib.Data.List.Nodup
import LintCorpus.Export.Reader
import LintCorpus.Proofs.Json.Printed
import LintCorpus.Proofs.Text.Bytes

/-!
The documents of an export are read back.  A record is printed as an object with its fields' names
for keys, and `Tree.fields?` finds them there; a list comes back if each of its items does.  What
the two files hold is therefore the manifest and the compilation database that were written,
whatever texts are in them (`Corpus.exportFiles_read`).
-/

namespace LintCorpus

theorem Files.decodeText_bytesOf (text : String) :
    Files.decodeText (Text.bytesOf text.toList) = .ok text := by
  have hdecode : String.fromUTF8? text.toByteArray = some text := dif_pos text.isValidUTF8
  rw [Files.decodeText, ← Text.toByteArray_eq, hdecode]

namespace Json

/-- The file of a value holds that value. -/
theorem Readable.ofBytes?_fileContent {value : Json} (hreadable : Readable maxNesting value) :
    Tree.ofBytes? value.fileContent = some value.tree := by
  rw [Tree.ofBytes?, fileContent, Files.decodeText_bytesOf]
  exact hreadable.ofText?_pretty

theorem readable_list {α : Type} {room : Nat} {item : α → Json} {items : List α}
    (hitems : ∀ x ∈ items, Readable room (item x)) : Readable (room + 1) (.list item items) := by
  apply Readable.arr
  rwa [List.forall_mem_map]

theorem mapM_eq_some_map {α β : Type} {read : α → Option β} {found : α → β} {entries : List α}
    (hread : ∀ entry ∈ entries, read entry = some (found entry)) :
    entries.mapM read = some (entries.map found) := by
  induction entries with
  | nil => rfl
  | cons entry entries ih =>
      obtain ⟨hentry, hread⟩ := List.forall_mem_cons.mp hread
      rw [List.mapM_cons, hentry, ih hread]
      rfl

namespace Tree

/-- Where no key occurs twice, one member has the key of a member. -/
theorem filter_key_eq_singleton {members : List (String × Tree)}
    (hnodup : (members.map Prod.fst).Nodup) {member : String × Tree} (hmember : member ∈ members) :
    members.filter (·.1 = member.1) = [member] := by
  induction members with
  | nil => exact absurd hmember List.not_mem_nil
  | cons first members ih =>
      rw [List.map_cons, List.nodup_cons] at hnodup
      obtain ⟨hfirst, hnodup⟩ := hnodup
      rcases List.mem_cons.mp hmember with rfl | hmember
      · have hnone : members.filter (·.1 = member.1) = [] := by
          rw [List.filter_eq_nil_iff]
          intro other hother
          rw [decide_eq_true_eq]
          intro hsame
          exact hfirst (hsame ▸ List.mem_map_of_mem hother)
        rw [List.filter_cons_of_pos (by simp), hnone]
      · have hne : ¬ first.1 = member.1 := by
          intro hsame
          exact hfirst (hsame ▸ List.mem_map_of_mem hmember)
        rw [List.filter_cons_of_neg (by simpa using hne), ih hnodup hmember]

theorem member?_of_mem {members : List (String × Tree)} (hnodup : (members.map Prod.fst).Nodup)
    {member : String × Tree} (hmember : member ∈ members) :
    member? members member.1 = some member.2 := by
  rw [member?, filter_key_eq_singleton hnodup hmember]

/-- The values of an object's fields, where no key occurs twice. -/
theorem fields?_obj {fields : List (String × Json)} {keys : List String}
    (hkeys : fields.map Prod.fst = keys) (hnodup : keys.Nodup) :
    (Json.obj fields).tree.fields? keys = some (fields.map fun field => field.2.tree) := by
  have hmembers : (fields.map fun field => (field.1, field.2.tree)).map Prod.fst = keys := by
    rw [List.map_map]
    exact hkeys
  rw [tree, members_eq_map, fields?, ← hkeys, List.mapM_map]
  apply mapM_eq_some_map
  intro field hfield
  exact member?_of_mem (hmembers ▸ hnodup) (List.mem_map_of_mem hfield)

/-- The items of a list are read back if each of them is. -/
theorem items?_list {α : Type} {item : α → Json} {read : Tree → Option α} {items : List α}
    (hitems : ∀ x ∈ items, read (item x).tree = some x) :
    (Json.list item items).tree.items? read = some items := by
  have hread : items.mapM (fun x => read (item x).tree) = some (items.map id) :=
    mapM_eq_some_map hitems
  rw [List.map_id] at hread
  rw [Json.list, tree, items?, trees_eq_map, List.mapM_map, List.mapM_map]
  exact hread

end Tree

end Json

open Json (Readable Tree)

theorem Category.ofTree?_toJson (category : Category) :
    Category.ofTree? category.toJson.tree = some category := by
  cases category <;> decide

theorem Expectation.ofTree?_name (expectation : Expectation) :
    Expectation.ofTree? (.str expectation.name) = some expectation := by
  cases expectation <;> rfl

theorem Finding.ofTree?_toJson {finding : Finding} (hline : finding.line ≤ Text.maxPosition) :
    Finding.ofTree? finding.toJson.tree = some finding := by
  rw [Finding.ofTree?, Finding.toJson, Tree.fields?_obj]
  · simp only [List.map_cons, List.map_nil, Category.ofTree?_toJson, Json.tree,
      Expectation.ofTree?_name, Tree.text?, Tree.natural?, hline, ↓reduceIte, Option.bind_eq_bind,
      Option.bind_some, Option.pure_def]
  · rfl
  · decide

/-- Every position of the corpus is a word of 32 bits. -/
def Corpus.FitsPositions (corpus : Corpus) : Prop :=
  ∀ fixture ∈ corpus.fixtures, ∀ finding ∈ fixture.findings, finding.line ≤ Text.maxPosition

theorem ManifestEntry.ofTree?_toJson {entry : ManifestEntry}
    (hlines : ∀ finding ∈ entry.findings, finding.line ≤ Text.maxPosition) :
    ManifestEntry.ofTree? entry.toJson.tree = some entry := by
  have hcategories := Tree.items?_list fun category (_ : category ∈ entry.categories) =>
    category.ofTree?_toJson
  have hfindings := Tree.items?_list fun finding hfinding =>
    Finding.ofTree?_toJson (hlines finding hfinding)
  rw [ManifestEntry.ofTree?, ManifestEntry.toJson, Tree.fields?_obj]
  · simp only [List.map_cons, List.map_nil, Json.tree, Tree.text?, hcategories, hfindings,
      Option.bind_eq_bind, Option.bind_some, Option.pure_def]
  · rfl
  · decide

theorem Manifest.ofTree?_toJson {manifest : Manifest}
    (hlines : ∀ entry ∈ manifest.fixtures, ∀ finding ∈ entry.findings,
      finding.line ≤ Text.maxPosition) :
    Manifest.ofTree? manifest.toJson.tree = some manifest := by
  have hfixtures := Tree.items?_list fun entry hentry =>
    ManifestEntry.ofTree?_toJson (hlines entry hentry)
  rw [Manifest.ofTree?, Manifest.toJson, Tree.fields?_obj]
  · simp only [List.map_cons, List.map_nil, Json.tree, Tree.text?, hfixtures, Option.bind_eq_bind,
      Option.bind_some, Option.pure_def]
  · rfl
  · decide

theorem CompileCommand.ofTree?_toJson (command : CompileCommand) :
    CompileCommand.ofTree? command.toJson.tree = some command := by
  have harguments : (Json.strings command.arguments).tree.items? Tree.text? =
      some command.arguments := Tree.items?_list fun _ _ => rfl
  rw [CompileCommand.ofTree?, CompileCommand.toJson, Tree.fields?_obj]
  · simp only [List.map_cons, List.map_nil, Json.tree, Tree.text?, harguments, Option.bind_eq_bind,
      Option.bind_some, Option.pure_def]
  · rfl
  · decide

theorem Finding.readable_toJson (room : Nat) {finding : Finding}
    (hline : finding.line ≤ Text.maxPosition) : Readable (room + 1) finding.toJson := by
  have hnumber : finding.line ≤ Text.maxOffset := Nat.le_trans hline (by decide)
  apply Readable.obj
  simp only [List.forall_mem_cons]
  exact ⟨.str _ _, .str _ _, .nat _ hnumber, .str _ _, .str _ _, .str _ _, List.forall_mem_nil _⟩

theorem ManifestEntry.readable_toJson (room : Nat) {entry : ManifestEntry}
    (hlines : ∀ finding ∈ entry.findings, finding.line ≤ Text.maxPosition) :
    Readable (room + 3) entry.toJson := by
  apply Readable.obj
  simp only [List.forall_mem_cons]
  exact ⟨.str _ _, .str _ _, .str _ _, .str _ _, Json.readable_list fun _ _ => .str _ _,
    Json.readable_list fun _ hfinding => Finding.readable_toJson room (hlines _ hfinding),
    List.forall_mem_nil _⟩

theorem Manifest.readable_toJson (room : Nat) {manifest : Manifest}
    (hlines : ∀ entry ∈ manifest.fixtures, ∀ finding ∈ entry.findings,
      finding.line ≤ Text.maxPosition) : Readable (room + 5) manifest.toJson := by
  apply Readable.obj
  simp only [List.forall_mem_cons]
  exact ⟨.str _ _, Json.readable_list fun entry hentry =>
    ManifestEntry.readable_toJson room (hlines entry hentry), List.forall_mem_nil _⟩

theorem CompileCommand.readable_toJson (room : Nat) (command : CompileCommand) :
    Readable (room + 2) command.toJson := by
  apply Readable.obj
  simp only [List.forall_mem_cons]
  exact ⟨.str _ _, .str _ _, Json.readable_list fun _ _ => .str _ _, List.forall_mem_nil _⟩

theorem CompileCommand.listOfBytes?_fileContent (commands : List CompileCommand) :
    CompileCommand.listOfBytes? (Json.list CompileCommand.toJson commands).fileContent =
      some commands := by
  have hreadable : Readable Json.maxNesting (Json.list CompileCommand.toJson commands) :=
    Json.readable_list fun command _ => command.readable_toJson 124
  rw [CompileCommand.listOfBytes?, hreadable.ofBytes?_fileContent, Option.bind_eq_bind,
    Option.bind_some]
  exact Tree.items?_list fun command _ => command.ofTree?_toJson

theorem Manifest.ofBytes?_fileContent {manifest : Manifest}
    (hlines : ∀ entry ∈ manifest.fixtures, ∀ finding ∈ entry.findings,
      finding.line ≤ Text.maxPosition) :
    Manifest.ofBytes? manifest.toJson.fileContent = some manifest := by
  have hreadable : Readable Json.maxNesting manifest.toJson := Manifest.readable_toJson 122 hlines
  rw [Manifest.ofBytes?, hreadable.ofBytes?_fileContent, Option.bind_eq_bind, Option.bind_some,
    Manifest.ofTree?_toJson hlines]

namespace Corpus

/-- An export writes, behind the sources, a manifest and a compilation database that are read back
as those of the corpus. -/
theorem exportFiles_read (corpus : Corpus) (directory : String) (compilation : Compilation) :
    ∃ manifest commands : List UInt8,
      corpus.exportFiles directory compilation = corpus.sourceFiles directory ++
          [(FilePath.join directory "manifest.json", manifest),
            (FilePath.join directory "compile_commands.json", commands)] ∧
        CompileCommand.listOfBytes? commands =
          some (corpus.compileCommands directory compilation) ∧
        (corpus.FitsPositions → Manifest.ofBytes? manifest = some corpus.manifest) := by
  refine ⟨_, _, rfl, CompileCommand.listOfBytes?_fileContent _, ?_⟩
  intro hfits
  apply Manifest.ofBytes?_fileContent
  rw [manifest, List.forall_mem_map]
  exact hfits

namespace ReadBackWitness

/-- A fixture with a quote, a backslash and a character beyond the basic plane in its name, control
characters in its summary, and a finding on the last line there can be. -/
def odd : Fixture where
  name := "o\"d\\d😀"
  fileName := "odd.cpp"
  summary := "\x00\x08\t\n\x0C\r\x1F\x7F\u0085"
  categories := [.clangAnalyzer, .misc]
  findings := [.advisory "misc-*" .misc 4294967295 "\"" "/"]
  waivers := []
  source := ""

/-- The fixture, and one of which nothing is said. -/
def corpus : Corpus where
  fixtures := [odd, ⟨"", "", "", [], [], [], ""⟩]

theorem exportFiles_read_odd :
    corpus.FitsPositions ∧ ∃ manifest commands : List UInt8,
      corpus.exportFiles "/out" .default = corpus.sourceFiles "/out" ++
          [(FilePath.join "/out" "manifest.json", manifest),
            (FilePath.join "/out" "compile_commands.json", commands)] ∧
        Manifest.ofBytes? manifest = some corpus.manifest := by
  have hfits : corpus.FitsPositions := by
    unfold FitsPositions
    decide
  obtain ⟨manifest, commands, hfiles, -, hmanifest⟩ := corpus.exportFiles_read "/out" .default
  exact ⟨hfits, manifest, commands, hfiles, hmanifest hfits⟩

end ReadBackWitness

end Corpus

end LintCorpus
