import LintCorpus.CommandLine.Run
import LintCorpus.Proofs.Validation.Conditions

/-!
Look-ups in a corpus.  The index gives every name the position of the first fixture that has it, so
looking a name up is a search from the front of the listing (`get?_eq_find?`).  In a valid corpus
names and file names tell fixtures apart, and what a fixture declares is what its findings are
about; there all look-ups agree (`lookups_agree`).
-/

namespace LintCorpus.Corpus

/-- The fixture is the first one of the listing with this name. -/
def IsFirstNamed (corpus : Corpus) (name : String) (fixture : Fixture) : Prop :=
  fixture.name = name ∧
    ∃ before after, corpus.fixtures = before ++ fixture :: after ∧
      ∀ other ∈ before, other.name ≠ name

theorem lookup_enter (index : List (String × Nat)) (entry : Fixture × Nat) (name : String) :
    (enter index entry).lookup name =
      (index.lookup name).or (if entry.1.name = name then some entry.2 else none) := by
  unfold enter
  by_cases hsame : entry.1.name = name
  · subst hsame
    cases hlookup : index.lookup entry.1.name with
    | none => simp
    | some position => simp [hlookup]
  · have hother : (name == entry.1.name) = false := by
      simpa using Ne.symm hsame
    rw [if_neg hsame, Option.or_none]
    split
    · rfl
    · rw [List.lookup_cons, hother]

/-- Names that are not in the index yet get the positions of their first fixtures. -/
theorem lookup_foldl_enter (index : List (String × Nat)) (fixtures : List Fixture) (start : Nat)
    (name : String) :
    ((fixtures.zipIdx start).foldl enter index).lookup name =
      (index.lookup name).or ((fixtures.findIdx? (·.name = name)).map (start + ·)) := by
  induction fixtures generalizing index start with
  | nil => simp
  | cons fixture fixtures ih =>
      rw [List.zipIdx_cons, List.foldl_cons, ih, lookup_enter, Option.or_assoc,
        List.findIdx?_cons]
      congr 1
      by_cases hsame : fixture.name = name
      · simp [hsame]
      · simp [hsame, Function.comp_def, Nat.add_assoc, Nat.add_comm 1]

theorem lookup_index (corpus : Corpus) (name : String) :
    corpus.index.lookup name = corpus.fixtures.findIdx? (·.name = name) := by
  rw [index, lookup_foldl_enter]
  simp

/-- The index agrees with a search through the listing. -/
theorem get?_eq_find? (corpus : Corpus) (name : String) :
    corpus.get? name = corpus.fixtures.find? (·.name = name) := by
  rw [get?, lookup_index, List.find?_eq_bind_findIdx?_getElem?]

theorem get?_eq_some_iff {corpus : Corpus} {name : String} {fixture : Fixture} :
    corpus.get? name = some fixture ↔ corpus.IsFirstNamed name fixture := by
  simp [get?_eq_find?, List.find?_eq_some_iff_append, IsFirstNamed]

theorem get?_eq_none_iff {corpus : Corpus} {name : String} :
    corpus.get? name = none ↔ ∀ fixture ∈ corpus.fixtures, fixture.name ≠ name := by
  simp [get?_eq_find?]

theorem findFixture_eq_ok_iff {corpus : Corpus} {name : String} {fixture : Fixture} :
    corpus.findFixture name = .ok fixture ↔ corpus.get? name = some fixture := by
  unfold findFixture
  cases corpus.get? name <;> simp

theorem findFixture_eq_error_iff {corpus : Corpus} {name : String} {failure : Failure} :
    corpus.findFixture name = .error failure ↔
      failure = .unknownFixture name ∧ corpus.get? name = none := by
  unfold findFixture
  cases corpus.get? name <;> simp [eq_comm]

section Valid

variable {corpus : Corpus} (hvalid : corpus.isValid = true)

include hvalid

theorem nodup_name_of_isValid : (corpus.fixtures.map Fixture.name).Nodup := by
  by_contra hnames
  exact not_breaks_of_isValid hvalid (.name hnames)

theorem nodup_fileName_of_isValid : (corpus.fixtures.map Fixture.fileName).Nodup := by
  by_contra hnames
  exact not_breaks_of_isValid hvalid (.fileName hnames)

variable {fixture : Fixture} (hfixture : fixture ∈ corpus.fixtures)

include hfixture

theorem fileName_of_isValid : fixture.fileName = fixture.name ++ ".cpp" := by
  by_contra hname
  exact not_breaks_of_isValid hvalid (.fixture hfixture (.fileName hname))

/-- A valid fixture declares the categories of its findings and no others. -/
theorem mem_categories_iff_of_isValid {category : Category} :
    category ∈ fixture.categories ↔ ∃ finding ∈ fixture.findings, finding.category = category := by
  constructor
  · intro hcategory
    by_contra hnone
    have hfindings : ∀ finding ∈ fixture.findings, finding.category ≠ category :=
      fun finding hfinding heq => hnone ⟨finding, hfinding, heq⟩
    exact not_breaks_of_isValid hvalid (.fixture hfixture (.category hcategory hfindings))
  · rintro ⟨finding, hfinding, rfl⟩
    by_contra hcategory
    exact not_breaks_of_isValid hvalid
      (.fixture hfixture (.finding hfinding (.category hcategory)))

end Valid

theorem get?_eq_some_iff_of_isValid {corpus : Corpus} (hvalid : corpus.isValid = true)
    {name : String} {fixture : Fixture} :
    corpus.get? name = some fixture ↔ fixture ∈ corpus.fixtures ∧ fixture.name = name := by
  rw [get?_eq_find?]
  exact find?_eq_some_iff_of_key fun _ hfirst _ hsecond =>
    List.inj_on_of_nodup_map (nodup_name_of_isValid hvalid) hfirst hsecond

theorem byFileName?_eq_some_iff_of_isValid {corpus : Corpus} (hvalid : corpus.isValid = true)
    {fileName : String} {fixture : Fixture} :
    corpus.byFileName? fileName = some fixture ↔
      fixture ∈ corpus.fixtures ∧ fixture.fileName = fileName :=
  find?_eq_some_iff_of_key fun _ hfirst _ hsecond =>
    List.inj_on_of_nodup_map (nodup_fileName_of_isValid hvalid) hfirst hsecond

theorem byCategory_of_isValid {corpus : Corpus} (hvalid : corpus.isValid = true)
    (category : Category) :
    corpus.byCategory category = corpus.fixtures.filter fun fixture =>
      ∃ finding ∈ fixture.findings, finding.category = category := by
  apply List.filter_congr
  intro fixture hfixture
  rw [Bool.eq_iff_iff, decide_eq_true_eq, ← mem_categories_iff_of_isValid hvalid hfixture]
  exact List.contains_iff_mem

/-- A name finds the first fixture that has it, and the failure that names it when there is none.
In a valid corpus every fixture is found by its name and by its file name, a name finds what the
file name with `.cpp` behind it finds, and a category lists the fixtures with a finding of it. -/
theorem lookups_agree (corpus : Corpus) :
    (∀ name fixture, corpus.findFixture name = .ok fixture ↔ corpus.IsFirstNamed name fixture) ∧
      (∀ name failure, corpus.findFixture name = .error failure ↔
        failure = .unknownFixture name ∧ ∀ fixture ∈ corpus.fixtures, fixture.name ≠ name) ∧
      (corpus.isValid = true →
        (∀ fixture ∈ corpus.fixtures, corpus.findFixture fixture.name = .ok fixture ∧
          corpus.byFileName? fixture.fileName = some fixture) ∧
        (∀ name fixture, corpus.findFixture name = .ok fixture ↔
          corpus.byFileName? (name ++ ".cpp") = some fixture) ∧
        ∀ category, corpus.byCategory category = corpus.fixtures.filter fun fixture =>
          ∃ finding ∈ fixture.findings, finding.category = category) := by
  refine ⟨?_, ?_, fun hvalid => ⟨?_, ?_, byCategory_of_isValid hvalid⟩⟩
  · intro name fixture
    rw [findFixture_eq_ok_iff, get?_eq_some_iff]
  · intro name failure
    rw [findFixture_eq_error_iff, get?_eq_none_iff]
  · intro fixture hfixture
    rw [findFixture_eq_ok_iff, get?_eq_some_iff_of_isValid hvalid,
      byFileName?_eq_some_iff_of_isValid hvalid]
    exact ⟨⟨hfixture, rfl⟩, hfixture, rfl⟩
  · intro name fixture
    rw [findFixture_eq_ok_iff, get?_eq_some_iff_of_isValid hvalid,
      byFileName?_eq_some_iff_of_isValid hvalid]
    apply and_congr_right
    intro hfixture
    rw [fileName_of_isValid hvalid hfixture, String.append_left_inj]

namespace LookupWitness

/-- A fixture with findings of two categories. -/
def style : Fixture where
  name := "style"
  fileName := "style.cpp"
  summary := ""
  categories := [.google, .readability]
  findings := [
    .required "readability-isolate-declaration" .readability 1 "a, b" "",
    .advisory "google-runtime-int" .google 2 "long" ""]
  waivers := []
  source := "int a, b;\nlong c;\n"

/-- A fixture with findings of one of these categories. -/
def loops : Fixture where
  name := "loops"
  fileName := "loops.cpp"
  summary := ""
  categories := [.readability]
  findings := [.required "readability-braces-*" .readability 1 "for" ""]
  waivers := []
  source := "for (;;) stop();\n"

def pair : Corpus where
  fixtures := [style, loops]

theorem lookups_pair :
    pair.isValid = true ∧ pair.findFixture "loops" = .ok loops ∧
      pair.byFileName? "loops.cpp" = some loops ∧ pair.byCategory .google = [style] := by
  have hvalid : pair.isValid = true := by
    decide +kernel
  obtain ⟨-, -, hagree⟩ := lookups_agree pair
  obtain ⟨hlisted, -, hcategories⟩ := hagree hvalid
  obtain ⟨hname, hfileName⟩ := hlisted loops (List.mem_cons_of_mem _ List.mem_cons_self)
  refine ⟨hvalid, hname, hfileName, ?_⟩
  rw [hcategories .google]
  decide +kernel

end LookupWitness

end LintCorpus.Corpus
