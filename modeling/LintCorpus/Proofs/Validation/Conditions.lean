import Mathlib.Data.Finset.Card
import Mathlib.Data.List.Chain
import LintCorpus.Proofs.Category
import LintCorpus.Proofs.Fixture.DefectComment
import LintCorpus.Proofs.Glob.Syntax
import LintCorpus.Validation

/-!
What the violation codes stand for.  `Corpus.Breaks` says for each code what is wrong with a corpus,
without the validator; its rules are those of a corpus, of a fixture (`Fixture.Breaks`) and of a
finding (`Fixture.Misstates`).  The validator records a code exactly when its condition holds, and
one entry for every fixture that repeats a name (`Corpus.violations_iff_breaks`).

A code is recorded when one of the violations has it (`Records`), so each part of the validator has
one lemma that says which codes its violations have.
-/

namespace LintCorpus

namespace Fixture

/-- What a code says about one finding. -/
inductive Misstates (fixture : Fixture) (finding : Finding) : ViolationCode → Prop where
  | line (hline : finding.line = 0 ∨ fixture.lineCount < finding.line) :
      Misstates fixture finding .lineOutOfRange
  | anchor {index : Nat} {text : List Char} (hline : finding.line = index + 1)
      (htext : fixture.lines[index]? = some text)
      (hanchor : finding.anchor = "" ∨ ¬ finding.anchor.toList <:+: text) :
      Misstates fixture finding .anchorMissing
  | category (hcategory : finding.category ∉ fixture.categories) :
      Misstates fixture finding .undeclaredCategory
  | owner (howner : ¬ finding.category.stem <+: finding.rule.toList) :
      Misstates fixture finding .ruleCategoryMismatch
  | pattern (hpattern : ¬ Glob.IsPattern none finding.rule.toList) :
      Misstates fixture finding .invalidRulePattern

/-- The waiver does not waive a defect comment that would have no finding. -/
inductive Stale (fixture : Fixture) (waiver : Waiver) : Prop where
  /-- No defect comment stands on the waiver's line. -/
  | idle (hcomments : ∀ comment ∈ fixture.defectComments, comment.line ≠ waiver.line) :
      Stale fixture waiver
  /-- A finding lies on the lines that the comment on the waiver's line describes. -/
  | covered {comment : DefectComment} {finding : Finding}
      (hcomment : comment ∈ fixture.defectComments) (hline : comment.line = waiver.line)
      (hfinding : finding ∈ fixture.findings) (hfirst : comment.scope.first ≤ finding.line)
      (hlast : finding.line ≤ comment.scope.last) : Stale fixture waiver

/-- What a code says about one fixture. -/
inductive Breaks (fixture : Fixture) : ViolationCode → Prop where
  | fileName (hname : fixture.fileName ≠ fixture.name ++ ".cpp") : Breaks fixture .fileNameMismatch
  | source (hsource : fixture.source = "") : Breaks fixture .emptySource
  | finding {code : ViolationCode} {finding : Finding} (hfinding : finding ∈ fixture.findings)
      (hcode : fixture.Misstates finding code) : Breaks fixture code
  | order (horder : ¬ fixture.findings.Pairwise fun first second => first.line ≤ second.line) :
      Breaks fixture .findingsOutOfOrder
  | category {category : Category} (hcategory : category ∈ fixture.categories)
      (hfindings : ∀ finding ∈ fixture.findings, finding.category ≠ category) :
      Breaks fixture .uncoveredCategory
  | waiver {waiver : Waiver} (hwaiver : waiver ∈ fixture.waivers) (hstale : fixture.Stale waiver) :
      Breaks fixture .staleWaiver

end Fixture

namespace Corpus

/-- What a code says about a corpus. -/
inductive Breaks (corpus : Corpus) : ViolationCode → Prop where
  | name (hnames : ¬ (corpus.fixtures.map Fixture.name).Nodup) : Breaks corpus .duplicateName
  | fileName (hnames : ¬ (corpus.fixtures.map Fixture.fileName).Nodup) :
      Breaks corpus .duplicateFileName
  | fixture {code : ViolationCode} {fixture : Fixture} (hfixture : fixture ∈ corpus.fixtures)
      (hcode : fixture.Breaks code) : Breaks corpus code

end Corpus

/-- How many entries of a list repeat an earlier one. -/
def repeats (keys : List String) : Nat :=
  (List.range keys.length).countP fun i => ∃ j < i, keys[j]? = keys[i]?

theorem repeats_concat (keys : List String) (key : String) :
    repeats (keys ++ [key]) = repeats keys + if key ∈ keys then 1 else 0 := by
  have hbefore : ∀ i < keys.length, (keys ++ [key])[i]? = keys[i]? := fun i hi =>
    List.getElem?_append_left hi
  rw [repeats, List.length_append, List.length_singleton, List.range_succ, List.countP_append]
  congr 1
  · apply List.countP_congr
    intro i hi
    have hi := List.mem_range.mp hi
    simp only [decide_eq_true_eq]
    apply exists_congr
    intro j
    apply and_congr_right
    intro hj
    rw [hbefore i hi, hbefore j (Nat.lt_trans hj hi)]
  · have hlast : (∃ j < keys.length, (keys ++ [key])[j]? = (keys ++ [key])[keys.length]?) ↔
        key ∈ keys := by
      rw [List.getElem?_concat_length, List.mem_iff_getElem?]
      constructor
      · rintro ⟨j, hj, heq⟩
        exact ⟨j, (hbefore j hj).symm.trans heq⟩
      · rintro ⟨j, heq⟩
        obtain ⟨hj, -⟩ := List.getElem?_eq_some_iff.mp heq
        exact ⟨j, hj, (hbefore j hj).trans heq⟩
    simp only [List.countP_singleton, decide_eq_true_eq, hlast]

/-- All entries but one for each different one are repeats. -/
theorem repeats_add_card (keys : List String) :
    repeats keys + keys.toFinset.card = keys.length := by
  induction keys using List.reverseRecOn with
  | nil => rfl
  | append_singleton keys key ih =>
      rw [repeats_concat, List.toFinset_append, List.length_append, List.length_singleton, ← ih]
      have hset : keys.toFinset ∪ [key].toFinset = insert key keys.toFinset := by
        rw [List.toFinset_cons, List.toFinset_nil, Finset.union_comm]
        rfl
      rw [hset]
      by_cases hkey : key ∈ keys
      · rw [if_pos hkey, Finset.insert_eq_of_mem (List.mem_toFinset.mpr hkey)]
        omega
      · rw [if_neg hkey, Finset.card_insert_of_notMem (List.mem_toFinset.not.mpr hkey)]
        omega

/-- One of the violations has the code. -/
def Records (violations : List Violation) (code : ViolationCode) : Prop :=
  ∃ violation ∈ violations, violation.code = code

section Records

variable {code : ViolationCode} {violations more : List Violation} {violation : Violation}

theorem countP_eq_zero_iff_not_records :
    violations.countP (·.code = code) = 0 ↔ ¬ Records violations code := by
  simp [Records, List.countP_eq_zero]

@[simp]
theorem not_records_nil : ¬ Records [] code := by
  simp [Records]

@[simp]
theorem records_append :
    Records (violations ++ more) code ↔ Records violations code ∨ Records more code := by
  simp [Records, or_and_right, exists_or]

@[simp]
theorem records_singleton : Records [violation] code ↔ code = violation.code := by
  simp [Records, eq_comm]

@[simp]
theorem records_ite_nil_left {p : Prop} [Decidable p] :
    Records (if p then [] else [violation]) code ↔ ¬ p ∧ code = violation.code := by
  by_cases hp : p <;> simp [hp]

@[simp]
theorem records_ite_nil_right {p : Prop} [Decidable p] :
    Records (if p then [violation] else []) code ↔ p ∧ code = violation.code := by
  by_cases hp : p <;> simp [hp]

@[simp]
theorem records_toList {found : Option Violation} :
    Records found.toList code ↔ ∃ violation, found = some violation ∧ code = violation.code := by
  simp [Records, eq_comm]

@[simp]
theorem records_map_finding {fixture : String} {index : Nat} {faults : List FindingFault} :
    Records (faults.map (.finding fixture index)) code ↔ ∃ fault ∈ faults, code = fault.code := by
  simp [Records, Violation.code, eq_comm]

end Records

namespace Fixture

variable {fixture : Fixture} {code : ViolationCode}

theorem mem_placeFaults_iff {previous : Nat} {finding : Finding} {fault : FindingFault} :
    fault ∈ fixture.placeFaults previous finding ↔
      (finding.line < previous ∧ fault = .outOfOrder finding.line previous) ∨
      (fixture.line? finding.line = none ∧
        fault = .lineOutOfRange finding.line fixture.lineCount fixture.fileName) ∨
      ∃ text, fixture.line? finding.line = some text ∧
        (finding.anchor = "" ∨ ¬ finding.anchor.toList <:+: text) ∧
        fault = .anchorMissing finding.anchor finding.line text := by
  have hanchor (text : List Char) :
      (finding.anchor.isEmpty || !Text.occursIn finding.anchor.toList text) = true ↔
        finding.anchor = "" ∨ ¬ finding.anchor.toList <:+: text := by
    rw [Bool.or_eq_true, String.isEmpty_iff, Bool.not_eq_true', ← Bool.not_eq_true,
      Text.occursIn_iff]
  rw [placeFaults, List.mem_append, List.mem_ite_nil_right, List.mem_singleton]
  apply or_congr_right
  cases fixture.line? finding.line with
  | none => simp
  | some text => simp [hanchor]

theorem mem_ruleFaults_iff {finding : Finding} {fault : FindingFault} :
    fault ∈ fixture.ruleFaults finding ↔
      (finding.category ∉ fixture.categories ∧ fault = .undeclaredCategory finding.category) ∨
      (¬ finding.category.stem <+: finding.rule.toList ∧
        fault = .ruleCategoryMismatch finding.rule (Category.ofCheck? finding.rule)
          finding.category) ∨
      ∃ malformed, Glob.Pattern.ofText? finding.rule = .error malformed ∧
        fault = .invalidRulePattern finding.rule malformed := by
  have hdeclares : fixture.declares finding.category = true ↔
      finding.category ∈ fixture.categories := List.contains_iff_mem
  have howner : Category.ofCheck? finding.rule = some finding.category ↔
      finding.category.stem <+: finding.rule.toList :=
    Category.ofCheck?_eq_some_iff.trans Category.claims_iff
  rw [ruleFaults, List.mem_append, List.mem_append, or_assoc, List.mem_ite_nil_left,
    List.mem_ite_nil_left, List.mem_singleton, List.mem_singleton, hdeclares, howner]
  apply or_congr_right
  apply or_congr_right
  cases Glob.Pattern.ofText? finding.rule with
  | ok pattern => simp
  | error malformed => simp

/-- The codes of the faults of a finding behind one on the line `previous`. -/
theorem exists_fault_iff {previous : Nat} {finding : Finding} :
    (∃ fault ∈ fixture.placeFaults previous finding ++ fixture.ruleFaults finding,
        code = fault.code) ↔
      (finding.line < previous ∧ code = .findingsOutOfOrder) ∨ fixture.Misstates finding code := by
  constructor
  · rintro ⟨fault, hfault, rfl⟩
    rcases List.mem_append.mp hfault with hplace | hrule
    · rcases mem_placeFaults_iff.mp hplace with
        ⟨hlt, rfl⟩ | ⟨hline, rfl⟩ | ⟨text, hline, hanchor, rfl⟩
      · exact Or.inl ⟨hlt, rfl⟩
      · exact Or.inr (Misstates.line (line?_eq_none_iff.mp hline))
      · obtain ⟨index, hindex, htext⟩ := line?_eq_some_iff.mp hline
        exact Or.inr (Misstates.anchor hindex htext hanchor)
    · rcases mem_ruleFaults_iff.mp hrule with
        ⟨hcategory, rfl⟩ | ⟨howner, rfl⟩ | ⟨malformed, hmalformed, rfl⟩
      · exact Or.inr (Misstates.category hcategory)
      · exact Or.inr (Misstates.owner howner)
      · exact Or.inr (Misstates.pattern (Glob.Pattern.exists_error_ofText?_iff.mp ⟨_, hmalformed⟩))
  · simp only [List.mem_append, mem_placeFaults_iff, mem_ruleFaults_iff]
    rintro (⟨hlt, rfl⟩ | hcode)
    · exact ⟨_, Or.inl (Or.inl ⟨hlt, rfl⟩), rfl⟩
    · cases hcode with
      | line hline => exact ⟨_, Or.inl (Or.inr (Or.inl ⟨line?_eq_none_iff.mpr hline, rfl⟩)), rfl⟩
      | anchor hindex htext hanchor =>
          have hline := line?_eq_some_iff.mpr ⟨_, hindex, htext⟩
          exact ⟨_, Or.inl (Or.inr (Or.inr ⟨_, hline, hanchor, rfl⟩)), rfl⟩
      | category hcategory => exact ⟨_, Or.inr (Or.inl ⟨hcategory, rfl⟩), rfl⟩
      | owner howner => exact ⟨_, Or.inr (Or.inr (Or.inl ⟨howner, rfl⟩)), rfl⟩
      | pattern hpattern =>
          obtain ⟨malformed, hmalformed⟩ := Glob.Pattern.exists_error_ofText?_iff.mpr hpattern
          exact ⟨_, Or.inr (Or.inr (Or.inr ⟨malformed, hmalformed, rfl⟩)), rfl⟩

/-- The codes of the findings behind one on the line `previous`: each finding brings its own, and
one that steps back brings the order's. -/
theorem records_findingViolations_iff {index previous : Nat} {findings : List Finding} :
    Records (fixture.findingViolations index previous findings) code ↔
      (¬ (previous :: findings.map Finding.line).IsChain (· ≤ ·) ∧ code = .findingsOutOfOrder) ∨
      ∃ finding ∈ findings, fixture.Misstates finding code := by
  induction findings generalizing index previous with
  | nil => simp [findingViolations]
  | cons finding rest ih =>
      rw [findingViolations, records_append, records_map_finding, exists_fault_iff, ih,
        List.map_cons, List.isChain_cons_cons, not_and_or, Nat.not_le,
        List.exists_mem_cons_iff, or_and_right]
      tauto

theorem records_categoryViolations_iff :
    Records fixture.categoryViolations code ↔
      (∃ category ∈ fixture.categories, ∀ finding ∈ fixture.findings,
        finding.category ≠ category) ∧ code = .uncoveredCategory := by
  simp only [Records, categoryViolations, findingsIn, List.mem_map, List.mem_filter,
    List.isEmpty_iff, List.filter_eq_nil_iff, decide_eq_true_eq]
  constructor
  · rintro ⟨_, ⟨category, ⟨hcategory, hfindings⟩, rfl⟩, rfl⟩
    exact ⟨⟨category, hcategory, hfindings⟩, rfl⟩
  · rintro ⟨⟨category, hcategory, hfindings⟩, rfl⟩
    exact ⟨_, ⟨category, ⟨hcategory, hfindings⟩, rfl⟩, rfl⟩

/-- A finding lies on the lines that the comment describes. -/
theorem recordsComment_iff {comment : DefectComment} :
    fixture.recordsComment comment = true ↔
      ∃ finding ∈ fixture.findings,
        comment.scope.first ≤ finding.line ∧ finding.line ≤ comment.scope.last := by
  simp [recordsComment, DefectComment.describes, Scope.holds]

/-- A waiver has a violation when it is stale. -/
theorem exists_waiverViolation?_iff {index : Nat} {waiver : Waiver} :
    (∃ violation, fixture.waiverViolation? index waiver = some violation ∧
        code = violation.code) ↔
      fixture.Stale waiver ∧ code = .staleWaiver := by
  unfold waiverViolation?
  cases hfind : fixture.defectComments.find? (·.line = waiver.line) with
  | none =>
      have hstale : fixture.Stale waiver := .idle (find?_defectComments_eq_none_iff.mp hfind)
      simp [hstale, Violation.code]
  | some comment =>
      obtain ⟨hcomment, hline⟩ := find?_defectComments_eq_some_iff.mp hfind
      have hstale : fixture.Stale waiver ↔ fixture.recordsComment comment = true := by
        rw [recordsComment_iff]
        constructor
        · rintro (hnone | ⟨hother, hsame, hfinding, hfirst, hlast⟩)
          · exact absurd hline (hnone comment hcomment)
          · obtain rfl := eq_of_line_eq hother hcomment (hsame.trans hline.symm)
            exact ⟨_, hfinding, hfirst, hlast⟩
        · rintro ⟨finding, hfinding, hfirst, hlast⟩
          exact .covered hcomment hline hfinding hfirst hlast
      simp [hstale, Violation.code]

theorem records_waiverViolations_iff {index : Nat} {waivers : List Waiver} :
    Records (fixture.waiverViolations index waivers) code ↔
      (∃ waiver ∈ waivers, fixture.Stale waiver) ∧ code = .staleWaiver := by
  induction waivers generalizing index with
  | nil => simp [waiverViolations]
  | cons waiver rest ih =>
      rw [waiverViolations, records_append, records_toList, exists_waiverViolation?_iff, ih,
        List.exists_mem_cons_iff, or_and_right]

/-- The order that the findings' pass checks, from line zero on, is that of the whole list. -/
theorem isChain_zero_iff {findings : List Finding} :
    (0 :: findings.map Finding.line).IsChain (· ≤ ·) ↔
      findings.Pairwise fun first second => first.line ≤ second.line := by
  rw [List.isChain_iff_pairwise, List.pairwise_cons, List.pairwise_map]
  exact and_iff_right fun line _ => Nat.zero_le line

/-- The codes of a fixture's violations are those whose condition holds of it. -/
theorem records_violations_iff : Records fixture.violations code ↔ fixture.Breaks code := by
  rw [violations, records_append, records_append, records_append, records_append,
    records_ite_nil_left, records_ite_nil_right, records_findingViolations_iff, isChain_zero_iff,
    records_categoryViolations_iff, records_waiverViolations_iff, String.isEmpty_iff]
  constructor
  · rintro ((((⟨hname, rfl⟩ | ⟨hsource, rfl⟩) | ⟨horder, rfl⟩ | ⟨finding, hfinding, hcode⟩) |
      ⟨⟨category, hcategory, hfindings⟩, rfl⟩) | ⟨⟨waiver, hwaiver, hstale⟩, rfl⟩)
    · exact .fileName hname
    · exact .source hsource
    · exact .order horder
    · exact .finding hfinding hcode
    · exact .category hcategory hfindings
    · exact .waiver hwaiver hstale
  · intro hcode
    cases hcode with
    | fileName hname => exact Or.inl (Or.inl (Or.inl (Or.inl ⟨hname, rfl⟩)))
    | source hsource => exact Or.inl (Or.inl (Or.inl (Or.inr ⟨hsource, rfl⟩)))
    | finding hfinding hcode => exact Or.inl (Or.inl (Or.inr (Or.inr ⟨_, hfinding, hcode⟩)))
    | order horder => exact Or.inl (Or.inl (Or.inr (Or.inl ⟨horder, rfl⟩)))
    | category hcategory hfindings => exact Or.inl (Or.inr ⟨⟨_, hcategory, hfindings⟩, rfl⟩)
    | waiver hwaiver hstale => exact Or.inr ⟨⟨_, hwaiver, hstale⟩, rfl⟩

/-- No fixture is by itself a duplicate. -/
theorem Breaks.not_duplicate (hcode : fixture.Breaks code) :
    code ≠ .duplicateName ∧ code ≠ .duplicateFileName := by
  constructor
  all_goals
    rintro rfl
    cases hcode with
    | finding _ hmisstates => cases hmisstates

/-- The codes that come of the fixtures listed before. -/
theorem records_clashes_iff {earlier : List Fixture} :
    Records (fixture.clashes earlier) code ↔
      (fixture.name ∈ earlier.map Fixture.name ∧ code = .duplicateName) ∨
      (fixture.fileName ∈ earlier.map Fixture.fileName ∧ code = .duplicateFileName) := by
  simp [clashes, Violation.code]

end Fixture

namespace Corpus

variable {code : ViolationCode}

/-- New keys are all different when the first is new and the others are still new behind it. -/
theorem disjoint_and_nodup_cons {key : String} {seen keys : List String} :
    (key :: keys).Disjoint seen ∧ (key :: keys).Nodup ↔
      key ∉ seen ∧ keys.Disjoint (key :: seen) ∧ keys.Nodup := by
  rw [List.disjoint_cons_left, List.disjoint_cons_right, List.nodup_cons]
  tauto

theorem records_violationsFrom_iff {earlier fixtures : List Fixture} :
    Records (violationsFrom earlier fixtures) code ↔
      (¬ ((fixtures.map Fixture.name).Disjoint (earlier.map Fixture.name) ∧
          (fixtures.map Fixture.name).Nodup) ∧ code = .duplicateName) ∨
      (¬ ((fixtures.map Fixture.fileName).Disjoint (earlier.map Fixture.fileName) ∧
          (fixtures.map Fixture.fileName).Nodup) ∧ code = .duplicateFileName) ∨
      ∃ fixture ∈ fixtures, fixture.Breaks code := by
  induction fixtures generalizing earlier with
  | nil => simp [violationsFrom]
  | cons fixture rest ih =>
      rw [violationsFrom, records_append, records_append, Fixture.records_clashes_iff,
        Fixture.records_violations_iff, ih, List.exists_mem_cons_iff]
      simp only [List.map_cons, disjoint_and_nodup_cons]
      tauto

theorem records_violations_iff {corpus : Corpus} :
    Records corpus.violations code ↔ corpus.Breaks code := by
  rw [violations, records_violationsFrom_iff]
  simp only [List.map_nil, List.disjoint_nil_right, true_and]
  constructor
  · rintro (⟨hnames, rfl⟩ | ⟨hnames, rfl⟩ | ⟨fixture, hfixture, hcode⟩)
    · exact .name hnames
    · exact .fileName hnames
    · exact .fixture hfixture hcode
  · intro hcode
    cases hcode with
    | name hnames => exact Or.inl ⟨hnames, rfl⟩
    | fileName hnames => exact Or.inr (Or.inl ⟨hnames, rfl⟩)
    | fixture hfixture hcode => exact Or.inr (Or.inr ⟨_, hfixture, hcode⟩)

theorem hasViolation_iff_records {corpus : Corpus} :
    corpus.hasViolation code = true ↔ Records corpus.violations code := by
  simp [hasViolation, Records]

theorem isValid_iff_forall_not_records {corpus : Corpus} :
    corpus.isValid = true ↔ ∀ code, ¬ Records corpus.violations code := by
  simp [isValid, Records, List.eq_nil_iff_forall_not_mem]

theorem countP_ite_singleton {p : Prop} [Decidable p] (violation : Violation) :
    (if p then [violation] else []).countP (·.code = code) =
      if p ∧ violation.code = code then 1 else 0 := by
  by_cases hp : p <;> simp [hp, List.countP_singleton]

theorem countP_clashes (earlier : List Fixture) (fixture : Fixture) :
    (fixture.clashes earlier).countP (·.code = code) =
      (if fixture.name ∈ earlier.map Fixture.name ∧ .duplicateName = code then 1 else 0) +
        if fixture.fileName ∈ earlier.map Fixture.fileName ∧ .duplicateFileName = code then 1
        else 0 := by
  rw [Fixture.clashes, List.countP_append, countP_ite_singleton, countP_ite_singleton]
  simp [Violation.code]

/-- A code that no fixture has by itself, and that a fixture has when it repeats an earlier one's
key, is recorded once for every repeat. -/
theorem countP_violationsFrom {key : Fixture → String}
    (hown : ∀ fixture : Fixture, ¬ fixture.Breaks code)
    (hclash : ∀ (earlier : List Fixture) (fixture : Fixture),
      (fixture.clashes earlier).countP (·.code = code) =
        if key fixture ∈ earlier.map key then 1 else 0) (earlier fixtures : List Fixture) :
    (violationsFrom earlier fixtures).countP (·.code = code) + repeats (earlier.reverse.map key) =
      repeats ((earlier.reverse ++ fixtures).map key) := by
  induction fixtures generalizing earlier with
  | nil => simp [violationsFrom]
  | cons fixture rest ih =>
      have hnone : fixture.violations.countP (·.code = code) = 0 :=
        countP_eq_zero_iff_not_records.mpr (Fixture.records_violations_iff.not.mpr (hown fixture))
      have hrest := ih (fixture :: earlier)
      rw [List.reverse_cons, List.append_assoc, List.singleton_append, List.map_append,
        List.map_singleton, repeats_concat] at hrest
      rw [violationsFrom, List.countP_append, List.countP_append, hclash, hnone, ← hrest]
      simp only [List.map_reverse, List.mem_reverse]
      omega

/-- There is one entry for every fixture that repeats the name of one listed before it. -/
theorem countP_duplicateName (corpus : Corpus) :
    corpus.violations.countP (·.code = .duplicateName) = repeats corpus.names := by
  apply countP_violationsFrom (fun fixture hcode => hcode.not_duplicate.1 rfl) _ [] corpus.fixtures
  intro earlier fixture
  simp [countP_clashes]

/-- There is one entry for every fixture that repeats the file name of one listed before it. -/
theorem countP_duplicateFileName (corpus : Corpus) :
    corpus.violations.countP (·.code = .duplicateFileName) =
      repeats (corpus.fixtures.map Fixture.fileName) := by
  apply countP_violationsFrom (fun fixture hcode => hcode.not_duplicate.2 rfl) _ [] corpus.fixtures
  intro earlier fixture
  simp [countP_clashes]

/-- The validator records a code exactly when its condition holds of the corpus, accepts a corpus
exactly when none holds, and has one entry for each fixture that repeats a name or a file name of an
earlier one, which are all but one for every different name. -/
theorem violations_iff_breaks (corpus : Corpus) :
    (∀ code, corpus.hasViolation code = true ↔ corpus.Breaks code) ∧
      (corpus.isValid = true ↔ ∀ code, ¬ corpus.Breaks code) ∧
      (corpus.violations.countP (·.code = .duplicateName) = repeats corpus.names ∧
        repeats corpus.names + corpus.names.toFinset.card = corpus.size) ∧
      corpus.violations.countP (·.code = .duplicateFileName) =
          repeats (corpus.fixtures.map Fixture.fileName) ∧
        repeats (corpus.fixtures.map Fixture.fileName) +
          (corpus.fixtures.map Fixture.fileName).toFinset.card = corpus.size := by
  refine ⟨?_, ?_, ⟨countP_duplicateName corpus, ?_⟩, countP_duplicateFileName corpus, ?_⟩
  · intro code
    exact hasViolation_iff_records.trans records_violations_iff
  · rw [isValid_iff_forall_not_records]
    exact forall_congr' fun code => records_violations_iff.not
  · exact (repeats_add_card corpus.names).trans (List.length_map _)
  · exact (repeats_add_card _).trans (List.length_map _)

/-- In a valid corpus no condition holds. -/
theorem not_breaks_of_isValid {corpus : Corpus} (hvalid : corpus.isValid = true) :
    ¬ corpus.Breaks code :=
  records_violations_iff.not.mp (isValid_iff_forall_not_records.mp hvalid code)

/-- In a valid corpus the findings of every fixture are ordered by line. -/
theorem pairwise_line_of_isValid {corpus : Corpus} (hvalid : corpus.isValid = true)
    {fixture : Fixture} (hfixture : fixture ∈ corpus.fixtures) :
    fixture.findings.Pairwise fun first second => first.line ≤ second.line := by
  by_contra horder
  exact not_breaks_of_isValid hvalid (.fixture hfixture (.order horder))

/-- In a valid corpus every rule belongs to the category of its finding. -/
theorem ofCheck?_rule_of_isValid {corpus : Corpus} (hvalid : corpus.isValid = true)
    {fixture : Fixture} (hfixture : fixture ∈ corpus.fixtures) {finding : Finding}
    (hfinding : finding ∈ fixture.findings) :
    Category.ofCheck? finding.rule = some finding.category := by
  rw [Category.ofCheck?_eq_some_iff, Category.claims_iff]
  by_contra howner
  exact not_breaks_of_isValid hvalid (.fixture hfixture (.finding hfinding (.owner howner)))

end Corpus

end LintCorpus
