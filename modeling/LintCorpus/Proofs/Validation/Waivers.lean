import LintCorpus.Proofs.Text.Cut
import LintCorpus.Proofs.Validation.Conditions

/-!
What becomes of a defect comment: a finding records it, a waiver excuses it, or a remark points at
it, and never two of these (`Fixture.Treats`).  A waiver that excuses no comment is stale, so the
waivers of a fixture with neither a stale one nor such a remark stand exactly on the lines of its
unrecorded comments (`Fixture.treatsComments`).
-/

namespace LintCorpus

/-- What becomes of a defect comment. -/
inductive Treatment where
  /-- A finding lies on the lines that it describes. -/
  | recorded
  /-- No finding does, and a waiver names its line. -/
  | waived
  /-- Validation remarks it, once. -/
  | remarked

namespace Fixture

/-- A finding lies on the lines that the comment describes. -/
def Covers (fixture : Fixture) (comment : DefectComment) : Prop :=
  ∃ finding ∈ fixture.findings,
    comment.scope.first ≤ finding.line ∧ finding.line ≤ comment.scope.last

instance (fixture : Fixture) (comment : DefectComment) : Decidable (fixture.Covers comment) :=
  inferInstanceAs (Decidable (∃ finding ∈ fixture.findings,
    comment.scope.first ≤ finding.line ∧ finding.line ≤ comment.scope.last))

/-- A waiver names the line. -/
def Waives (fixture : Fixture) (line : Nat) : Prop :=
  ∃ waiver ∈ fixture.waivers, waiver.line = line

/-- A defect comment stands on the line, and no finding lies on the lines that it describes. -/
def Uncovered (fixture : Fixture) (line : Nat) : Prop :=
  ∃ comment ∈ fixture.defectComments, comment.line = line ∧ ¬ fixture.Covers comment

instance (fixture : Fixture) (line : Nat) : Decidable (fixture.Uncovered line) :=
  inferInstanceAs (Decidable (∃ comment ∈ fixture.defectComments,
    comment.line = line ∧ ¬ fixture.Covers comment))

/-- The remarks about an unrecorded comment on this line. -/
def remarksOn (fixture : Fixture) (line : Nat) : List Remark :=
  fixture.remarks.filter fun remark => remark.code = .unrecordedComment ∧
    remark.path = fixture.name ++ ".source:" ++ toString line

/-- This is what becomes of the comment. -/
def Treats (fixture : Fixture) (comment : DefectComment) : Treatment → Prop
  | .recorded => fixture.Covers comment
  | .waived => ¬ fixture.Covers comment ∧ fixture.Waives comment.line
  | .remarked => (fixture.remarksOn comment.line).length = 1

/-- Validation accounts for all defect comments and for every waiver. -/
structure TreatsComments (fixture : Fixture) : Prop where
  /-- Each comment is recorded, waived or remarked, and not two of these. -/
  treatment : ∀ comment ∈ fixture.defectComments, ∃! treatment, fixture.Treats comment treatment
  /-- A remark is about a comment, and is the only one about it. -/
  remark : ∀ remark ∈ fixture.remarks, remark.code = .unrecordedComment →
    ∃ comment ∈ fixture.defectComments, remark = .unrecordedComment fixture.name comment ∧
      fixture.remarksOn comment.line = [remark]
  /-- Each waiver that excuses no comment is a violation of its own. -/
  stale : fixture.violations.countP (·.code = .staleWaiver) =
    fixture.waivers.countP fun waiver => ¬ fixture.Uncovered waiver.line
  /-- Without such remarks and violations the waivers are those that the comments call for. -/
  clean : (∀ violation ∈ fixture.violations, violation.code ≠ .staleWaiver) ∧
      (∀ remark ∈ fixture.remarks, remark.code ≠ .unrecordedComment) ↔
    ∀ line, fixture.Waives line ↔ fixture.Uncovered line

variable {fixture : Fixture}

theorem mem_unrecordedComments_iff {comment : DefectComment} :
    comment ∈ fixture.unrecordedComments ↔
      comment ∈ fixture.defectComments ∧ ¬ fixture.Covers comment ∧
        ¬ fixture.Waives comment.line := by
  have hwaives : fixture.waivesComment comment = true ↔ fixture.Waives comment.line := by
    simp [waivesComment, Waives]
  have hcovers : fixture.recordsComment comment = true ↔ fixture.Covers comment :=
    recordsComment_iff
  rw [unrecordedComments, List.mem_filter, Bool.and_eq_true, Bool.not_eq_true', Bool.not_eq_true',
    ← Bool.not_eq_true, ← Bool.not_eq_true, hwaives, hcovers]

theorem code_of_mem_duplicateRemarks {index : Nat} {earlier findings : List Finding}
    {remark : Remark} (hremark : remark ∈ fixture.duplicateRemarks index earlier findings) :
    remark.code = .duplicateFinding := by
  induction findings generalizing index earlier with
  | nil => cases hremark
  | cons finding rest ih =>
      rcases List.mem_append.mp hremark with hhere | hrest
      · obtain ⟨-, hremark⟩ := List.mem_ite_nil_right.mp hhere
        rw [List.mem_singleton.mp hremark]
        rfl
      · exact ih hrest

theorem filter_remarks :
    (fixture.remarks.filter fun remark => remark.code = .unrecordedComment) =
      fixture.unrecordedComments.map (.unrecordedComment fixture.name) := by
  rw [remarks, List.filter_append, List.filter_append, List.filter_eq_nil_iff.mpr,
    List.filter_eq_self.mpr, List.filter_eq_nil_iff.mpr, List.nil_append, List.append_nil]
  · intro remark hremark
    obtain ⟨-, hremark⟩ := List.mem_ite_nil_right.mp hremark
    rw [List.mem_singleton.mp hremark]
    simp [Remark.code]
  · intro remark hremark
    obtain ⟨comment, -, rfl⟩ := List.mem_map.mp hremark
    rfl
  · intro remark hremark
    simp [code_of_mem_duplicateRemarks hremark]

theorem mem_remarks_iff {remark : Remark} :
    remark ∈ fixture.remarks ∧ remark.code = .unrecordedComment ↔
      ∃ comment ∈ fixture.unrecordedComments, remark = .unrecordedComment fixture.name comment := by
  have hfilter : remark ∈ fixture.remarks.filter (·.code = .unrecordedComment) ↔
      remark ∈ fixture.unrecordedComments.map (.unrecordedComment fixture.name) := by
    rw [filter_remarks]
  simpa [List.mem_filter, eq_comm] using hfilter

/-- The path of a remark tells the line. -/
theorem path_eq_iff {comment : DefectComment} {line : Nat} :
    (Remark.unrecordedComment fixture.name comment).path =
      fixture.name ++ ".source:" ++ toString line ↔ comment.line = line := by
  rw [Remark.path, String.append_right_inj, Text.toString_injective.eq_iff]

theorem remarksOn_eq {line : Nat} :
    fixture.remarksOn line =
      (fixture.unrecordedComments.filter (·.line = line)).map
        (.unrecordedComment fixture.name) := by
  have hboth : fixture.remarksOn line =
      (fixture.remarks.filter (·.code = .unrecordedComment)).filter
        (·.path = fixture.name ++ ".source:" ++ toString line) := by
    rw [List.filter_filter, remarksOn]
    exact List.filter_congr fun remark _ => by
      rw [Bool.decide_and, Bool.and_comm]
  rw [hboth, filter_remarks, List.filter_map]
  congr 1
  exact List.filter_congr fun comment _ => decide_eq_decide.mpr path_eq_iff

/-- No other unrecorded comment stands on the line. -/
theorem filter_unrecordedComments {comment : DefectComment}
    (hcomment : comment ∈ fixture.unrecordedComments) :
    fixture.unrecordedComments.filter (·.line = comment.line) = [comment] := by
  have hnodup : fixture.unrecordedComments.Nodup :=
    ((DefectComment.pairwise_line_collect [] fixture.lines).imp fun hlt => by
      rintro rfl
      exact Nat.lt_irrefl _ hlt).filter _
  have hsame : ∀ other ∈ fixture.unrecordedComments,
      decide (other.line = comment.line) = (other == comment) := by
    intro other hother
    rw [Bool.eq_iff_iff, decide_eq_true_eq, beq_iff_eq]
    constructor
    · exact eq_of_line_eq (List.mem_of_mem_filter hother) (List.mem_of_mem_filter hcomment)
    · rintro rfl
      rfl
  rw [List.filter_congr hsame, List.filter_beq, List.count_eq_one_of_mem hnodup hcomment,
    List.replicate_one]

/-- An unrecorded comment has the one remark. -/
theorem remarksOn_of_mem {comment : DefectComment}
    (hcomment : comment ∈ fixture.unrecordedComments) :
    fixture.remarksOn comment.line = [.unrecordedComment fixture.name comment] := by
  rw [remarksOn_eq, filter_unrecordedComments hcomment, List.map_singleton]

/-- A comment that a finding records or a waiver excuses has none. -/
theorem remarksOn_of_notMem {comment : DefectComment} (hcomment : comment ∈ fixture.defectComments)
    (hnot : comment ∉ fixture.unrecordedComments) : fixture.remarksOn comment.line = [] := by
  rw [remarksOn_eq, List.map_eq_nil_iff, List.filter_eq_nil_iff]
  intro other hother hline
  obtain rfl := eq_of_line_eq (List.mem_of_mem_filter hother) hcomment (of_decide_eq_true hline)
  exact hnot hother

theorem treats_remarked_iff {comment : DefectComment}
    (hcomment : comment ∈ fixture.defectComments) :
    fixture.Treats comment .remarked ↔
      ¬ fixture.Covers comment ∧ ¬ fixture.Waives comment.line := by
  have hmem : comment ∈ fixture.unrecordedComments ↔
      ¬ fixture.Covers comment ∧ ¬ fixture.Waives comment.line :=
    mem_unrecordedComments_iff.trans (and_iff_right hcomment)
  rw [← hmem, Treats]
  constructor
  · intro hone
    by_contra hnot
    rw [remarksOn_of_notMem hcomment hnot] at hone
    exact Nat.zero_ne_one hone
  · intro hunrecorded
    rw [remarksOn_of_mem hunrecorded]
    rfl

/-- Whether a finding records the comment and whether a waiver names its line decide what becomes of
it. -/
theorem existsUnique_treats {comment : DefectComment}
    (hcomment : comment ∈ fixture.defectComments) :
    ∃! treatment, fixture.Treats comment treatment := by
  have hremarked := treats_remarked_iff hcomment
  by_cases hcovers : fixture.Covers comment
  · refine ⟨.recorded, hcovers, fun treatment htreats => ?_⟩
    cases treatment with
    | recorded => rfl
    | waived => exact absurd hcovers htreats.1
    | remarked => exact absurd hcovers (hremarked.mp htreats).1
  · by_cases hwaives : fixture.Waives comment.line
    · refine ⟨.waived, ⟨hcovers, hwaives⟩, fun treatment htreats => ?_⟩
      cases treatment with
      | recorded => exact absurd htreats hcovers
      | waived => rfl
      | remarked => exact absurd hwaives (hremarked.mp htreats).2
    · refine ⟨.remarked, hremarked.mpr ⟨hcovers, hwaives⟩, fun treatment htreats => ?_⟩
      cases treatment with
      | recorded => exact absurd htreats hcovers
      | waived => exact absurd htreats.2 hwaives
      | remarked => rfl

/-- A waiver that is not stale stands on the line of an uncovered comment. -/
theorem stale_iff {waiver : Waiver} : fixture.Stale waiver ↔ ¬ fixture.Uncovered waiver.line := by
  constructor
  · rintro (hnone | ⟨hcomment, hline, hfinding, hfirst, hlast⟩) ⟨other, hother, hsame, hnot⟩
    · exact hnone other hother hsame
    · obtain rfl := eq_of_line_eq hother hcomment (hsame.trans hline.symm)
      exact hnot ⟨_, hfinding, hfirst, hlast⟩
  · intro hnot
    by_cases hidle : ∀ comment ∈ fixture.defectComments, comment.line ≠ waiver.line
    · exact .idle hidle
    · simp only [not_forall, Ne, not_not] at hidle
      obtain ⟨comment, hcomment, hline⟩ := hidle
      by_contra hstale
      refine hnot ⟨comment, hcomment, hline, ?_⟩
      rintro ⟨finding, hfinding, hfirst, hlast⟩
      exact hstale (.covered hcomment hline hfinding hfirst hlast)

theorem countP_waiverViolation? (index : Nat) (waiver : Waiver) :
    (fixture.waiverViolation? index waiver).toList.countP (·.code = .staleWaiver) =
      if fixture.Uncovered waiver.line then 0 else 1 := by
  cases hviolation : fixture.waiverViolation? index waiver with
  | none =>
      have hnone : ¬ ∃ violation, fixture.waiverViolation? index waiver = some violation ∧
          ViolationCode.staleWaiver = violation.code := by
        simp [hviolation]
      rw [exists_waiverViolation?_iff, stale_iff, and_iff_left rfl, not_not] at hnone
      simp [hnone]
  | some violation =>
      obtain ⟨hstale, hcode⟩ := exists_waiverViolation?_iff.mp ⟨violation, hviolation, rfl⟩
      simp [hcode, stale_iff.mp hstale]

theorem countP_waiverViolations (index : Nat) (waivers : List Waiver) :
    (fixture.waiverViolations index waivers).countP (·.code = .staleWaiver) =
      waivers.countP fun waiver => ¬ fixture.Uncovered waiver.line := by
  induction waivers generalizing index with
  | nil => rfl
  | cons waiver rest ih =>
      rw [waiverViolations, List.countP_append, countP_waiverViolation?, ih, List.countP_cons,
        Nat.add_comm]
      by_cases huncovered : fixture.Uncovered waiver.line <;> simp [huncovered]

/-- Only waivers are stale. -/
theorem countP_violations_staleWaiver :
    fixture.violations.countP (·.code = .staleWaiver) =
      fixture.waivers.countP fun waiver => ¬ fixture.Uncovered waiver.line := by
  rw [violations, List.countP_append, countP_waiverViolations, Nat.add_eq_right,
    countP_eq_zero_iff_not_records, records_append, records_append, records_append,
    records_ite_nil_left, records_ite_nil_right, records_findingViolations_iff,
    records_categoryViolations_iff]
  rintro (((⟨-, hcode⟩ | ⟨-, hcode⟩) | ⟨-, hcode⟩ | ⟨finding, -, hcode⟩) | ⟨-, hcode⟩)
  all_goals cases hcode

/-- No waiver is stale when each stands on the line of an uncovered comment. -/
theorem forall_ne_staleWaiver_iff :
    (∀ violation ∈ fixture.violations, violation.code ≠ .staleWaiver) ↔
      ∀ line, fixture.Waives line → fixture.Uncovered line := by
  have hcount : fixture.violations.countP (·.code = .staleWaiver) = 0 ↔
      ∀ waiver ∈ fixture.waivers, fixture.Uncovered waiver.line := by
    simp [countP_violations_staleWaiver, List.countP_eq_zero]
  rw [List.countP_eq_zero] at hcount
  simpa [Waives] using hcount

/-- No comment is remarked when each uncovered one is waived. -/
theorem forall_ne_unrecordedComment_iff :
    (∀ remark ∈ fixture.remarks, remark.code ≠ .unrecordedComment) ↔
      ∀ line, fixture.Uncovered line → fixture.Waives line := by
  constructor
  · rintro hnone line ⟨comment, hcomment, rfl, hcovers⟩
    by_contra hwaives
    obtain ⟨hremark, hcode⟩ := mem_remarks_iff.mpr
      ⟨comment, mem_unrecordedComments_iff.mpr ⟨hcomment, hcovers, hwaives⟩, rfl⟩
    exact hnone _ hremark hcode
  · intro hwaives remark hremark hcode
    obtain ⟨comment, hmem, rfl⟩ := mem_remarks_iff.mp ⟨hremark, hcode⟩
    obtain ⟨hcomment, hcovers, hnot⟩ := mem_unrecordedComments_iff.mp hmem
    exact hnot (hwaives _ ⟨comment, hcomment, rfl, hcovers⟩)

/-- Every defect comment is recorded, waived or remarked, every waiver that excuses none is stale,
and nothing is left over when the waivers stand exactly on the lines of the uncovered comments. -/
theorem treatsComments (fixture : Fixture) : fixture.TreatsComments := by
  refine ⟨fun comment hcomment => existsUnique_treats hcomment, ?_, countP_violations_staleWaiver,
    ?_⟩
  · intro remark hremark hcode
    obtain ⟨comment, hcomment, rfl⟩ := mem_remarks_iff.mp ⟨hremark, hcode⟩
    exact ⟨comment, List.mem_of_mem_filter hcomment, rfl, remarksOn_of_mem hcomment⟩
  · rw [forall_ne_staleWaiver_iff, forall_ne_unrecordedComment_iff, ← forall_and]
    exact forall_congr' fun line => iff_iff_implies_and_implies.symm

end Fixture

end LintCorpus
