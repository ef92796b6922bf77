import LintCorpus.Proofs.Conformance.Ignoring
import LintCorpus.Proofs.Validation.Conditions

/-!
Promoted diagnostics.  An analyzer that treats warnings as errors reports a promoted diagnostic as
an error and puts one more entry behind its checks.  No finding of a valid corpus covers that entry,
so the matching stays what it was.  The ignored patterns have to cover it like any other check:
where none does, nothing that was promoted is ignored (`Fixture.check_map_promoted`), and
`Fixture.check_promoted_iff` says when this shows.
-/

namespace LintCorpus

/-- The slot with its diagnostic replaced. -/
def Slot.map (f : Diagnostic → Diagnostic) (slot : Slot) : Slot :=
  { slot with diagnostic := f slot.diagnostic }

/-- The verdict with its diagnostic replaced. -/
def Verdict.map (f : Diagnostic → Diagnostic) (verdict : Verdict) : Verdict :=
  { verdict with diagnostic? := verdict.diagnostic?.map f }

/-- The match with its diagnostic replaced. -/
def Match.map (f : Diagnostic → Diagnostic) (entry : Match) : Match :=
  { entry with diagnostic := f entry.diagnostic }

/-- The report with its diagnostics replaced. -/
def Report.map (f : Diagnostic → Diagnostic) (report : Report) : Report :=
  { report with
    matched := report.matched.map (Match.map f)
    unexpected := report.unexpected.map f }

/-- The replaced diagnostics lie where the old ones did and satisfy the finding just when those
do. -/
structure Finding.Respects (finding : Finding) (tolerance : Nat) (f : Diagnostic → Diagnostic) :
    Prop where
  line : ∀ diagnostic, (f diagnostic).line = diagnostic.line
  satisfiedBy : ∀ diagnostic,
    finding.satisfiedBy tolerance (f diagnostic) = finding.satisfiedBy tolerance diagnostic

section Respects

variable {f : Diagnostic → Diagnostic} {finding : Finding} {tolerance : Nat}

theorem Finding.Respects.fits_map (hf : finding.Respects tolerance f) (slot : Slot) :
    (slot.map f).fits finding tolerance = slot.fits finding tolerance := by
  rw [Slot.fits, Slot.map, hf.satisfiedBy]
  rfl

theorem Finding.Respects.distance_map (hf : finding.Respects tolerance f) (slot : Slot) :
    (slot.map f).distance finding = slot.distance finding := by
  rw [Slot.distance, Slot.map, hf.line]
  rfl

/-- The slot that serves the finding keeps serving it. -/
theorem Slot.Serves.map (hf : finding.Respects tolerance f) {slots : List Slot} {index : Nat}
    {slot : Slot} (hserves : Slot.Serves finding tolerance slots index slot) :
    Slot.Serves finding tolerance (slots.map (Slot.map f)) index (slot.map f) := by
  refine ⟨?_, ?_, ?_, ?_⟩
  · rw [List.getElem?_map, hserves.at_index, Option.map_some]
  · rw [hf.fits_map]
    exact hserves.fits
  · intro j other hother hfits
    rw [List.getElem?_map, Option.map_eq_some_iff] at hother
    obtain ⟨before, hbefore, rfl⟩ := hother
    rw [hf.fits_map] at hfits
    rw [hf.distance_map, hf.distance_map]
    exact hserves.closest j before hbefore hfits
  · intro j other hother hfits hdistance
    rw [List.getElem?_map, Option.map_eq_some_iff] at hother
    obtain ⟨before, hbefore, rfl⟩ := hother
    rw [hf.fits_map] at hfits
    rw [hf.distance_map, hf.distance_map] at hdistance
    exact hserves.first j before hbefore hfits hdistance

end Respects

/-- A pass over the replaced diagnostics claims the same positions. -/
theorem Run.map {f : Diagnostic → Diagnostic} {tolerance : Nat} {slots slots' : List Slot}
    {findings : List Finding} {verdicts : List Verdict}
    (hrun : Run tolerance slots findings verdicts slots')
    (hf : ∀ finding ∈ findings, finding.Respects tolerance f) :
    Run tolerance (slots.map (Slot.map f)) findings (verdicts.map (Verdict.map f))
      (slots'.map (Slot.map f)) := by
  induction hrun with
  | done slots => exact Run.done _
  | served hserves hrest ih =>
      rw [List.forall_mem_cons] at hf
      have hrest := ih hf.2
      rw [List.map_set] at hrest
      exact Run.served (hserves.map hf.1) hrest
  | unserved hnone hrest ih =>
      rw [List.forall_mem_cons] at hf
      apply Run.unserved _ (ih hf.2)
      rw [List.forall_mem_map]
      intro slot hslot
      rw [hf.1.fits_map]
      exact hnone slot hslot

namespace Verdict

variable (f : Diagnostic → Diagnostic) (verdict : Verdict)

theorem match?_map : (verdict.map f).match? = verdict.match?.map (Match.map f) := by
  simp [Verdict.map, Verdict.match?, Match.map, Function.comp_def]

theorem missing?_map (expectation : Expectation) :
    (verdict.map f).missing? expectation = verdict.missing? expectation := by
  rw [Verdict.missing?, Verdict.map, Option.isNone_map]
  rfl

end Verdict

namespace Fixture

variable {fixture : Fixture} {f : Diagnostic → Diagnostic} {diagnostics : List Diagnostic}

theorem relevant_map (hname : ∀ diagnostic, (f diagnostic).fileName = diagnostic.fileName) :
    fixture.relevant (diagnostics.map f) = (fixture.relevant diagnostics).map f := by
  simp only [relevant, List.filter_map, Function.comp_def, hname]

theorem slots_map (hname : ∀ diagnostic, (f diagnostic).fileName = diagnostic.fileName) :
    fixture.slots (diagnostics.map f) = (fixture.slots diagnostics).map (Slot.map f) := by
  rw [slots, slots, relevant_map hname, List.map_map, List.map_map]
  rfl

end Fixture

/-- The entry that stands behind the checks of a promoted diagnostic. -/
def promotionMark : String := "-warnings-as-errors"

/-- The diagnostic as an error, with the mark behind its checks. -/
def Diagnostic.promoted (diagnostic : Diagnostic) : Diagnostic :=
  { diagnostic with
    severity := .error
    checks := diagnostic.checks ++ [promotionMark] }

/-- A rule of a category does not cover the mark, which belongs to none. -/
theorem Glob.covers_promotionMark_of_ofCheck? {rule : String} {category : Category}
    (hrule : Category.ofCheck? rule = some category) :
    Glob.covers rule promotionMark = false := by
  have hmark : Category.ofCheck? promotionMark = none := by
    decide
  rw [← Bool.not_eq_true]
  intro hcovers
  simp [Category.ofCheck?_of_covers hrule hcovers] at hmark

theorem Finding.respects_promoted {finding : Finding}
    (hcovers : finding.coversCheck promotionMark = false) (tolerance : Nat) :
    finding.Respects tolerance Diagnostic.promoted := by
  refine ⟨fun _ => rfl, ?_⟩
  intro diagnostic
  have hany : diagnostic.promoted.checks.any finding.coversCheck =
      diagnostic.checks.any finding.coversCheck := by
    simp [Diagnostic.promoted, hcovers]
  rw [Finding.satisfiedBy, Finding.satisfiedBy, hany]
  rfl

/-- No finding of a valid corpus covers the mark. -/
theorem Corpus.coversCheck_promotionMark_of_isValid {corpus : Corpus}
    (hvalid : corpus.isValid = true) {fixture : Fixture} (hfixture : fixture ∈ corpus.fixtures)
    {finding : Finding} (hfinding : finding ∈ fixture.findings) :
    finding.coversCheck promotionMark = false :=
  Glob.covers_promotionMark_of_ofCheck? (ofCheck?_rule_of_isValid hvalid hfixture hfinding)

namespace CheckOptions

/-- One of the ignored patterns covers the mark. -/
def CoversMark (options : CheckOptions) : Prop :=
  ∃ pattern ∈ options.ignoreChecks, Glob.covers pattern promotionMark = true

instance (options : CheckOptions) : Decidable options.CoversMark :=
  inferInstanceAs (Decidable (∃ pattern ∈ options.ignoreChecks, _))

/-- The options with nothing ignored. -/
def ignoringNothing (options : CheckOptions) : CheckOptions :=
  { options with ignoreChecks := [] }

/-- What the options come to when all diagnostics are promoted. -/
def onPromoted (options : CheckOptions) : CheckOptions :=
  if options.CoversMark then options else options.ignoringNothing

variable (options : CheckOptions)

theorem onPromoted_of_coversMark {options : CheckOptions} (hmark : options.CoversMark) :
    options.onPromoted = options :=
  if_pos hmark

theorem onPromoted_of_not_coversMark {options : CheckOptions} (hmark : ¬ options.CoversMark) :
    options.onPromoted = options.ignoringNothing :=
  if_neg hmark

@[simp] theorem onPromoted_lineTolerance :
    options.onPromoted.lineTolerance = options.lineTolerance := by
  rw [onPromoted]
  split <;> rfl

@[simp] theorem onPromoted_strict : options.onPromoted.strict = options.strict := by
  rw [onPromoted]
  split <;> rfl

theorem not_ignored_ignoringNothing (diagnostic : Diagnostic) :
    ¬ options.ignoringNothing.Ignored diagnostic := by
  rintro ⟨hne, hall⟩
  obtain ⟨check, hcheck⟩ := List.exists_mem_of_ne_nil _ hne
  obtain ⟨pattern, hpattern, -⟩ := hall check hcheck
  exact List.not_mem_nil hpattern

/-- A promoted diagnostic is ignored when it was and the mark is covered as well. -/
theorem ignored_promoted_iff {diagnostic : Diagnostic} (hne : diagnostic.checks ≠ []) :
    options.Ignored diagnostic.promoted ↔ options.CoversMark ∧ options.Ignored diagnostic := by
  simp only [Ignored, CoversMark, Diagnostic.promoted, List.mem_append, List.mem_singleton,
    or_imp, forall_and, forall_eq, ne_eq, List.append_eq_nil_iff, hne, false_and, not_false_eq_true,
    true_and]
  exact and_comm

theorem ignored_promoted_iff_onPromoted {diagnostic : Diagnostic} (hne : diagnostic.checks ≠ []) :
    options.Ignored diagnostic.promoted ↔ options.onPromoted.Ignored diagnostic := by
  rw [ignored_promoted_iff options hne]
  by_cases hmark : options.CoversMark
  · rw [onPromoted_of_coversMark hmark]
    exact and_iff_right hmark
  · rw [onPromoted_of_not_coversMark hmark]
    exact iff_of_false (fun hboth => hmark hboth.1) (options.not_ignored_ignoringNothing diagnostic)

theorem unexpected?_promoted {slot : Slot} (hseverity : slot.diagnostic.severity ≠ .note)
    (hne : slot.diagnostic.checks ≠ []) :
    options.unexpected? (slot.map Diagnostic.promoted) =
      (options.onPromoted.unexpected? slot).map Diagnostic.promoted := by
  have hignored := options.ignored_promoted_iff_onPromoted hne
  have hsame : (slot.map Diagnostic.promoted).claimedBy = none ∧
        (slot.map Diagnostic.promoted).diagnostic.severity ≠ .note ∧
          ¬ options.Ignored (slot.map Diagnostic.promoted).diagnostic ↔
      slot.claimedBy = none ∧ slot.diagnostic.severity ≠ .note ∧
        ¬ options.onPromoted.Ignored slot.diagnostic := by
    have herror : slot.diagnostic.promoted.severity ≠ .note := Severity.noConfusion
    rw [Slot.map, hignored]
    exact and_congr_right fun _ => and_congr_left fun _ => iff_of_true herror hseverity
  rw [unexpected?_eq, unexpected?_eq]
  by_cases hcounts : slot.claimedBy = none ∧ slot.diagnostic.severity ≠ .note ∧
      ¬ options.onPromoted.Ignored slot.diagnostic
  · rw [if_pos hcounts, if_pos (hsame.mpr hcounts)]
    rfl
  · rw [if_neg hcounts, if_neg (hsame.not.mpr hcounts)]
    rfl

end CheckOptions

namespace Fixture

variable {fixture : Fixture} {diagnostics : List Diagnostic}

/-- Where no finding covers the mark, the promoted diagnostics are matched like the others. -/
theorem run_promoted
    (hcovers : ∀ finding ∈ fixture.findings, finding.coversCheck promotionMark = false)
    (options : CheckOptions) :
    fixture.verdicts (diagnostics.map Diagnostic.promoted) options =
        (fixture.verdicts diagnostics options).map (Verdict.map Diagnostic.promoted) ∧
      fixture.claims (diagnostics.map Diagnostic.promoted) options =
        (fixture.claims diagnostics options).map (Slot.map Diagnostic.promoted) := by
  have hrun := (fixture.run_verdicts diagnostics options).map fun finding hfinding =>
    Finding.respects_promoted (hcovers finding hfinding) options.lineTolerance
  rw [← slots_map (f := Diagnostic.promoted) fun _ => rfl] at hrun
  exact (fixture.run_verdicts _ options).unique hrun

/-- What is unexpected among promoted diagnostics. -/
theorem unexpected_map_promoted
    (hcovers : ∀ finding ∈ fixture.findings, finding.coversCheck promotionMark = false)
    (hseverity : ∀ diagnostic ∈ diagnostics, diagnostic.severity ≠ .note)
    (hne : ∀ diagnostic ∈ diagnostics, diagnostic.checks ≠ []) (options : CheckOptions) :
    (fixture.check (diagnostics.map Diagnostic.promoted) options).unexpected =
      (fixture.check diagnostics options.onPromoted).unexpected.map Diagnostic.promoted := by
  rw [check_unexpected, check_unexpected, (run_promoted hcovers options).2, List.filterMap_map,
    List.map_filterMap, fixture.claims_congr _ options.onPromoted_lineTolerance]
  apply List.filterMap_congr
  intro slot hslot
  have hmem := mem_of_mem_claims hslot
  exact options.unexpected?_promoted (hseverity _ hmem) (hne _ hmem)

/-- The report on promoted diagnostics is that on the others with the mark on them, and with the
patterns without effect unless one of them covers the mark. -/
theorem check_map_promoted
    (hcovers : ∀ finding ∈ fixture.findings, finding.coversCheck promotionMark = false)
    (hseverity : ∀ diagnostic ∈ diagnostics, diagnostic.severity ≠ .note)
    (hne : ∀ diagnostic ∈ diagnostics, diagnostic.checks ≠ []) (options : CheckOptions) :
    fixture.check (diagnostics.map Diagnostic.promoted) options =
      (fixture.check diagnostics options.onPromoted).map Diagnostic.promoted := by
  have hverdicts : fixture.verdicts (diagnostics.map Diagnostic.promoted) options =
      (fixture.verdicts diagnostics options.onPromoted).map (Verdict.map Diagnostic.promoted) := by
    rw [(run_promoted hcovers options).1, fixture.verdicts_congr _ options.onPromoted_lineTolerance]
  have hmissing : ∀ expectation,
      (fixture.verdicts (diagnostics.map Diagnostic.promoted) options).filterMap
          (Verdict.missing? expectation) =
        (fixture.verdicts diagnostics options.onPromoted).filterMap
          (Verdict.missing? expectation) := by
    intro expectation
    rw [hverdicts, List.filterMap_map]
    exact List.filterMap_congr fun verdict _ => verdict.missing?_map _ expectation
  have hunexpected := unexpected_map_promoted hcovers hseverity hne options
  apply Report.ext
  · rfl
  · rw [Bool.eq_iff_iff, check_ok_iff, check_missing, hmissing, hunexpected, List.map_eq_nil_iff,
      ← check_missing, ← options.onPromoted_strict]
    exact check_ok_iff.symm
  · rw [check_matched, hverdicts, List.filterMap_map, Report.map, check_matched, List.map_filterMap]
    exact List.filterMap_congr fun verdict _ => verdict.match?_map _
  · exact hmissing .required
  · exact hmissing .advisory
  · exact hunexpected

/-- With nothing ignored at least as much is unexpected. -/
theorem unexpected_sublist_ignoringNothing (options : CheckOptions) :
    (fixture.check diagnostics options).unexpected.Sublist
      (fixture.check diagnostics options.ignoringNothing).unexpected :=
  unexpected_sublist_of_subset rfl (List.nil_subset _)

/-- Nothing but what is unexpected, and the verdict with it, depends on the ignored patterns. -/
theorem check_ignoringNothing_of_unexpected {options : CheckOptions}
    (hunexpected : (fixture.check diagnostics options).unexpected =
      (fixture.check diagnostics options.ignoringNothing).unexpected) :
    fixture.check diagnostics options.ignoringNothing = fixture.check diagnostics options :=
  check_eq_of_unexpected_eq rfl rfl hunexpected.symm

/-- For the fixtures of a valid corpus, promotion changes nothing but the diagnostics themselves
exactly when one of the ignored patterns covers the mark, or when the patterns are not needed:
nothing more would be unexpected without them. -/
theorem check_promoted_iff {corpus : Corpus} (hvalid : corpus.isValid = true)
    (hfixture : fixture ∈ corpus.fixtures)
    (hseverity : ∀ diagnostic ∈ diagnostics, diagnostic.severity ≠ .note)
    (hne : ∀ diagnostic ∈ diagnostics, diagnostic.checks ≠ []) (options : CheckOptions) :
    fixture.check (diagnostics.map Diagnostic.promoted) options =
        (fixture.check diagnostics options.onPromoted).map Diagnostic.promoted ∧
      (fixture.check (diagnostics.map Diagnostic.promoted) options =
          (fixture.check diagnostics options).map Diagnostic.promoted ↔
        options.CoversMark ∨ (fixture.check diagnostics options).unexpected =
          (fixture.check diagnostics options.ignoringNothing).unexpected) := by
  have hreport : fixture.check (diagnostics.map Diagnostic.promoted) options =
      (fixture.check diagnostics options.onPromoted).map Diagnostic.promoted := by
    apply check_map_promoted _ hseverity hne
    intro finding hfinding
    exact Corpus.coversCheck_promotionMark_of_isValid hvalid hfixture hfinding
  refine ⟨hreport, ?_⟩
  rw [hreport]
  by_cases hmark : options.CoversMark
  · rw [CheckOptions.onPromoted_of_coversMark hmark]
    exact iff_of_true rfl (Or.inl hmark)
  rw [CheckOptions.onPromoted_of_not_coversMark hmark, or_iff_right hmark]
  constructor
  · intro hsame
    -- The longer of the two lists is no longer than the other one.
    have hlength := congrArg (fun report => report.unexpected.length) hsame
    simp only [Report.map, List.length_map] at hlength
    exact (unexpected_sublist_ignoringNothing options).eq_of_length hlength.symm
  · intro hunexpected
    rw [check_ignoringNothing_of_unexpected hunexpected]

end Fixture

namespace PromotionWitness

/-- A fixture with one finding, and with includes that are not in order. -/
def sorted : Fixture where
  name := "sorted"
  fileName := "sorted.cpp"
  summary := ""
  categories := [.modernize]
  findings := [.required "modernize-use-nullptr" .modernize 3 "p = 0" ""]
  waivers := []
  source := "#include <vector>\n#include <map>\nint* p = 0;\n"

def corpus : Corpus where
  fixtures := [sorted]

/-- The finding's diagnostic, and one that no finding is about. -/
def diagnostics : List Diagnostic :=
  [⟨"sorted.cpp", 3, 10, .warning, "use nullptr", ["modernize-use-nullptr"]⟩,
    ⟨"sorted.cpp", 1, 1, .warning, "#includes are not sorted properly", ["llvm-include-order"]⟩]

/-- Exact lines, in strict mode, with these patterns ignored. -/
def options (ignoreChecks : List String) : CheckOptions := ⟨0, ignoreChecks, true⟩

/-- With the mark among the patterns the promoted diagnostics give the same report. -/
theorem check_promoted_ignored :
    corpus.isValid = true ∧ sorted ∈ corpus.fixtures ∧
      (∀ diagnostic ∈ diagnostics, diagnostic.severity ≠ .note) ∧
      (∀ diagnostic ∈ diagnostics, diagnostic.checks ≠ []) ∧
      sorted.check (diagnostics.map Diagnostic.promoted)
          (options ["llvm-*", "-warnings-as-errors"]) =
        (sorted.check diagnostics (options ["llvm-*", "-warnings-as-errors"])).map
          Diagnostic.promoted := by
  have hvalid : corpus.isValid = true := by
    decide +kernel
  have hfixture : sorted ∈ corpus.fixtures := List.mem_cons_self
  have hseverity : ∀ diagnostic ∈ diagnostics, diagnostic.severity ≠ .note := by
    decide
  have hne : ∀ diagnostic ∈ diagnostics, diagnostic.checks ≠ [] := by
    decide
  have hmark : (options ["llvm-*", "-warnings-as-errors"]).CoversMark := by
    decide +kernel
  refine ⟨hvalid, hfixture, hseverity, hne, ?_⟩
  exact (Fixture.check_promoted_iff hvalid hfixture hseverity hne _).2.mpr (Or.inl hmark)

/-- The pattern covers the diagnostic's check but not the mark that promotion puts behind it. -/
theorem not_check_promoted :
    ¬ ∀ (corpus : Corpus) (fixture : Fixture) (diagnostics : List Diagnostic)
        (options : CheckOptions), corpus.isValid = true → fixture ∈ corpus.fixtures →
      (∀ diagnostic ∈ diagnostics, diagnostic.severity ≠ .note) →
      (∀ diagnostic ∈ diagnostics, diagnostic.checks ≠ []) →
        (fixture.check (diagnostics.map Diagnostic.promoted) options).ok =
            (fixture.check diagnostics options).ok ∧
          (fixture.check (diagnostics.map Diagnostic.promoted) options).unexpected =
            (fixture.check diagnostics options).unexpected.map Diagnostic.promoted := by
  intro hall
  obtain ⟨hok, -⟩ := hall corpus sorted diagnostics (options ["llvm-*"]) (by decide +kernel)
    List.mem_cons_self (by decide) (by decide)
  revert hok
  decide +kernel

end PromotionWitness

end LintCorpus
