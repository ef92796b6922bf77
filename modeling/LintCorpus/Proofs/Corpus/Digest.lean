import Mathlib.Data.List.Forall2
import LintCorpus.Corpus
import LintCorpus.Proofs.Text.Bytes
import LintCorpus.Proofs.Text.Cut

/-!
The input of the digest tells the names and the sources of a corpus apart: a name ends at its zero
byte, and the length behind it says where the source ends, so the records of two corpora can only
come one after the other in the same way (`digestInput_eq_iff`).
-/

namespace LintCorpus

/-- The number whose lowest byte comes first. -/
def ofLittleEndian (bytes : List UInt8) : Nat :=
  bytes.foldr (fun byte n => byte.toNat + 256 * n) 0

theorem ofLittleEndian_littleEndian {count n : Nat} (hn : n < Nat.pow 256 count) :
    ofLittleEndian (littleEndian count n) = n := by
  induction count generalizing n with
  | zero =>
      have hzero : n = 0 := Nat.lt_one_iff.mp hn
      simp [hzero, littleEndian, ofLittleEndian]
  | succ count ih =>
      have hhigh : n / 256 < Nat.pow 256 count := by
        rw [Nat.div_lt_iff_lt_mul (by decide)]
        exact hn
      have hrest := ih hhigh
      simp only [ofLittleEndian, littleEndian, List.foldr_cons, Nat.toUInt8_eq,
        UInt8.toNat_ofNat'] at hrest ⊢
      rw [hrest]
      omega

theorem length_littleEndian (count n : Nat) : (littleEndian count n).length = count := by
  induction count generalizing n with
  | zero => rfl
  | succ count ih => rw [littleEndian, List.length_cons, ih]

theorem littleEndian_inj {count n m : Nat} (hn : n < Nat.pow 256 count)
    (hm : m < Nat.pow 256 count) : littleEndian count n = littleEndian count m ↔ n = m := by
  constructor
  · intro heq
    rw [← ofLittleEndian_littleEndian hn, heq, ofLittleEndian_littleEndian hm]
  · rintro rfl
    rfl

/-- A record can be told from what follows it. -/
theorem digestRecord_append_inj {name name' : String} {content content' rest rest' : List UInt8}
    (hname : Char.ofNat 0 ∉ name.toList) (hname' : Char.ofNat 0 ∉ name'.toList)
    (hcontent : content.length ≤ Text.maxOffset) (hcontent' : content'.length ≤ Text.maxOffset)
    (heq : digestRecord name content ++ rest = digestRecord name' content' ++ rest') :
    (name = name' ∧ content = content') ∧ rest = rest' := by
  simp only [digestRecord, List.append_assoc, List.cons_append] at heq
  obtain ⟨hnames, hbehind⟩ := (Text.append_mark_inj (Text.zero_not_mem_bytesOf hname)
    (Text.zero_not_mem_bytesOf hname')).mp heq
  obtain ⟨hlengths, hcontents⟩ := List.append_inj hbehind (by simp only [length_littleEndian])
  have hlength : content.length = content'.length :=
    (littleEndian_inj (Nat.lt_succ_of_le hcontent) (Nat.lt_succ_of_le hcontent')).mp hlengths
  obtain ⟨rfl, rfl⟩ := List.append_inj hcontents hlength
  exact ⟨⟨String.toList_inj.mp (Text.bytesOf_inj.mp hnames), rfl⟩, rfl⟩

namespace Fixture

/-- The name holds no zero character, and the length of the source is a word of 64 bits. -/
structure Recordable (fixture : Fixture) : Prop where
  name_zero : Char.ofNat 0 ∉ fixture.name.toList
  source_length : (Text.bytesOf fixture.source.toList).length ≤ Text.maxOffset

/-- What the digest takes of a fixture. -/
def record (fixture : Fixture) : List UInt8 :=
  digestRecord fixture.name (Text.bytesOf fixture.source.toList)

/-- Both fixtures have the same name and the same source. -/
def SameText (first second : Fixture) : Prop :=
  first.name = second.name ∧ first.source = second.source

theorem record_ne_nil (fixture : Fixture) : fixture.record ≠ [] := by
  simp [record, digestRecord]

theorem SameText.record_eq {first second : Fixture} (hsame : first.SameText second) :
    first.record = second.record := by
  obtain ⟨hname, hsource⟩ := hsame
  rw [record, record, hname, hsource]

theorem record_append_inj {first second : Fixture} {rest rest' : List UInt8}
    (hfirst : first.Recordable) (hsecond : second.Recordable)
    (heq : first.record ++ rest = second.record ++ rest') :
    first.SameText second ∧ rest = rest' := by
  obtain ⟨⟨hname, hsource⟩, hrest⟩ := digestRecord_append_inj hfirst.name_zero hsecond.name_zero
    hfirst.source_length hsecond.source_length heq
  exact ⟨⟨hname, String.toList_inj.mp (Text.bytesOf_inj.mp hsource)⟩, hrest⟩

theorem flatMap_record_eq_iff {first second : List Fixture}
    (hfirst : ∀ fixture ∈ first, fixture.Recordable)
    (hsecond : ∀ fixture ∈ second, fixture.Recordable) :
    first.flatMap record = second.flatMap record ↔ List.Forall₂ SameText first second := by
  induction first generalizing second with
  | nil =>
      cases second with
      | nil => simp
      | cons other second => simp [record_ne_nil other]
  | cons fixture first ih =>
      cases second with
      | nil => simp [record_ne_nil fixture]
      | cons other second =>
          obtain ⟨hfixture, hfirst⟩ := List.forall_mem_cons.mp hfirst
          obtain ⟨hother, hsecond⟩ := List.forall_mem_cons.mp hsecond
          rw [List.flatMap_cons, List.flatMap_cons, List.forall₂_cons, ← ih hfirst hsecond]
          constructor
          · exact record_append_inj hfixture hother
          · rintro ⟨hsame, hrest⟩
            rw [hsame.record_eq, hrest]

end Fixture

/-- The input of the digest is the same for two corpora exactly when they have as many fixtures and
the same name and the same source at every position.  Corpora that differ there have the same digest
only where the hash of two different inputs is the same. -/
theorem digestInput_eq_iff {first second : Corpus}
    (hfirst : ∀ fixture ∈ first.fixtures, fixture.Recordable)
    (hsecond : ∀ fixture ∈ second.fixtures, fixture.Recordable) :
    (digestInput first = digestInput second ↔
        List.Forall₂ Fixture.SameText first.fixtures second.fixtures) ∧
      (first.digest = second.digest →
        List.Forall₂ Fixture.SameText first.fixtures second.fixtures ∨
          digestInput first ≠ digestInput second ∧
            Blake3.hexHash (digestInput first) = Blake3.hexHash (digestInput second)) := by
  have hinput : digestInput first = digestInput second ↔
      List.Forall₂ Fixture.SameText first.fixtures second.fixtures :=
    Fixture.flatMap_record_eq_iff hfirst hsecond
  refine ⟨hinput, ?_⟩
  intro hdigest
  by_cases hsame : List.Forall₂ Fixture.SameText first.fixtures second.fixtures
  · exact Or.inl hsame
  · exact Or.inr ⟨hinput.not.mpr hsame, hdigest⟩

namespace DigestWitness

/-- A fixture of which only the name and the source count here. -/
def fixture (name source : String) : Fixture :=
  ⟨name, "", "", [], [], [], source⟩

/-- The source of the first fixture is the record of a second one. -/
def nested : Corpus where
  fixtures := [fixture "a" "b\x00\x01\x00\x00\x00\x00\x00\x00\x00c"]

def listed : Corpus where
  fixtures := [fixture "a" "", fixture "b" "c"]

/-- A record inside a source is not taken for one of its own. -/
theorem digestInput_nested :
    (∀ fixture ∈ nested.fixtures, fixture.Recordable) ∧
      (∀ fixture ∈ listed.fixtures, fixture.Recordable) ∧
      digestInput nested ≠ digestInput listed := by
  have hnested : ∀ fixture ∈ nested.fixtures, fixture.Recordable := by
    simp only [nested, List.forall_mem_cons, List.not_mem_nil, false_imp_iff, implies_true, and_true]
    exact ⟨by decide +kernel, by decide +kernel⟩
  have hlisted : ∀ fixture ∈ listed.fixtures, fixture.Recordable := by
    simp only [listed, List.forall_mem_cons, List.not_mem_nil, false_imp_iff, implies_true, and_true]
    exact ⟨⟨by decide +kernel, by decide +kernel⟩, by decide +kernel, by decide +kernel⟩
  refine ⟨hnested, hlisted, ?_⟩
  rw [ne_eq, (digestInput_eq_iff hnested hlisted).1]
  simp [nested, listed]

end DigestWitness

end LintCorpus
