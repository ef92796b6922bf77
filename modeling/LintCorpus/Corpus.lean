import LintCorpus.Blake3
import LintCorpus.Fixture.Basic
import LintCorpus.Text.Basic

/-!
A corpus: fixtures in the order of their listing, with look-ups, counts and a digest of the names
and the sources.
-/

namespace LintCorpus

/-- Fixtures in listing order.  Names may clash; a look-up then finds the first. -/
structure Corpus where
  fixtures : List Fixture
deriving DecidableEq, Repr

/-- What is said when no fixture has the name. -/
def notFoundMessage (name : String) : String :=
  "fixture not found: '" ++ name ++ "'"

/-- The hash of a source's bytes. -/
def Fixture.contentHash (fixture : Fixture) : String :=
  Blake3.hexHash (Text.bytesOf fixture.source.toList)

namespace Corpus

/-- Gives the name of a fixture its position, unless the name has one already. -/
def enter (index : List (String × Nat)) (entry : Fixture × Nat) : List (String × Nat) :=
  if (index.lookup entry.1.name).isSome then index else (entry.1.name, entry.2) :: index

/-- The position of every name in the listing. -/
def index (corpus : Corpus) : List (String × Nat) :=
  corpus.fixtures.zipIdx.foldl enter []

/-- The fixture at the position of the name. -/
def get? (corpus : Corpus) (name : String) : Option Fixture :=
  (corpus.index.lookup name).bind fun position => corpus.fixtures[position]?

def byFileName? (corpus : Corpus) (fileName : String) : Option Fixture :=
  corpus.fixtures.find? (·.fileName = fileName)

def names (corpus : Corpus) : List String :=
  corpus.fixtures.map (·.name)

def byCategory (corpus : Corpus) (category : Category) : List Fixture :=
  corpus.fixtures.filter (·.declares category)

/-- How many fixtures there are. -/
def size (corpus : Corpus) : Nat :=
  corpus.fixtures.length

/-- How many findings are expected in all. -/
def findingCount (corpus : Corpus) : Nat :=
  (corpus.fixtures.map (·.findings.length)).foldr (· + ·) 0

end Corpus

/-- The `count` lowest bytes of a number, the lowest first. -/
def littleEndian : (count n : Nat) → List UInt8
  | 0, _ => []
  | count + 1, n => n.toUInt8 :: littleEndian count (n / 256)

/-- The record of a name and a content in the input of the digest: the name, a zero byte, the length
of the content in eight bytes, and the content. -/
def digestRecord (name : String) (content : List UInt8) : List UInt8 :=
  Text.bytesOf name.toList ++ 0 :: (littleEndian 8 content.length ++ content)

def digestInput (corpus : Corpus) : List UInt8 :=
  corpus.fixtures.flatMap fun fixture =>
    digestRecord fixture.name (Text.bytesOf fixture.source.toList)

/-- The digest of every fixture's name and source. -/
def Corpus.digest (corpus : Corpus) : String :=
  Blake3.hexHash (digestInput corpus)

end LintCorpus
