import LintCorpus.Corpus
import LintCorpus.Embedded.Basic
import LintCorpus.Embedded.Bugprone
import LintCorpus.Embedded.GoogleStyle
import LintCorpus.Embedded.Misc
import LintCorpus.Embedded.Modernize
import LintCorpus.Embedded.Performance
import LintCorpus.Embedded.Readability
import LintCorpus.Embedded.Smoke

/-!
The embedded corpus: the eight fixtures that are part of the library.
-/

namespace LintCorpus

/-- The corpus of the library's own fixtures. -/
def Corpus.embedded : Corpus where
  fixtures := [
    Embedded.Basic.fixture, Embedded.Bugprone.fixture, Embedded.GoogleStyle.fixture,
    Embedded.Misc.fixture, Embedded.Modernize.fixture, Embedded.Performance.fixture,
    Embedded.Readability.fixture, Embedded.Smoke.fixture]

end LintCorpus
