import LintCorpus.Fixture.Basic

/-!
The fixture `basic`.  Basic syntax and hygiene mistakes in a single main().
-/

namespace LintCorpus.Embedded.Basic

def source : String :=
  Text.unlines [
    "// Test file with basic syntax issues",
    "",
    "#include <iostream>",
    "#include <vector>",
    "",
    "using namespace std;  // Bad practice: using namespace std",
    "",
    "int main() \x7b",
    "    int x = 10;",
    "    int y = 20;",
    "    int z = x + y;  // Unused variable",
    "    ",
    "    cout << \"Hello World!\" << endl;",
    "    ",
    "    for (int i = 0; i < 10; i++) \x7b  // Should use ++i instead of i++",
    "        cout << i << endl;",
    "    \x7d",
    "    ",
    "    char* str = \"Hello\";  // Should use const char*",
    "    ",
    "    if (x = y) \x7b  // Assignment instead of equality",
    "        cout << \"x equals y\" << endl;",
    "    \x7d",
    "    ",
    "    int arr[10];",
    "    for (int i = 0; i <= 10; i++) \x7b  // Off-by-one error",
    "        arr[i] = i;",
    "    \x7d",
    "    ",
    "    return 0;",
    "\x7d"]

/-- The expected findings, by line. -/
def findings : List Finding := [
  .required "google-build-using-namespace" .google 6
    "using namespace std;"
    "using-directive pulls all of namespace std into the global scope",
  .required "clang-diagnostic-unused-variable" .clangDiagnostic 11
    "int z = x + y;"
    "z is initialized but never used",
  .advisory "performance-*" .performance 15
    "i++"
    "post-increment where pre-increment suffices",
  .required "clang-diagnostic-writable-strings" .clangDiagnostic 19
    "char* str = \"Hello\";"
    "string literal bound to a non-const char pointer",
  .required "bugprone-assignment-in-if-condition" .bugprone 21
    "if (x = y)"
    "assignment used as an if condition",
  .advisory "clang-analyzer-*" .clangAnalyzer 26
    "i <= 10"
    "loop writes one element past the end of arr"]

def fixture : Fixture where
  name := "basic"
  fileName := "basic.cpp"
  summary := "Basic syntax and hygiene mistakes in a single main()"
  categories := [.google, .clangDiagnostic, .performance, .bugprone, .clangAnalyzer]
  findings := findings
  waivers := []
  source := source

end LintCorpus.Embedded.Basic
