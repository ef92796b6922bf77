import LintCorpus.Fixture.Basic

/-!
The fixture `smoke`.  One-file tour of the defect families the visualizer groups by check.
-/

namespace LintCorpus.Embedded.Smoke

def source : String :=
  Text.unlines [
    "// Test file for Clang-Tidy Visualizer",
    "#include <iostream>",
    "#include <vector>",
    "#include <memory>",
    "",
    "using namespace std;",
    "",
    "class TestClass \x7b",
    "public:",
    "  TestClass() \x7b cout << \"Constructor called\" << endl; \x7d",
    "",
    "  ~TestClass() \x7b cout << \"Destructor called\" << endl; \x7d",
    "",
    "  void doSomething() \x7b",
    "    int unusedVar = 42; // Warning: unused variable",
    "    cout << \"Doing something\" << endl;",
    "  \x7d",
    "",
    "  int divide(int a, int b) \x7b",
    "    return a / b; // Warning: division by zero possible",
    "  \x7d",
    "",
    "  void memoryLeak() \x7b",
    "    int *ptr = new int[10]; // Warning: memory leak",
    "    // Missing delete[] ptr;",
    "  \x7d",
    "  ",
    "  // Violates google-explicit-constructor",
    "  TestClass(int value) \x7b \x7d // Should have explicit",
    "  ",
    "  // Violates google-readability-casting",
    "  void badCasting() \x7b",
    "    double val = 3.14;",
    "    int converted = (int)val; // C-style cast, should use static_cast",
    "  \x7d",
    "  ",
    "  // Violates cppcoreguidelines-narrowing-conversions",
    "  void narrowingConversion() \x7b",
    "    int x = 3.14; // Narrowing conversion",
    "  \x7d",
    "  ",
    "  // Violates modernize-use-nullptr",
    "  void useNullptr() \x7b",
    "    int* ptr = NULL; // Should use nullptr",
    "  \x7d",
    "  ",
    "  // Violates modernize-use-override",
    "  virtual void someMethod() \x7b \x7d // Should use override if overriding",
    "\x7d;",
    "",
    "// Violates misc-unconventional-assign-operator",
    "TestClass& operator+(const TestClass& other) \x7b  // Non-const return for assignment operator",
    "    return *this;",
    "\x7d",
    "",
    "int main() \x7b",
    "  TestClass obj;",
    "",
    "  vector<int> numbers;",
    "  numbers.push_back(1);",
    "  numbers.push_back(2);",
    "  numbers.push_back(3);",
    "",
    "  for (int i = 0; i <= numbers.size(); i++) \x7b // Warning: potential out-of-bounds access",
    "    cout << numbers[i] << endl;",
    "  \x7d",
    "",
    "  int x = 5;",
    "  int y = x; ",
    "",
    "  obj.doSomething();",
    "  obj.memoryLeak();",
    "  ",
    "  // More violations",
    "  int *raw_ptr = (int*)malloc(sizeof(int)); // C-style cast and raw pointer to allocated memory",
    "  free(raw_ptr);",
    "  ",
    "  // Bad unique ptr array usage that triggers bugprone-unique-ptr-array-mismatch",
    "  std::unique_ptr<int> bad_unique_ptr(new int[10]); // Should be unique_ptr<int[]> ",
    "",
    "  return 0;",
    "\x7d"]

/-- The expected findings, by line. -/
def findings : List Finding := [
  .required "google-build-using-namespace" .google 6
    "using namespace std;"
    "using-directive pulls all of namespace std into the global scope",
  .required "clang-diagnostic-unused-variable" .clangDiagnostic 15
    "int unusedVar = 42;"
    "unusedVar is initialized but never used",
  .advisory "clang-analyzer-core.DivideZero" .clangAnalyzer 20
    "a / b"
    "division by a caller-supplied value that may be zero",
  .required "clang-analyzer-cplusplus.NewDeleteLeaks" .clangAnalyzer 24
    "new int[10]"
    "array allocation is never released",
  .required "clang-diagnostic-unused-variable" .clangDiagnostic 24
    "int *ptr"
    "ptr is initialized but never used",
  .required "google-explicit-constructor" .google 29
    "TestClass(int value)"
    "single-argument constructor is not marked explicit",
  .required "google-readability-casting" .google 34
    "(int)val"
    "C-style cast instead of static_cast",
  .required "clang-diagnostic-unused-variable" .clangDiagnostic 34
    "int converted"
    "converted is initialized but never used",
  .required "cppcoreguidelines-narrowing-conversions" .cppCoreGuidelines 39
    "int x = 3.14;"
    "double literal narrowed to int",
  .required "clang-diagnostic-unused-variable" .clangDiagnostic 39
    "int x = 3.14;"
    "x is initialized but never used",
  .required "modernize-use-nullptr" .modernize 44
    "NULL"
    "NULL used to initialize a pointer",
  .advisory "modernize-use-override" .modernize 48
    "virtual void someMethod()"
    "virtual method that may override without saying so",
  .advisory "misc-unconventional-assign-operator" .misc 52
    "operator+"
    "operator returning a non-const reference to its operand",
  .required "clang-diagnostic-error" .clangDiagnostic 53
    "return *this;"
    "this used outside of a member function",
  .required "clang-diagnostic-sign-compare" .clangDiagnostic 64
    "i <= numbers.size()"
    "signed loop index compared with size_t",
  .advisory "clang-analyzer-*" .clangAnalyzer 64
    "i <= numbers.size()"
    "loop reads one element past the end of numbers",
  .required "clang-diagnostic-unused-variable" .clangDiagnostic 69
    "int y = x;"
    "y is initialized but never used",
  .required "google-readability-casting" .google 75
    "(int*)malloc"
    "C-style cast of the malloc result",
  .required "cppcoreguidelines-no-malloc" .cppCoreGuidelines 75
    "malloc(sizeof(int))"
    "manual allocation with malloc",
  .required "bugprone-unique-ptr-array-mismatch" .bugprone 79
    "std::unique_ptr<int> bad_unique_ptr(new int[10])"
    "unique_ptr<int> owns an array allocated with new[]"]

def fixture : Fixture where
  name := "smoke"
  fileName := "smoke.cpp"
  summary := "One-file tour of the defect families the visualizer groups by check"
  categories :=
    [.google, .clangDiagnostic, .clangAnalyzer, .cppCoreGuidelines, .modernize, .misc, .bugprone]
  findings := findings
  waivers := []
  source := source

end LintCorpus.Embedded.Smoke
