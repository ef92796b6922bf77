import LintCorpus.Fixture.Basic

/-!
The fixture `performance`.  Avoidable copies and allocations, plus calls to undeclared functions.
-/

namespace LintCorpus.Embedded.Performance

def source : String :=
  Text.unlines [
    "// Test file with performance issues",
    "",
    "#include <iostream>",
    "#include <memory>",
    "#include <string>",
    "#include <vector>",
    "",
    "",
    "// Inefficient loop with string concatenation",
    "std::string inefficientStringConcat() \x7b",
    "  std::string result;",
    "  for (int i = 0; i < 1000; ++i) \x7b",
    "    result += \"string\" + std::to_string(i);",
    "  \x7d",
    "  return result;",
    "\x7d",
    "",
    "// Unnecessary copies",
    "void unnecessaryCopies() \x7b",
    "  std::vector<int> largeVector(1000000, 0);",
    "",
    "  // Unnecessary copy of large vector",
    "  std::vector<int> copy = largeVector;",
    "",
    "  // Should pass by const reference instead of value",
    "  printVector(copy);",
    "\x7d",
    "",
    "// Pass by value instead of const reference",
    "void printVector(std::vector<int> vec) \x7b",
    "  for (const auto &val : vec) \x7b",
    "    std::cout << val << \" \";",
    "  \x7d",
    "  std::cout << std::endl;",
    "\x7d",
    "",
    "// Use of raw pointers instead of smart pointers",
    "void rawPointerUsage() \x7b",
    "  // Potential memory leak",
    "  int *data = new int[1000];",
    "",
    "  // Missing delete[]",
    "  // delete[] data;",
    "\x7d",
    "",
    "// Inefficient use of vector",
    "void inefficientVectorUsage() \x7b",
    "  std::vector<int> vec;",
    "",
    "  // No reserve, causes multiple reallocations",
    "  for (int i = 0; i < 1000000; ++i) \x7b",
    "    vec.push_back(i);",
    "  \x7d",
    "\x7d",
    "",
    "// Premature optimization with complex expressions",
    "int prematureOptimization(int a, int b, int c) \x7b",
    "  // Complex expression that's harder to read",
    "  return (a + b) * (c - a) / (b + c) % (a * c);",
    "\x7d",
    "",
    "// Excessive branching",
    "int excessiveBranching(int x) \x7b",
    "  if (x < 0) \x7b",
    "    return -1;",
    "  \x7d else if (x == 0) \x7b",
    "    return 0;",
    "  \x7d else if (x == 1) \x7b",
    "    return 1;",
    "  \x7d else if (x == 2) \x7b",
    "    return 2;",
    "  \x7d else if (x == 3) \x7b",
    "    return 3;",
    "  \x7d else \x7b",
    "    return x;",
    "  \x7d",
    "\x7d",
    "",
    "// Use of C-style arrays",
    "void cStyleArrays() \x7b",
    "  int arr[1000];",
    "  for (int i = 0; i < 1000; ++i) \x7b",
    "    arr[i] = i;",
    "  \x7d",
    "",
    "  // C-style array passed to function",
    "  processArray(arr, 1000);",
    "\x7d",
    "",
    "void processArray(int *arr, int size) \x7b",
    "  for (int i = 0; i < size; ++i) \x7b",
    "    arr[i] *= 2;",
    "  \x7d",
    "\x7d",
    "",
    "int main() \x7b",
    "  inefficientStringConcat();",
    "  unnecessaryCopies();",
    "  rawPointerUsage();",
    "  inefficientVectorUsage();",
    "  prematureOptimization(1, 2, 3);",
    "  excessiveBranching(5);",
    "  cStyleArrays();",
    "",
    "  return 0;",
    "\x7d"]

/-- The expected findings, by line. -/
def findings : List Finding := [
  .advisory "performance-inefficient-string-concatenation" .performance 13
    "\"string\" + std::to_string(i)"
    "temporary strings created by operator+ inside a loop",
  .required "performance-unnecessary-copy-initialization" .performance 23
    "std::vector<int> copy = largeVector;"
    "million-element vector copied but never modified",
  .required "clang-diagnostic-error" .clangDiagnostic 26
    "printVector(copy);"
    "printVector is used before it is declared",
  .required "performance-unnecessary-value-param" .performance 30
    "std::vector<int> vec"
    "vector parameter taken by value but only read",
  .required "clang-analyzer-cplusplus.NewDeleteLeaks" .clangAnalyzer 40
    "new int[1000]"
    "array allocation is never released",
  .required "clang-diagnostic-unused-variable" .clangDiagnostic 40
    "int *data"
    "data is initialized but never used",
  .required "performance-inefficient-vector-operation" .performance 52
    "vec.push_back(i);"
    "push_back in a counted loop without reserve",
  .advisory "readability-*" .readability 59
    "(a + b) * (c - a) / (b + c) % (a * c)"
    "four-operator arithmetic in one unexplained expression",
  .required "readability-else-after-return" .readability 66
    "\x7d else if (x == 0) \x7b"
    "else branch after a return",
  .required "modernize-avoid-c-arrays" .modernize 81
    "int arr[1000];"
    "C-style array instead of std::array",
  .required "clang-diagnostic-error" .clangDiagnostic 87
    "processArray(arr, 1000);"
    "processArray is used before it is declared"]

/-- The defect comments without a finding. -/
def waivers : List Waiver := [
  ⟨42, "restates the leak recorded at line 40"⟩]

def fixture : Fixture where
  name := "performance"
  fileName := "performance.cpp"
  summary := "Avoidable copies and allocations, plus calls to undeclared functions"
  categories := [.performance, .clangDiagnostic, .clangAnalyzer, .readability, .modernize]
  findings := findings
  waivers := waivers
  source := source

end LintCorpus.Embedded.Performance
