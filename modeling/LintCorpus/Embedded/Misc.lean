import LintCorpus.Fixture.Basic

/-!
The fixture `misc`.  Leaks, needless copies, out-of-bounds access and unreserved growth.
-/

namespace LintCorpus.Embedded.Misc

def source : String :=
  Text.unlines [
    "// Test file with miscellaneous issues",
    "",
    "#include <iostream>",
    "#include <vector>",
    "#include <string>",
    "#include <memory>",
    "",
    "class Test \x7b",
    "public:",
    "    Test(int value) : value_(value) \x7b",
    "        std::cout << \"Test constructor\" << std::endl;",
    "    \x7d",
    "    ",
    "    ~Test() \x7b",
    "        std::cout << \"Test destructor\" << std::endl;",
    "    \x7d",
    "    ",
    "    int GetValue() const \x7b",
    "        return value_;",
    "    \x7d",
    "    ",
    "private:",
    "    int value_;",
    "\x7d;",
    "",
    "void memoryLeaks() \x7b",
    "    // Memory leak: new without delete",
    "    int* ptr = new int[10];",
    "    ",
    "    // Memory leak: new without delete for object",
    "    Test* test = new Test(42);",
    "    ",
    "    // Memory leak: shared_ptr cycle",
    "    std::shared_ptr<Test> ptr1 = std::make_shared<Test>(10);",
    "    std::shared_ptr<Test> ptr2 = std::make_shared<Test>(20);",
    "    // Uncomment to create cycle: ptr1->SetNext(ptr2); ptr2->SetNext(ptr1);",
    "\x7d",
    "",
    "void unnecessaryCopies() \x7b",
    "    std::string str = \"Hello World\";",
    "    ",
    "    // Unnecessary copy: should use const reference",
    "    std::string copy = str;",
    "    ",
    "    // Unnecessary copy in loop",
    "    std::vector<int> vec(1000, 0);",
    "    for (int i = 0; i < vec.size(); i++) \x7b",
    "        int val = vec[i];  // Could use const reference for non-primitive types",
    "    \x7d",
    "\x7d",
    "",
    "void incorrectMemoryAccess() \x7b",
    "    int arr[5] = \x7b1, 2, 3, 4, 5\x7d;",
    "    ",
    "    // Out-of-bounds access",
    "    std::cout << arr[10] << std::endl;",
    "    ",
    "    // Null pointer dereference",
    "    Test* ptr = nullptr;",
    "    // std::cout << ptr->GetValue() << std::endl;  // Commented to avoid crash",
    "\x7d",
    "",
    "void inefficientCode() \x7b",
    "    // Inefficient string concatenation in loop",
    "    std::string result;",
    "    for (int i = 0; i < 1000; i++) \x7b",
    "        result += \"x\";",
    "    \x7d",
    "    ",
    "    // Inefficient use of vector",
    "    std::vector<int> vec;",
    "    for (int i = 0; i < 1000; i++) \x7b",
    "        vec.push_back(i);",
    "    \x7d",
    "    // Should use reserve upfront",
    "\x7d",
    "",
    "int main() \x7b",
    "    memoryLeaks();",
    "    unnecessaryCopies();",
    "    incorrectMemoryAccess();",
    "    inefficientCode();",
    "    ",
    "    return 0;",
    "\x7d"]

/-- The expected findings, by line. -/
def findings : List Finding := [
  .required "google-explicit-constructor" .google 10
    "Test(int value)"
    "single-argument constructor is not marked explicit",
  .required "clang-analyzer-cplusplus.NewDeleteLeaks" .clangAnalyzer 28
    "new int[10]"
    "array allocation is never released",
  .required "clang-diagnostic-unused-variable" .clangDiagnostic 28
    "int* ptr"
    "ptr is initialized but never used",
  .required "clang-analyzer-cplusplus.NewDeleteLeaks" .clangAnalyzer 31
    "new Test(42)"
    "object allocation is never released",
  .required "clang-diagnostic-unused-variable" .clangDiagnostic 31
    "Test* test"
    "test is initialized but never used",
  .required "performance-unnecessary-copy-initialization" .performance 43
    "std::string copy = str;"
    "local copy of a string that is never modified",
  .required "clang-diagnostic-sign-compare" .clangDiagnostic 47
    "i < vec.size()"
    "signed loop index compared with size_t",
  .required "clang-diagnostic-unused-variable" .clangDiagnostic 48
    "int val"
    "loop variable is never used",
  .required "clang-diagnostic-array-bounds" .clangDiagnostic 56
    "arr[10]"
    "constant index past the end of a five-element array",
  .required "clang-diagnostic-unused-variable" .clangDiagnostic 59
    "Test* ptr = nullptr;"
    "pointer is never used",
  .advisory "performance-inefficient-string-concatenation" .performance 67
    "result += \"x\";"
    "string grown one character at a time in a loop",
  .required "performance-inefficient-vector-operation" .performance 73
    "vec.push_back(i);"
    "push_back in a counted loop without reserve"]

/-- The defect comments without a finding. -/
def waivers : List Waiver := [
  ⟨33, "the shared_ptr cycle is only sketched; the SetNext calls are commented out"⟩]

def fixture : Fixture where
  name := "misc"
  fileName := "misc.cpp"
  summary := "Leaks, needless copies, out-of-bounds access and unreserved growth"
  categories := [.google, .clangAnalyzer, .performance, .clangDiagnostic]
  findings := findings
  waivers := waivers
  source := source

end LintCorpus.Embedded.Misc
