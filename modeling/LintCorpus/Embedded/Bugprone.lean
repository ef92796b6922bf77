import LintCorpus.Fixture.Basic

/-!
The fixture `bugprone`.  Bug-prone patterns: misuse of new/delete, undefined behavior, mixed
signedness.
-/

namespace LintCorpus.Embedded.Bugprone

def source : String :=
  Text.unlines [
    "// Test file with bug-prone code patterns",
    "",
    "#include <iostream>",
    "#include <string>",
    "#include <vector>",
    "",
    "// Bug-prone: assignment in condition",
    "void assignmentInCondition() \x7b",
    "    int x = 10;",
    "    int y = 20;",
    "    ",
    "    if (x = y) \x7b  // Oops! Assignment instead of equality",
    "        std::cout << \"x is true\" << std::endl;",
    "    \x7d",
    "\x7d",
    "",
    "// Bug-prone: using pointer after delete",
    "void useAfterDelete() \x7b",
    "    int* ptr = new int(42);",
    "    delete ptr;",
    "    ",
    "    // Using pointer after delete",
    "    std::cout << *ptr << std::endl;  // Undefined behavior",
    "\x7d",
    "",
    "// Bug-prone: incorrect deallocation",
    "void incorrectDeallocation() \x7b",
    "    int* ptr = new int[10];",
    "    delete ptr;  // Should be delete[]",
    "\x7d",
    "",
    "// Bug-prone: off-by-one error",
    "void offByOneError() \x7b",
    "    int arr[5] = \x7b1, 2, 3, 4, 5\x7d;",
    "    ",
    "    // Loop runs from 0 to 5 (inclusive), but array only has indexes 0-4",
    "    for (int i = 0; i <= 5; ++i) \x7b",
    "        std::cout << arr[i] << std::endl;  // Out-of-bounds access",
    "    \x7d",
    "\x7d",
    "",
    "// Bug-prone: uninitialized variable",
    "void uninitializedVariable() \x7b",
    "    int x;",
    "    ",
    "    // Using uninitialized variable",
    "    std::cout << x << std::endl;  // Undefined behavior",
    "\x7d",
    "",
    "// Bug-prone: null pointer dereference",
    "void nullPointerDereference() \x7b",
    "    int* ptr = nullptr;",
    "    ",
    "    // Dereferencing null pointer",
    "    *ptr = 42;  // Undefined behavior",
    "\x7d",
    "",
    "// Bug-prone: integer overflow",
    "void integerOverflow() \x7b",
    "    int max = 2147483647;",
    "    int overflow = max + 1;  // Undefined behavior",
    "    ",
    "    std::cout << \"Overflow result: \" << overflow << std::endl;",
    "\x7d",
    "",
    "// Bug-prone: mixing signed and unsigned",
    "void mixingSignedUnsigned() \x7b",
    "    int signedInt = -1;",
    "    unsigned int unsignedInt = 1;",
    "    ",
    "    // Comparison between signed and unsigned",
    "    if (signedInt < unsignedInt) \x7b",
    "        std::cout << \"-1 < 1\" << std::endl;",
    "    \x7d else \x7b",
    "        std::cout << \"-1 >= 1\" << std::endl;  // This will be true due to promotion",
    "    \x7d",
    "\x7d",
    "",
    "int main() \x7b",
    "    assignmentInCondition();",
    "    // useAfterDelete();  // Commented to avoid crash",
    "    incorrectDeallocation();",
    "    offByOneError();",
    "    uninitializedVariable();",
    "    // nullPointerDereference();  // Commented to avoid crash",
    "    integerOverflow();",
    "    mixingSignedUnsigned();",
    "    ",
    "    return 0;",
    "\x7d"]

/-- The expected findings, by line. -/
def findings : List Finding := [
  .required "bugprone-assignment-in-if-condition" .bugprone 12
    "if (x = y)"
    "assignment used as an if condition",
  .required "clang-analyzer-cplusplus.NewDelete" .clangAnalyzer 23
    "*ptr"
    "pointer dereferenced after delete",
  .required "clang-diagnostic-mismatched-new-delete" .clangDiagnostic 29
    "delete ptr;"
    "array allocated with new[] released with scalar delete",
  .advisory "clang-analyzer-*" .clangAnalyzer 38
    "arr[i]"
    "loop reads arr[5] on its final iteration",
  .required "cppcoreguidelines-init-variables" .cppCoreGuidelines 44
    "int x;"
    "local variable declared without an initializer",
  .advisory "clang-analyzer-core.*" .clangAnalyzer 47
    "std::cout << x"
    "uninitialized value passed to operator<<",
  .required "clang-analyzer-core.NullDereference" .clangAnalyzer 55
    "*ptr = 42;"
    "store through a null pointer",
  .advisory "clang-analyzer-*" .clangAnalyzer 61
    "max + 1"
    "signed addition overflows INT_MAX",
  .required "clang-diagnostic-sign-compare" .clangDiagnostic 72
    "signedInt < unsignedInt"
    "comparison between signed and unsigned integers"]

def fixture : Fixture where
  name := "bugprone"
  fileName := "bugprone.cpp"
  summary := "Bug-prone patterns: misuse of new/delete, undefined behavior, mixed signedness"
  categories := [.bugprone, .clangAnalyzer, .clangDiagnostic, .cppCoreGuidelines]
  findings := findings
  waivers := []
  source := source

end LintCorpus.Embedded.Bugprone
