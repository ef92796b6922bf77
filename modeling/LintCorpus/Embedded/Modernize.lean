import LintCorpus.Fixture.Basic

/-!
The fixture `modernize`.  Pre-C++11 idioms with modern replacements.
-/

namespace LintCorpus.Embedded.Modernize

def source : String :=
  Text.unlines [
    "// Test file with modern C++ usage issues",
    "",
    "#include <iostream>",
    "#include <vector>",
    "#include <string>",
    "#include <memory>",
    "#include <algorithm>",
    "",
    "// C++11: Use of raw pointers instead of smart pointers",
    "void rawPointers() \x7b",
    "    int* ptr = new int(42);",
    "    ",
    "    std::cout << *ptr << std::endl;",
    "    ",
    "    delete ptr;  // Manual memory management",
    "\x7d",
    "",
    "// C++11: Use of auto keyword",
    "void noAutoKeyword() \x7b",
    "    std::vector<int> vec = \x7b1, 2, 3, 4, 5\x7d;",
    "    ",
    "    // Should use auto",
    "    for (std::vector<int>::iterator it = vec.begin(); it != vec.end(); ++it) \x7b",
    "        std::cout << *it << std::endl;",
    "    \x7d",
    "\x7d",
    "",
    "// C++11: Range-based for loops",
    "void noRangeBasedFor() \x7b",
    "    int arr[] = \x7b1, 2, 3, 4, 5\x7d;",
    "    ",
    "    // Should use range-based for loop",
    "    for (int i = 0; i < 5; ++i) \x7b",
    "        std::cout << arr[i] << std::endl;",
    "    \x7d",
    "\x7d",
    "",
    "// C++11: nullptr instead of NULL",
    "void useOfNULL() \x7b",
    "    int* ptr = NULL;  // Should use nullptr",
    "    ",
    "    if (ptr == NULL) \x7b  // Should use nullptr",
    "        std::cout << \"ptr is NULL\" << std::endl;",
    "    \x7d",
    "\x7d",
    "",
    "// C++11: Use of initializer lists",
    "void noInitializerLists() \x7b",
    "    std::vector<int> vec;",
    "    vec.push_back(1);",
    "    vec.push_back(2);",
    "    vec.push_back(3);",
    "    vec.push_back(4);",
    "    vec.push_back(5);",
    "    ",
    "    // Should use initializer list: std::vector<int> vec = \x7b1, 2, 3, 4, 5\x7d;",
    "\x7d",
    "",
    "// C++14: Use of auto for return type deduction",
    "std::vector<int> createVector() \x7b",
    "    std::vector<int> vec = \x7b1, 2, 3, 4, 5\x7d;",
    "    return vec;",
    "\x7d",
    "",
    "void noReturnTypeDeduction() \x7b",
    "    std::vector<int> vec = createVector();  // Could use auto",
    "    ",
    "    for (auto it = vec.begin(); it != vec.end(); ++it) \x7b",
    "        std::cout << *it << std::endl;",
    "    \x7d",
    "\x7d",
    "",
    "// C++17: Use of structured bindings",
    "void noStructuredBindings() \x7b",
    "    std::pair<int, std::string> p = \x7b1, \"test\"\x7d;",
    "    ",
    "    // Should use structured bindings: auto [x, s] = p;",
    "    std::cout << p.first << \": \" << p.second << std::endl;",
    "\x7d",
    "",
    "int main() \x7b",
    "    rawPointers();",
    "    noAutoKeyword();",
    "    noRangeBasedFor();",
    "    useOfNULL();",
    "    noInitializerLists();",
    "    noReturnTypeDeduction();",
    "    noStructuredBindings();",
    "    ",
    "    return 0;",
    "\x7d"]

/-- The expected findings, by line. -/
def findings : List Finding := [
  .required "cppcoreguidelines-owning-memory" .cppCoreGuidelines 11
    "new int(42)"
    "owning raw pointer initialized with new",
  .required "cppcoreguidelines-owning-memory" .cppCoreGuidelines 15
    "delete ptr;"
    "delete applied to a pointer not marked gsl::owner",
  .required "modernize-use-auto" .modernize 23
    "std::vector<int>::iterator it"
    "spelled-out iterator type where auto fits",
  .required "modernize-loop-convert" .modernize 23
    "for (std::vector<int>::iterator it"
    "iterator loop replaceable by a range-based for",
  .required "modernize-loop-convert" .modernize 33
    "for (int i = 0; i < 5; ++i)"
    "index loop over an array replaceable by a range-based for",
  .required "modernize-use-nullptr" .modernize 40
    "NULL"
    "NULL used to initialize a pointer",
  .required "modernize-use-nullptr" .modernize 42
    "ptr == NULL"
    "NULL used in a pointer comparison",
  .advisory "modernize-*" .modernize 50
    "vec.push_back(1);"
    "sequence of push_back calls instead of an initializer list",
  .advisory "modernize-use-auto" .modernize 66
    "std::vector<int> vec = createVector();"
    "declared type repeats the initializer's type",
  .required "modernize-loop-convert" .modernize 68
    "for (auto it = vec.begin()"
    "iterator loop replaceable by a range-based for",
  .advisory "modernize-*" .modernize 78
    "p.first << \": \" << p.second"
    "pair members read through first and second instead of structured bindings"]

def fixture : Fixture where
  name := "modernize"
  fileName := "modernize.cpp"
  summary := "Pre-C++11 idioms with modern replacements"
  categories := [.cppCoreGuidelines, .modernize]
  findings := findings
  waivers := []
  source := source

end LintCorpus.Embedded.Modernize
