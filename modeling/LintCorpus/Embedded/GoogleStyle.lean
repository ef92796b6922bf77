import LintCorpus.Fixture.Basic

/-!
The fixture `google_style`.  Google C++ style guide violations: naming, implicit constructors,
casts.
-/

namespace LintCorpus.Embedded.GoogleStyle

def source : String :=
  Text.unlines [
    "// Test file with Google C++ Style Guide violations",
    "",
    "#include <iostream>",
    "#include <string>",
    "#include <vector>",
    "",
    "// Bad naming: should be CamelCase",
    "class my_class \x7b",
    "public:",
    "    // Bad naming: should be lowercase with underscores",
    "    int MyVariable;  // Should be my_variable",
    "    ",
    "    // Missing explicit return type (void)",
    "    my_class(int value) \x7b",
    "        MyVariable = value;",
    "    \x7d",
    "    ",
    "    // Missing virtual destructor for base class",
    "    ~my_class() \x7b",
    "        // Empty destructor",
    "    \x7d",
    "    ",
    "    // Bad naming: should be lowercase with underscores",
    "    void MyMethod(int Param1, const std::string &Param2) \x7b",
    "        std::cout << \"Value: \" << MyVariable << std::endl;",
    "        std::cout << \"Param1: \" << Param1 << std::endl;",
    "        std::cout << \"Param2: \" << Param2 << std::endl;",
    "    \x7d",
    "\x7d;",
    "",
    "// Bad naming: should be CamelCase",
    "void my_function() \x7b",
    "    // Magic number: should use a named constant",
    "    int max_size = 100;",
    "    ",
    "    // Bad spacing",
    "    std::vector<int> vec;",
    "    for(int i=0;i<max_size;i++) \x7b",
    "        vec.push_back(i);",
    "    \x7d",
    "    ",
    "    // C-style cast: should use static_cast",
    "    double d = 3.14;",
    "    int i = (int)d;",
    "    ",
    "    // C-style variable declaration",
    "    int a,b,c;",
    "\x7d",
    "",
    "int main() \x7b",
    "    my_class obj(42);",
    "    obj.MyMethod(10, \"test\");",
    "    ",
    "    my_function();",
    "    ",
    "    return 0;",
    "\x7d"]

/-- The expected findings, by line. -/
def findings : List Finding := [
  .advisory "readability-identifier-naming" .readability 8
    "class my_class"
    "class name is not CamelCase",
  .required "misc-non-private-member-variables-in-classes" .misc 11
    "int MyVariable;"
    "public data member in a class with member functions",
  .required "google-explicit-constructor" .google 14
    "my_class(int value)"
    "single-argument constructor is not marked explicit",
  .advisory "cppcoreguidelines-virtual-class-destructor" .cppCoreGuidelines 19
    "~my_class()"
    "destructor of a would-be base class is not virtual",
  .advisory "readability-identifier-naming" .readability 24
    "MyMethod"
    "method and parameter names are not lower_case",
  .advisory "readability-identifier-naming" .readability 32
    "my_function"
    "free function name is not CamelCase",
  .required "readability-magic-numbers" .readability 34
    "100"
    "magic number used as a size limit",
  .advisory "readability-*" .readability 38
    "for(int i=0;i<max_size;i++)"
    "no spaces around the for keyword, separators and operators",
  .required "google-readability-casting" .google 44
    "(int)d"
    "C-style cast instead of static_cast",
  .required "clang-diagnostic-unused-variable" .clangDiagnostic 44
    "int i"
    "i is initialized but never used",
  .required "readability-isolate-declaration" .readability 47
    "int a,b,c;"
    "multiple declarations in a single statement",
  .required "clang-diagnostic-unused-variable" .clangDiagnostic 47
    "int a,b,c;"
    "a, b and c are declared but never used"]

def fixture : Fixture where
  name := "google_style"
  fileName := "google_style.cpp"
  summary := "Google C++ style guide violations: naming, implicit constructors, casts"
  categories := [.readability, .misc, .google, .cppCoreGuidelines, .clangDiagnostic]
  findings := findings
  waivers := []
  source := source

end LintCorpus.Embedded.GoogleStyle
