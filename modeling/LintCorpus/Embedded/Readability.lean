import LintCorpus.Fixture.Basic

/-!
The fixture `readability`.  Hard-to-read code: long parameter lists, deep nesting, magic numbers,
terse names.
-/

namespace LintCorpus.Embedded.Readability

def source : String :=
  Text.unlines [
    "// Test file with readability issues",
    "",
    "#include <iostream>",
    "#include <string>",
    "#include <vector>",
    "",
    "// Function with too many parameters",
    "void complexFunction(int a, int b, int c, int d, int e, int f, int g, int h) \x7b",
    "    // Too many parameters makes the function hard to read",
    "    std::cout << a + b + c + d + e + f + g + h << std::endl;",
    "\x7d",
    "",
    "// Function that is too long",
    "void longFunction() \x7b",
    "    int x = 1;",
    "    int y = 2;",
    "    int z = x + y;",
    "    ",
    "    if (x > 0) \x7b",
    "        if (y > 0) \x7b",
    "            if (z > 0) \x7b",
    "                std::cout << \"All positive\" << std::endl;",
    "            \x7d else \x7b",
    "                std::cout << \"z is not positive\" << std::endl;",
    "            \x7d",
    "        \x7d else \x7b",
    "            std::cout << \"y is not positive\" << std::endl;",
    "        \x7d",
    "    \x7d else \x7b",
    "        std::cout << \"x is not positive\" << std::endl;",
    "    \x7d",
    "    ",
    "    for (int i = 0; i < 10; i++) \x7b",
    "        for (int j = 0; j < 10; j++) \x7b",
    "            for (int k = 0; k < 10; k++) \x7b",
    "                std::cout << i * j * k << std::endl;",
    "            \x7d",
    "        \x7d",
    "    \x7d",
    "\x7d",
    "",
    "// Magic numbers without explanation",
    "void magicNumbers() \x7b",
    "    int array[1024];  // What's special about 1024?",
    "    ",
    "    for (int i = 0; i < 1024; i++) \x7b",
    "        array[i] = i * 256;  // What's special about 256?",
    "    \x7d",
    "\x7d",
    "",
    "// Poorly formatted code",
    "void poorFormatting() \x7b",
    "    int a=1,b=2,c=3;if(a>b)if(b>c)std::cout<<\"a>b>c\"<<std::endl;else std::cout<<\"a>b<=c\"<<std::endl;else std::cout<<\"a<=b\"<<std::endl;",
    "\x7d",
    "",
    "// Unclear variable names",
    "void unclearNames() \x7b",
    "    int x = 10;  // What does x represent?",
    "    int y = 20;  // What does y represent?",
    "    int z = x + y;  // What does z represent?",
    "    ",
    "    std::cout << z << std::endl;",
    "\x7d",
    "",
    "// Nested ternary operators",
    "void nestedTernary() \x7b",
    "    int a = 1, b = 2, c = 3, d = 4;",
    "    int result = a > b ? (c > d ? c : d) : (a > c ? a : c);",
    "    ",
    "    std::cout << result << std::endl;",
    "\x7d",
    "",
    "int main() \x7b",
    "    complexFunction(1, 2, 3, 4, 5, 6, 7, 8);",
    "    longFunction();",
    "    magicNumbers();",
    "    poorFormatting();",
    "    unclearNames();",
    "    nestedTernary();",
    "    ",
    "    return 0;",
    "\x7d"]

/-- The expected findings, by line. -/
def findings : List Finding := [
  .advisory "readability-function-size" .readability 8
    "complexFunction"
    "function takes eight parameters",
  .advisory "readability-function-cognitive-complexity" .readability 14
    "longFunction"
    "deeply nested conditionals and loops",
  .required "readability-magic-numbers" .readability 44
    "1024"
    "unexplained array size",
  .required "readability-magic-numbers" .readability 47
    "256"
    "unexplained multiplier",
  .required "readability-isolate-declaration" .readability 53
    "int a=1,b=2,c=3;"
    "multiple declarations in a single statement",
  .required "readability-braces-around-statements" .readability 53
    "if(a>b)if(b>c)"
    "nested if statements without braces",
  .required "readability-identifier-length" .readability 58
    "int x = 10;"
    "single-letter variable name",
  .required "readability-identifier-length" .readability 59
    "int y = 20;"
    "single-letter variable name",
  .required "readability-identifier-length" .readability 60
    "int z = x + y;"
    "single-letter variable name",
  .required "readability-isolate-declaration" .readability 67
    "int a = 1, b = 2, c = 3, d = 4;"
    "multiple declarations in a single statement",
  .advisory "readability-avoid-nested-conditional-operator" .readability 68
    "? (c > d ? c : d) :"
    "conditional operator nested inside another"]

def fixture : Fixture where
  name := "readability"
  fileName := "readability.cpp"
  summary := "Hard-to-read code: long parameter lists, deep nesting, magic numbers, terse names"
  categories := [.readability]
  findings := findings
  waivers := []
  source := source

end LintCorpus.Embedded.Readability
