import LintCorpus.Text.Basic

/-!
Patterns over check names.  `?` stands for one character, `*` for any characters, `[ab-d]` and
`[!ab-d]` for one character in or outside a set, and `**` as a whole path component for any number
of components.  All other characters stand for themselves.

`Pattern.ofText?` reads a pattern or says where it is malformed, and `Pattern.accepts` decides
whether a text is one of those it describes.
-/

namespace LintCorpus.Glob

/-- One entry of a bracketed set. -/
inductive Range where
  | single (c : Char)
  | span (first last : Char)
deriving DecidableEq, Repr

/-- `c` is in the range, both ends included. -/
def Range.holds : Range → Char → Bool
  | .single a, c => c = a
  | .span first last, c => first ≤ c && c ≤ last

/-- A part of a pattern. -/
inductive Token where
  /-- A character that stands for itself. -/
  | literal (c : Char)
  /-- `?`: any one character. -/
  | anyOne
  | within (set : List Range)
  | outside (set : List Range)
  /-- `*`: any characters. -/
  | anyText
  /-- `**`: any number of whole path components. -/
  | anyComponents
deriving DecidableEq, Repr

/-- A pattern is the list of its parts. -/
abbrev Pattern := List Token

/-- What makes a text no pattern. -/
inductive Fault where
  /-- Three or more stars stand together. -/
  | wildcards
  /-- Two stars are not a whole path component. -/
  | recursiveWildcards
  /-- A bracket is not closed. -/
  | invalidRange
deriving DecidableEq, Repr

def Fault.text : Fault → String
  | .wildcards => "wildcards are either regular `*` or recursive `**`"
  | .recursiveWildcards => "recursive wildcards must form a single path component"
  | .invalidRange => "invalid range pattern"

/-- A fault and the position, counted in characters, near which it was noticed. -/
structure Malformed where
  position : Nat
  fault : Fault
deriving DecidableEq, Repr

/-- The report of a malformed pattern. -/
def Malformed.message (e : Malformed) : String :=
  "Pattern syntax error near position " ++ toString e.position ++ ": " ++ e.fault.text

/-- The entries of a bracketed set: `a-d` is a range, and a dash at either end is itself. -/
def ranges : List Char → List Range
  | first :: '-' :: last :: rest => .span first last :: ranges rest
  | c :: rest => .single c :: ranges rest
  | [] => []

/-- The text before the first closing bracket, and the text after it. -/
def closeBracket : List Char → Option (List Char × List Char) :=
  Text.cutAt [']']

/-- The set that opens behind a bracket, and the text behind the set.  The first character of a set
is never the bracket that closes it. -/
def bracket? : List Char → Option (Token × List Char)
  | '!' :: c :: rest =>
      (closeBracket rest).map fun p => (.outside (ranges (c :: p.1)), p.2)
  | '!' :: [] => none
  | c :: rest => (closeBracket rest).map fun p => (.within (ranges (c :: p.1)), p.2)
  | [] => none

/-- What follows the slash that ends a component, if the component ends here: with a slash, which
belongs to it, or with the pattern. -/
def componentEnd? : List Char → Option (List Char)
  | [] => some []
  | '/' :: rest => some rest
  | _ :: _ => none

theorem length_of_bracket? {cs : List Char} {p : Token × List Char} (h : bracket? cs = some p) :
    p.2.length < cs.length := by
  unfold bracket? at h
  split at h
  · obtain ⟨q, hq, rfl⟩ := Option.map_eq_some_iff.mp h
    have hle := Text.length_of_cutAt hq
    simp only [List.length_cons]
    omega
  · simp at h
  · obtain ⟨q, hq, rfl⟩ := Option.map_eq_some_iff.mp h
    have hle := Text.length_of_cutAt hq
    simp only [List.length_cons]
    omega
  · simp at h

theorem length_of_componentEnd? {cs rest : List Char} (h : componentEnd? cs = some rest) :
    rest.length ≤ cs.length := by
  unfold componentEnd? at h
  split at h <;> simp_all

/-- The parts of the text `cs`, which stands at `position` behind the character `previous`. -/
def tokens? (position : Nat) (previous : Option Char) (cs : List Char) :
    Except Malformed (List Token) :=
  match cs with
  | [] => .ok []
  | '?' :: rest => do
      let more ← tokens? (position + 1) (some '?') rest
      return .anyOne :: more
  | '*' :: '*' :: '*' :: _ => .error ⟨position + 2, .wildcards⟩
  | '*' :: '*' :: rest =>
      if previous = none ∨ previous = some '/' then
        match h : componentEnd? rest with
        | some behind => do
            let more ← tokens? (position + 2 + (rest.length - behind.length)) (some '/') behind
            return .anyComponents :: more
        | none => .error ⟨position + 2, .recursiveWildcards⟩
      else .error ⟨position - 1, .recursiveWildcards⟩
  | '*' :: rest => do
      let more ← tokens? (position + 1) (some '*') rest
      return .anyText :: more
  | '[' :: rest =>
      match h : bracket? rest with
      | some (token, behind) => do
          let more ← tokens? (position + 1 + (rest.length - behind.length)) (some ']') behind
          return token :: more
      | none => .error ⟨position, .invalidRange⟩
  | c :: rest => do
      let more ← tokens? (position + 1) (some c) rest
      return .literal c :: more
termination_by cs.length
decreasing_by
  all_goals simp only [List.length_cons]
  all_goals first
    | omega
    | (have hl := length_of_componentEnd? h; omega)
    | (have hl := length_of_bracket? h; simp only at hl; omega)

def Pattern.ofText? (text : String) : Except Malformed Pattern :=
  tokens? 0 none text.toList

/-- How an attempt to match ended. -/
inductive Outcome where
  | matched
  | mismatch
  /-- The text ended while the pattern still asked for a character, so no shorter text can match. -/
  | exhausted
deriving DecidableEq, Repr

/-- The second attempt, unless the first one settled the matter. -/
def Outcome.orElse : Outcome → (Unit → Outcome) → Outcome
  | .mismatch, next => next ()
  | settled, _ => settled

/-- Tries each rest of the text, the longest first. -/
def tryRests (attempt : List Char → Outcome) : List Char → Outcome
  | [] => attempt []
  | c :: cs => (attempt (c :: cs)).orElse fun _ => tryRests attempt cs

/-- Tries the rest behind each slash, the longest first, and at last the empty one. -/
def tryBehindSlashes (attempt : List Char → Outcome) : List Char → Outcome
  | [] => attempt []
  | c :: cs =>
      if c = '/' then (attempt cs).orElse fun _ => tryBehindSlashes attempt cs
      else tryBehindSlashes attempt cs

/-- The first character has to satisfy `p`, and what follows it the attempt. -/
def tryOne (p : Char → Bool) (attempt : List Char → Outcome) : List Char → Outcome
  | [] => .exhausted
  | c :: cs => if p c then attempt cs else .mismatch

/-- Matches a whole text against a pattern. -/
def run : Pattern → List Char → Outcome
  | [], [] => .matched
  | [], _ :: _ => .mismatch
  | .literal a :: rest, cs => tryOne (· = a) (run rest) cs
  | .anyOne :: rest, cs => tryOne (fun _ => true) (run rest) cs
  | .within set :: rest, cs => tryOne (fun c => set.any (·.holds c)) (run rest) cs
  | .outside set :: rest, cs => tryOne (fun c => !set.any (·.holds c)) (run rest) cs
  | .anyText :: rest, cs => tryRests (run rest) cs
  | .anyComponents :: rest, cs =>
      (run rest cs).orElse fun _ => tryBehindSlashes (run rest) cs

def Pattern.accepts (pattern : Pattern) (text : String) : Bool :=
  run pattern text.toList = .matched

/-- The rule `rule` covers the check name `check`: as a pattern, or word for word when the rule is
no pattern. -/
def covers (rule check : String) : Bool :=
  match Pattern.ofText? rule with
  | .ok pattern => pattern.accepts check
  | .error _ => rule = check

end LintCorpus.Glob
