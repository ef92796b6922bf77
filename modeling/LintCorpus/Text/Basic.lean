/-!
Texts as lists of characters: their bytes in UTF-8, their lines, their lower case, and the search
for a needle or a mark in them.

A text is cut into lines after each line feed, and a carriage return that stands directly before the
line feed belongs to the terminator.  What follows the last line feed is a line unless it is empty.

The lower case is as much of it as a comparison with ASCII words can tell.  Beside `A` to `Z` only
two characters have an ASCII letter in their lower case: the Kelvin sign, whose lower case is `k`,
and the capital dotted I, whose lower case is `i` with a combining dot.  All others are left as they
are.
-/

namespace LintCorpus.Text

/-- The UTF-8 bytes of characters. -/
def bytesOf (cs : List Char) : List UInt8 :=
  cs.flatMap String.utf8EncodeChar

/-- The number of UTF-8 bytes of characters. -/
def byteLength (cs : List Char) : Nat :=
  (cs.map Char.utf8Size).foldr (· + ·) 0

/-- The lines of a text, without their terminators. -/
def lines : List Char → List (List Char)
  | [] => []
  | '\n' :: rest => [] :: lines rest
  | '\r' :: '\n' :: rest => [] :: lines rest
  | c :: rest =>
      match lines rest with
      | [] => [[c]]
      | line :: more => (c :: line) :: more

/-- Every line followed by a line feed. -/
def unlines (ls : List String) : String :=
  ls.foldr (fun line rest => line ++ "\n" ++ rest) ""

/-- The lower case of one character. -/
def lowerChar (c : Char) : List Char :=
  if c.toNat = 0x212A then ['k']
  else if c.toNat = 0x130 then ['i', Char.ofNat 0x307]
  else [c.toLower]

/-- The lower case of a text. -/
def lowercase (cs : List Char) : List Char :=
  cs.flatMap lowerChar

/-- The lower case of the ASCII letters of a text alone. -/
def lowercaseAscii (cs : List Char) : List Char :=
  cs.map Char.toLower

def occursIn (needle : List Char) : List Char → Bool
  | [] => needle.isPrefixOf []
  | c :: cs => needle.isPrefixOf (c :: cs) || occursIn needle cs

theorem occursIn_iff {needle cs : List Char} : occursIn needle cs = true ↔ needle <:+: cs := by
  induction cs with
  | nil => rw [occursIn, List.isPrefixOf_iff_prefix, List.prefix_nil, List.infix_nil]
  | cons c cs ih =>
      rw [occursIn, Bool.or_eq_true, List.isPrefixOf_iff_prefix, ih, List.infix_cons_iff]

/-- What stands before and after the first occurrence of `mark`. -/
def cutAt (mark : List Char) : List Char → Option (List Char × List Char)
  | [] => (mark.isPrefixOf? []).map fun rest => ([], rest)
  | c :: cs =>
      match mark.isPrefixOf? (c :: cs) with
      | some rest => some ([], rest)
      | none => (cutAt mark cs).map fun p => (c :: p.1, p.2)

theorem length_of_isPrefixOf? {front cs rest : List Char} (h : front.isPrefixOf? cs = some rest) :
    rest.length ≤ cs.length := by
  induction front generalizing cs with
  | nil =>
      obtain rfl := Option.some.inj h
      exact Nat.le_refl _
  | cons f front ih =>
      cases cs with
      | nil => cases h
      | cons c cs =>
          change (if f == c then front.isPrefixOf? cs else none) = some rest at h
          split at h
          · exact Nat.le_succ_of_le (ih h)
          · cases h

theorem length_of_cutAt {mark cs : List Char} {p : List Char × List Char}
    (h : cutAt mark cs = some p) : p.2.length ≤ cs.length := by
  induction cs generalizing p with
  | nil =>
      obtain ⟨rest, hrest, rfl⟩ := Option.map_eq_some_iff.mp h
      exact length_of_isPrefixOf? hrest
  | cons c cs ih =>
      rw [cutAt] at h
      split at h
      · rename_i rest hrest
        obtain rfl := Option.some.inj h
        exact length_of_isPrefixOf? hrest
      · obtain ⟨q, hcut, rfl⟩ := Option.map_eq_some_iff.mp h
        have hle : q.2.length ≤ cs.length := ih hcut
        exact Nat.le_succ_of_le hle

/-- What follows the last character that satisfies `p`, or all of `cs` when none does. -/
def afterLast (p : Char → Bool) (cs : List Char) : List Char :=
  (cs.reverse.takeWhile fun c => !p c).reverse

end LintCorpus.Text
