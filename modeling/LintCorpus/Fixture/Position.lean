import LintCorpus.Fixture.Basic
import LintCorpus.Text.Numeral

/-!
Positions: the line and the column of a byte offset, both counted from one, the column in bytes.
They are told in words of 32 bits, in which a number that is too large begins at zero again.
-/

namespace LintCorpus

/-- A place in a source. -/
structure Position where
  line : Nat
  column : Nat
deriving DecidableEq, Repr

namespace Position

/-- The place before all text. -/
def start : Position := ⟨1, 1⟩

/-- The place behind one more byte: a line feed opens a line, every other byte a column. -/
def next (place : Position) (byte : UInt8) : Position :=
  if byte = 10 then ⟨place.line + 1, 1⟩ else ⟨place.line, place.column + 1⟩

/-- The place behind the bytes. -/
def behind (bytes : List UInt8) : Position :=
  bytes.foldl next start

/-- The place in words of 32 bits. -/
def inWords (place : Position) : Position :=
  ⟨place.line % (Text.maxPosition + 1), place.column % (Text.maxPosition + 1)⟩

theorem inWords_le (place : Position) :
    place.inWords.line ≤ Text.maxPosition ∧ place.inWords.column ≤ Text.maxPosition :=
  ⟨Nat.le_of_lt_succ (Nat.mod_lt _ (Nat.succ_pos _)),
    Nat.le_of_lt_succ (Nat.mod_lt _ (Nat.succ_pos _))⟩

theorem inWords_of_le {place : Position} (hline : place.line ≤ Text.maxPosition)
    (hcolumn : place.column ≤ Text.maxPosition) : place.inWords = place := by
  rw [inWords, Nat.mod_eq_of_lt (Nat.lt_succ_of_le hline),
    Nat.mod_eq_of_lt (Nat.lt_succ_of_le hcolumn)]

/-- Bytes that are no line feeds open columns. -/
theorem foldl_next_of_feed_not_mem {bytes : List UInt8} (hbytes : 10 ∉ bytes) (place : Position) :
    bytes.foldl next place = ⟨place.line, place.column + bytes.length⟩ := by
  induction bytes generalizing place with
  | nil => rfl
  | cons byte bytes ih =>
      obtain ⟨hbyte, hbytes⟩ := not_or.mp (mt List.mem_cons.mpr hbytes)
      rw [List.foldl_cons, ih hbytes, next, if_neg (Ne.symm hbyte), List.length_cons]
      simp only [Position.mk.injEq, true_and]
      omega

/-- Where the lines are counted from does not matter for the columns. -/
theorem foldl_next_add_line (bytes : List UInt8) (line column more : Nat) :
    bytes.foldl next ⟨line + more, column⟩ =
      ⟨(bytes.foldl next ⟨line, column⟩).line + more,
        (bytes.foldl next ⟨line, column⟩).column⟩ := by
  induction bytes generalizing line column with
  | nil => rfl
  | cons byte bytes ih =>
      rw [List.foldl_cons, List.foldl_cons, next, next]
      split
      · rw [Nat.add_right_comm, ih]
      · rw [ih]

end Position

namespace Fixture

/-- The bytes of the source. -/
def bytes (fixture : Fixture) : List UInt8 :=
  Text.bytesOf fixture.source.toList

/-- The place of a byte offset into the source; there is none behind the source's end. -/
def positionOf? (fixture : Fixture) (offset : Nat) : Option Position :=
  let bytes := fixture.bytes
  if offset ≤ bytes.length then some (Position.behind (bytes.take offset)).inWords else none

variable {fixture : Fixture} {offset : Nat}

theorem positionOf?_eq_none_iff :
    fixture.positionOf? offset = none ↔ fixture.bytes.length < offset := by
  rw [positionOf?, ← Nat.not_le]
  exact ite_eq_right_iff.trans (by simp)

theorem positionOf?_le {place : Position} (hplace : fixture.positionOf? offset = some place) :
    place.line ≤ Text.maxPosition ∧ place.column ≤ Text.maxPosition := by
  obtain ⟨-, hbehind⟩ := Option.ite_none_right_eq_some.mp hplace
  obtain rfl := Option.some.inj hbehind
  exact Position.inWords_le _

end Fixture

end LintCorpus
