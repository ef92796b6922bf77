import LintCorpus.Fixture.Position
import LintCorpus.Proofs.Text.Bytes
import LintCorpus.Proofs.Text.Lines

/-!
Offsets and lines.  A place is counted along the bytes of a source, and the lines of the source are
cut out of its characters, without their terminators.  Both cuts are made at the line feeds, so an
offset stands as far into its line as its place says, unless a number of the place does not fit into
a word (`Fixture.place_locates_offset`).

`Text.StandsAt` says where an offset stands, by recursion on the lines of a text; what a place has
to do with segments and with lines follows from it by induction.
-/

namespace LintCorpus

namespace Text

/-- `StandsAt cs offset index depth` says that the byte offset `offset` into `cs` has `index` line
feeds before it, and `depth` bytes between the last of them and itself. -/
inductive StandsAt : List Char → (offset index depth : Nat) → Prop where
  /-- The offset stands in a text without line feeds. -/
  | inLast {last : List Char} {depth : Nat} (hlast : '\n' ∉ last)
      (hdepth : depth ≤ (bytesOf last).length) : StandsAt last depth 0 depth
  /-- The offset stands in the first line or at its line feed. -/
  | inFirst {first rest : List Char} {depth : Nat} (hfirst : '\n' ∉ first)
      (hdepth : depth ≤ (bytesOf first).length) : StandsAt (first ++ '\n' :: rest) depth 0 depth
  /-- The offset stands behind the first line feed. -/
  | later {first rest : List Char} {offset index depth : Nat} (hfirst : '\n' ∉ first)
      (hrest : StandsAt rest offset index depth) :
      StandsAt (first ++ '\n' :: rest) ((bytesOf first).length + 1 + offset) (index + 1) depth

theorem bytesOf_append_feed (first rest : List Char) :
    bytesOf (first ++ '\n' :: rest) = bytesOf first ++ 10 :: bytesOf rest :=
  bytesOf_append first ('\n' :: rest)

theorem length_bytesOf_append_feed (first rest : List Char) :
    (bytesOf (first ++ '\n' :: rest)).length =
      (bytesOf first).length + 1 + (bytesOf rest).length := by
  rw [bytesOf_append_feed, List.length_append, List.length_cons]
  omega

/-- What stands before an offset behind the first line feed. -/
theorem take_below (first rest : List Char) (offset : Nat) :
    (bytesOf (first ++ '\n' :: rest)).take ((bytesOf first).length + 1 + offset) =
      bytesOf first ++ 10 :: (bytesOf rest).take offset := by
  rw [bytesOf_append_feed, Nat.add_assoc, List.take_length_add_append, Nat.add_comm 1,
    List.take_succ_cons]

theorem feed_not_mem_take {cs : List Char} (hcs : '\n' ∉ cs) (n : Nat) :
    10 ∉ (bytesOf cs).take n :=
  fun hmem => feed_not_mem_bytesOf hcs (List.mem_of_mem_take hmem)

theorem splitOn_append_feed {first : List Char} (hfirst : '\n' ∉ first) (rest : List Char) :
    (bytesOf (first ++ '\n' :: rest)).splitOn 10 =
      bytesOf first :: (bytesOf rest).splitOn 10 := by
  rw [bytesOf_append_feed,
    List.splitOn_append_cons_self_of_not_mem (feed_not_mem_bytesOf hfirst)]

theorem exists_standsAt {cs : List Char} {offset : Nat} (hoffset : offset ≤ (bytesOf cs).length) :
    ∃ index depth, StandsAt cs offset index depth := by
  induction cs using induction_on_lines generalizing offset with
  | last last hlast => exact ⟨0, offset, .inLast hlast hoffset⟩
  | line first rest hfirst ih =>
      by_cases hle : offset ≤ (bytesOf first).length
      · exact ⟨0, offset, .inFirst hfirst hle⟩
      · obtain ⟨more, rfl⟩ := Nat.exists_eq_add_of_lt (Nat.lt_of_not_le hle)
        rw [length_bytesOf_append_feed] at hoffset
        have hmore : more ≤ (bytesOf rest).length := by omega
        obtain ⟨index, depth, hrest⟩ := ih hmore
        refine ⟨index + 1, depth, ?_⟩
        rw [Nat.add_right_comm]
        exact .later hfirst hrest

namespace StandsAt

variable {cs : List Char} {offset index depth : Nat}

theorem offset_le (hstands : StandsAt cs offset index depth) : offset ≤ (bytesOf cs).length := by
  induction hstands with
  | inLast _ hdepth => exact hdepth
  | inFirst _ hdepth =>
      rw [length_bytesOf_append_feed]
      omega
  | later _ _ ih =>
      rw [length_bytesOf_append_feed]
      omega

/-- As many line feeds are before the offset as lines. -/
theorem count_take (hstands : StandsAt cs offset index depth) :
    ((bytesOf cs).take offset).count 10 = index := by
  induction hstands with
  | inLast hlast _ => exact List.count_eq_zero.mpr (feed_not_mem_take hlast _)
  | inFirst hfirst hdepth =>
      rw [bytesOf_append_feed, List.take_append_of_le_length hdepth]
      exact List.count_eq_zero.mpr (feed_not_mem_take hfirst _)
  | later hfirst _ ih =>
      rw [take_below, List.count_append, List.count_cons_self, ih,
        List.count_eq_zero.mpr (feed_not_mem_bytesOf hfirst), Nat.zero_add]

theorem index_add_depth_le (hstands : StandsAt cs offset index depth) : index + depth ≤ offset := by
  induction hstands with
  | inLast => exact Nat.le_of_eq (Nat.zero_add _)
  | inFirst => exact Nat.le_of_eq (Nat.zero_add _)
  | later _ _ ih => omega

/-- The offset is its own depth when no line feed is before it. -/
theorem depth_eq_offset_iff (hstands : StandsAt cs offset index depth) :
    depth = offset ↔ 10 ∉ (bytesOf cs).take offset := by
  rw [← List.count_eq_zero, hstands.count_take]
  constructor
  · intro hdepth
    have hle := hstands.index_add_depth_le
    omega
  · rintro rfl
    cases hstands <;> rfl

/-- The offset is its own number of lines when only line feeds are before it. -/
theorem index_eq_offset_iff (hstands : StandsAt cs offset index depth) :
    index = offset ↔ ∀ byte ∈ (bytesOf cs).take offset, byte = 10 := by
  simp only [eq_comm (b := (10 : UInt8)), ← List.count_eq_length, hstands.count_take,
    List.length_take_of_le hstands.offset_le]

/-- The segment of the offset is the one behind `index` others, and the offset is in it or at its
end. -/
theorem exists_segment (hstands : StandsAt cs offset index depth) :
    ∃ segment, ((bytesOf cs).splitOn 10)[index]? = some segment ∧ depth ≤ segment.length := by
  induction hstands with
  | inLast hlast hdepth =>
      rw [List.splitOn_eq_singleton (feed_not_mem_bytesOf hlast)]
      exact ⟨_, rfl, hdepth⟩
  | inFirst hfirst hdepth =>
      rw [splitOn_append_feed hfirst]
      exact ⟨_, rfl, hdepth⟩
  | later hfirst _ ih =>
      rw [splitOn_append_feed hfirst]
      exact ih

/-- The segments before that of the offset, each with its line feed, and the depth make up the
offset. -/
theorem segments_add_depth (hstands : StandsAt cs offset index depth) :
    ((((bytesOf cs).splitOn 10).take index).flatMap (· ++ [10])).length + depth = offset := by
  induction hstands with
  | inLast => exact Nat.zero_add _
  | inFirst => exact Nat.zero_add _
  | later hfirst _ ih =>
      rw [splitOn_append_feed hfirst, List.take_succ_cons, List.flatMap_cons, List.length_append,
        List.length_append, List.length_singleton, Nat.add_assoc, ih]

/-- Before the end of the text the offset is on a line.  At most the two characters of its
terminator are behind the line, and within the line the byte at the offset is that of the line. -/
theorem exists_line (hstands : StandsAt cs offset index depth)
    (hoffset : offset < (bytesOf cs).length) :
    ∃ line, (lines cs)[index]? = some line ∧ depth ≤ (bytesOf line).length + 1 ∧
      (depth < (bytesOf line).length → (bytesOf line)[depth]? = (bytesOf cs)[offset]?) := by
  induction hstands with
  | @inLast last _ hlast hdepth =>
      have hne : last ≠ [] := by
        rintro rfl
        exact absurd hoffset (Nat.not_lt_zero _)
      rw [lines_eq_singleton hne hlast]
      exact ⟨last, rfl, Nat.le_succ_of_le hdepth, fun _ => rfl⟩
  | @inFirst first rest _ hfirst hdepth =>
      rw [lines_append_newline hfirst, bytesOf_append_feed]
      refine ⟨dropReturn first, rfl, ?_⟩
      -- The line is the segment, or the segment without its last byte.
      rcases eq_dropReturn_or first with hsame | hreturn
      · rw [← hsame]
        exact ⟨Nat.le_succ_of_le hdepth, fun hlt => (List.getElem?_append_left hlt).symm⟩
      · have hbytes : bytesOf first = bytesOf (dropReturn first) ++ [13] :=
          (congrArg bytesOf hreturn).trans (bytesOf_append _ _)
        rw [hbytes] at hdepth ⊢
        refine ⟨by simpa using hdepth, fun hlt => ?_⟩
        rw [List.append_assoc, List.getElem?_append_left hlt]
  | @later first rest more _ _ hfirst _ ih =>
      rw [length_bytesOf_append_feed] at hoffset
      rw [lines_append_newline hfirst, bytesOf_append_feed, Nat.add_assoc,
        List.getElem?_append_right (Nat.le_add_right _ _), Nat.add_sub_cancel_left, Nat.add_comm 1]
      exact ih (by omega)

/-- An offset stands behind the last line only at the end of a text without an unfinished line. -/
theorem index_eq_length_lines_iff (hstands : StandsAt cs offset index depth) :
    index = (lines cs).length ↔
      offset = (bytesOf cs).length ∧ (cs = [] ∨ cs.getLast? = some '\n') := by
  induction hstands with
  | @inLast last _ hlast hdepth =>
      have hnot : last.getLast? ≠ some '\n' := fun h => hlast (List.mem_of_getLast? h)
      by_cases hempty : last = []
      · subst hempty
        exact iff_of_true rfl ⟨Nat.le_antisymm hdepth (Nat.zero_le _), Or.inl rfl⟩
      · simp [lines_eq_singleton hempty hlast, hempty, hnot]
  | inFirst hfirst hdepth =>
      rw [lines_append_newline hfirst, length_bytesOf_append_feed, List.length_cons]
      exact iff_of_false (Nat.succ_ne_zero _).symm fun hend => by omega
  | @later first rest _ _ _ hfirst _ ih =>
      have hlast : first ++ '\n' :: rest = [] ∨ (first ++ '\n' :: rest).getLast? = some '\n' ↔
          rest = [] ∨ rest.getLast? = some '\n' := by
        cases rest <;> simp [List.getLast?_append]
      rw [lines_append_newline hfirst, length_bytesOf_append_feed, List.length_cons,
        Nat.add_right_cancel_iff, Nat.add_left_cancel_iff, hlast]
      exact ih

/-- Behind the last line there is nothing to the left of the offset. -/
theorem depth_eq_zero (hstands : StandsAt cs offset index depth)
    (hindex : index = (lines cs).length) : depth = 0 := by
  induction hstands with
  | @inLast last _ hlast hdepth =>
      by_cases hempty : last = []
      · subst hempty
        exact Nat.le_zero.mp hdepth
      · simp [lines_eq_singleton hempty hlast] at hindex
  | inFirst hfirst => simp [lines_append_newline hfirst] at hindex
  | later hfirst _ ih =>
      rw [lines_append_newline hfirst, List.length_cons, Nat.add_right_cancel_iff] at hindex
      exact ih hindex

end StandsAt

end Text

namespace Position

/-- The first place is on an earlier line, or on the same line and further to the left. -/
def Before (first second : Position) : Prop :=
  first.line < second.line ∨ first.line = second.line ∧ first.column < second.column

/-- The place of an offset counts the lines and the columns from one. -/
theorem behind_take {cs : List Char} {offset index depth : Nat}
    (hstands : Text.StandsAt cs offset index depth) :
    behind ((Text.bytesOf cs).take offset) = ⟨index + 1, depth + 1⟩ := by
  induction hstands with
  | inLast hlast hdepth =>
      rw [behind, foldl_next_of_feed_not_mem (Text.feed_not_mem_take hlast _),
        List.length_take_of_le hdepth, Nat.add_comm]
      rfl
  | inFirst hfirst hdepth =>
      rw [Text.bytesOf_append_feed, List.take_append_of_le_length hdepth, behind,
        foldl_next_of_feed_not_mem (Text.feed_not_mem_take hfirst _),
        List.length_take_of_le hdepth, Nat.add_comm]
      rfl
  | later hfirst _ ih =>
      rw [behind, start] at ih
      rw [Text.take_below, behind, List.foldl_append, List.foldl_cons,
        foldl_next_of_feed_not_mem (Text.feed_not_mem_bytesOf hfirst), next, if_pos rfl, start,
        foldl_next_add_line, ih]

end Position

namespace Fixture

/-- The parts of the source between its line feeds. -/
def segments (fixture : Fixture) : List (List UInt8) :=
  fixture.bytes.splitOn 10

/-- The offset at which the segment behind `count` others starts: before it stand the bytes of
those, with a line feed behind each segment. -/
def segmentStart (fixture : Fixture) (count : Nat) : Nat :=
  ((fixture.segments.take count).flatMap (· ++ [10])).length

/-- The place tells in which segment the offset stands, and how far it is from its start. -/
structure Locates (fixture : Fixture) (offset : Nat) (place : Position) : Prop where
  /-- The lines above the place end with the line feeds before the offset. -/
  line : place.line = (fixture.bytes.take offset).count 10 + 1
  /-- The offset is a byte of the segment or stands at its end. -/
  segment : ∃ segment, fixture.segments[place.line - 1]? = some segment ∧
    place.column ≤ segment.length + 1
  column_pos : 0 < place.column
  column : fixture.segmentStart (place.line - 1) + (place.column - 1) = offset

/-- The place of an offset is on the line `text`, where the offset is a byte of the line or of its
terminator. -/
structure OnLine (fixture : Fixture) (offset : Nat) (place : Position) (text : List Char) :
    Prop where
  line : fixture.line? place.line = some text
  line_pos : 1 ≤ place.line
  line_le : place.line ≤ fixture.lineCount
  column_le : place.column ≤ (Text.bytesOf text).length + 2
  byte : place.column ≤ (Text.bytesOf text).length →
    ∃ byte, (Text.bytesOf text)[place.column - 1]? = some byte ∧
      fixture.bytes[offset]? = some byte

/-- The offset is the last one of 32 bits and has no line feed before it, or nothing else: its
column or its line is the first number that does not fit into a word. -/
def WrapsAt (fixture : Fixture) (offset : Nat) : Prop :=
  offset = Text.maxPosition ∧
    (10 ∉ fixture.bytes.take offset ∨ ∀ byte ∈ fixture.bytes.take offset, byte = 10)

variable {fixture : Fixture} {offset index depth : Nat} {place : Position}

theorem positionOf?_eq_some_iff :
    fixture.positionOf? offset = some place ↔ ∃ index depth,
      Text.StandsAt fixture.source.toList offset index depth ∧
        Position.inWords ⟨index + 1, depth + 1⟩ = place := by
  rw [positionOf?, Option.ite_none_right_eq_some, Option.some.injEq]
  constructor
  · rintro ⟨hoffset, rfl⟩
    obtain ⟨index, depth, hstands⟩ := Text.exists_standsAt hoffset
    exact ⟨index, depth, hstands, congrArg Position.inWords (Position.behind_take hstands).symm⟩
  · rintro ⟨index, depth, hstands, rfl⟩
    exact ⟨hstands.offset_le, congrArg Position.inWords (Position.behind_take hstands)⟩

theorem not_wrapsAt_of_lt (hlt : offset < Text.maxPosition) : ¬ fixture.WrapsAt offset :=
  fun hwraps => absurd hwraps.1 (Nat.ne_of_lt hlt)

theorem wrapsAt_iff (hstands : Text.StandsAt fixture.source.toList offset index depth)
    (hoffset : offset ≤ Text.maxPosition) :
    fixture.WrapsAt offset ↔ depth = Text.maxPosition ∨ index = Text.maxPosition := by
  have hle := hstands.index_add_depth_le
  rw [WrapsAt, bytes, ← hstands.depth_eq_offset_iff, ← hstands.index_eq_offset_iff]
  omega

/-- Of numbers that fit into words nothing is lost. -/
theorem inWords_of_not_wrapsAt (hstands : Text.StandsAt fixture.source.toList offset index depth)
    (hoffset : offset ≤ Text.maxPosition) (hfits : ¬ fixture.WrapsAt offset) :
    Position.inWords ⟨index + 1, depth + 1⟩ = ⟨index + 1, depth + 1⟩ := by
  have hle := hstands.index_add_depth_le
  rw [wrapsAt_iff hstands hoffset] at hfits
  apply Position.inWords_of_le
  · change index + 1 ≤ Text.maxPosition
    omega
  · change depth + 1 ≤ Text.maxPosition
    omega

/-- The number that does not fit into a word is told as zero. -/
theorem inWords_of_wrapsAt (hstands : Text.StandsAt fixture.source.toList offset index depth)
    (hoffset : offset ≤ Text.maxPosition) (hwraps : fixture.WrapsAt offset) :
    (index = 0 ∧ depth ≠ 0) ∧ Position.inWords ⟨index + 1, depth + 1⟩ = ⟨1, 0⟩ ∨
      Position.inWords ⟨index + 1, depth + 1⟩ = ⟨0, 1⟩ := by
  have hle := hstands.index_add_depth_le
  rcases (wrapsAt_iff hstands hoffset).mp hwraps with rfl | rfl
  · obtain rfl : index = 0 := by omega
    exact Or.inl ⟨⟨rfl, by decide⟩, rfl⟩
  · obtain rfl : depth = 0 := by omega
    exact Or.inr rfl

theorem Locates.line_pos (hlocates : fixture.Locates offset place) : 0 < place.line := by
  rw [hlocates.line]
  exact Nat.succ_pos _

/-- Later offsets have later places. -/
theorem Locates.before {first second : Nat} {place' : Position}
    (hfirst : fixture.Locates first place) (hsecond : fixture.Locates second place')
    (hlt : first < second) : place.Before place' := by
  have htaken : fixture.bytes.take first <+: fixture.bytes.take second :=
    List.take_prefix_take_left (Nat.le_of_lt hlt)
  have hle : place.line ≤ place'.line := by
    rw [hfirst.line, hsecond.line]
    exact Nat.succ_le_succ (htaken.sublist.count_le 10)
  rcases Nat.lt_or_eq_of_le hle with hline | hline
  · exact Or.inl hline
  · have hcolumn := hfirst.column
    have hcolumn' := hsecond.column
    have hpos := hfirst.column_pos
    rw [hline] at hcolumn
    exact Or.inr ⟨hline, by omega⟩

/-- No offset has the place of another one. -/
theorem Locates.offset_unique {first second : Nat} (hfirst : fixture.Locates first place)
    (hsecond : fixture.Locates second place) : first = second :=
  hfirst.column.symm.trans hsecond.column

section Place

variable (hsource : fixture.bytes.length ≤ Text.maxPosition)
  (hplace : fixture.positionOf? offset = some place)

include hsource hplace

theorem le_maxPosition : offset ≤ Text.maxPosition :=
  Nat.le_trans (Option.ite_none_right_eq_some.mp hplace).1 hsource

theorem exists_standsAt_of_not_wrapsAt (hfits : ¬ fixture.WrapsAt offset) :
    ∃ index depth, Text.StandsAt fixture.source.toList offset index depth ∧
      ⟨index + 1, depth + 1⟩ = place := by
  have hoffset := le_maxPosition hsource hplace
  obtain ⟨index, depth, hstands, rfl⟩ := positionOf?_eq_some_iff.mp hplace
  exact ⟨index, depth, hstands, (inWords_of_not_wrapsAt hstands hoffset hfits).symm⟩

theorem eq_of_wrapsAt (hwraps : fixture.WrapsAt offset) : place = ⟨1, 0⟩ ∨ place = ⟨0, 1⟩ := by
  have hoffset := le_maxPosition hsource hplace
  obtain ⟨index, depth, hstands, rfl⟩ := positionOf?_eq_some_iff.mp hplace
  exact (inWords_of_wrapsAt hstands hoffset hwraps).imp_left And.right

theorem locates_of_not_wrapsAt (hfits : ¬ fixture.WrapsAt offset) :
    fixture.Locates offset place := by
  obtain ⟨index, depth, hstands, rfl⟩ := exists_standsAt_of_not_wrapsAt hsource hplace hfits
  obtain ⟨segment, hsegment, hdepth⟩ := hstands.exists_segment
  exact ⟨congrArg (· + 1) hstands.count_take.symm, ⟨segment, hsegment, Nat.succ_le_succ hdepth⟩,
    Nat.succ_pos depth, hstands.segments_add_depth⟩

/-- A place with a zero in it tells where no offset stands. -/
theorem not_locates_of_wrapsAt (hwraps : fixture.WrapsAt offset) (other : Nat) :
    ¬ fixture.Locates other place := by
  intro hlocates
  rcases eq_of_wrapsAt hsource hplace hwraps with rfl | rfl
  · exact Nat.lt_irrefl 0 hlocates.column_pos
  · exact Nat.lt_irrefl 0 hlocates.line_pos

/-- An offset is located by its place unless the place has a zero in it. -/
theorem locates_iff : fixture.Locates offset place ↔ ¬ fixture.WrapsAt offset :=
  ⟨fun hlocates hwraps => not_locates_of_wrapsAt hsource hplace hwraps offset hlocates,
    locates_of_not_wrapsAt hsource hplace⟩

theorem exists_onLine (hoffset : offset < fixture.bytes.length) :
    ∃ text, fixture.OnLine offset place text := by
  have hfits : ¬ fixture.WrapsAt offset :=
    not_wrapsAt_of_lt (Nat.lt_of_lt_of_le hoffset hsource)
  obtain ⟨index, depth, hstands, rfl⟩ := exists_standsAt_of_not_wrapsAt hsource hplace hfits
  obtain ⟨text, hline, hdepth, hbyte⟩ := hstands.exists_line hoffset
  have hline : fixture.line? (index + 1) = some text := hline
  obtain ⟨hpos, hle⟩ := bounds_of_line? hline
  refine ⟨text, hline, hpos, hle, Nat.succ_le_succ hdepth, fun hcolumn => ?_⟩
  have hget := List.getElem?_eq_getElem hcolumn
  exact ⟨_, hget, (hbyte hcolumn).symm.trans hget⟩

/-- A place with a zero in it is not behind the last line. -/
theorem line_ne_of_wrapsAt (hwraps : fixture.WrapsAt offset) :
    place.line ≠ fixture.lineCount + 1 := by
  have hoffset := le_maxPosition hsource hplace
  obtain ⟨index, depth, hstands, rfl⟩ := positionOf?_eq_some_iff.mp hplace
  rcases inWords_of_wrapsAt hstands hoffset hwraps with ⟨⟨rfl, hdepth⟩, hwords⟩ | hwords
  · rw [hwords]
    intro hline
    exact hdepth (hstands.depth_eq_zero (Nat.succ.inj hline))
  · rw [hwords]
    exact (Nat.succ_ne_zero _).symm

theorem line_eq_lineCount_succ_iff :
    place.line = fixture.lineCount + 1 ↔ ¬ fixture.WrapsAt offset ∧
      offset = fixture.bytes.length ∧
        (fixture.source = "" ∨ fixture.source.toList.getLast? = some '\n') := by
  by_cases hwraps : fixture.WrapsAt offset
  · exact iff_of_false (line_ne_of_wrapsAt hsource hplace hwraps) fun hend => hend.1 hwraps
  · obtain ⟨index, depth, hstands, rfl⟩ := exists_standsAt_of_not_wrapsAt hsource hplace hwraps
    rw [Nat.add_right_cancel_iff, ← String.toList_eq_nil_iff, and_iff_right hwraps]
    exact hstands.index_eq_length_lines_iff

theorem column_eq_one (hline : place.line = fixture.lineCount + 1) : place.column = 1 := by
  have hfits := ((line_eq_lineCount_succ_iff hsource hplace).mp hline).1
  obtain ⟨index, depth, hstands, rfl⟩ := exists_standsAt_of_not_wrapsAt hsource hplace hfits
  rw [hstands.depth_eq_zero (Nat.add_right_cancel hline)]

end Place

theorem before_iff {first second : Nat} {place' : Position}
    (hsource : fixture.bytes.length ≤ Text.maxPosition)
    (hfirst : fixture.positionOf? first = some place)
    (hsecond : fixture.positionOf? second = some place') (hlt : first < second) :
    place.Before place' ↔ ¬ fixture.WrapsAt second := by
  -- The last offset of 32 bits is not before another one, so the first place is always right.
  have hfits : ¬ fixture.WrapsAt first :=
    not_wrapsAt_of_lt (Nat.lt_of_lt_of_le hlt (le_maxPosition hsource hsecond))
  have hlocates := locates_of_not_wrapsAt hsource hfirst hfits
  constructor
  · intro hbefore hwraps
    have hpos := hlocates.line_pos
    rcases eq_of_wrapsAt hsource hsecond hwraps with rfl | rfl <;>
      simp only [Position.Before] at hbefore <;>
      omega
  · intro hfits'
    exact hlocates.before (locates_of_not_wrapsAt hsource hsecond hfits') hlt

/-- Two offsets with the same place are told alike. -/
theorem WrapsAt.of_same_place {other : Nat} (hwraps : fixture.WrapsAt offset)
    (hsource : fixture.bytes.length ≤ Text.maxPosition)
    (hplace : fixture.positionOf? offset = some place)
    (hother : fixture.positionOf? other = some place) : fixture.WrapsAt other := by
  refine Classical.byContradiction fun hfits => ?_
  exact not_locates_of_wrapsAt hsource hplace hwraps other
    (locates_of_not_wrapsAt hsource hother hfits)

theorem positionOf?_injective {first second : Nat}
    (hsource : fixture.bytes.length ≤ Text.maxPosition)
    (hfirst : fixture.positionOf? first = some place)
    (hsecond : fixture.positionOf? second = some place) : first = second := by
  by_cases hwraps : fixture.WrapsAt first
  · exact hwraps.1.trans (hwraps.of_same_place hsource hfirst hsecond).1.symm
  · have hfits : ¬ fixture.WrapsAt second := fun hwraps' =>
      hwraps (hwraps'.of_same_place hsource hsecond hfirst)
    exact (locates_of_not_wrapsAt hsource hfirst hwraps).offset_unique
      (locates_of_not_wrapsAt hsource hsecond hfits)

/-- Every offset up to the end of the source has a place, and no other one has.  The place says in
which segment the offset stands and how far behind its start, except at the last offset of 32 bits
when it stands on the first line or behind line feeds alone: there the column or the line is zero.
Before the end of the source the offset is on the line of its place; only at the end of a source
without an unfinished line the place is behind the last line.  A later offset has a later place,
unless a number of that place is zero, and no two offsets have the same place. -/
theorem place_locates_offset (hsource : fixture.bytes.length ≤ Text.maxPosition) :
    (∀ offset, fixture.positionOf? offset = none ↔ fixture.bytes.length < offset) ∧
    (∀ offset place, fixture.positionOf? offset = some place →
      (fixture.Locates offset place ↔ ¬ fixture.WrapsAt offset) ∧
      (fixture.WrapsAt offset → place = ⟨1, 0⟩ ∨ place = ⟨0, 1⟩) ∧
      (offset < fixture.bytes.length → ∃ text, fixture.OnLine offset place text) ∧
      (place.line = fixture.lineCount + 1 ↔ ¬ fixture.WrapsAt offset ∧
        offset = fixture.bytes.length ∧
          (fixture.source = "" ∨ fixture.source.toList.getLast? = some '\n')) ∧
      (place.line = fixture.lineCount + 1 → place.column = 1)) ∧
    (∀ first second place place', fixture.positionOf? first = some place →
      fixture.positionOf? second = some place' → first < second →
        (place.Before place' ↔ ¬ fixture.WrapsAt second)) ∧
    ∀ first second place, fixture.positionOf? first = some place →
      fixture.positionOf? second = some place → first = second := by
  refine ⟨fun offset => positionOf?_eq_none_iff, ?_, ?_, ?_⟩
  · intro offset place hplace
    exact ⟨locates_iff hsource hplace, eq_of_wrapsAt hsource hplace, exists_onLine hsource hplace,
      line_eq_lineCount_succ_iff hsource hplace, column_eq_one hsource hplace⟩
  · intro first second place place' hfirst hsecond hlt
    exact before_iff hsource hfirst hsecond hlt
  · intro first second place hfirst hsecond
    exact positionOf?_injective hsource hfirst hsecond

namespace OffsetWitness

/-- A character of two bytes, a terminator of two characters, and no line feed at the end. -/
def sample : Fixture where
  name := "s"
  fileName := "s.cpp"
  summary := ""
  categories := []
  findings := []
  waivers := []
  source := "ä\r\n\nx"

/-- The terminator is part of its line, and the end of the source still is on the last one. -/
example : (List.range 8).map sample.positionOf? =
    [some ⟨1, 1⟩, some ⟨1, 2⟩, some ⟨1, 3⟩, some ⟨1, 4⟩, some ⟨2, 1⟩, some ⟨3, 1⟩, some ⟨3, 2⟩,
      none] := by
  decide +kernel

/-- A source of one line without a terminator. -/
def letters (count : Nat) : Fixture where
  name := "letters"
  fileName := "letters.cpp"
  summary := ""
  categories := []
  findings := []
  waivers := []
  source := String.ofList (List.replicate count 'a')

theorem length_bytes_letters (count : Nat) : (letters count).bytes.length = count := by
  rw [bytes, letters, String.toList_ofList]
  induction count with
  | zero => rfl
  | succ count ih =>
      rw [List.replicate_succ]
      exact congrArg (· + 1) ih

theorem feed_not_mem_letters (count : Nat) : 10 ∉ (letters count).bytes := by
  rw [bytes, letters, String.toList_ofList]
  apply Text.feed_not_mem_bytesOf
  intro hmem
  exact absurd (List.eq_of_mem_replicate hmem) (by decide)

/-- The end of the one line has a column for each letter before it. -/
theorem positionOf?_letters (count : Nat) :
    (letters count).positionOf? count = some (Position.inWords ⟨1, count + 1⟩) := by
  have hlength := length_bytes_letters count
  rw [positionOf?, if_pos (Nat.le_of_eq hlength.symm),
    List.take_of_length_le (Nat.le_of_eq hlength), Position.behind,
    Position.foldl_next_of_feed_not_mem (feed_not_mem_letters count), hlength, Nat.add_comm]
  rfl

theorem positionOf?_letters_maxPosition :
    (letters Text.maxPosition).positionOf? Text.maxPosition = some ⟨1, 0⟩ :=
  positionOf?_letters Text.maxPosition

/-- The start of the second line is located, the end of the longest source of one line is not. -/
theorem place_locates_offset_sample :
    sample.Locates 4 ⟨2, 1⟩ ∧ ¬ (letters Text.maxPosition).Locates Text.maxPosition ⟨1, 0⟩ := by
  have hshort : sample.bytes.length ≤ Text.maxPosition := by
    decide +kernel
  have hplace : sample.positionOf? 4 = some ⟨2, 1⟩ := by
    decide +kernel
  have hlong := Nat.le_of_eq (length_bytes_letters Text.maxPosition)
  have hwraps : (letters Text.maxPosition).WrapsAt Text.maxPosition :=
    ⟨rfl, Or.inl fun hmem => feed_not_mem_letters _ (List.mem_of_mem_take hmem)⟩
  obtain ⟨-, hsample, -⟩ := place_locates_offset hshort
  obtain ⟨-, hletters, -⟩ := place_locates_offset hlong
  constructor
  · exact (hsample 4 ⟨2, 1⟩ hplace).1.mpr fun hlast => absurd hlast.1 (by decide)
  · intro hlocates
    exact (hletters _ _ positionOf?_letters_maxPosition).1.mp hlocates hwraps

/-- The last offset of the longest source without line feeds is told to be in column zero. -/
theorem not_locates_offset :
    ¬ ∀ fixture : Fixture, fixture.bytes.length ≤ Text.maxPosition →
      ∀ offset place, fixture.positionOf? offset = some place → fixture.Locates offset place := by
  intro hall
  have hlocates := hall (letters Text.maxPosition) (Nat.le_of_eq (length_bytes_letters _))
    Text.maxPosition ⟨1, 0⟩ positionOf?_letters_maxPosition
  exact Nat.lt_irrefl 0 hlocates.column_pos

end OffsetWitness

end Fixture

end LintCorpus
