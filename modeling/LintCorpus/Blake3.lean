import LintCorpus.Text.Numeral

/-!
The hash function BLAKE3 with its 32-byte output.

The input is cut into chunks of 1024 bytes and each chunk into blocks of 64 bytes.  The blocks of a
chunk are compressed one after the other, the chunks are joined in a binary tree whose left side is
the largest full one, and the root of the tree gives the hash.
-/

namespace LintCorpus.Blake3

/-- Eight words that stand for all the input compressed so far. -/
abbrev Chaining := Array UInt32

/-- The words that every chaining starts with. -/
def initial : Chaining :=
  #[0x6A09E667, 0xBB67AE85, 0x3C6EF372, 0xA54FF53A, 0x510E527F, 0x9B05688C, 0x1F83D9AB, 0x5BE0CD19]

/-- The order in which a round takes the words of the block from the round before. -/
def wordOrder : Array Nat :=
  #[2, 6, 3, 10, 7, 0, 4, 13, 1, 11, 12, 5, 9, 14, 15, 8]

/-- The flag of a chunk's first block. -/
def chunkStart : UInt32 := 1

/-- The flag of a chunk's last block. -/
def chunkEnd : UInt32 := 2

/-- The flag of a block that joins two subtrees. -/
def parent : UInt32 := 4

/-- The flag of the last compression of all. -/
def root : UInt32 := 8

/-- The word turned right by `n` bits. -/
def rotateRight (x n : UInt32) : UInt32 :=
  (x >>> n) ||| (x <<< (32 - n))

/-- Mixes two words of the block into four words of the state. -/
def mix (s : Array UInt32) (a b c d : Nat) (x y : UInt32) : Array UInt32 :=
  let va := s.getD a 0 + s.getD b 0 + x
  let vd := rotateRight (s.getD d 0 ^^^ va) 16
  let vc := s.getD c 0 + vd
  let vb := rotateRight (s.getD b 0 ^^^ vc) 12
  let va := va + vb + y
  let vd := rotateRight (vd ^^^ va) 8
  let vc := vc + vd
  let vb := rotateRight (vb ^^^ vc) 7
  (((s.setIfInBounds a va).setIfInBounds b vb).setIfInBounds c vc).setIfInBounds d vd

/-- One round: the four columns of the state, then its four diagonals. -/
def round (s m : Array UInt32) : Array UInt32 :=
  let w := fun i => m.getD i 0
  let s := mix s 0 4 8 12 (w 0) (w 1)
  let s := mix s 1 5 9 13 (w 2) (w 3)
  let s := mix s 2 6 10 14 (w 4) (w 5)
  let s := mix s 3 7 11 15 (w 6) (w 7)
  let s := mix s 0 5 10 15 (w 8) (w 9)
  let s := mix s 1 6 11 12 (w 10) (w 11)
  let s := mix s 2 7 8 13 (w 12) (w 13)
  mix s 3 4 9 14 (w 14) (w 15)

/-- `n` rounds, with the words of the block put into a new order between each two of them. -/
def rounds : Nat → Array UInt32 → Array UInt32 → Array UInt32
  | 0, s, _ => s
  | n + 1, s, m => rounds n (round s m) (wordOrder.map fun i => m.getD i 0)

/-- A compression that waits for its flags: it gives a chaining value inside the tree and the hash
at its root. -/
structure Node where
  chaining : Chaining
  block : Array UInt32
  counter : UInt64
  blockLength : UInt32
  flags : UInt32

/-- The eight words that come out of a node, with `more` added to its flags. -/
def Node.compress (node : Node) (more : UInt32) : Chaining :=
  let s := node.chaining ++ initial.extract 0 4 ++
    #[node.counter.toUInt32, (node.counter >>> 32).toUInt32, node.blockLength, node.flags ||| more]
  let s := rounds 7 s node.block
  (Array.range 8).map fun i => s.getD i 0 ^^^ s.getD (i + 8) 0

/-- The word of the first four bytes, the lowest first; missing bytes are zero. -/
def word (bytes : List UInt8) : UInt32 :=
  (bytes.take 4).foldr (fun b w => (w <<< 8) ||| b.toUInt32) 0

def blockWords (bytes : List UInt8) : Array UInt32 :=
  (Array.range 16).map fun i => word (bytes.drop (4 * i))

/-- The node of the bytes that are left of a chunk, behind blocks that gave `chaining`. -/
def chunkFrom (counter : UInt64) (chaining : Chaining) (flags : UInt32) (bytes : List UInt8) :
    Node :=
  let node : Node :=
    ⟨chaining, blockWords (bytes.take 64), counter, (min bytes.length 64).toUInt32, flags⟩
  if bytes.length ≤ 64 then
    { node with flags := flags ||| chunkEnd }
  else
    chunkFrom counter (node.compress 0) 0 (bytes.drop 64)
termination_by bytes.length
decreasing_by
  simp only [List.length_drop]
  omega

def chunk (index : Nat) (bytes : List UInt8) : Node :=
  chunkFrom index.toUInt64 initial chunkStart bytes

/-- How many of `n` bytes, which are more than a chunk, go to the left side of the tree. -/
def leftLength (n : Nat) : Nat :=
  1024 * Nat.pow 2 ((n - 1) / 1024).log2

theorem leftLength_pos (n : Nat) : 0 < leftLength n :=
  Nat.mul_pos (by decide) (Nat.two_pow_pos _)

theorem leftLength_lt {n : Nat} (h : 1024 < n) : leftLength n < n := by
  have hne : (n - 1) / 1024 ≠ 0 := by omega
  have hle : Nat.pow 2 ((n - 1) / 1024).log2 ≤ (n - 1) / 1024 := Nat.log2_self_le hne
  unfold leftLength
  omega

def tree (index : Nat) (bytes : List UInt8) : Node :=
  if _h : bytes.length ≤ 1024 then
    chunk index bytes
  else
    let n := leftLength bytes.length
    let left := tree index (bytes.take n)
    let right := tree (index + n / 1024) (bytes.drop n)
    ⟨initial, left.compress 0 ++ right.compress 0, 0, 64, parent⟩
termination_by bytes.length
decreasing_by
  · have hl : leftLength bytes.length < bytes.length := leftLength_lt (by omega)
    simp only [List.length_take]
    omega
  · have hpos := leftLength_pos bytes.length
    simp only [List.length_drop]
    omega

/-- The hash of the bytes, as eight words. -/
def hash (bytes : List UInt8) : Chaining :=
  (tree 0 bytes).compress root

/-- A byte as two digits. -/
def hexByte (b : UInt8) : List Char :=
  [Text.hexDigit (b.toNat / 16), Text.hexDigit (b.toNat % 16)]

/-- The bytes of a word, the lowest first. -/
def wordBytes (w : UInt32) : List UInt8 :=
  [w.toUInt8, (w >>> 8).toUInt8, (w >>> 16).toUInt8, (w >>> 24).toUInt8]

/-- The hash of the bytes in hexadecimal digits, in lower case. -/
def hexHash (bytes : List UInt8) : String :=
  String.ofList ((hash bytes).toList.flatMap fun w => (wordBytes w).flatMap hexByte)

end LintCorpus.Blake3
