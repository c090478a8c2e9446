-- The BLAKE3 hash of a list of bytes. The bytes are cut into chunks and the
-- chunks into blocks; each chunk is a chain of compressions, and the chunks
-- are joined in pairs, level by level, until one node is left.

namespace ReplayEvidence.Hash.Blake3

/-! ## Compression -/

/-- Eight words: a chaining value. -/
abbrev Chain := Vector UInt32 8

/-- Sixteen words: a message block, or the state of a compression. -/
abbrev Block := Vector UInt32 16

/-- The chaining value that a hash starts from. -/
def start : Chain := #v[
  0x6A09E667, 0xBB67AE85, 0x3C6EF372, 0xA54FF53A, 0x510E527F, 0x9B05688C, 0x1F83D9AB, 0x5BE0CD19]

/-- The word turned right by some bits. -/
def turn (w : UInt32) (bits : UInt32) : UInt32 := (w >>> bits) ||| (w <<< (32 - bits))

/-- Mixes two words of the message into four words of the state. -/
def mix (s : Block) (a b c d : Fin 16) (x y : UInt32) : Block :=
  let va := s[a] + s[b] + x
  let vd := turn (s[d] ^^^ va) 16
  let vc := s[c] + vd
  let vb := turn (s[b] ^^^ vc) 12
  let va := va + vb + y
  let vd := turn (vd ^^^ va) 8
  let vc := vc + vd
  let vb := turn (vb ^^^ vc) 7
  (((s.set a va).set b vb).set c vc).set d vd

/-- One round: the columns of the state, then its diagonals. -/
def round (s m : Block) : Block :=
  let s := mix s 0 4 8 12 m[0] m[1]
  let s := mix s 1 5 9 13 m[2] m[3]
  let s := mix s 2 6 10 14 m[4] m[5]
  let s := mix s 3 7 11 15 m[6] m[7]
  let s := mix s 0 5 10 15 m[8] m[9]
  let s := mix s 1 6 11 12 m[10] m[11]
  let s := mix s 2 7 8 13 m[12] m[13]
  mix s 3 4 9 14 m[14] m[15]

def permute (m : Block) : Block := #v[
  m[2], m[6], m[3], m[10], m[7], m[0], m[4], m[13],
  m[1], m[11], m[12], m[5], m[9], m[14], m[15], m[8]]

def rounds : Nat → Block → Block → Block
  | 0, s, _ => s
  | n + 1, s, m => rounds n (round s m) (permute m)

/-- A node that is ready to be compressed. -/
structure Node where
  chain : Chain
  block : Block
  counter : UInt64
  length : UInt32
  flags : UInt32

/-- The first half of the compression of a node, folded with the second. -/
def Node.compress (n : Node) : Chain :=
  let s : Block := #v[
    n.chain[0], n.chain[1], n.chain[2], n.chain[3],
    n.chain[4], n.chain[5], n.chain[6], n.chain[7],
    start[0], start[1], start[2], start[3],
    n.counter.toUInt32, (n.counter >>> 32).toUInt32, n.length, n.flags]
  let s := rounds 7 s n.block
  #v[s[0] ^^^ s[8], s[1] ^^^ s[9], s[2] ^^^ s[10], s[3] ^^^ s[11],
    s[4] ^^^ s[12], s[5] ^^^ s[13], s[6] ^^^ s[14], s[7] ^^^ s[15]]

/-! ## Flags -/

def chunkStart : UInt32 := 1

def chunkEnd : UInt32 := 2

/-- A node above two others. -/
def parent : UInt32 := 4

/-- The node that the hash is taken from. -/
def root : UInt32 := 8

/-! ## Chunks -/

/-- Four bytes as a word, least byte first; bytes that are not there are zero. -/
def word (bytes : List UInt8) (i : Nat) : UInt32 :=
  let byte (k : Nat) : UInt32 := (bytes.getD (4 * i + k) 0).toUInt32
  byte 0 ||| (byte 1 <<< 8) ||| (byte 2 <<< 16) ||| (byte 3 <<< 24)

def blockOf (bytes : List UInt8) : Block := Vector.ofFn fun i => word bytes i

/-- The bytes in pieces of a size, the last of which may be shorter. No bytes
are one empty piece. -/
def pieces (size : Nat) : Nat → List UInt8 → List (List UInt8)
  | 0, bytes => [bytes]
  | count + 1, bytes =>
    if bytes.length ≤ size then [bytes]
    else bytes.take size :: pieces size count (bytes.drop size)

/-- The last node of a chunk, given its blocks and the chain before them. -/
def chunkNode (counter : UInt64) : Chain → UInt32 → List (List UInt8) → Node
  | chain, flag, [] => ⟨chain, blockOf [], counter, 0, flag ||| chunkEnd⟩
  | chain, flag, [b] =>
    ⟨chain, blockOf b, counter, UInt32.ofNat b.length, flag ||| chunkEnd⟩
  | chain, flag, b :: bs =>
    let node : Node := ⟨chain, blockOf b, counter, UInt32.ofNat b.length, flag⟩
    chunkNode counter node.compress 0 bs

/-- The nodes of the chunks, numbered from `counter`. -/
def chunkNodes : UInt64 → List (List UInt8) → List Node
  | _, [] => []
  | counter, c :: cs =>
    chunkNode counter start chunkStart (pieces 64 16 c) :: chunkNodes (counter + 1) cs

/-! ## The tree -/

/-- The node above two others. -/
def join (l r : Node) : Node where
  chain := start
  block := Vector.cast (by decide) (l.compress ++ r.compress)
  counter := 0
  length := 64
  flags := parent

/-- Joins the nodes of one level in pairs; a last one without a fellow goes up
as it is. -/
def nextLevel : List Node → List Node
  | l :: r :: rest => join l r :: nextLevel rest
  | rest => rest

/-- Goes up a number of levels, or until one node is left. -/
def top : Nat → List Node → Option Node
  | _, [] => none
  | _, [n] => some n
  | 0, _ => none
  | levels + 1, ns => top levels (nextLevel ns)

def wordBytes (w : UInt32) : List UInt8 :=
  [w.toUInt8, (w >>> 8).toUInt8, (w >>> 16).toUInt8, (w >>> 24).toUInt8]

def digest (bytes : List UInt8) : List UInt8 :=
  match top bytes.length (chunkNodes 0 (pieces 1024 bytes.length bytes)) with
  | some n => { n with flags := n.flags ||| root }.compress.toList.flatMap wordBytes
  | none => []

def hexByte (b : UInt8) : List Char :=
  [Nat.digitChar (b.toNat / 16), Nat.digitChar (b.toNat % 16)]

def hexDigest (bytes : List UInt8) : String := String.ofList ((digest bytes).flatMap hexByte)

/-! ## Length -/

end ReplayEvidence.Hash.Blake3
