/-!
# BLAKE3

The hash that fingerprints a document. The input is cut into chunks of 1024 bytes and a chunk into
blocks of 64. A chunk is compressed block by block, and the chunks are the leaves of a binary tree:
neighbours are joined pair by pair, an odd one out moves up as it is, until one node is left. The
hash is what that root is compressed to.
-/

namespace Promotions.Blake3

/-- Eight words that stand for what has been compressed. -/
abbrev Chain := Vector UInt32 8

/-- Sixteen words: a block, or the state of a compression. -/
abbrev Block := Vector UInt32 16

/-- The chain that every chunk starts from. -/
def start : Chain :=
  #v[0x6A09E667, 0xBB67AE85, 0x3C6EF372, 0xA54FF53A, 0x510E527F, 0x9B05688C, 0x1F83D9AB, 0x5BE0CD19]

/-- How the words of a block change places between two rounds. -/
def shuffle : Vector (Fin 16) 16 := #v[2, 6, 3, 10, 7, 0, 4, 13, 1, 11, 12, 5, 9, 14, 15, 8]

/-- The block is the first of its chunk. -/
def chunkStart : UInt32 := 1

/-- The block is the last of its chunk. -/
def chunkEnd : UInt32 := 2

/-- The block joins two nodes. -/
def parent : UInt32 := 4

/-- The node is the root. -/
def root : UInt32 := 8

/-- A word rotated right. -/
def rotate (w n : UInt32) : UInt32 := (w >>> n) ||| (w <<< (32 - n))

/-- Two words of a block mixed into four words of the state. -/
def mix (s : Block) (a b c d : Fin 16) (x y : UInt32) : Block :=
  let s := s.set a (s[a] + s[b] + x)
  let s := s.set d (rotate (s[d] ^^^ s[a]) 16)
  let s := s.set c (s[c] + s[d])
  let s := s.set b (rotate (s[b] ^^^ s[c]) 12)
  let s := s.set a (s[a] + s[b] + y)
  let s := s.set d (rotate (s[d] ^^^ s[a]) 8)
  let s := s.set c (s[c] + s[d])
  s.set b (rotate (s[b] ^^^ s[c]) 7)

/-- A block mixed into the state, once along the columns and once along the diagonals. -/
def mixAll (s m : Block) : Block :=
  let s := mix s 0 4 8 12 m[0] m[1]
  let s := mix s 1 5 9 13 m[2] m[3]
  let s := mix s 2 6 10 14 m[4] m[5]
  let s := mix s 3 7 11 15 m[6] m[7]
  let s := mix s 0 5 10 15 m[8] m[9]
  let s := mix s 1 6 11 12 m[10] m[11]
  let s := mix s 2 7 8 13 m[12] m[13]
  mix s 3 4 9 14 m[14] m[15]

/-- Some rounds of mixing, with the block shuffled after each. -/
def rounds : Nat → Block → Block → Block
  | 0, s, _ => s
  | n + 1, s, m => rounds n (mixAll s m) (Vector.ofFn fun i => m[shuffle[i]])

/-- A node of the tree before its compression. -/
structure Node where
  /-- The chain so far. -/
  chain : Chain
  /-- The block to compress. -/
  block : Block
  /-- The number of the chunk, or zero for a node that joins two others. -/
  counter : Nat
  /-- The number of bytes in the block. -/
  length : Nat
  /-- What the block is. -/
  flags : UInt32

/-- The chain a node is compressed to. -/
def Node.compress (node : Node) (flags : UInt32) : Chain :=
  let state : Block :=
    (node.chain ++ #v[start[0], start[1], start[2], start[3], node.counter.toUInt32,
      (node.counter / UInt32.size).toUInt32, node.length.toUInt32, flags]).cast rfl
  let mixed := rounds 7 state node.block
  Vector.ofFn fun i => mixed[i] ^^^ mixed[i.val + 8]

/-- The word of four bytes, the first being the lowest. -/
def word (bytes : List UInt8) : UInt32 :=
  bytes.foldr (fun b acc => acc * 256 + b.toUInt32) 0

/-- The block of up to sixty-four bytes, filled up with zeros. -/
def blockOf (bytes : List UInt8) : Block :=
  Vector.ofFn fun i => word ((bytes.drop (4 * i.val)).take 4)

/-- A list cut into pieces of `size`, the last of which may be shorter. -/
def pieces (size : Nat) (bytes : List UInt8) : List (List UInt8) :=
  if _h : bytes.length ≤ size ∨ size = 0 then [bytes]
  else bytes.take size :: pieces size (bytes.drop size)
termination_by bytes.length
decreasing_by simp only [List.length_drop]; omega

/-- The node of a chunk whose blocks up to here have been compressed to `chain`. -/
def chunkFrom (counter : Nat) (chain : Chain) (flags : UInt32) : List (List UInt8) → Node
  | [] => ⟨chain, blockOf [], counter, 0, flags ||| chunkEnd⟩
  | [last] => ⟨chain, blockOf last, counter, last.length, flags ||| chunkEnd⟩
  | first :: rest =>
    let node : Node := ⟨chain, blockOf first, counter, first.length, flags⟩
    chunkFrom counter (node.compress flags) 0 rest

/-- The node of a chunk. -/
def chunk (counter : Nat) (bytes : List UInt8) : Node :=
  chunkFrom counter start chunkStart (pieces 64 bytes)

/-- The node that joins two others. -/
def join (left right : Node) : Node :=
  ⟨start, (left.compress left.flags ++ right.compress right.flags).cast rfl, 0, 64, parent⟩

/-- Neighbours joined pair by pair. -/
def joinPairs : List Node → List Node
  | left :: right :: rest => join left right :: joinPairs rest
  | rest => rest

theorem length_joinPairs (nodes : List Node) :
    (joinPairs nodes).length = (nodes.length + 1) / 2 := by
  fun_induction joinPairs nodes with
  | case1 _ _ _ ih => simp only [List.length_cons, ih]; omega
  | case2 rest h =>
    match rest with
    | [] => rfl
    | [_] => simp
    | _ :: _ :: _ => exact absurd rfl (h _ _ _)

/-- The one node that a first node and the nodes after it are joined to. -/
def rootOf (first : Node) (rest : List Node) : Node :=
  match _h : joinPairs (first :: rest) with
  | [] => first
  | [node] => node
  | next :: second :: more => rootOf next (second :: more)
termination_by rest.length
decreasing_by
  have := length_joinPairs (first :: rest)
  rw [_h] at this
  simp only [List.length_cons] at this ⊢
  omega

/-- The thirty-two bytes of the hash. -/
def hash (bytes : List UInt8) : List UInt8 :=
  let nodes := (pieces 1024 bytes).zipIdx.map fun (piece, counter) => chunk counter piece
  match nodes with
  | [] => []
  | first :: rest =>
    let node := rootOf first rest
    (node.compress (node.flags ||| root)).toList.flatMap fun (w : UInt32) =>
      [w.toUInt8, (w >>> 8).toUInt8, (w >>> 16).toUInt8, (w >>> 24).toUInt8]

end Promotions.Blake3
