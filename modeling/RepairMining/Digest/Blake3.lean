/-!
The BLAKE3 hash function, for keys derived from a context string. Input is cut into chunks of 1024
bytes, chunks into blocks of 64 bytes; chunk values are joined in a binary tree.
-/

namespace RepairMining.Blake3

structure Row where
  x0 : UInt32
  x1 : UInt32
  x2 : UInt32
  x3 : UInt32
  deriving DecidableEq, Repr

structure Chaining where
  low : Row
  high : Row
  deriving DecidableEq, Repr

/-- The sixteen words of a block. The first eight go into the columns of the state and the last
eight into its diagonals, words at even places before words at odd places. -/
structure Message where
  columnEven : Row
  columnOdd : Row
  diagonalEven : Row
  diagonalOdd : Row

structure State where
  a : Row
  b : Row
  c : Row
  d : Row

def rotate (word amount : UInt32) : UInt32 := (word >>> amount) ||| (word <<< (32 - amount))

namespace Row

def zipWith (f : UInt32 → UInt32 → UInt32) (first second : Row) : Row :=
  ⟨f first.x0 second.x0, f first.x1 second.x1, f first.x2 second.x2, f first.x3 second.x3⟩

def map (f : UInt32 → UInt32) (row : Row) : Row := ⟨f row.x0, f row.x1, f row.x2, f row.x3⟩

def add : Row → Row → Row := zipWith (· + ·)

def xor : Row → Row → Row := zipWith (· ^^^ ·)

def turn (row : Row) : Row := ⟨row.x1, row.x2, row.x3, row.x0⟩

def turnBack (row : Row) : Row := ⟨row.x3, row.x0, row.x1, row.x2⟩

def words (row : Row) : List UInt32 := [row.x0, row.x1, row.x2, row.x3]

end Row

def Chaining.words (value : Chaining) : List UInt32 := value.low.words ++ value.high.words

/-- Mixes the four columns of the state, each with one word of `x` and one of `y`. -/
def mix (state : State) (x y : Row) : State :=
  let a := (state.a.add state.b).add x
  let d := (state.d.xor a).map (rotate · 16)
  let c := state.c.add d
  let b := (state.b.xor c).map (rotate · 12)
  let a := (a.add b).add y
  let d := (d.xor a).map (rotate · 8)
  let c := c.add d
  let b := (b.xor c).map (rotate · 7)
  ⟨a, b, c, d⟩

def round (state : State) (message : Message) : State :=
  let state := mix state message.columnEven message.columnOdd
  let state := ⟨state.a, state.b.turn, state.c.turn.turn, state.d.turnBack⟩
  let state := mix state message.diagonalEven message.diagonalOdd
  ⟨state.a, state.b.turnBack, state.c.turn.turn, state.d.turn⟩

def Message.permute (m : Message) : Message where
  columnEven := ⟨m.columnEven.x1, m.columnOdd.x1, m.columnOdd.x3, m.columnEven.x2⟩
  columnOdd := ⟨m.columnEven.x3, m.diagonalEven.x1, m.columnEven.x0, m.diagonalOdd.x2⟩
  diagonalEven := ⟨m.columnOdd.x0, m.diagonalEven.x2, m.diagonalOdd.x0, m.diagonalOdd.x3⟩
  diagonalOdd := ⟨m.diagonalOdd.x1, m.columnOdd.x2, m.diagonalEven.x3, m.diagonalEven.x0⟩

def rounds : Nat → State → Message → State
  | 0, state, _ => state
  | count + 1, state, message => rounds count (round state message) message.permute

def iv : Chaining :=
  ⟨⟨0x6a09e667, 0xbb67ae85, 0x3c6ef372, 0xa54ff53a⟩,
    ⟨0x510e527f, 0x9b05688c, 0x1f83d9ab, 0x5be0cd19⟩⟩

def chunkStart : UInt32 := 1

def chunkEnd : UInt32 := 2

def parent : UInt32 := 4

def root : UInt32 := 8

def deriveKeyContext : UInt32 := 32

def deriveKeyMaterial : UInt32 := 64

def compress (key : Chaining) (message : Message) (counter : UInt64) (length flags : UInt32) :
    Chaining :=
  let state := rounds 7
    ⟨key.low, key.high, iv.low, ⟨counter.toUInt32, (counter >>> 32).toUInt32, length, flags⟩⟩
    message
  ⟨state.a.xor state.c, state.b.xor state.d⟩

def wordAt (bytes : List UInt8) : UInt32 :=
  match bytes with
  | b0 :: b1 :: b2 :: b3 :: _ =>
    b0.toUInt32 ||| (b1.toUInt32 <<< 8) ||| (b2.toUInt32 <<< 16) ||| (b3.toUInt32 <<< 24)
  | [b0, b1, b2] => b0.toUInt32 ||| (b1.toUInt32 <<< 8) ||| (b2.toUInt32 <<< 16)
  | [b0, b1] => b0.toUInt32 ||| (b1.toUInt32 <<< 8)
  | [b0] => b0.toUInt32
  | [] => 0

def rowsAt (bytes : List UInt8) : Row × Row :=
  let b1 := bytes.drop 4
  let b2 := b1.drop 4
  let b3 := b2.drop 4
  let b4 := b3.drop 4
  let b5 := b4.drop 4
  let b6 := b5.drop 4
  let b7 := b6.drop 4
  (⟨wordAt bytes, wordAt b2, wordAt b4, wordAt b6⟩, ⟨wordAt b1, wordAt b3, wordAt b5, wordAt b7⟩)

def Message.ofBytes (bytes : List UInt8) : Message :=
  let column := rowsAt bytes
  let diagonal := rowsAt (bytes.drop 32)
  ⟨column.1, column.2, diagonal.1, diagonal.2⟩

def Message.ofPair (left right : Chaining) : Message where
  columnEven := ⟨left.low.x0, left.low.x2, left.high.x0, left.high.x2⟩
  columnOdd := ⟨left.low.x1, left.low.x3, left.high.x1, left.high.x3⟩
  diagonalEven := ⟨right.low.x0, right.low.x2, right.high.x0, right.high.x2⟩
  diagonalOdd := ⟨right.low.x1, right.low.x3, right.high.x1, right.high.x3⟩

/-- Cuts a list into pieces of the given length, the last of which may be shorter. There is always
at least one piece. `fuel` bounds the number of cuts. -/
def pieces {α : Type} (length : Nat) : Nat → List α → List (List α)
  | 0, items => [items]
  | fuel + 1, items =>
    match items.drop length with
    | [] => [items]
    | rest => items.take length :: pieces length fuel rest

/-- Runs the blocks of one chunk. `flags` belong to every block, `last` to the final one only. -/
def runBlocks (counter : UInt64) (flags last : UInt32) :
    Chaining → UInt32 → List (List UInt8) → Chaining
  | value, _, [] => value
  | value, first, [block] =>
    compress value (.ofBytes block) counter (UInt32.ofNat block.length)
      (flags ||| first ||| chunkEnd ||| last)
  | value, first, block :: blocks =>
    runBlocks counter flags last
      (compress value (.ofBytes block) counter (UInt32.ofNat block.length) (flags ||| first))
      0 blocks

def chunk (key : Chaining) (counter : UInt64) (flags last : UInt32) (bytes : List UInt8) :
    Chaining :=
  runBlocks counter flags last key chunkStart (pieces 64 bytes.length bytes)

def chunks (key : Chaining) (flags : UInt32) : UInt64 → List (List UInt8) → List Chaining
  | _, [] => []
  | counter, bytes :: rest =>
    chunk key counter flags 0 bytes :: chunks key flags (counter + 1) rest

def join (key : Chaining) (flags : UInt32) (left right : Chaining) : Chaining :=
  compress key (.ofPair left right) 0 64 (flags ||| parent)

/-- Joins neighbours; a value without a right neighbour moves up unchanged. -/
def joinPairs (key : Chaining) (flags : UInt32) : List Chaining → List Chaining
  | left :: right :: rest => join key flags left right :: joinPairs key flags rest
  | rest => rest

/-- Joins level by level until two values are left, which the root joins. -/
def joinAll (key : Chaining) (flags : UInt32) : Nat → List Chaining → Chaining
  | _, [] => key
  | _, [value] => value
  | _, [left, right] => join key (flags ||| root) left right
  | 0, value :: _ => value
  | fuel + 1, values => joinAll key flags fuel (joinPairs key flags values)

def hash (key : Chaining) (flags : UInt32) (bytes : List UInt8) : Chaining :=
  match pieces 1024 bytes.length bytes with
  | [single] => chunk key 0 flags root single
  | several => joinAll key flags several.length (chunks key flags 0 several)

def contextKey (context : List UInt8) : Chaining := hash iv deriveKeyContext context

def derive (key : Chaining) (bytes : List UInt8) : Chaining := hash key deriveKeyMaterial bytes

end RepairMining.Blake3
