/-!
# SHA-1

The digest of twenty bytes: the message, a bit, zeros and the length fill blocks of 64 bytes, and
each block stirs a state of five words in eighty rounds.
-/

namespace SqlCompiler.Sha1

/-- The five words of the state. -/
structure State where
  a : UInt32
  b : UInt32
  c : UInt32
  d : UInt32
  e : UInt32
deriving DecidableEq

/-- The state before the first block. -/
def initial : State :=
  ⟨0x67452301, 0xEFCDAB89, 0x98BADCFE, 0x10325476, 0xC3D2E1F0⟩

/-- A word turned left by some bits. -/
def rotate (bits : UInt32) (x : UInt32) : UInt32 :=
  (x <<< bits) ||| (x >>> (32 - bits))

/-- The bytes of a number, the highest first. -/
def bigEndian (width n : Nat) : List UInt8 :=
  (List.range width).map fun i => UInt8.ofNat (n >>> (8 * (width - 1 - i)))

/-- A message filled up to whole blocks. -/
def padMessage (message : List UInt8) : List UInt8 :=
  let zeros := (119 - message.length % 64) % 64
  message ++ 0x80 :: List.replicate zeros 0 ++ bigEndian 8 (8 * message.length)

/-- The words of a block. -/
def words : List UInt8 → List UInt32
  | a :: b :: c :: d :: rest =>
    (a.toUInt32 <<< 24 ||| b.toUInt32 <<< 16 ||| c.toUInt32 <<< 8 ||| d.toUInt32) :: words rest
  | _ => []

/-- One more word of the schedule; the words are given last first. -/
def nextWord (schedule : List UInt32) : UInt32 :=
  let word := fun i => schedule.getD i 0
  rotate 1 (word 2 ^^^ word 7 ^^^ word 13 ^^^ word 15)

/-- The schedule of a block, extended by some words. -/
def extend : Nat → List UInt32 → List UInt32
  | 0, schedule => schedule
  | n + 1, schedule => extend n (nextWord schedule :: schedule)

/-- The mixing function and the constant of a round. -/
def mix (round : Nat) (s : State) : UInt32 × UInt32 :=
  if round < 20 then ((s.b &&& s.c) ||| (~~~s.b &&& s.d), 0x5A827999)
  else if round < 40 then (s.b ^^^ s.c ^^^ s.d, 0x6ED9EBA1)
  else if round < 60 then ((s.b &&& s.c) ||| (s.b &&& s.d) ||| (s.c &&& s.d), 0x8F1BBCDC)
  else (s.b ^^^ s.c ^^^ s.d, 0xCA62C1D6)

/-- One round. -/
def step (s : State) (round : Nat) (word : UInt32) : State :=
  let (f, k) := mix round s
  ⟨rotate 5 s.a + f + s.e + k + word, s.a, rotate 30 s.b, s.c, s.d⟩

/-- The rounds of a schedule, from a round on. -/
def rounds (round : Nat) (s : State) : List UInt32 → State
  | [] => s
  | word :: rest => rounds (round + 1) (step s round word) rest

/-- Stirs a block into the state. -/
def compress (s : State) (block : List UInt8) : State :=
  let r := rounds 0 s (extend 64 (words block).reverse).reverse
  ⟨s.a + r.a, s.b + r.b, s.c + r.c, s.d + r.d, s.e + r.e⟩

/-- Stirs blocks of 64 bytes into the state, at most `bound` of them. -/
def compressAll (bound : Nat) (s : State) (bytes : List UInt8) : State :=
  match bound, bytes with
  | 0, _ | _, [] => s
  | bound + 1, bytes => compressAll bound (compress s (bytes.take 64)) (bytes.drop 64)

/-- The digest of a message. -/
def digest (message : List UInt8) : List UInt8 :=
  let bytes := padMessage message
  let s := compressAll bytes.length initial bytes
  [s.a, s.b, s.c, s.d, s.e].flatMap fun word => bigEndian 4 word.toNat

example : (digest []).take 4 = [0xda, 0x39, 0xa3, 0xee] := by decide +kernel

end SqlCompiler.Sha1
