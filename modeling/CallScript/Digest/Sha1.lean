/-! The SHA-1 digest of a sequence of bytes: the message is padded to blocks of 64 bytes, and each block
of sixteen words, expanded to eighty, is worked into a state of five words. -/
namespace CallScript.Digest

structure State where
  a : UInt32
  b : UInt32
  c : UInt32
  d : UInt32
  e : UInt32
  deriving DecidableEq, Repr

def State.initial : State :=
  ⟨0x67452301, 0xefcdab89, 0x98badcfe, 0x10325476, 0xc3d2e1f0⟩

def rotateLeft (w : UInt32) (n : UInt32) : UInt32 :=
  (w <<< n) ||| (w >>> (32 - n))

def bigEndian (count : Nat) (n : Nat) : List UInt8 :=
  ((List.range count).map (fun i => UInt8.ofNat (n / Nat.pow 256 i % 256))).reverse

/-- The message with a one bit, zeros up to eight bytes before a block's end, and its length in bits. -/
def padded (message : List UInt8) : List UInt8 :=
  let zeros := (119 - message.length % 64) % 64
  message ++ 0x80 :: List.replicate zeros 0 ++ bigEndian 8 (8 * message.length)

def wordsOf : List UInt8 → List UInt32
  | p :: q :: r :: s :: rest =>
      ((p.toUInt32 <<< 24) ||| (q.toUInt32 <<< 16) ||| (r.toUInt32 <<< 8) ||| s.toUInt32) :: wordsOf rest
  | _ => []

def expand : Nat → List UInt32 → List UInt32
  | 0, recent => recent
  | n + 1, recent =>
      let word (i : Nat) : UInt32 := recent.getD i 0
      expand n (rotateLeft (word 2 ^^^ word 7 ^^^ word 13 ^^^ word 15) 1 :: recent)

def schedule (block : List UInt32) : List UInt32 :=
  (expand 64 block.reverse).reverse

def mixing (round : Nat) (s : State) : UInt32 × UInt32 :=
  if round < 20 then ((s.b &&& s.c) ||| ((~~~s.b) &&& s.d), 0x5a827999)
  else if round < 40 then (s.b ^^^ s.c ^^^ s.d, 0x6ed9eba1)
  else if round < 60 then ((s.b &&& s.c) ||| (s.b &&& s.d) ||| (s.c &&& s.d), 0x8f1bbcdc)
  else (s.b ^^^ s.c ^^^ s.d, 0xca62c1d6)

def rounds : Nat → State → List UInt32 → State
  | _, s, [] => s
  | round, s, word :: rest =>
      let (f, k) := mixing round s
      rounds (round + 1) ⟨rotateLeft s.a 5 + f + s.e + k + word, s.a, rotateLeft s.b 30, s.c, s.d⟩ rest

def State.add (s t : State) : State :=
  ⟨s.a + t.a, s.b + t.b, s.c + t.c, s.d + t.d, s.e + t.e⟩

def absorb : Nat → State → List UInt32 → State
  | 0, s, _ => s
  | blocks + 1, s, words => absorb blocks (s.add (rounds 0 s (schedule (words.take 16)))) (words.drop 16)

def sha1 (message : List UInt8) : List UInt8 :=
  let words := wordsOf (padded message)
  let s := absorb (words.length / 16) State.initial words
  [s.a, s.b, s.c, s.d, s.e].flatMap (fun w => bigEndian 4 w.toNat)

def hexText (bytes : List UInt8) : String :=
  String.ofList (bytes.flatMap (fun b => [Nat.digitChar (b.toNat / 16), Nat.digitChar (b.toNat % 16)]))

end CallScript.Digest
