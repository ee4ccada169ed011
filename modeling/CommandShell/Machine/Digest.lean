set_option autoImplicit false

/-!
# Digests

Short numbers that stand for many bytes: the digests of the usual families, and the checks that are
sums.  Those of the second family are made of the roots of the first primes, which are worked out
here and not written down.
-/

namespace CommandShell.Machine.Digest

/-! ## Blocks and words -/

/-- A byte of some bytes, zero after their end. -/
def byteAt (bytes : ByteArray) (i : Nat) : UInt8 := (bytes[i]?).getD 0

/-- The number of `size` bytes from `start` on, the first byte being the highest. -/
def bigEndian (bytes : ByteArray) (start size : Nat) : Nat :=
  (List.range size).foldl (fun n i => 256 * n + (byteAt bytes (start + i)).toNat) 0

/-- The number of `size` bytes from `start` on, the first byte being the lowest. -/
def littleEndian (bytes : ByteArray) (start size : Nat) : Nat :=
  (List.range size).foldr (fun i n => 256 * n + (byteAt bytes (start + i)).toNat) 0

/-- The lowest bytes of a number, the lowest one first. -/
def lowBytes (size n : Nat) : List UInt8 :=
  (List.range size).map fun i => UInt8.ofNat (n / Nat.pow 256 i)

/-- The lowest bytes of a number, the highest one first. -/
def highBytes (size n : Nat) : List UInt8 := (lowBytes size n).reverse

/-- Bytes filled up to whole blocks: a mark, zeros, and the number of bits in the last bytes. -/
def padded (block : Nat) (length : Nat → List UInt8) (bytes : ByteArray) : ByteArray :=
  let tail := length (8 * bytes.size)
  let used := (bytes.size + 1 + tail.length) % block
  let zeros := if used = 0 then 0 else block - used
  bytes ++ ⟨((0x80 : UInt8) :: List.replicate zeros 0 ++ tail).toArray⟩

/-- Takes in block after block. -/
def overBlocks {σ : Type} (block : Nat) (take : σ → (start : Nat) → σ) (bytes : ByteArray)
    (start : σ) : σ :=
  (List.range (bytes.size / block)).foldl (fun state i => take state (i * block)) start

/-! ## Roots of primes -/

/-- The first primes. -/
def primes : List Nat :=
  (List.range 410).filter fun n =>
    2 ≤ n && (List.range n).all fun d => d < 2 || n % d ≠ 0

/-- The whole part of a root, of so many binary digits at most. -/
def root (degree : Nat) (n : Nat) : (digits : Nat) → Nat
  | 0 => 0
  | digits + 1 => go (digits + 1) 0
where
  /-- Tries the digits one after another, from the highest one on. -/
  go : Nat → Nat → Nat
    | 0, found => found
    | digit + 1, found =>
      let tried := found + Nat.pow 2 digit
      go digit (if Nat.pow tried degree ≤ n then tried else found)

/-- The first binary digits after the point of the root of a prime. -/
def rootDigits (degree digits prime : Nat) : Nat :=
  root degree (prime * Nat.pow 2 (degree * digits)) (digits + 5) % Nat.pow 2 digits

/-! ## The first family -/

/-- The four words that are carried from block to block. -/
structure Quad where
  a : UInt32
  b : UInt32
  c : UInt32
  d : UInt32

/-- A word turned to the left. -/
def turnLeft (word : UInt32) (count : UInt32) : UInt32 :=
  (word <<< count) ||| (word >>> (32 - count))

/-- The constants of the steps. -/
def sineDigits : Array UInt32 :=
  #[0xd76aa478, 0xe8c7b756, 0x242070db, 0xc1bdceee, 0xf57c0faf, 0x4787c62a, 0xa8304613, 0xfd469501,
    0x698098d8, 0x8b44f7af, 0xffff5bb1, 0x895cd7be, 0x6b901122, 0xfd987193, 0xa679438e, 0x49b40821,
    0xf61e2562, 0xc040b340, 0x265e5a51, 0xe9b6c7aa, 0xd62f105d, 0x02441453, 0xd8a1e681, 0xe7d3fbc8,
    0x21e1cde6, 0xc33707d6, 0xf4d50d87, 0x455a14ed, 0xa9e3e905, 0xfcefa3f8, 0x676f02d9, 0x8d2a4c8a,
    0xfffa3942, 0x8771f681, 0x6d9d6122, 0xfde5380c, 0xa4beea44, 0x4bdecfa9, 0xf6bb4b60, 0xbebfbc70,
    0x289b7ec6, 0xeaa127fa, 0xd4ef3085, 0x04881d05, 0xd9d4d039, 0xe6db99e5, 0x1fa27cf8, 0xc4ac5665,
    0xf4292244, 0x432aff97, 0xab9423a7, 0xfc93a039, 0x655b59c3, 0x8f0ccc92, 0xffeff47d, 0x85845dd1,
    0x6fa87e4f, 0xfe2ce6e0, 0xa3014314, 0x4e0811a1, 0xf7537e82, 0xbd3af235, 0x2ad7d2bb, 0xeb86d391]

/-- How far each step turns a word. -/
def sineTurns : List (List UInt32) :=
  [[7, 12, 17, 22], [5, 9, 14, 20], [4, 11, 16, 23], [6, 10, 15, 21]]

/-- One step of a block. -/
def sineStep (bytes : ByteArray) (start : Nat) (q : Quad) (i : Nat) : Quad :=
  let (mixed, place) : UInt32 × Nat := match i / 16 with
    | 0 => ((q.b &&& q.c) ||| (~~~ q.b &&& q.d), i)
    | 1 => ((q.d &&& q.b) ||| (~~~ q.d &&& q.c), (5 * i + 1) % 16)
    | 2 => (q.b ^^^ q.c ^^^ q.d, (3 * i + 5) % 16)
    | _ => (q.c ^^^ (q.b ||| ~~~ q.d), (7 * i) % 16)
  let word := UInt32.ofNat (littleEndian bytes (start + 4 * place) 4)
  let turn := (((sineTurns[i / 16]?).getD [])[i % 4]?).getD 0
  let sum := mixed + q.a + (sineDigits[i]?).getD 0 + word
  ⟨q.d, q.b + turnLeft sum turn, q.b, q.c⟩

/-- The digest of 16 bytes. -/
def md5 (bytes : ByteArray) : List UInt8 :=
  let bytes := padded 64 (lowBytes 8) bytes
  let take (q : Quad) (start : Nat) : Quad :=
    let new := (List.range 64).foldl (sineStep bytes start) q
    ⟨q.a + new.a, q.b + new.b, q.c + new.c, q.d + new.d⟩
  let q := overBlocks 64 take bytes ⟨0x67452301, 0xefcdab89, 0x98badcfe, 0x10325476⟩
  [q.a, q.b, q.c, q.d].flatMap fun word => lowBytes 4 word.toNat

/-- The first 16 words of a block with those that are worked out of them. -/
def schedule {ω : Type} [Inhabited ω] (count : Nat) (first : List ω) (next : Array ω → Nat → ω) :
    Array ω :=
  (List.range (count - 16)).foldl (fun words i => words.push (next words (i + 16))) first.toArray

/-- The digest of 20 bytes. -/
def sha1 (bytes : ByteArray) : List UInt8 :=
  let bytes := padded 64 (highBytes 8) bytes
  let take (state : Quad × UInt32) (start : Nat) : Quad × UInt32 :=
    let first := (List.range 16).map fun i => UInt32.ofNat (bigEndian bytes (start + 4 * i) 4)
    let words := schedule 80 first fun words i =>
      turnLeft (words[i - 3]! ^^^ words[i - 8]! ^^^ words[i - 14]! ^^^ words[i - 16]!) 1
    let step (state : Quad × UInt32) (i : Nat) : Quad × UInt32 :=
      let (q, e) := state
      let (mixed, constant) : UInt32 × UInt32 := match i / 20 with
        | 0 => ((q.b &&& q.c) ||| (~~~ q.b &&& q.d), 0x5a827999)
        | 1 => (q.b ^^^ q.c ^^^ q.d, 0x6ed9eba1)
        | 2 => ((q.b &&& q.c) ||| (q.b &&& q.d) ||| (q.c &&& q.d), 0x8f1bbcdc)
        | _ => (q.b ^^^ q.c ^^^ q.d, 0xca62c1d6)
      (⟨turnLeft q.a 5 + mixed + e + constant + words[i]!, q.a, turnLeft q.b 30, q.c⟩, q.d)
    let (q, e) := state
    let (new, newE) := (List.range 80).foldl step state
    (⟨q.a + new.a, q.b + new.b, q.c + new.c, q.d + new.d⟩, e + newE)
  let (q, e) := overBlocks 64 take bytes
    (⟨0x67452301, 0xefcdab89, 0x98badcfe, 0x10325476⟩, 0xc3d2e1f0)
  [q.a, q.b, q.c, q.d, e].flatMap fun word => highBytes 4 word.toNat

/-! ## The second family -/

/-- The sizes of one half of the second family, in bits, and how far its words are turned. -/
structure WordRules where
  bits : Nat
  rounds : Nat
  /-- For the first and the second sum of a step. -/
  sumTurns : List (List Nat)
  /-- For the two sums by which words are worked out; the last of each is a shift. -/
  wordTurns : List (List Nat)

/-- Words of 32 bits. -/
def shortWords : WordRules :=
  { bits := 32, rounds := 64, sumTurns := [[2, 13, 22], [6, 11, 25]]
    wordTurns := [[7, 18, 3], [17, 19, 10]] }

/-- Words of 64 bits. -/
def longWords : WordRules :=
  { bits := 64, rounds := 80, sumTurns := [[28, 34, 39], [14, 18, 41]]
    wordTurns := [[1, 8, 7], [19, 61, 6]] }

namespace WordRules

/-- A word turned to the right. -/
def turn (rules : WordRules) (word : UInt64) (count : Nat) : UInt64 :=
  if rules.bits = 64 then
    (word >>> UInt64.ofNat count) ||| (word <<< UInt64.ofNat (64 - count))
  else
    let word := word.toUInt32
    ((word >>> UInt32.ofNat count) ||| (word <<< UInt32.ofNat (32 - count))).toUInt64

/-- A word of the size of the rules. -/
def cut (rules : WordRules) (word : UInt64) : UInt64 :=
  if rules.bits = 64 then word else word.toUInt32.toUInt64

/-- The sum of turned words; the last one is shifted only if `shifts`. -/
def mix (rules : WordRules) (turns : List Nat) (shifts : Bool) (word : UInt64) : UInt64 :=
  match turns with
  | [a, b, c] =>
    rules.turn word a ^^^ rules.turn word b
      ^^^ (if shifts then word >>> UInt64.ofNat c else rules.turn word c)
  | _ => 0

/-- One set of turns. -/
def turnsAt (turns : List (List Nat)) (i : Nat) : List Nat := (turns[i]?).getD []

/-- The digest before it is cut to its length. -/
def digest (rules : WordRules) (start : List UInt64) (bytes : ByteArray) : List UInt8 :=
  let size := rules.bits / 8
  let bytes := padded (16 * size) (highBytes (2 * size)) bytes
  let constants := (primes.take rules.rounds).toArray.map fun prime =>
    UInt64.ofNat (rootDigits 3 rules.bits prime)
  let take (state : List UInt64) (start : Nat) : List UInt64 :=
    let first := (List.range 16).map fun i =>
      UInt64.ofNat (bigEndian bytes (start + size * i) size)
    let words := schedule rules.rounds first fun words i =>
      rules.cut (rules.mix (turnsAt rules.wordTurns 1) true words[i - 2]! + words[i - 7]!
        + rules.mix (turnsAt rules.wordTurns 0) true words[i - 15]! + words[i - 16]!)
    let step (state : List UInt64) (i : Nat) : List UInt64 :=
      match state with
      | [a, b, c, d, e, f, g, h] =>
        let one := h + rules.mix (turnsAt rules.sumTurns 1) false e
          + ((e &&& f) ^^^ (~~~ e &&& g)) + constants[i]! + words[i]!
        let two := rules.mix (turnsAt rules.sumTurns 0) false a
          + ((a &&& b) ^^^ (a &&& c) ^^^ (b &&& c))
        [rules.cut (one + two), a, b, c, rules.cut (d + one), e, f, g]
      | state => state
    (state.zip ((List.range rules.rounds).foldl step state)).map fun (old, new) =>
      rules.cut (old + new)
  (overBlocks (16 * size) take bytes start).flatMap fun word => highBytes size word.toNat

end WordRules

/-- What the longer half begins with: digits of the square roots of eight primes. -/
def rootStart (skipped : Nat) : List UInt64 :=
  ((primes.drop skipped).take 8).map fun prime => UInt64.ofNat (rootDigits 2 64 prime)

def sha512 (bytes : ByteArray) : List UInt8 := longWords.digest (rootStart 0) bytes

def sha384 (bytes : ByteArray) : List UInt8 := (longWords.digest (rootStart 8) bytes).take 48

def sha256 (bytes : ByteArray) : List UInt8 :=
  shortWords.digest ((rootStart 0).map fun word => word >>> (32 : UInt64)) bytes

def sha224 (bytes : ByteArray) : List UInt8 :=
  (shortWords.digest ((rootStart 8).map fun word => word.toUInt32.toUInt64) bytes).take 28

/-! ## Sums -/

/-- One more byte for the check by division of polynomials. -/
def divisionStep (check : UInt32) (byte : UInt8) : UInt32 :=
  (List.range 8).foldl (fun check _ =>
    if check &&& 0x80000000 ≠ 0 then (check <<< 1) ^^^ 0x04c11db7 else check <<< 1)
    (check ^^^ (byte.toUInt32 <<< 24))

/-- The check by division of polynomials, which covers the number of bytes too. -/
def crc (bytes : ByteArray) : Nat :=
  let check := bytes.foldl divisionStep (0 : UInt32)
  let size := (lowBytes 8 bytes.size).reverse.dropWhile (· = 0) |>.reverse
  (~~~ (size.foldl divisionStep check)).toNat

/-- The sum of 16 bits that is turned before each byte. -/
def turnedSum (bytes : ByteArray) : Nat :=
  bytes.foldl (fun (sum : Nat) byte => (sum / 2 + sum % 2 * 32768 + byte.toNat) % 65536) 0

/-- The sum of all bytes, folded to 16 bits. -/
def plainSum (bytes : ByteArray) : Nat :=
  let sum := bytes.foldl (fun (sum : Nat) byte => sum + byte.toNat) 0 % 4294967296
  let folded := sum % 65536 + sum / 65536
  folded % 65536 + folded / 65536

end CommandShell.Machine.Digest
