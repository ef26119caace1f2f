/-! The MD5 digest of a text, in lower-case hexadecimal. Equal texts have equal digests; nothing
here depends on the converse. -/
namespace RequestSuite.Text.Digest

structure State where
  a : UInt32
  b : UInt32
  c : UInt32
  d : UInt32
  deriving DecidableEq, Repr

def initial : State := ⟨0x67452301, 0xefcdab89, 0x98badcfe, 0x10325476⟩

def addends : Array UInt32 :=
  #[0xd76aa478, 0xe8c7b756, 0x242070db, 0xc1bdceee, 0xf57c0faf, 0x4787c62a, 0xa8304613, 0xfd469501,
   0x698098d8, 0x8b44f7af, 0xffff5bb1, 0x895cd7be, 0x6b901122, 0xfd987193, 0xa679438e, 0x49b40821,
   0xf61e2562, 0xc040b340, 0x265e5a51, 0xe9b6c7aa, 0xd62f105d, 0x02441453, 0xd8a1e681, 0xe7d3fbc8,
   0x21e1cde6, 0xc33707d6, 0xf4d50d87, 0x455a14ed, 0xa9e3e905, 0xfcefa3f8, 0x676f02d9, 0x8d2a4c8a,
   0xfffa3942, 0x8771f681, 0x6d9d6122, 0xfde5380c, 0xa4beea44, 0x4bdecfa9, 0xf6bb4b60, 0xbebfbc70,
   0x289b7ec6, 0xeaa127fa, 0xd4ef3085, 0x04881d05, 0xd9d4d039, 0xe6db99e5, 0x1fa27cf8, 0xc4ac5665,
   0xf4292244, 0x432aff97, 0xab9423a7, 0xfc93a039, 0x655b59c3, 0x8f0ccc92, 0xffeff47d, 0x85845dd1,
   0x6fa87e4f, 0xfe2ce6e0, 0xa3014314, 0x4e0811a1, 0xf7537e82, 0xbd3af235, 0x2ad7d2bb, 0xeb86d391]

def shifts : Array UInt32 := #[7, 12, 17, 22, 5, 9, 14, 20, 4, 11, 16, 23, 6, 10, 15, 21]

def rotate (x n : UInt32) : UInt32 := (x <<< n) ||| (x >>> (32 - n))

def mix (s : State) (step : Nat) : UInt32 × Nat :=
  if step < 16 then ((s.b &&& s.c) ||| (~~~s.b &&& s.d), step)
  else if step < 32 then ((s.d &&& s.b) ||| (~~~s.d &&& s.c), (5 * step + 1) % 16)
  else if step < 48 then (s.b ^^^ s.c ^^^ s.d, (3 * step + 5) % 16)
  else (s.c ^^^ (s.b ||| ~~~s.d), (7 * step) % 16)

def advance (words : Array UInt32) (s : State) (step : Nat) : State :=
  let (mixed, word) := mix s step
  let sum := mixed + s.a + addends.getD step 0 + words.getD word 0
  ⟨s.d, s.b + rotate sum (shifts.getD (4 * (step / 16) + step % 4) 0), s.b, s.c⟩

def lowFirst (count n : Nat) : List UInt8 :=
  (List.range count).map fun i => UInt8.ofNat (n >>> (8 * i))

def padded (bytes : List UInt8) : Array UInt8 :=
  let zeros := (119 - bytes.length % 64) % 64
  (bytes ++ 0x80 :: (List.replicate zeros 0 ++ lowFirst 8 (8 * bytes.length))).toArray

def wordAt (bytes : Array UInt8) (place : Nat) : UInt32 :=
  [3, 2, 1, 0].foldl (fun word i => (word <<< 8) ||| (bytes.getD (place + i) 0).toUInt32) 0

def absorb (bytes : Array UInt8) (s : State) (block : Nat) : State :=
  let words := ((List.range 16).map fun i => wordAt bytes (64 * block + 4 * i)).toArray
  let mixed := (List.range 64).foldl (advance words) s
  ⟨s.a + mixed.a, s.b + mixed.b, s.c + mixed.c, s.d + mixed.d⟩

def final (bytes : List UInt8) : State :=
  let whole := padded bytes
  (List.range (whole.size / 64)).foldl (absorb whole) initial

def hexDigit (n : Nat) : Char := Nat.digitChar (n % 16)

def hexByte (byte : UInt8) : List Char := [hexDigit (byte.toNat / 16), hexDigit byte.toNat]

def ofBytes (bytes : List UInt8) : String :=
  let s := final bytes
  String.ofList ([s.a, s.b, s.c, s.d].flatMap fun word => (lowFirst 4 word.toNat).flatMap hexByte)

def ofText (text : String) : String := ofBytes text.toUTF8.toList

end RequestSuite.Text.Digest
