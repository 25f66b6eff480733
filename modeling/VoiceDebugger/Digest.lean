import VoiceDebugger.Text.Utf8

/-!
The MD5 digest of bytes, by which changed files are told from unchanged ones.
-/

namespace VoiceDebugger.Digest

/-- The four words of a digest in the making. -/
structure Words where
  a : UInt32
  b : UInt32
  c : UInt32
  d : UInt32

def Words.start : Words :=
  ⟨0x67452301, 0xEFCDAB89, 0x98BADCFE, 0x10325476⟩

/-- The constants of the steps: the fractional parts of sines. -/
def constants : Array UInt32 := #[
  0xD76AA478, 0xE8C7B756, 0x242070DB, 0xC1BDCEEE, 0xF57C0FAF, 0x4787C62A, 0xA8304613, 0xFD469501,
  0x698098D8, 0x8B44F7AF, 0xFFFF5BB1, 0x895CD7BE, 0x6B901122, 0xFD987193, 0xA679438E, 0x49B40821,
  0xF61E2562, 0xC040B340, 0x265E5A51, 0xE9B6C7AA, 0xD62F105D, 0x02441453, 0xD8A1E681, 0xE7D3FBC8,
  0x21E1CDE6, 0xC33707D6, 0xF4D50D87, 0x455A14ED, 0xA9E3E905, 0xFCEFA3F8, 0x676F02D9, 0x8D2A4C8A,
  0xFFFA3942, 0x8771F681, 0x6D9D6122, 0xFDE5380C, 0xA4BEEA44, 0x4BDECFA9, 0xF6BB4B60, 0xBEBFBC70,
  0x289B7EC6, 0xEAA127FA, 0xD4EF3085, 0x04881D05, 0xD9D4D039, 0xE6DB99E5, 0x1FA27CF8, 0xC4AC5665,
  0xF4292244, 0x432AFF97, 0xAB9423A7, 0xFC93A039, 0x655B59C3, 0x8F0CCC92, 0xFFEFF47D, 0x85845DD1,
  0x6FA87E4F, 0xFE2CE6E0, 0xA3014314, 0x4E0811A1, 0xF7537E82, 0xBD3AF235, 0x2AD7D2BB, 0xEB86D391]

/-- By how many bits the steps of the four rounds turn a word. -/
def turns : Array UInt32 := #[7, 12, 17, 22, 5, 9, 14, 20, 4, 11, 16, 23, 6, 10, 15, 21]

def turnLeft (x n : UInt32) : UInt32 :=
  (x <<< n) ||| (x >>> (32 - n))

/-- How a step mixes three words, and which word of the block it takes. -/
def mix (w : Words) (i : Nat) : UInt32 × Nat :=
  if i < 16 then ((w.b &&& w.c) ||| ((w.b ^^^ 0xFFFFFFFF) &&& w.d), i)
  else if i < 32 then ((w.d &&& w.b) ||| ((w.d ^^^ 0xFFFFFFFF) &&& w.c), (5 * i + 1) % 16)
  else if i < 48 then (w.b ^^^ w.c ^^^ w.d, (3 * i + 5) % 16)
  else (w.c ^^^ (w.b ||| (w.d ^^^ 0xFFFFFFFF)), (7 * i) % 16)

def step (block : Array UInt32) (w : Words) (i : Nat) : Words :=
  let (f, g) := mix w i
  let sum := w.a + f + constants.getD i 0 + block.getD g 0
  ⟨w.d, w.b + turnLeft sum (turns.getD (i / 16 * 4 + i % 4) 0), w.b, w.c⟩

/-- The words of bytes, the lowest byte first. -/
def wordsOf : List UInt8 → List UInt32
  | a :: b :: c :: d :: rest =>
    (a.toUInt32 ||| (b.toUInt32 <<< 8) ||| (c.toUInt32 <<< 16) ||| (d.toUInt32 <<< 24)) ::
      wordsOf rest
  | _ => []

/-- Take one block of sixteen words in. -/
def absorb (w : Words) (block : Array UInt32) : Words :=
  let v := (List.range 64).foldl (step block) w
  ⟨w.a + v.a, w.b + v.b, w.c + v.c, w.d + v.d⟩

/-- Take words in, block by block. -/
def absorbAll (w : Words) (words : List UInt32) : Words :=
  match words with
  | [] => w
  | x :: rest => absorbAll (absorb w ((x :: rest).take 16).toArray) (rest.drop 15)
termination_by words.length
decreasing_by simp only [List.length_drop, List.length_cons]; omega

/-- The lowest bytes of a number, the lowest first. -/
def lowBytes : Nat → Nat → List UInt8
  | 0, _ => []
  | count + 1, n => UInt8.ofNat (n % 256) :: lowBytes count (n / 256)

/-- What is put behind the bytes: a mark, zeros up to a full block, and the number of bits. -/
def padding (length : Nat) : List UInt8 :=
  0x80 :: List.replicate ((119 - length % 64) % 64) 0 ++ lowBytes 8 (8 * length)

/-- The digest of bytes in hexadecimal digits. -/
def ofBytes (bytes : List UInt8) : String :=
  let w := absorbAll Words.start (wordsOf (bytes ++ padding bytes.length))
  let out := [w.a, w.b, w.c, w.d].flatMap fun x => lowBytes 4 x.toNat
  String.join (out.map Text.byteHex)

end VoiceDebugger.Digest
