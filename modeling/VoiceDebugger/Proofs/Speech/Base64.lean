import VoiceDebugger.Speech.Base64

/-!
Bytes written in characters and read back.

Three bytes are four times six bits. What is left at the end is one byte or two, and padding
completes its group. Reading skips whatever else stands between the characters.
-/

namespace VoiceDebugger.Base64

/-! ### The alphabet -/

/-- The characters that carry bits, each at the place that its bits tell. -/
def alphabet : List Char := [
  'A', 'B', 'C', 'D', 'E', 'F', 'G', 'H', 'I', 'J', 'K', 'L', 'M', 'N', 'O', 'P',
  'Q', 'R', 'S', 'T', 'U', 'V', 'W', 'X', 'Y', 'Z', 'a', 'b', 'c', 'd', 'e', 'f',
  'g', 'h', 'i', 'j', 'k', 'l', 'm', 'n', 'o', 'p', 'q', 'r', 's', 't', 'u', 'v',
  'w', 'x', 'y', 'z', '0', '1', '2', '3', '4', '5', '6', '7', '8', '9', '+', '/']

/-- The character for six bits. -/
def digit (n : Nat) : Char :=
  alphabet.getD n 'A'

set_option maxRecDepth 4096 in
theorem sextet?_digit {n : Nat} (small : n < 64) : sextet? (digit n) = some n := by
  have all : ∀ k < 64, sextet? (digit k) = some k := by decide
  exact all n small

theorem digit_ne_padding {n : Nat} (small : n < 64) : digit n ≠ '=' := by
  intro same
  have bits := sextet?_digit small
  rw [same] at bits
  cases bits

set_option maxRecDepth 4096 in
theorem ascii_digit {n : Nat} (small : n < 64) : (digit n).toNat < 128 := by
  have all : ∀ k < 64, (digit k).toNat < 128 := by decide
  exact all n small

set_option maxRecDepth 4096 in
/-- No other character of the first 128 carries bits. -/
theorem sextet?_eq_none {c : Char} (ascii : c.toNat < 128) (outside : c ∉ alphabet) :
    sextet? c = none := by
  have all : ∀ k < 128, sextet? (Char.ofNat k) = none ∨ Char.ofNat k ∈ alphabet := by decide
  have either := all c.toNat ascii
  rw [Char.ofNat_toNat] at either
  exact either.resolve_right outside

/-! ### Writing -/

/-- Bytes in groups of three, the last of which is padded. -/
def encode : List UInt8 → List Char
  | [] => []
  | [x] => [digit (x.toNat / 4), digit (x.toNat % 4 * 16), '=', '=']
  | [x, y] =>
    [digit (x.toNat / 4), digit (x.toNat % 4 * 16 + y.toNat / 16), digit (y.toNat % 16 * 4), '=']
  | x :: y :: z :: rest =>
    digit (x.toNat / 4) :: digit (x.toNat % 4 * 16 + y.toNat / 16) ::
      digit (y.toNat % 16 * 4 + z.toNat / 64) :: digit (z.toNat % 64) :: encode rest

/-- A text with characters put in that mean nothing: any of the first 128 that neither carry bits
nor pad. -/
inductive Sprinkled : List Char → List Char → Prop where
  | nil : Sprinkled [] []
  | kept (c : Char) {cs text : List Char} : Sprinkled cs text → Sprinkled (c :: cs) (c :: text)
  | noise {c : Char} {cs text : List Char} (ascii : c.toNat < 128) (outside : c ∉ alphabet)
    (noPadding : c ≠ '=') : Sprinkled cs text → Sprinkled cs (c :: text)

/-! ### Reading one character -/

theorem decodeFrom_noise {c : Char} (noPadding : c ≠ '=') (bitless : sextet? c = none)
    (group : List Nat) (padding count : Nat) (rest : List Char) :
    decodeFrom group padding count (c :: rest) = decodeFrom group padding count rest := by
  rw [decodeFrom, if_neg (by simpa using noPadding), bitless]

theorem decodeFrom_digit {n : Nat} (small : n < 64) {group : List Nat} (more : group.length < 3)
    (padding count : Nat) (rest : List Char) :
    decodeFrom group padding count (digit n :: rest) =
      decodeFrom (group ++ [n]) 0 (count + 1) rest := by
  have bits := sextet?_digit small
  have noPadding := digit_ne_padding small
  have unfilled : ¬ (group.length == 3) = true := by
    rw [beq_iff_eq]
    omega
  rw [decodeFrom, if_neg (by simpa using noPadding), bits]
  exact if_neg unfilled

theorem decodeFrom_lastDigit {n : Nat} (small : n < 64) {group : List Nat} (full : group.length = 3)
    (padding count : Nat) (rest : List Char) :
    decodeFrom group padding count (digit n :: rest) =
      (decodeFrom [] 0 (count + 1) rest).map (bytesOf (group ++ [n]) ++ ·) := by
  have bits := sextet?_digit small
  have noPadding := digit_ne_padding small
  rw [decodeFrom, if_neg (by simpa using noPadding), bits]
  simp only [full, BEq.rfl, if_true]
  rfl

/-- Padding is counted until it completes a group. -/
theorem decodeFrom_padding {group : List Nat} (begun : 2 ≤ group.length) (padding count : Nat)
    (rest : List Char) :
    decodeFrom group padding count ('=' :: rest) =
      if group.length + padding + 1 ≥ 4 then .ok (bytesOf group)
      else decodeFrom group (padding + 1) count rest := by
  have enough : ¬ group.length < 2 := by omega
  rw [decodeFrom, if_pos (beq_self_eq_true _), if_neg enough]

/-! ### Reading a group -/

theorem decodeFrom_whole {a b c d : Nat} (ha : a < 64) (hb : b < 64) (hc : c < 64) (hd : d < 64)
    (count : Nat) (rest : List Char) :
    decodeFrom [] 0 count (digit a :: digit b :: digit c :: digit d :: rest) =
      (decodeFrom [] 0 (count + 4) rest).map (bytesOf [a, b, c, d] ++ ·) := by
  rw [decodeFrom_digit ha (by simp), decodeFrom_digit hb (by simp), decodeFrom_digit hc (by simp),
    decodeFrom_lastDigit hd rfl]
  rfl

theorem decodeFrom_three {a b c : Nat} (ha : a < 64) (hb : b < 64) (hc : c < 64) (count : Nat) :
    decodeFrom [] 0 count [digit a, digit b, digit c, '='] = .ok (bytesOf [a, b, c]) := by
  rw [decodeFrom_digit ha (by simp), decodeFrom_digit hb (by simp), decodeFrom_digit hc (by simp),
    decodeFrom_padding (by simp)]
  rfl

theorem decodeFrom_two {a b : Nat} (ha : a < 64) (hb : b < 64) (count : Nat) :
    decodeFrom [] 0 count [digit a, digit b, '=', '='] = .ok (bytesOf [a, b]) := by
  rw [decodeFrom_digit ha (by simp), decodeFrom_digit hb (by simp), decodeFrom_padding (by simp),
    if_neg (by simp), decodeFrom_padding (by simp)]
  rfl

/-! ### The bytes of a group -/

theorem ofNat_eq_of_mod {n : Nat} {x : UInt8} (same : n % 256 = x.toNat) : UInt8.ofNat n = x := by
  apply UInt8.toNat_inj.mp
  rw [UInt8.toNat_ofNat', same]

theorem bytesOf_two (x : UInt8) : bytesOf [x.toNat / 4, x.toNat % 4 * 16] = [x] := by
  have hx := x.toNat_lt
  have first : UInt8.ofNat (x.toNat / 4 * 4 + x.toNat % 4 * 16 / 16) = x :=
    ofNat_eq_of_mod (by omega)
  rw [bytesOf, first]

theorem bytesOf_three (x y : UInt8) :
    bytesOf [x.toNat / 4, x.toNat % 4 * 16 + y.toNat / 16, y.toNat % 16 * 4] = [x, y] := by
  have hx := x.toNat_lt
  have hy := y.toNat_lt
  have first : UInt8.ofNat (x.toNat / 4 * 4 + (x.toNat % 4 * 16 + y.toNat / 16) / 16) = x :=
    ofNat_eq_of_mod (by omega)
  have second :
      UInt8.ofNat ((x.toNat % 4 * 16 + y.toNat / 16) * 16 + y.toNat % 16 * 4 / 4) = y :=
    ofNat_eq_of_mod (by omega)
  rw [bytesOf, first, second]

theorem bytesOf_whole (x y z : UInt8) :
    bytesOf [x.toNat / 4, x.toNat % 4 * 16 + y.toNat / 16, y.toNat % 16 * 4 + z.toNat / 64,
      z.toNat % 64] = [x, y, z] := by
  have hx := x.toNat_lt
  have hy := y.toNat_lt
  have hz := z.toNat_lt
  have first : UInt8.ofNat (x.toNat / 4 * 4 + (x.toNat % 4 * 16 + y.toNat / 16) / 16) = x :=
    ofNat_eq_of_mod (by omega)
  have second : UInt8.ofNat
      ((x.toNat % 4 * 16 + y.toNat / 16) * 16 + (y.toNat % 16 * 4 + z.toNat / 64) / 4) = y :=
    ofNat_eq_of_mod (by omega)
  have third : UInt8.ofNat ((y.toNat % 16 * 4 + z.toNat / 64) * 64 + z.toNat % 64) = z :=
    ofNat_eq_of_mod (by omega)
  rw [bytesOf, first, second, third]

/-! ### Reading back -/

/-- Noise makes no difference. -/
theorem decodeFrom_sprinkled {cs text : List Char} (mixed : Sprinkled cs text) (group : List Nat)
    (padding count : Nat) :
    decodeFrom group padding count text = decodeFrom group padding count cs := by
  induction mixed generalizing group padding count with
  | nil => rfl
  | kept c _ ih => simp only [decodeFrom, ih]
  | noise ascii outside noPadding _ ih =>
    rw [decodeFrom_noise noPadding (sextet?_eq_none ascii outside), ih]

/-- What is written is read back, group by group. -/
theorem decodeFrom_encode (content : List UInt8) (count : Nat) :
    decodeFrom [] 0 count (encode content) = .ok content := by
  induction content using encode.induct generalizing count with
  | case1 => rfl
  | case2 x =>
    have hx := x.toNat_lt
    rw [encode, decodeFrom_two (by omega) (by omega), bytesOf_two]
  | case3 x y =>
    have hx := x.toNat_lt
    have hy := y.toNat_lt
    rw [encode, decodeFrom_three (by omega) (by omega) (by omega), bytesOf_three]
  | case4 x y z rest ih =>
    have hx := x.toNat_lt
    have hy := y.toNat_lt
    have hz := z.toNat_lt
    rw [encode, decodeFrom_whole (by omega) (by omega) (by omega) (by omega), bytesOf_whole, ih]
    rfl

theorem ascii_encode (content : List UInt8) : ∀ c ∈ encode content, c.toNat < 128 := by
  induction content using encode.induct with
  | case1 => simp [encode]
  | case2 x =>
    have hx := x.toNat_lt
    simp only [encode, List.forall_mem_cons]
    exact ⟨ascii_digit (by omega), ascii_digit (by omega), by decide, by decide, by simp⟩
  | case3 x y =>
    have hx := x.toNat_lt
    have hy := y.toNat_lt
    simp only [encode, List.forall_mem_cons]
    exact ⟨ascii_digit (by omega), ascii_digit (by omega), ascii_digit (by omega), by decide, by simp⟩
  | case4 x y z rest ih =>
    have hx := x.toNat_lt
    have hy := y.toNat_lt
    have hz := z.toNat_lt
    simp only [encode, List.forall_mem_cons]
    exact ⟨ascii_digit (by omega), ascii_digit (by omega), ascii_digit (by omega),
      ascii_digit (by omega), ih⟩

theorem Sprinkled.ascii {cs text : List Char} (mixed : Sprinkled cs text)
    (before : ∀ c ∈ cs, c.toNat < 128) : ∀ c ∈ text, c.toNat < 128 := by
  induction mixed with
  | nil => exact before
  | kept c _ ih =>
    rw [List.forall_mem_cons] at before
    exact List.forall_mem_cons.mpr ⟨before.1, ih before.2⟩
  | noise ascii _ _ _ ih => exact List.forall_mem_cons.mpr ⟨ascii, ih before⟩

/-- Whatever noise is put in, the bytes that were written are read. -/
theorem decode_sprinkled {content : List UInt8} {text : List Char}
    (written : Sprinkled (encode content) text) : decode text = .ok content := by
  have plain : ¬ (text.any fun c => c.toNat ≥ 128) = true := by
    rw [List.any_eq_true]
    intro ⟨c, member, large⟩
    have small := written.ascii (ascii_encode content) c member
    rw [decide_eq_true_iff] at large
    omega
  rw [decode, if_neg plain, decodeFrom_sprinkled written, decodeFrom_encode]

end VoiceDebugger.Base64
