import Todex.Lib.Bytes

/-!
# SHA-256, HMAC and ChaCha20-Poly1305
-/

namespace Sha256

/-- The first 32 bits of the fractional parts of the cube roots of the first 64 primes. -/
def roundConstants : List UInt32 :=
  [0x428a2f98, 0x71374491, 0xb5c0fbcf, 0xe9b5dba5, 0x3956c25b, 0x59f111f1, 0x923f82a4, 0xab1c5ed5,
    0xd807aa98, 0x12835b01, 0x243185be, 0x550c7dc3, 0x72be5d74, 0x80deb1fe, 0x9bdc06a7, 0xc19bf174,
    0xe49b69c1, 0xefbe4786, 0x0fc19dc6, 0x240ca1cc, 0x2de92c6f, 0x4a7484aa, 0x5cb0a9dc, 0x76f988da,
    0x983e5152, 0xa831c66d, 0xb00327c8, 0xbf597fc7, 0xc6e00bf3, 0xd5a79147, 0x06ca6351, 0x14292967,
    0x27b70a85, 0x2e1b2138, 0x4d2c6dfc, 0x53380d13, 0x650a7354, 0x766a0abb, 0x81c2c92e, 0x92722c85,
    0xa2bfe8a1, 0xa81a664b, 0xc24b8b70, 0xc76c51a3, 0xd192e819, 0xd6990624, 0xf40e3585, 0x106aa070,
    0x19a4c116, 0x1e376c08, 0x2748774c, 0x34b0bcb5, 0x391c0cb3, 0x4ed8aa4a, 0x5b9cca4f, 0x682e6ff3,
    0x748f82ee, 0x78a5636f, 0x84c87814, 0x8cc70208, 0x90befffa, 0xa4506ceb, 0xbef9a3f7, 0xc67178f2]

/-- The working state. -/
structure State where
  a : UInt32
  b : UInt32
  c : UInt32
  d : UInt32
  e : UInt32
  f : UInt32
  g : UInt32
  h : UInt32

def initial : State where
  a := 0x6a09e667
  b := 0xbb67ae85
  c := 0x3c6ef372
  d := 0xa54ff53a
  e := 0x510e527f
  f := 0x9b05688c
  g := 0x1f83d9ab
  h := 0x5be0cd19

def rotr (x : UInt32) (n : UInt32) : UInt32 := (x >>> n) ||| (x <<< (32 - n))

/-- The message schedule, newest word first. -/
def extend : Nat → List UInt32 → List UInt32
  | 0, w => w
  | n + 1, w =>
    let w₁ := w.getD 1 0
    let w₁₄ := w.getD 14 0
    let s₀ := rotr w₁₄ 7 ^^^ rotr w₁₄ 18 ^^^ (w₁₄ >>> 3)
    let s₁ := rotr w₁ 17 ^^^ rotr w₁ 19 ^^^ (w₁ >>> 10)
    extend n ((w.getD 15 0 + s₀ + w.getD 6 0 + s₁) :: w)

def round (s : State) (kw : UInt32 × UInt32) : State :=
  let s₁ := rotr s.e 6 ^^^ rotr s.e 11 ^^^ rotr s.e 25
  let ch := (s.e &&& s.f) ^^^ (~~~s.e &&& s.g)
  let t₁ := s.h + s₁ + ch + kw.1 + kw.2
  let s₀ := rotr s.a 2 ^^^ rotr s.a 13 ^^^ rotr s.a 22
  let maj := (s.a &&& s.b) ^^^ (s.a &&& s.c) ^^^ (s.b &&& s.c)
  { a := t₁ + (s₀ + maj), b := s.a, c := s.b, d := s.c, e := s.d + t₁, f := s.e, g := s.f, h := s.g }

/-- The big-endian words of a block. -/
def words : Bytes → List UInt32
  | a :: b :: c :: d :: rest =>
    ((a.toUInt32 <<< 24) ||| (b.toUInt32 <<< 16) ||| (c.toUInt32 <<< 8) ||| d.toUInt32) ::
      words rest
  | _ => []

def compress (s : State) (block : Bytes) : State :=
  let w := (extend 48 (words block).reverse).reverse
  let t := (roundConstants.zip w).foldl round s
  { a := s.a + t.a, b := s.b + t.b, c := s.c + t.c, d := s.d + t.d, e := s.e + t.e, f := s.f + t.f,
    g := s.g + t.g, h := s.h + t.h }

/-- A one bit, zeros, and the length in bits. -/
def pad (b : Bytes) : Bytes :=
  b ++ 0x80 :: List.replicate ((119 - b.length % 64) % 64) 0 ++ Bytes.be 8 (8 * b.length)

def compressAll : Nat → State → Bytes → State
  | 0, s, _ => s
  | n + 1, s, b => compressAll n (compress s (b.take 64)) (b.drop 64)

def digest (b : Bytes) : Bytes :=
  let p := pad b
  let s := compressAll (p.length / 64) initial p
  [s.a, s.b, s.c, s.d, s.e, s.f, s.g, s.h].flatMap fun w => Bytes.be 4 w.toNat

@[simp] lemma length_digest (b : Bytes) : (digest b).length = 32 := by
  simp [digest]

example : digest (Bytes.ofString "abc") =
    [0xba, 0x78, 0x16, 0xbf, 0x8f, 0x01, 0xcf, 0xea, 0x41, 0x41, 0x40, 0xde, 0x5d, 0xae, 0x22, 0x23,
      0xb0, 0x03, 0x61, 0xa3, 0x96, 0x17, 0x7a, 0x9c, 0xb4, 0x10, 0xff, 0x61, 0xf2, 0x00, 0x15,
      0xad] := by
  decide +kernel

/-- HMAC with SHA-256. -/
def hmac (key msg : Bytes) : Bytes :=
  let key := if key.length ≤ 64 then key else digest key
  let key := key ++ List.replicate (64 - key.length) 0
  digest (key.map (· ^^^ 0x5c) ++ digest (key.map (· ^^^ 0x36) ++ msg))

end Sha256

namespace ChaCha20

def rotl (x : UInt32) (n : UInt32) : UInt32 := (x <<< n) ||| (x >>> (32 - n))

/-- A quarter round on the words at four positions. -/
def quarterRound (s : List UInt32) (q : Nat × Nat × Nat × Nat) : List UInt32 :=
  let (i, j, k, l) := q
  let a := s.getD i 0
  let b := s.getD j 0
  let c := s.getD k 0
  let d := s.getD l 0
  let a := a + b
  let d := rotl (d ^^^ a) 16
  let c := c + d
  let b := rotl (b ^^^ c) 12
  let a := a + b
  let d := rotl (d ^^^ a) 8
  let c := c + d
  let b := rotl (b ^^^ c) 7
  (((s.set i a).set j b).set k c).set l d

/-- The columns, then the diagonals. -/
def doubleRound (s : List UInt32) : List UInt32 :=
  [(0, 4, 8, 12), (1, 5, 9, 13), (2, 6, 10, 14), (3, 7, 11, 15),
    (0, 5, 10, 15), (1, 6, 11, 12), (2, 7, 8, 13), (3, 4, 9, 14)].foldl quarterRound s

/-- Little-endian words. -/
def words (b : Bytes) (n : Nat) : List UInt32 :=
  (List.range n).map fun i => UInt32.ofNat (Bytes.leVal ((b.drop (4 * i)).take 4))

/-- The initial state: constants, key, counter, nonce. -/
def state (key nonce : Bytes) (counter : Nat) : List UInt32 :=
  [0x61707865, 0x3320646e, 0x79622d32, 0x6b206574] ++ words key 8 ++ [UInt32.ofNat counter] ++
    words nonce 3

/-- One block of the key stream. -/
def block (key nonce : Bytes) (counter : Nat) : Bytes :=
  let s := state key nonce counter
  let t := doubleRound^[10] s
  (List.range 16).flatMap fun i => Bytes.le 4 (t.getD i 0 + s.getD i 0).toNat

/-- The key stream from block 1 on, at least `n` bytes of it. -/
def keyStream (key nonce : Bytes) (n : Nat) : Bytes :=
  (List.range (n / 64 + 1)).flatMap fun i => block key nonce (i + 1)

def apply (key nonce msg : Bytes) : Bytes :=
  List.zipWith (· ^^^ ·) msg (keyStream key nonce msg.length)

@[simp] lemma length_block (key nonce : Bytes) (counter : Nat) : (block key nonce counter).length = 64 := by
  simp [block]

lemma le_length_keyStream (key nonce : Bytes) (n : Nat) : n ≤ (keyStream key nonce n).length := by
  simp only [keyStream, List.length_flatMap, length_block, List.map_const', List.length_range,
    List.sum_replicate, smul_eq_mul]
  omega

@[simp] lemma length_apply (key nonce msg : Bytes) : (apply key nonce msg).length = msg.length := by
  rw [apply, List.length_zipWith]
  exact Nat.min_eq_left (le_length_keyStream key nonce msg.length)

private lemma zipWith_xor_cancel {msg stream : Bytes} (h : msg.length ≤ stream.length) :
    List.zipWith (· ^^^ ·) (List.zipWith (· ^^^ ·) msg stream) stream = msg := by
  induction msg generalizing stream with
  | nil => rfl
  | cons x msg ih =>
    cases stream with
    | nil => simp at h
    | cons y stream =>
      have hlen : msg.length ≤ stream.length := by simpa using h
      simp [ih hlen]

lemma apply_apply (key nonce msg : Bytes) : apply key nonce (apply key nonce msg) = msg := by
  rw [apply, length_apply]
  exact zipWith_xor_cancel (le_length_keyStream key nonce msg.length)

end ChaCha20

namespace Poly1305

/-- The accumulator after the message, sixteen bytes at a time. -/
def accumulate (r : Nat) : Nat → Nat → Bytes → Nat
  | 0, acc, _ => acc
  | n + 1, acc, msg =>
    if msg.isEmpty then acc
    else
      accumulate r n ((acc + Bytes.leVal (msg.take 16 ++ [1])) * r % (2 ^ 130 - 5)) (msg.drop 16)

/-- The tag of a message under a one-time key. -/
def tag (key msg : Bytes) : Bytes :=
  let r := Bytes.leVal (key.take 16) &&& 0x0ffffffc0ffffffc0ffffffc0fffffff
  let s := Bytes.leVal ((key.drop 16).take 16)
  Bytes.le 16 (accumulate r msg.length 0 msg + s)

@[simp] lemma length_tag (key msg : Bytes) : (tag key msg).length = 16 := by simp [tag]

end Poly1305

namespace ChaCha20Poly1305

def pad16 (b : Bytes) : Bytes := List.replicate ((16 - b.length % 16) % 16) 0

def tag (key nonce aad ciphertext : Bytes) : Bytes :=
  Poly1305.tag ((ChaCha20.block key nonce 0).take 32) (aad ++ pad16 aad ++ ciphertext ++
    pad16 ciphertext ++ Bytes.le 8 aad.length ++ Bytes.le 8 ciphertext.length)

/-- The ciphertext and its tag. -/
def encrypt (key nonce aad msg : Bytes) : Bytes :=
  let ciphertext := ChaCha20.apply key nonce msg
  ciphertext ++ tag key nonce aad ciphertext

/-- The message, if the tag is right. -/
def decrypt (key nonce aad sealed : Bytes) : Option Bytes :=
  let n := sealed.length - 16
  if 16 ≤ sealed.length ∧ sealed.drop n = tag key nonce aad (sealed.take n) then
    some (ChaCha20.apply key nonce (sealed.take n))
  else none

lemma length_encrypt (key nonce aad msg : Bytes) : (encrypt key nonce aad msg).length = msg.length + 16 := by
  simp [encrypt, tag]

lemma decrypt_encrypt (key nonce aad msg : Bytes) : decrypt key nonce aad (encrypt key nonce aad msg) = some msg := by
  have hlen : (encrypt key nonce aad msg).length - 16 = (ChaCha20.apply key nonce msg).length := by
    rw [length_encrypt, ChaCha20.length_apply, Nat.add_sub_cancel]
  have htake : (encrypt key nonce aad msg).take (ChaCha20.apply key nonce msg).length =
      ChaCha20.apply key nonce msg := List.take_left
  have hdrop : (encrypt key nonce aad msg).drop (ChaCha20.apply key nonce msg).length =
      tag key nonce aad (ChaCha20.apply key nonce msg) := List.drop_left
  rw [decrypt, hlen, htake, hdrop, if_pos ⟨by rw [length_encrypt]; omega, rfl⟩, ChaCha20.apply_apply]

example : (encrypt ((List.range 32).map fun i => UInt8.ofNat (0x80 + i))
    [7, 0, 0, 0, 0x40, 0x41, 0x42, 0x43, 0x44, 0x45, 0x46, 0x47]
    [0x50, 0x51, 0x52, 0x53, 0xc0, 0xc1, 0xc2, 0xc3, 0xc4, 0xc5, 0xc6, 0xc7]
    (Bytes.ofString ("Ladies and Gentlemen of the class of '99: If I could offer you only one tip " ++
      "for the future, sunscreen would be it."))).drop 114 =
    [0x1a, 0xe1, 0x0b, 0x59, 0x4f, 0x09, 0xe2, 0x6a, 0x7e, 0x90, 0x2e, 0xcb, 0xd0, 0x60, 0x06,
      0x91] := by
  decide +kernel

end ChaCha20Poly1305
