import AgentRuntimeOps.Lib.Bytes

/-!
# SHA-256

The hash function of FIPS 180-4 on byte lists, over `Nat` words reduced modulo `2 ^ 32`.  Nothing
in this development looks inside it: the clients use that a digest has 32 bytes
(`length_sha256`), and that its hexadecimal text has 64 characters out of `0-9a-f`
(`length_hexdigest`, `hexdigest_all`).  It is defined in full so that concrete runs can be evaluated.
-/

namespace AgentRuntimeOps.Lib

namespace Sha256

/-- Addition of 32-bit words. -/
def add (x y : Nat) : Nat := (x + y) % 0x100000000

/-- Rotation of a 32-bit word to the right. -/
def rotr (n x : Nat) : Nat := (x >>> n) ||| (x <<< (32 - n) % 0x100000000)

/-- `Σ₀` of the compression function. -/
def bigSigma0 (x : Nat) : Nat := rotr 2 x ^^^ rotr 13 x ^^^ rotr 22 x

/-- `Σ₁` of the compression function. -/
def bigSigma1 (x : Nat) : Nat := rotr 6 x ^^^ rotr 11 x ^^^ rotr 25 x

/-- `σ₀` of the message schedule. -/
def sigma0 (x : Nat) : Nat := rotr 7 x ^^^ rotr 18 x ^^^ (x >>> 3)

/-- `σ₁` of the message schedule. -/
def sigma1 (x : Nat) : Nat := rotr 17 x ^^^ rotr 19 x ^^^ (x >>> 10)

/-- The choice function. -/
def ch (x y z : Nat) : Nat := (x &&& y) ^^^ ((0xffffffff ^^^ x) &&& z)

/-- The majority function. -/
def maj (x y z : Nat) : Nat := (x &&& y) ^^^ (x &&& z) ^^^ (y &&& z)

/-- The round constants. -/
def roundConstants : List Nat := [
  0x428a2f98, 0x71374491, 0xb5c0fbcf, 0xe9b5dba5, 0x3956c25b, 0x59f111f1, 0x923f82a4, 0xab1c5ed5,
  0xd807aa98, 0x12835b01, 0x243185be, 0x550c7dc3, 0x72be5d74, 0x80deb1fe, 0x9bdc06a7, 0xc19bf174,
  0xe49b69c1, 0xefbe4786, 0x0fc19dc6, 0x240ca1cc, 0x2de92c6f, 0x4a7484aa, 0x5cb0a9dc, 0x76f988da,
  0x983e5152, 0xa831c66d, 0xb00327c8, 0xbf597fc7, 0xc6e00bf3, 0xd5a79147, 0x06ca6351, 0x14292967,
  0x27b70a85, 0x2e1b2138, 0x4d2c6dfc, 0x53380d13, 0x650a7354, 0x766a0abb, 0x81c2c92e, 0x92722c85,
  0xa2bfe8a1, 0xa81a664b, 0xc24b8b70, 0xc76c51a3, 0xd192e819, 0xd6990624, 0xf40e3585, 0x106aa070,
  0x19a4c116, 0x1e376c08, 0x2748774c, 0x34b0bcb5, 0x391c0cb3, 0x4ed8aa4a, 0x5b9cca4f, 0x682e6ff3,
  0x748f82ee, 0x78a5636f, 0x84c87814, 0x8cc70208, 0x90befffa, 0xa4506ceb, 0xbef9a3f7, 0xc67178f2]

/-- The eight working words. -/
structure State where
  a : Nat
  b : Nat
  c : Nat
  d : Nat
  e : Nat
  f : Nat
  g : Nat
  h : Nat

/-- The initial hash value. -/
def initial : State :=
  ⟨0x6a09e667, 0xbb67ae85, 0x3c6ef372, 0xa54ff53a, 0x510e527f, 0x9b05688c, 0x1f83d9ab, 0x5be0cd19⟩

/-- One round: the working words, a round constant and a word of the schedule. -/
def round (s : State) (kw : Nat × Nat) : State :=
  let t1 := add (add (add (add s.h (bigSigma1 s.e)) (ch s.e s.f s.g)) kw.1) kw.2
  let t2 := add (bigSigma0 s.a) (maj s.a s.b s.c)
  ⟨add t1 t2, s.a, s.b, s.c, add s.d t1, s.e, s.f, s.g⟩

/-- Extend the reversed message schedule by `n` words. -/
def extend : Nat → List Nat → List Nat
  | 0, ws => ws
  | n + 1, ws =>
    extend n (add (add (add (sigma1 (ws.getD 1 0)) (ws.getD 6 0)) (sigma0 (ws.getD 14 0)))
      (ws.getD 15 0) :: ws)

/-- The word-wise sum of two states. -/
def State.plus (s t : State) : State :=
  ⟨add s.a t.a, add s.b t.b, add s.c t.c, add s.d t.d, add s.e t.e, add s.f t.f, add s.g t.g,
    add s.h t.h⟩

/-- Absorb one block of sixteen words. -/
def compress (s : State) (block : List Nat) : State :=
  s.plus ((roundConstants.zip (extend 48 block.reverse).reverse).foldl round s)

/-- Big-endian words of four bytes. -/
def words : List UInt8 → List Nat
  | a :: b :: c :: d :: rest =>
    (a.toNat * 0x1000000 + b.toNat * 0x10000 + c.toNat * 0x100 + d.toNat) :: words rest
  | _ => []

/-- `n` big-endian bytes of a number. -/
def bytesBE : Nat → Nat → List UInt8
  | 0, _ => []
  | n + 1, x => bytesBE n (x / 256) ++ [UInt8.ofNat (x % 256)]

/-- The message with its padding. -/
def pad (message : List UInt8) : List UInt8 :=
  message ++ 0x80 :: List.replicate ((119 - message.length % 64) % 64) 0 ++
    bytesBE 8 (message.length * 8)

/-- Absorb at most `n` blocks. -/
def absorb : Nat → State → List Nat → State
  | 0, s, _ => s
  | _, s, [] => s
  | n + 1, s, ws => absorb n (compress s (ws.take 16)) (ws.drop 16)

/-- The digest a state stands for. -/
def State.bytes (s : State) : List UInt8 :=
  [s.a, s.b, s.c, s.d, s.e, s.f, s.g, s.h].flatMap (bytesBE 4)

end Sha256

open Sha256 in
/-- `hashlib.sha256(message).digest()`. -/
def sha256 (message : List UInt8) : List UInt8 :=
  (absorb (message.length / 64 + 2) initial (words (pad message))).bytes

/-- `hashlib.sha256(message).hexdigest()`. -/
def hexdigest (message : List UInt8) : List Char :=
  (sha256 message).flatMap fun byte => [hexDigit (byte.toNat / 16), hexDigit (byte.toNat % 16)]

example : hexdigest [97, 98, 99] =
    "ba7816bf8f01cfea414140de5dae2223b00361a396177a9cb410ff61f20015ad".toList := by decide +kernel

@[simp] lemma length_sha256 (message : List UInt8) : (sha256 message).length = 32 := by
  simp [sha256, Sha256.State.bytes, Sha256.bytesBE]

attribute [irreducible] sha256

lemma length_hexdigest (message : List UInt8) : (hexdigest message).length = 64 := by
  rw [hexdigest, List.length_flatMap]
  simp

lemma hexdigest_all (message : List UInt8) : (hexdigest message).all isHexDigit = true := by
  rw [hexdigest, List.all_eq_true]
  intro c hc
  obtain ⟨byte, -, hc⟩ := List.mem_flatMap.mp hc
  have hbyte := byte.toNat_lt
  rcases List.mem_cons.mp hc with rfl | hc
  · exact isHexDigit_hexDigit (by omega)
  · rw [List.mem_singleton] at hc
    subst hc
    exact isHexDigit_hexDigit (by omega)

end AgentRuntimeOps.Lib
