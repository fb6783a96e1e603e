import Mathlib.Algebra.Group.Nat.Defs
import Mathlib.Data.List.Basic

set_option autoImplicit false

/-!
# SHA-256

The hash on words as numbers below 2^32, and its hexadecimal digest.
-/

namespace CartoSentry.Foundation.Sha256

def wordModulus : Nat := 2 ^ 32

/-- A word rotated to the right. -/
def rotate (word amount : Nat) : Nat :=
  (word >>> amount) ||| ((word <<< (32 - amount)) % wordModulus)

def roundConstants : List Nat :=
  [0x428a2f98, 0x71374491, 0xb5c0fbcf, 0xe9b5dba5, 0x3956c25b, 0x59f111f1, 0x923f82a4, 0xab1c5ed5,
    0xd807aa98, 0x12835b01, 0x243185be, 0x550c7dc3, 0x72be5d74, 0x80deb1fe, 0x9bdc06a7, 0xc19bf174,
    0xe49b69c1, 0xefbe4786, 0x0fc19dc6, 0x240ca1cc, 0x2de92c6f, 0x4a7484aa, 0x5cb0a9dc, 0x76f988da,
    0x983e5152, 0xa831c66d, 0xb00327c8, 0xbf597fc7, 0xc6e00bf3, 0xd5a79147, 0x06ca6351, 0x14292967,
    0x27b70a85, 0x2e1b2138, 0x4d2c6dfc, 0x53380d13, 0x650a7354, 0x766a0abb, 0x81c2c92e, 0x92722c85,
    0xa2bfe8a1, 0xa81a664b, 0xc24b8b70, 0xc76c51a3, 0xd192e819, 0xd6990624, 0xf40e3585, 0x106aa070,
    0x19a4c116, 0x1e376c08, 0x2748774c, 0x34b0bcb5, 0x391c0cb3, 0x4ed8aa4a, 0x5b9cca4f, 0x682e6ff3,
    0x748f82ee, 0x78a5636f, 0x84c87814, 0x8cc70208, 0x90befffa, 0xa4506ceb, 0xbef9a3f7, 0xc67178f2]

/-- The eight words of the hash. -/
structure State where
  a : Nat
  b : Nat
  c : Nat
  d : Nat
  e : Nat
  f : Nat
  g : Nat
  h : Nat

def initial : State where
  a := 0x6a09e667
  b := 0xbb67ae85
  c := 0x3c6ef372
  d := 0xa54ff53a
  e := 0x510e527f
  f := 0x9b05688c
  g := 0x1f83d9ab
  h := 0x5be0cd19

/-- The words of the message schedule from the last sixteen, the newest in front. -/
def schedule : Nat → List Nat → List Nat
  | 0, _ => []
  | count + 1, window =>
    let early := window.getD 14 0
    let late := window.getD 1 0
    let low := rotate early 7 ^^^ rotate early 18 ^^^ (early >>> 3)
    let high := rotate late 17 ^^^ rotate late 19 ^^^ (late >>> 10)
    let word := (window.getD 15 0 + low + window.getD 6 0 + high) % wordModulus
    window.getD 15 0 :: schedule count (word :: window.take 15)

/-- One round. -/
def mix (state : State) (word constant : Nat) : State :=
  let high := rotate state.e 6 ^^^ rotate state.e 11 ^^^ rotate state.e 25
  let choice := (state.e &&& state.f) ^^^ ((state.e ^^^ (wordModulus - 1)) &&& state.g)
  let first := state.h + high + choice + constant + word
  let low := rotate state.a 2 ^^^ rotate state.a 13 ^^^ rotate state.a 22
  let majority := (state.a &&& state.b) ^^^ (state.a &&& state.c) ^^^ (state.b &&& state.c)
  { a := (first + low + majority) % wordModulus, b := state.a, c := state.b, d := state.c,
    e := (state.d + first) % wordModulus, f := state.e, g := state.f, h := state.g }

def compress (state : State) (block : List Nat) : State :=
  let mixed := ((schedule 64 block.reverse).zip roundConstants).foldl
    (fun current round => mix current round.1 round.2) state
  { a := (state.a + mixed.a) % wordModulus, b := (state.b + mixed.b) % wordModulus,
    c := (state.c + mixed.c) % wordModulus, d := (state.d + mixed.d) % wordModulus,
    e := (state.e + mixed.e) % wordModulus, f := (state.f + mixed.f) % wordModulus,
    g := (state.g + mixed.g) % wordModulus, h := (state.h + mixed.h) % wordModulus }

/-- Four bytes a word, the highest in front. -/
def words : List UInt8 → List Nat
  | a :: b :: c :: d :: rest =>
    (((a.toNat * 256 + b.toNat) * 256 + c.toNat) * 256 + d.toNat) :: words rest
  | _ => []

/-- The bytes with the padding and the length in bits. -/
def padded (bytes : List UInt8) : List UInt8 :=
  bytes ++ 0x80 :: (List.replicate ((119 - bytes.length % 64) % 64) 0 ++
    (List.range 8).map fun index => UInt8.ofNat (bytes.length * 8 / 256 ^ (7 - index) % 256))

/-- Sixteen words a block. -/
def blocks : Nat → List Nat → List (List Nat)
  | 0, _ => []
  | count + 1, items => items.take 16 :: blocks count (items.drop 16)

def hash (bytes : List UInt8) : State :=
  let items := words (padded bytes)
  (blocks (items.length / 16) items).foldl compress initial

/-- A word as eight hexadecimal digits. -/
def hexWord (word : Nat) : List Char :=
  (List.range 8).map fun index => Nat.digitChar (word / 16 ^ (7 - index) % 16)

def hexdigest (bytes : List UInt8) : List Char :=
  let state := hash bytes
  [state.a, state.b, state.c, state.d, state.e, state.f, state.g, state.h].flatMap hexWord

theorem hexdigest_length (bytes : List UInt8) : (hexdigest bytes).length = 64 := by
  unfold hexdigest hexWord
  simp

/-- Every character of a digest is a hexadecimal digit. -/
theorem mem_hexdigest {bytes : List UInt8} {c : Char} (h : c ∈ hexdigest bytes) :
    ∃ digit < 16, c = Nat.digitChar digit := by
  obtain ⟨word, _, hword⟩ := List.mem_flatMap.mp h
  obtain ⟨index, _, rfl⟩ := List.mem_map.mp hword
  exact ⟨_, Nat.mod_lt _ (by decide), rfl⟩

example : hexdigest [97, 98, 99] =
    "ba7816bf8f01cfea414140de5dae2223b00361a396177a9cb410ff61f20015ad".toList := by
  decide +kernel

end CartoSentry.Foundation.Sha256
