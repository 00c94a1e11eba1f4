import Mathlib.Data.List.Basic

/-!
# SHA-256

The hash function behind every fingerprint and checkpoint digest, as an
executable definition on byte lists.
-/

namespace PyWorkflowKit.Core.Sha256

def roundConstants : List UInt32 := [
  0x428a2f98, 0x71374491, 0xb5c0fbcf, 0xe9b5dba5,
  0x3956c25b, 0x59f111f1, 0x923f82a4, 0xab1c5ed5,
  0xd807aa98, 0x12835b01, 0x243185be, 0x550c7dc3,
  0x72be5d74, 0x80deb1fe, 0x9bdc06a7, 0xc19bf174,
  0xe49b69c1, 0xefbe4786, 0x0fc19dc6, 0x240ca1cc,
  0x2de92c6f, 0x4a7484aa, 0x5cb0a9dc, 0x76f988da,
  0x983e5152, 0xa831c66d, 0xb00327c8, 0xbf597fc7,
  0xc6e00bf3, 0xd5a79147, 0x06ca6351, 0x14292967,
  0x27b70a85, 0x2e1b2138, 0x4d2c6dfc, 0x53380d13,
  0x650a7354, 0x766a0abb, 0x81c2c92e, 0x92722c85,
  0xa2bfe8a1, 0xa81a664b, 0xc24b8b70, 0xc76c51a3,
  0xd192e819, 0xd6990624, 0xf40e3585, 0x106aa070,
  0x19a4c116, 0x1e376c08, 0x2748774c, 0x34b0bcb5,
  0x391c0cb3, 0x4ed8aa4a, 0x5b9cca4f, 0x682e6ff3,
  0x748f82ee, 0x78a5636f, 0x84c87814, 0x8cc70208,
  0x90befffa, 0xa4506ceb, 0xbef9a3f7, 0xc67178f2]

structure Working where
  a : UInt32
  b : UInt32
  c : UInt32
  d : UInt32
  e : UInt32
  f : UInt32
  g : UInt32
  h : UInt32

def initial : Working where
  a := 0x6a09e667
  b := 0xbb67ae85
  c := 0x3c6ef372
  d := 0xa54ff53a
  e := 0x510e527f
  f := 0x9b05688c
  g := 0x1f83d9ab
  h := 0x5be0cd19

def rotateRight (word amount : UInt32) : UInt32 :=
  (word >>> amount) ||| (word <<< (32 - amount))

def bigSigma0 (word : UInt32) : UInt32 :=
  rotateRight word 2 ^^^ rotateRight word 13 ^^^ rotateRight word 22

def bigSigma1 (word : UInt32) : UInt32 :=
  rotateRight word 6 ^^^ rotateRight word 11 ^^^ rotateRight word 25

def smallSigma0 (word : UInt32) : UInt32 :=
  rotateRight word 7 ^^^ rotateRight word 18 ^^^ (word >>> 3)

def smallSigma1 (word : UInt32) : UInt32 :=
  rotateRight word 17 ^^^ rotateRight word 19 ^^^ (word >>> 10)

/-- The message padded to whole blocks: a one bit, zeros and the bit length. -/
def pad (message : List UInt8) : List UInt8 :=
  let length := message.length
  let zeros := (119 - length % 64) % 64
  let bits := 8 * length
  let lengthBytes : List UInt8 :=
    (List.range 8).map fun index => UInt8.ofNat (bits >>> (8 * (7 - index)))
  message ++ [0x80] ++ List.replicate zeros 0 ++ lengthBytes

def words : List UInt8 → List UInt32
  | b0 :: b1 :: b2 :: b3 :: rest =>
      ((b0.toUInt32 <<< 24) ||| (b1.toUInt32 <<< 16) ||| (b2.toUInt32 <<< 8) |||
        b3.toUInt32) :: words rest
  | _ => []

/-- Extend a block of sixteen words, newest word first. -/
def schedule : Nat → List UInt32 → List UInt32
  | 0, newest => newest
  | fuel + 1, newest =>
      let word (back : Nat) := newest.getD (back - 1) 0
      schedule fuel
        ((smallSigma1 (word 2) + word 7 + smallSigma0 (word 15) + word 16) :: newest)

def round (state : Working) (constant word : UInt32) : Working :=
  let choice := (state.e &&& state.f) ^^^ ((~~~ state.e) &&& state.g)
  let majority :=
    (state.a &&& state.b) ^^^ (state.a &&& state.c) ^^^ (state.b &&& state.c)
  let first := state.h + bigSigma1 state.e + choice + constant + word
  let second := bigSigma0 state.a + majority
  ⟨first + second, state.a, state.b, state.c, state.d + first, state.e, state.f,
    state.g⟩

def compress (state : Working) (block : List UInt32) : Working :=
  let expanded := (schedule 48 block.reverse).reverse
  let after := (roundConstants.zip expanded).foldl
    (fun current pair => round current pair.1 pair.2) state
  ⟨state.a + after.a, state.b + after.b, state.c + after.c, state.d + after.d,
    state.e + after.e, state.f + after.f, state.g + after.g, state.h + after.h⟩

def compressAll : Nat → Working → List UInt32 → Working
  | 0, state, _ => state
  | blocks + 1, state, message =>
      compressAll blocks (compress state (message.take 16)) (message.drop 16)

def hexDigit (digit : Nat) : Char :=
  if digit < 10 then Char.ofNat (48 + digit) else Char.ofNat (87 + digit)

def hexWord (word : UInt32) : List Char :=
  (List.range 8).map fun index => hexDigit ((word.toNat >>> (4 * (7 - index))) % 16)

/-- The lowercase hexadecimal digest of a message. -/
def hexDigest (message : List UInt8) : String :=
  let padded := pad message
  let final := compressAll (padded.length / 64) initial (words padded)
  String.ofList ([final.a, final.b, final.c, final.d, final.e, final.f, final.g,
    final.h].flatMap hexWord)

/-- The digest of the UTF-8 encoding of a text. -/
def hexDigestText (text : String) : String :=
  hexDigest text.toUTF8.toList

end PyWorkflowKit.Core.Sha256
