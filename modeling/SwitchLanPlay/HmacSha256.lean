import SwitchLanPlay.Bytes
/-!
# HmacSha256 — keyed hashes of byte strings

SHA-256 of a byte string and HMAC over it, as their standards have them.  A digest has 32 bytes (`length_hmac`).
-/

open Wire

namespace Sha256

def initial : List UInt32 :=
  [0x6a09e667, 0xbb67ae85, 0x3c6ef372, 0xa54ff53a, 0x510e527f, 0x9b05688c, 0x1f83d9ab, 0x5be0cd19]

def roundConstants : List UInt32 :=
  [0x428a2f98, 0x71374491, 0xb5c0fbcf, 0xe9b5dba5, 0x3956c25b, 0x59f111f1, 0x923f82a4, 0xab1c5ed5,
   0xd807aa98, 0x12835b01, 0x243185be, 0x550c7dc3, 0x72be5d74, 0x80deb1fe, 0x9bdc06a7, 0xc19bf174,
   0xe49b69c1, 0xefbe4786, 0x0fc19dc6, 0x240ca1cc, 0x2de92c6f, 0x4a7484aa, 0x5cb0a9dc, 0x76f988da,
   0x983e5152, 0xa831c66d, 0xb00327c8, 0xbf597fc7, 0xc6e00bf3, 0xd5a79147, 0x06ca6351, 0x14292967,
   0x27b70a85, 0x2e1b2138, 0x4d2c6dfc, 0x53380d13, 0x650a7354, 0x766a0abb, 0x81c2c92e, 0x92722c85,
   0xa2bfe8a1, 0xa81a664b, 0xc24b8b70, 0xc76c51a3, 0xd192e819, 0xd6990624, 0xf40e3585, 0x106aa070,
   0x19a4c116, 0x1e376c08, 0x2748774c, 0x34b0bcb5, 0x391c0cb3, 0x4ed8aa4a, 0x5b9cca4f, 0x682e6ff3,
   0x748f82ee, 0x78a5636f, 0x84c87814, 0x8cc70208, 0x90befffa, 0xa4506ceb, 0xbef9a3f7, 0xc67178f2]

def rotr (x n : UInt32) : UInt32 := (x >>> n) ||| (x <<< (32 - n))

/-- The words of a block and those after them, the latest first. -/
def schedule : Nat → List UInt32 → List UInt32
  | 0, w => w
  | n + 1, w =>
    let x := w.getD 14 0
    let y := w.getD 1 0
    let s0 := rotr x 7 ^^^ rotr x 18 ^^^ (x >>> 3)
    let s1 := rotr y 17 ^^^ rotr y 19 ^^^ (y >>> 10)
    schedule n ((w.getD 15 0 + s0 + w.getD 6 0 + s1) :: w)

def round : List UInt32 → UInt32 × UInt32 → List UInt32
  | [a, b, c, d, e, f, g, h], (k, w) =>
    let s1 := rotr e 6 ^^^ rotr e 11 ^^^ rotr e 25
    let ch := (e &&& f) ^^^ (~~~ e &&& g)
    let t1 := h + s1 + ch + k + w
    let s0 := rotr a 2 ^^^ rotr a 13 ^^^ rotr a 22
    let maj := (a &&& b) ^^^ (a &&& c) ^^^ (b &&& c)
    [t1 + (s0 + maj), a, b, c, d + t1, e, f, g]
  | s, _ => s

/-- A block of sixteen words. -/
def compress (s block : List UInt32) : List UInt32 :=
  List.zipWith (· + ·) s ((roundConstants.zip (schedule 48 block.reverse).reverse).foldl round s)

def words : Bytes → List UInt32
  | a :: b :: c :: d :: rest => read32 a b c d :: words rest
  | _ => []

/-- A one bit, zeros up to eight bytes before the end of a block, and the length in bits. -/
def padded (msg : Bytes) : Bytes :=
  msg ++ [0x80] ++ List.replicate ((119 - msg.length % 64) % 64) 0 ++
    be32 (UInt32.ofNat (msg.length / 536870912)) ++ be32 (UInt32.ofNat (8 * msg.length))

def digest (msg : Bytes) : Bytes :=
  let ws := words (padded msg)
  let s := ((List.range (ws.length / 16)).map (fun i => (ws.drop (16 * i)).take 16)).foldl compress initial
  s.flatMap be32

theorem length_round (s : List UInt32) (kw : UInt32 × UInt32) : (round s kw).length = s.length := by
  unfold round
  split <;> rfl

theorem length_compress (s block : List UInt32) : (compress s block).length = s.length := by
  have hrounds : ∀ (kws : List (UInt32 × UInt32)) (t : List UInt32), (kws.foldl round t).length = t.length := by
    intro kws
    induction kws with
    | nil => exact fun _ => rfl
    | cons kw kws ih => exact fun t => (ih _).trans (length_round t kw)
  rw [compress, List.length_zipWith, hrounds, Nat.min_self]

theorem length_digest (msg : Bytes) : (digest msg).length = 32 := by
  have hblocks : ∀ (bs : List (List UInt32)) (s : List UInt32), (bs.foldl compress s).length = s.length := by
    intro bs
    induction bs with
    | nil => exact fun _ => rfl
    | cons b bs ih => exact fun s => (ih _).trans (length_compress s b)
  have hbytes : ∀ ws : List UInt32, (ws.flatMap be32).length = 4 * ws.length := by
    intro ws
    induction ws with
    | nil => rfl
    | cons w ws ih =>
      rw [List.flatMap_cons, List.length_append, ih, length_be32, List.length_cons]
      omega
  rw [digest, hbytes, hblocks]
  rfl

example : digest [97, 98, 99] =
    [0xba, 0x78, 0x16, 0xbf, 0x8f, 0x01, 0xcf, 0xea, 0x41, 0x41, 0x40, 0xde, 0x5d, 0xae, 0x22, 0x23,
     0xb0, 0x03, 0x61, 0xa3, 0x96, 0x17, 0x7a, 0x9c, 0xb4, 0x10, 0xff, 0x61, 0xf2, 0x00, 0x15, 0xad] := by
  decide +kernel

end Sha256

open Sha256

/-- A key of more than a block is hashed first. -/
def hmacKey (key : Bytes) : Bytes :=
  let short := if 64 < key.length then digest key else key
  short ++ List.replicate (64 - short.length) 0

def hmacSha256 (key msg : Bytes) : Bytes :=
  digest ((hmacKey key).map (· ^^^ 0x5c) ++ digest ((hmacKey key).map (· ^^^ 0x36) ++ msg))

theorem length_hmac (key msg : Bytes) : (hmacSha256 key msg).length = 32 := length_digest _
