import Mathlib.Algebra.Group.Nat.Defs
import Mathlib.Data.List.Basic
import SwitchLanPlay.Bytes
/-!
# AesGcm — authenticated encryption, and AES-128 in Galois/counter mode

An `Aead` encrypts under a key and a nonce into a text of the same length and a tag, and decrypts only under the right tag:
what was encrypted comes back.  A key stream and a tag function make one (`Aead.ofStream`), of which `AesGcm.aead` is the
one with AES-128 as its block cipher and nothing authenticated besides the text.  An `Aes` is a block cipher together with
the mode, with keys made of bytes; `AesGcm.aes` is the one of AES-128.
-/

open Wire

/-- Authenticated encryption with keys in `κ` and tags of `n` bytes. -/
structure Aead (κ : Type) (n : Nat) where
  /-- Key, nonce and text to the encrypted text and the tag. -/
  encryptAndDigest : κ → Bytes → Bytes → Bytes × Bytes
  /-- Key, nonce, encrypted text and tag to the text, `none` for a wrong tag. -/
  decryptAndVerify : κ → Bytes → Bytes → Bytes → Option Bytes
  length_text : ∀ k nonce text, (encryptAndDigest k nonce text).1.length = text.length
  length_tag : ∀ k nonce text, (encryptAndDigest k nonce text).2.length = n
  decrypt_encrypt : ∀ k nonce text,
    decryptAndVerify k nonce (encryptAndDigest k nonce text).1 (encryptAndDigest k nonce text).2 = some text

/-- A block cipher with blocks of 16 bytes, as it is and as a mode with tags of 16 bytes.  Any 16 bytes are a key; which others
are is left open. -/
structure Aes (κ : Type) where
  /-- The key that bytes are, `none` for bytes that are none. -/
  new : Bytes → Option κ
  /-- The blocks of a text under a key, one by one. -/
  encrypt : κ → Bytes → Bytes
  gcm : Aead κ 16
  new_isSome : ∀ key, key.length = 16 → (new key).isSome = true
  length_encrypt : ∀ k data, data.length % 16 = 0 → (encrypt k data).length = data.length

namespace Aead

def xorBytes (a b : Bytes) : Bytes := List.zipWith (· ^^^ ·) a b

theorem length_xorBytes {a b : Bytes} (h : b.length ≤ a.length) : (xorBytes a b).length = b.length := by
  rw [xorBytes, List.length_zipWith]
  omega

/-- **Xored twice with one stream, bytes are what they were.** -/
theorem xorBytes_xorBytes : ∀ {a b : Bytes}, b.length ≤ a.length → xorBytes a (xorBytes a b) = b
  | a, [], _ => by simp [xorBytes]
  | [], _ :: _, h => absurd h (by simp)
  | x :: a, y :: b, h => by
    have hrest : b.length ≤ a.length := by simpa using h
    have hone : x ^^^ (x ^^^ y) = y := by rw [← UInt8.xor_assoc, UInt8.xor_self, UInt8.zero_xor]
    show (x ^^^ (x ^^^ y)) :: xorBytes a (xorBytes a b) = y :: b
    rw [hone, xorBytes_xorBytes hrest]

/-- The text is xored with a key stream, and the tag is one of the encrypted text. -/
def ofStream {κ : Type} (n : Nat) (stream : κ → Bytes → Nat → Bytes) (tag : κ → Bytes → Bytes → Bytes)
    (hstream : ∀ k nonce m, m ≤ (stream k nonce m).length) (htag : ∀ k nonce text, (tag k nonce text).length = n) :
    Aead κ n where
  encryptAndDigest k nonce text :=
    (xorBytes (stream k nonce text.length) text, tag k nonce (xorBytes (stream k nonce text.length) text))
  decryptAndVerify k nonce text t := if t = tag k nonce text then some (xorBytes (stream k nonce text.length) text) else none
  length_text k nonce text := length_xorBytes (hstream k nonce text.length)
  length_tag k nonce text := htag k nonce _
  decrypt_encrypt k nonce text := by
    have hlen := length_xorBytes (hstream k nonce text.length)
    rw [if_pos rfl, hlen, xorBytes_xorBytes (hstream k nonce text.length)]

end Aead

namespace AesGcm

/-! ## The block cipher -/

def toBytes (x : BitVec 128) : Bytes := (List.range 16).map (fun i => UInt8.ofNat (x.toNat / 256 ^ (15 - i)))

def ofBytes (b : Bytes) : BitVec 128 := BitVec.ofNat 128 (b.foldl (fun n c => 256 * n + c.toNat) 0)

theorem length_toBytes (x : BitVec 128) : (toBytes x).length = 16 := by simp [toBytes]

def sbox : Bytes :=
  [
    0x63, 0x7c, 0x77, 0x7b, 0xf2, 0x6b, 0x6f, 0xc5, 0x30, 0x01, 0x67, 0x2b, 0xfe, 0xd7, 0xab, 0x76,
    0xca, 0x82, 0xc9, 0x7d, 0xfa, 0x59, 0x47, 0xf0, 0xad, 0xd4, 0xa2, 0xaf, 0x9c, 0xa4, 0x72, 0xc0,
    0xb7, 0xfd, 0x93, 0x26, 0x36, 0x3f, 0xf7, 0xcc, 0x34, 0xa5, 0xe5, 0xf1, 0x71, 0xd8, 0x31, 0x15,
    0x04, 0xc7, 0x23, 0xc3, 0x18, 0x96, 0x05, 0x9a, 0x07, 0x12, 0x80, 0xe2, 0xeb, 0x27, 0xb2, 0x75,
    0x09, 0x83, 0x2c, 0x1a, 0x1b, 0x6e, 0x5a, 0xa0, 0x52, 0x3b, 0xd6, 0xb3, 0x29, 0xe3, 0x2f, 0x84,
    0x53, 0xd1, 0x00, 0xed, 0x20, 0xfc, 0xb1, 0x5b, 0x6a, 0xcb, 0xbe, 0x39, 0x4a, 0x4c, 0x58, 0xcf,
    0xd0, 0xef, 0xaa, 0xfb, 0x43, 0x4d, 0x33, 0x85, 0x45, 0xf9, 0x02, 0x7f, 0x50, 0x3c, 0x9f, 0xa8,
    0x51, 0xa3, 0x40, 0x8f, 0x92, 0x9d, 0x38, 0xf5, 0xbc, 0xb6, 0xda, 0x21, 0x10, 0xff, 0xf3, 0xd2,
    0xcd, 0x0c, 0x13, 0xec, 0x5f, 0x97, 0x44, 0x17, 0xc4, 0xa7, 0x7e, 0x3d, 0x64, 0x5d, 0x19, 0x73,
    0x60, 0x81, 0x4f, 0xdc, 0x22, 0x2a, 0x90, 0x88, 0x46, 0xee, 0xb8, 0x14, 0xde, 0x5e, 0x0b, 0xdb,
    0xe0, 0x32, 0x3a, 0x0a, 0x49, 0x06, 0x24, 0x5c, 0xc2, 0xd3, 0xac, 0x62, 0x91, 0x95, 0xe4, 0x79,
    0xe7, 0xc8, 0x37, 0x6d, 0x8d, 0xd5, 0x4e, 0xa9, 0x6c, 0x56, 0xf4, 0xea, 0x65, 0x7a, 0xae, 0x08,
    0xba, 0x78, 0x25, 0x2e, 0x1c, 0xa6, 0xb4, 0xc6, 0xe8, 0xdd, 0x74, 0x1f, 0x4b, 0xbd, 0x8b, 0x8a,
    0x70, 0x3e, 0xb5, 0x66, 0x48, 0x03, 0xf6, 0x0e, 0x61, 0x35, 0x57, 0xb9, 0x86, 0xc1, 0x1d, 0x9e,
    0xe1, 0xf8, 0x98, 0x11, 0x69, 0xd9, 0x8e, 0x94, 0x9b, 0x1e, 0x87, 0xe9, 0xce, 0x55, 0x28, 0xdf,
    0x8c, 0xa1, 0x89, 0x0d, 0xbf, 0xe6, 0x42, 0x68, 0x41, 0x99, 0x2d, 0x0f, 0xb0, 0x54, 0xbb, 0x16
  ]

def subBytes (s : Bytes) : Bytes := s.map (fun b => byteAt sbox b.toNat)

/-- The state is column by column; row `r` turns left by `r`. -/
def shiftRows (s : Bytes) : Bytes := [0, 5, 10, 15, 4, 9, 14, 3, 8, 13, 2, 7, 12, 1, 6, 11].map (byteAt s)

def xtime (b : UInt8) : UInt8 := (b <<< 1) ^^^ (if b &&& 0x80 = 0 then 0 else 0x1b)

def mixColumn (a b c d : UInt8) : Bytes :=
  let t := a ^^^ b ^^^ c ^^^ d
  [a ^^^ t ^^^ xtime (a ^^^ b), b ^^^ t ^^^ xtime (b ^^^ c), c ^^^ t ^^^ xtime (c ^^^ d), d ^^^ t ^^^ xtime (d ^^^ a)]

def mixColumns : Bytes → Bytes
  | a :: b :: c :: d :: s => mixColumn a b c d ++ mixColumns s
  | _ => []

/-- The next round key. -/
def nextKey (rcon : UInt8) (k : Bytes) : Bytes :=
  let turned := subBytes [byteAt k 13, byteAt k 14, byteAt k 15, byteAt k 12]
  let w0 := Aead.xorBytes (Aead.xorBytes turned [rcon, 0, 0, 0]) (bytesAt k 0 4)
  let w1 := Aead.xorBytes w0 (bytesAt k 4 4)
  let w2 := Aead.xorBytes w1 (bytesAt k 8 4)
  let w3 := Aead.xorBytes w2 (bytesAt k 12 4)
  w0 ++ w1 ++ w2 ++ w3

/-- The rounds but the last, which does not mix the columns. -/
def rounds : List UInt8 → Bytes → Bytes → Bytes
  | [], _, s => s
  | [rcon], k, s => Aead.xorBytes (shiftRows (subBytes s)) (nextKey rcon k)
  | rcon :: rest, k, s =>
    rounds rest (nextKey rcon k) (Aead.xorBytes (mixColumns (shiftRows (subBytes s))) (nextKey rcon k))

def encryptBlock (key : Bytes) (x : BitVec 128) : BitVec 128 :=
  ofBytes (rounds [0x01, 0x02, 0x04, 0x08, 0x10, 0x20, 0x40, 0x80, 0x1b, 0x36] key (Aead.xorBytes (toBytes x) key))

/-! ## The mode -/

/-- One bit of a product: the sum so far and the factor, shifted. -/
def mulStep (x : BitVec 128) (acc : BitVec 128 × BitVec 128) (i : Nat) : BitVec 128 × BitVec 128 :=
  (if x.getMsbD i then acc.1 ^^^ acc.2 else acc.1,
    if acc.2.getLsbD 0 then (acc.2 >>> 1) ^^^ (0xE1 <<< 120) else acc.2 >>> 1)

def mul (x y : BitVec 128) : BitVec 128 := ((List.range 128).foldl (mulStep x) (0, y)).1

/-- The blocks of a text, the last filled up with zeros. -/
def blocks (b : Bytes) : List (BitVec 128) :=
  (List.range ((b.length + 15) / 16)).map (fun i =>
    let c := bytesAt b (16 * i) 16
    ofBytes (c ++ List.replicate (16 - c.length) 0))

def ghash (h : BitVec 128) (xs : List (BitVec 128)) : BitVec 128 := xs.foldl (fun y x => mul (y ^^^ x) h) 0

/-- The lengths in bits of what is authenticated besides the text, and of the text. -/
def lengths (n : Nat) : BitVec 128 := BitVec.ofNat 128 (8 * n)

/-- The first counter block. -/
def counter0 (h : BitVec 128) (nonce : Bytes) : BitVec 128 :=
  if nonce.length = 12 then ofBytes (nonce ++ [0, 0, 0, 1]) else ghash h (blocks nonce ++ [lengths nonce.length])

/-- The low 32 bits count. -/
def counter (j : BitVec 128) (i : Nat) : BitVec 128 :=
  BitVec.ofNat 128 (j.toNat / 2 ^ 32 * 2 ^ 32 + (j.toNat + i) % 2 ^ 32)

def stream (key nonce : Bytes) (n : Nat) : Bytes :=
  (List.range ((n + 15) / 16)).flatMap (fun i =>
    toBytes (encryptBlock key (counter (counter0 (encryptBlock key 0) nonce) (i + 1))))

def tag (macLen : Nat) (key nonce text : Bytes) : Bytes :=
  (toBytes (ghash (encryptBlock key 0) (blocks text ++ [lengths text.length]) ^^^
    encryptBlock key (counter0 (encryptBlock key 0) nonce))).take macLen

theorem length_stream (key nonce : Bytes) (n : Nat) : n ≤ (stream key nonce n).length := by
  simp only [stream, List.length_flatMap, length_toBytes, List.map_const', List.length_range,
    List.sum_replicate_nat]
  omega

theorem length_tag {macLen : Nat} (h : macLen ≤ 16) (key nonce text : Bytes) : (tag macLen key nonce text).length = macLen := by
  rw [tag, List.length_take, length_toBytes]
  omega

/-- Keys of 16 bytes. -/
abbrev Key := { k : Bytes // k.length = 16 }

/-- `AES.new(key, AES.MODE_GCM, nonce, mac_len)`. -/
def aead (macLen : Nat) (h : macLen ≤ 16) : Aead Key macLen :=
  Aead.ofStream macLen (fun k => stream k.1) (fun k => tag macLen k.1) (fun k => length_stream k.1)
    (fun k => length_tag h k.1)

def encryptBlocks (key data : Bytes) : Bytes := (blocks data).flatMap (fun x => toBytes (encryptBlock key x))

theorem length_encryptBlocks (key : Bytes) {data : Bytes} (h : data.length % 16 = 0) :
    (encryptBlocks key data).length = data.length := by
  have hcount : (data.length + 15) / 16 * 16 = data.length := by omega
  simp only [encryptBlocks, List.length_flatMap, length_toBytes, List.map_const', List.sum_replicate_nat]
  simpa [blocks] using hcount

/-- Keys of 16 bytes and no others. -/
def aes : Aes Key where
  new key := if h : key.length = 16 then some ⟨key, h⟩ else none
  encrypt k := encryptBlocks k.1
  gcm := aead 16 (Nat.le_refl 16)
  new_isSome key h := by rw [dif_pos h, Option.isSome_some]
  length_encrypt k _ h := length_encryptBlocks k.1 h

/-- Sixteen zero bytes under the zero key and nonce. -/
example : (stream (List.replicate 16 0) (List.replicate 12 0) 16, tag 16 (List.replicate 16 0) (List.replicate 12 0)
    (stream (List.replicate 16 0) (List.replicate 12 0) 16)) =
    ([0x03, 0x88, 0xda, 0xce, 0x60, 0xb6, 0xa3, 0x92, 0xf3, 0x28, 0xc2, 0xb9, 0x71, 0xb2, 0xfe, 0x78],
      [0xab, 0x6e, 0x47, 0xd4, 0x2c, 0xec, 0x13, 0xbd, 0xf5, 0x3a, 0x67, 0xb2, 0x12, 0x57, 0xbd, 0xdf]) := by
  decide +kernel

end AesGcm
