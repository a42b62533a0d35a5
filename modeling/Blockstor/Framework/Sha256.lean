import Mathlib

namespace Blockstor.Framework.Sha256

structure Digest where
  a : UInt32
  b : UInt32
  c : UInt32
  d : UInt32
  e : UInt32
  f : UInt32
  g : UInt32
  h : UInt32
  deriving DecidableEq

variable (x : UInt32) (s : Digest) (message : List UInt8)

def rotr (n : UInt32) : UInt32 := (x >>> n) ||| (x <<< (32-n))

def bigSigma0 : UInt32 := rotr x 2 ^^^ rotr x 13 ^^^ rotr x 22
def bigSigma1 : UInt32 := rotr x 6 ^^^ rotr x 11 ^^^ rotr x 25
def smallSigma0 : UInt32 := rotr x 7 ^^^ rotr x 18 ^^^ (x >>> 3)
def smallSigma1 : UInt32 := rotr x 17 ^^^ rotr x 19 ^^^ (x >>> 10)

def roundConstants : List UInt32 :=
  [0x428a2f98,0x71374491,0xb5c0fbcf,0xe9b5dba5,0x3956c25b,0x59f111f1,0x923f82a4,0xab1c5ed5,
   0xd807aa98,0x12835b01,0x243185be,0x550c7dc3,0x72be5d74,0x80deb1fe,0x9bdc06a7,0xc19bf174,
   0xe49b69c1,0xefbe4786,0x0fc19dc6,0x240ca1cc,0x2de92c6f,0x4a7484aa,0x5cb0a9dc,0x76f988da,
   0x983e5152,0xa831c66d,0xb00327c8,0xbf597fc7,0xc6e00bf3,0xd5a79147,0x06ca6351,0x14292967,
   0x27b70a85,0x2e1b2138,0x4d2c6dfc,0x53380d13,0x650a7354,0x766a0abb,0x81c2c92e,0x92722c85,
   0xa2bfe8a1,0xa81a664b,0xc24b8b70,0xc76c51a3,0xd192e819,0xd6990624,0xf40e3585,0x106aa070,
   0x19a4c116,0x1e376c08,0x2748774c,0x34b0bcb5,0x391c0cb3,0x4ed8aa4a,0x5b9cca4f,0x682e6ff3,
   0x748f82ee,0x78a5636f,0x84c87814,0x8cc70208,0x90befffa,0xa4506ceb,0xbef9a3f7,0xc67178f2]

def initial : Digest :=
  ⟨0x6a09e667,0xbb67ae85,0x3c6ef372,0xa54ff53a,0x510e527f,0x9b05688c,0x1f83d9ab,0x5be0cd19⟩

def round (k w : UInt32) : Digest :=
  let ch := (s.e &&& s.f) ^^^ (~~~s.e &&& s.g)
  let maj := (s.a &&& s.b) ^^^ (s.a &&& s.c) ^^^ (s.b &&& s.c)
  let t1 := s.h+bigSigma1 s.e+ch+k+w
  let t2 := bigSigma0 s.a+maj
  ⟨t1+t2,s.a,s.b,s.c,s.d+t1,s.e,s.f,s.g⟩

def rounds : List UInt32 → List UInt32 → Digest → Digest
  | [],_,s => s
  | k::ks,window,s =>
    let w := window.headD 0
    let next := smallSigma1 (window.getD 14 0)+window.getD 9 0+smallSigma0 (window.getD 1 0)+w
    rounds ks (window.tail++[next]) (round s k w)

def add (t : Digest) : Digest :=
  ⟨s.a+t.a,s.b+t.b,s.c+t.c,s.d+t.d,s.e+t.e,s.f+t.f,s.g+t.g,s.h+t.h⟩

def compress (block : List UInt32) : Digest :=
  add s (rounds roundConstants block s)

def words : List UInt8 → List UInt32
  | a::b::c::d::rest =>
    (a.toUInt32<<<24 ||| b.toUInt32<<<16 ||| c.toUInt32<<<8 ||| d.toUInt32)::words rest
  | _ => []

def lengthBytes (n : Nat) : List UInt8 :=
  [56,48,40,32,24,16,8,0].map fun s => UInt8.ofNat (n/2^s)

def pad : List UInt8 :=
  message++[0x80]++List.replicate ((119-message.length%64)%64) 0++lengthBytes (8*message.length)

/-- Fold the compression function over the sixteen-word blocks; `n` bounds their number. -/
def blocks : Nat → List UInt32 → Digest → Digest
  | 0,_,s => s
  | n+1,ws,s => if ws.isEmpty then s else blocks n (ws.drop 16) (compress s (ws.take 16))

def wordBytes : List UInt8 :=
  [(x>>>24).toUInt8,(x>>>16).toUInt8,(x>>>8).toUInt8,x.toUInt8]

def digest : Digest :=
  let ws := words (pad message)
  blocks (ws.length/16+1) ws initial

def bytes : List UInt8 :=
  [s.a,s.b,s.c,s.d,s.e,s.f,s.g,s.h].flatMap wordBytes

def sum256 : List UInt8 := bytes (digest message)

theorem bytes_length {s : Digest} : (bytes s).length=32 := rfl

theorem sum256_length : (sum256 message).length=32 :=
  bytes_length

set_option maxRecDepth 4000 in
-- The one-block message "abc".
example : digest [97,98,99]=
    ⟨0xba7816bf,0x8f01cfea,0x414140de,0x5dae2223,0xb00361a3,0x96177a9c,0xb410ff61,0xf20015ad⟩ := by
  decide +kernel

end Blockstor.Framework.Sha256
