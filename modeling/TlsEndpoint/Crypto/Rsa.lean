import TlsEndpoint.Crypto.Basic

/-! # RSA keys and signatures -/
namespace TlsEndpoint.Rsa

structure PrivateNumbers where
  modulus : Nat
  publicExponent : Nat
  privateExponent : Nat
  p : Nat
  q : Nat
  exponentP : Nat
  exponentQ : Nat
  coefficient : Nat
  deriving DecidableEq, Repr

def minBits : Nat := 2048
def maxBits : Nat := 8192

/-- The numbers fit together. The primes are not tested. -/
def PrivateNumbers.isConsistent (k : PrivateNumbers) : Bool :=
  let e := k.publicExponent
  k.modulus % 2 == 1 && e % 2 == 1
    && 2 ≤ Bytes.bitLength e && Bytes.bitLength e ≤ 33
    && k.privateExponent < k.modulus && k.p < k.modulus && k.q < k.modulus
    && k.p * k.q == k.modulus
    && e * k.privateExponent % (k.p - 1) == 1 && e * k.privateExponent % (k.q - 1) == 1
    && k.exponentP < k.p - 1 && e * k.exponentP % (k.p - 1) == 1
    && k.exponentQ < k.q - 1 && e * k.exponentQ % (k.q - 1) == 1
    && k.coefficient < k.p && k.q * k.coefficient % k.p == 1

def PrivateNumbers.isUsable (k : PrivateNumbers) : Bool :=
  k.isConsistent && minBits ≤ Bytes.bitLength k.modulus && Bytes.bitLength k.modulus ≤ maxBits

/-- A digest with the name of its algorithm, as it stands at the end of a signed block. -/
def digestInfo (v : Sha2.Variant) (digest : Bytes) : Bytes :=
  let last : UInt8 := if v.size = 32 then 1 else if v.size = 48 then 2 else 3
  let size := UInt8.ofNat v.size
  [0x30, 17 + size, 0x30, 0x0d, 0x06, 0x09, 0x60, 0x86, 0x48, 0x01, 0x65, 0x03, 0x04, 0x02, last,
    0x05, 0x00, 0x04, size] ++ digest

def opened? (modulus exponent width : Nat) (signature : Bytes) : Option Bytes :=
  let bits := Bytes.bitLength modulus
  let s := Bytes.toNat signature
  if bits < minBits ∨ maxBits < bits ∨ signature.length ≠ (bits + 7) / 8 ∨ modulus ≤ s then none
  else some (Bytes.ofNat width (Modular.power modulus s exponent))

def verify (modulus exponent : Nat) (v : Sha2.Variant) (message signature : Bytes) : Bool :=
  let width := (Bytes.bitLength modulus + 7) / 8
  let info := digestInfo v (v.digest message)
  let block := [0x00, 0x01] ++ List.replicate (width - 3 - info.length) 0xff ++ [0x00] ++ info
  opened? modulus exponent width signature == some block

/-- As many octets as asked for, drawn from a seed. -/
def mask (v : Sha2.Variant) (seed : Bytes) (length : Nat) : Bytes :=
  let block (n : Nat) : Bytes := v.digest (seed ++ Bytes.ofNat 4 n)
  ((List.range ((length + v.size - 1) / v.size)).flatMap block).take length

def verifySalted (modulus exponent : Nat) (v : Sha2.Variant) (message signature : Bytes) : Bool :=
  let bits := Bytes.bitLength modulus - 1
  let width := (bits + 7) / 8
  match opened? modulus exponent width signature with
  | none => false
  | some block =>
    let masked := block.take (width - v.size - 1)
    let tag := (block.drop masked.length).take v.size
    let plain := List.zipWith (· ^^^ ·) masked (mask v tag masked.length)
    let plain := Bytes.ofNat masked.length (Bytes.toNat plain % Nat.pow 2 (bits - 8 * (v.size + 1)))
    let salt := plain.drop (masked.length - v.size)
    let lead := List.replicate (masked.length - v.size - 1) 0 ++ [0x01]
    width ≥ 2 * v.size + 2 && block.getLast? == some 0xbc
      && Bytes.toNat block < Nat.pow 2 bits
      && plain.take (masked.length - v.size) == lead
      && v.digest (List.replicate 8 0 ++ v.digest message ++ salt) == tag

end TlsEndpoint.Rsa
