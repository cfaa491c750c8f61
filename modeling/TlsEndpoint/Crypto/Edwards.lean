import TlsEndpoint.Crypto.Basic

/-! # Ed25519

Points are kept in extended coordinates `(X, Y, Z, T)` with `x = X/Z`, `y = Y/Z` and `xy = T/Z`.
Numbers inside keys and signatures are written least octet first. -/
namespace TlsEndpoint.Edwards

def p : Nat := Nat.pow 2 255 - 19

def order : Nat := Nat.pow 2 252 + 27742317777372353535851937790883648493

def d : Nat := Modular.sub p 0 (121665 * Modular.inverse p 121666 % p)

structure Point where
  x : Nat
  y : Nat
  z : Nat
  t : Nat
  deriving DecidableEq, Repr

def zero : Point := ⟨0, 1, 1, 0⟩

def ofAffine (x y : Nat) : Point := ⟨x, y, 1, x * y % p⟩

def add (q r : Point) : Point :=
  let a := Modular.sub p q.y q.x * Modular.sub p r.y r.x % p
  let b := (q.y + q.x) * (r.y + r.x) % p
  let c := 2 * q.t * r.t % p * d % p
  let e := 2 * q.z * r.z % p
  let h := Modular.sub p b a
  let f := Modular.sub p e c
  let g := (e + c) % p
  let k := (b + a) % p
  ⟨h * f % p, g * k % p, f * g % p, h * k % p⟩

def multiply (n : Nat) (q : Point) : Point :=
  if n = 0 then zero
  else
    let half := multiply (n / 2) q
    let twice := add half half
    if n % 2 = 1 then add twice q else twice
termination_by n

/-- A square root of `a`, if it has one. -/
def root? (a : Nat) : Option Nat :=
  let r := Modular.power p a ((p + 3) / 8)
  if r * r % p = a % p then some r
  else
    let r := r * Modular.power p 2 ((p - 1) / 4) % p
    if r * r % p = a % p then some r else none

def lift? (y : Nat) (odd : Bool) : Option Point := do
  let yy := y * y % p
  let x ← root? (Modular.sub p yy 1 * Modular.inverse p (d * yy + 1) % p)
  let x := if (x % 2 == 1) == odd then x else (p - x) % p
  some (ofAffine x y)

def encode (q : Point) : Bytes :=
  let i := Modular.inverse p q.z
  let x := q.x * i % p
  let y := q.y * i % p
  Bytes.ofNatLittle 32 (y + if x % 2 = 1 then Nat.pow 2 255 else 0)

def decode? (b : Bytes) : Option Point :=
  let n := Bytes.toNatLittle b
  if b.length = 32 then lift? (n % Nat.pow 2 255 % p) (Nat.pow 2 255 ≤ n) else none

def base : Point := (lift? (4 * Modular.inverse p 5 % p) false).getD zero

/-- The secret number of a seed: half of its digest with the ends fixed. -/
def secret (seed : Bytes) : Nat :=
  let n := Bytes.toNatLittle ((Sha2.sha512.digest seed).take 32)
  Nat.pow 2 254 + n % Nat.pow 2 254 / 8 * 8

def publicKey (seed : Bytes) : Bytes := encode (multiply (secret seed) base)

def verify (key message signature : Bytes) : Bool :=
  let r := signature.take 32
  let s := Bytes.toNatLittle (signature.drop 32)
  if signature.length ≠ 64 ∨ order ≤ s then false
  else
    match decode? key with
    | none => false
    | some a =>
      let k := Bytes.toNatLittle (Sha2.sha512.digest (r ++ key ++ message)) % order
      let negated := Point.mk (Modular.sub p 0 a.x) a.y a.z (Modular.sub p 0 a.t)
      encode (add (multiply s base) (multiply k negated)) == r

end TlsEndpoint.Edwards
