import TlsEndpoint.Crypto.Basic

/-! # Curves in short Weierstrass form

Points are multiplied in Jacobian coordinates, in which the point at infinity has a zero last
coordinate. The field primes are three modulo four, so a power is a square root. -/
namespace TlsEndpoint

structure Curve where
  p : Nat
  a : Nat
  b : Nat
  baseX : Nat
  baseY : Nat
  order : Nat
  deriving DecidableEq, Repr

structure CurvePoint where
  x : Nat
  y : Nat
  deriving DecidableEq, Repr

structure JacobianPoint where
  x : Nat
  y : Nat
  z : Nat
  deriving DecidableEq, Repr

namespace Curve

def width (c : Curve) : Nat := (Bytes.bitLength c.p + 7) / 8

def base (c : Curve) : CurvePoint := ⟨c.baseX, c.baseY⟩

def cubic (c : Curve) (x : Nat) : Nat := (x * x * x + c.a * x + c.b) % c.p

def contains (c : Curve) (q : CurvePoint) : Bool :=
  q.x < c.p && q.y < c.p && q.y * q.y % c.p == c.cubic q.x

def ofAffine (q : CurvePoint) : JacobianPoint := ⟨q.x, q.y, 1⟩

def infinity : JacobianPoint := ⟨1, 1, 0⟩

def double (c : Curve) (q : JacobianPoint) : JacobianPoint :=
  if q.z = 0 then q
  else
    let yy := q.y * q.y % c.p
    let zz := q.z * q.z % c.p
    let s := 4 * q.x * yy % c.p
    let m := (3 * (q.x * q.x) + c.a * (zz * zz % c.p)) % c.p
    let x := Modular.sub c.p (m * m) (2 * s % c.p)
    let y := Modular.sub c.p (m * Modular.sub c.p s x) (8 * (yy * yy % c.p) % c.p)
    ⟨x, y, 2 * q.y * q.z % c.p⟩

def add (c : Curve) (q r : JacobianPoint) : JacobianPoint :=
  if q.z = 0 then r
  else if r.z = 0 then q
  else
    let zq := q.z * q.z % c.p
    let zr := r.z * r.z % c.p
    let u := q.x * zr % c.p
    let s := q.y * zr % c.p * r.z % c.p
    let h := Modular.sub c.p (r.x * zq) u
    let t := Modular.sub c.p (r.y * zq % c.p * q.z) s
    if h = 0 then
      if t = 0 then c.double q else infinity
    else
      let hh := h * h % c.p
      let hhh := h * hh % c.p
      let v := u * hh % c.p
      let x := Modular.sub c.p (Modular.sub c.p (t * t) hhh) (2 * v % c.p)
      let y := Modular.sub c.p (t * Modular.sub c.p v x) (s * hhh % c.p)
      ⟨x, y, h * (q.z * r.z % c.p) % c.p⟩

def multiply (c : Curve) (k : Nat) (q : JacobianPoint) : JacobianPoint :=
  if k = 0 then infinity
  else
    let half := c.double (c.multiply (k / 2) q)
    if k % 2 = 1 then c.add half q else half
termination_by k

def toAffine? (c : Curve) (q : JacobianPoint) : Option CurvePoint :=
  if q.z = 0 then none
  else
    let i := Modular.inverse c.p q.z
    let ii := i * i % c.p
    some ⟨q.x * ii % c.p, q.y * ii % c.p * i % c.p⟩

def publicPoint? (c : Curve) (secret : Nat) : Option CurvePoint :=
  c.toAffine? (c.multiply secret (ofAffine c.base))

def encodePoint (c : Curve) (q : CurvePoint) : Bytes :=
  0x04 :: Bytes.ofNat c.width q.x ++ Bytes.ofNat c.width q.y

/-- The point with the given first coordinate whose second is odd or even as asked. -/
def lift? (c : Curve) (x : Nat) (odd : Bool) : Option CurvePoint :=
  let y := Modular.power c.p (c.cubic x) ((c.p + 1) / 4)
  let y := if (y % 2 == 1) == odd then y else c.p - y
  let q := CurvePoint.mk x y
  if c.contains q then some q else none

/-- Reads a point of the curve, with both coordinates or with the first alone. -/
def decodePoint? (c : Curve) : Bytes → Option CurvePoint
  | [] => none
  | form :: r =>
    if form = 0x04 ∧ r.length = 2 * c.width then
      let q := CurvePoint.mk (Bytes.toNat (r.take c.width)) (Bytes.toNat (r.drop c.width))
      if c.contains q then some q else none
    else if (form = 0x02 ∨ form = 0x03) ∧ r.length = c.width then
      let x := Bytes.toNat r
      if x < c.p then c.lift? x (form = 0x03) else none
    else none

/-- The leading bits of a digest, as many as the order has. -/
def truncate (c : Curve) (digest : Bytes) : Nat :=
  Bytes.toNat digest >>> (8 * digest.length - Bytes.bitLength c.order)

def verify (c : Curve) (q : CurvePoint) (digest : Bytes) (r s : Nat) : Bool :=
  if r = 0 ∨ c.order ≤ r ∨ s = 0 ∨ c.order ≤ s then false
  else
    let w := Modular.inverse c.order s
    let u := c.truncate digest * w % c.order
    let v := r * w % c.order
    let sum := c.add (c.multiply u (ofAffine c.base)) (c.multiply v (ofAffine q))
    match c.toAffine? sum with
    | some t => t.x % c.order == r
    | none => false

def p256 : Curve where
  p := 0xffffffff00000001000000000000000000000000ffffffffffffffffffffffff
  a := 0xffffffff00000001000000000000000000000000fffffffffffffffffffffffc
  b := 0x5ac635d8aa3a93e7b3ebbd55769886bc651d06b0cc53b0f63bce3c3e27d2604b
  baseX := 0x6b17d1f2e12c4247f8bce6e563a440f277037d812deb33a0f4a13945d898c296
  baseY := 0x4fe342e2fe1a7f9b8ee7eb4a7c0f9e162bce33576b315ececbb6406837bf51f5
  order := 0xffffffff00000000ffffffffffffffffbce6faada7179e84f3b9cac2fc632551

def p384 : Curve where
  p := 0xfffffffffffffffffffffffffffffffffffffffffffffffffffffffffffffffeffffffff0000000000000000ffffffff
  a := 0xfffffffffffffffffffffffffffffffffffffffffffffffffffffffffffffffeffffffff0000000000000000fffffffc
  b := 0xb3312fa7e23ee7e4988e056be3f82d19181d9c6efe8141120314088f5013875ac656398d8a2ed19d2a85c8edd3ec2aef
  baseX := 0xaa87ca22be8b05378eb1c71ef320ad746e1d3b628ba79b9859f741e082542a385502f25dbf55296c3a545e3872760ab7
  baseY := 0x3617de4a96262c6f5d9e98bf9292dc29f8f41dbd289a147ce9da3113b5f0b8c00a60b1ce1d7e819d7a431d7c90ea0e5f
  order := 0xffffffffffffffffffffffffffffffffffffffffffffffffc7634d81f4372ddf581a0db248b0a77aecec196accc52973

def p521 : Curve where
  p := 0x01ffffffffffffffffffffffffffffffffffffffffffffffffffffffffffffffffffffffffffffffffffffffffffffffffffffffffffffffffffffffffffffffffff
  a := 0x01fffffffffffffffffffffffffffffffffffffffffffffffffffffffffffffffffffffffffffffffffffffffffffffffffffffffffffffffffffffffffffffffffc
  b := 0x0051953eb9618e1c9a1f929a21a0b68540eea2da725b99b315f3b8b489918ef109e156193951ec7e937b1652c0bd3bb1bf073573df883d2c34f1ef451fd46b503f00
  baseX := 0x00c6858e06b70404e9cd9e3ecb662395b4429c648139053fb521f828af606b4d3dbaa14b5e77efe75928fe1dc127a2ffa8de3348b3c1856a429bf97e7e31c2e5bd66
  baseY := 0x011839296a789a3bc0045c8a5fb42c7d1bd998f54449579b446817afbd17273e662c97ee72995ef42640c550b9013fad0761353c7086a272c24088be94769fd16650
  order := 0x01fffffffffffffffffffffffffffffffffffffffffffffffffffffffffffffffffa51868783bf2f966b7fcc0148f709a5d03bb5c9b8899c47aebb6fb71e91386409

end Curve

end TlsEndpoint
