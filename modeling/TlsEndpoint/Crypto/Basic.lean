import TlsEndpoint.Bytes

/-! # Modular arithmetic and digests

What the signature schemes have in common. -/
namespace TlsEndpoint.Modular

def power (m base exponent : Nat) : Nat :=
  if exponent = 0 then 1 % m
  else
    let half := power m (base * base % m) (exponent / 2)
    if exponent % 2 = 1 then half * base % m else half
termination_by exponent

/-- The inverse of a number that is not a multiple of the prime `p`. -/
def inverse (p a : Nat) : Nat := power p (a % p) (p - 2)

def sub (m a b : Nat) : Nat := (a + (m - b)) % m

theorem power_eq (m base exponent : Nat) : power m base exponent = Nat.pow base exponent % m := by
  rw [Nat.pow_eq]
  induction exponent using Nat.strongRecOn generalizing base with
  | _ e ih =>
    unfold power
    split
    · next h => simp [h]
    · next h =>
      have hlt : e / 2 < e := Nat.div_lt_self (Nat.pos_of_ne_zero h) (by decide)
      have half : power m (base * base % m) (e / 2) = base ^ (2 * (e / 2)) % m := by
        rw [ih _ hlt, ← Nat.pow_mod, Nat.pow_mul, Nat.pow_two]
      simp only [half]
      split
      · next ho =>
        have he : e = 2 * (e / 2) + 1 := by omega
        conv => rhs; rw [he, Nat.pow_succ]
        rw [Nat.mul_mod, Nat.mod_mod, ← Nat.mul_mod]
      · next ho =>
        have he : e = 2 * (e / 2) := by omega
        conv => rhs; rw [he]

end TlsEndpoint.Modular

/-! ## The SHA-2 family

One round function serves all members. They differ in the width of a word, in the rotations, in
the number of rounds, in the starting state and in how much of the final state is the digest. Round
constants and starting states are fractions of roots of the first primes. -/
namespace TlsEndpoint.Sha2

def isPrime (n : Nat) : Bool := 2 ≤ n && (List.range n).all fun d => d < 2 || n % d != 0

def primes : List Nat := (List.range 410).filter isPrime

/-- The greatest `r' < r + 2 ^ i` above `r` with `r' ^ k ≤ n`, found bit by bit. -/
def rootFrom (k n : Nat) : (i r : Nat) → Nat
  | 0, r => r
  | i + 1, r => rootFrom k n i (if Nat.pow (r + Nat.pow 2 i) k ≤ n then r + Nat.pow 2 i else r)

def rootFraction (w k p : Nat) : BitVec w :=
  BitVec.ofNat w (rootFrom k (p * Nat.pow 2 (k * w)) (w + 5) 0)

structure Mix where
  first : Nat
  second : Nat
  third : Nat
  deriving Repr

def Mix.rotate {w : Nat} (m : Mix) (x : BitVec w) : BitVec w :=
  x.rotateRight m.first ^^^ x.rotateRight m.second ^^^ x.rotateRight m.third

def Mix.shift {w : Nat} (m : Mix) (x : BitVec w) : BitVec w :=
  x.rotateRight m.first ^^^ x.rotateRight m.second ^^^ x >>> m.third

structure Variant where
  word : Nat
  rounds : Nat
  upper : Mix
  lower : Mix
  early : Mix
  late : Mix
  skipped : Nat
  size : Nat
  deriving Repr

namespace Variant

def bits (v : Variant) : Nat := 8 * v.word

abbrev Word (v : Variant) := BitVec v.bits

def start (v : Variant) : List v.Word :=
  ((primes.drop v.skipped).take 8).map (rootFraction v.bits 2)

def constants (v : Variant) : List v.Word := (primes.take v.rounds).map (rootFraction v.bits 3)

/-- One round: `window` holds the next sixteen words of the schedule, `s` the eight of the state. -/
def round (v : Variant) (window s : List v.Word) (k : v.Word) : List v.Word × List v.Word :=
  match s with
  | [a, b, c, d, e, f, g, h] =>
    let w0 := window.headD 0
    let t1 := h + v.upper.rotate e + ((e &&& f) ^^^ (~~~e &&& g)) + k + w0
    let t2 := v.lower.rotate a + ((a &&& b) ^^^ (a &&& c) ^^^ (b &&& c))
    let next := v.late.shift (window.getD 14 0) + window.getD 9 0
      + v.early.shift (window.getD 1 0) + w0
    (window.tail ++ [next], [t1 + t2, a, b, c, d + t1, e, f, g])
  | _ => (window, s)

def compress (v : Variant) (constants s block : List v.Word) : List v.Word :=
  let final := constants.foldl (fun (st : List v.Word × List v.Word) k => v.round st.1 st.2 k)
    (block, s)
  List.zipWith (· + ·) s final.2

def pad (v : Variant) (message : Bytes) : Bytes :=
  let block := 16 * v.word
  let filled := (message.length + 1 + 2 * v.word) % block
  message ++ [0x80] ++ List.replicate ((block - filled) % block) 0
    ++ Bytes.ofNat (2 * v.word) (8 * message.length)

def pieces (size : Nat) : (n : Nat) → Bytes → List Bytes
  | 0, _ => []
  | n + 1, b => b.take size :: pieces size n (b.drop size)

def words (v : Variant) (block : Bytes) : List v.Word :=
  (pieces v.word 16 block).map fun p => BitVec.ofNat v.bits (Bytes.toNat p)

def digest (v : Variant) (message : Bytes) : Bytes :=
  let padded := v.pad message
  let constants := v.constants
  let blocks := (pieces (16 * v.word) (padded.length / (16 * v.word)) padded).map v.words
  let final := blocks.foldl (v.compress constants) v.start
  (final.flatMap fun x => Bytes.ofNat v.word x.toNat).take v.size

end Variant

def sha256 : Variant := ⟨4, 64, ⟨6, 11, 25⟩, ⟨2, 13, 22⟩, ⟨7, 18, 3⟩, ⟨17, 19, 10⟩, 0, 32⟩

def sha512 : Variant := ⟨8, 80, ⟨14, 18, 41⟩, ⟨28, 34, 39⟩, ⟨1, 8, 7⟩, ⟨19, 61, 6⟩, 0, 64⟩

def sha384 : Variant := { sha512 with skipped := 8, size := 48 }

end TlsEndpoint.Sha2
