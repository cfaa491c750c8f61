/-! # Octet strings and the texts in them

Files, paths, keys and certificates are lists of octets. Numbers in them are big-endian, and texts
are in UTF-8. -/
namespace TlsEndpoint

abbrev Bytes := List UInt8

namespace Bytes

def ofText (s : String) : Bytes := s.toUTF8.data.toList

def toNat (b : Bytes) : Nat := b.foldl (fun n x => n * 256 + x.toNat) 0

/-- The number `n` modulo `256 ^ width`, big-endian, in exactly `width` octets. -/
def ofNat : (width n : Nat) → Bytes
  | 0, _ => []
  | w + 1, n => ofNat w (n / 256) ++ [UInt8.ofNat (n % 256)]

def toNatLittle (b : Bytes) : Nat := b.foldr (fun x n => x.toNat + 256 * n) 0

def ofNatLittle : (width n : Nat) → Bytes
  | 0, _ => []
  | w + 1, n => UInt8.ofNat (n % 256) :: ofNatLittle w (n / 256)

theorem length_ofNat (w n : Nat) : (ofNat w n).length = w := by
  induction w generalizing n with
  | zero => rfl
  | succ w ih => simp [ofNat, ih]

theorem length_ofNatLittle (w n : Nat) : (ofNatLittle w n).length = w := by
  induction w generalizing n with
  | zero => rfl
  | succ w ih => simp [ofNatLittle, ih]

def bitLength (n : Nat) : Nat := if n = 0 then 0 else n.log2 + 1

def lowerLetter (x : UInt8) : UInt8 := if 65 ≤ x ∧ x ≤ 90 then x + 32 else x

end Bytes

end TlsEndpoint

/-! ## Reading UTF-8

Every octet string splits into characters and broken stretches. A broken stretch is the longest
beginning of a well-formed sequence that stands there, or a single octet that begins none, so
decoding never fails and loses nothing. -/
namespace TlsEndpoint.Text

inductive Piece where
  | char (c : Char)
  | broken (octets : Bytes)
  deriving DecidableEq, Repr

/-- A sequence whose lead octet has been read: what was seen, its value so far, how many octets
are missing, and the range that the next one has to lie in. -/
structure Sequence where
  seen : Bytes
  value : Nat
  missing : Nat
  low : UInt8
  high : UInt8

def start (b : UInt8) : Piece ⊕ Sequence :=
  if b < 0x80 then .inl (.char (Char.ofNat b.toNat))
  else if 0xc2 ≤ b ∧ b ≤ 0xdf then .inr ⟨[b], b.toNat - 0xc0, 1, 0x80, 0xbf⟩
  else if 0xe0 ≤ b ∧ b ≤ 0xef then
    .inr ⟨[b], b.toNat - 0xe0, 2, if b = 0xe0 then 0xa0 else 0x80, if b = 0xed then 0x9f else 0xbf⟩
  else if 0xf0 ≤ b ∧ b ≤ 0xf4 then
    .inr ⟨[b], b.toNat - 0xf0, 3, if b = 0xf0 then 0x90 else 0x80, if b = 0xf4 then 0x8f else 0xbf⟩
  else .inl (.broken [b])

def Sequence.push (s : Sequence) (b : UInt8) : Sequence :=
  ⟨s.seen ++ [b], s.value * 64 + (b.toNat - 0x80), s.missing - 1, 0x80, 0xbf⟩

def decodeFrom : Option Sequence → Bytes → List Piece
  | none, [] => []
  | some s, [] => [.broken s.seen]
  | none, b :: r =>
    match start b with
    | .inl p => p :: decodeFrom none r
    | .inr s => decodeFrom (some s) r
  | some s, b :: r =>
    if s.low ≤ b ∧ b ≤ s.high then
      if s.missing = 1 then .char (Char.ofNat (s.push b).value) :: decodeFrom none r
      else decodeFrom (some (s.push b)) r
    else
      .broken s.seen :: match start b with
      | .inl p => p :: decodeFrom none r
      | .inr s => decodeFrom (some s) r

def decode (b : Bytes) : List Piece := decodeFrom none b

def ofUtf8? (b : Bytes) : Option String :=
  let chars := (decode b).mapM fun
    | .char c => some c
    | .broken _ => none
  chars.map String.ofList

/-- The text with one replacement character for every broken stretch. -/
def ofUtf8Lossy (b : Bytes) : String :=
  let chars := (decode b).map fun
    | .char c => c
    | .broken _ => '\uFFFD'
  String.ofList chars

end TlsEndpoint.Text
