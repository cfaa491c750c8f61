import TlsEndpoint.Bytes

/-! # Distinguished encoding

A value is a tag, a length in the shortest form, and that many octets. Tags of more than one octet
are not read. -/
namespace TlsEndpoint

structure DerValue where
  tag : UInt8
  content : Bytes
  deriving DecidableEq, Repr

namespace Der

def booleanTag : UInt8 := 0x01
def integerTag : UInt8 := 0x02
def bitStringTag : UInt8 := 0x03
def octetStringTag : UInt8 := 0x04
def nullTag : UInt8 := 0x05
def objectTag : UInt8 := 0x06
def utcTimeTag : UInt8 := 0x17
def generalizedTimeTag : UInt8 := 0x18
def sequenceTag : UInt8 := 0x30

def contextTag (n : UInt8) : UInt8 := 0xa0 + n

/-- A length in at most five octets, never longer than necessary. -/
def readLength : Bytes → Option (Nat × Bytes)
  | [] => none
  | b :: r =>
    if b < 0x80 then some (b.toNat, r)
    else
      let width := b.toNat - 0x80
      let n := Bytes.toNat (r.take width)
      if width = 0 ∨ 4 < width ∨ r.length < width then none
      else if n < 0x80 ∨ n < Nat.pow 256 (width - 1) then none
      else some (n, r.drop width)

/-- The value at the front and what follows it. Its content is shorter than `limit`. -/
def read (limit : Nat) : Bytes → Option (DerValue × Bytes)
  | [] => none
  | tag :: r =>
    if tag &&& 0x1f = 0x1f then none
    else
      match readLength r with
      | none => none
      | some (n, r) =>
        if limit ≤ n ∨ r.length < n then none else some (⟨tag, r.take n⟩, r.drop n)

def expect (limit : Nat) (tag : UInt8) (b : Bytes) : Option (Bytes × Bytes) :=
  match read limit b with
  | some (v, r) => if v.tag = tag then some (v.content, r) else none
  | none => none

theorem length_readLength {b r : Bytes} {n : Nat} (h : readLength b = some (n, r)) :
    r.length < b.length := by
  unfold readLength at h
  split at h
  · simp at h
  · split at h
    · cases h
      simp
    · dsimp only at h
      split at h
      · simp at h
      · split at h
        · simp at h
        · simp only [Option.some.injEq, Prod.mk.injEq] at h
          obtain ⟨_, rfl⟩ := h
          simp only [List.length_drop, List.length_cons]
          omega

theorem length_read {limit : Nat} {b r : Bytes} {v : DerValue} (h : read limit b = some (v, r)) :
    r.length < b.length := by
  unfold read at h
  split at h
  · simp at h
  · split at h
    · simp at h
    · split at h
      · simp at h
      · rename_i heq
        have := length_readLength heq
        split at h
        · simp at h
        · simp only [Option.some.injEq, Prod.mk.injEq] at h
          obtain ⟨_, rfl⟩ := h
          simp only [List.length_drop, List.length_cons]
          omega

def readAll (limit : Nat) (b : Bytes) : Option (List DerValue) :=
  if b = [] then some []
  else
    match _h : read limit b with
    | none => none
    | some (v, r) => (readAll limit r).map (v :: ·)
termination_by b.length
decreasing_by exact length_read (by assumption)

def writeLength (n : Nat) : Bytes :=
  if n < 0x80 then [UInt8.ofNat n]
  else
    let width := (Bytes.bitLength n + 7) / 8
    UInt8.ofNat (0x80 + width) :: Bytes.ofNat width n

def write (tag : UInt8) (content : Bytes) : Bytes := tag :: writeLength content.length ++ content

/-- An unsigned number as an integer: a leading zero octet keeps it positive. -/
def writeNatural (n : Nat) : Bytes :=
  let width := Bytes.bitLength n / 8 + 1
  write integerTag (Bytes.ofNat width n)

/-- The number in an integer's content, if it is not negative and in shortest form. -/
def natural? : Bytes → Option Nat
  | [] => none
  | [b] => if b < 0x80 then some b.toNat else none
  | a :: b :: r =>
    if 0x80 ≤ a ∨ (a = 0 ∧ b < 0x80) then none else some (Bytes.toNat (a :: b :: r))

end Der

end TlsEndpoint
