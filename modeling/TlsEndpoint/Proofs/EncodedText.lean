import Mathlib.Tactic.SplitIfs
import TlsEndpoint.Bytes

/-! # Reading back encoded text

The octets of a text decode to its characters, with nothing broken among them. The decoder goes
octet by octet, so each length of a sequence is followed through its lead and what comes after. -/
namespace TlsEndpoint

theorem Bytes.of_text_of_list (cs : List Char) :
    Bytes.ofText (String.ofList cs) = cs.flatMap String.utf8EncodeChar := by
  simp [Bytes.ofText, List.utf8Encode]

namespace Text

section Lead

variable {n : Nat}

theorem start_single (h : n < 128) : start (UInt8.ofNat n) = .inl (.char (Char.ofNat n)) := by
  have octet := UInt8.toNat_ofNat_of_lt' (show n < 256 by omega)
  have single : UInt8.ofNat n < 0x80 := by
    rw [UInt8.lt_iff_toNat_lt, octet]
    exact h
  rw [start, if_pos single, octet]

theorem start_two (low : 194 ≤ n) (high : n ≤ 223) :
    start (UInt8.ofNat n) = .inr ⟨[UInt8.ofNat n], n - 192, 1, 0x80, 0xbf⟩ := by
  have octet := UInt8.toNat_ofNat_of_lt' (show n < 256 by omega)
  simp only [start, UInt8.lt_iff_toNat_lt, UInt8.le_iff_toNat_le, octet]
  rw [if_neg (by simp; omega), if_pos (by simp; omega)]

theorem start_three (low : 224 ≤ n) (high : n ≤ 239) :
    start (UInt8.ofNat n) = .inr ⟨[UInt8.ofNat n], n - 224, 2, if n = 224 then 0xa0 else 0x80,
      if n = 237 then 0x9f else 0xbf⟩ := by
  have octet := UInt8.toNat_ofNat_of_lt' (show n < 256 by omega)
  simp only [start, UInt8.lt_iff_toNat_lt, UInt8.le_iff_toNat_le, ← UInt8.toNat_inj, octet]
  rw [if_neg (by simp; omega), if_neg (by simp; omega), if_pos (by simp; omega)]
  rfl

theorem start_four (low : 240 ≤ n) (high : n ≤ 244) :
    start (UInt8.ofNat n) = .inr ⟨[UInt8.ofNat n], n - 240, 3, if n = 240 then 0x90 else 0x80,
      if n = 244 then 0x8f else 0xbf⟩ := by
  have octet := UInt8.toNat_ofNat_of_lt' (show n < 256 by omega)
  simp only [start, UInt8.lt_iff_toNat_lt, UInt8.le_iff_toNat_le, ← UInt8.toNat_inj, octet]
  rw [if_neg (by simp; omega), if_neg (by simp; omega), if_neg (by simp; omega),
    if_pos (by simp; omega)]
  rfl

end Lead

section Sequence

variable {n value missing : Nat} {seen : Bytes} {low high : UInt8} (r : Bytes)

theorem decode_within (from_low : low.toNat ≤ n) (to_high : n ≤ high.toNat) (more : missing ≠ 1) :
    decodeFrom (some ⟨seen, value, missing, low, high⟩) (UInt8.ofNat n :: r) =
      decodeFrom (some ⟨seen ++ [UInt8.ofNat n], value * 64 + (n - 128), missing - 1, 0x80, 0xbf⟩)
        r := by
  have octet := UInt8.toNat_ofNat_of_lt' (Nat.lt_of_le_of_lt to_high high.toNat_lt)
  have within : low ≤ UInt8.ofNat n ∧ UInt8.ofNat n ≤ high := by
    rw [UInt8.le_iff_toNat_le, UInt8.le_iff_toNat_le, octet]
    exact ⟨from_low, to_high⟩
  rw [decodeFrom, if_pos within, if_neg more, Sequence.push, octet]

theorem decode_last (below : n < 64) :
    decodeFrom (some ⟨seen, value, 1, 0x80, 0xbf⟩) (UInt8.ofNat (n + 128) :: r) =
      .char (Char.ofNat (value * 64 + n)) :: decodeFrom none r := by
  have octet := UInt8.toNat_ofNat_of_lt' (show n + 128 < 256 by omega)
  have within : 0x80 ≤ UInt8.ofNat (n + 128) ∧ UInt8.ofNat (n + 128) ≤ 0xbf := by
    rw [UInt8.le_iff_toNat_le, UInt8.le_iff_toNat_le, octet]
    exact ⟨Nat.le_add_left 128 n, show n + 128 ≤ 191 by omega⟩
  rw [decodeFrom, if_pos within, if_pos rfl, Sequence.push, octet]
  dsimp only
  rw [Nat.add_sub_cancel]

theorem decode_char (c : Char) :
    decodeFrom none (String.utf8EncodeChar c ++ r) = .char c :: decodeFrom none r := by
  have back : Char.ofNat c.val.toNat = c := Char.ofNat_toNat c
  -- the two gaps of the scalar values are what the narrowed ranges after some leads rule out
  have valid : c.val.toNat < 0xd800 ∨ 0xdfff < c.val.toNat ∧ c.val.toNat < 0x110000 := c.valid
  unfold String.utf8EncodeChar
  generalize c.val.toNat = v at back valid
  dsimp only
  split_ifs with single two three
  · show decodeFrom none (UInt8.ofNat v :: r) = _
    simp only [decodeFrom, start_single (show v < 128 by omega), back]
  · have lead := start_two (n := v / 64 % 32 + 192) (by omega) (by omega)
    have whole : (v / 64 % 32 + 192 - 192) * 64 + v % 64 = v := by omega
    simp only [List.cons_append, List.nil_append, decodeFrom.eq_3, lead]
    rw [decode_last r (by omega), whole, back]
  · have lead := start_three (n := v / 4096 % 16 + 224) (by omega) (by omega)
    have whole : ((v / 4096 % 16 + 224 - 224) * 64 + (v / 64 % 64 + 128 - 128)) * 64 + v % 64
        = v := by
      omega
    have from_low : (if v / 4096 % 16 + 224 = 224 then 0xa0 else 0x80 : UInt8).toNat ≤
        v / 64 % 64 + 128 := by
      split <;> simp
      omega
    have to_high : v / 64 % 64 + 128 ≤
        (if v / 4096 % 16 + 224 = 237 then 0x9f else 0xbf : UInt8).toNat := by
      split <;> simp <;> omega
    simp only [List.cons_append, List.nil_append, decodeFrom.eq_3, lead]
    rw [decode_within _ from_low to_high (by decide), decode_last r (by omega), whole, back]
  · have lead := start_four (n := v / 262144 % 8 + 240) (by omega) (by omega)
    have whole : (((v / 262144 % 8 + 240 - 240) * 64 + (v / 4096 % 64 + 128 - 128)) * 64
        + (v / 64 % 64 + 128 - 128)) * 64 + v % 64 = v := by
      omega
    have from_low : (if v / 262144 % 8 + 240 = 240 then 0x90 else 0x80 : UInt8).toNat ≤
        v / 4096 % 64 + 128 := by
      split <;> simp
      omega
    have to_high : v / 4096 % 64 + 128 ≤
        (if v / 262144 % 8 + 240 = 244 then 0x8f else 0xbf : UInt8).toNat := by
      split <;> simp <;> omega
    simp only [List.cons_append, List.nil_append, decodeFrom.eq_3, lead]
    rw [decode_within _ from_low to_high (by decide),
      decode_within _ (by simp) (by simp; omega) (by decide), decode_last r (by omega), whole, back]

end Sequence

theorem decode_of_text (s : String) : decode (Bytes.ofText s) = s.toList.map .char := by
  rw [← String.ofList_toList (s := s), Bytes.of_text_of_list, String.toList_ofList, decode]
  induction s.toList with
  | nil => rfl
  | cons c cs ih => rw [List.flatMap_cons, decode_char, ih, List.map_cons]

theorem map_chars {f : Piece → Option Char} (h : ∀ c, f (.char c) = some c) (cs : List Char) :
    (cs.map Piece.char).mapM f = some cs := by
  induction cs with
  | nil => rfl
  | cons c cs ih => simp [List.mapM_cons, h, ih]

theorem of_utf8_of_text (s : String) : ofUtf8? (Bytes.ofText s) = some s := by
  rw [ofUtf8?, decode_of_text, map_chars fun _ => rfl]
  exact congrArg some String.ofList_toList

end Text

end TlsEndpoint
