import Mathlib.Data.List.Infix
import TlsEndpoint.CommandLine

/-! # Flag words

How a flag is spelled on a command line, alone or with its value after an equals sign, and what the
reader of words makes of each spelling. -/
namespace TlsEndpoint

namespace Flag

def word (f : Flag) : Bytes := Word.dash :: Word.dash :: Bytes.ofText f.name

def joined (f : Flag) (value : Bytes) : Bytes := f.word ++ Word.equalsSign :: value

theorem of_name_iff {name : Bytes} {f : Flag} :
    ofName? name = some f ↔ name = Bytes.ofText f.name := by
  constructor
  · intro h
    have found := List.find?_some (p := fun f : Flag => Bytes.ofText f.name == name) h
    exact (beq_iff_eq.mp found).symm
  · rintro rfl
    cases f <;> decide

theorem name_ne_help (f : Flag) : Bytes.ofText f.name ≠ Bytes.ofText "help" := by
  cases f <;> decide

theorem name_without_equals (f : Flag) : Word.equalsSign ∉ Bytes.ofText f.name := by
  cases f <;> decide

theorem name_ne_nil (f : Flag) : Bytes.ofText f.name ≠ [] := by
  cases f <;> decide

end Flag

namespace Word

theorem split_value_of_joined {name : Bytes} (h : equalsSign ∉ name) (value : Bytes) :
    splitValue (name ++ equalsSign :: value) = (name, some value) := by
  induction name with
  | nil => rfl
  | cons b r ih =>
    obtain ⟨hb, hr⟩ := not_or.mp (mt List.mem_cons.mpr h)
    rw [List.cons_append, splitValue, if_neg (Ne.symm hb), ih hr]

theorem split_value_of_name {name : Bytes} (h : equalsSign ∉ name) :
    splitValue name = (name, none) := by
  induction name with
  | nil => rfl
  | cons b r ih =>
    obtain ⟨hb, hr⟩ := not_or.mp (mt List.mem_cons.mpr h)
    rw [splitValue, if_neg (Ne.symm hb), ih hr]

theorem eq_of_split_value (b : Bytes) :
    b = (splitValue b).1 ++ ((splitValue b).2.map (equalsSign :: ·)).getD [] := by
  induction b with
  | nil => rfl
  | cons x r ih =>
    rw [splitValue]
    split
    · next h => simp [h]
    · next h =>
      rw [List.cons_append, ← ih]

theorem of_bytes_dashes {r : Bytes} (h : r ≠ []) :
    ofBytes (dash :: dash :: r) = .long (splitValue r).1 (splitValue r).2 := by
  rw [ofBytes, if_pos ⟨rfl, rfl⟩, if_neg h]

theorem of_bytes_flag (f : Flag) : ofBytes f.word = .long (Bytes.ofText f.name) none := by
  rw [Flag.word, of_bytes_dashes f.name_ne_nil, split_value_of_name f.name_without_equals]

theorem of_bytes_joined (f : Flag) (value : Bytes) :
    ofBytes (f.joined value) = .long (Bytes.ofText f.name) (some value) := by
  rw [Flag.joined, Flag.word, List.cons_append, List.cons_append, of_bytes_dashes (by simp),
    split_value_of_joined f.name_without_equals]

theorem of_bytes_long {w name : Bytes} {value : Option Bytes} (h : ofBytes w = .long name value) :
    w = dash :: dash :: (name ++ (value.map (equalsSign :: ·)).getD []) := by
  unfold ofBytes at h
  split at h
  · split at h
    · next a b r dashes =>
      split at h
      · cases h
      · cases h
        rw [dashes.1, dashes.2, ← eq_of_split_value]
    · split at h <;> cases h
  · cases h

theorem of_bytes_end {w : Bytes} (h : ofBytes w = .endOfFlags) : w = [dash, dash] := by
  unfold ofBytes at h
  split at h
  · split at h
    · next a b r dashes =>
      split at h
      · next hr => rw [dashes.1, dashes.2, hr]
      · cases h
    · split at h <;> cases h
  · cases h

-- Also the single dash is refused here: it is plain, but it begins with one.
theorem of_bytes_plain_of_head {w : Bytes} (h : w.head? ≠ some dash) : ofBytes w = .plain := by
  unfold ofBytes
  split
  · next a b r =>
    have ha : a ≠ dash := fun he => h (by rw [he]; rfl)
    rw [if_neg (fun hd => ha hd.1), if_neg ha]
  · rfl

end Word

namespace Flag

/-- The word gives this flag, alone or with a value. -/
def Begins (f : Flag) (w : Bytes) : Prop := w = f.word ∨ f.word ++ [Word.equalsSign] <+: w

instance (f : Flag) (w : Bytes) : Decidable (f.Begins w) :=
  inferInstanceAs (Decidable (_ ∨ _))

theorem begins_iff {f : Flag} {w : Bytes} :
    f.Begins w ↔ w = f.word ∨ ∃ value, w = f.joined value := by
  refine or_congr_right ⟨?_, ?_⟩
  · rintro ⟨value, rfl⟩
    exact ⟨value, by simp [joined]⟩
  · rintro ⟨value, rfl⟩
    exact ⟨value, by simp [joined]⟩

variable {f g : Flag} {value w : Bytes}

theorem eq_of_name_eq (h : Bytes.ofText f.name = Bytes.ofText g.name) : f = g := by
  have found := of_name_iff.mpr h
  rw [of_name_iff.mpr rfl] at found
  exact Option.some.inj found

theorem word_ne_joined (f g : Flag) (value : Bytes) : f.word ≠ g.joined value := by
  intro h
  have look := congrArg Word.ofBytes h
  rw [Word.of_bytes_flag, Word.of_bytes_joined] at look
  exact nomatch (Word.long.inj look).2

theorem begins_word_iff : f.Begins g.word ↔ f = g := by
  rw [begins_iff]
  constructor
  · rintro (h | ⟨value, h⟩)
    · have look := congrArg Word.ofBytes h
      rw [Word.of_bytes_flag, Word.of_bytes_flag] at look
      exact (eq_of_name_eq (Word.long.inj look).1).symm
    · exact absurd h (word_ne_joined g f value)
  · rintro rfl
    exact Or.inl rfl

theorem begins_joined_iff : f.Begins (g.joined value) ↔ f = g := by
  rw [begins_iff]
  constructor
  · rintro (h | ⟨other, h⟩)
    · exact absurd h.symm (word_ne_joined f g value)
    · have look := congrArg Word.ofBytes h
      rw [Word.of_bytes_joined, Word.of_bytes_joined] at look
      exact (eq_of_name_eq (Word.long.inj look).1).symm
  · rintro rfl
    exact Or.inr ⟨value, rfl⟩

theorem not_begins_plain (plain : Word.ofBytes w = .plain) : ¬ f.Begins w := by
  rw [begins_iff]
  rintro (rfl | ⟨value, rfl⟩)
  · rw [Word.of_bytes_flag] at plain
    cases plain
  · rw [Word.of_bytes_joined] at plain
    cases plain

theorem joined_injective {other : Bytes} (h : f.joined value = g.joined other) :
    f = g ∧ value = other := by
  have look := congrArg Word.ofBytes h
  rw [Word.of_bytes_joined, Word.of_bytes_joined] at look
  obtain ⟨name, attached⟩ := Word.long.inj look
  exact ⟨eq_of_name_eq name, Option.some.inj attached⟩

end Flag

end TlsEndpoint
