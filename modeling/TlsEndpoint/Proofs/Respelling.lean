import Mathlib.Logic.Relation
import TlsEndpoint.Proofs.Spelling

/-! # Respelling a path

Two paths are equal exactly when one can be respelled as the other: separators repeated or added at
the end, points put behind a separator, or the other way round. Nothing else is overlooked: neither
a parent sign, nor the case of a letter, nor a point in first place. What a hash reads off the
octets comes to the same for equal paths, although it never splits them into components. -/
namespace TlsEndpoint.Path

/-- One insertion that leaves the components as they are. -/
inductive Insertion : Bytes → Bytes → Prop where
  | separator (a b : Bytes) : Insertion (a ++ separator :: b) (a ++ separator :: separator :: b)
  | point (a b : Bytes) :
      Insertion (a ++ separator :: b) (a ++ separator :: point :: separator :: b)
  | lastPoint (a : Bytes) : Insertion (a ++ [separator]) (a ++ [separator, point])
  | lastSeparator {a : Bytes} (present : a ≠ []) : Insertion a (a ++ [separator])

/-- Insertions and their removals, in any number and order. -/
def Respelled (p q : Path) : Prop := Relation.EqvGen Insertion p.octets q.octets

/-! ## What a respelling keeps -/

theorem segments_append (a b : Bytes) :
    segments (a ++ separator :: b) = segments a ++ segments b := by
  induction a with
  | nil =>
    obtain ⟨s, rest, hb⟩ := exists_segments b
    rw [List.nil_append, segments_cons hb, if_pos rfl, hb]
    rfl
  | cons x a ih =>
    obtain ⟨s, rest, ha⟩ := exists_segments a
    have longer : segments (a ++ separator :: b) = s :: (rest ++ segments b) := by
      rw [ih, ha]
      rfl
    rw [List.cons_append, segments_cons longer, segments_cons ha]
    split <;> rfl

theorem components_congr_behind (a : Bytes) {b b' : Bytes}
    (h : (segments b).filterMap component? = (segments b').filterMap component?) :
    components ⟨a ++ separator :: b⟩ = components ⟨a ++ separator :: b'⟩ := by
  have absolute : isAbsolute ⟨a ++ separator :: b⟩ = isAbsolute ⟨a ++ separator :: b'⟩ := by
    cases a <;> rfl
  obtain ⟨s, rest, ha⟩ := exists_segments a
  unfold components
  dsimp only
  rw [absolute, segments_append, segments_append, ha, List.filterMap_append, List.filterMap_append,
    h]
  rfl

theorem Insertion.components_eq {a b : Bytes} (h : Insertion a b) :
    components ⟨a⟩ = components ⟨b⟩ := by
  cases h with
  | separator a b =>
    apply components_congr_behind
    have empty : segments (Path.separator :: b) = [[]] ++ segments b := segments_append [] b
    rw [empty, List.filterMap_append]
    rfl
  | point a b =>
    apply components_congr_behind
    have alone : segments (Path.point :: Path.separator :: b) = [[Path.point]] ++ segments b :=
      segments_append [Path.point] b
    rw [alone, List.filterMap_append]
    rfl
  | lastPoint a => exact components_congr_behind a (by decide)
  | lastSeparator present =>
    obtain ⟨x, a, rfl⟩ := List.exists_cons_of_ne_nil present
    obtain ⟨s, rest, ha⟩ := exists_segments (x :: a)
    unfold components
    dsimp only
    rw [segments_append, ha, List.filterMap_append]
    have same : isAbsolute ⟨x :: a ++ [Path.separator]⟩ = isAbsolute ⟨x :: a⟩ := rfl
    rw [same]
    simp [segments, component?]

theorem Respelled.components_eq {p q : Path} (h : p.Respelled q) :
    p.components = q.components := by
  obtain ⟨a⟩ := p
  obtain ⟨b⟩ := q
  unfold Respelled at h
  dsimp only at h
  induction h with
  | rel a b step => exact step.components_eq
  | refl a => rfl
  | symm a b _ ih => exact ih.symm
  | trans a b c _ _ first second => exact first.trans second

/-! ## The plain spelling -/

def joined (names : List Bytes) : Bytes := names.flatMap (separator :: ·)

theorem octets_eq_of_segments {octets s : Bytes} {rest : List Bytes}
    (h : segments octets = s :: rest) : octets = s ++ joined rest := by
  induction octets generalizing s rest with
  | nil =>
    obtain ⟨rfl, rfl⟩ := List.cons.inj h
    rfl
  | cons b r ih =>
    obtain ⟨s', rest', hr⟩ := exists_segments r
    have tail := ih hr
    rw [segments_cons hr] at h
    split at h
    · rename_i hb
      obtain ⟨rfl, rfl⟩ := List.cons.inj h
      rw [hb, tail]
      rfl
    · obtain ⟨rfl, rfl⟩ := List.cons.inj h
      rw [tail]
      rfl

open Relation (EqvGen)

theorem void_of_not_solid {s : Bytes} (hs : isSolid s = false) : s = [] ∨ s = [point] := by
  by_cases he : s = []
  · exact Or.inl he
  · exact Or.inr (by simpa [isSolid, he] using hs)

theorem drop_segment (a : Bytes) {s : Bytes} (hs : isSolid s = false) (next : Bytes)
    (rest : List Bytes) :
    EqvGen Insertion (a ++ joined (s :: next :: rest)) (a ++ joined (next :: rest)) := by
  apply EqvGen.symm
  apply EqvGen.rel
  rcases void_of_not_solid hs with rfl | rfl
  · exact .separator a _
  · exact .point a _

/-- At the end it goes with the separator before it, unless nothing would be left. -/
theorem drop_last_segment {a s : Bytes} (ha : a ≠ []) (hs : isSolid s = false) :
    EqvGen Insertion (a ++ joined [s]) a := by
  have bare : EqvGen Insertion (a ++ [separator]) a := (EqvGen.rel _ _ (.lastSeparator ha)).symm
  rcases void_of_not_solid hs with rfl | rfl
  · exact bare
  · exact (EqvGen.rel _ _ (.lastPoint a)).symm.trans _ _ _ bare

theorem drop_void_segments (rest : List Bytes) : ∀ a : Bytes,
    a ≠ [] ∨ rest.filter isSolid ≠ [] →
      EqvGen Insertion (a ++ joined rest) (a ++ joined (rest.filter isSolid)) := by
  induction rest with
  | nil => exact fun a _ => .refl _
  | cons s rest ih =>
    intro a ha
    cases hs : isSolid s with
    | true =>
      have more : a ++ separator :: s ≠ [] := by simp
      have inner := ih (a ++ separator :: s) (Or.inl more)
      rw [List.filter_cons_of_pos hs]
      simpa [joined] using inner
    | false =>
      have none_kept : ¬ isSolid s = true := by simp [hs]
      rw [List.filter_cons_of_neg none_kept] at ha ⊢
      cases rest with
      | nil =>
        have last := drop_last_segment (ha.resolve_right (by simp)) hs
        simpa [joined] using last
      | cons next rest => exact (drop_segment a hs next rest).trans _ _ _ (ih a ha)

theorem drop_all_segments {rest : List Bytes} (present : rest ≠ [])
    (none : rest.filter isSolid = []) : EqvGen Insertion (joined rest) [separator] := by
  induction rest with
  | nil => exact absurd rfl present
  | cons s rest ih =>
    obtain ⟨hs, none⟩ : isSolid s = false ∧ rest.filter isSolid = [] := by
      cases hs : isSolid s with
      | true => simp [hs] at none
      | false => exact ⟨rfl, by simpa [hs] using none⟩
    cases rest with
    | nil =>
      rcases void_of_not_solid hs with rfl | rfl
      · exact .refl _
      · exact (EqvGen.rel _ _ (.lastPoint [])).symm
    | cons next rest =>
      exact (drop_segment [] hs next rest).trans _ _ _ (ih (List.cons_ne_nil _ _) none)

/-! ## What a hash reads -/

theorem hashed_from_eq {octets s : Bytes} {rest : List Bytes} (h : segments octets = s :: rest)
    (behind : Bool) (name : Bytes) :
    hashedFrom behind name octets = kept behind (name ++ s) ++ rest.filter isSolid := by
  induction octets generalizing behind name s rest with
  | nil =>
    obtain ⟨rfl, rfl⟩ := List.cons.inj h
    simp [hashedFrom]
  | cons b r ih =>
    obtain ⟨s', rest', hr⟩ := exists_segments r
    rw [segments_cons hr] at h
    unfold hashedFrom
    split at h
    · rename_i hb
      obtain ⟨rfl, rfl⟩ := List.cons.inj h
      have alike : kept true s' = [s'].filter isSolid := by
        by_cases he : s' = []
        · simp [kept, isSolid, he]
        · by_cases hp : s' = [point] <;> simp [kept, isSolid, he, hp]
      rw [if_pos hb, ih hr, List.nil_append, alike, List.append_nil, ← List.filter_append]
      rfl
    · rename_i hb
      obtain ⟨rfl, rfl⟩ := List.cons.inj h
      rw [if_neg hb, ih hr, List.append_assoc]
      rfl

theorem hashed_names_of_segments {p : Path} {s : Bytes} {rest : List Bytes}
    (h : segments p.octets = s :: rest) :
    p.hashedNames = kept false s ++ rest.filter isSolid := hashed_from_eq h false []

theorem first_segment_of_absolute {p : Path} (ha : p.isAbsolute = true) :
    ∃ rest, rest ≠ [] ∧ segments p.octets = [] :: rest := by
  obtain ⟨octets⟩ := p
  cases octets with
  | nil => cases ha
  | cons b r =>
    have hb : b = separator := by simpa [isAbsolute] using ha
    obtain ⟨s, rest, hr⟩ := exists_segments r
    refine ⟨s :: rest, List.cons_ne_nil _ _, ?_⟩
    dsimp only
    rw [segments_cons hr, if_pos hb]

theorem first_segment_of_relative {p : Path} (ha : ¬ p.isAbsolute = true)
    (present : p.octets ≠ []) :
    ∃ s rest, s ≠ [] ∧ segments p.octets = s :: rest := by
  obtain ⟨octets⟩ := p
  obtain ⟨b, r, rfl⟩ := List.exists_cons_of_ne_nil present
  have hb : b ≠ separator := by simpa [isAbsolute] using ha
  obtain ⟨s, rest, hr⟩ := exists_segments r
  refine ⟨b :: s, rest, List.cons_ne_nil _ _, ?_⟩
  dsimp only
  rw [segments_cons hr, if_neg hb]

theorem hashed_names_eq (p : Path) :
    p.hashedNames = p.components.filterMap Component.hashed? := by
  by_cases ha : p.isAbsolute = true
  · obtain ⟨rest, -, h⟩ := first_segment_of_absolute ha
    rw [hashed_names_of_segments h]
    unfold components
    dsimp only
    rw [if_pos ha, h, List.filterMap_append, hashed_components]
    rfl
  · obtain ⟨s, rest, h⟩ := exists_segments p.octets
    rw [hashed_names_of_segments h]
    unfold components
    dsimp only
    rw [if_neg ha, h, List.filterMap_append, hashed_components, List.head?_cons]
    by_cases hp : s = [point]
    · subst hp
      rfl
    · have other : some s ≠ some [point] := fun same => hp (Option.some.inj same)
      rw [if_neg other]
      by_cases he : s = []
      · subst he
        rfl
      · have solid : isSolid s = true := by simp [isSolid, he, hp]
        rw [List.filter_cons_of_pos solid]
        simp [kept, he]

theorem hashed_names_eq_of_beq {p q : Path} (h : (p == q) = true) :
    p.hashedNames = q.hashedNames := by
  rw [hashed_names_eq, hashed_names_eq, (beq_iff p q).mp h]

theorem hash_input_eq_of_beq {p q : Path} (h : (p == q) = true) : p.hashInput = q.hashInput := by
  rw [hashInput, hashInput, hashed_names_eq_of_beq h]

/-! ## Equality is respelling -/

def plain (absolute : Bool) (names : List Bytes) : Bytes :=
  if absolute = true then if names = [] then [separator] else joined names
  else names.headD [] ++ joined names.tail

theorem respelled_plain (p : Path) :
    EqvGen Insertion p.octets (plain p.isAbsolute p.hashedNames) := by
  by_cases ha : p.isAbsolute = true
  · obtain ⟨rest, present, h⟩ := first_segment_of_absolute ha
    have names : p.hashedNames = rest.filter isSolid := hashed_names_of_segments h
    have spelled : p.octets = joined rest := octets_eq_of_segments h
    rw [plain, if_pos ha, names, spelled]
    by_cases none : rest.filter isSolid = []
    · rw [if_pos none]
      exact drop_all_segments present none
    · rw [if_neg none]
      exact drop_void_segments rest [] (Or.inr none)
  · by_cases empty : p.octets = []
    · have names : p.hashedNames = [] := by
        rw [hashedNames, empty]
        rfl
      rw [plain, if_neg ha, names, empty]
      exact .refl _
    · obtain ⟨s, rest, hs, h⟩ := first_segment_of_relative ha empty
      have names : p.hashedNames = s :: rest.filter isSolid := by
        rw [hashed_names_of_segments h]
        simp [kept, hs]
      have spelled : p.octets = s ++ joined rest := octets_eq_of_segments h
      rw [plain, if_neg ha, names, spelled]
      exact drop_void_segments rest s (Or.inl hs)

theorem beq_iff_respelled (p q : Path) : (p == q) = true ↔ p.Respelled q := by
  constructor
  · intro h
    have absolute : p.isAbsolute = q.isAbsolute := by
      rw [Bool.eq_iff_iff, ← root_mem_components_iff, ← root_mem_components_iff, (beq_iff p q).mp h]
    have left := respelled_plain p
    rw [absolute, hashed_names_eq_of_beq h] at left
    exact left.trans _ _ _ (respelled_plain q).symm
  · intro h
    exact (beq_iff p q).mpr h.components_eq

/-! ## What is not overlooked -/

theorem components_of_first_point {p : Path}
    (pointed : (segments p.octets).head? = some [point]) :
    p.components = .here :: (segments p.octets).filterMap component? := by
  have relative : ¬ p.isAbsolute = true := by
    intro absolute
    obtain ⟨rest, -, h⟩ := first_segment_of_absolute absolute
    rw [h] at pointed
    cases pointed
  unfold components
  dsimp only
  rw [if_neg relative, if_pos pointed]
  rfl

theorem components_here (octets : Bytes) :
    components ⟨point :: separator :: octets⟩ =
      .here :: (segments octets).filterMap component? := by
  have split : segments (point :: separator :: octets) = [point] :: segments octets :=
    segments_append [point] octets
  have pointed : (segments (point :: separator :: octets)).head? = some [point] := by
    rw [split]
    rfl
  rw [components_of_first_point pointed, split]
  rfl

theorem component_ne_here (s : Bytes) : component? s ≠ some .here := by
  unfold component?
  split_ifs <;> simp

theorem head_here_iff (p : Path) :
    p.components.head? = some .here ↔ (segments p.octets).head? = some [point] := by
  by_cases pointed : (segments p.octets).head? = some [point]
  · rw [components_of_first_point pointed]
    exact iff_of_true rfl pointed
  · refine iff_of_false ?_ pointed
    intro first
    unfold components at first
    dsimp only at first
    rw [if_neg pointed] at first
    split_ifs at first
    · cases first
    · obtain ⟨s, -, hs⟩ := List.mem_filterMap.mp (List.mem_of_head? first)
      exact component_ne_here s hs

theorem first_point_iff (octets : Bytes) :
    (segments octets).head? = some [point] ↔
      octets = [point] ∨ ∃ b, octets = point :: separator :: b := by
  constructor
  · intro h
    obtain ⟨s, rest, hs⟩ := exists_segments octets
    rw [hs, List.head?_cons] at h
    obtain rfl := Option.some.inj h
    have spelled : octets = [point] ++ joined rest := octets_eq_of_segments hs
    cases rest with
    | nil => exact Or.inl spelled
    | cons next rest => exact Or.inr ⟨next ++ joined rest, spelled⟩
  · rintro (rfl | ⟨b, rfl⟩)
    · decide
    · have split : segments (point :: separator :: b) = [point] :: segments b :=
        segments_append [point] b
      rw [split]
      rfl

/-- A point put in first place is only overlooked where one stands already. -/
theorem beq_here_iff (p : Path) :
    ((⟨point :: separator :: p.octets⟩ : Path) == p) = true ↔
      p.octets = [point] ∨ ∃ b, p.octets = point :: separator :: b := by
  rw [beq_iff, components_here, ← first_point_iff, ← head_here_iff]
  constructor
  · intro h
    rw [← h]
    rfl
  · intro h
    rw [components_of_first_point ((head_here_iff p).mp h)]

theorem count_up_filter_map (l : List Bytes) :
    (l.filterMap component?).count .up = l.count [point, point] := by
  induction l with
  | nil => rfl
  | cons s l ih =>
    by_cases up : s = [point, point]
    · have hc : component? s = some .up := by rw [up]; decide
      rw [List.filterMap_cons_some hc, up, List.count_cons_self, List.count_cons_self, ih]
    · rw [List.count_cons_of_ne up, ← ih]
      cases hc : component? s with
      | none => rw [List.filterMap_cons_none hc]
      | some c =>
        have other : c ≠ .up := by
          rintro rfl
          unfold component? at hc
          split_ifs at hc
          cases hc
        rw [List.filterMap_cons_some hc, List.count_cons_of_ne other]

theorem count_up (p : Path) :
    p.components.count .up = (segments p.octets).count [point, point] := by
  rw [← count_up_filter_map]
  unfold components
  dsimp only
  split_ifs
  · exact List.count_cons_of_ne (by decide)
  · exact List.count_cons_of_ne (by decide)
  · rfl

theorem parents_eq_of_beq {p q : Path} (h : (p == q) = true) :
    (segments p.octets).count [point, point] = (segments q.octets).count [point, point] := by
  rw [← count_up, ← count_up, (beq_iff p q).mp h]

/-- A parent sign does not cancel the name before it. -/
theorem parent_kept (a name b : Bytes) :
    ((⟨a ++ separator :: (name ++ separator :: ([point, point] ++ separator :: b))⟩ : Path) ==
      ⟨a ++ separator :: b⟩) = false := by
  rw [Bool.eq_false_iff]
  intro h
  have counts := parents_eq_of_beq h
  have sign : (segments [point, point]).count [point, point] = 1 := by decide
  simp only [segments_append, List.count_append, sign] at counts
  omega

def isText (b : UInt8) : Bool := b ≠ separator ∧ b ≠ point

theorem kept_text (behind : Bool) (name : Bytes) :
    (kept behind name).flatten.filter isText = name.filter isText := by
  unfold kept
  split_ifs with void
  · rcases void with rfl | ⟨-, rfl⟩ <;> rfl
  · simp

theorem hashed_from_text (behind : Bool) (name octets : Bytes) :
    (hashedFrom behind name octets).flatten.filter isText = (name ++ octets).filter isText := by
  induction octets generalizing behind name with
  | nil => rw [hashedFrom, kept_text, List.append_nil]
  | cons b r ih =>
    unfold hashedFrom
    split_ifs with hb
    · have parting : isText b = false := by simp [isText, hb]
      have skipped : (b :: r).filter isText = r.filter isText :=
        List.filter_cons_of_neg (by simp [parting])
      rw [List.flatten_append, List.filter_append, kept_text, ih, List.nil_append,
        List.filter_append, skipped]
    · rw [ih, List.append_assoc]
      rfl

theorem lower_letter_text (x : UInt8) :
    isText (Bytes.lowerLetter x) = isText x ∧ (isText x = false → Bytes.lowerLetter x = x) := by
  obtain ⟨x⟩ := x
  revert x
  decide

/-- Texts that differ at most in the case of letters, and nowhere but at separators and points. -/
theorem eq_of_same_text {l m : Bytes} (letters : l.map Bytes.lowerLetter = m.map Bytes.lowerLetter)
    (text : l.filter isText = m.filter isText) : l = m := by
  induction l generalizing m with
  | nil => simpa using letters.symm
  | cons x l ih =>
    cases m with
    | nil => simp at letters
    | cons y m =>
      obtain ⟨first, others⟩ := List.cons.inj letters
      have alike : isText x = isText y := by
        rw [← (lower_letter_text x).1, ← (lower_letter_text y).1, first]
      cases hx : isText x with
      | true =>
        rw [List.filter_cons_of_pos hx, List.filter_cons_of_pos (alike ▸ hx)] at text
        obtain ⟨rfl, remaining⟩ := List.cons.inj text
        rw [ih others remaining]
      | false =>
        have hy : isText y = false := alike ▸ hx
        rw [List.filter_cons_of_neg (by simp [hx]), List.filter_cons_of_neg (by simp [hy])] at text
        rw [← (lower_letter_text x).2 hx, ← (lower_letter_text y).2 hy, first, ih others text]

theorem beq_iff_of_same_letters {p q : Path}
    (letters : p.octets.map Bytes.lowerLetter = q.octets.map Bytes.lowerLetter) :
    (p == q) = true ↔ p.octets = q.octets := by
  constructor
  · intro h
    have names := hashed_names_eq_of_beq h
    have text : p.octets.filter isText = q.octets.filter isText := by
      have left := hashed_from_text false [] p.octets
      have right := hashed_from_text false [] q.octets
      rw [List.nil_append] at left right
      rw [← left, ← right]
      exact congrArg (fun l => l.flatten.filter isText) names
    exact eq_of_same_text letters text
  · intro h
    obtain ⟨a⟩ := p
    obtain ⟨b⟩ := q
    obtain rfl : a = b := h
    exact BEq.rfl

end TlsEndpoint.Path
