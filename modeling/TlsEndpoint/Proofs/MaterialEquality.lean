import TlsEndpoint.Proofs.EqualConfigurations
import TlsEndpoint.Proofs.Respelling
import TlsEndpoint.Workspace

/-! # Equality sees the material

Comparing configurations pairwise gives an equivalence on those that are there, and it looks at
identity and trust alone, each half for itself. Where the material is named by files, two names are
taken as one exactly when one path can be respelled as the other, and a hash agrees with that. -/
namespace TlsEndpoint

def SameHalf {α : Type} [BEq α] (x y : Option α) : Prop :=
  Option.Rel (fun a b => (a == b) = true) x y

theorem same_half_iff {α : Type} [BEq α] {x y : Option α} : SameHalf x y ↔ (x == y) = true := by
  constructor
  · intro h
    cases h with
    | none => rfl
    | some hr => exact hr
  · intro h
    exact option_rel_of_beq h fun a ha b hb => by
      rw [Option.mem_def.mp ha, Option.mem_def.mp hb] at h
      exact h

theorem map_eq_of_forall₂ {α β : Type} {R : α → α → Prop} {f g : α → β} {l m : List α}
    (h : List.Forall₂ R l m) (hfg : ∀ a b, R a b → f a = g b) : l.map f = m.map g := by
  have same : List.Forall₂ Eq (l.map f) (m.map g) :=
    List.forall₂_map_left_iff.mpr (List.forall₂_map_right_iff.mpr (h.imp hfg))
  rwa [List.forall₂_eq_eq_eq] at same

namespace Configuration

variable {ι τ : Type} [BEq ι] [BEq τ]

theorem equal_iff {a b : Configuration ι τ} :
    a.equal b = true ↔ SameHalf a.identity b.identity ∧ SameHalf a.trust b.trust := by
  rw [same_half_iff, same_half_iff, ← Bool.and_eq_true]
  rfl

def Present (cs : List (Option (Configuration ι τ))) (i : Nat) : Prop := ∃ a, cs[i]? = some (some a)

def materialEntry (cs : List (Option (Configuration ι τ))) (i j : Nat) : Option Bool :=
  (materialMatrix cs)[i]?.join.bind fun row => row[j]?

variable {cs ds : List (Option (Configuration ι τ))} {i j : Nat} {a b : Configuration ι τ}

theorem material_entry_eq (hi : cs[i]? = some (some a)) (j : Nat) :
    materialEntry cs i j = cs[j]?.map a.sameMaterial := by
  have row : (materialMatrix cs)[i]? = some (some (cs.map a.sameMaterial)) := by
    rw [materialMatrix, List.getElem?_map, hi]
    rfl
  rw [materialEntry, row]
  exact List.getElem?_map

theorem entry_of_present (hi : cs[i]? = some (some a)) (hj : cs[j]? = some (some b)) :
    materialEntry cs i j = some (a.equal b) := by
  rw [material_entry_eq hi, hj]
  rfl

theorem entry_of_absent (hi : cs[i]? = some (some a)) (hj : cs[j]? = some none) :
    materialEntry cs i j = some false := by
  rw [material_entry_eq hi, hj]
  rfl

theorem absent_row (hi : cs[i]? = some none) : (materialMatrix cs)[i]? = some none := by
  rw [materialMatrix, List.getElem?_map, hi]
  rfl

section Lawful

variable [EquivBEq ι] [EquivBEq τ]

theorem equal_trans {c : Configuration ι τ} (h : a.equal b = true) (h' : b.equal c = true) :
    a.equal c = true := by
  obtain ⟨hi, ht⟩ := Bool.and_eq_true_iff.mp h
  obtain ⟨hi', ht'⟩ := Bool.and_eq_true_iff.mp h'
  exact Bool.and_eq_true_iff.mpr ⟨PartialEquivBEq.trans hi hi', PartialEquivBEq.trans ht ht'⟩

/-- Equal configurations compare alike with whatever is compared with them. -/
theorem same_material_congr {c d : Option (Configuration ι τ)} (h : a.equal b = true)
    (hc : Option.Rel (fun x y => x.equal y = true) c d) : a.sameMaterial c = b.sameMaterial d := by
  cases hc with
  | none => rfl
  | @some x y hxy =>
    have back : b.equal a = true := by rwa [equal_comm]
    have back' : y.equal x = true := by rwa [equal_comm]
    have both : a.equal x = true ↔ b.equal y = true :=
      ⟨fun hx => equal_trans (equal_trans back hx) hxy,
        fun hy => equal_trans (equal_trans h hy) back'⟩
    exact Bool.eq_iff_iff.mpr both

theorem material_matrix_congr
    (h : List.Forall₂ (Option.Rel fun a b : Configuration ι τ => a.equal b = true) cs ds) :
    materialMatrix cs = materialMatrix ds := by
  refine map_eq_of_forall₂ h ?_
  intro c d hcd
  cases hcd with
  | none => rfl
  | some hab =>
    have row := map_eq_of_forall₂ h fun c d hcd => same_material_congr hab hcd
    exact congrArg some row

theorem material_equivalence (cs : List (Option (Configuration ι τ))) :
    Equivalence fun i j : {i // Present cs i} => materialEntry cs i j = some true where
  refl := by
    rintro ⟨i, a, hi⟩
    rw [entry_of_present hi hi, equal_self]
  symm := by
    rintro ⟨i, a, hi⟩ ⟨j, b, hj⟩ h
    rw [entry_of_present hi hj] at h
    rw [entry_of_present hj hi, equal_comm, h]
  trans := by
    rintro ⟨i, a, hi⟩ ⟨j, b, hj⟩ ⟨k, c, hk⟩ h h'
    rw [entry_of_present hi hj] at h
    rw [entry_of_present hj hk] at h'
    rw [entry_of_present hi hk, equal_trans (Option.some.inj h) (Option.some.inj h')]

end Lawful

/-- What the matrix of comparisons tells, and what it does not look at. -/
structure MatrixLaws (cs : List (Option (Configuration ι τ))) : Prop where
  equivalence : Equivalence fun i j : {i // Present cs i} => materialEntry cs i j = some true
  absent_row : ∀ i : Nat, cs[i]? = some none → (materialMatrix cs)[i]? = some none
  absent_column : ∀ (i j : Nat) (a : Configuration ι τ), cs[i]? = some (some a) →
    cs[j]? = some none → materialEntry cs i j = some false
  material : ∀ (i j : Nat) (a b : Configuration ι τ), cs[i]? = some (some a) →
    cs[j]? = some (some b) → (materialEntry cs i j = some true ↔
      SameHalf a.identity b.identity ∧ SameHalf a.trust b.trust)
  agreement : ∀ (i j : Nat) (a b : Configuration ι τ), cs[i]? = some (some a) →
    cs[j]? = some (some b) → ∀ (c d : Context) (m n : Nat),
      let s : Settings ι τ := ⟨a, c, m⟩
      let t : Settings ι τ := ⟨b, d, n⟩
      materialEntry cs i j = some (a.equal b) ∧ a.sameMaterial (some b) = a.equal b ∧
        (s == t) = a.equal b ∧ s.sameMaterial t = a.equal b
  /-- Only the protocol names may differ in `ds`. -/
  names : ∀ ds : List (Option (Configuration ι τ)),
    List.Forall₂ (Option.Rel fun a b => a.identity = b.identity ∧ a.trust = b.trust) cs ds →
    materialMatrix cs = materialMatrix ds

theorem matrix_laws [EquivBEq ι] [EquivBEq τ] (cs : List (Option (Configuration ι τ))) :
    MatrixLaws cs where
  equivalence := material_equivalence cs
  absent_row _ hi := Configuration.absent_row hi
  absent_column _ _ _ hi hj := entry_of_absent hi hj
  material i j a b hi hj := by
    rw [entry_of_present hi hj, Option.some.injEq, equal_iff]
  agreement _ _ _ _ hi hj _ _ _ _ := ⟨entry_of_present hi hj, rfl, rfl, rfl⟩
  names ds h := by
    refine material_matrix_congr (h.imp fun c d => option_rel_mono ?_)
    rintro a b ⟨hi, ht⟩
    rw [equal_iff, hi, ht, same_half_iff, same_half_iff]
    exact ⟨BEq.rfl, BEq.rfl⟩

end Configuration

/-! ## Material in files -/

theorem KeyStore.beq_iff_respelled (s t : KeyStore) :
    (s == t) = true ↔ s.Related Path.Respelled t := by
  show (s.key == t.key && s.certificates == t.certificates) = true ↔ _
  rw [Bool.and_eq_true, Path.beq_iff_respelled, Path.beq_iff_respelled]
  exact ⟨fun h => ⟨h.1, h.2⟩, fun h => ⟨h.key, h.certificates⟩⟩

theorem KeyStore.hash_input_eq_of_beq {s t : KeyStore} (h : (s == t) = true) :
    s.hashInput = t.hashInput := by
  obtain ⟨key, certificates⟩ := Bool.and_eq_true_iff.mp h
  rw [hashInput, hashInput, Path.hash_input_eq_of_beq key, Path.hash_input_eq_of_beq certificates]

theorem TrustStore.beq_iff_respelled (s t : TrustStore) :
    (s == t) = true ↔ s.Related Path.Respelled t :=
  Path.beq_iff_respelled s.anchors t.anchors

section Sources

variable {α σ : Type} [BEq α] [BEq σ]

/-- Sources that name a file, if they do, are compared as the files are. -/
def ComparesFiles (file? : α → Option σ) : Prop :=
  ∀ x y s t, file? x = some s → file? y = some t → (x == y) = (s == t)

def SameOrRelated (file? : α → Option σ) (R : σ → σ → Prop) (x y : α) : Prop :=
  x = y ∨ ∃ s t, file? x = some s ∧ file? y = some t ∧ R s t

theorem same_half_of_related [EquivBEq α] {file? : α → Option σ} {R : σ → σ → Prop}
    (files : ComparesFiles file?) (equal : ∀ s t, R s t → (s == t) = true) {x y : Option α}
    (h : Option.Rel (SameOrRelated file? R) x y) : SameHalf x y := by
  refine option_rel_mono ?_ h
  rintro a b (rfl | ⟨s, t, hs, ht, hr⟩)
  · exact BEq.rfl
  · rw [files a b s t hs ht]
    exact equal s t hr

end Sources

section Respelling

variable {ι τ : Type} [BEq ι] [BEq τ] (keys? : ι → Option KeyStore)
  (anchors? : τ → Option TrustStore)

def Configuration.Respelled (a b : Configuration ι τ) : Prop :=
  Option.Rel (SameOrRelated keys? (KeyStore.Related Path.Respelled)) a.identity b.identity ∧
    Option.Rel (SameOrRelated anchors? (TrustStore.Related Path.Respelled)) a.trust b.trust

variable {keys? anchors?}

theorem Configuration.Respelled.equal [EquivBEq ι] [EquivBEq τ] {a b : Configuration ι τ}
    (keys : ComparesFiles keys?) (anchors : ComparesFiles anchors?)
    (h : a.Respelled keys? anchors? b) : a.equal b = true := by
  obtain ⟨hi, ht⟩ := h
  have identity : SameHalf a.identity b.identity :=
    same_half_of_related keys (fun s t => (s.beq_iff_respelled t).mpr) hi
  have trust : SameHalf a.trust b.trust :=
    same_half_of_related anchors (fun s t => (s.beq_iff_respelled t).mpr) ht
  exact Configuration.equal_iff.mpr ⟨identity, trust⟩

end Respelling

structure Path.SpellingLaws : Prop where
  parents : ∀ p q : Path, (p == q) = true →
    (segments p.octets).count [point, point] = (segments q.octets).count [point, point]
  parent : ∀ a name b : Bytes,
    ((⟨a ++ separator :: (name ++ separator :: ([point, point] ++ separator :: b))⟩ : Path) ==
      ⟨a ++ separator :: b⟩) = false
  letters : ∀ p q : Path, p.octets.map Bytes.lowerLetter = q.octets.map Bytes.lowerLetter →
    ((p == q) = true ↔ p.octets = q.octets)
  /-- A point in front is told, unless there is one already. -/
  here : ∀ p : Path, ((⟨point :: separator :: p.octets⟩ : Path) == p) = true ↔
    p.octets = [point] ∨ ∃ b, p.octets = point :: separator :: b

theorem Path.spelling_laws : SpellingLaws where
  parents _ _ := parents_eq_of_beq
  parent := parent_kept
  letters _ _ := beq_iff_of_same_letters
  here := beq_here_iff

theorem equality_sees_the_material {ι τ : Type} [BEq ι] [EquivBEq ι] [BEq τ] [EquivBEq τ]
    (keys? : ι → Option KeyStore) (anchors? : τ → Option TrustStore)
    (hk : ComparesFiles keys?) (ha : ComparesFiles anchors?)
    (cs : List (Option (Configuration ι τ))) :
    Configuration.MatrixLaws cs ∧
    (∀ ds, List.Forall₂ (Option.Rel (Configuration.Respelled keys? anchors?)) cs ds →
      Configuration.materialMatrix cs = Configuration.materialMatrix ds) ∧
    (∀ x y s t, keys? x = some s → keys? y = some t →
      ((x == y) = true ↔ s.Related Path.Respelled t) ∧
      ((x == y) = true → s.hashInput = t.hashInput)) ∧
    (∀ x y s t, anchors? x = some s → anchors? y = some t →
      ((x == y) = true ↔ s.Related Path.Respelled t) ∧
      ((x == y) = true → s.hashInput = t.hashInput)) ∧
    Path.SpellingLaws := by
  refine ⟨Configuration.matrix_laws cs, ?_, ?_, ?_, Path.spelling_laws⟩
  · intro ds h
    refine Configuration.material_matrix_congr (h.imp fun c d => option_rel_mono ?_)
    intro a b hab
    exact hab.equal hk ha
  · intro x y s t hs ht
    rw [hk x y s t hs ht]
    exact ⟨s.beq_iff_respelled t, KeyStore.hash_input_eq_of_beq⟩
  · intro x y s t hs ht
    rw [ha x y s t hs ht]
    exact ⟨s.beq_iff_respelled t, Path.hash_input_eq_of_beq⟩

theorem identity_sources_compare_files : ComparesFiles IdentitySource.store? := by
  rintro (a | _) (b | _) s t ⟨⟩ ⟨⟩
  rfl

theorem trust_sources_compare_files : ComparesFiles TrustSource.store? := by
  rintro (a | _) (b | _) s t ⟨⟩ ⟨⟩
  rfl

namespace Spellings

open TlsEndpoint.Path (separator)

def plain : KeyStore :=
  ⟨⟨separator :: Bytes.ofText "k"⟩, ⟨separator :: Bytes.ofText "c"⟩⟩

def spread : KeyStore :=
  ⟨⟨separator :: separator :: Bytes.ofText "k"⟩, ⟨separator :: Bytes.ofText "c" ++ [separator]⟩⟩

theorem plain_related_spread : plain.Related Path.Respelled spread where
  key := .rel _ _ (.separator [] (Bytes.ofText "k"))
  certificates := .rel _ _ (.lastSeparator (List.cons_ne_nil _ _))

def entries (store : KeyStore) (protocol : Protocol) :
    List (Option (Configuration IdentitySource TrustSource)) :=
  [some ⟨protocol, some (.files store), none⟩, none,
    some ⟨protocol, some (.scripted "a" (.constant (.der [] ⟨.sec1, []⟩))), none⟩]

end Spellings

open Spellings in
/-- The files are spelled in two ways, and the protocols differ: the matrix stays as it is. -/
theorem respelled_store_same_matrix :
    ComparesFiles IdentitySource.store? ∧ ComparesFiles TrustSource.store? ∧
    Configuration.materialMatrix (entries plain .default) =
      Configuration.materialMatrix (entries spread ⟨"SSL"⟩) ∧
    plain.hashInput = spread.hashInput := by
  have keys := identity_sources_compare_files
  have anchors := trust_sources_compare_files
  obtain ⟨-, respelled, identities, -, -⟩ :=
    equality_sees_the_material _ _ keys anchors (entries plain .default)
  refine ⟨keys, anchors, respelled _ ?_, ?_⟩
  · have store : SameOrRelated IdentitySource.store? (KeyStore.Related Path.Respelled)
        (.files plain) (.files spread) := Or.inr ⟨_, _, rfl, rfl, plain_related_spread⟩
    exact .cons (.some ⟨.some store, .none⟩)
      (.cons .none (.cons (.some ⟨.some (Or.inl rfl), .none⟩) .nil))
  · obtain ⟨equal, hashed⟩ := identities (.files plain) (.files spread) plain spread rfl rfl
    exact hashed (equal.mpr plain_related_spread)

end TlsEndpoint
