import TlsEndpoint.Verification.Chain

/-! # Certified paths

What a verified chain proves, apart from how the path was searched and what the search may spend:
certificates of the chain lead from the leaf up to an anchor, each fit for its place, each signed
with the key above it, and all within the name constraints above them. -/
namespace TlsEndpoint.Chain

/-- A path begins at its top. Each signature is by the key above it. -/
inductive Signed : (keyInfo : Bytes) → List Certificate → Prop where
  | nil (keyInfo : Bytes) : Signed keyInfo []
  | cons {keyInfo c below} (signature : Signature.verify c keyInfo = .ok ())
      (rest : Signed c.keyInfo below) : Signed keyInfo (c :: below)

inductive Constrained : (constraint : Option Bytes) → List Certificate → Prop where
  | nil (constraint : Option Bytes) : Constrained constraint []
  | cons {constraint c below budget left}
      (holds : NameMatch.checkConstraint constraint (c :: below) budget = (.ok (), left))
      (rest : Constrained c.extensions.nameConstraints below) : Constrained constraint (c :: below)

def Fit (goal : Goal) : List Certificate → Prop
  | [] => False
  | top :: below =>
    verifyAlone top goal.now goal.purpose (if below = [] then .endEntity else .issuer)
      (below.length - 1) = .ok ()

/-- A path up from the leaf, of which only the top may be unfit. -/
inductive Reached (goal : Goal) (leaf : Certificate) : List Certificate → Prop where
  | leaf : Reached goal leaf [leaf]
  | issuer {top below der c} (path : Reached goal leaf (top :: below))
      (fit : Fit goal (top :: below)) (offered : der ∈ goal.intermediates)
      (parsed : Certificate.parse .verification der = .ok c) (named : top.issuer = c.subject)
      (fresh : isOnPath c (top :: below) = false) : Reached goal leaf (c :: top :: below)

/-- The anchor is one of the goal's and stands above a path to the leaf. -/
structure Certified (goal : Goal) (leaf : Certificate) (anchor : TrustAnchor)
    (path : List Certificate) : Prop where
  trusted : anchor ∈ goal.anchors
  reached : Reached goal leaf path
  fit : Fit goal path
  named : path.head?.map Certificate.issuer = some anchor.subject
  signed : Signed anchor.keyInfo path
  constrained : Constrained anchor.nameConstraints path

section Parts

variable {path : List Certificate} {budget left : Budget}

theorem signed_of_verify {keyInfo : Bytes}
    (h : verifySignatures keyInfo path budget = (.ok (), left)) : Signed keyInfo path := by
  induction path generalizing keyInfo budget with
  | nil => exact .nil keyInfo
  | cons c below ih =>
    unfold verifySignatures at h
    split at h
    · cases h
    · dsimp only at h
      split at h
      · cases h
      · next signature => exact .cons signature (ih h)

theorem constrained_of_verify {constraint : Option Bytes}
    (h : verifyConstraints constraint path budget = (.ok (), left)) :
    Constrained constraint path := by
  induction path generalizing constraint budget with
  | nil => exact .nil constraint
  | cons c below ih =>
    unfold verifyConstraints at h
    split at h
    · cases h
    · next holds => exact .cons holds (ih h)

theorem try_anchor_ok {anchor found : TrustAnchor}
    (h : tryAnchor anchor path budget = (.ok found, left)) :
    found = anchor ∧ path.head?.map Certificate.issuer = some anchor.subject ∧
      Signed anchor.keyInfo path ∧ Constrained anchor.nameConstraints path := by
  unfold tryAnchor at h
  split at h
  · cases h
  · next top below =>
    split at h
    · cases h
    · next named =>
      split at h
      · cases h
      · next signatures =>
        split at h
        · cases h
        · next constraints =>
          cases h
          exact ⟨rfl, congrArg some (Decidable.not_not.mp named), signed_of_verify signatures,
            constrained_of_verify constraints⟩

theorem try_each_ok {α β : Type} {attempt : α → Budget → Search β} {fault : CertificateFault}
    {items : List α} {b : β} (h : tryEach attempt fault items budget = (.ok b, left)) :
    ∃ a ∈ items, ∃ before, attempt a before = (.ok b, left) := by
  induction items generalizing fault budget with
  | nil => cases h
  | cons a rest ih =>
    unfold tryEach at h
    split at h
    · next tried =>
      cases h
      exact ⟨a, List.mem_cons_self, budget, tried⟩
    · split at h
      · cases h
      · obtain ⟨x, hx, before, tried⟩ := ih h
        exact ⟨x, List.mem_cons_of_mem _ hx, before, tried⟩

end Parts

section Search

variable {goal : Goal} {leaf : Certificate} {path : List Certificate} {budget left : Budget}
  {anchor : TrustAnchor} {further : List Certificate → Budget → Search TrustAnchor}

theorem try_issuer_ok {der : Bytes} (h : tryIssuer further path der budget = (.ok anchor, left)) :
    ∃ c before, Certificate.parse .verification der = .ok c ∧
      path.head?.map Certificate.issuer = some c.subject ∧ isOnPath c path = false ∧
      further (c :: path) before = (.ok anchor, left) := by
  unfold tryIssuer at h
  split at h
  · cases h
  · next c parsed =>
    split at h
    · cases h
    · next suits =>
      obtain ⟨named, fresh⟩ := not_or.mp suits
      split at h
      · cases h
      · exact ⟨c, _, parsed, Decidable.not_not.mp named, Bool.eq_false_iff.mpr fresh, h⟩

theorem certified_of_extend
    (sound : ∀ {path budget left}, Reached goal leaf path →
      further path budget = (.ok anchor, left) → ∃ whole, Certified goal leaf anchor whole)
    (reached : Reached goal leaf path) (h : extend goal further path budget = (.ok anchor, left)) :
    ∃ whole, Certified goal leaf anchor whole := by
  unfold extend at h
  split at h
  · cases h
  · next top below =>
    dsimp only at h
    split at h
    · cases h
    · next fit =>
      split at h
      · next found =>
        cases h
        obtain ⟨a, trusted, before, tried⟩ := try_each_ok found
        obtain ⟨rfl, named, signed, constrained⟩ := try_anchor_ok tried
        exact ⟨_, trusted, reached, fit, named, signed, constrained⟩
      · split at h
        · cases h
        · obtain ⟨der, offered, before, tried⟩ := try_each_ok h
          obtain ⟨c, _, parsed, named, fresh, climbed⟩ := try_issuer_ok tried
          exact sound (reached.issuer fit offered parsed (Option.some.inj named) fresh) climbed

/-- The induction is on the room that is left, since each level hands on one less. -/
theorem certified_of_search {room : Nat} (reached : Reached goal leaf path)
    (h : search goal room path budget = (.ok anchor, left)) :
    ∃ whole, Certified goal leaf anchor whole := by
  induction room generalizing path budget left with
  | zero => exact certified_of_extend (fun _ h => by cases h) reached h
  | succ room ih => exact certified_of_extend ih reached h

theorem certified_of_verify (h : verify goal leaf = .ok anchor) :
    ∃ path, Certified goal leaf anchor path := by
  rcases searched : search goal maxIntermediates [leaf] Budget.start with ⟨result, left⟩
  rw [verify, searched] at h
  cases h
  exact certified_of_search .leaf searched

end Search

end TlsEndpoint.Chain
