import Mathlib.Tactic.SplitIfs
import TlsEndpoint.Material

/-! # The leaf decides

An identity is made of a chain and a key in stages: there is a leaf, the key loads, it shows its
public half, the leaf can be read, and the two agree. The first stage to fail decides. The rest of
the chain is handed on as it is. -/
namespace TlsEndpoint

def KeyFits (chain : List Bytes) (key : SigningKey) : Prop :=
  ∃ leaf rest c shown, chain = leaf :: rest ∧ Certificate.parse .verification leaf = .ok c ∧
    key.shown? = some shown ∧ c.keyInfo = shown.info

theorem keys_match_iff {chain : List Bytes} {key : SigningKey} :
    keysMatch chain key = .ok () ↔ KeyFits chain key := by
  unfold keysMatch KeyFits
  cases key.shown? with
  | none => simp
  | some shown =>
    cases chain with
    | nil => simp
    | cons leaf rest =>
      cases hp : Certificate.parse .verification leaf with
      | error f => simp [hp]
      | ok c =>
        by_cases hk : c.keyInfo = shown.info
        · simp [hk, hp]
        · simp [hk, hp]

theorem KeyFits.chain_ne_nil {chain : List Bytes} {key : SigningKey} (h : KeyFits chain key) :
    chain ≠ [] := by
  obtain ⟨leaf, rest, c, shown, rfl, -⟩ := h
  exact List.cons_ne_nil leaf rest

/-- Why a loaded key and a leaf do not go together. -/
inductive Misfit (leaf : Bytes) (key : SigningKey) : TlsError → Prop where
  | hidden (hides : key.shown? = none) : Misfit leaf key (.inconsistentKeys .unknown)
  | unreadable {shown f} (shows : key.shown? = some shown)
      (fault : Certificate.parse .verification leaf = .error f) :
      Misfit leaf key (.invalidCertificate f)
  | foreign {shown c} (shows : key.shown? = some shown)
      (read : Certificate.parse .verification leaf = .ok c) (differs : c.keyInfo ≠ shown.info) :
      Misfit leaf key (.inconsistentKeys .mismatch)

theorem keys_match_error_iff {leaf : Bytes} {rest : List Bytes} {key : SigningKey} {e : TlsError} :
    keysMatch (leaf :: rest) key = .error e ↔ Misfit leaf key e := by
  constructor
  · intro h
    unfold keysMatch at h
    cases shows : key.shown? with
    | none =>
      rw [shows] at h
      cases h
      exact .hidden shows
    | some shown =>
      cases read : Certificate.parse .verification leaf with
      | error f =>
        simp only [shows, read] at h
        cases h
        exact .unreadable shows read
      | ok c =>
        simp only [shows, read] at h
        split_ifs at h with agree
        cases h
        exact .foreign shows read agree
  · intro h
    unfold keysMatch
    cases h with
    | hidden hides => rw [hides]
    | unreadable shows fault => simp only [shows, fault]
    | foreign shows read differs => simp only [shows, read, if_neg differs]

theorem Identity.of_der_ok_iff {provider : Provider} {chain : List Bytes} {key : EncodedKey}
    {i : Identity} :
    Identity.ofDer provider chain key = .ok i ↔
      i.chain = chain ∧ provider.load key = .ok i.key ∧ KeyFits i.chain i.key := by
  unfold ofDer
  by_cases hc : chain = []
  · subst hc
    simp only [if_true, reduceCtorEq, false_iff]
    rintro ⟨hi, -, leaf, rest, c, shown, hl, -⟩
    rw [hi] at hl
    cases hl
  · rw [if_neg hc]
    cases hl : provider.load key with
    | error e => simp
    | ok loaded =>
      dsimp only
      cases hm : keysMatch chain loaded with
      | error e =>
        simp only [reduceCtorEq, Except.ok.injEq, false_iff]
        rintro ⟨rfl, rfl, hf⟩
        rw [keys_match_iff.mpr hf] at hm
        cases hm
      | ok =>
        have fits := keys_match_iff.mp hm
        simp only [Except.ok.injEq]
        constructor
        · rintro rfl
          exact ⟨rfl, rfl, fits⟩
        · rintro ⟨rfl, rfl, -⟩
          rfl

namespace Identity

/-- How far a chain and a key get on the way to an identity, and what stops them there. -/
inductive Refused (provider : Provider) (key : EncodedKey) : List Bytes → IdentityError → Prop where
  | noLeaf : Refused provider key []
      (.storeAccess (.custom .notFound "no certificate found for identity"))
  | unloadable {leaf rest e} (failed : provider.load key = .error e) :
      Refused provider key (leaf :: rest) (.unsupportedAlgorithm e)
  | misfit {leaf rest loaded e} (load : provider.load key = .ok loaded)
      (why : Misfit leaf loaded e) :
      Refused provider key (leaf :: rest) (.secretMismatch e)

variable {provider : Provider} {key : EncodedKey} {chain : List Bytes}

theorem of_der_error_iff {e : IdentityError} :
    ofDer provider chain key = .error e ↔ Refused provider key chain e := by
  constructor
  · intro h
    unfold ofDer at h
    cases chain with
    | nil =>
      cases h
      exact .noLeaf
    | cons leaf rest =>
      rw [if_neg (List.cons_ne_nil leaf rest)] at h
      cases load : provider.load key with
      | error e =>
        rw [load] at h
        cases h
        exact .unloadable load
      | ok loaded =>
        cases check : keysMatch (leaf :: rest) loaded with
        | error e =>
          simp only [load, check] at h
          cases h
          exact .misfit load (keys_match_error_iff.mp check)
        | ok =>
          simp only [load, check] at h
          cases h
  · intro h
    unfold ofDer
    cases h with
    | noLeaf => rfl
    | unloadable failed => rw [if_neg (List.cons_ne_nil _ _), failed]
    | misfit load why =>
      simp only [if_neg (List.cons_ne_nil _ _), load, keys_match_error_iff.mpr why]

theorem of_der_tail (leaf : Bytes) (rest rest' : List Bytes) :
    ofDer provider (leaf :: rest') key =
      (ofDer provider (leaf :: rest) key).map fun i => { i with chain := leaf :: rest' } := by
  unfold ofDer
  rw [if_neg (List.cons_ne_nil leaf rest), if_neg (List.cons_ne_nil leaf rest')]
  cases provider.load key with
  | error e => rfl
  | ok loaded =>
    -- The check matches on the head of the chain and drops the rest.
    have leaf_checked : keysMatch (leaf :: rest') loaded = keysMatch (leaf :: rest) loaded := rfl
    dsimp only
    rw [leaf_checked]
    cases keysMatch (leaf :: rest) loaded <;> rfl

end Identity

theorem leaf_and_key_decide (provider : Provider) (key : EncodedKey) :
    (∀ chain i, Identity.ofDer provider chain key = .ok i ↔ ∃ leaf rest loaded shown c,
      chain = leaf :: rest ∧ provider.load key = .ok loaded ∧ loaded.shown? = some shown ∧
      Certificate.parse .verification leaf = .ok c ∧ c.keyInfo = shown.info ∧
      i = ⟨chain, loaded⟩) ∧
    (∀ chain e, Identity.ofDer provider chain key = .error e ↔
      Identity.Refused provider key chain e) ∧
    ∀ leaf rest rest', Identity.ofDer provider (leaf :: rest') key =
      (Identity.ofDer provider (leaf :: rest) key).map
        fun i => { i with chain := leaf :: rest' } := by
  refine ⟨?_, fun chain e => Identity.of_der_error_iff, Identity.of_der_tail⟩
  intro chain i
  rw [Identity.of_der_ok_iff]
  constructor
  · rintro ⟨hc, load, leaf, rest, c, shown, split, read, shows, agree⟩
    subst hc
    exact ⟨leaf, rest, i.key, shown, c, split, load, shows, read, agree, rfl⟩
  · rintro ⟨leaf, rest, loaded, shown, c, split, load, shows, read, agree, rfl⟩
    exact ⟨rfl, load, leaf, rest, c, shown, split, read, shows, agree⟩

/-- Behind its leaf a chain may hold anything, twice too. -/
example :
    let leaf : Bytes := [0x30, 0x23, 0x30, 0x1c, 0xa0, 3, 2, 1, 2, 2, 1, 1, 0x30, 0, 0x30, 0,
      0x30, 0, 0x30, 0, 0x30, 0x0a, 0x30, 5, 6, 3, 0x2b, 0x65, 0x70, 3, 1, 0, 0x30, 0, 3, 1, 0]
    let provider : Provider := { Provider.default with load := fun _ => .ok ⟨.ed25519 [], false⟩ }
    Identity.ofDer provider [leaf, [1], [1], leaf] ⟨.pkcs8, []⟩ =
      .ok ⟨[leaf, [1], [1], leaf], ⟨.ed25519 [], false⟩⟩ := by
  rfl

end TlsEndpoint
