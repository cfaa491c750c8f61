import TlsEndpoint.Resolution
import TlsEndpoint.Proofs.AnchorLoading
import TlsEndpoint.Proofs.Degradation
import TlsEndpoint.Proofs.Provenance

/-! # The running machine never lacks defaults

The certificate store of the operating system may be empty or hold nothing but certificates that
make no anchor; then the root program stands in, and only then. The store is read once in the life
of a process. With a provider that serves both versions a resolution on the machine is therefore
usable, however the configured sources behave, and what it falls back to depends on at most two
answers of the identity source and one of the trust source. -/
namespace TlsEndpoint

inductive Accepted : List Bytes → Anchors → Prop where
  | nil : Accepted [] []
  | accept {c cs a as} (made : TrustAnchor.ofCertificate c = .ok a) (rest : Accepted cs as) :
      Accepted (c :: cs) (a :: as)
  | refuse {c cs e as} (refused : TrustAnchor.ofCertificate c = .error e)
      (rest : Accepted cs as) : Accepted (c :: cs) as

theorem accepted_readable (native : List Bytes) : Accepted native (Anchors.ofReadable native) := by
  induction native with
  | nil => exact .nil
  | cons c cs ih =>
    unfold Anchors.ofReadable at ih ⊢
    cases made : TrustAnchor.ofCertificate c with
    | ok a =>
      rw [List.filterMap_cons_some (b := a) (by rw [made]; rfl)]
      exact .accept made ih
    | error e =>
      rw [List.filterMap_cons_none (by rw [made]; rfl)]
      exact .refuse made ih

theorem Accepted.eq_nil_iff {native : List Bytes} {anchors : Anchors}
    (h : Accepted native anchors) : anchors = [] ↔ ∀ c ∈ native, ¬ Acceptable c := by
  induction h with
  | nil => simp
  | @accept c cs a as made rest ih =>
    constructor
    · intro hn
      cases hn
    · intro hn
      exact absurd ⟨a, made⟩ (hn c (List.mem_cons_self ..))
  | @refuse c cs e as refused rest ih =>
    rw [ih, List.forall_mem_cons]
    constructor
    · intro hn
      refine ⟨?_, hn⟩
      rintro ⟨a, made⟩
      rw [refused] at made
      cases made
    · exact fun hn => hn.2

namespace Machine

variable (m : Machine)

theorem roots_ne_nil {program : Anchors} (hp : program ≠ []) (native : List Bytes) :
    roots program native ≠ [] := by
  unfold roots
  split
  · exact hp
  · next hn => exact hn

theorem roots_accepted (program : Anchors) {native : List Bytes}
    (h : ∃ c ∈ native, Acceptable c) : Accepted native (roots program native) := by
  have accepted := accepted_readable native
  unfold roots
  split
  · next hn =>
    obtain ⟨c, hm, hc⟩ := h
    exact absurd hc ((accepted.eq_nil_iff.mp hn) c hm)
  · exact accepted

theorem roots_of_none_acceptable (program : Anchors) {native : List Bytes}
    (h : ¬ ∃ c ∈ native, Acceptable c) : roots program native = program := by
  have none_left : Anchors.ofReadable native = [] :=
    (accepted_readable native).eq_nil_iff.mpr fun c hm hc => h ⟨c, hm, hc⟩
  rw [roots, none_left]

def held : TrustCell := ⟨some (roots m.rootProgram (m.native 0)), 1⟩

theorem ask_fresh : m.askTrust .fresh = (roots m.rootProgram (m.native 0), m.held) := rfl

theorem ask_held : m.askTrust m.held = (roots m.rootProgram (m.native 0), m.held) := rfl

theorem cell_after_first (n : Nat) : m.cellAfter (n + 1) = m.held := by
  induction n with
  | zero => rw [cellAfter, cellAfter, ask_fresh]
  | succ n ih => rw [cellAfter, ih, ask_held]

theorem default_trust_eq (n : Nat) :
    m.platform.defaultTrust n = .ok (roots m.rootProgram (m.native 0)) := by
  cases n with
  | zero => rfl
  | succ n =>
    change Except.ok (m.askTrust (m.cellAfter (n + 1))).1 = _
    rw [cell_after_first, ask_held]

variable {m}

theorem default_trust_fit (hp : m.rootProgram ≠ []) (n : Nat) :
    ¬ Unfit (m.platform.defaultTrust n) := by
  rw [default_trust_eq]
  rintro (⟨e, he⟩ | he)
  · cases he
  · exact roots_ne_nil hp _ (Except.ok.inj he)

end Machine

theorem Protocol.enabled_ne_nil {p : Protocol} {vs : List Version} (h : p.versions = .ok vs) :
    vs ≠ [] := by
  have recognised_ne_nil : ∀ e ∈ Protocol.recognised, e.2 ≠ [] := by decide
  unfold Protocol.versions at h
  split at h
  · next e found =>
    cases h
    exact recognised_ne_nil e (List.mem_of_find?_eq_some found)
  · cases h

theorem Provider.serves_enabled {p : Provider} (suites : ∀ v : Version, ∃ s ∈ p.suites, s.version = v)
    {vs : List Version} (h : vs ≠ []) : p.hasSuiteOf vs = true := by
  obtain ⟨v, hv⟩ := List.exists_mem_of_ne_nil vs h
  obtain ⟨s, hm, rfl⟩ := suites v
  exact Provider.has_suite_of_iff.mpr ⟨s, hm, hv⟩

section Answers

variable {ι τ : Type} (sources : Sources ι τ) (config : Configuration ι τ)

/-- The identity is configured, and its `n`-th answer to this provider is one. -/
def GivesIdentity (p : Provider) (n : Nat) : Prop :=
  ∃ source i, config.identity = some source ∧ sources.identity source n p = .ok i

def LacksIdentity (p : Provider) (n : Nat) : Prop :=
  config.identity = none ∨
    ∃ source e, config.identity = some source ∧ sources.identity source n p = .error e

def LacksTrust : Prop :=
  config.trust = none ∨
    ∃ source, config.trust = some source ∧ Unfit (sources.trust source 0)

variable {sources config}

theorem LacksIdentity.not_gives {p : Provider} {n : Nat} (h : LacksIdentity sources config p n) :
    ¬ GivesIdentity sources config p n := by
  rintro ⟨source, i, hs, hi⟩
  rcases h with hn | ⟨source', e, hs', he⟩
  · rw [hs] at hn
    cases hn
  · rw [hs] at hs'
    cases hs'
    rw [hi] at he
    cases he

theorem lacks_identity_of_failed {p : Provider} {n : Nat} {e : IdentityError}
    (h : Half.configured.identity sources config n p = .error e) :
    LacksIdentity sources config p n := by
  rcases Half.configured_identity_error_iff.mp h with ⟨hn, -⟩ | ⟨source, hs, he⟩
  · exact Or.inl hn
  · exact Or.inr ⟨source, e, hs, he⟩

theorem gives_identity_of_loaded {p : Provider} {n : Nat} {i : Option Identity}
    (h : Half.configured.identity sources config n p = .ok i) :
    GivesIdentity sources config p n := by
  obtain ⟨source, j, hs, hj, -⟩ := Half.configured_identity_ok_iff.mp h
  exact ⟨source, j, hs, hj⟩

theorem lacks_trust_iff {platform : Platform} {before : List Call}
    (first : before.count .trust = 0) :
    LacksTrust sources config ↔
      Unfit (Half.configured.trust platform sources config before) := by
  unfold LacksTrust
  cases hs : config.trust with
  | none => simp [Half.trust, hs, Unfit]
  | some source =>
    rw [Half.configured_trust_eq platform sources hs, first]
    simp

end Answers

section Fallback

variable {ι τ : Type} {m : Machine} {sources : Sources ι τ} {config : Configuration ι τ}

/-- The ways a resolution on the machine can end, by the answers that lead there. -/
inductive Fallback (sources : Sources ι τ) (config : Configuration ι τ) (p : Provider) :
    Outcome → Prop where
  | unsupported {e} (unknown : config.protocol.versions = .error e) :
      Fallback sources config p .platformDefault
  | nothingLost {vs} (supported : config.protocol.versions = .ok vs)
      (identity : GivesIdentity sources config p 0) (trust : ¬ LacksTrust sources config) :
      Fallback sources config p .configured
  | trustLost {vs} (supported : config.protocol.versions = .ok vs)
      (identity : GivesIdentity sources config p 0) (trust : LacksTrust sources config)
      (again : GivesIdentity sources config p 1) :
      Fallback sources config p .defaultTrustStore
  | identityLost {vs} (supported : config.protocol.versions = .ok vs)
      (identity : LacksIdentity sources config p 0) (trust : ¬ LacksTrust sources config) :
      Fallback sources config p .defaultKeyStore
  | bothLost {vs} (supported : config.protocol.versions = .ok vs)
      (identity : LacksIdentity sources config p 0) (trust : LacksTrust sources config) :
      Fallback sources config p .platformDefault
  | lostLater {vs} (supported : config.protocol.versions = .ok vs)
      (identity : GivesIdentity sources config p 0) (trust : LacksTrust sources config)
      (again : LacksIdentity sources config p 1) :
      Fallback sources config p .platformDefault

variable {between late : List Call} {vs : List Version}

/-- A machine whose provider serves both versions and whose root program is not empty. -/
structure Machine.Equipped (m : Machine) : Prop where
  suite : ∀ v : Version, ∃ s ∈ m.provider.suites, s.version = v
  group : m.provider.groups ≠ []
  program : m.rootProgram ≠ []

theorem Machine.Equipped.served (h : m.Equipped) (hv : vs ≠ []) :
    Served m.platform m.provider vs :=
  ⟨fun _ => rfl, Provider.serves_enabled h.suite hv, h.group⟩

theorem Machine.Equipped.default_engine_ok (h : m.Equipped) (sources : Sources ι τ)
    (config : Configuration ι τ) {before calls : List Call}
    {x : Except TrustError Engine} (last : defaultEngine m.platform before = (x, calls)) :
    ∃ engine, x = .ok engine := by
  cases x with
  | ok engine => exact ⟨engine, rfl⟩
  | error e =>
    have course := default_engine_course sources config last
    have unfit := (course.unfit_of_trust_error (h.served (by decide))).1
    exact absurd unfit (Machine.default_trust_fit h.program _)

theorem identity_failed (served : Served m.platform m.provider vs) {e : IdentityError}
    (first : Course m.platform sources config (.ok vs) .configured .configured []
      (.error (.identity e), between)) :
    LacksIdentity sources config m.provider 0 ∧ between.count .trust = 0 := by
  refine ⟨?_, first.no_trust_call⟩
  cases first.served served with
  | noIdentity failed => exact lacks_identity_of_failed failed

theorem trust_failed (served : Served m.platform m.provider vs) {e : TrustError}
    (first : Course m.platform sources config (.ok vs) .configured .configured []
      (.error (.trust e), between)) :
    GivesIdentity sources config m.provider 0 ∧ LacksTrust sources config ∧
      between.count .identity = 1 := by
  cases first.served served with
  | noTrust loaded unfit =>
    have gives := gives_identity_of_loaded loaded
    refine ⟨gives, (lacks_trust_iff rfl).mpr unfit, ?_⟩
    obtain ⟨source, i, hs, -⟩ := gives
    have none_later := List.count_eq_zero.mpr
      (Half.not_mem_trust_calls config .configured (c := .identity) (by decide) (by decide))
    simp [Half.identityCalls, hs, none_later]

theorem Cascade.fallback (h : m.Equipped) {r : Resolution}
    (hc : Cascade m.platform sources config r) :
    Fallback sources config m.provider r.context.outcome := by
  cases hv : config.protocol.versions with
  | error e =>
    have no_engine : ∀ {identityHalf trustHalf before engine calls},
        attempt m.platform sources config identityHalf trustHalf before ≠ (.ok engine, calls) := by
      intro identityHalf trustHalf before engine calls built
      obtain ⟨vs, supported⟩ := (attempt_course built).supported
      rw [hv] at supported
      cases supported
    cases hc with
    | configured first => exact absurd first no_engine
    | defaultTrustStore first second => exact absurd second no_engine
    | defaultKeyStore first second => exact absurd second no_engine
    | platformDefault => exact .unsupported hv
    | unusable first second last =>
      obtain ⟨engine, he⟩ := h.default_engine_ok sources config last
      cases he
  | ok vs =>
    have served : Served m.platform m.provider vs := h.served (Protocol.enabled_ne_nil hv)
    cases hc with
    | configured first =>
      have first := attempt_course first
      rw [hv] at first
      cases first.served served with
      | built loaded fit =>
        exact .nothingLost hv (gives_identity_of_loaded loaded)
          fun lacks => fit ((lacks_trust_iff rfl).mp lacks)
    | defaultTrustStore first second =>
      have first := attempt_course first
      have second := attempt_course second
      rw [hv] at first second
      obtain ⟨gives, lacks, asked⟩ := trust_failed served first
      cases second.served served with
      | built loaded =>
        rw [asked] at loaded
        exact .trustLost hv gives lacks (gives_identity_of_loaded loaded)
    | defaultKeyStore first second =>
      have first := attempt_course first
      have second := attempt_course second
      rw [hv] at first second
      obtain ⟨lacks, unasked⟩ := identity_failed served first
      exact .identityLost hv lacks fun lacks => second.trust_fit ((lacks_trust_iff unasked).mp lacks)
    | @platformDefault failure _ _ _ _ _ first second =>
      have first := attempt_course first
      have second := attempt_course second
      rw [hv] at first second
      cases failure with
      | identity e =>
        obtain ⟨lacks, unasked⟩ := identity_failed served first
        obtain ⟨e', rfl⟩ := second.trust_error_of_default
        have unfit := (second.unfit_of_trust_error served).1
        exact .bothLost hv lacks ((lacks_trust_iff unasked).mpr unfit)
      | trust e =>
        obtain ⟨gives, lacks, asked⟩ := trust_failed served first
        cases second.served served with
        | noIdentity failed =>
          rw [asked] at failed
          exact .lostLater hv gives lacks (lacks_identity_of_failed failed)
        | noTrust _ unfit => exact absurd unfit (Machine.default_trust_fit h.program _)
    | unusable first second last =>
      obtain ⟨engine, he⟩ := h.default_engine_ok sources config last
      cases he

theorem Fallback.usable {p : Provider} {o : Outcome} (h : Fallback sources config p o) :
    o ≠ .unusable := by
  cases h <;> nofun

theorem Fallback.platform_default_iff {p : Provider} {o : Outcome}
    (h : Fallback sources config p o) :
    o = .platformDefault ↔
      (∃ e, config.protocol.versions = .error e) ∨
      (LacksIdentity sources config p 0 ∧ LacksTrust sources config) ∨
      (GivesIdentity sources config p 0 ∧ LacksTrust sources config ∧
        LacksIdentity sources config p 1) := by
  have known : ∀ {vs}, config.protocol.versions = .ok vs →
      ¬ ∃ e, config.protocol.versions = .error e := by
    rintro vs supported ⟨e, unknown⟩
    rw [supported] at unknown
    cases unknown
  cases h with
  | unsupported unknown => exact iff_of_true rfl (Or.inl ⟨_, unknown⟩)
  | nothingLost supported identity trust =>
    refine iff_of_false nofun ?_
    rintro (unknown | ⟨-, lacks⟩ | ⟨-, lacks, -⟩)
    · exact known supported unknown
    · exact trust lacks
    · exact trust lacks
  | trustLost supported identity trust again =>
    refine iff_of_false nofun ?_
    rintro (unknown | ⟨lacks, -⟩ | ⟨-, -, lacks⟩)
    · exact known supported unknown
    · exact lacks.not_gives identity
    · exact lacks.not_gives again
  | identityLost supported identity trust =>
    refine iff_of_false nofun ?_
    rintro (unknown | ⟨-, lacks⟩ | ⟨-, lacks, -⟩)
    · exact known supported unknown
    · exact trust lacks
    · exact trust lacks
  | bothLost _ identity trust => exact iff_of_true rfl (Or.inr (Or.inl ⟨identity, trust⟩))
  | lostLater _ identity trust again =>
    exact iff_of_true rfl (Or.inr (Or.inr ⟨identity, trust, again⟩))

end Fallback

/-- Whatever the store holds and the sources answer, a resolution on the machine is usable. -/
theorem machine_resolution_usable {ι τ : Type} (m : Machine) (equipped : m.Equipped)
    (sources : Sources ι τ) (config : Configuration ι τ) :
    let roots := Machine.roots m.rootProgram
    let r := resolve m.platform sources config
    (∀ native, roots native ≠ [] ∧
      ((∃ c ∈ native, Acceptable c) → Accepted native (roots native)) ∧
      ((¬ ∃ c ∈ native, Acceptable c) → roots native = m.rootProgram)) ∧
    (∀ n, m.platform.defaultTrust n = .ok (roots (m.native 0)) ∧
      (m.cellAfter (n + 1)).reads = 1) ∧
    r.context.isUsable = true ∧
    (r.context.outcome = .platformDefault ↔
      (∃ e, config.protocol.versions = .error e) ∨
      (LacksIdentity sources config m.provider 0 ∧ LacksTrust sources config) ∨
      (GivesIdentity sources config m.provider 0 ∧ LacksTrust sources config ∧
        LacksIdentity sources config m.provider 1)) := by
  intro roots r
  have cascade : Cascade m.platform sources config r := resolve_cascade _ _ _
  have fallback := cascade.fallback equipped
  refine ⟨fun native => ⟨?_, ?_, ?_⟩, fun n => ⟨m.default_trust_eq n, ?_⟩, ?_, ?_⟩
  · exact Machine.roots_ne_nil equipped.program native
  · exact Machine.roots_accepted m.rootProgram
  · exact Machine.roots_of_none_acceptable m.rootProgram
  · rw [Machine.cell_after_first, Machine.held]
  · exact cascade.usable fallback.usable
  · exact fallback.platform_default_iff

/-- The store holds one certificate, which is broken, and the identity is lost between its loads. -/
theorem broken_store_falls_back :
    let m : Machine := ⟨none, fun _ => [[0x30, 0x00]], [⟨[1], [2], none⟩]⟩
    let sources : Sources Identity Anchors :=
      ⟨fun i n _ => if n = 0 then .ok i else .error .missing, fun a _ => .ok a⟩
    let config : Configuration Identity Anchors :=
      ⟨.default, some ⟨[], ⟨.ed25519 [], false⟩⟩, some []⟩
    let r := resolve m.platform sources config
    m.Equipped ∧ m.platform.defaultTrust 1 = .ok [⟨[1], [2], none⟩] ∧
      r.context.isUsable = true ∧ r.context.outcome = .platformDefault := by
  intro m sources config r
  have equipped : m.Equipped := ⟨fun v => by cases v <;> decide, by decide, by decide⟩
  have refused : ¬ ∃ c ∈ m.native 0, Acceptable c := by
    rintro ⟨c, hm, a, made⟩
    rw [List.mem_singleton] at hm
    subst hm
    cases made
  obtain ⟨roots, held, usable, outcome⟩ := machine_resolution_usable m equipped sources config
  refine ⟨equipped, ?_, usable, outcome.mpr (Or.inr (Or.inr ⟨?_, ?_, ?_⟩))⟩
  · rw [(held 1).1, (roots (m.native 0)).2.2 refused]
  · exact ⟨_, _, rfl, rfl⟩
  · exact Or.inr ⟨_, rfl, Or.inr rfl⟩
  · exact Or.inr ⟨_, _, rfl, rfl⟩

end TlsEndpoint
