import TlsEndpoint.Proofs.Sections

/-! # All anchors or none

The anchors of a list of certificates are one for each of them, in their order, or there are none at
all: the first certificate that makes no anchor decides how loading fails. A trust store adds the
failures of its file before that. -/
namespace TlsEndpoint

def Acceptable (certificate : Bytes) : Prop := ∃ a, TrustAnchor.ofCertificate certificate = .ok a

namespace Anchors

variable {cs ds : List Bytes} {anchors : Anchors} {e : TrustError}

def Of : List Bytes → Anchors → Prop := List.Forall₂ fun c a => TrustAnchor.ofCertificate c = .ok a

theorem read_all_eq (cs : List Bytes) : readAll cs = cs.mapM TrustAnchor.ofCertificate := by
  induction cs with
  | nil => rfl
  | cons c cs ih =>
    rw [readAll, List.mapM_cons, ih]
    cases TrustAnchor.ofCertificate c with
    | error f => rfl
    | ok a => cases cs.mapM TrustAnchor.ofCertificate <;> rfl

theorem read_all_ok_iff : readAll cs = .ok anchors ↔ Of cs anchors := by
  rw [read_all_eq, map_m_ok_iff]
  rfl

theorem read_all_error_iff {f : CertificateFault} :
    readAll cs = .error f ↔ ∃ before c after, cs = before ++ c :: after ∧
      (∀ x ∈ before, Acceptable x) ∧ TrustAnchor.ofCertificate c = .error f := by
  rw [read_all_eq, map_m_error_iff]
  rfl

theorem Of.nil_iff (h : Of cs anchors) : anchors = [] ↔ cs = [] := by
  cases h with
  | nil => exact iff_of_true rfl rfl
  | cons => exact iff_of_false (List.cons_ne_nil _ _) (List.cons_ne_nil _ _)

theorem exists_of_iff : (∃ anchors, Of cs anchors) ↔ ∀ c ∈ cs, Acceptable c := by
  induction cs with
  | nil => exact iff_of_true ⟨[], .nil⟩ (by simp)
  | cons c cs ih =>
    rw [List.forall_mem_cons, ← ih]
    constructor
    · rintro ⟨_, _ | ⟨made, rest⟩⟩
      exact ⟨⟨_, made⟩, _, rest⟩
    · rintro ⟨⟨a, made⟩, anchors, rest⟩
      exact ⟨a :: anchors, .cons made rest⟩

theorem of_append_iff : Of (cs ++ ds) anchors ↔
    ∃ first rest, Of cs first ∧ Of ds rest ∧ anchors = first ++ rest := by
  constructor
  · intro h
    -- Anchors stand at the places of their certificates, so both lists are cut at the same place.
    have first := List.forall₂_take cs.length h
    have rest := List.forall₂_drop cs.length h
    rw [List.take_left] at first
    rw [List.drop_left] at rest
    exact ⟨_, _, first, rest, (List.take_append_drop cs.length anchors).symm⟩
  · rintro ⟨first, rest, hf, hr, rfl⟩
    exact List.rel_append hf hr

theorem of_certificates_ok_iff :
    ofCertificates cs = .ok anchors ↔ cs ≠ [] ∧ Of cs anchors := by
  rw [← read_all_ok_iff]
  unfold ofCertificates
  rcases made : readAll cs with f | _ | ⟨a, as⟩
  · simp
  · have none := (read_all_ok_iff.mp made).nil_iff.mp rfl
    simp [none]
  · have present : cs ≠ [] := by
      intro none
      cases (read_all_ok_iff.mp made).nil_iff.mpr none
    simp [present]

/-- How loading fails: with the fault of the first certificate that makes no anchor, or for want of
certificates. -/
inductive Refused : List Bytes → TrustError → Prop where
  | empty : Refused [] (.storeAccess (.custom .invalidData "no trust anchors found"))
  | unacceptable {before c after f} (passed : ∀ x ∈ before, Acceptable x)
      (fault : TrustAnchor.ofCertificate c = .error f) :
      Refused (before ++ c :: after) (.unsupported (.invalidCertificate f))

theorem of_certificates_error_iff : ofCertificates cs = .error e ↔ Refused cs e := by
  constructor
  · intro h
    unfold ofCertificates at h
    rcases made : readAll cs with f | _ | ⟨a, as⟩
    · obtain ⟨before, c, after, rfl, passed, fault⟩ := read_all_error_iff.mp made
      rw [made] at h
      cases h
      exact .unacceptable passed fault
    · obtain rfl := (read_all_ok_iff.mp made).nil_iff.mp rfl
      cases h
      exact .empty
    · rw [made] at h
      cases h
  · intro h
    unfold ofCertificates
    cases h with
    | empty => rfl
    | unacceptable passed fault =>
      rw [read_all_error_iff.mpr ⟨_, _, _, rfl, passed, fault⟩]

theorem of_certificates_append_ok_iff (hc : cs ≠ []) (hd : ds ≠ []) :
    ofCertificates (cs ++ ds) = .ok anchors ↔ ∃ first rest,
      ofCertificates cs = .ok first ∧ ofCertificates ds = .ok rest ∧ anchors = first ++ rest := by
  simp only [of_certificates_ok_iff, of_append_iff, List.append_ne_nil_of_left_ne_nil hc, hc, hd,
    ne_eq, not_false_eq_true, true_and]

end Anchors

theorem TrustStore.load_eq_iff {fs : FileSystem} {store : TrustStore}
    {r : Except TrustError Anchors} :
    store.load fs = r ↔
      (∃ e, fs.CertificatesRead "root certificates" store.anchors (.error e) ∧
        r = .error (.storeAccess e)) ∨
      ∃ cs, fs.CertificatesRead "root certificates" store.anchors (.ok cs) ∧
        r = Anchors.ofCertificates cs := by
  simp only [← FileSystem.read_certificates_iff]
  unfold load
  cases fs.readCertificates "root certificates" store.anchors with
  | error e => simp [eq_comm]
  | ok cs => simp [eq_comm]

/-- No anchors are kept of a list that is refused. -/
theorem anchors_all_or_none (fs : FileSystem) (store : TrustStore) :
    (∀ cs anchors, Anchors.ofCertificates cs = .ok anchors ↔ cs ≠ [] ∧
      List.Forall₂ (fun c a => TrustAnchor.ofCertificate c = .ok a) cs anchors) ∧
    (∀ cs, (∃ anchors, Anchors.ofCertificates cs = .ok anchors) ↔
      cs ≠ [] ∧ ∀ c ∈ cs, Acceptable c) ∧
    (∀ cs e, Anchors.ofCertificates cs = .error e ↔ Anchors.Refused cs e) ∧
    (∀ cs ds anchors, cs ≠ [] → ds ≠ [] →
      (Anchors.ofCertificates (cs ++ ds) = .ok anchors ↔ ∃ first rest,
        Anchors.ofCertificates cs = .ok first ∧ Anchors.ofCertificates ds = .ok rest ∧
        anchors = first ++ rest)) ∧
    ∀ r, store.load fs = r ↔
      (∃ e, fs.CertificatesRead "root certificates" store.anchors (.error e) ∧
        r = .error (.storeAccess e)) ∨
      ∃ cs, fs.CertificatesRead "root certificates" store.anchors (.ok cs) ∧
        r = Anchors.ofCertificates cs := by
  refine ⟨?_, ?_, ?_, ?_, ?_⟩
  · exact fun cs anchors => Anchors.of_certificates_ok_iff
  · intro cs
    simp only [Anchors.of_certificates_ok_iff, exists_and_left, Anchors.exists_of_iff]
  · exact fun cs e => Anchors.of_certificates_error_iff
  · exact fun cs ds anchors => Anchors.of_certificates_append_ok_iff
  · exact fun r => TrustStore.load_eq_iff

/-- Two lists make one store, a certificate with two algorithms is named and not the garbage after
it, and a file that ends inside a section keeps nothing of the good certificate before it. -/
theorem torn_file_keeps_no_anchor :
    let certificate (id : UInt8) (algorithm : Bytes) : Bytes :=
      [0x30, 0x23 + UInt8.ofNat algorithm.length, 0x30, 0x1c, 0xa0, 3, 2, 1, 2, 2, 1, 1, 0x30, 0,
        0x30, 0, 0x30, 0, 0x30, 0, 0x30, 0x0a, 0x30, 5, 6, 3, 0x2b, 0x65, id, 3, 1, 0, 0x30,
        UInt8.ofNat algorithm.length] ++ algorithm ++ [3, 1, 0]
    let anchor (id : UInt8) : TrustAnchor :=
      ⟨[], [0x30, 5, 6, 3, 0x2b, 0x65, id, 3, 1, 0], none⟩
    let text := "-----BEGIN CERTIFICATE-----\n" ++
      "MCMwHKADAgECAgEBMAAwADAAMAAwCjAFBgMrZXADAQAwAAMBAA==\n-----END CERTIFICATE-----\n"
    let torn := text ++ "-----BEGIN CERTIFICATE-----\n"
    let store : TrustStore := ⟨Path.ofText "ca"⟩
    let files (text : String) : FileSystem := ⟨[([Bytes.ofText "ca"], .file (Bytes.ofText text))], []⟩
    Anchors.ofCertificates
        ([certificate 0x70 []] ++ [certificate 0x71 [], certificate 0x70 []]) =
      .ok ([anchor 0x70] ++ [anchor 0x71, anchor 0x70]) ∧
    Anchors.ofCertificates [certificate 0x70 [], certificate 0x70 [5, 0], [1, 2, 3]] =
      .error (.unsupported (.invalidCertificate .algorithmMismatch)) ∧
    store.load (files text) = .ok [anchor 0x70] ∧
    store.load (files torn) =
      .error (.storeAccess (Pem.PemError.missingEnd (Bytes.ofText "CERTIFICATE")).ioError) := by
  intro certificate anchor text torn store files
  obtain ⟨accepted, -, refused, joined, -⟩ := anchors_all_or_none (files text) store
  have loaded (text : String) := (anchors_all_or_none (files text) store).2.2.2.2
  have made : TrustAnchor.ofCertificate (certificate 0x70 []) = .ok (anchor 0x70) := by decide
  have second : TrustAnchor.ofCertificate (certificate 0x71 []) = .ok (anchor 0x71) := by decide
  refine ⟨?_, ?_, ?_, ?_⟩
  · refine (joined _ _ _ (List.cons_ne_nil _ _) (List.cons_ne_nil _ _)).mpr
      ⟨_, _, (accepted _ _).mpr ⟨List.cons_ne_nil _ _, ?_⟩,
        (accepted _ _).mpr ⟨List.cons_ne_nil _ _, ?_⟩, rfl⟩
    · exact .cons made .nil
    · exact .cons second (.cons made .nil)
  · have passed : ∀ x ∈ [certificate 0x70 []], Acceptable x := by
      intro x hx
      rw [List.mem_singleton.mp hx]
      exact ⟨_, made⟩
    exact (refused _ _).mpr (.unacceptable passed (by decide))
  · have whole : Pem.sections (Bytes.ofText text) =
        [Pem.Section.certificate (certificate 0x70 [])].map .ok := by
      decide
    have read : (files text).CertificatesRead "root certificates" store.anchors
        (.ok [certificate 0x70 []]) :=
      .found rfl whole (by decide)
    refine (loaded text _).mpr (Or.inr ⟨_, read, ?_⟩)
    exact ((accepted _ _).mpr ⟨List.cons_ne_nil _ _, .cons made .nil⟩).symm
  · have fault : Pem.sections (Bytes.ofText torn) =
        [Pem.Section.certificate (certificate 0x70 [])].map .ok ++
          [.error (.missingEnd (Bytes.ofText "CERTIFICATE"))] := by
      decide
    exact (loaded torn _).mpr (Or.inl ⟨_, .malformed rfl fault, rfl⟩)

end TlsEndpoint
