import TlsEndpoint.Material
import TlsEndpoint.Proofs.LeafAndKey
import TlsEndpoint.Proofs.Related

/-! # What is read from a text file

The key of a file is its first key, provided that no fault comes before it; its certificates are all
of them, provided that there is no fault at all. Both are told here by how the list of sections
divides, and loading a key store by what its two files hold. -/
namespace TlsEndpoint

namespace Pem

theorem readings_ok_iff {ε α : Type} {l : List (Except ε α)} {items : List α} :
    l.mapM id = .ok items ↔ l = items.map Except.ok := by
  have pointwise := List.forall₂_map_right_iff (R := Eq) (f := (Except.ok : α → Except ε α))
    (l := l) (u := items)
  rw [List.forall₂_eq_eq_eq] at pointwise
  rw [map_m_ok_iff, pointwise]
  rfl

theorem readings_error_iff {ε α : Type} {l : List (Except ε α)} {e : ε} :
    l.mapM id = .error e ↔ ∃ (good : List α) (rest : List (Except ε α)),
      l = good.map Except.ok ++ .error e :: rest := by
  rw [map_m_error_iff]
  constructor
  · rintro ⟨before, _, rest, rfl, passed, rfl⟩
    -- What was passed is a list of readings that came off, so it is the image of its values.
    cases hb : before.mapM id with
    | ok good =>
      rw [readings_ok_iff.mp hb]
      exact ⟨good, rest, rfl⟩
    | error e' =>
      obtain ⟨x, bad, y, rfl, -, failed⟩ := map_m_error_iff.mp hb
      obtain ⟨b, hb⟩ := passed bad (by simp)
      rw [failed] at hb
      cases hb
  · rintro ⟨good, rest, rfl⟩
    refine ⟨good.map .ok, .error e, rest, rfl, ?_, rfl⟩
    rintro x hx
    obtain ⟨a, -, rfl⟩ := List.mem_map.mp hx
    exact ⟨a, rfl⟩

theorem certificates_ok_iff {file : Bytes} {cs : List Bytes} :
    certificates file = .ok cs ↔
      ∃ items : List Section, sections file = items.map .ok ∧
        cs = items.filterMap Section.certificate? := by
  unfold certificates
  simp only [except_bind_ok_iff, readings_ok_iff, Except.ok.injEq, eq_comm (a := cs)]

/-- One fault spoils a file, however many certificates stand before it. -/
theorem certificates_error_iff {file : Bytes} {e : PemError} :
    certificates file = .error e ↔ ∃ (good : List Section) (rest : List (Except PemError Section)),
      sections file = good.map .ok ++ .error e :: rest := by
  unfold certificates
  rw [except_bind_error_iff, readings_error_iff]
  simp

/-- `before` is what is passed over on the way to the first key: neither faults nor keys. -/
def FirstKey (l : List (Except PemError Section)) (before : List Section) (k : EncodedKey)
    (after : List (Except PemError Section)) : Prop :=
  l = before.map .ok ++ .ok (.key k) :: after ∧ ∀ s ∈ before, ∀ k', s ≠ .key k'

theorem first_key_of_cons {s : Section} (hs : ∀ k, s ≠ .key k)
    (l : List (Except PemError Section)) : firstKeyOf (.ok s :: l) = firstKeyOf l := by
  cases s with
  | key k => exact absurd rfl (hs k)
  | certificate der => rfl
  | other der => rfl

theorem first_key_of_passed {before : List Section} (passed : ∀ s ∈ before, ∀ k, s ≠ .key k)
    (l : List (Except PemError Section)) :
    firstKeyOf (before.map .ok ++ l) = firstKeyOf l := by
  induction before with
  | nil => rfl
  | cons s before ih =>
    obtain ⟨other, passed⟩ := List.forall_mem_cons.mp passed
    rw [List.map_cons, List.cons_append, first_key_of_cons other, ih passed]

theorem exists_passed (l : List (Except PemError Section)) :
    ∃ (before : List Section) (rest : List (Except PemError Section)),
      (∀ s ∈ before, ∀ k, s ≠ .key k) ∧ l = before.map .ok ++ rest ∧
        ∀ s after, rest = .ok s :: after → ∃ k, s = .key k := by
  induction l with
  | nil => exact ⟨[], [], by simp, rfl, by simp⟩
  | cons x l ih =>
    cases x with
    | error e => exact ⟨[], .error e :: l, by simp, rfl, by simp⟩
    | ok s =>
      by_cases key : ∃ k, s = .key k
      · refine ⟨[], _, by simp, rfl, ?_⟩
        rintro _ _ ⟨⟩
        exact key
      · obtain ⟨before, rest, passed, rfl, stop⟩ := ih
        exact ⟨s :: before, rest, List.forall_mem_cons.mpr ⟨not_exists.mp key, passed⟩, rfl, stop⟩

theorem first_key_of_iff {l : List (Except PemError Section)} {k : EncodedKey} :
    firstKeyOf l = .ok (some k) ↔ ∃ before after, FirstKey l before k after := by
  constructor
  · intro h
    obtain ⟨before, rest, passed, rfl, stop⟩ := exists_passed l
    rw [first_key_of_passed passed] at h
    rcases rest with _ | ⟨e | s, after⟩
    · cases h
    · cases h
    · obtain ⟨k', rfl⟩ := stop s after rfl
      cases h
      exact ⟨before, after, rfl, passed⟩
  · rintro ⟨before, after, rfl, passed⟩
    rw [first_key_of_passed passed]
    rfl

end Pem

namespace FileSystem

theorem read_key_ok_iff {fs : FileSystem} {path : Path} {k : EncodedKey} :
    fs.readKey path = .ok k ↔
      ∃ text, fs.read path = .ok text ∧ Pem.firstKey text = .ok (some k) := by
  unfold readKey
  cases fs.read path with
  | error e => simp
  | ok text =>
    rcases hk : Pem.firstKey text with e | _ | k' <;> simp [hk]

/-- What becomes of reading the certificates of a file: the first of these three failures that there
is, or all of its certificates. -/
inductive CertificatesRead (fs : FileSystem) (what : String) (path : Path) :
    Except IoError (List Bytes) → Prop where
  | unreadable {e} (failed : fs.read path = .error e) : CertificatesRead fs what path (.error e)
  | malformed {text e rest} {good : List Pem.Section} (read : fs.read path = .ok text)
      (fault : Pem.sections text = good.map .ok ++ .error e :: rest) :
      CertificatesRead fs what path (.error e.ioError)
  | missing {text} {items : List Pem.Section} (read : fs.read path = .ok text)
      (whole : Pem.sections text = items.map .ok)
      (without : items.filterMap Pem.Section.certificate? = []) :
      CertificatesRead fs what path (.error (notFoundIn what path))
  | found {text} {items : List Pem.Section} (read : fs.read path = .ok text)
      (whole : Pem.sections text = items.map .ok)
      (present : items.filterMap Pem.Section.certificate? ≠ []) :
      CertificatesRead fs what path (.ok (items.filterMap Pem.Section.certificate?))

theorem certificates_read (fs : FileSystem) (what : String) (path : Path) :
    fs.CertificatesRead what path (fs.readCertificates what path) := by
  unfold readCertificates
  cases read : fs.read path with
  | error e => exact .unreadable read
  | ok text =>
    cases certificates : Pem.certificates text with
    | error e =>
      obtain ⟨good, rest, fault⟩ := Pem.certificates_error_iff.mp certificates
      simp only [certificates]
      exact .malformed read fault
    | ok cs =>
      obtain ⟨items, whole, held⟩ := Pem.certificates_ok_iff.mp certificates
      cases cs with
      | nil =>
        simp only [certificates]
        exact .missing read whole held.symm
      | cons c cs =>
        have present : items.filterMap Pem.Section.certificate? ≠ [] := by
          rw [← held]
          exact List.cons_ne_nil c cs
        simp only [certificates]
        rw [held]
        exact .found read whole present

theorem read_certificates_iff {fs : FileSystem} {what : String} {path : Path}
    {r : Except IoError (List Bytes)} :
    fs.readCertificates what path = r ↔ fs.CertificatesRead what path r := by
  constructor
  · rintro rfl
    exact certificates_read fs what path
  · intro h
    unfold readCertificates
    cases h with
    | unreadable failed => rw [failed]
    | malformed read fault =>
      have spoiled := Pem.certificates_error_iff.mpr ⟨_, _, fault⟩
      simp only [read, spoiled]
    | missing read whole without =>
      have certificates := Pem.certificates_ok_iff.mpr ⟨_, whole, rfl⟩
      simp only [read, certificates, without]
    | found read whole present =>
      have certificates := Pem.certificates_ok_iff.mpr ⟨_, whole, rfl⟩
      obtain ⟨c, cs, first⟩ := List.exists_cons_of_ne_nil present
      simp only [read, certificates, first]

end FileSystem

/-- What the two files of a key store hold when they make this identity. -/
structure KeyStore.Holds (fs : FileSystem) (provider : Provider) (s : KeyStore) (i : Identity) :
    Prop where
  chain : ∃ (text : Bytes) (items : List Pem.Section), fs.read s.certificates = .ok text ∧
    Pem.sections text = items.map .ok ∧ i.chain = items.filterMap Pem.Section.certificate?
  key : ∃ text before k after, fs.read s.key = .ok text ∧
    Pem.FirstKey (Pem.sections text) before k after ∧ provider.load k = .ok i.key
  fits : KeyFits i.chain i.key

theorem KeyStore.load_ok_iff {fs : FileSystem} {provider : Provider} {s : KeyStore}
    {i : Identity} : s.load fs provider = .ok i ↔ s.Holds fs provider i := by
  have split : s.load fs provider = .ok i ↔ ∃ k cs, fs.readKey s.key = .ok k ∧
      fs.readCertificates "certificate" s.certificates = .ok cs ∧
      Identity.ofDer provider cs k = .ok i := by
    unfold load
    cases fs.readKey s.key with
    | error e => simp
    | ok k =>
      cases fs.readCertificates "certificate" s.certificates with
      | error e => simp
      | ok cs => simp
  rw [split]
  constructor
  · rintro ⟨k, cs, hk, hc, hi⟩
    obtain ⟨text, ht, hf⟩ := FileSystem.read_key_ok_iff.mp hk
    obtain ⟨before, after, hb⟩ := Pem.first_key_of_iff.mp hf
    obtain ⟨hchain, hl, fits⟩ := Identity.of_der_ok_iff.mp hi
    cases FileSystem.read_certificates_iff.mp hc with
    | found read whole =>
      exact ⟨⟨_, _, read, whole, hchain⟩, ⟨text, before, k, after, ht, hb, hl⟩, fits⟩
  · rintro ⟨⟨_, items, read, whole, hchain⟩, ⟨text, before, k, after, ht, hb, hl⟩, fits⟩
    have present := fits.chain_ne_nil
    refine ⟨k, i.chain, ?_, ?_, Identity.of_der_ok_iff.mpr ⟨rfl, hl, fits⟩⟩
    · exact FileSystem.read_key_ok_iff.mpr ⟨text, ht, Pem.first_key_of_iff.mpr ⟨_, _, hb⟩⟩
    · rw [hchain] at present ⊢
      exact FileSystem.read_certificates_iff.mpr (.found read whole present)

end TlsEndpoint
