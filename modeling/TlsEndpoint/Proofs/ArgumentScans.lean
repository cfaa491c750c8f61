import Mathlib.Data.List.Nodup
import Mathlib.Data.List.Perm.Basic
import TlsEndpoint.Proofs.FlagWords
import TlsEndpoint.Proofs.Related

/-! # Reading arguments

What giving values to flags one after the other comes to, and what the reader of words does in each
state it can be in: between two flags, waiting for a value, or holding one that is not settled. -/
namespace TlsEndpoint

namespace Arguments

/-- What a flag takes: a protocol is text, and a path is not empty. -/
def Takes (f : Flag) (value : Bytes) : Prop :=
  match f with
  | .protocol => ∃ s, Text.ofUtf8? value = some s
  | _ => value ≠ []

/-- The arguments with this value for the flag, whatever they had for it. -/
def put (a : Arguments) (f : Flag) (value : Bytes) : Arguments :=
  match f with
  | .protocol => { a with protocol := Text.ofUtf8? value }
  | .key => { a with key := some ⟨value⟩ }
  | .certificates => { a with certificates := some ⟨value⟩ }
  | .anchors => { a with anchors := some ⟨value⟩ }

variable {a b : Arguments} {f g : Flag} {value other : Bytes}

private theorem path_map_ok_iff {α : Type} {flag : Flag} {put : Path → α} {b : α} :
    (path flag value).map put = .ok b ↔ value ≠ [] ∧ b = put ⟨value⟩ := by
  unfold path
  split
  · next h => simp [h, Except.map]
  · next h => simp [h, Except.map, eq_comm]

theorem set_ok_iff :
    a.set f value = .ok b ↔ a.has f = false ∧ Takes f value ∧ b = a.put f value := by
  unfold set
  cases a.has f with
  | true => simp
  | false =>
    cases f with
    | protocol =>
      simp only [Takes, put]
      cases Text.ofUtf8? value with
      | none => simp
      | some s => simp [eq_comm]
    | key => simp [Takes, put, path_map_ok_iff]
    | certificates => simp [Takes, put, path_map_ok_iff]
    | anchors => simp [Takes, put, path_map_ok_iff]

theorem put_comm (h : f ≠ g) : (a.put f value).put g other = (a.put g other).put f value := by
  cases f <;> cases g <;> first | rfl | exact absurd rfl h

theorem has_put_other (h : f ≠ g) : (a.put f value).has g = a.has g := by
  cases f <;> cases g <;> first | rfl | exact absurd rfl h

theorem has_put_self (h : Takes f value) : (a.put f value).has f = true := by
  cases f with
  | protocol =>
    obtain ⟨s, hs⟩ := h
    simp [has, put, hs]
  | _ => rfl

def setAll (a : Arguments) (given : List (Flag × Bytes)) : Except ArgumentError Arguments :=
  given.foldlM (fun a g => a.set g.1 g.2) a

def putAll (a : Arguments) (given : List (Flag × Bytes)) : Arguments :=
  given.foldl (fun a g => a.put g.1 g.2) a

variable {given line : List (Flag × Bytes)}

theorem set_all_cons_ok_iff :
    a.setAll ((f, value) :: given) = .ok b ↔
      ∃ c, a.set f value = .ok c ∧ c.setAll given = .ok b := by
  rw [setAll, List.foldlM_cons, except_bind_ok_iff]
  rfl

theorem set_all_ok_iff :
    a.setAll given = .ok b ↔
      (given.map Prod.fst).Nodup ∧ (∀ g ∈ given, a.has g.1 = false ∧ Takes g.1 g.2) ∧
        b = a.putAll given := by
  induction given generalizing a with
  | nil =>
    show Except.ok a = .ok b ↔ _
    rw [Except.ok.injEq, eq_comm]
    simp [putAll]
  | cons head given ih =>
    obtain ⟨f, value⟩ := head
    rw [set_all_cons_ok_iff]
    constructor
    · rintro ⟨c, hc, hb⟩
      obtain ⟨absent, takes, rfl⟩ := set_ok_iff.mp hc
      obtain ⟨nodup, rest, rfl⟩ := ih.mp hb
      have fresh : ∀ g ∈ given, f ≠ g.1 := by
        rintro g hg rfl
        have := (rest g hg).1
        rw [has_put_self takes] at this
        cases this
      refine ⟨?_, ?_, rfl⟩
      · rw [List.map_cons, List.nodup_cons]
        refine ⟨fun hm => ?_, nodup⟩
        obtain ⟨g, hg, he⟩ := List.mem_map.mp hm
        exact fresh g hg he.symm
      · intro g hg
        rcases List.mem_cons.mp hg with rfl | hg
        · exact ⟨absent, takes⟩
        · obtain ⟨h, ht⟩ := rest g hg
          rw [has_put_other (fresh g hg)] at h
          exact ⟨h, ht⟩
    · rintro ⟨nodup, all, rfl⟩
      obtain ⟨absent, takes⟩ := all (f, value) List.mem_cons_self
      rw [List.map_cons, List.nodup_cons] at nodup
      refine ⟨a.put f value, set_ok_iff.mpr ⟨absent, takes, rfl⟩, ih.mpr ⟨nodup.2, ?_, rfl⟩⟩
      intro g hg
      have other : f ≠ g.1 := by
        intro he
        rw [he] at nodup
        exact nodup.1 (List.mem_map.mpr ⟨g, hg, rfl⟩)
      rw [has_put_other other]
      exact all g (List.mem_cons_of_mem _ hg)

theorem put_all_perm (nodup : (given.map Prod.fst).Nodup) (h : line.Perm given) :
    a.putAll line = a.putAll given := by
  refine (h.symm.foldl_eq' ?_ a).symm
  intro x hx y hy z
  by_cases he : x.1 = y.1
  · rw [List.inj_on_of_nodup_map nodup hx hy he]
  · exact put_comm he

theorem set_all_perm (h : line.Perm given) : a.setAll line = .ok b ↔ a.setAll given = .ok b := by
  rw [set_all_ok_iff, set_all_ok_iff, (h.map Prod.fst).nodup_iff]
  refine and_congr_right fun nodup => and_congr ?_ ?_
  · exact ⟨fun all g hg => all g (h.mem_iff.mpr hg), fun all g hg => all g (h.mem_iff.mp hg)⟩
  · rw [put_all_perm nodup h]

end Arguments

namespace ArgumentScan

def outcome (s : ArgumentScan) (words : List Bytes) : Except ArgumentError Arguments := do
  let s ← words.foldlM step s
  let s ← s.settle
  .ok s.settled

theorem outcome_nil (s : ArgumentScan) : s.outcome [] = s.settle.map settled := by
  show (s.settle >>= fun t => Except.ok t.settled) = _
  cases s.settle <;> rfl

theorem outcome_cons (s : ArgumentScan) (w : Bytes) (words : List Bytes) :
    s.outcome (w :: words) = s.step w >>= fun t => t.outcome words := by
  simp only [outcome, List.foldlM_cons, bind_assoc]

theorem outcome_append (s : ArgumentScan) (before after : List Bytes) :
    s.outcome (before ++ after) = before.foldlM step s >>= fun t => t.outcome after := by
  simp only [outcome, List.foldlM_append, bind_assoc]

theorem parse_eq (words : List Bytes) :
    Arguments.parse words = start.outcome words >>= Arguments.paired := by
  simp only [Arguments.parse, outcome, bind_assoc]
  rfl

variable {a b : Arguments} {s t : ArgumentScan} {words : List Bytes} {f : Flag} {value w : Bytes}

theorem step_word (reading : s.flagsEnded = false) :
    s.step f.word = s.settle.map fun t => { t with pending := some (f, none) } := by
  have named : Flag.ofName? (Bytes.ofText f.name) = some f := Flag.of_name_iff.mpr rfl
  simp only [step, reading, Word.of_bytes_flag, long, f.name_ne_help, named]
  cases s.settle <;> rfl

theorem step_joined (reading : s.flagsEnded = false) :
    s.step (f.joined value) = s.settle >>= fun t =>
      (t.settled.set f value).map fun a => { t with settled := a } := by
  have named : Flag.ofName? (Bytes.ofText f.name) = some f := Flag.of_name_iff.mpr rfl
  simp only [step, reading, Word.of_bytes_joined, long, f.name_ne_help, named]
  rfl

theorem step_plain (reading : s.flagsEnded = false) (h : Word.ofBytes w = .plain) :
    s.step w = s.plain w := by
  simp [step, reading, h]

theorem step_end (reading : s.flagsEnded = false) :
    s.step [Word.dash, Word.dash] = .ok { s with flagsEnded := true } := by
  simp [step, reading, Word.ofBytes]

theorem short_refused (letters : Bytes) : s.short letters ≠ .ok t := by
  intro h
  unfold short at h
  split at h
  · obtain ⟨_, _, h⟩ := except_bind_ok_iff.mp h
    cases h
  · cases h
  · cases h

theorem named_of_long {name : Bytes} {attached : Option Bytes} (h : s.long name attached = .ok t) :
    ∃ f : Flag, name = Bytes.ofText f.name := by
  unfold long at h
  split at h
  · split at h
    · cases h
    · obtain ⟨_, _, h⟩ := except_bind_ok_iff.mp h
      cases h
  · split at h
    · cases h
    · next f named => exact ⟨f, Flag.of_name_iff.mp named⟩

theorem outcome_end (reading : s.flagsEnded = false) :
    s.outcome ([Word.dash, Word.dash] :: words) = .ok b ↔ words = [] ∧ s.outcome [] = .ok b := by
  rw [outcome_cons, step_end reading]
  show ArgumentScan.outcome { s with flagsEnded := true } words = _ ↔ _
  cases words with
  | nil =>
    have settled : { s with flagsEnded := true }.settle.map settled = s.settle.map settled := by
      obtain ⟨a, _ | ⟨f, _ | value⟩, ended⟩ := s
      · rfl
      · rfl
      · simp only [settle]
        cases a.set f value <;> rfl
    simp only [outcome_nil, settled, true_and]
  | cons w ws =>
    rw [outcome_cons, step, if_pos rfl]
    refine iff_of_false nofun nofun

/-- What a word can be at which reading does not break off. -/
theorem step_cases (reading : s.flagsEnded = false) (h : s.step w = .ok t) :
    w = [Word.dash, Word.dash] ∨ (∃ f : Flag, w = f.word) ∨
      (∃ (f : Flag) (value : Bytes), w = f.joined value) ∨ Word.ofBytes w = .plain := by
  rw [step, if_neg (by simp [reading])] at h
  cases look : Word.ofBytes w with
  | endOfFlags => exact Or.inl (Word.of_bytes_end look)
  | plain => exact Or.inr (Or.inr (Or.inr rfl))
  | short letters =>
    rw [look] at h
    exact absurd h (short_refused letters)
  | long name attached =>
    rw [look] at h
    obtain ⟨f, rfl⟩ := named_of_long h
    have spelled := Word.of_bytes_long look
    cases attached with
    | none => exact Or.inr (Or.inl ⟨f, spelled.trans (by simp [Flag.word])⟩)
    | some value => exact Or.inr (Or.inr (Or.inl ⟨f, value, spelled⟩))

def idle (a : Arguments) : ArgumentScan := ⟨a, none, false⟩

def waiting (a : Arguments) (f : Flag) : ArgumentScan := ⟨a, some (f, none), false⟩

def holding (a : Arguments) (f : Flag) (value : Bytes) : ArgumentScan :=
  ⟨a, some (f, some value), false⟩

theorem idle_nil : (idle a).outcome [] = .ok a := rfl

theorem idle_joined :
    (idle a).outcome (f.joined value :: words) = .ok b ↔
      ∃ c, a.set f value = .ok c ∧ (idle c).outcome words = .ok b := by
  rw [outcome_cons, step_joined rfl]
  show (((a.set f value).map idle) >>= _) = _ ↔ _
  cases a.set f value <;> simp [Except.map, bind, Except.bind]

theorem idle_plain (plain : Word.ofBytes w = .plain) : (idle a).outcome (w :: words) ≠ .ok b := by
  rw [outcome_cons, step_plain rfl plain]
  exact nofun

theorem idle_word : (idle a).outcome (f.word :: words) = (waiting a f).outcome words := by
  rw [outcome_cons, step_word rfl]
  rfl

/-- A flag that waits takes the next word, which has to be plain. -/
theorem waiting_iff :
    (waiting a f).outcome words = .ok b ↔ ∃ value rest, words = value :: rest ∧
      Word.ofBytes value = .plain ∧ (holding a f value).outcome rest = .ok b := by
  constructor
  · intro h
    cases words with
    | nil => cases h
    | cons w rest =>
      have steps := h
      rw [outcome_cons] at steps
      obtain ⟨t, ht, rest_ok⟩ := except_bind_ok_iff.mp steps
      rcases step_cases rfl ht with rfl | ⟨g, rfl⟩ | ⟨g, v, rfl⟩ | plain
      · obtain ⟨rfl, h⟩ := (outcome_end rfl).mp h
        cases h
      · rw [step_word rfl] at ht
        cases ht
      · rw [step_joined rfl] at ht
        cases ht
      · rw [step_plain rfl plain] at ht
        cases ht
        exact ⟨w, rest, rfl, plain, rest_ok⟩
  · rintro ⟨value, rest, rfl, plain, h⟩
    rw [outcome_cons, step_plain rfl plain]
    exact h

private theorem holding_settle :
    (holding a f value).settle = (a.set f value).map idle := rfl

theorem holding_nil :
    (holding a f value).outcome [] = a.set f value := by
  rw [outcome_nil, holding_settle]
  cases a.set f value <;> rfl

theorem holding_step (more : w ≠ [Word.dash, Word.dash]) :
    (holding a f value).step w = .ok t ↔
      ∃ c, a.set f value = .ok c ∧ (idle c).step w = .ok t := by
  by_cases plain : Word.ofBytes w = .plain
  · rw [step_plain rfl plain]
    refine iff_of_false nofun ?_
    rintro ⟨c, -, h⟩
    rw [step_plain rfl plain] at h
    cases h
  constructor
  · intro h
    rcases step_cases rfl h with rfl | ⟨g, rfl⟩ | ⟨g, v, rfl⟩ | look
    · exact absurd rfl more
    · rw [step_word rfl, holding_settle] at h
      cases hc : a.set f value with
      | error e =>
        rw [hc] at h
        cases h
      | ok c =>
        rw [hc] at h
        exact ⟨c, rfl, by rw [step_word rfl]; exact h⟩
    · rw [step_joined rfl, holding_settle] at h
      cases hc : a.set f value with
      | error e =>
        rw [hc] at h
        cases h
      | ok c =>
        rw [hc] at h
        exact ⟨c, rfl, by rw [step_joined rfl]; exact h⟩
    · exact absurd look plain
  · rintro ⟨c, hc, h⟩
    rcases step_cases rfl h with rfl | ⟨g, rfl⟩ | ⟨g, v, rfl⟩ | look
    · exact absurd rfl more
    · rw [step_word rfl, holding_settle, hc]
      rwa [step_word rfl] at h
    · rw [step_joined rfl, holding_settle, hc]
      rwa [step_joined rfl] at h
    · exact absurd look plain

theorem holding_iff :
    (holding a f value).outcome words = .ok b ↔
      ∃ c, a.set f value = .ok c ∧ (idle c).outcome words = .ok b := by
  cases words with
  | nil => simp [holding_nil, idle_nil]
  | cons w rest =>
    by_cases more : w = [Word.dash, Word.dash]
    · subst more
      rw [outcome_end rfl, holding_nil]
      simp only [outcome_end (s := idle _) rfl, idle_nil, Except.ok.injEq]
      constructor
      · rintro ⟨hr, hb⟩
        exact ⟨b, hb, hr, rfl⟩
      · rintro ⟨c, hc, hr, rfl⟩
        exact ⟨hr, hc⟩
    · simp only [outcome_cons, except_bind_ok_iff, holding_step more]
      constructor
      · rintro ⟨t, ⟨c, hc, ht⟩, h⟩
        exact ⟨c, hc, t, ht, h⟩
      · rintro ⟨c, hc, t, ht, h⟩
        exact ⟨t, ⟨c, hc, ht⟩, h⟩

theorem idle_word_iff :
    (idle a).outcome (f.word :: words) = .ok b ↔ ∃ value rest c, words = value :: rest ∧
      Word.ofBytes value = .plain ∧ a.set f value = .ok c ∧ (idle c).outcome rest = .ok b := by
  rw [idle_word, waiting_iff]
  constructor
  · rintro ⟨value, rest, hw, plain, h⟩
    obtain ⟨c, hc, h⟩ := holding_iff.mp h
    exact ⟨value, rest, c, hw, plain, hc, h⟩
  · rintro ⟨value, rest, c, hw, plain, hc, h⟩
    exact ⟨value, rest, hw, plain, holding_iff.mpr ⟨c, hc, h⟩⟩

end ArgumentScan

end TlsEndpoint
