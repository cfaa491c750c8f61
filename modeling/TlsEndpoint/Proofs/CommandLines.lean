import TlsEndpoint.Proofs.ArgumentScans
import TlsEndpoint.Proofs.EncodedText

/-! # Command lines that are read

The lines that are read form a small grammar. Every configuration backed by files is written as such
a line and read back, and what a line gives is never lost. -/
namespace TlsEndpoint

/-- Command lines with what is given on them, in order. A value is joined to its flag or is the
next word, which must not look like a flag; the end of flags may be marked. -/
inductive CommandLine : List Bytes → List (Flag × Bytes) → Prop where
  | nil : CommandLine [] []
  | ended : CommandLine [[Word.dash, Word.dash]] []
  | joined {words given} (f : Flag) (value : Bytes) (rest : CommandLine words given) :
      CommandLine (f.joined value :: words) ((f, value) :: given)
  | apart {words given} (f : Flag) {value : Bytes} (plain : Word.ofBytes value = .plain)
      (rest : CommandLine words given) :
      CommandLine (f.word :: value :: words) ((f, value) :: given)

namespace ArgumentScan

variable {a b : Arguments} {words : List Bytes} {given : List (Flag × Bytes)}

theorem outcome_of_line (line : CommandLine words given) (h : a.setAll given = .ok b) :
    (idle a).outcome words = .ok b := by
  induction line generalizing a with
  | nil =>
    cases h
    rfl
  | ended =>
    cases h
    exact (outcome_end rfl).mpr ⟨rfl, rfl⟩
  | joined f value rest ih =>
    obtain ⟨c, hc, h⟩ := Arguments.set_all_cons_ok_iff.mp h
    exact idle_joined.mpr ⟨c, hc, ih h⟩
  | apart f plain rest ih =>
    obtain ⟨c, hc, h⟩ := Arguments.set_all_cons_ok_iff.mp h
    exact idle_word_iff.mpr ⟨_, _, c, rfl, plain, hc, ih h⟩

/-- The induction is on the number of words, since a value apart takes two of them. -/
theorem line_of_outcome (h : (idle a).outcome words = .ok b) :
    ∃ given, CommandLine words given ∧ a.setAll given = .ok b := by
  induction hn : words.length using Nat.strongRecOn generalizing words a with
  | _ n ih =>
    subst hn
    cases words with
    | nil => exact ⟨[], .nil, h⟩
    | cons w words =>
      have steps := h
      rw [outcome_cons] at steps
      obtain ⟨t, ht, -⟩ := except_bind_ok_iff.mp steps
      rcases step_cases rfl ht with rfl | ⟨f, rfl⟩ | ⟨f, value, rfl⟩ | plain
      · obtain ⟨rfl, hb⟩ := (outcome_end rfl).mp h
        exact ⟨[], .ended, hb⟩
      · obtain ⟨value, rest, c, rfl, plain, hc, h⟩ := idle_word_iff.mp h
        obtain ⟨given, line, hg⟩ := ih _ (Nat.lt_succ_of_lt (Nat.lt_succ_self _)) h rfl
        exact ⟨_, .apart f plain line, Arguments.set_all_cons_ok_iff.mpr ⟨c, hc, hg⟩⟩
      · obtain ⟨c, hc, h⟩ := idle_joined.mp h
        obtain ⟨given, line, hg⟩ := ih _ (Nat.lt_succ_self _) h rfl
        exact ⟨_, .joined f value line, Arguments.set_all_cons_ok_iff.mpr ⟨c, hc, hg⟩⟩
      · exact absurd h (idle_plain plain)

end ArgumentScan

namespace Arguments

variable {a b : Arguments} {words : List Bytes} {given : List (Flag × Bytes)}

theorem paired_ok_iff : a.paired = .ok b ↔ (a.has .key = a.has .certificates) ∧ a = b := by
  unfold paired has
  cases a.key <;> cases a.certificates <;> simp

/-- Exactly the lines of the grammar are read, if each flag is given once, with a value it takes,
and a key with a certificate. -/
theorem parse_ok_iff :
    parse words = .ok a ↔ ∃ given, CommandLine words given ∧ empty.setAll given = .ok a ∧
      a.has .key = a.has .certificates := by
  rw [ArgumentScan.parse_eq, except_bind_ok_iff]
  constructor
  · rintro ⟨b, hb, h⟩
    obtain ⟨both, rfl⟩ := paired_ok_iff.mp h
    obtain ⟨given, line, hg⟩ := ArgumentScan.line_of_outcome hb
    exact ⟨given, line, hg, both⟩
  · rintro ⟨given, line, hg, both⟩
    exact ⟨a, ArgumentScan.outcome_of_line line hg, paired_ok_iff.mpr ⟨both, rfl⟩⟩

end Arguments

def Gives (words : List Bytes) (f : Flag) (value : Bytes) : Prop :=
  f.joined value ∈ words ∨ [f.word, value] <:+: words

namespace CommandLine

variable {words : List Bytes} {given : List (Flag × Bytes)} {f : Flag} {value : Bytes}

theorem count_begins (line : CommandLine words given) (f : Flag) :
    words.countP (f.Begins ·) = (given.map Prod.fst).count f := by
  induction line with
  | nil => rfl
  | ended => cases f <;> decide
  | joined g value rest ih =>
    rw [List.countP_cons, List.map_cons, List.count_cons, ih]
    by_cases same : f = g
    · simp [Flag.begins_joined_iff, same]
    · simp [Flag.begins_joined_iff, same, Ne.symm same]
  | apart g plain rest ih =>
    rw [List.countP_cons, List.countP_cons, List.map_cons, List.count_cons, ih]
    by_cases same : f = g
    · simp [Flag.begins_word_iff, Flag.not_begins_plain plain, same]
    · simp [Flag.begins_word_iff, Flag.not_begins_plain plain, same, Ne.symm same]

theorem gives_of_given (line : CommandLine words given) (h : (f, value) ∈ given) :
    Gives words f value := by
  induction line with
  | nil => cases h
  | ended => cases h
  | joined g other rest ih =>
    rcases List.mem_cons.mp h with same | h
    · cases same
      exact Or.inl List.mem_cons_self
    · exact (ih h).imp (List.mem_cons_of_mem _) List.infix_cons
  | apart g plain rest ih =>
    rcases List.mem_cons.mp h with same | h
    · cases same
      exact Or.inr (List.prefix_append [_, _] _).isInfix
    · exact (ih h).imp (fun hm => List.mem_cons_of_mem _ (List.mem_cons_of_mem _ hm))
        fun hi => List.infix_cons (List.infix_cons hi)

theorem given_of_joined (line : CommandLine words given) (h : f.joined value ∈ words) :
    (f, value) ∈ given := by
  induction line with
  | nil => cases h
  | ended =>
    have look := congrArg Word.ofBytes (List.mem_singleton.mp h)
    rw [Word.of_bytes_joined] at look
    cases look
  | joined g other rest ih =>
    rcases List.mem_cons.mp h with same | h
    · obtain ⟨rfl, rfl⟩ := Flag.joined_injective same
      exact List.mem_cons_self
    · exact List.mem_cons_of_mem _ (ih h)
  | apart g plain rest ih =>
    rcases List.mem_cons.mp h with same | h
    · exact absurd same.symm (Flag.word_ne_joined g f value)
    · rcases List.mem_cons.mp h with rfl | h
      · exact absurd (Flag.begins_joined_iff.mpr rfl) (Flag.not_begins_plain plain)
      · exact List.mem_cons_of_mem _ (ih h)

theorem given_of_apart (line : CommandLine words given) (h : [f.word, value] <:+: words) :
    (f, value) ∈ given := by
  induction line with
  | nil => simp at h
  | ended =>
    have longer := h.length_le
    simp at longer
  | joined g other rest ih =>
    rcases List.infix_cons_iff.mp h with first | h
    · exact absurd (List.cons_prefix_cons.mp first).1 (Flag.word_ne_joined f g other)
    · exact List.mem_cons_of_mem _ (ih h)
  | apart g plain rest ih =>
    rcases List.infix_cons_iff.mp h with first | h
    · obtain ⟨same, first⟩ := List.cons_prefix_cons.mp first
      obtain ⟨rfl, -⟩ := List.cons_prefix_cons.mp first
      obtain rfl := Flag.begins_word_iff.mp (Or.inl same.symm)
      exact List.mem_cons_self
    · rcases List.infix_cons_iff.mp h with first | h
      · obtain ⟨rfl, -⟩ := List.cons_prefix_cons.mp first
        exact absurd (Or.inl rfl) (Flag.not_begins_plain plain (f := f))
      · exact List.mem_cons_of_mem _ (ih h)

theorem gives_iff (line : CommandLine words given) : Gives words f value ↔ (f, value) ∈ given :=
  ⟨fun h => h.elim line.given_of_joined line.given_of_apart, line.gives_of_given⟩

theorem of_joined (given : List (Flag × Bytes)) :
    CommandLine (given.map fun g => g.1.joined g.2) given := by
  induction given with
  | nil => exact .nil
  | cons g given ih => exact .joined g.1 g.2 ih

end CommandLine

namespace ArgumentScan

theorem outcome_joined_iff {s : ArgumentScan} {b : Arguments} {f : Flag} {value : Bytes}
    {words : List Bytes} (h : value.head? ≠ some Word.dash) :
    s.outcome (f.joined value :: words) = .ok b ↔
      s.outcome (f.word :: value :: words) = .ok b := by
  have between : ∀ a : Arguments, (idle a).outcome (f.joined value :: words) = .ok b ↔
      (idle a).outcome (f.word :: value :: words) = .ok b := by
    intro a
    rw [idle_joined, idle_word_iff]
    constructor
    · rintro ⟨c, hc, hb⟩
      exact ⟨value, words, c, rfl, Word.of_bytes_plain_of_head h, hc, hb⟩
    · rintro ⟨_, _, c, same, -, hc, hb⟩
      cases same
      exact ⟨c, hc, hb⟩
  obtain ⟨a, pending, ended⟩ := s
  cases ended with
  | true =>
    rw [outcome_cons, outcome_cons, step, step, if_pos rfl, if_pos rfl]
    refine iff_of_false ?_ ?_
    · intro h
      cases h
    · intro h
      cases h
  | false =>
    rcases pending with _ | ⟨g, _ | other⟩
    · exact between a
    · show (waiting a g).outcome _ = _ ↔ (waiting a g).outcome _ = _
      rw [waiting_iff, waiting_iff]
      refine iff_of_false ?_ ?_
      · rintro ⟨_, _, same, plain, -⟩
        cases same
        exact Flag.not_begins_plain plain (Flag.begins_joined_iff.mpr rfl)
      · rintro ⟨_, _, same, plain, -⟩
        cases same
        exact Flag.not_begins_plain plain (Flag.begins_word_iff.mpr rfl)
    · show (holding a g other).outcome _ = _ ↔ (holding a g other).outcome _ = _
      rw [holding_iff, holding_iff]
      exact exists_congr fun c => and_congr_right fun _ => between c

end ArgumentScan

namespace Arguments

variable {a b : Arguments} {words : List Bytes} {given line : List (Flag × Bytes)} {f : Flag}
  {value : Bytes} {p : Path}

theorem parse_joined_iff {before after : List Bytes} (h : value.head? ≠ some Word.dash) :
    parse (before ++ f.joined value :: after) = .ok a ↔
      parse (before ++ f.word :: value :: after) = .ok a := by
  simp only [ArgumentScan.parse_eq, except_bind_ok_iff, ArgumentScan.outcome_append,
    ArgumentScan.outcome_joined_iff h]

def path? (a : Arguments) : Flag → Option Path
  | .protocol => none
  | .key => a.key
  | .certificates => a.certificates
  | .anchors => a.anchors

theorem path_put_self (named : f ≠ .protocol) : (a.put f value).path? f = some ⟨value⟩ := by
  cases f with
  | protocol => exact absurd rfl named
  | _ => rfl

theorem has_of_path (h : a.path? f = some p) : a.has f = true := by
  cases f with
  | protocol => cases h
  | key => exact Option.isSome_of_eq_some h
  | certificates => exact Option.isSome_of_eq_some h
  | anchors => exact Option.isSome_of_eq_some h

theorem has_put_all (takes : ∀ g ∈ given, Takes g.1 g.2) :
    (a.putAll given).has f = true ↔ a.has f = true ∨ f ∈ given.map Prod.fst := by
  induction given generalizing a with
  | nil => simp [putAll]
  | cons g given ih =>
    show ((a.put g.1 g.2).putAll given).has f = true ↔ _
    rw [ih fun g hg => takes g (List.mem_cons_of_mem _ hg), List.map_cons, List.mem_cons]
    by_cases same : f = g.1
    · subst same
      simp [has_put_self (takes g List.mem_cons_self)]
    · simp [has_put_other (Ne.symm same), same]

/-- A value that was given is still there when the others have been given, too. -/
theorem put_all_given (nodup : (given.map Prod.fst).Nodup) (h : (f, value) ∈ given)
    (named : f ≠ .protocol) : (a.putAll given).path? f = some ⟨value⟩ := by
  obtain ⟨before, after, rfl⟩ := List.append_of_mem h
  have last : (before ++ after ++ [(f, value)]).Perm (before ++ (f, value) :: after) := by
    rw [List.append_assoc]
    exact List.perm_append_comm.append_left before
  rw [← put_all_perm nodup last, putAll, List.foldl_append]
  exact path_put_self named

theorem path_iff_gives (line : CommandLine words given) (h : empty.setAll given = .ok a)
    (named : f ≠ .protocol) : a.path? f = some p ↔ Gives words f p.octets := by
  obtain ⟨nodup, all, rfl⟩ := set_all_ok_iff.mp h
  rw [line.gives_iff]
  constructor
  · intro hp
    have found := (has_put_all fun g hg => (all g hg).2).mp (has_of_path hp)
    rcases found with found | found
    · cases f <;> cases found
    · obtain ⟨⟨g, value⟩, hg, rfl⟩ := List.mem_map.mp found
      have same := hp.symm.trans (put_all_given nodup hg named)
      rwa [Option.some.inj same]
  · exact fun hg => put_all_given nodup hg named

theorem has_iff_begins (line : CommandLine words given) (h : empty.setAll given = .ok a) :
    a.has f = true ↔ ∃ w ∈ words, f.Begins w := by
  obtain ⟨-, all, rfl⟩ := set_all_ok_iff.mp h
  have absent : empty.has f ≠ true := by cases f <;> exact nofun
  rw [has_put_all fun g hg => (all g hg).2, or_iff_right absent, ← List.count_pos_iff,
    ← line.count_begins f, List.countP_pos_iff]
  simp only [decide_eq_true_eq]

theorem identity_iff {k : KeyStore} : a.configuration.identity = some k ↔
    a.path? .key = some k.key ∧ a.path? .certificates = some k.certificates := by
  obtain ⟨_, key, certificates, _⟩ := a
  cases key with
  | none => exact iff_of_false nofun nofun
  | some key =>
    cases certificates with
    | none => exact iff_of_false nofun nofun
    | some certificates =>
      show some (KeyStore.mk key certificates) = some k ↔ some key = _ ∧ some certificates = _
      cases k
      simp

theorem identity_is_some_iff : a.configuration.identity.isSome ↔
    a.has .key = true ∧ a.has .certificates = true := by
  obtain ⟨_, key, certificates, _⟩ := a
  cases key <;> cases certificates <;> simp [configuration, has, Configuration.ofParts]

/-- What is written for these parts, each flag with its value. -/
def written (protocol : Option String) (identity : Option KeyStore) (trust : Option TrustStore) :
    List (Flag × Bytes) :=
  (protocol.toList.map fun s => (.protocol, Bytes.ofText s))
    ++ (identity.toList.flatMap fun k =>
      [(.key, k.key.octets), (.certificates, k.certificates.octets)])
    ++ trust.toList.map fun t => (.anchors, t.anchors.octets)

variable {protocol : Option String} {identity : Option KeyStore} {trust : Option TrustStore}

theorem written_nodup : ((written protocol identity trust).map Prod.fst).Nodup := by
  cases protocol <;> cases identity <;> cases trust <;> simp [written]

theorem takes_written (pair : ∀ k ∈ identity, k.key.octets ≠ [] ∧ k.certificates.octets ≠ [])
    (anchors : ∀ t ∈ trust, t.anchors.octets ≠ []) :
    ∀ g ∈ written protocol identity trust, Takes g.1 g.2 := by
  intro g hg
  rcases List.mem_append.mp hg with hg | hg
  · rcases List.mem_append.mp hg with hg | hg
    · obtain ⟨s, -, rfl⟩ := List.mem_map.mp hg
      exact ⟨s, Text.of_utf8_of_text s⟩
    · obtain ⟨k, hk, hg⟩ := List.mem_flatMap.mp hg
      obtain ⟨key, certificates⟩ := pair k (Option.mem_toList.mp hk)
      rcases List.mem_pair.mp hg with rfl | rfl
      · exact key
      · exact certificates
  · obtain ⟨t, ht, rfl⟩ := List.mem_map.mp hg
    exact anchors t (Option.mem_toList.mp ht)

theorem put_all_written : (empty.putAll (written protocol identity trust)) =
    ⟨protocol, identity.map (·.key), identity.map (·.certificates), trust.map (·.anchors)⟩ := by
  cases protocol with
  | none => cases identity <;> cases trust <;> rfl
  | some s =>
    have read := Text.of_utf8_of_text s
    cases identity <;> cases trust <;> simp [written, putAll, put, empty, read]

theorem parse_written (pair : ∀ k ∈ identity, k.key.octets ≠ [] ∧ k.certificates.octets ≠ [])
    (anchors : ∀ t ∈ trust, t.anchors.octets ≠ [])
    (order : line.Perm (written protocol identity trust)) :
    (parse (line.map fun g => g.1.joined g.2)).map configuration =
      .ok ⟨⟨protocol.getD "TLS"⟩, identity, trust⟩ := by
  have settled : empty.setAll line = .ok (empty.putAll (written protocol identity trust)) := by
    rw [set_all_perm order, set_all_ok_iff]
    refine ⟨written_nodup, fun g hg => ⟨?_, takes_written pair anchors g hg⟩, rfl⟩
    cases g.1 <;> rfl
  have both : (empty.putAll (written protocol identity trust)).has .key =
      (empty.putAll (written protocol identity trust)).has .certificates := by
    rw [put_all_written]
    cases identity <;> rfl
  rw [parse_ok_iff.mpr ⟨line, CommandLine.of_joined line, settled, both⟩, put_all_written]
  cases protocol <;> cases identity <;> cases trust <;> rfl

end Arguments

theorem command_lines_round_trip :
    (∀ (protocol : Option String) (identity : Option KeyStore) (trust : Option TrustStore),
      (∀ k ∈ identity, k.key.octets ≠ [] ∧ k.certificates.octets ≠ []) →
      (∀ t ∈ trust, t.anchors.octets ≠ []) →
      ∀ line : List (Flag × Bytes), line.Perm (Arguments.written protocol identity trust) →
        (Arguments.parse (line.map fun g => g.1.joined g.2)).map Arguments.configuration =
          .ok ⟨⟨protocol.getD "TLS"⟩, identity, trust⟩) ∧
    (∀ (before after : List Bytes) (f : Flag) (value : Bytes) (a : Arguments),
      value.head? ≠ some Word.dash →
        (Arguments.parse (before ++ f.joined value :: after) = .ok a ↔
          Arguments.parse (before ++ f.word :: value :: after) = .ok a)) ∧
    ∀ (words : List Bytes) (a : Arguments), Arguments.parse words = .ok a →
      (∀ f : Flag, words.countP (f.Begins ·) ≤ 1) ∧
      ((∃ w ∈ words, Flag.key.Begins w) ↔ ∃ w ∈ words, Flag.certificates.Begins w) ∧
      (a.configuration.identity.isSome ↔ ∃ w ∈ words, Flag.key.Begins w) ∧
      ∀ k : KeyStore, a.configuration.identity = some k ↔
        Gives words .key k.key.octets ∧ Gives words .certificates k.certificates.octets := by
  refine ⟨fun _ _ _ pair anchors _ order => Arguments.parse_written pair anchors order,
    fun _ _ _ _ _ apart => Arguments.parse_joined_iff apart, ?_⟩
  intro words a h
  obtain ⟨given, line, settled, both⟩ := Arguments.parse_ok_iff.mp h
  have identity : ∀ k : KeyStore, a.configuration.identity = some k ↔
      Gives words .key k.key.octets ∧ Gives words .certificates k.certificates.octets := by
    intro k
    exact Arguments.identity_iff.trans (and_congr (Arguments.path_iff_gives line settled nofun)
      (Arguments.path_iff_gives line settled nofun))
  have key := Arguments.has_iff_begins line settled (f := .key)
  have certificates := Arguments.has_iff_begins line settled (f := .certificates)
  refine ⟨?_, ?_, ?_, identity⟩
  · intro f
    rw [line.count_begins f]
    exact List.nodup_iff_count_le_one.mp (Arguments.set_all_ok_iff.mp settled).1 f
  · rw [← key, ← certificates, both]
  · rw [← key, Arguments.identity_is_some_iff, ← both, and_self]

/-- An equals sign and a space in a value, an octet that is no text, the key's value apart and after
the certificates. -/
theorem odd_values_round_trip :
    (Arguments.parse
        [Flag.certificates.joined (Bytes.ofText "a=b c"), Flag.key.word, [107, 255]]).map
      Arguments.configuration =
      .ok ⟨⟨"TLS"⟩, some ⟨⟨[107, 255]⟩, ⟨Bytes.ofText "a=b c"⟩⟩, none⟩ := by
  have joined := command_lines_round_trip.1 none (some ⟨⟨[107, 255]⟩, ⟨Bytes.ofText "a=b c"⟩⟩) none
    (fun k hk => by cases hk; decide) nofun
    [(.certificates, Bytes.ofText "a=b c"), (.key, [107, 255])] (List.Perm.swap ..)
  have apart := command_lines_round_trip.2.1 [Flag.certificates.joined (Bytes.ofText "a=b c")] []
    .key [107, 255]
  simp only [List.map_cons, List.map_nil] at joined
  cases read : Arguments.parse [Flag.certificates.joined (Bytes.ofText "a=b c"),
      Flag.key.joined [107, 255]] with
  | error e =>
    rw [read] at joined
    cases joined
  | ok a =>
    rw [read] at joined
    exact (congrArg _ ((apart a (by decide)).mp read)).trans joined

end TlsEndpoint
