import Mathlib.Data.List.Induction
import Mathlib.Order.Basic
import TlsEndpoint.Proofs.Related
import TlsEndpoint.Workspace

/-! # Settings are snapshots

What a name shows was resolved once, when the value that the name is bound to was created. Cloning
hands the value on as it is, and neither the files nor the other names reach it afterwards. Whether
two names hand out the very same engine can therefore be told from the history of the bindings. -/
namespace TlsEndpoint

namespace Settings

variable {ι τ : Type}

theorem same_object_iff (a b : Settings ι τ) {α : Type} (part : Engine → α) :
    a.sameObject b (fun c => c.engine.map part) = true ↔
      (a.context.isUsable = false ∧ b.context.isUsable = false) ∨
        (a.context.isUsable = true ∧ b.context.isUsable = true ∧ a.stamp = b.stamp) := by
  obtain ⟨-, ⟨engine, -⟩, stamp⟩ := a
  obtain ⟨-, ⟨engine', -⟩, stamp'⟩ := b
  cases engine <;> cases engine' <;> simp [sameObject, Context.isUsable]

theorem same_client_iff_same_server (a b : Settings ι τ) :
    a.sameClient b = true ↔ a.sameServer b = true :=
  (same_object_iff a b Engine.client).trans (same_object_iff a b Engine.server).symm

theorem same_server_self (a : Settings ι τ) : a.sameServer a = true := by
  apply (same_object_iff a a Engine.server).mpr
  cases h : a.context.isUsable with
  | false => exact Or.inl ⟨rfl, rfl⟩
  | true => exact Or.inr ⟨rfl, rfl, rfl⟩

theorem compared_by_configurations [BEq ι] [BEq τ] [EquivBEq ι] [EquivBEq τ]
    {s t s' t' : Settings ι τ} (hs : s'.configuration = s.configuration)
    (ht : t'.configuration = t.configuration) :
    (s' == t') = (s == t) ∧ (s' != t') = !(s == t) ∧ (t' == s') = (s == t) ∧
      s'.sameMaterial t' = (s == t) := by
  have same : (s' == t') = (s == t) := by
    show s'.configuration.equal t'.configuration = s.configuration.equal t.configuration
    rw [hs, ht]
  have swapped : (t' == s') = (s' == t') := t'.configuration.equal_comm s'.configuration
  exact ⟨same, congrArg not same, swapped.trans same, same⟩

end Settings

namespace Workspace

theorem comparison_self (s : NamedSettings) :
    comparison s s = ⟨true, true, true, true, true, true⟩ := by
  have equal : s.equal s = true := s.configuration.equal_self
  have material : s.sameMaterial s = true := equal
  have server : s.sameServer s = true := s.same_server_self
  have client : s.sameClient s = true := (s.same_client_iff_same_server s).mpr server
  have outcome : s.sameOutcome s = true := beq_self_eq_true _
  unfold comparison
  rw [equal, material, server, client, outcome]

/-! ## Bindings -/

theorem lookup_filter_other {name other : String} (h : other ≠ name)
    (bound : List (String × NamedSettings)) :
    (bound.filter fun e => e.1 != name).lookup other = bound.lookup other := by
  induction bound with
  | nil => rfl
  | cons e rest ih =>
    obtain ⟨n, s⟩ := e
    by_cases hn : n = name
    · subst hn
      have hne : (other == n) = false := beq_false_of_ne h
      rw [List.filter_cons_of_neg (by simp), ih, List.lookup_cons, hne]
    · rw [List.filter_cons_of_pos (by simpa using hn), List.lookup_cons, List.lookup_cons, ih]

theorem find_bind (w : Workspace) (name other : String) (s : NamedSettings) :
    (w.bind name s).find? other = if name = other then some s else w.find? other := by
  unfold find? bind
  rw [List.lookup_cons]
  by_cases h : name = other
  · rw [if_pos h, h, beq_self_eq_true]
  · rw [if_neg h, beq_false_of_ne (Ne.symm h)]
    exact lookup_filter_other (Ne.symm h) w.bound

def snapshot (w : Workspace) (choice : PlatformChoice)
    (config : Configuration IdentitySource TrustSource) : NamedSettings :=
  ⟨config, (w.resolve choice config).context, w.created⟩

def rebound (w : Workspace) : Operation → String → Option NamedSettings
  | .create target choice config, name =>
    if target = name then some (w.snapshot choice config) else none
  | .clone source target, name => if target = name then w.find? source else none
  | _, _ => none

theorem inspect_state (w : Workspace) (name : String) : (w.apply (.inspect name)).1 = w := by
  unfold apply
  dsimp only
  split <;> rfl

theorem find_apply (w : Workspace) (o : Operation) (name : String) :
    (w.apply o).1.find? name = (w.rebound o name).or (w.find? name) := by
  cases o with
  | create target choice config =>
    have bound : (w.apply (.create target choice config)).1.find? name =
        if target = name then some (w.snapshot choice config) else w.find? name :=
      find_bind w ..
    rw [bound, rebound]
    split <;> rfl
  | clone source target =>
    unfold apply clone rebound
    dsimp only
    cases w.find? source with
    | none =>
      rw [ite_self]
      rfl
    | some s =>
      dsimp only
      rw [find_bind]
      split <;> rfl
  | inspect target =>
    rw [inspect_state]
    rfl
  | compare | write | makeDirectory | remove => rfl

theorem apply_frame {w : Workspace} {o : Operation} {name : String}
    (h : w.rebound o name = none) : (w.apply o).1.find? name = w.find? name := by
  rw [find_apply, h]
  rfl

/-- A name that shows something else was bound again in between. -/
theorem run_rebinds {name : String} (more : List Operation) : ∀ w : Workspace,
    (w.run more).1.find? name ≠ w.find? name →
    ∃ before o after, more = before ++ o :: after ∧
      ((w.run before).1.rebound o name).isSome = true := by
  induction more with
  | nil => exact fun w changed => absurd rfl changed
  | cons o more ih =>
    intro w changed
    cases h : w.rebound o name with
    | some s => exact ⟨[], o, more, rfl, by rw [run, h]; rfl⟩
    | none =>
      rw [← apply_frame h] at changed
      obtain ⟨before, o', after, rfl, later⟩ := ih (w.apply o).1 changed
      exact ⟨o :: before, o', after, rfl, later⟩

theorem rebound_other {w : Workspace} {o : Operation} {name other : String} (hne : name ≠ other)
    (h : (w.rebound o name).isSome = true) : w.rebound o other = none := by
  have target : ∀ {t : String} {x : Option NamedSettings},
      (if t = name then x else none).isSome = true → t ≠ other := by
    rintro t x hx rfl
    rw [if_neg (Ne.symm hne)] at hx
    cases hx
  cases o with
  | create => exact if_neg (target h)
  | clone => exact if_neg (target h)
  | inspect | compare | write | makeDirectory | remove => rfl

/-! ## Operations on values that exist -/

def Operation.isPassive : Operation → Bool
  | .inspect _ | .clone .. | .compare .. => true
  | _ => false

def Answer.calls : Answer → List Call
  | .resolved r => r.calls
  | _ => []

def moved (w : Workspace) (files : FileSystem) (machine : Machine) : Workspace :=
  { w with files := files, machine := machine }

theorem passive_calls {w : Workspace} {o : Operation} (h : o.isPassive = true) :
    (w.apply o).2.calls = [] := by
  cases o with
  | inspect name =>
    unfold apply
    dsimp only
    split <;> rfl
  | clone source target =>
    unfold apply clone
    dsimp only
    split <;> rfl
  | compare a b =>
    unfold apply compare
    dsimp only
    split <;> rfl
  | create | write | makeDirectory | remove => cases h

/-- Neither the files nor the machine are looked at, and the files stay as they are. -/
theorem passive_moved {w : Workspace} {o : Operation} (h : o.isPassive = true)
    (files : FileSystem) (machine : Machine) :
    (w.moved files machine).apply o = ((w.apply o).1.moved files machine, (w.apply o).2) := by
  have found : ∀ name, (w.moved files machine).find? name = w.find? name := fun _ => rfl
  cases o with
  | inspect name =>
    unfold apply
    dsimp only
    rw [found]
    cases w.find? name <;> rfl
  | clone source target =>
    unfold apply clone
    dsimp only
    rw [found]
    cases w.find? source <;> rfl
  | compare a b => rfl
  | create | write | makeDirectory | remove => cases h

theorem apply_inspect {w : Workspace} {name : String} {s : NamedSettings}
    (h : w.find? name = some s) : w.apply (.inspect name) = (w, .settings s) := by
  simp only [apply, h]

theorem apply_compare {w : Workspace} {a b : String} {s t : NamedSettings}
    (ha : w.find? a = some s) (hb : w.find? b = some t) :
    w.apply (.compare a b) = (w, .compared (comparison s t)) := by
  simp only [apply, compare, ha, hb]

theorem apply_clone {w : Workspace} {source : String} {s : NamedSettings}
    (h : w.find? source = some s) (target : String) :
    w.apply (.clone source target) =
      (w.bind target s, .compared ⟨true, true, true, true, true, true⟩) := by
  simp only [apply, clone, h, comparison_self]

/-! ## Runs -/

theorem run_concat (w : Workspace) (ops : List Operation) (o : Operation) :
    (w.run (ops ++ [o])).1 = ((w.run ops).1.apply o).1 := by
  induction ops generalizing w with
  | nil => rfl
  | cons o' ops ih => exact ih (w.apply o').1

def Operation.isCreate : Operation → Bool
  | .create .. => true
  | _ => false

theorem apply_created (w : Workspace) (o : Operation) :
    (w.apply o).1.created = w.created + [o].countP Operation.isCreate := by
  cases o with
  | create => rfl
  | clone source target =>
    unfold apply clone
    dsimp only
    split <;> rfl
  | inspect name =>
    rw [inspect_state]
    rfl
  | compare | write | makeDirectory | remove => rfl

theorem run_created (machine : Machine) (ops : List Operation) :
    ((start machine).run ops).1.created = ops.countP Operation.isCreate := by
  induction ops using List.reverseRecOn with
  | nil => rfl
  | append_singleton ops o ih => rw [run_concat, apply_created, ih, List.countP_append]

theorem run_answer (w : Workspace) (ops : List Operation) {k : Nat} {o : Operation}
    (h : ops[k]? = some o) :
    (w.run ops).2[k]? = some ((w.run (ops.take k)).1.apply o).2 := by
  induction ops generalizing w k with
  | nil => cases h
  | cons o' ops ih =>
    cases k with
    | zero =>
      cases h
      rfl
    | succ k => exact ih (w.apply o').1 h

/-- The settings are those that the `k`-th operation, a creation, resolved. -/
def Snapshot (machine : Machine) (ops : List Operation) (k : Nat) (s : NamedSettings) : Prop :=
  ∃ name choice config, ops[k]? = some (.create name choice config) ∧
    s = ((start machine).run (ops.take k)).1.snapshot choice config

section Snapshot

variable {machine : Machine} {ops : List Operation} {k l : Nat} {s t : NamedSettings}

theorem Snapshot.answered (h : Snapshot machine ops k s) :
    ∃ r, ((start machine).run ops).2[k]? = some (.resolved r) ∧ s.context = r.context := by
  obtain ⟨name, choice, config, hk, rfl⟩ := h
  exact ⟨_, run_answer (start machine) ops hk, rfl⟩

theorem Snapshot.concat (h : Snapshot machine ops k s) (o : Operation) :
    Snapshot machine (ops ++ [o]) k s := by
  obtain ⟨name, choice, config, hk, hs⟩ := h
  have hl : k < ops.length := (List.getElem?_eq_some_iff.mp hk).1
  refine ⟨name, choice, config, ?_, ?_⟩
  · rw [List.getElem?_append_left hl, hk]
  · rw [List.take_append_of_le_length (Nat.le_of_lt hl), hs]

theorem Snapshot.unique (h : Snapshot machine ops k s) (h' : Snapshot machine ops k t) :
    s = t := by
  obtain ⟨name, choice, config, hk, hs⟩ := h
  obtain ⟨name', choice', config', hk', ht⟩ := h'
  cases hk.symm.trans hk'
  rw [hs, ht]

theorem Snapshot.stamp_eq (h : Snapshot machine ops k s) :
    s.stamp = (ops.take k).countP Operation.isCreate := by
  obtain ⟨name, choice, config, -, rfl⟩ := h
  exact run_created machine _

theorem Snapshot.stamp_lt (h : Snapshot machine ops k s) (h' : Snapshot machine ops l t)
    (hkl : k < l) : s.stamp < t.stamp := by
  obtain ⟨name, choice, config, hk, -⟩ := id h
  -- The creation at `k` is itself among those that come before `l`.
  have next : (ops.take (k + 1)).countP Operation.isCreate = s.stamp + 1 := by
    rw [List.take_add_one, List.countP_append, hk, h.stamp_eq]
    rfl
  have le : (ops.take (k + 1)).countP Operation.isCreate ≤ t.stamp := by
    rw [h'.stamp_eq]
    exact (List.take_sublist_take_left hkl).countP_le
  omega

theorem Snapshot.stamp_inj (h : Snapshot machine ops k s) (h' : Snapshot machine ops l t)
    (hst : s.stamp = t.stamp) : k = l := by
  rcases Nat.lt_trichotomy k l with lt | eq | gt
  · have := h.stamp_lt h' lt
    omega
  · exact eq
  · have := h'.stamp_lt h gt
    omega

end Snapshot

/-! ## Origins -/

/-- The place of the creation that the value of a name descends from, directly or by clones. The
last operation comes first, so the place of a creation is the number of operations behind it. -/
def origin? : List Operation → String → Option Nat
  | [], _ => none
  | .create target _ _ :: past, name =>
    if target = name then some past.length else origin? past name
  | .clone source target :: past, name =>
    if target = name then (origin? past source).or (origin? past name) else origin? past name
  | _ :: past, name => origin? past name

/-- A name is bound exactly if it has an origin, and shows the snapshot that was taken there. -/
theorem run_traced (machine : Machine) (ops : List Operation) : ∀ name,
    Option.Rel (Snapshot machine ops) (origin? ops.reverse name)
      (((start machine).run ops).1.find? name) := by
  -- On the last operation, for all names at once: a clone looks up another name.
  induction ops using List.reverseRecOn with
  | nil => exact fun _ => .none
  | append_singleton ops o ih =>
    have kept : ∀ name, Option.Rel (Snapshot machine (ops ++ [o])) (origin? ops.reverse name)
        (((start machine).run ops).1.find? name) :=
      fun name => option_rel_mono (fun _ _ h => h.concat o) (ih name)
    intro name
    rw [List.reverse_concat, run_concat, find_apply]
    cases o with
    | create target choice config =>
      rw [origin?, rebound]
      by_cases h : target = name
      · rw [if_pos h, if_pos h, List.length_reverse]
        refine .some ⟨target, choice, config, List.getElem?_concat_length, ?_⟩
        rw [List.take_left]
      · rw [if_neg h, if_neg h]
        exact kept name
    | clone source target =>
      rw [origin?, rebound]
      by_cases h : target = name
      · rw [if_pos h, if_pos h]
        exact option_rel_or (kept source) (kept name)
      · rw [if_neg h, if_neg h]
        exact kept name
    | inspect | compare | write | makeDirectory | remove => exact kept name

section Shared

variable {machine : Machine} {ops : List Operation} {a b : String} {s t : NamedSettings}

theorem bound_snapshot (h : ((start machine).run ops).1.find? a = some s) :
    ∃ k, origin? ops.reverse a = some k ∧ Snapshot machine ops k s :=
  option_rel_some (run_traced machine ops a) h

theorem bound_eq_of_origin_eq (ha : ((start machine).run ops).1.find? a = some s)
    (hb : ((start machine).run ops).1.find? b = some t)
    (h : origin? ops.reverse a = origin? ops.reverse b) : s = t := by
  obtain ⟨k, hk, snapshot⟩ := bound_snapshot ha
  obtain ⟨l, hl, snapshot'⟩ := bound_snapshot hb
  rw [hk, hl] at h
  cases h
  exact snapshot.unique snapshot'

theorem origin_eq_of_stamp_eq (ha : ((start machine).run ops).1.find? a = some s)
    (hb : ((start machine).run ops).1.find? b = some t) (h : s.stamp = t.stamp) :
    origin? ops.reverse a = origin? ops.reverse b := by
  obtain ⟨k, hk, snapshot⟩ := bound_snapshot ha
  obtain ⟨l, hl, snapshot'⟩ := bound_snapshot hb
  rw [hk, hl, snapshot.stamp_inj snapshot' h]

theorem same_server_iff_origin (ha : ((start machine).run ops).1.find? a = some s)
    (hb : ((start machine).run ops).1.find? b = some t) :
    s.sameServer t = true ↔ (s.context.isUsable = false ∧ t.context.isUsable = false) ∨
      origin? ops.reverse a = origin? ops.reverse b := by
  have parts := Settings.same_object_iff s t Engine.server
  constructor
  · intro same
    rcases parts.mp same with unusable | ⟨-, -, stamps⟩
    · exact Or.inl unusable
    · exact Or.inr (origin_eq_of_stamp_eq ha hb stamps)
  · rintro (unusable | origins)
    · exact parts.mpr (Or.inl unusable)
    · rw [bound_eq_of_origin_eq ha hb origins]
      exact t.same_server_self

end Shared

end Workspace

open Workspace

/-- After any run, what names show and share follows from the creations and the clones in it. -/
theorem settings_are_snapshots (machine : Machine) (ops : List Operation) :
    let w := ((start machine).run ops).1
    let origin := origin? ops.reverse
    (∀ name, Option.Rel (Snapshot machine ops) (origin name) (w.find? name)) ∧
    (∀ k s, Snapshot machine ops k s → ∃ r,
      ((start machine).run ops).2[k]? = some (.resolved r) ∧ s.context = r.context) ∧
    (∀ name s, w.find? name = some s → w.apply (.inspect name) = (w, .settings s)) ∧
    (∀ name more, (w.run more).1.find? name ≠ w.find? name →
      ∃ before o after, more = before ++ o :: after ∧
        ((w.run before).1.rebound o name).isSome = true) ∧
    (∀ o : Operation, o.isPassive = true → (w.apply o).2.calls = [] ∧
      ∀ files machine', (w.moved files machine').apply o =
        ((w.apply o).1.moved files machine', (w.apply o).2)) ∧
    (∀ source target s, w.find? source = some s →
      let cloned := (w.apply (.clone source target)).1
      cloned.find? target = some s ∧
      ∀ o, source ≠ target → (cloned.rebound o source).isSome = true →
        (cloned.apply o).1.find? target = some s) ∧
    (∀ a b s t, w.find? a = some s → w.find? b = some t →
      let c := comparison s t
      w.apply (.compare a b) = (w, .compared c) ∧
      (c.sameClient = true ↔ c.sameServer = true) ∧
      (c.sameServer = true ↔
        (s.context.isUsable = false ∧ t.context.isUsable = false) ∨ origin a = origin b) ∧
      (origin a = origin b → c.equal = true ∧ c.sameMaterial = true ∧ c.sameOutcome = true)) ∧
    (∀ s t s' t' : NamedSettings, s'.configuration = s.configuration →
      t'.configuration = t.configuration →
      (s' == t') = (s == t) ∧ (s' != t') = !(s == t) ∧ (t' == s') = (s == t) ∧
        s'.sameMaterial t' = (s == t)) := by
  intro w origin
  refine ⟨run_traced machine ops, fun k s => Snapshot.answered, fun name s => apply_inspect,
    fun name more => run_rebinds more w,
    fun o passive => ⟨passive_calls passive, passive_moved passive⟩, ?_, ?_,
    fun s t s' t' => Settings.compared_by_configurations⟩
  · intro source target s hs cloned
    have bound : cloned.find? target = some s := by
      show (w.apply (.clone source target)).1.find? target = some s
      rw [apply_clone hs, find_bind, if_pos rfl]
    refine ⟨bound, fun o hne again => ?_⟩
    rw [apply_frame (rebound_other hne again), bound]
  · intro a b s t ha hb c
    refine ⟨apply_compare ha hb, s.same_client_iff_same_server t, same_server_iff_origin ha hb, ?_⟩
    intro origins
    have same : s = t := bound_eq_of_origin_eq ha hb origins
    subst same
    have alike : c = ⟨true, true, true, true, true, true⟩ := comparison_self s
    rw [alike]
    exact ⟨rfl, rfl, rfl⟩

/-- The first name is bound anew while clones of its first value exist. They share one engine. -/
theorem clones_survive_rebinding :
    let machine : Machine := ⟨none, fun _ => [], [⟨[1], [2], none⟩]⟩
    let create (name protocol : String) : Operation :=
      .create name .machine ⟨⟨protocol⟩, none, none⟩
    let w := ((start machine).run [create "first" "TLS", .clone "first" "second",
      create "first" "TLSv1.2", .clone "second" "third"]).1
    ∃ s t u, w.find? "first" = some s ∧ w.find? "second" = some t ∧ w.find? "third" = some u ∧
      t.configuration.protocol.name = "TLS" ∧ t.context.isUsable = true ∧
      t.sameServer u = true ∧ t.sameOutcome u = true ∧ s.sameServer t = false ∧
      (s == t) = true ∧
      ((w.apply (.clone "second" "fourth")).1.apply (create "second" "SSL")).1.find? "fourth" =
        some t := by
  intro machine create w
  obtain ⟨-, -, -, -, -, cloned, shared, -⟩ := settings_are_snapshots machine
    [create "first" "TLS", .clone "first" "second", create "first" "TLSv1.2",
      .clone "second" "third"]
  have usable : (w.find? "second").any (fun t => t.context.isUsable) = true := by decide
  refine ⟨_, _, _, rfl, rfl, rfl, rfl, usable, ?_, ?_, ?_, rfl, ?_⟩
  · exact (shared "second" "third" _ _ rfl rfl).2.2.1.mpr (Or.inr (by decide))
  · exact ((shared "second" "third" _ _ rfl rfl).2.2.2 (by decide)).2.2
  · apply Bool.eq_false_iff.mpr
    intro same
    rcases (shared "first" "second" _ _ rfl rfl).2.2.1.mp same with ⟨-, unusable⟩ | origins
    · exact Bool.noConfusion (usable.symm.trans unusable)
    · revert origins
      decide
  · exact (cloned "second" "fourth" _ rfl).2 (create "second" "SSL") (by decide) rfl

end TlsEndpoint
