import Mathlib.Logic.Basic
import Mathlib.Tactic.SplitIfs
import TlsEndpoint.FileSystem

/-! # Spellings of one path

Equality of paths looks at components only, but a file is found by the names as they are spelled.
The two agree up to the end of a path: a point among other names asks for nothing that the name
after it does not ask for, while one in last place asks for a directory, and so does a separator.
Two spellings of one path therefore never read different contents; all that can happen is that one
of them reads and the other does not. -/
namespace TlsEndpoint

namespace Path

def Component.hashed? : Component → Option Bytes
  | .root => none
  | .here => some [point]
  | .up => some [point, point]
  | .name s => some s

def isSolid (s : Bytes) : Bool := s ≠ [] ∧ s ≠ [point]

def asksDirectory (p : Path) : Bool := (FileSystem.names p).getLast? = some [point]

def isTooLong (p : Path) : Bool := FileSystem.maxPath ≤ p.octets.length

theorem component_of_not_solid {s : Bytes} (h : isSolid s = false) : component? s = none := by
  unfold component?
  rw [if_pos]
  by_cases hs : s = [] <;> simp_all [isSolid]

theorem component_of_solid {s : Bytes} (h : isSolid s = true) :
    ∃ c, component? s = some c ∧ Component.hashed? c = some s ∧ c ≠ .root := by
  have hn : ¬ (s = [] ∨ s = [point]) := by simpa [isSolid] using h
  unfold component?
  rw [if_neg hn]
  by_cases hu : s = [point, point]
  · exact ⟨.up, if_pos hu, by rw [hu]; rfl, by decide⟩
  · exact ⟨.name s, if_neg hu, rfl, by simp⟩

theorem hashed_components (segments : List Bytes) :
    (segments.filterMap component?).filterMap Component.hashed? = segments.filter isSolid := by
  induction segments with
  | nil => rfl
  | cons s rest ih =>
    cases hs : isSolid s with
    | false =>
      rw [List.filterMap_cons_none (component_of_not_solid hs), List.filter_cons_of_neg (by simp [hs])]
      exact ih
    | true =>
      obtain ⟨c, hc, hh, -⟩ := component_of_solid hs
      rw [List.filterMap_cons_some hc, List.filterMap_cons_some hh, List.filter_cons_of_pos hs, ih]

theorem solid_segments_eq (p : Path) :
    (segments p.octets).filter isSolid =
      (p.components.filterMap Component.hashed?).filter isSolid := by
  have lead : ∀ c, c = Component.root ∨ c = .here →
      ([c].filterMap Component.hashed?).filter isSolid = [] := by
    rintro c (rfl | rfl) <;> decide
  unfold components
  dsimp only
  rw [List.filterMap_append, List.filter_append, hashed_components, List.filter_filter]
  split
  · rw [lead _ (Or.inl rfl)]
    simp
  · split
    · rw [lead _ (Or.inr rfl)]
      simp
    · simp

theorem root_mem_components_iff (p : Path) : .root ∈ p.components ↔ p.isAbsolute = true := by
  have no_root : Component.root ∉ (segments p.octets).filterMap component? := by
    intro h
    obtain ⟨s, -, hs⟩ := List.mem_filterMap.mp h
    cases hb : isSolid s with
    | false =>
      rw [component_of_not_solid hb] at hs
      cases hs
    | true =>
      obtain ⟨c, hc, -, hr⟩ := component_of_solid hb
      rw [hc] at hs
      cases hs
      exact hr rfl
  unfold components
  dsimp only
  by_cases ha : p.isAbsolute = true
  · simp [ha]
  · rw [if_neg ha, List.mem_append]
    constructor
    · rintro (h | h)
      · split at h <;> simp at h
      · exact absurd h no_root
    · intro h
      exact absurd h ha

theorem exists_segments (octets : Bytes) : ∃ s rest, segments octets = s :: rest := by
  cases octets with
  | nil => exact ⟨[], [], rfl⟩
  | cons b r =>
    unfold segments
    split
    · exact ⟨_, _, rfl⟩
    · split <;> exact ⟨_, _, rfl⟩

theorem segments_cons {b : UInt8} {r s : Bytes} {rest : List Bytes} (hr : segments r = s :: rest) :
    segments (b :: r) = if b = separator then [] :: s :: rest else (b :: s) :: rest := by
  rw [segments, hr]

theorem components_eq_nil_iff (p : Path) : p.components = [] ↔ p.octets = [] := by
  obtain ⟨octets⟩ := p
  cases octets with
  | nil => exact iff_of_true (by decide) rfl
  | cons b r =>
    refine iff_of_false (fun h => ?_) (List.cons_ne_nil b r)
    have relative : ¬ isAbsolute ⟨b :: r⟩ = true := by
      rw [← root_mem_components_iff, h]
      exact List.not_mem_nil
    have hb : b ≠ separator := by simpa [isAbsolute] using relative
    obtain ⟨s, rest, hr⟩ := exists_segments r
    have first : segments (b :: r) = (b :: s) :: rest := by rw [segments_cons hr, if_neg hb]
    unfold components at h
    dsimp only at h
    rw [if_neg relative, first, List.head?_cons, List.append_eq_nil_iff] at h
    obtain ⟨lead, tail⟩ := h
    cases hs : isSolid (b :: s) with
    | true =>
      obtain ⟨c, hc, -⟩ := component_of_solid hs
      rw [List.filterMap_cons_some hc] at tail
      cases tail
    | false =>
      have hp : b :: s = [point] := by simpa [isSolid] using hs
      rw [hp, if_pos rfl] at lead
      cases lead

theorem mem_octets_iff {x : UInt8} (hx : x ≠ separator) (octets : Bytes) :
    x ∈ octets ↔ ∃ s ∈ segments octets, x ∈ s := by
  induction octets with
  | nil => simp [segments]
  | cons b r ih =>
    obtain ⟨s, rest, hr⟩ := exists_segments r
    rw [List.mem_cons, ih, segments_cons hr, hr]
    by_cases hb : b = separator
    · have hxb : x ≠ b := by rwa [hb]
      rw [if_pos hb]
      simp [hxb]
    · rw [if_neg hb]
      simp [or_assoc]

theorem mem_octets_iff_solid {x : UInt8} (hs : x ≠ separator) (hp : x ≠ point) (p : Path) :
    x ∈ p.octets ↔ ∃ s ∈ (segments p.octets).filter isSolid, x ∈ s := by
  rw [mem_octets_iff hs]
  constructor
  · rintro ⟨s, hm, hx⟩
    refine ⟨s, List.mem_filter.mpr ⟨hm, ?_⟩, hx⟩
    have not_empty : s ≠ [] := List.ne_nil_of_mem hx
    have not_point : s ≠ [point] := by
      rintro rfl
      exact hp (List.mem_singleton.mp hx)
    simp [isSolid, not_empty, not_point]
  · rintro ⟨s, hm, hx⟩
    exact ⟨s, (List.mem_filter.mp hm).1, hx⟩

end Path

namespace FileSystem

open TlsEndpoint.Path

theorem enter_point_enter (fs : FileSystem) (start : Location) (name : Bytes) :
    (fs.enter start [point] >>= fun place => fs.enter place name) = fs.enter start name := by
  by_cases hd : fs.node? start = some .directory
  · have stay : fs.enter start [point] = .ok start := by simp [enter, hd]
    rw [stay]
    rfl
  · have refuse : ∀ name, fs.enter start name = .error IoError.notADirectory := by
      intro name
      simp [enter, hd]
    rw [refuse, refuse]
    rfl

/-- Only a point in last place makes a difference. -/
theorem walk_eq (fs : FileSystem) (names : List Bytes) (start : Location) :
    names.foldlM fs.enter start =
      (names.filter (· ≠ [point]) ++
        if names.getLast? = some [point] then [[point]] else []).foldlM fs.enter start := by
  induction names generalizing start with
  | nil => rfl
  | cons name rest ih =>
    cases rest with
    | nil =>
      by_cases hp : name = [point]
      · simp [hp]
      · simp [hp]
    | cons next rest =>
      rw [List.getLast?_cons_cons]
      by_cases hp : name = [point]
      · rw [List.filter_cons_of_neg (by simp [hp]), ← ih, hp]
        calc ([point] :: next :: rest).foldlM fs.enter start
            = (fs.enter start [point] >>= fun place => fs.enter place next) >>=
                rest.foldlM fs.enter := by simp only [List.foldlM_cons, bind_assoc]
          _ = (next :: rest).foldlM fs.enter start := by
              rw [enter_point_enter, List.foldlM_cons]
      · rw [List.filter_cons_of_pos (by simp [hp]), List.cons_append, List.foldlM_cons,
          List.foldlM_cons]
        congr 1
        funext place
        exact ih place

theorem solid_names_eq (p : Path) :
    (names p).filter (· ≠ [point]) = (segments p.octets).filter isSolid := by
  have both : ((segments p.octets).filter (· ≠ [])).filter (· ≠ [point]) =
      (segments p.octets).filter isSolid := by
    rw [List.filter_filter]
    congr 1
    funext s
    simp [isSolid, Bool.and_comm]
  unfold names
  dsimp only
  split
  · rw [List.filter_append, both]
    simp
  · exact both

/-- What a path asks for: its solid segments in turn, and at the end perhaps a directory. -/
theorem walk_names_eq (fs : FileSystem) (p : Path) (start : Location) :
    (names p).foldlM fs.enter start =
      ((segments p.octets).filter isSolid ++
        if p.asksDirectory then [[point]] else []).foldlM fs.enter start := by
  rw [walk_eq, solid_names_eq, asksDirectory]
  simp only [decide_eq_true_eq]

section Spelling

variable {fs : FileSystem} {p q : Path}

theorem locate_congr (hc : p.components = q.components)
    (hd : p.asksDirectory = q.asksDirectory) (hl : p.isTooLong = q.isTooLong) :
    fs.locate p = fs.locate q := by
  have solid : (segments p.octets).filter isSolid = (segments q.octets).filter isSolid := by
    rw [solid_segments_eq, solid_segments_eq, hc]
  have absolute : p.isAbsolute = q.isAbsolute := by
    rw [Bool.eq_iff_iff, ← root_mem_components_iff, ← root_mem_components_iff, hc]
  have nul : p.octets.contains 0 = q.octets.contains 0 := by
    rw [Bool.eq_iff_iff, List.contains_iff_mem, List.contains_iff_mem,
      mem_octets_iff_solid (by decide) (by decide), mem_octets_iff_solid (by decide) (by decide),
      solid]
  have empty : p.octets = [] ↔ q.octets = [] := by
    rw [← components_eq_nil_iff, ← components_eq_nil_iff, hc]
  have long : maxPath ≤ p.octets.length ↔ maxPath ≤ q.octets.length := by
    simpa [isTooLong] using hl
  unfold locate origin
  simp only [nul, empty, long, absolute, walk_names_eq, solid, hd]

/-- Spellings that end alike read the same, or fail alike. -/
theorem read_congr (hc : p.components = q.components)
    (hd : p.asksDirectory = q.asksDirectory) (hl : p.isTooLong = q.isTooLong) :
    fs.read p = fs.read q := by
  unfold read
  rw [locate_congr hc hd hl]

theorem walk_of_locate {place : Location} (h : fs.locate p = .ok place) :
    p.isTooLong = false ∧ (names p).foldlM fs.enter (fs.origin p) = .ok place := by
  unfold locate at h
  split_ifs at h with hn he hl
  exact ⟨by simpa [isTooLong] using hl, h⟩

theorem directory_of_enter_point {start place : Location}
    (h : fs.enter start [point] = .ok place) : fs.node? place = some .directory := by
  by_cases hd : fs.node? start = some .directory
  · have stay : fs.enter start [point] = .ok start := by simp [enter, hd]
    rw [stay] at h
    cases h
    exact hd
  · simp [enter, hd] at h

theorem directory_of_locate {place : Location} (hd : p.asksDirectory = true)
    (h : fs.locate p = .ok place) : fs.node? place = some .directory := by
  have walk := (walk_of_locate h).2
  rw [walk_names_eq, if_pos hd, List.foldlM_append] at walk
  cases hs : ((segments p.octets).filter isSolid).foldlM fs.enter (fs.origin p) with
  | error e =>
    rw [hs] at walk
    cases walk
  | ok start =>
    rw [hs] at walk
    cases hp : fs.enter start [point] with
    | error e =>
      simp [hp, bind, Except.bind] at walk
    | ok last =>
      simp only [hp, bind, Except.bind, List.foldlM_cons, List.foldlM_nil, pure, Except.pure,
        Except.ok.injEq] at walk
      rw [← walk]
      exact directory_of_enter_point hp

/-- What can be read is a file, so the path has not asked for a directory. -/
theorem asks_no_directory_of_read {content : Bytes} (h : fs.read p = .ok content) :
    p.asksDirectory = false ∧ p.isTooLong = false := by
  unfold read at h
  cases hl : fs.locate p with
  | error e =>
    rw [hl] at h
    cases h
  | ok place =>
    refine ⟨Bool.eq_false_iff.mpr fun hd => ?_, (walk_of_locate hl).1⟩
    rw [hl] at h
    dsimp only at h
    rw [directory_of_locate hd hl] at h
    cases h

theorem read_unique {content content' : Bytes} (hc : p.components = q.components)
    (hp : fs.read p = .ok content) (hq : fs.read q = .ok content') : content = content' := by
  obtain ⟨hd, hl⟩ := asks_no_directory_of_read hp
  obtain ⟨hd', hl'⟩ := asks_no_directory_of_read hq
  have same : fs.read p = fs.read q := read_congr hc (hd.trans hd'.symm) (hl.trans hl'.symm)
  rw [hp, hq] at same
  cases same
  rfl

end Spelling

end FileSystem

end TlsEndpoint
