import TlsEndpoint.Proofs.Sections

/-! # Where reading for a key stops

The reader goes from line to line with what is open: a label, if any, and the text collected under
it. `LineRead` lists what one line can do. The first key is complete with the line that ends its
section, and nothing behind is looked at, not even the rest of this line. -/
namespace TlsEndpoint.Pem

/-! ## Lines -/

section Lines

variable {b : UInt8} {r : Bytes}

theorem lines_of_end (hb : b = 10 ∨ b = 13) : lines (b :: r) = [b] :: lines r := by
  rw [lines, if_pos hb]

theorem lines_of_last (hb : ¬(b = 10 ∨ b = 13)) (hr : lines r = []) : lines (b :: r) = [[b]] := by
  rw [lines, if_neg hb, hr]

theorem lines_of_inner (hb : ¬(b = 10 ∨ b = 13)) {l : Bytes} {ls : List Bytes}
    (hr : lines r = l :: ls) : lines (b :: r) = (b :: l) :: ls := by
  rw [lines, if_neg hb, hr]

end Lines

theorem lines_flatten (text : Bytes) : (lines text).flatten = text := by
  induction text using lines.induct with
  | case1 => rfl
  | case2 b r hb ih => rw [lines_of_end hb, List.flatten_cons, ih, List.singleton_append]
  | case3 b r hb hr ih =>
    rw [hr] at ih
    rw [lines_of_last hb hr, ← ih]
    rfl
  | case4 b r hb l ls hr ih =>
    rw [hr] at ih
    rw [lines_of_inner hb hr, ← ih]
    rfl

theorem lines_flatten_of_append {text : Bytes} {front rest : List Bytes}
    (h : lines text = front ++ rest) : lines front.flatten = front := by
  induction text using lines.induct generalizing front with
  | case1 =>
    obtain ⟨rfl, -⟩ := List.append_eq_nil_iff.mp h.symm
    rfl
  | case2 b r hb ih =>
    rw [lines_of_end hb] at h
    cases front with
    | nil => rfl
    | cons l front =>
      obtain ⟨rfl, hr⟩ := List.cons.inj h
      rw [List.flatten_cons, List.singleton_append, lines_of_end hb, ih hr]
  | case3 b r hb hr ih =>
    rw [lines_of_last hb hr] at h
    cases front with
    | nil => rfl
    | cons l front =>
      obtain ⟨rfl, hf⟩ := List.cons.inj h
      obtain ⟨rfl, -⟩ := List.append_eq_nil_iff.mp hf.symm
      exact lines_of_last hb rfl
  | case4 b r hb l ls hr ih =>
    rw [lines_of_inner hb hr] at h
    cases front with
    | nil => rfl
    | cons l' front =>
      obtain ⟨rfl, rfl⟩ := List.cons.inj h
      have next : lines (l :: front).flatten = l :: front := ih hr
      exact lines_of_inner hb next

/-- Text behind a beginning of a file can only prolong the last line of that beginning. -/
theorem lines_append {head : Bytes} (tail : Bytes) {front : List Bytes} {last : Bytes}
    (h : lines head = front ++ [last]) : ∃ last' after,
      lines (head ++ tail) = front ++ last' :: after ∧ last <+: last' := by
  induction head using lines.induct generalizing front last with
  | case1 => simp [lines] at h
  | case2 b r hb ih =>
    rw [lines_of_end hb] at h
    rw [List.cons_append, lines_of_end hb]
    cases front with
    | nil =>
      obtain ⟨rfl, -⟩ := List.cons.inj h
      exact ⟨[b], _, rfl, List.prefix_rfl⟩
    | cons l front =>
      obtain ⟨rfl, hr⟩ := List.cons.inj h
      obtain ⟨last', after, hl, hp⟩ := ih hr
      exact ⟨last', after, by rw [hl]; rfl, hp⟩
  | case3 b r hb hr ih =>
    rw [lines_of_last hb hr] at h
    cases front with
    | nil =>
      obtain ⟨rfl, -⟩ := List.cons.inj h
      rw [List.cons_append]
      cases ht : lines (r ++ tail) with
      | nil => exact ⟨[b], [], lines_of_last hb ht, List.prefix_rfl⟩
      | cons l ls => exact ⟨b :: l, ls, lines_of_inner hb ht, ⟨l, rfl⟩⟩
    | cons l front => simp at h
  | case4 b r hb l ls hr ih =>
    rw [lines_of_inner hb hr] at h
    rw [List.cons_append]
    cases front with
    | nil =>
      obtain ⟨rfl, rfl⟩ := List.cons.inj h
      have split : lines r = [] ++ [l] := hr
      obtain ⟨last', after, hl, hp⟩ := ih split
      exact ⟨b :: last', after, lines_of_inner hb hl, List.cons_prefix_cons.mpr ⟨rfl, hp⟩⟩
    | cons f front =>
      obtain ⟨rfl, rfl⟩ := List.cons.inj h
      have split : lines r = (l :: front) ++ [last] := hr
      obtain ⟨last', after, hl, hp⟩ := ih split
      exact ⟨last', after, lines_of_inner hb hl, hp⟩

/-! ## One line -/

theorem no_start_of_end {label line : Bytes} (h : (endMark label).isPrefixOf line = true) :
    startMark.isPrefixOf line = false := by
  rw [List.isPrefixOf_iff_prefix] at h
  obtain ⟨rest, rfl⟩ := h
  have mark : Bytes.ofText "-----END " = [45, 45, 45, 45, 45, 69, 78, 68, 32] := by decide
  have start : startMark = [45, 45, 45, 45, 45, 66, 69, 71, 73, 78, 32] := by decide
  simp [endMark, mark, start, List.isPrefixOf]

/-- What one line adds to the sections, and what is open behind it. -/
inductive LineRead (line : Bytes) : (label : Option Bytes) → (body : Bytes) →
    (items : List (Except PemError Section)) → (label' : Option Bytes) → (body' : Bytes) →
    Prop where
  | badStart {label body} (starts : startMark.isPrefixOf line = true)
      (unlabelled : labelOf? line = none) :
      LineRead line label body [.error (.illegalStart line)] none []
  /-- A start inside a section keeps the text of that section. -/
  | start {label body l} (starts : startMark.isPrefixOf line = true)
      (labelled : labelOf? line = some l) : LineRead line label body [] (some l) body
  | outside {body} (plain : startMark.isPrefixOf line = false) : LineRead line none body [] none []
  | finished {l body} (ends : (endMark l).isPrefixOf line = true) :
      LineRead line (some l) body (finish l body).toList none []
  | inside {l body} (plain : startMark.isPrefixOf line = false)
      (goesOn : (endMark l).isPrefixOf line = false) :
      LineRead line (some l) body [] (some l) (body ++ line)

theorem LineRead.scan_eq {line body body' : Bytes} {label label' : Option Bytes}
    {items : List (Except PemError Section)} (h : LineRead line label body items label' body')
    (rest : List Bytes) : scan label body (line :: rest) = items ++ scan label' body' rest := by
  cases h with
  | badStart starts unlabelled => cases label <;> simp [scan, starts, unlabelled]
  | start starts labelled => cases label <;> simp [scan, starts, labelled]
  | outside plain => simp [scan, plain]
  | @finished l _ ends =>
    rw [scan, if_neg (by simp [no_start_of_end ends])]
    simp only [ends, if_true]
    cases finish l body <;> rfl
  | inside plain goesOn => simp [scan, plain, goesOn]

theorem exists_line_read (line : Bytes) (label : Option Bytes) (body : Bytes) :
    ∃ items label' body', LineRead line label body items label' body' := by
  cases starts : startMark.isPrefixOf line with
  | true =>
    cases labelled : labelOf? line with
    | none => exact ⟨_, _, _, .badStart starts labelled⟩
    | some l => exact ⟨_, _, _, .start starts labelled⟩
  | false =>
    cases label with
    | none => exact ⟨_, _, _, .outside starts⟩
    | some l =>
      cases ends : (endMark l).isPrefixOf line with
      | true => exact ⟨_, _, _, .finished ends⟩
      | false => exact ⟨_, _, _, .inside starts ends⟩

/-! ## The line that ends the first key -/

/-- In front of the line `closing` the sections `before` are complete, none of them a key, and one
is open under the label `l`. This line ends it, and it is the key. -/
structure Closes (label : Option Bytes) (body : Bytes) (front : List Bytes) (closing : Bytes)
    (before : List Section) (l : Bytes) (k : EncodedKey) : Prop where
  passed : ∀ s ∈ before, ∀ k', s ≠ .key k'
  opens : scan label body front = before.map .ok ++ [.error (.missingEnd l)]
  ends : (endMark l).isPrefixOf closing = true
  holds : ∀ closing' rest, closing <+: closing' →
    scan label body (front ++ closing' :: rest) =
      before.map .ok ++ .ok (.key k) :: scan none [] rest

theorem Closes.cons {line body body' closing l : Bytes} {label label' : Option Bytes}
    {front : List Bytes} {before added : List Section} {k : EncodedKey}
    (read : LineRead line label body (added.map .ok) label' body')
    (others : ∀ s ∈ added, ∀ k', s ≠ .key k') (h : Closes label' body' front closing before l k) :
    Closes label body (line :: front) closing (added ++ before) l k where
  passed := List.forall_mem_append.mpr ⟨others, h.passed⟩
  opens := by rw [read.scan_eq, h.opens, List.map_append, List.append_assoc]
  ends := h.ends
  holds closing' rest hc := by
    rw [List.cons_append, read.scan_eq, h.holds closing' rest hc, List.map_append,
      List.append_assoc]

theorem closes_of_finish {l body line : Bytes} {k : EncodedKey}
    (ends : (endMark l).isPrefixOf line = true) (finished : finish l body = some (.ok (.key k))) :
    Closes (some l) body [] line [] l k where
  passed := by simp
  opens := rfl
  ends := ends
  holds closing' rest hc := by
    have ends' : (endMark l).isPrefixOf closing' = true := by
      rw [List.isPrefixOf_iff_prefix] at ends ⊢
      exact ends.trans hc
    rw [List.nil_append, (LineRead.finished ends').scan_eq, finished]
    rfl

theorem exists_closes {k : EncodedKey} (text : List Bytes) :
    ∀ (label : Option Bytes) (body : Bytes), firstKeyOf (scan label body text) = .ok (some k) →
      ∃ front closing after before l,
        text = front ++ closing :: after ∧ Closes label body front closing before l k := by
  induction text with
  | nil =>
    intro label body h
    cases label <;> cases h
  | cons line text ih =>
    intro label body h
    -- Lines that complete no section, or one that is no key, only go in front.
    have go_on {label' body'} (added : List Section)
        (read : LineRead line label body (added.map .ok) label' body')
        (others : ∀ s ∈ added, ∀ k', s ≠ .key k')
        (rest : firstKeyOf (scan label' body' text) = .ok (some k)) :
        ∃ front closing after before l, line :: text = front ++ closing :: after ∧
          Closes label body front closing before l k := by
      obtain ⟨front, closing, after, before, l, rfl, closes⟩ := ih label' body' rest
      exact ⟨line :: front, closing, after, added ++ before, l, rfl, closes.cons read others⟩
    obtain ⟨items, label', body', read⟩ := exists_line_read line label body
    have hs := read.scan_eq text
    rw [hs] at h
    cases read with
    | badStart => cases h
    | start starts labelled => exact go_on [] (.start starts labelled) (by simp) h
    | outside plain => exact go_on [] (.outside plain) (by simp) h
    | inside plain goesOn => exact go_on [] (.inside plain goesOn) (by simp) h
    | @finished l _ ends =>
      have read : LineRead line (some l) body (finish l body).toList none [] := .finished ends
      rcases finished : finish l body with _ | e | s
      · rw [finished] at h read
        exact go_on [] read (by simp) h
      · rw [finished] at h
        cases h
      · rw [finished] at h read
        cases s with
        | key k' =>
          cases h
          exact ⟨[], line, text, [], l, rfl, closes_of_finish ends finished⟩
        | certificate der => exact go_on [.certificate der] read (by simp) h
        | other der => exact go_on [.other der] read (by simp) h

/-- The last line of `head` ends its first section that is a key. -/
def ThroughFirstKey (head : Bytes) (k : EncodedKey) : Prop :=
  ∃ (front : List Bytes) (closing : Bytes) (before : List Section) (l : Bytes),
    lines head = front ++ [closing] ∧ (∀ s ∈ before, ∀ k', s ≠ .key k') ∧
    scan none [] front = before.map .ok ++ [.error (.missingEnd l)] ∧
    (endMark l).isPrefixOf closing = true ∧ sections head = before.map .ok ++ [.ok (.key k)]

theorem ThroughFirstKey.first_key {head : Bytes} {k : EncodedKey} (h : ThroughFirstKey head k) :
    firstKey head = .ok (some k) := by
  obtain ⟨_, _, before, _, -, passed, -, -, read⟩ := h
  exact first_key_of_iff.mpr ⟨before, [], read, passed⟩

theorem first_key_append {head : Bytes} {k : EncodedKey} (h : firstKey head = .ok (some k))
    (tail : Bytes) : firstKey (head ++ tail) = .ok (some k) := by
  obtain ⟨front, closing, after, before, l, split, closes⟩ := exists_closes (lines head) none [] h
  have longer : ∃ closing' rest, lines (head ++ tail) = front ++ closing' :: rest ∧
      closing <+: closing' := by
    rcases List.eq_nil_or_concat after with rfl | ⟨init, last, rfl⟩
    · exact lines_append tail split
    · -- The line that ends the key is not the last one, so it stays as it is.
      have split' : lines head = (front ++ closing :: init) ++ [last] := by rw [split]; simp
      obtain ⟨last', rest, hl, -⟩ := lines_append tail split'
      exact ⟨closing, init ++ last' :: rest, by rw [hl]; simp, List.prefix_rfl⟩
  obtain ⟨closing', rest, hl, hp⟩ := longer
  refine first_key_of_iff.mpr ⟨before, scan none [] rest, ?_, closes.passed⟩
  rw [sections, hl]
  exact closes.holds closing' rest hp

theorem exists_through_first_key {text : Bytes} {k : EncodedKey}
    (h : firstKey text = .ok (some k)) : ∃ head tail, text = head ++ tail ∧
      lines head <+: lines text ∧ ThroughFirstKey head k := by
  obtain ⟨front, closing, after, before, l, split, closes⟩ := exists_closes (lines text) none [] h
  have split' : lines text = (front ++ [closing]) ++ after := by rw [split]; simp
  have whole := lines_flatten_of_append split'
  refine ⟨(front ++ [closing]).flatten, after.flatten, ?_, ?_, front, closing, before, l, whole,
    closes.passed, closes.opens, closes.ends, ?_⟩
  · rw [← List.flatten_append, ← split', lines_flatten]
  · rw [whole, split']
    exact List.prefix_append _ _
  · rw [sections, whole, closes.holds closing [] List.prefix_rfl]
    rfl

end TlsEndpoint.Pem
