import Spacing.Proofs.Landing

/-! What an accepted submission leaves. One edit fills the range from margin to margin, and the
pending edits that keep apart from it stay as they are. To replace nothing by nothing comes under
the same rule, although nothing is planned for it: the edit that would fill the range is pending
already, or void. -/
namespace Spacing.Draft

/-- The edit from the margin of the start to the margin of the end, with the texts kept there. -/
structure Fills (d : Draft) (r : Range) (text : Text) (e : Edit) : Prop where
  start_eq : e.start = (d.lead r.start).offset
  stop_eq : e.stop = r.stop.trail.offset
  text_eq : e.text = (d.lead r.start).text ++ text ++ r.stop.trail.text

variable {d : Draft}

theorem Suits.fills {r : Range} {text : Text} {c : Change} (suits : d.Suits r text c) :
    d.Fills r text c.edit :=
  ⟨suits.start_eq, suits.stop_eq, suits.text_eq⟩

theorem isBlank_lead (p : Position) : (d.lead p).text.IsBlank := by
  cases p with
  | base o =>
    rw [lead_base_text]
    cases d.pending.stoppingAt? o with
    | none => exact Text.isBlank_nil
    | some l => exact l.blank
  | within e k => exact e.blank.take k

theorem isBlank_trail (p : Position) : p.trail.text.IsBlank := by
  cases p with
  | base o => exact Text.isBlank_nil
  | within e k => exact e.blank.drop k

theorem eq_of_pending {o : Draft} (base : o.base = d.base) (config : o.config = d.config)
    (pending : o.pending.toList = d.pending.toList) : o = d := by
  obtain ⟨_, _, edits, _⟩ := o
  obtain ⟨_, _, others, _⟩ := d
  obtain rfl : edits = others := Array.toList_inj.1 pending
  cases base
  cases config
  rfl

theorem accepted_of_taken {s : Selection} {text : Text} {answer : Range}
    (taken : (d.submit s text).result = .ok answer) :
    ∃ r : Range, s = r.toSelection ∧ d.HasRange r ∧ d.refusal? r text = none := by
  cases resolved : d.resolve s with
  | error failure => simp [submit_of_unresolved resolved] at taken
  | ok r =>
    obtain ⟨rfl, valid⟩ := resolve_eq_ok.1 resolved
    cases refusal : d.refusal? r text with
    | some reason => simp [submit_of_refusal valid refusal] at taken
    | none => exact ⟨r, rfl, valid, refusal⟩

theorem accepted_of_range {r : Range} {text : Text} {answer : Range}
    (taken : (d.submit r text).result = .ok answer) :
    d.HasRange r ∧ d.refusal? r text = none := by
  obtain ⟨q, asked, valid, clear⟩ := accepted_of_taken taken
  obtain rfl : r = q := Range.toSelection_inj.1 asked
  exact ⟨valid, clear⟩

section Normal

variable (normal : d.IsNormal)
include normal

theorem filter_changed_of_apart {p : Edit → Bool} {e : Edit}
    (apart : ∀ f, p f = true → f.stop < e.start ∨ e.stop < f.start) :
    (d.changed e).filter p = d.pending.toList.filter p := by
  have order := e.start_le_stop
  have sorted := ascending_of_apart (apart_changed normal e)
  apply eq_of_ascending (sorted.filter _) (d.pending.ascending.filter _)
  intro f
  rw [List.mem_filter, List.mem_filter, and_congr_left_iff]
  intro holds
  have away := apart f holds
  rw [mem_changed]
  constructor
  · rintro (⟨member, _⟩ | ⟨rfl, _⟩)
    · exact member
    · omega
  · intro member
    exact Or.inl ⟨member, away⟩

theorem changed_of_covered {o : Draft} {e f : Edit} (pending : o.pending.toList = d.changed e)
    (start : f.start ≤ e.start) (stop : e.stop ≤ f.stop) : o.changed f = d.changed f := by
  have order := e.start_le_stop
  have behind : ((d.changed e).filter fun g => g.stop < f.start) =
      d.pending.toList.filter fun g => g.stop < f.start := by
    apply filter_changed_of_apart normal
    intro g low
    rw [decide_eq_true_eq] at low
    omega
  have ahead : ((d.changed e).filter fun g => f.stop < g.start) =
      d.pending.toList.filter fun g => f.stop < g.start := by
    apply filter_changed_of_apart normal
    intro g high
    rw [decide_eq_true_eq] at high
    omega
  rw [changed, changed, pending, behind, ahead]

theorem stoppingAt?_changed {o : Draft} {e : Edit} (pending : o.pending.toList = d.changed e)
    (after : o.IsNormal) {x : Nat} (other : e.stop ≠ x)
    (apart : ∀ f ∈ d.pending.toList, f.stop = x → f.stop < e.start ∨ e.stop < f.start) :
    o.pending.stoppingAt? x = d.pending.stoppingAt? x := by
  apply Option.ext
  intro f
  rw [Patch.stoppingAt?_eq_some_iff after.apart, Patch.stoppingAt?_eq_some_iff normal.apart,
    pending, mem_changed]
  constructor
  · rintro ⟨⟨member, _⟩ | ⟨rfl, _⟩, stops⟩
    · exact ⟨member, stops⟩
    · exact absurd (Int.ofNat_inj.1 stops) other
  · rintro ⟨member, stops⟩
    exact ⟨Or.inl ⟨member, apart f member (Int.ofNat_inj.1 stops)⟩, stops⟩

theorem Fills.start_le_of_base {a : Nat} {q : Position} {text : Text} {e : Edit}
    (fills : d.Fills ⟨.base a, q⟩ text e) : e.start ≤ a := by
  rw [fills.start_eq]
  exact lead_base_le normal a

theorem changed_of_mem {e : Edit} (held : e ∈ d.pending.toList) :
    d.changed e = d.pending.toList := by
  have solid : ¬ e.isVoid = true := by simp [normal.solid e held]
  rw [changed, if_neg solid, List.append_assoc, List.singleton_append]
  exact filter_append_cons_of_mem normal.apart held

theorem changed_of_isVoid {e : Edit} (void : e.isVoid = true)
    (apart : ∀ f ∈ d.pending.toList, f.stop < e.start ∨ e.stop < f.start) :
    d.changed e = d.pending.toList := by
  apply eq_of_ascending (ascending_of_apart (apart_changed normal e)) d.pending.ascending
  intro f
  rw [mem_changed]
  constructor
  · rintro (⟨member, _⟩ | ⟨_, solid⟩)
    · exact member
    · simp [void] at solid
  · intro member
    exact Or.inl ⟨member, apart f member⟩

theorem changed_of_nothing {p : Position} (valid : d.HasPosition p) {e : Edit}
    (fills : d.Fills ⟨p, p⟩ [] e) : d.changed e = d.pending.toList := by
  obtain ⟨start, stop, text⟩ := fills
  cases p with
  | base a =>
    rw [lead_base_offset] at start
    rw [lead_base_text, List.append_nil] at text
    cases left : d.pending.stoppingAt? a with
    | none =>
      simp only [left, Option.elim_none, Position.trail, List.append_nil] at start stop text
      have void : e.isVoid = true := by simp [Edit.isVoid, Edit.isInsertion, start, stop, text]
      apply changed_of_isVoid normal void
      intro f member
      have spared := ((hasPosition_base normal).1 valid).2 f member
      have loose := (Patch.stoppingAt?_eq_none_iff normal.apart).1 left f member
      omega
    | some l =>
      obtain ⟨held, touching⟩ := (Patch.stoppingAt?_eq_some_iff normal.apart).1 left
      simp only [left, Option.elim_some, Position.trail, List.append_nil] at start stop text
      obtain rfl : e = l := Edit.ext start (by omega) text
      exact changed_of_mem normal held
  | within f k =>
    simp only [lead, Position.trail, List.append_nil, List.take_append_drop] at start stop text
    obtain rfl : e = f := Edit.ext start stop text
    exact changed_of_mem normal (hasPosition_within.1 valid).1

variable {r : Range} {text : Text} (valid : d.HasRange r)
include valid

theorem lead_le_trail : (d.lead r.start).offset ≤ r.stop.trail.offset := by
  obtain ⟨start, stop⟩ := r
  have order := valid.2.2
  rw [Anchor.le_iff_not_lt] at order
  cases start with
  | base a =>
    have low := lead_base_le normal a
    cases stop with
    | base b =>
      have ordered : a ≤ b := by simpa using order
      exact Nat.le_trans low ordered
    | within g m =>
      have later : a < g.start := by simpa using order
      exact Nat.le_trans low (Nat.le_trans (Nat.le_of_lt later) g.start_le_stop)
  | within e k =>
    cases stop with
    | base b => simpa [lead, Position.trail] using order
    | within g m =>
      have size := g.start_le_stop
      rw [Position.anchor_within_lt_within] at order
      simp only [lead, Position.trail]
      omega

theorem exists_fills (blank : text.IsBlank) : ∃ e, d.Fills r text e := by
  have all : Text.IsBlank ((d.lead r.start).text ++ text ++ r.stop.trail.text) :=
    Text.isBlank_append.2 ⟨Text.isBlank_append.2 ⟨isBlank_lead _, blank⟩, isBlank_trail _⟩
  exact ⟨⟨_, _, _, lead_le_trail normal valid, all⟩, rfl, rfl, rfl⟩

theorem Fills.behind_or_within_or_ahead {e f : Edit} (fills : d.Fills r text e)
    (member : f ∈ d.pending.toList) :
    f.stop < e.start ∨ (e.start ≤ f.start ∧ f.stop ≤ e.stop) ∨ e.stop < f.start := by
  have lead := behind_or_ahead_lead normal valid.1 member
  have trail := behind_or_ahead_trail normal valid.2.1 member
  rw [← fills.start_eq] at lead
  rw [← fills.stop_eq] at trail
  omega

section Accepted

variable (clear : d.refusal? r text = none)
include clear

omit normal valid in
theorem isBlank_of_accepted : text.IsBlank := by
  by_contra dark
  simp [refusal?, dark] at clear

/-- An accepted submission leaves one edit in the place of all it reaches over. -/
theorem submit_of_accepted : ∃ e, d.Fills r text e ∧
    (d.submit r text).draft.pending.toList = d.changed e := by
  by_cases idle : r.start = r.stop ∧ text = []
  · obtain ⟨empty, rfl⟩ := idle
    obtain ⟨e, fills⟩ := exists_fills normal valid Text.isBlank_nil
    refine ⟨e, fills, ?_⟩
    obtain ⟨start, stop⟩ := r
    obtain rfl : start = stop := empty
    rw [submit_of_idle valid rfl, changed_of_nothing normal valid.1 fills]
  · obtain ⟨c, suits, _, pending, _⟩ := submit_of_clear valid normal clear idle
    exact ⟨c.edit, suits.fills, pending⟩

theorem exists_ok_of_accepted : ∃ answer, (d.submit r text).result = .ok answer := by
  by_cases idle : r.start = r.stop ∧ text = []
  · obtain ⟨empty, rfl⟩ := idle
    exact ⟨r, by rw [submit_of_idle valid empty]⟩
  · obtain ⟨c, _, result, _⟩ := submit_of_clear valid normal clear idle
    exact ⟨_, result⟩

end Accepted

end Normal

/-- Between the same margins a text is stored in the same edit, in whatever draft. -/
theorem Fills.unique {o : Draft} {r q : Range} {text : Text} {e f : Edit}
    (first : d.Fills r text e) (second : o.Fills q text f) (lead : o.lead q.start = d.lead r.start)
    (trail : q.stop.trail = r.stop.trail) : f = e := by
  obtain ⟨start, stop, whole⟩ := second
  rw [lead] at start whole
  rw [trail] at stop whole
  exact Edit.ext (start.trans first.start_eq.symm) (stop.trans first.stop_eq.symm)
    (whole.trans first.text_eq.symm)

theorem Suits.landing_eq {o : Draft} {r q : Range} {text : Text} {b c : Change}
    (first : d.Suits r text c) (second : o.Suits q text b)
    (lead : o.lead q.start = d.lead r.start) (trail : q.stop.trail = r.stop.trail)
    (length : Nat) : b.landing length = c.landing length := by
  have edit := first.fills.unique second.fills lead trail
  have shift : b.shift = c.shift := by
    rw [second.shift_eq, first.shift_eq, lead]
  simp only [Change.landing, edit, shift]

end Spacing.Draft
