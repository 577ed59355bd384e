import Spacing.Value.Basic

namespace Spacing

namespace Key

def ofText (name : Text) : Key := .scalar (.str name.wide)

theorem isText_iff {key : Key} {name : Text} : key.isText name = true ↔ key = ofText name := by
  cases key with
  | tuple items => simp [isText, ofText]
  | scalar value => cases value <;> simp [isText, ofText]

theorem same_ofText {key : Key} {name : Text} :
    key.same (ofText name) = true ↔ key = ofText name := by
  cases key with
  | tuple items => simp [same, ofText]
  | scalar value => cases value <;> simp [same, ofText, Scalar.same, Scalar.integer?]

theorem ofText_same {key : Key} {name : Text} :
    (ofText name).same key = true ↔ ofText name = key := by
  cases key with
  | tuple items => simp [same, ofText]
  | scalar value => cases value <;> simp [same, ofText, Scalar.same, Scalar.integer?]

variable {α : Type}

def Apart (entries : List (Key × α)) : Prop :=
  (entries.map Prod.fst).Pairwise fun a b => a.same b = false

theorem apart_nil : Apart ([] : List (Key × α)) := List.Pairwise.nil

theorem apart_append {entries : List (Key × α)} (apart : Apart entries) {key : Key}
    (absent : ¬ (entries.any fun entry => entry.1.same key) = true) (value : α) :
    Apart (entries ++ [(key, value)]) := by
  rw [Apart, List.map_append]
  refine List.pairwise_append.2 ⟨apart, List.pairwise_singleton .., fun a before b last => ?_⟩
  obtain ⟨entry, member, rfl⟩ := List.mem_map.1 before
  rw [List.mem_singleton.1 last]
  exact Bool.eq_false_iff.2 fun same => absent (List.any_eq_true.2 ⟨entry, member, same⟩)

theorem apart_put {entries : List (Key × α)} (apart : Apart entries) (key : Key) (value : α) :
    Apart (put entries key value) := by
  unfold put
  split
  · have keys : (entries.map fun entry =>
        if entry.1.same key then (entry.1, value) else entry).map Prod.fst =
        entries.map Prod.fst := by
      rw [List.map_map]
      refine List.map_congr_left fun entry _ => ?_
      simp only [Function.comp_apply]
      split <;> rfl
    rwa [Apart, keys]
  · next absent => exact apart_append apart absent value

theorem apart_putAll {entries : List (Key × α)} (apart : Apart entries) (more : List (Key × α)) :
    Apart (putAll entries more) := by
  induction more generalizing entries with
  | nil => exact apart
  | cons entry rest ih => exact ih (apart_put apart entry.1 entry.2)

end Key

namespace Value

open Key

variable {name : Text}

theorem field?_eq_none_iff {entries : List (Key × Value)} :
    field? entries name = none ↔ ∀ entry ∈ entries, entry.1.isText name = false := by
  simp [field?, List.find?_eq_none]

theorem field?_cons (entry : Key × Value) (rest : List (Key × Value)) :
    field? (entry :: rest) name =
      if entry.1.isText name then some entry.2 else field? rest name := by
  cases found : entry.1.isText name with
  | true => simp [field?, found]
  | false => simp [field?, found]

theorem field?_append (entries more : List (Key × Value)) :
    field? (entries ++ more) name = (field? entries name).or (field? more name) := by
  simp [field?, List.find?_append, Option.map_or]

theorem field?_overwritten (entries : List (Key × Value)) (key : Key) (value : Value) :
    field? (entries.map fun entry => if entry.1.same key then (entry.1, value) else entry) name =
      if key.isText name then (field? entries name).map fun _ => value else field? entries name := by
  induction entries with
  | nil => simp [field?]
  | cons entry rest ih =>
    rw [List.map_cons, field?_cons, field?_cons, ih]
    by_cases here : entry.1.isText name = true
    · obtain first := isText_iff.1 here
      by_cases own : key.isText name = true
      · have same : entry.1.same key = true := by
          rw [isText_iff.1 own, first, same_ofText]
        simp [here, own, same]
      · have other : entry.1.same key = false := by
          refine Bool.eq_false_iff.2 fun same => own (isText_iff.2 ?_)
          rw [first, ofText_same] at same
          exact same.symm
        simp [here, own, other]
    · have kept : (if entry.1.same key then (entry.1, value) else entry).1 = entry.1 := by
        split <;> rfl
      rw [kept]
      simp only [here, Bool.false_eq_true, if_false]

theorem field?_put (entries : List (Key × Value)) (key : Key) (value : Value) :
    field? (put entries key value) name =
      if key.isText name then some value else field? entries name := by
  unfold put
  split
  · next present =>
    rw [field?_overwritten]
    by_cases own : key.isText name = true
    · obtain ⟨entry, member, same⟩ := List.any_eq_true.1 present
      rw [isText_iff.1 own, same_ofText] at same
      have held : field? entries name ≠ none := fun none =>
        absurd (isText_iff.2 same) (by simp [field?_eq_none_iff.1 none entry member])
      obtain ⟨old, found⟩ := Option.ne_none_iff_exists'.1 held
      simp [own, found]
    · simp [own]
  · next absent =>
    rw [field?_append, field?_cons]
    by_cases own : key.isText name = true
    · have missing : field? entries name = none := by
        refine field?_eq_none_iff.2 fun entry member => Bool.eq_false_iff.2 fun here => absent ?_
        refine List.any_eq_true.2 ⟨entry, member, ?_⟩
        rw [isText_iff.1 own, same_ofText, isText_iff.1 here]
      simp [own, missing]
    · simp [own, field?]

/-- What is given overrides what is there, and what is not given stays. -/
theorem field?_putAll {more : List (Key × Value)} (apart : Apart more)
    (entries : List (Key × Value)) :
    field? (putAll entries more) name = (field? more name).or (field? entries name) := by
  induction more generalizing entries with
  | nil => simp [putAll, field?]
  | cons entry rest ih =>
    obtain ⟨first, apart⟩ := List.pairwise_cons.1 apart
    have step : putAll entries (entry :: rest) = putAll (put entries entry.1 entry.2) rest := rfl
    rw [step, ih apart, field?_put, field?_cons]
    by_cases own : entry.1.isText name = true
    · have missing : field? rest name = none := by
        refine field?_eq_none_iff.2 fun later member => Bool.eq_false_iff.2 fun again => ?_
        have other := first later.1 (List.mem_map_of_mem member)
        rw [isText_iff.1 own, isText_iff.1 again, same_ofText.2 rfl] at other
        cases other
      simp [own, missing]
    · simp [own]

end Value
end Spacing
