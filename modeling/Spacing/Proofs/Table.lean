import Mathlib.Data.Finmap
import Mathlib.Data.Finset.Sort
import Spacing.Proofs.Columns

/-! A patch is a finite table from starts to edits. Its updates are refused where those of the table
are, for the same reason, and do the same otherwise, so patch and table keep step over every run of
updates, and so do the columns of the patch. The list of the patch is the table in the order of the
starts. -/
namespace Spacing

abbrev Table := Finmap fun _ : Nat => Edit

/-- A start is bound once, and only an edit equal to the one bound is given up. -/
def Table.update (t : Table) : Update → Except Patch.Fault Table
  | .insert e =>
    match t.lookup e.start with
    | some existing => .error (.occupied existing)
    | none => .ok (t.insert e.start e)
  | .erase e => if t.lookup e.start = some e then .ok (t.erase e.start) else .error (.absent e)

namespace Update

/-- What is left after updates made one after the other. A refused update leaves things as they
are. -/
def run {σ : Type} (step : σ → Update → Except Patch.Fault σ) (start : σ) (updates : List Update) :
    σ :=
  updates.foldl (fun s u => match step s u with
    | .ok next => next
    | .error _ => s) start

theorem run_map {σ τ : Type} {step : σ → Update → Except Patch.Fault σ}
    {image : τ → Update → Except Patch.Fault τ} {f : σ → τ}
    (commutes : ∀ s u, (step s u).map f = image (f s) u) (s : σ) (updates : List Update) :
    f (run step s updates) = run image (f s) updates := by
  induction updates generalizing s with
  | nil => rfl
  | cons u rest ih =>
    have first := commutes s u
    rw [run, run, List.foldl_cons, List.foldl_cons, ← first]
    cases step s u with
    | ok next => exact ih next
    | error fault => exact ih s

end Update

def Patch.after (p : Patch) (updates : List Update) : Patch := Update.run Patch.update p updates

def Table.after (t : Table) (updates : List Update) : Table := Update.run Table.update t updates

namespace Patch

def table (p : Patch) : Table := (p.toList.map fun e => (⟨e.start, e⟩ : (_ : Nat) × Edit)).toFinmap

theorem nodup_starts (p : Patch) : (p.toList.map Edit.start).Nodup := by
  rw [List.Nodup, List.pairwise_map]
  exact p.ascending.imp Nat.ne_of_lt

theorem lookup_table (p : Patch) (start : Nat) : p.table.lookup start = p.at? start := by
  have unique : (p.toList.map fun e => (⟨e.start, e⟩ : (_ : Nat) × Edit)).NodupKeys := by
    rw [List.NodupKeys, List.keys, List.map_map]
    exact p.nodup_starts
  apply Option.ext
  intro e
  rw [table, Finmap.dlookup_list_toFinmap, ← Option.mem_def, List.mem_dlookup_iff unique,
    at?_eq_some_iff, Int.natCast_inj, List.mem_map]
  constructor
  · rintro ⟨f, member, same⟩
    obtain ⟨rfl, rfl⟩ := Sigma.mk.inj same
    exact ⟨member, rfl⟩
  · rintro ⟨member, rfl⟩
    exact ⟨e, member, rfl⟩

theorem table_insert {p q : Patch} {e : Edit}
    (members : ∀ f, f ∈ q.toList ↔ f = e ∨ f ∈ p.toList) (free : p.at? e.start = none) :
    q.table = p.table.insert e.start e := by
  apply Finmap.ext_lookup
  intro start
  rw [lookup_table]
  by_cases here : start = e.start
  · rw [here, Finmap.lookup_insert, at?_eq_some_iff, members]
    exact ⟨Or.inl rfl, rfl⟩
  · rw [Finmap.lookup_insert_of_ne _ here, lookup_table]
    apply Option.ext
    intro f
    rw [at?_eq_some_iff, at?_eq_some_iff, members, and_congr_left_iff]
    intro bound
    refine or_iff_right ?_
    rintro rfl
    omega

theorem table_erase {p q : Patch} {e : Edit}
    (members : ∀ f, f ∈ q.toList ↔ f ∈ p.toList ∧ f ≠ e) (held : e ∈ p.toList) :
    q.table = p.table.erase e.start := by
  apply Finmap.ext_lookup
  intro start
  rw [lookup_table]
  by_cases here : start = e.start
  · rw [here, Finmap.lookup_erase, at?_eq_none_iff]
    intro f member same
    obtain ⟨present, other⟩ := (members f).1 member
    exact other (eq_of_start_eq present held (by omega))
  · rw [Finmap.lookup_erase_ne here, lookup_table]
    apply Option.ext
    intro f
    rw [at?_eq_some_iff, at?_eq_some_iff, members, and_congr_left_iff]
    intro bound
    refine and_iff_left_of_imp fun _ => ?_
    rintro rfl
    omega

theorem table_update (p : Patch) (u : Update) :
    (p.update u).map Patch.table = p.table.update u := by
  cases u with
  | insert e =>
    rw [update, Table.update, lookup_table]
    cases taken : p.at? e.start with
    | some f => rw [insert_eq_error taken]; rfl
    | none =>
      have free : ∀ f ∈ p.toList, f.start ≠ e.start := fun f member same =>
        at?_eq_none_iff.1 taken f member (congrArg Int.ofNat same)
      obtain ⟨q, made, members⟩ := insert_eq_ok free
      rw [made, ← table_insert members taken]
      rfl
  | erase e =>
    rw [update, Table.update, lookup_table]
    by_cases held : p.at? e.start = some e
    · obtain ⟨q, given, members⟩ := erase_eq_ok (at?_eq_some_iff.1 held).1
      rw [if_pos held, given, ← table_erase members (at?_eq_some_iff.1 held).1]
      rfl
    · rw [if_neg held, erase_eq_error held]
      rfl

theorem table_empty : empty.table = ∅ := Finmap.toFinmap_nil

theorem table_after (updates : List Update) :
    (empty.after updates).table = Table.after ∅ updates := by
  rw [← table_empty]
  exact Update.run_map table_update empty updates

theorem columns_empty : empty.columns = Columns.empty := by
  simp [columns, empty, Columns.empty]

theorem columns_after (updates : List Update) :
    Columns.empty.after updates = (empty.after updates).columns := by
  -- The empty columns alone are no hypothesis a step preserves, those of any patch are.
  have steps : ∀ p : Patch, p.columns.after updates = (p.after updates).columns := by
    induction updates with
    | nil => exact fun p => rfl
    | cons u rest ih =>
      intro p
      have first := columns_update p u
      rw [Columns.after, List.foldl_cons, ← Columns.after, first, after, Update.run,
        List.foldl_cons]
      cases p.update u with
      | ok q => exact ih q
      | error fault => exact ih p
  rw [← steps empty, columns_empty]

theorem keys_table (p : Patch) : p.table.keys = (p.toList.map Edit.start).toFinset := by
  ext start
  rw [Finmap.mem_keys, Finmap.mem_iff, List.mem_toFinset, List.mem_map]
  refine exists_congr fun e => ?_
  rw [lookup_table, at?_eq_some_iff, Int.natCast_inj]

theorem filterMap_sort {r : Nat → Nat → Prop} [DecidableRel r] [IsTrans Nat r] [Std.Antisymm r]
    [Std.Total r] {p : Patch} {es : List Edit} (perm : es.Perm p.toList)
    (sorted : (es.map Edit.start).Pairwise r) :
    (p.table.keys.sort r).filterMap p.table.lookup = es := by
  have starts := perm.map Edit.start
  have keys : p.table.keys = (es.map Edit.start).toFinset := by
    rw [keys_table]
    exact (List.toFinset_eq_of_perm _ _ starts).symm
  have unique : (es.map Edit.start).Nodup := starts.nodup_iff.2 p.nodup_starts
  rw [keys, (List.toFinset_sort r unique).2 sorted, List.filterMap_map]
  have found : ∀ e ∈ es, (p.table.lookup ∘ Edit.start) e = some e := by
    intro e member
    rw [Function.comp_apply, lookup_table, at?_eq_some_iff]
    exact ⟨perm.mem_iff.1 member, rfl⟩
  rw [List.filterMap_congr found, List.filterMap_some]

/-- All that a patch lets be seen, read off a table. -/
structure Shows (p : Patch) (t : Table) : Prop where
  insert_error_iff : ∀ e fault, p.insert e = .error fault ↔
    ∃ existing, t.lookup e.start = some existing ∧ fault = .occupied existing
  erase_error_iff : ∀ e fault, p.erase e = .error fault ↔
    t.lookup e.start ≠ some e ∧ fault = .absent e
  toList_eq : p.toList = (t.keys.sort (· ≤ ·)).filterMap t.lookup
  reverse_eq : p.toList.reverse = (t.keys.sort (· ≥ ·)).filterMap t.lookup
  size_eq : p.size = t.keys.card
  contains_eq_true_iff : ∀ e, p.contains e = true ↔ t.lookup e.start = some e

theorem shows_table (p : Patch) : p.Shows p.table := by
  have ascending : (p.toList.map Edit.start).Pairwise (· < ·) := List.pairwise_map.2 p.ascending
  refine ⟨fun e fault => ?_, fun e fault => ?_, ?_, ?_, ?_, fun e => ?_⟩
  · rw [lookup_table]
    cases taken : p.at? e.start with
    | some f => simp [insert_eq_error taken, eq_comm]
    | none =>
      obtain ⟨q, made, _⟩ := columns_insert_of_none taken
      simp [made]
  · rw [lookup_table]
    by_cases held : p.at? e.start = some e
    · obtain ⟨q, given, _⟩ := erase_eq_ok (at?_eq_some_iff.1 held).1
      simp [held, given]
    · rw [erase_eq_error held, Except.error.injEq]
      exact ⟨fun same => ⟨held, same.symm⟩, fun both => both.2.symm⟩
  · exact (filterMap_sort (List.Perm.refl _) (ascending.imp Nat.le_of_lt)).symm
  · refine (filterMap_sort (List.reverse_perm _) ?_).symm
    rw [List.map_reverse, List.pairwise_reverse]
    exact ascending.imp Nat.le_of_lt
  · rw [keys_table, List.toFinset_card_of_nodup p.nodup_starts, List.length_map]
    rfl
  · rw [lookup_table, contains, beq_iff_eq]

/-- Over every run of updates a patch is a finite table. Its two columns, changed one by one, stay
level: they hold its edits and their starts in ascending order, they are refused what the patch is
refused, and then they are left as they were. -/
theorem updates_refine_table (updates : List Update) :
    let p := empty.after updates
    let c := Columns.empty.after updates
    p.Shows (Table.after ∅ updates) ∧
      (∀ u, c.update u = match p.update u with
        | .ok q => (.ok (), q.columns)
        | .error fault => (.error (.refused fault), c)) ∧
      c.edits.toList = p.toList ∧ c.starts.toList = c.edits.toList.map Edit.start ∧
      c.starts.toList.Pairwise (· < ·) := by
  intro p c
  have level : c = p.columns := columns_after updates
  refine ⟨?_, fun u => ?_, ?_, ?_, ?_⟩
  · rw [← table_after]
    exact shows_table p
  · rw [level]
    exact columns_update p u
  · rw [level]
    rfl
  · rw [level]
    exact starts_columns p
  · rw [level, starts_columns]
    exact List.pairwise_map.2 p.ascending

end Patch
end Spacing
