import Spacing.Proofs.Mapping
import Spacing.Yaml.Document

namespace Spacing

def Value.entries? : Value → Option (List (Key × Value))
  | .map entries | .ordered entries => some entries
  | _ => none

def Value.KeysApart (v : Value) : Prop :=
  ∀ entries, v.entries? = some entries → Key.Apart entries

theorem Value.keysApart_of_entries?_eq_none {v : Value} (other : v.entries? = none) :
    v.KeysApart := by
  intro entries shape
  rw [other] at shape
  cases shape

namespace Yaml

def Holding.KeysApart : Holding → Prop
  | .map entries | .ordered entries => Key.Apart entries
  | .list _ | .set _ => True

def Assembly.KeysApart (a : Assembly) : Prop := ∀ n, (a.holding n).KeysApart

theorem Assembly.KeysApart.hold {a : Assembly} (apart : a.KeysApart) (n : Nat) {h : Holding}
    (fits : h.KeysApart) : (a.hold n h).KeysApart := by
  intro m
  have other := apart m
  simp only [holding, Assembly.hold, Array.getD_eq_getD_getElem?, Array.getElem?_setIfInBounds]
    at other ⊢
  split
  · split
    · exact fits
    · trivial
  · exact other

theorem Holding.keysApart_of_empty? {kind : Kind} {h : Holding} (empty : empty? kind = some h) :
    h.KeysApart := by
  unfold empty? at empty
  split at empty <;> cases empty <;> simp [KeysApart, Key.Apart]

namespace Assembling

/-! ## What a run keeps -/

/-- A run that ends keeps the mappings in order, and its answer is as it should be. -/
def Keeps {α : Type} (answer : α → Prop) (run : Assembling α) : Prop :=
  ∀ a x b, run a = .ok (x, b) → a.KeysApart → answer x ∧ b.KeysApart

variable {α β : Type} {answer : α → Prop} {answer' : β → Prop}

theorem Keeps.weaken {run : Assembling α} (keeps : Keeps answer run) {weaker : α → Prop}
    (implied : ∀ x, answer x → weaker x) : Keeps weaker run :=
  fun a x b ran apart => (keeps a x b ran apart).imp_left (implied x)

theorem keeps_pure {x : α} (holds : answer x) : Keeps answer (pure x) := by
  intro a y b ran apart
  cases ran
  exact ⟨holds, apart⟩

theorem keeps_throw (fault : Fault) : Keeps (fun _ => False) (throw fault : Assembling α) := by
  intro a x b ran
  cases ran

theorem keeps_get : Keeps Assembly.KeysApart (get : Assembling Assembly) := by
  intro a x b ran apart
  cases ran
  exact ⟨apart, apart⟩

theorem keeps_set {a : Assembly} (apart : a.KeysApart) :
    Keeps (fun _ => True) (set a : Assembling PUnit) := by
  intro _ x b ran _
  cases ran
  exact ⟨trivial, apart⟩

theorem keeps_hold (n : Nat) {h : Holding} (fits : h.KeysApart) :
    Keeps (fun _ => True) (modify fun a => a.hold n h : Assembling PUnit) := by
  intro a x b ran apart
  cases ran
  exact ⟨trivial, apart.hold n fits⟩

theorem keeps_lift (m : Except Fault α) : Keeps (fun _ => True) (liftM m : Assembling α) := by
  intro a x b ran apart
  cases m with
  | error fault => cases ran
  | ok y =>
    cases ran
    exact ⟨trivial, apart⟩

theorem Keeps.bind {run : Assembling α} (first : Keeps answer run) {next : α → Assembling β}
    (second : ∀ x, answer x → Keeps answer' (next x)) : Keeps answer' (run >>= next) := by
  intro a y c ran apart
  simp only [Bind.bind, StateT.bind] at ran
  cases step : run a with
  | error fault =>
    rw [step] at ran
    cases ran
  | ok reached =>
    obtain ⟨x, b⟩ := reached
    rw [step] at ran
    obtain ⟨holds, kept⟩ := first a x b step apart
    exact second x holds b y c ran kept

theorem keeps_foldlM {step : β → α → Assembling β} (items : List α)
    (each : ∀ done item, answer' done → Keeps answer' (step done item)) {start : β}
    (holds : answer' start) : Keeps answer' (items.foldlM step start) := by
  induction items generalizing start with
  | nil => exact keeps_pure holds
  | cons item rest ih =>
    rw [List.foldlM_cons]
    exact (each start item holds).bind fun done kept => ih kept

theorem keeps_mapM {step : α → Assembling β} (items : List α)
    (each : ∀ item, Keeps (fun _ => True) (step item)) :
    Keeps (fun _ => True) (items.mapM step) := by
  induction items with
  | nil =>
    rw [List.mapM_nil]
    exact keeps_pure trivial
  | cons item rest ih =>
    rw [List.mapM_cons]
    exact (each item).bind fun _ _ => ih.bind fun _ _ => keeps_pure trivial

theorem keeps_forM {step : α → Assembling PUnit} (items : List α)
    (each : ∀ item, Keeps (fun _ => True) (step item)) :
    Keeps (fun _ => True) (items.forM step) := by
  induction items with
  | nil => exact keeps_pure trivial
  | cons item rest ih => exact (each item).bind fun _ _ => ih

/-! ## Filling collections -/

def Safe (make : Make) : Prop := ∀ atOnce n, Keeps (fun _ => True) (make atOnce n)

variable {make : Make} (safe : Safe make)
include safe

theorem keeps_addEntry (atOnce distinct : Bool) {done : List (Key × Item)}
    (apart : Key.Apart done) (entry : Nat × Nat) :
    Keeps Key.Apart (addEntry make atOnce distinct done entry) := by
  unfold addEntry
  refine (safe _ _).bind fun item _ => keeps_get.bind fun before _ => ?_
  refine (keeps_lift _).bind fun _ _ => (safe _ _).bind fun value _ => ?_
  refine (keeps_lift _).bind fun key _ => ?_
  have put := keeps_pure (Key.apart_put apart key value)
  split
  · split
    · exact keeps_get.bind fun a _ => (keeps_throw _).bind fun _ none => none.elim
    · exact put
  · exact put

theorem keeps_entries (atOnce : Bool) (n : Nat) :
    Keeps Key.Apart (entries make atOnce n) := by
  have gather (distinct : Bool) (chosen : List (Nat × Nat)) :
      Keeps Key.Apart
        (chosen.foldlM (addEntry make atOnce distinct) []) :=
    keeps_foldlM chosen (fun done entry apart => keeps_addEntry safe atOnce distinct apart entry)
      Key.apart_nil
  unfold entries
  refine keeps_get.bind fun a apart => (keeps_lift _).bind fun _ _ => ?_
  refine (keeps_lift _).bind fun graph _ => (keeps_set ?_).bind fun _ _ => ?_
  · exact apart
  dsimp only
  split
  · exact gather _ _
  · refine (gather _ _).bind fun first apart => (gather _ _).bind fun all _ => ?_
    exact keeps_pure (Key.apart_putAll apart all)

omit safe in
theorem keeps_single (m : Nat) : Keeps (fun _ => True) (single m) := by
  unfold single
  refine keeps_get.bind fun a _ => ?_
  split
  · exact keeps_pure trivial
  · exact (keeps_throw _).weaken fun _ none => none.elim

theorem keeps_addOrdered (atOnce : Bool) (n : Nat) {done : List (Key × Item)}
    (apart : Key.Apart done) (m : Nat) :
    Keeps Key.Apart (addOrdered make atOnce n done m) := by
  unfold addOrdered
  refine (keeps_single m).bind fun entry _ => (safe _ _).bind fun item _ => ?_
  refine keeps_get.bind fun a _ => (keeps_lift _).bind fun key _ => ?_
  dsimp only
  split
  · exact (keeps_throw _).bind fun _ none => none.elim
  · next absent =>
    refine (safe _ _).bind fun value _ => ?_
    have longer := Key.apart_append apart absent value
    refine (keeps_hold n ?_).bind fun _ _ => keeps_pure longer
    exact longer

theorem keeps_addPair (atOnce : Bool) (n : Nat) (done : List Item) (m : Nat) :
    Keeps (fun _ => True) (addPair make atOnce n done m) := by
  unfold addPair
  refine (keeps_single m).bind fun entry _ => (safe _ _).bind fun first _ => ?_
  refine (safe _ _).bind fun second _ => (keeps_hold n ?_).bind fun _ _ => keeps_pure trivial
  trivial

theorem keeps_fill (atOnce : Bool) (n : Nat) : Keeps (fun _ => True) (fill make atOnce n) := by
  unfold fill
  refine keeps_get.bind fun a _ => ?_
  dsimp only
  split
  case h_1 items _ _ =>
    exact (keeps_mapM items (safe atOnce)).bind fun items _ => keeps_hold n trivial
  case h_2 items _ _ =>
    exact (keeps_foldlM items (fun done m apart => keeps_addOrdered safe atOnce n apart m)
      Key.apart_nil).bind fun _ _ => keeps_pure trivial
  case h_3 items _ _ =>
    exact (keeps_foldlM items (fun done m _ => keeps_addPair safe atOnce n done m)
      trivial).bind fun _ _ => keeps_pure trivial
  case h_4 => exact (keeps_entries safe atOnce n).bind fun entries apart => keeps_hold n apart
  case h_5 => exact (keeps_entries safe atOnce n).bind fun entries apart => keeps_hold n trivial
  case h_6 => exact (keeps_throw _).weaken fun _ none => none.elim

omit safe in
theorem safe_make (fuel : Nat) : Safe (Assembling.make fuel) := by
  induction fuel with
  | zero => exact fun atOnce n => (keeps_throw _).weaken fun _ none => none.elim
  | succ fuel ih =>
    intro atOnce n
    unfold Assembling.make
    refine keeps_get.bind fun a apart => ?_
    split
    · exact keeps_pure trivial
    · split
      · next holding empty =>
        have begun := apart.hold n (Holding.keysApart_of_empty? empty)
        dsimp only
        split
        · refine (keeps_set ?_).bind fun _ _ => (keeps_fill ih true n).bind fun _ _ => keeps_pure trivial
          exact begun
        · refine (keeps_set ?_).bind fun _ _ => keeps_pure trivial
          exact begun
      · refine (keeps_lift _).bind fun _ _ => (keeps_set ?_).bind fun _ _ => keeps_pure trivial
        exact apart

theorem keeps_complete (fuel : Nat) : Keeps (fun _ => True) (complete make fuel) := by
  induction fuel with
  | zero => exact keeps_pure trivial
  | succ fuel ih =>
    unfold complete
    refine keeps_get.bind fun a apart => ?_
    split
    · exact keeps_pure trivial
    · refine (keeps_set ?_).bind fun _ _ => ?_
      · exact apart
      · exact (keeps_forM _ (keeps_fill safe false)).bind fun _ _ => ih

end Assembling

/-! ## From collections to values -/

namespace Assembly

theorem keys_unfoldEach (a : Assembly) (entries : List (Key × Item)) :
    (a.unfoldEach entries).map Prod.fst = entries.map Prod.fst := by
  unfold unfoldEach
  generalize Array.replicate a.items.size none = done
  induction entries generalizing done with
  | nil => rfl
  | cons entry rest ih =>
    simp only [List.mapM_cons, StateT.run_bind, StateT.run_pure, List.map_cons] at ih ⊢
    exact congrArg _ (ih _)

theorem join_getElem?_replicate {α : Type} (size n : Nat) :
    ((Array.replicate size (none : Option α))[n]?).join = none := by
  rw [Array.getElem?_replicate]
  split <;> rfl

theorem entries?_value_list {a : Assembly} {n : Nat} {items : List Item}
    (held : a.holding n = .list items) : (a.value (.collection n)).entries? = none := by
  have run {α β : Type} (x : Id α) (next : α → Id β) : (x >>= next) = next x := rfl
  simp only [value, unfold, held, join_getElem?_replicate, List.contains_nil, Bool.false_eq_true,
    if_false, pure_bind, StateT.run_bind, StateT.run_get]
  simp only [run]
  split <;> rfl

theorem entries?_value_set {a : Assembly} {n : Nat} {keys : List Key}
    (held : a.holding n = .set keys) : (a.value (.collection n)).entries? = none := by
  simp [value, unfold, held, join_getElem?_replicate, Value.entries?]

theorem KeysApart.unfoldEach {a : Assembly} {entries : List (Key × Item)}
    (apart : Key.Apart entries) : Key.Apart (a.unfoldEach entries) := by
  rwa [Key.Apart, keys_unfoldEach]

theorem KeysApart.document {a : Assembly} (apart : a.KeysApart) (item : Item) :
    (a.document item).KeysApart := by
  cases item with
  | scalar value => exact Value.keysApart_of_entries?_eq_none rfl
  | pair first second => exact Value.keysApart_of_entries?_eq_none rfl
  | collection n =>
    have held := apart n
    unfold Assembly.document
    cases shape : a.holding n with
    | list items =>
      simp only [shape]
      exact Value.keysApart_of_entries?_eq_none (entries?_value_list shape)
    | set keys =>
      simp only [shape]
      exact Value.keysApart_of_entries?_eq_none (entries?_value_set shape)
    | map entries =>
      simp only [shape]
      rw [shape] at held
      rintro _ ⟨⟩
      exact KeysApart.unfoldEach held
    | ordered entries =>
      simp only [shape]
      rw [shape] at held
      rintro _ ⟨⟩
      exact KeysApart.unfoldEach held

end Assembly

theorem exists_of_bind {α β : Type} {m : Except Fault α} {next : α → Except Fault β} {y : β}
    (ran : m >>= next = .ok y) : ∃ x, m = .ok x ∧ next x = .ok y := by
  cases m with
  | error fault => cases ran
  | ok x => exact ⟨x, rfl, ran⟩

theorem Graph.keysApart_value {g : Graph} {root : Nat} {v : Value} (built : g.value root = .ok v) :
    v.KeysApart := by
  have safe := Assembling.safe_make (g.size + 1)
  have keeps := (safe false root).bind fun item _ =>
    (Assembling.keeps_complete safe (g.size + 1)).bind fun _ _ =>
      (Assembling.keeps_pure trivial : Assembling.Keeps (fun _ => True) (pure item))
  have start : (Assembly.ofGraph g).KeysApart := fun n => by
    simp only [Assembly.ofGraph, Assembly.holding, Array.getD_eq_getD_getElem?,
      Array.getElem?_replicate]
    split <;> trivial
  unfold Graph.value at built
  obtain ⟨⟨item, a⟩, ran, done⟩ := exists_of_bind built
  cases done
  exact (keeps _ _ _ ran start).2.document item

/-- No mapping that is read has a key twice. -/
theorem keysApart_of_read {source : Text} {v : Value} (loaded : read source = .ok v) :
    v.KeysApart := by
  unfold read at loaded
  obtain ⟨_, _, loaded⟩ := exists_of_bind loaded
  obtain ⟨⟨root, graph⟩, _, loaded⟩ := exists_of_bind loaded
  exact Graph.keysApart_value loaded

end Yaml
end Spacing
