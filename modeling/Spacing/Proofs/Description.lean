import Spacing.Draft.Render

/-! A description loses nothing of what it shows. Every part of it says itself where it ends, so what
is written behind a part never changes how it reads: an escape ends with its letter or its fourth
digit, a quoted text at the first quote that no backslash is bound to, a number at its comma. Below
the space no character stands in a description. -/
namespace Spacing

/-! ## Writing that ends itself -/

/-- What has been written can be told, and what follows it, from both together. -/
def SelfDelimiting {α γ : Type} (write : α → List γ) : Prop :=
  ∀ ⦃a b : α⦄ ⦃rest rest' : List γ⦄, write a ++ rest = write b ++ rest' → a = b ∧ rest = rest'

def NeverBegins {α γ : Type} (write : α → List γ) (stop : γ) : Prop :=
  ∀ ⦃a : α⦄ ⦃rest tail : List γ⦄, write a ++ rest ≠ stop :: tail

namespace SelfDelimiting

variable {α γ : Type} {write : α → List γ}

theorem injective (ends : SelfDelimiting write) {a b : α} (same : write a = write b) : a = b :=
  (ends (congrArg (· ++ []) same)).1

theorem behind (ends : SelfDelimiting write) (lead : List γ) :
    SelfDelimiting fun a => lead ++ write a := by
  intro a b rest rest' same
  simp only [List.append_assoc] at same
  exact ends (List.append_cancel_left same)

theorem row (ends : SelfDelimiting write) {stop : γ} (never : NeverBegins write stop) :
    SelfDelimiting fun items : List α => items.flatMap write ++ [stop] := by
  intro items items'
  induction items generalizing items' with
  | nil =>
    intro rest rest' same
    cases items' with
    | nil => exact ⟨rfl, by simpa using same⟩
    | cons b bs =>
      simp only [List.flatMap_nil, List.flatMap_cons, List.append_assoc, List.nil_append,
        List.singleton_append] at same
      exact (never same.symm).elim
  | cons a as ih =>
    intro rest rest' same
    cases items' with
    | nil =>
      simp only [List.flatMap_nil, List.flatMap_cons, List.append_assoc, List.nil_append,
        List.singleton_append] at same
      exact (never same).elim
    | cons b bs =>
      simp only [List.flatMap_cons, List.append_assoc] at same
      obtain ⟨rfl, behind⟩ := ends same
      rw [← List.append_assoc, ← List.append_assoc (bs.flatMap write)] at behind
      obtain ⟨rfl, rests⟩ := ih behind
      exact ⟨rfl, rests⟩

theorem eq_of_map_eq_append {δ : Type} {f : γ → δ} (inj : Function.Injective f)
    (ends : SelfDelimiting write) {a b : α} {more : List δ}
    (same : (write a).map f = (write b).map f ++ more) : a = b ∧ more = [] := by
  obtain ⟨first, second, split, front, rfl⟩ := List.map_eq_append_iff.1 same
  obtain rfl := (List.map_inj_right fun _ _ => @inj _ _).1 front
  obtain ⟨rfl, rests⟩ := @ends a b [] second (by simpa using split)
  exact ⟨rfl, by rw [← rests, List.map_nil]⟩

/-- In a wider alphabet what is written still ends itself, though more may follow it there. -/
theorem map {δ : Type} {f : γ → δ} (inj : Function.Injective f) (ends : SelfDelimiting write) :
    SelfDelimiting fun a => (write a).map f := by
  intro a b rest rest' same
  -- One of the two forms leads the other, and neither can be the longer one.
  rcases List.append_eq_append_iff.1 same with ⟨more, longer, rfl⟩ | ⟨more, longer, rfl⟩
  · obtain ⟨rfl, rfl⟩ := ends.eq_of_map_eq_append inj longer
    exact ⟨rfl, rfl⟩
  · obtain ⟨rfl, rfl⟩ := ends.eq_of_map_eq_append inj longer
    exact ⟨rfl, rfl⟩

end SelfDelimiting

namespace Text

/-! ## Numbers -/

theorem isDigit_of_mem_ofNat {n : Nat} {c : Char} (member : c ∈ ofNat n) : c.isDigit = true :=
  Nat.isDigit_of_mem_toDigits (by decide) (by decide) member

theorem ofNat_injective {m n : Nat} (same : ofNat m = ofNat n) : m = n := by
  have read (k : Nat) : Nat.ofDigitChars 10 (ofNat k) 0 = k :=
    Nat.ofDigitChars_toDigits (by decide) (by decide)
  rw [← read m, same, read]

theorem ofNat_append_inj {m n : Nat} {stop : Char} {rest rest' : Text}
    (other : stop.isDigit = false) (same : ofNat m ++ stop :: rest = ofNat n ++ stop :: rest') :
    m = n ∧ rest = rest' := by
  have digits (k : Nat) (tail : Text) :
      (ofNat k ++ stop :: tail).takeWhile Char.isDigit = ofNat k := by
    rw [List.takeWhile_append_of_pos fun c => isDigit_of_mem_ofNat]
    simp [other]
  have number : m = n := ofNat_injective (by rw [← digits m rest, same, digits])
  subst number
  exact ⟨rfl, (List.cons.inj (List.append_cancel_left same)).2⟩

theorem digitChar_injective {m n : Nat} (hm : m < 16) (hn : n < 16)
    (same : Nat.digitChar m = Nat.digitChar n) : m = n := by
  have table : ∀ i j : Fin 16, Nat.digitChar i = Nat.digitChar j → i = j := by decide
  exact congrArg Fin.val (table ⟨m, hm⟩ ⟨n, hn⟩ same)

@[simp] theorem length_hexadecimal (width n : Nat) : (hexadecimal width n).length = width := by
  simp [hexadecimal]

theorem hexadecimal_succ (width n : Nat) :
    hexadecimal (width + 1) n =
      Nat.digitChar ((n >>> (4 * width)) % 16) :: hexadecimal width n := by
  simp only [hexadecimal, List.range_succ_eq_map, List.map_cons, List.map_map, Nat.sub_zero,
    Nat.add_sub_cancel]
  congr 1
  refine List.map_congr_left fun place _ => ?_
  simp only [Function.comp_apply, Nat.succ_eq_add_one]
  rw [Nat.sub_add_eq, Nat.sub_right_comm]

theorem eq_of_hexadecimal {width m n : Nat} (above : m >>> (4 * width) = n >>> (4 * width))
    (same : hexadecimal width m = hexadecimal width n) : m = n := by
  induction width with
  | zero => exact above
  | succ width ih =>
    rw [hexadecimal_succ, hexadecimal_succ, List.cons.injEq] at same
    have digit := digitChar_injective (Nat.mod_lt _ (by decide)) (Nat.mod_lt _ (by decide)) same.1
    rw [Nat.mul_succ, Nat.shiftRight_add, Nat.shiftRight_add, Nat.shiftRight_eq_div_pow _ 4,
      Nat.shiftRight_eq_div_pow _ 4] at above
    exact ih (by omega) same.2

/-! ## Visible forms -/

def shortEscapes : List (Char × Char) :=
  [('\t', 't'), ('\r', 'r'), ('\x08', 'b'), ('\n', 'n'), ('\x27', '\x27'), ('\"', '\"'),
    ('\\', '\\')]

inductive Shown (c : Char) : Prop
  | short (letter : Char) (known : (c, letter) ∈ shortEscapes)
      (form : visibleChar c = ['\\', letter])
  | long (control : c < ' ') (form : visibleChar c = '\\' :: 'u' :: hexadecimal 4 c.toNat)
  | itself (high : ' ' ≤ c) (quote : c ≠ '\x27') (backslash : c ≠ '\\')
      (form : visibleChar c = [c])

theorem shown (c : Char) : Shown c := by
  by_cases known : c = '\t' ∨ c = '\r' ∨ c = '\x08' ∨ c = '\n' ∨ c = '\x27' ∨ c = '\"' ∨ c = '\\'
  · rcases known with rfl | rfl | rfl | rfl | rfl | rfl | rfl
    all_goals exact .short _ (by decide) rfl
  · simp only [not_or] at known
    obtain ⟨tab, feed, back, line, quote, double, backslash⟩ := known
    by_cases control : c < ' '
    · refine .long control ?_
      simp only [visibleChar, if_neg, if_pos, *, not_false_eq_true]
    · refine .itself (Char.not_lt.1 control) quote backslash ?_
      simp only [visibleChar, if_neg, *, not_false_eq_true]

theorem letter_injective {c c' letter : Char} (known : (c, letter) ∈ shortEscapes)
    (known' : (c', letter) ∈ shortEscapes) : c = c' := by
  have table : ∀ p ∈ shortEscapes, ∀ q ∈ shortEscapes, p.2 = q.2 → p.1 = q.1 := by decide
  exact table _ known _ known' rfl

theorem letter_ne {c letter : Char} (known : (c, letter) ∈ shortEscapes) : letter ≠ 'u' := by
  have table : ∀ p ∈ shortEscapes, p.2 ≠ 'u' := by decide
  exact table _ known

theorem control_injective {c c' : Char} (control : c < ' ') (control' : c' < ' ')
    (same : hexadecimal 4 c.toNat = hexadecimal 4 c'.toNat) : c = c' := by
  have low : c.toNat < 32 := control
  have low' : c'.toNat < 32 := control'
  have above {k : Nat} (low : k < 32) : k >>> (4 * 4) = 0 := by
    rw [Nat.shiftRight_eq_div_pow]
    omega
  exact Char.toNat_inj.1 (eq_of_hexadecimal ((above low).trans (above low').symm) same)

theorem selfDelimiting_visibleChar : SelfDelimiting visibleChar := by
  intro c c' rest rest' same
  cases shown c with
  | short letter known form =>
    cases shown c' with
    | short letter' known' form' =>
      simp only [form, form', List.cons_append, List.nil_append, List.cons.injEq, true_and] at same
      obtain ⟨rfl, same⟩ := same
      exact ⟨letter_injective known known', same⟩
    | long _ form' =>
      simp only [form, form', List.cons_append, List.cons.injEq, true_and] at same
      exact (letter_ne known same.1).elim
    | itself _ _ backslash' form' =>
      simp only [form, form', List.cons_append, List.cons.injEq] at same
      exact (backslash' same.1.symm).elim
  | long control form =>
    cases shown c' with
    | short letter' known' form' =>
      simp only [form, form', List.cons_append, List.cons.injEq, true_and] at same
      exact (letter_ne known' same.1.symm).elim
    | long control' form' =>
      simp only [form, form', List.cons_append, List.cons.injEq, true_and] at same
      obtain ⟨digits, same⟩ := List.append_inj same (by simp)
      exact ⟨control_injective control control' digits, same⟩
    | itself _ _ backslash' form' =>
      simp only [form, form', List.cons_append, List.cons.injEq] at same
      exact (backslash' same.1.symm).elim
  | itself _ _ backslash form =>
    cases shown c' with
    | short letter' known' form' =>
      simp only [form, form', List.cons_append, List.cons.injEq] at same
      exact (backslash same.1).elim
    | long _ form' =>
      simp only [form, form', List.cons_append, List.cons.injEq] at same
      exact (backslash same.1).elim
    | itself _ _ _ form' =>
      simpa only [form, form', List.cons_append, List.nil_append, List.cons.injEq] using same

theorem neverBegins_visibleChar : NeverBegins visibleChar '\x27' := by
  intro c rest tail same
  cases shown c with
  | short _ _ form =>
    rw [form] at same
    exact absurd (List.cons.inj same).1 (by decide)
  | long _ form =>
    rw [form] at same
    exact absurd (List.cons.inj same).1 (by decide)
  | itself _ quote _ form =>
    rw [form] at same
    exact quote (List.cons.inj same).1

theorem selfDelimiting_visibleQuoted : SelfDelimiting visibleQuoted :=
  (selfDelimiting_visibleChar.row neverBegins_visibleChar).behind ['\x27']

example : Text.visibleQuoted ['\\', 't'] ≠ Text.visibleQuoted ['\t'] := by decide

theorem visibleChar_ne_nil (c : Char) : visibleChar c ≠ [] := by
  cases shown c with
  | short _ _ form | long _ form | itself _ _ _ form => simp [form]

end Text

theorem CodePoint.char_injective : Function.Injective CodePoint.char := fun _ _ => char.inj

theorem Text.wide_inj {text text' : Text} : text.wide = text'.wide ↔ text = text' :=
  List.map_inj_right fun _ _ => CodePoint.char.inj

theorem CodePoint.selfDelimiting_visible : SelfDelimiting CodePoint.visible := by
  intro p p' rest rest' same
  cases p with
  | char c =>
    cases p' with
    | char c' =>
      obtain ⟨rfl, rests⟩ := Text.selfDelimiting_visibleChar.map char_injective same
      exact ⟨rfl, rests⟩
    | surrogate place =>
      obtain ⟨first, others, form⟩ := List.exists_cons_of_ne_nil (Text.visibleChar_ne_nil c)
      simp [visible, Text.wide, form] at same
  | surrogate place =>
    cases p' with
    | char c' =>
      obtain ⟨first, others, form⟩ := List.exists_cons_of_ne_nil (Text.visibleChar_ne_nil c')
      simp [visible, Text.wide, form] at same
    | surrogate place' =>
      simpa [visible] using same

theorem CodePoint.neverBegins_visible : NeverBegins CodePoint.visible (.char '\x27') := by
  intro p rest tail same
  cases p with
  | char c =>
    obtain ⟨first, others, form⟩ := List.exists_cons_of_ne_nil (Text.visibleChar_ne_nil c)
    simp only [visible, Text.wide, form, List.map_cons, List.cons_append, List.cons.injEq,
      char.injEq] at same
    have quoted : Text.visibleChar c ++ [] = '\x27' :: others := by
      rw [form, same.1, List.append_nil]
    exact Text.neverBegins_visibleChar quoted
  | surrogate place => simp [visible] at same

theorem WideText.selfDelimiting_visibleQuoted : SelfDelimiting WideText.visibleQuoted :=
  (CodePoint.selfDelimiting_visible.row CodePoint.neverBegins_visible).behind [.char '\x27']

/-! ## Edits and lists of them -/

theorem Edit.selfDelimiting_describe : SelfDelimiting Edit.describe := by
  intro e f rest rest' same
  have comma : ", ".toList = [',', ' '] := rfl
  unfold describe at same
  generalize "TextEdit(".toList = lead at same
  simp only [comma, List.append_assoc, List.cons_append, List.nil_append] at same
  obtain ⟨starts, same⟩ := Text.ofNat_append_inj (by decide) (List.append_cancel_left same)
  obtain ⟨stops, same⟩ := Text.ofNat_append_inj (by decide) (List.cons.inj same).2
  obtain ⟨texts, same⟩ := Text.selfDelimiting_visibleQuoted (List.cons.inj same).2
  exact ⟨Edit.ext starts stops texts, (List.cons.inj same).2⟩

theorem Text.intercalate_cons (separator item : Text) (items : List Text) :
    separator.intercalate (item :: items) = item ++ items.flatMap (separator ++ ·) := by
  induction items generalizing item with
  | nil => simp
  | cons next rest ih =>
    rw [List.intercalate_cons_cons, ih, List.flatMap_cons]
    simp only [List.append_assoc]

theorem SelfDelimiting.bracketed {α : Type} {write : α → Text} (ends : SelfDelimiting write)
    (never : NeverBegins write ']') :
    SelfDelimiting fun items : List α => Text.bracketed (items.map write) := by
  have separated : NeverBegins (fun a => [',', ' '] ++ write a) ']' := fun a rest tail same =>
    absurd (List.cons.inj same).1 (by decide)
  have further := (ends.behind [',', ' ']).row separated
  have body (a : α) (as : List α) (tail : Text) : Text.bracketed ((a :: as).map write) ++ tail =
      '[' :: (write a ++ ((as.flatMap fun b => [',', ' '] ++ write b) ++ [']'] ++ tail)) := by
    rw [Text.bracketed, List.map_cons, Text.intercalate_cons, List.flatMap_map]
    simp
  intro items items' rest rest' same
  cases items with
  | nil =>
    cases items' with
    | nil => exact ⟨rfl, by simpa [Text.bracketed] using same⟩
    | cons b bs =>
      rw [body] at same
      exact (never (List.cons.inj same).2.symm).elim
  | cons a as =>
    cases items' with
    | nil =>
      rw [body] at same
      exact (never (List.cons.inj same).2).elim
    | cons b bs =>
      rw [body, body] at same
      obtain ⟨rfl, others⟩ := ends (List.cons.inj same).2
      obtain ⟨rfl, rests⟩ := further others
      exact ⟨rfl, rests⟩

theorem Edit.neverBegins_describe : NeverBegins Edit.describe ']' := by
  intro e rest tail same
  exact absurd (List.cons.inj same).1 (by decide)

theorem Patch.selfDelimiting_describeEdits : SelfDelimiting Patch.describeEdits :=
  Edit.selfDelimiting_describe.bracketed Edit.neverBegins_describe

theorem Patch.toList_eq_of_describe {p q : Patch} (same : p.describe = q.describe) :
    p.toList = q.toList := by
  unfold describe at same
  generalize "ChangeSet(".toList = lead at same
  simp only [List.append_assoc] at same
  exact (selfDelimiting_describeEdits (List.append_cancel_left same)).1

theorem Draft.describeOver_eq_iff {base base' : WideText} {pending pending' : Patch} :
    describeOver base pending = describeOver base' pending' ↔
      base = base' ∧ pending.toList = pending'.toList := by
  constructor
  · intro same
    unfold describeOver at same
    generalize Text.wide "TextWithChanges(".toList = lead at same
    generalize Text.wide ", changes=".toList = middle at same
    simp only [List.append_assoc] at same
    obtain ⟨bases, same⟩ := WideText.selfDelimiting_visibleQuoted (List.append_cancel_left same)
    have lists := Patch.selfDelimiting_describeEdits.map CodePoint.char_injective
      (List.append_cancel_left same)
    exact ⟨bases, lists.1⟩
  · rintro ⟨rfl, edits⟩
    unfold describeOver
    rw [edits]

/-! ## Nothing below the space -/

namespace Text

def Legible (text : Text) : Prop := ∀ c ∈ text, ' ' ≤ c

instance (text : Text) : Decidable text.Legible :=
  List.decidableBAll (fun c => ' ' ≤ c) text

@[simp] theorem legible_nil : Legible [] := by simp [Legible]

@[simp] theorem legible_cons {c : Char} {text : Text} :
    Legible (c :: text) ↔ ' ' ≤ c ∧ text.Legible := by
  simp [Legible]

@[simp] theorem legible_append {a b : Text} : Legible (a ++ b) ↔ a.Legible ∧ b.Legible := by
  simp [Legible, or_imp, forall_and]

theorem legible_ofNat (n : Nat) : (ofNat n).Legible := by
  intro c member
  have digit := isDigit_of_mem_ofNat member
  simp only [Char.isDigit, Bool.and_eq_true, decide_eq_true_eq] at digit
  exact Nat.le_trans (by decide : (32 : Nat) ≤ 48) digit.1

theorem legible_hexadecimal (width n : Nat) : (hexadecimal width n).Legible := by
  have table : ∀ i : Fin 16, ' ' ≤ Nat.digitChar i := by decide
  intro c member
  obtain ⟨place, _, rfl⟩ := List.mem_map.1 member
  exact table ⟨_, Nat.mod_lt _ (by decide)⟩

theorem legible_visibleChar (c : Char) : (visibleChar c).Legible := by
  cases shown c with
  | short letter known form =>
    have table : ∀ p ∈ shortEscapes, ' ' ≤ p.2 := by decide
    rw [form, legible_cons, legible_cons]
    exact ⟨by decide, table _ known, legible_nil⟩
  | long _ form =>
    rw [form, legible_cons, legible_cons]
    exact ⟨by decide, by decide, legible_hexadecimal 4 _⟩
  | itself high _ _ form =>
    rw [form, legible_cons]
    exact ⟨high, legible_nil⟩

theorem legible_visibleQuoted (text : Text) : text.visibleQuoted.Legible := by
  have inside : text.visible.Legible := by
    intro c member
    obtain ⟨source, _, written⟩ := List.mem_flatMap.1 member
    exact legible_visibleChar source c written
  rw [visibleQuoted, List.cons_append, legible_cons, legible_append]
  exact ⟨by decide, inside, by decide⟩

theorem legible_bracketed {items : List Text} (each : ∀ item ∈ items, item.Legible) :
    (bracketed items).Legible := by
  have inside : Legible ([',', ' '].intercalate items) := by
    cases items with
    | nil => simp
    | cons item rest =>
      rw [intercalate_cons, legible_append]
      refine ⟨each item (List.mem_cons_self ..), fun c member => ?_⟩
      obtain ⟨next, later, written⟩ := List.mem_flatMap.1 member
      have whole : Legible ([',', ' '] ++ next) :=
        legible_append.2 ⟨by decide, each next (List.mem_cons_of_mem _ later)⟩
      exact whole c written
  rw [bracketed, List.cons_append, legible_cons, legible_append]
  exact ⟨by decide, inside, by decide⟩

end Text

theorem Edit.legible_describe (e : Edit) : e.describe.Legible := by
  unfold describe
  simp only [Text.legible_append, Text.legible_ofNat, Text.legible_visibleQuoted]
  decide

theorem Patch.legible_describeEdits (edits : List Edit) : (describeEdits edits).Legible := by
  refine Text.legible_bracketed fun item member => ?_
  obtain ⟨e, _, rfl⟩ := List.mem_map.1 member
  exact e.legible_describe

theorem Patch.legible_describe (p : Patch) : p.describe.Legible := by
  unfold describe
  simp only [Text.legible_append, legible_describeEdits]
  decide

def WideText.Legible (text : WideText) : Prop := ∀ p ∈ text, 0x20 ≤ p.toNat

theorem WideText.legible_append {a b : WideText} :
    Legible (a ++ b) ↔ a.Legible ∧ b.Legible := by
  simp [Legible, or_imp, forall_and]

theorem Text.legible_wide {text : Text} : text.wide.Legible ↔ text.Legible :=
  List.forall_mem_map

theorem WideText.legible_visibleQuoted (text : WideText) : text.visibleQuoted.Legible := by
  have inside : Legible (text.flatMap CodePoint.visible) := by
    intro p member
    obtain ⟨source, _, written⟩ := List.mem_flatMap.1 member
    cases source with
    | char c => exact Text.legible_wide.2 (Text.legible_visibleChar c) p written
    | surrogate place =>
      obtain rfl := List.mem_singleton.1 written
      exact Nat.le_trans (by decide) (Nat.le_add_right 0xD800 place)
  have quote : Legible [.char '\x27'] := Text.legible_wide.2 (by decide : Text.Legible ['\x27'])
  exact legible_append.2 ⟨legible_append.2 ⟨quote, inside⟩, quote⟩

theorem Draft.legible_describeOver (base : WideText) (pending : Patch) :
    (describeOver base pending).Legible := by
  unfold describeOver
  simp only [WideText.legible_append, WideText.legible_visibleQuoted, Text.legible_wide,
    Patch.legible_describeEdits, and_true]
  exact ⟨by decide, Text.legible_wide.2 (by decide : Text.Legible [')'])⟩

/-- Descriptions are equal for equal contents alone, whatever code points the base text holds, and no
control stands in one. -/
theorem Draft.description_loses_nothing :
    (∀ (base base' : WideText) (pending pending' : Patch),
      describeOver base pending = describeOver base' pending' ↔
        base = base' ∧ pending.toList = pending'.toList) ∧
    (∀ d d' : Draft, d.describe = d'.describe ↔
      d.base = d'.base ∧ d.pending.toList = d'.pending.toList) ∧
    (∀ p q : Patch, p.describe = q.describe ↔ p.toList = q.toList) ∧
    (∀ e f : Edit, e.describe = f.describe ↔ e = f) ∧
    (∀ (base : WideText) (pending : Patch),
      ∀ p ∈ describeOver base pending, ¬ p.toNat < 0x20) ∧
    (∀ p : Patch, ∀ c ∈ p.describe, ¬ c < ' ') ∧
    ∀ e : Edit, ∀ c ∈ e.describe, ¬ c < ' ' := by
  refine ⟨fun _ _ _ _ => describeOver_eq_iff, fun d d' => ?_,
    fun p q => ⟨Patch.toList_eq_of_describe, fun edits => ?_⟩,
    fun e f => ⟨fun same => Edit.selfDelimiting_describe.injective same, congrArg _⟩,
    fun base pending p member => Nat.not_lt.2 (legible_describeOver base pending p member),
    fun p c member => Char.not_lt.2 (p.legible_describe c member),
    fun e c member => Char.not_lt.2 (e.legible_describe c member)⟩
  · rw [describe, describe, describeOver_eq_iff, Text.wide_inj]
  · unfold Patch.describe
    rw [edits]

end Spacing
