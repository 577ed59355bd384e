import Spacing.Draft.Offset
import Spacing.Draft.Submission

namespace Spacing

def Text.splice (text : Text) (start stop : Int) (inserted : Text) : Text :=
  text.take start.toNat ++ inserted ++ text.drop stop.toNat

/-- Edits that keep apart, lie in the base, change something, and replace blank characters only. -/
structure Normal (base : Text) (edits : List Edit) : Prop where
  apart : edits.Pairwise fun a b => a.stop < b.start
  inBase : ∀ e ∈ edits, e.stop ≤ base.length
  solid : ∀ e ∈ edits, e.isVoid = false
  blank : ∀ e ∈ edits, (base.slice e.start e.stop).IsBlank

namespace Draft

inductive Reachable (base : Text) (config : Config) : Draft → Prop
  | start : Reachable base config (ofBase base config)
  | step {d : Draft} (before : Reachable base config d) (s : Selection) (text : Text) :
      Reachable base config (d.submit s text).draft

structure Submitted where
  selection : Selection
  text : Text

def after (d : Draft) (submissions : List Submitted) : Draft :=
  submissions.foldl (fun d s => (d.submit s.selection s.text).draft) d

theorem submit_base (d : Draft) (s : Selection) (text : Text) :
    (d.submit s text).draft.base = d.base := rfl

theorem submit_config (d : Draft) (s : Selection) (text : Text) :
    (d.submit s text).draft.config = d.config := rfl

theorem Reachable.base_eq {base : Text} {config : Config} {d : Draft}
    (reached : Reachable base config d) : d.base = base := by
  induction reached with
  | start => rfl
  | step _ s text ih => exact ih

theorem Reachable.config_eq {base : Text} {config : Config} {d : Draft}
    (reached : Reachable base config d) : d.config = config := by
  induction reached with
  | start => rfl
  | step _ s text ih => exact ih

theorem Reachable.after {base : Text} {config : Config} {d : Draft}
    (reached : Reachable base config d) (submissions : List Submitted) :
    Reachable base config (d.after submissions) := by
  induction submissions generalizing d with
  | nil => exact reached
  | cons s rest ih => exact ih (reached.step s.selection s.text)

end Draft
end Spacing
