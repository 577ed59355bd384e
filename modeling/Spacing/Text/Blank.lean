import Spacing.Text.Basic

/-! Blank characters are the ones an edit may write or replace. They are the Unicode white space
characters together with the four information separators U+001C to U+001F. -/
namespace Spacing

def blankRanges : List (Nat × Nat) :=
  [(0x09, 0x0D), (0x1C, 0x20), (0x85, 0x85), (0xA0, 0xA0), (0x1680, 0x1680), (0x2000, 0x200A),
    (0x2028, 0x2029), (0x202F, 0x202F), (0x205F, 0x205F), (0x3000, 0x3000)]

def isBlank (c : Char) : Bool :=
  blankRanges.any fun range => range.1 ≤ c.toNat && c.toNat ≤ range.2

/-- Only the line feed ends a line, whatever stands before it. -/
def isLineBreak (c : Char) : Bool := c == '\n'

def Text.IsBlank (text : Text) : Prop := ∀ c ∈ text, isBlank c = true

instance (text : Text) : Decidable text.IsBlank :=
  List.decidableBAll (fun c => isBlank c = true) text

theorem isBlank_of_isLineBreak {c : Char} (line_break : isLineBreak c = true) :
    isBlank c = true := by
  have feed : c = '\n' := by simpa [isLineBreak] using line_break
  subst feed
  decide

namespace Text

@[simp] theorem isBlank_nil : IsBlank [] := by simp [IsBlank]

@[simp] theorem isBlank_append {a b : Text} : IsBlank (a ++ b) ↔ IsBlank a ∧ IsBlank b := by
  simp [IsBlank, or_imp, forall_and]

theorem IsBlank.take {text : Text} (blank : text.IsBlank) (n : Nat) : IsBlank (text.take n) :=
  fun c member => blank c (List.mem_of_mem_take member)

theorem IsBlank.drop {text : Text} (blank : text.IsBlank) (n : Nat) : IsBlank (text.drop n) :=
  fun c member => blank c (List.mem_of_mem_drop member)

theorem IsBlank.slice {text : Text} (blank : text.IsBlank) (start stop : Nat) :
    IsBlank (text.slice start stop) :=
  IsBlank.take (blank.drop start) _

end Text
end Spacing
