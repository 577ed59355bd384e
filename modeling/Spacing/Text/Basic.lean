/-! Text is a sequence of code points, so lengths and offsets count code points. Surrogates are none
of its characters; where a text may hold some, it is a wide one.
Numbers are written in decimal without padding, or in a fixed number of hexadecimal digits. -/
namespace Spacing

abbrev Text := List Char

/-- How many decimal digits an integer that is read or written may have. -/
def maxDigits : Nat := 4300

namespace Text

def slice (text : Text) (start stop : Nat) : Text := (text.drop start).take (stop - start)

def ofNat (n : Nat) : Text := Nat.toDigits 10 n

def ofInt : Int → Text
  | .ofNat n => ofNat n
  | .negSucc n => '-' :: ofNat (n + 1)

def isWritable (n : Int) : Bool := n.natAbs < Nat.pow 10 maxDigits

def unwritableMessage : Text :=
  "Exceeds the limit (".toList ++ ofNat maxDigits ++
    " digits) for integer string conversion; ".toList ++
    "use sys.set_int_max_str_digits() to increase the limit".toList

def telling (integers : List Int) (words : Text) : Text :=
  if integers.all isWritable then words else unwritableMessage

def hexadecimal (width n : Nat) : Text :=
  (List.range width).map fun place => Nat.digitChar ((n >>> (4 * (width - 1 - place))) % 16)

def bracketed (items : List Text) : Text := '[' :: [',', ' '].intercalate items ++ [']']

theorem length_slice (text : Text) (start stop : Nat) :
    (text.slice start stop).length = min (stop - start) (text.length - start) := by
  simp [slice]

theorem slice_self (text : Text) : text.slice 0 text.length = text := by
  simp [slice]

theorem slice_of_le (text : Text) {start stop : Nat} (crossed : stop ≤ start) :
    text.slice start stop = [] := by
  simp [slice, Nat.sub_eq_zero_of_le crossed]

end Text
end Spacing
