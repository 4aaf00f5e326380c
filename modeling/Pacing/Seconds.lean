/-!
# Seconds

Times are counted in seconds from 1970-01-01T00:00:00Z in signed 64-bit words.
Sums and differences of times that leave the word stop at its nearer end.
-/

namespace Pacing.Seconds

/-- The time nearest to an integer. -/
def clamp (value : Int) : Int64 :=
  if value < Int64.minValue.toInt then Int64.minValue
  else if Int64.maxValue.toInt < value then Int64.maxValue
  else Int64.ofInt value

def add (left right : Int64) : Int64 :=
  clamp (left.toInt + right.toInt)

def sub (left right : Int64) : Int64 :=
  clamp (left.toInt - right.toInt)

/-- The length of the window behind an execution, as a time difference. -/
def window (threshold : UInt64) : Int64 :=
  clamp threshold.toNat

theorem toInt_clamp (value : Int) :
    (clamp value).toInt = max (-0x8000000000000000) (min value 0x7FFFFFFFFFFFFFFF) := by
  have least : Int64.minValue.toInt = -0x8000000000000000 := rfl
  have greatest : Int64.maxValue.toInt = 0x7FFFFFFFFFFFFFFF := rfl
  unfold clamp
  split
  · omega
  · split
    · omega
    · rw [Int64.toInt_ofInt_of_le (by omega) (by omega)]
      omega

theorem toInt_add (left right : Int64) :
    (add left right).toInt =
      max (-0x8000000000000000) (min (left.toInt + right.toInt) 0x7FFFFFFFFFFFFFFF) :=
  toInt_clamp _

theorem toInt_sub (left right : Int64) :
    (sub left right).toInt =
      max (-0x8000000000000000) (min (left.toInt - right.toInt) 0x7FFFFFFFFFFFFFFF) :=
  toInt_clamp _

theorem toInt_window (threshold : UInt64) :
    (window threshold).toInt = min threshold.toNat 0x7FFFFFFFFFFFFFFF := by
  rw [window, toInt_clamp]
  omega

end Pacing.Seconds
