import ChangeReview.Number.Numeral

/-!
# Limits

The limits of a bounded review as they are typed: seconds, and a number of bytes.
-/

namespace ChangeReview.Closeout

/-- Why a text gives no limit. -/
inductive LimitFault where
  | unreadable
  | notFinitePositive
  | notPositive
deriving DecidableEq

/-- The wording of a fault; a text that is no number has none of its own. -/
def LimitFault.message : LimitFault → Text
  | .unreadable => []
  | .notFinitePositive => "must be finite and greater than zero"
  | .notPositive => "must be greater than zero"

namespace Limit

/-- A time limit in seconds. -/
def seconds (t : Text) : Except LimitFault Binary64 :=
  match Numeral.double? t with
  | none => .error .unreadable
  | some value => if value.isFinite && value.isPositive then .ok value else .error .notFinitePositive

/-- A limit on the number of bytes. -/
def bytes (t : Text) : Except LimitFault Nat :=
  match Numeral.integer? t with
  | none => .error .unreadable
  | some value => if 0 < value then .ok value.toNat else .error .notPositive

end Limit

end ChangeReview.Closeout
