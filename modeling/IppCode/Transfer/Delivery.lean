import IppCode.Transfer.Error

/-!
# Deliveries

What comes out of a reader: pieces of the input, one after the other, and then either the end
or an error. Reading to the end puts the pieces together. An error wins over all that was
delivered before it, so of a delivery only the bytes and the error count, never the cuts.
-/

namespace IppCode

/-- The pieces that a reader gives, in order, and the error it ends with, if any. Pieces may be
empty, and may end anywhere, within a character as well. -/
structure Delivery where
  /-- The pieces, in the order in which they come. -/
  pieces : List ByteArray
  /-- The error behind the pieces, if the input does not simply end there. -/
  error? : Option TransferError

namespace Delivery

/-- The pieces put together. -/
def join : List ByteArray → ByteArray
  | [] => ByteArray.empty
  | piece :: pieces => piece ++ join pieces

/-- All bytes of the input, or the error that the reader ends with. There is no result made of a
part of the input. -/
def readToEnd (delivery : Delivery) : Except TransferError ByteArray :=
  match delivery.error? with
  | some error => .error error
  | none => .ok (join delivery.pieces)

end Delivery

end IppCode
