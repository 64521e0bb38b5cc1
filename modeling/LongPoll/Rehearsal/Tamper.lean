import LongPoll.Bytes

set_option autoImplicit false

/-!
Changes to a body on its way: bits are flipped first, then the body is cut, then bytes are added.
-/

namespace LongPoll.Rehearsal

structure Tamper where
  /-- Masks by position. -/
  flips : List (Nat × UInt8) := []
  keep : Option Nat := none
  append : Bytes := []
deriving DecidableEq

def Tamper.apply (tamper : Tamper) (body : Bytes) : Bytes :=
  let flipped := tamper.flips.foldl
    (fun bytes flip => bytes.modify flip.1 (· ^^^ flip.2)) body
  let cut := match tamper.keep with
    | some count => flipped.take count
    | none => flipped
  cut ++ tamper.append

end LongPoll.Rehearsal
