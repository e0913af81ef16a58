/-!
# Base 64

The padded form with the standard alphabet, in which a user name and password travel in an HTTP request.
-/

namespace RouterPoll

namespace Text

private def alphabet : List Char :=
  "ABCDEFGHIJKLMNOPQRSTUVWXYZabcdefghijklmnopqrstuvwxyz0123456789+/".toList

private def sextet (value : Nat) : Char := alphabet.getD (value % 64) '='

def base64 : List UInt8 → List Char
  | [] => []
  | [a] =>
    let word := a.toNat * 65536
    [sextet (word / 262144), sextet (word / 4096), '=', '=']
  | [a, b] =>
    let word := a.toNat * 65536 + b.toNat * 256
    [sextet (word / 262144), sextet (word / 4096), sextet (word / 64), '=']
  | a :: b :: c :: rest =>
    let word := a.toNat * 65536 + b.toNat * 256 + c.toNat
    sextet (word / 262144) :: sextet (word / 4096) :: sextet (word / 64) :: sextet word
      :: base64 rest

end Text

end RouterPoll
