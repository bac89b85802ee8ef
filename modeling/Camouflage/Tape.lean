import Camouflage.Bytes

/-!
The random bytes that are not drawn yet. A draw takes the next bytes, or nothing.
-/

namespace Camouflage

abbrev Tape := Bytes

namespace Tape

def draw? (n : Nat) (tape : Tape) : Option (Vector UInt8 n × Tape) := Bytes.vector? n tape

variable {n : Nat} {tape rest : Tape} {drawn : Vector UInt8 n}

theorem eq_append_of_draw? (h : tape.draw? n = some (drawn, rest)) :
    tape = drawn.toList ++ rest :=
  Bytes.eq_append_of_vector? h

theorem draw?_eq_none_iff : tape.draw? n = none ↔ tape.length < n := Bytes.vector?_eq_none_iff

end Tape

end Camouflage
