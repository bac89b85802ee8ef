namespace Camouflage.Json

def controlEscape (c : Char) : List Char :=
  let digits := Nat.toDigits 16 c.toNat
  '\\' :: 'u' :: List.replicate (4 - digits.length) '0' ++ digits

def escape (c : Char) : List Char :=
  if c = '"' ∨ c = '\\' then ['\\', c] else if c < ' ' then controlEscape c else [c]

def writeString (text : List Char) : List Char := '"' :: text.flatMap escape ++ ['"']

end Camouflage.Json
