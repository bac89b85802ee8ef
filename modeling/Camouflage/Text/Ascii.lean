namespace Camouflage.Text

def sameIgnoringCase (s t : List Char) : Bool := s.map Char.toLower == t.map Char.toLower

end Camouflage.Text
