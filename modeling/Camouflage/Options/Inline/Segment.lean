import Camouflage.Options.Inline

/-!
The grammar of inline options: characters are taken literally or mark something, bare semicolons
separate segments, and the first bare equals sign of a segment separates its key from its value.
-/

namespace Camouflage.Options

inductive Mark
  | literal (c : Char)
  | semicolon
  | equals
  deriving DecidableEq, Repr

namespace Mark

def char : Mark → Char
  | .literal c => c
  | .semicolon => ';'
  | .equals => '='

def ofBare (c : Char) : Mark :=
  if c = ';' then .semicolon else if c = '=' then .equals else .literal c

/-- The marks of a text, and whether a lone backslash ends it. -/
def ofText : List Char → List Mark × Bool
  | [] => ([], false)
  | c :: rest =>
    if c = '\\' then
      match rest with
      | [] => ([], true)
      | d :: rest =>
        let (marks, isLone) := ofText rest
        (.literal d :: marks, isLone)
    else
      let (marks, isLone) := ofText rest
      (ofBare c :: marks, isLone)

end Mark

/-- The text between two bare semicolons: what stands before the first bare equals sign, and what
stands behind it. -/
structure Segment where
  key : List Char
  value : Option (List Char)
  deriving DecidableEq, Repr

namespace Segment

def ofMarks (marks : List Mark) : Segment where
  key := (marks.takeWhile (· ≠ .equals)).map Mark.char
  value :=
    match marks.dropWhile (· ≠ .equals) with
    | [] => none
    | _ :: value => some (value.map Mark.char)

def pair? (segment : Segment) : Except SplitFault (Option Pair) :=
  let name := Text.trim segment.key
  match segment.value with
  | none => if name = [] then .ok none else .error (.missingEquals segment.key)
  | some value => if name = [] then .error .missingKey else .ok (some ⟨name, value⟩)

/-- The pairs of segments, or the fault of the first bad one. The last one is bad whenever a lone
backslash ends it. -/
def pairs (isLone : Bool) : List Segment → Except SplitFault (List Pair)
  | [] => .ok []
  | [last] => if isLone then .error .loneBackslash else last.pair?.map Option.toList
  | segment :: segments =>
    match segment.pair? with
    | .error fault => .error fault
    | .ok pair => (pairs isLone segments).map (pair.toList ++ ·)

end Segment

def segments (text : List Char) : List Segment :=
  ((Mark.ofText text).1.splitOn .semicolon).map Segment.ofMarks

end Camouflage.Options
