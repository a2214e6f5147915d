/-!
# Unicode white space

The characters with the `White_Space` property, trimming by them, and the collapse of their runs.
`Char.isWhitespace` of the core library knows six of them only.
-/

set_option autoImplicit false

namespace AppScaffold.Text

/-- The twenty-five characters with the Unicode property `White_Space`. -/
def isSpace (c : Char) : Bool :=
  let n := c.toNat
  (9 ≤ n && n ≤ 13) || n == 32 || n == 0x85 || n == 0xA0 || n == 0x1680 ||
    (0x2000 ≤ n && n ≤ 0x200A) || n == 0x2028 || n == 0x2029 || n == 0x202F || n == 0x205F ||
    n == 0x3000

def trimStart (cs : List Char) : List Char := cs.dropWhile isSpace

def trimEnd (cs : List Char) : List Char := (cs.reverse.dropWhile isSpace).reverse

def trim (cs : List Char) : List Char := trimEnd (trimStart cs)

def isBlank (s : String) : Bool := s.toList.all isSpace

def trimmed (s : String) : String := String.ofList (trim s.toList)

/-- Each maximal run of white space becomes one `mark`; `inside` says that a run is open. -/
def collapseFrom (mark : Char) : Bool → List Char → List Char
  | _, [] => []
  | inside, c :: cs =>
    if isSpace c then
      if inside then collapseFrom mark true cs else mark :: collapseFrom mark true cs
    else c :: collapseFrom mark false cs

def collapse (mark : Char) (cs : List Char) : List Char := collapseFrom mark false cs

end AppScaffold.Text
