import CommandBuffer.Text.Pieces

/-! # Paths

A path is kept as it is written, together with what it means: where it starts, the
components that it passes, and whether it ends in the name of its last component or
goes on to its inside. Empty and `.` components mean nothing elsewhere.
-/

namespace CommandBuffer.Storage

/-- What follows the last component. -/
inductive PathEnding where
  | name
  | slash
  | dot
  deriving DecidableEq, Repr

structure Path where
  /-- The path as it is shown. -/
  text : String
  isAbsolute : Bool
  /-- The path starts with a component `.`. -/
  isExplicit : Bool
  components : List String
  ending : PathEnding
  deriving DecidableEq, Repr

namespace Path

/-- The pieces between the separators. -/
def pieces (text : String) : List String :=
  (Text.splitOn '/' text.toList).map (String.ofList ·)

/-- The piece leads to no other place. -/
def isIdle (piece : String) : Bool := piece == "" || piece == "."

/-- What follows the last component, given the pieces in reverse. -/
def endingOf : List String → PathEnding
  | "" :: rest => if rest.find? (· != "") == some "." then .dot else .slash
  | "." :: _ => .dot
  | _ => .name

def ofText (text : String) : Path :=
  let pieces := pieces text
  { text
    isAbsolute := text != "" && pieces.head? == some ""
    isExplicit := pieces.head? == some "."
    components := pieces.filter (!isIdle ·)
    ending := endingOf pieces.reverse }

/-- The text of a path below a directory. -/
def joinText (directory text : String) : String :=
  if directory == "" || directory.endsWith "/" then directory ++ text
  else s!"{directory}/{text}"

/-- The path below a directory; an absolute path stays where it is. -/
def join (directory path : Path) : Path :=
  if path.isAbsolute then path
  else {
    text := joinText directory.text path.text
    isAbsolute := directory.isAbsolute
    isExplicit := directory.isExplicit || (directory.text == "" && path.isExplicit)
    components := directory.components ++ path.components
    ending := path.ending }

/-- The reversed pieces without the idle ones at the end, the first piece excepted. -/
def dropIdle : List String → List String
  | [] => []
  | [first] => [first]
  | piece :: rest => if isIdle piece then dropIdle rest else piece :: rest

/-- The text of the pieces, given in reverse. -/
def unsplit (reversed : List String) : String :=
  if reversed == [""] then "/" else "/".intercalate reversed.reverse

/-- The directory that the last component stands in. A path without components has none,
except that `.` stands in the empty path. -/
def parent? (path : Path) : Option Path :=
  match dropIdle (pieces path.text).reverse with
  | [] => none
  | last :: rest =>
    if path.components.isEmpty then
      if path.isExplicit then some (ofText "") else none
    else
      let text := if rest.isEmpty then "" else unsplit (dropIdle rest)
      some { path with
        text
        isExplicit := path.isExplicit && last != "."
        components := path.components.dropLast
        ending := .name }

/-- The directories that the path passes before its last component, outermost first. -/
def ancestors (path : Path) : List Path :=
  (List.range path.components.length).tail.map fun length =>
    let components := path.components.take length
    { text := (if path.isAbsolute then "/" else "") ++ "/".intercalate components
      isAbsolute := path.isAbsolute
      isExplicit := false
      components
      ending := .name }

/-! ## Limits -/

/-- A directory can hold an entry of this name. -/
def isName (name : String) : Bool := name.utf8ByteSize ≤ 255

/-- A store takes the text of the path; whether the components lead anywhere is left open. -/
def isAddress (path : Path) : Bool :=
  path.text.utf8ByteSize < 4096 && !path.text.toList.contains '\x00'

/-! ## Comparison -/

/-- The paths are the same component by component. -/
def isSame (a b : Path) : Bool :=
  a.isAbsolute == b.isAbsolute && a.isExplicit == b.isExplicit && a.components == b.components

end Path
end CommandBuffer.Storage
