import Scaffold.Text.Utf8

/-! Paths: names of places in a file tree, as they are written.

A path is a sequence of bytes, mostly the UTF-8 bytes of a text, in which `/` separates segments.
It keeps exactly how it was written: joining and taking the parent change nothing else in it, and
nothing is normalised. Two readings are defined. For resolution every segment between slashes is a
`Component`. For naming, empty segments and segments `.` after the first one do not count:
`a//b/./` has the file name `b` and the parent `a`. -/

set_option autoImplicit false

namespace Scaffold

/-- The name of an entry in a directory, in bytes. -/
abbrev Name := List UInt8

structure Path where
  bytes : List UInt8
deriving DecidableEq, Inhabited

namespace Path

def slash : UInt8 := 0x2F

def currentSegment : Name := [0x2E]

def parentSegment : Name := [0x2E, 0x2E]

def ofString (text : String) : Path := ⟨Text.encode text⟩

def display (path : Path) : String := Text.decodeLossy path.bytes

def isAbsolute (path : Path) : Bool := path.bytes.head? = some slash

def isEmpty (path : Path) : Bool := path.bytes.isEmpty

def hasNul (path : Path) : Bool := path.bytes.contains 0

/-- `right` seen from `base`: an absolute `right` replaces `base`; otherwise one slash goes between
them, unless `base` is empty or has it already. -/
def join (base right : Path) : Path :=
  if right.isAbsolute then right
  else if base.bytes.getLast?.all (· == slash) then ⟨base.bytes ++ right.bytes⟩
  else ⟨base.bytes ++ slash :: right.bytes⟩

/-! ### Segments -/

def splitSegments : List UInt8 → List Name
  | [] => [[]]
  | byte :: rest =>
      if byte = slash then [] :: splitSegments rest
      else match splitSegments rest with
        | [] => [[byte]]
        | segment :: segments => (byte :: segment) :: segments

def segments (path : Path) : List Name := splitSegments path.bytes

def ofSegments (first : Name) (further : List Name) : Path :=
  ⟨further.foldl (fun bytes segment => bytes ++ slash :: segment) first⟩

/-- Whether a segment after the first one names nothing: it is empty or `.`. -/
def isIdle (segment : Name) : Bool := segment = [] || segment = currentSegment

def furtherSegments (path : Path) : List Name := (path.segments.drop 1).reverse.dropWhile isIdle

/-- The first segment; it is empty for an absolute path and for the empty one. -/
def firstSegment (path : Path) : Name := path.segments.headD []

/-- The path of the segments before the last one that counts; absent for the root and for the
empty path. -/
def parent? (path : Path) : Option Path :=
  match path.furtherSegments with
  | _ :: outer =>
      match path.firstSegment, outer.dropWhile isIdle with
      | [], [] => some ⟨[slash]⟩
      | first, kept => some (ofSegments first kept.reverse)
  | [] => if path.firstSegment = [] then none else some ⟨[]⟩

/-- The last segment that counts, if it names an entry. -/
def fileName? (path : Path) : Option Name :=
  let last := path.furtherSegments.headD path.firstSegment
  if last = [] || last = currentSegment || last = parentSegment then none else some last

/-- The path of the entry `name` beside the one that the path names; where the path names no
entry, the entry `name` under it. -/
def withFileName (path : Path) (name : Name) : Path :=
  match path.fileName?, path.parent? with
  | some _, some parent => parent.join ⟨name⟩
  | _, _ => path.join ⟨name⟩

end Path

/-! ### Components -/

/-- What one segment asks for when a path is resolved. -/
inductive Component where
  | blank
  | here
  | up
  /-- Any other segment: an entry by its name. -/
  | entry (name : Name)
deriving DecidableEq

def Component.ofSegment (segment : Name) : Component :=
  if segment = [] then .blank
  else if segment = Path.currentSegment then .here
  else if segment = Path.parentSegment then .up
  else .entry segment

def Path.components (path : Path) : List Component := path.segments.map Component.ofSegment

end Scaffold
