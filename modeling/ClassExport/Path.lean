import ClassExport.Text.Pieces

/-!
Paths as written text, read as a list of components. Repeated slashes, a slash at the end and a `.`
that is not the first component add no component; `..` is kept.
-/
namespace ClassExport

structure Path where
  text : String
deriving DecidableEq, Repr, Inhabited

namespace Path

inductive Component where
  | root
  | here
  | up
  | name (text : String)
deriving DecidableEq, Repr

def Component.text : Component → String
  | .root => "/"
  | .here => "."
  | .up => ".."
  | .name s => s

def isAbsolute (p : Path) : Bool := p.text.toList.head? == some '/'

/-- The texts between slashes, without the slash that begins an absolute path. -/
def parts (p : Path) : List String :=
  let body := if p.isAbsolute then p.text.toList.tail else p.text.toList
  (Text.pieces '/' body).map String.ofList

def ofParts (absolute : Bool) (parts : List String) : Path :=
  ⟨(if absolute then "/" else "") ++ "/".intercalate parts⟩

def namedComponents (parts : List String) : List Component :=
  parts.filterMap fun s =>
    if s = "" || s = "." then none else if s = ".." then some .up else some (.name s)

def components (p : Path) : List Component :=
  if p.isAbsolute then .root :: namedComponents p.parts
  else if p.parts.head? = some "." then .here :: namedComponents p.parts
  else namedComponents p.parts

/-- Drops parts that stand for no component; the list is backwards, its last part begins the
path. -/
def dropIdle (absolute : Bool) : List String → List String
  | [] => []
  | s :: rest =>
    if s = "" || (s = "." && (absolute || !rest.isEmpty)) then dropIdle absolute rest else s :: rest

/-- The path without its last component, as written; the root and the empty path have none. -/
def parent? (p : Path) : Option Path :=
  match dropIdle p.isAbsolute p.parts.reverse with
  | [] => none
  | _ :: rest => some (ofParts p.isAbsolute (dropIdle p.isAbsolute rest).reverse)

def ancestorsWithin : Nat → Path → List Path
  | 0, _ => []
  | n + 1, p => p :: match p.parent? with
    | some q => ancestorsWithin n q
    | none => []

/-- The path, its parent, and so on up to the root or the empty path. -/
def ancestors (p : Path) : List Path := ancestorsWithin (p.parts.length + 1) p

/-- An absolute second path stands alone; otherwise exactly one slash is put between, none after the
empty path. -/
def join (p q : Path) : Path :=
  if q.isAbsolute then q
  else if p.text = "" || p.text.toList.getLast? == some '/' then ⟨p.text ++ q.text⟩
  else ⟨p.text ++ "/" ++ q.text⟩

def joinName (p : Path) (name : String) : Path := p.join ⟨name⟩

def nameOf? : List Component → Option String
  | [] => none
  | [.name s] => some s
  | [_] => none
  | _ :: cs => nameOf? cs

/-- The last component, when it is a name. -/
def fileName? (p : Path) : Option String := nameOf? p.components

/-- A file name cut at its last dot; a name that has no dot or only a leading one is all stem. -/
def cutExtension (name : String) : String × Option String :=
  let (after, before) := name.toList.reverse.span (· != '.')
  match before with
  | [] | [_] => (name, none)
  | _ :: stem => (String.ofList stem.reverse, some (String.ofList after.reverse))

def dropComponents? : List Component → List Component → Option (List Component)
  | [], cs => some cs
  | _ :: _, [] => none
  | b :: bs, c :: cs => if b = c then dropComponents? bs cs else none

/-- The components that follow those of `base`. -/
def relativeTo? (p base : Path) : Option (List Component) :=
  dropComponents? base.components p.components

def isWithin (p base : Path) : Bool := (p.relativeTo? base).isSome

/-- The path seen from `here`, without idle parts; `..` and a slash at the end are kept, and two
slashes at the beginning where no third one follows. -/
def absolute (here p : Path) : Path :=
  let named := (namedComponents p.parts).map Component.text
  let clean :=
    if p.isAbsolute then
      let double := p.text.toList.take 2 == ['/', '/'] && p.text.toList.take 3 != ['/', '/', '/']
      let rooted := ofParts true named
      if double then ⟨"/" ++ rooted.text⟩ else rooted
    else named.foldl joinName here
  if p.text.toList.getLast? == some '/' && clean.text.toList.getLast? != some '/'
    then ⟨clean.text ++ "/"⟩
  else clean

end Path
end ClassExport
