import ClassExport.Source.Reader
import ClassExport.Source.Syntax

/-!
The rules of the grammar that call one another, and what each tells its caller. Every reader of the
grammar takes a reader for these rules as an argument; `Source.Grammar` ties the knot.
-/
namespace ClassExport.Source

/-- What an expression is, as far as its surroundings ask. -/
inductive ExprKind where
  | range
  | comparison
  /-- It ends a statement by itself. -/
  | block
  | invocation (d : Delimiter)
  | other
deriving DecidableEq, Repr

inductive PatternKind where
  | rest
  | openRange
  | other
deriving DecidableEq, Repr

/-- What a type is, as far as its surroundings ask. -/
inductive TypeForm where
  /-- A path of one segment, which can name an associated item. -/
  | segment
  | path
  /-- Bounds without `dyn`: a single one can be joined to more. -/
  | bounds (single : Bool)
  | other
deriving DecidableEq, Repr

/-- What a bound is: only traits make an object type. -/
inductive BoundKind where
  | trait
  | markedTrait
  | lifetime
  | capture
deriving DecidableEq, Repr

structure TypeRead where
  type : TypeSyntax
  form : TypeForm

inductive Rule : Type → Type where
  | type (plus : Bool) : Rule TypeRead
  | bound (captureAllowed markAllowed : Bool) : Rule BoundKind
  | unary (braces : Bool) : Rule ExprKind
  /-- The operators after `left` that bind at least as tightly as `base`. -/
  | climb (braces : Bool) (left : ExprKind) (base : Nat) : Rule ExprKind
  /-- An expression that stops after a block. -/
  | early : Rule ExprKind
  | pattern : Rule PatternKind
  | statements : Rule Unit
  /-- No tree comes of a group in which a path begins at the root. -/
  | useTree (root : Bool) : Rule (Option UseTree)
  | fields : Rule (List FieldSyntax)
  | item : Rule Item

/-- A reader for each rule. -/
abbrev Calls := ∀ ⦃α : Type⦄, Rule α → Reader α

/-- An expression; where `braces` is off, a path is not followed by the fields of a struct. -/
def expression (call : Calls) (braces : Bool) : Reader ExprKind := do
  call (.climb braces (← call (.unary braces)) 0)

def anyDelimiter : List Delimiter := [.paren, .bracket, .brace]

def pathWord : Look := fun ts => Look.ident ts || Look.words ["super", "self", "Self", "crate"] ts

/-- A path without arguments. -/
def plainPath : Reader (List String) := do
  let _ ← Reader.optionalPunct "::"
  Reader.loop (fun acc => do
    if !(← Reader.sees pathWord) then Reader.refuse
    let acc := (← Reader.anyWord) :: acc
    if ← Reader.optionalPunct "::" then return .inl acc else return .inr acc.reverse) []

/-- The content of an attribute. -/
def attributeContent (call : Calls) : Reader Unit := do
  if ← Reader.sees (Look.word "unsafe") then Reader.word "unsafe"
  else
    let _ ← plainPath
  if ← Reader.sees (fun ts => anyDelimiter.any fun d => Look.opens d ts) then
    let _ ← Reader.anyGroup anyDelimiter
  else if ← Reader.sees (fun ts => Look.punct "=" ts && !Look.punct "==" ts &&
    !Look.punct "=>" ts) then
    Reader.punct "="
    if ← Reader.sees (fun ts => Look.punct "#" ts && Look.second (Look.opens .bracket) ts)
      then Reader.refuse
    let _ ← expression call true

def outerAttributes (call : Calls) : Reader (List Unit) :=
  Reader.many (Look.punct "#") do
    Reader.punct "#"
    Reader.group .bracket (attributeContent call)

def innerAttributes (call : Calls) : Reader (List Unit) :=
  Reader.many (fun ts => Look.punct "#" ts && Look.second (Look.punct "!") ts) do
    Reader.punct "#"
    Reader.punct "!"
    Reader.group .bracket (attributeContent call)

/-- Statements in braces, after attributes of the block itself. -/
def bodyBlock (call : Calls) : Reader Unit :=
  Reader.group .brace do
    let _ ← innerAttributes call
    call .statements

/-- Statements in braces. -/
def plainBlock (call : Calls) : Reader Unit := Reader.group .brace (call .statements)

end ClassExport.Source
