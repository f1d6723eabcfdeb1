import ClassExport.Source.Grammar.Rule

/-! Paths with their arguments, bounds, and generic parameters. -/
namespace ClassExport.Source

open Reader

structure Segment where
  name : String
  /-- The arguments in angle brackets, with the types among them. -/
  arguments : Option (List (Option TypeSyntax))

structure PathRead where
  /-- It begins with a type in angle brackets. -/
  qualified : Bool
  fromRoot : Bool
  segments : List Segment

namespace PathRead

def isPlain (p : PathRead) : Bool := !p.qualified && p.segments.all (·.arguments.isNone)

def names (p : PathRead) : List String := p.segments.map Segment.name

def lastArguments (p : PathRead) : List (Option TypeSyntax) :=
  ((p.segments.getLast?).bind Segment.arguments).getD []

def typeSyntax (p : PathRead) : TypeSyntax :=
  match p.names.getLast?, p.lastArguments.findSome? id with
  | some name, none => .named p.names.dropLast name
  | some name, some argument => .applied p.names.dropLast name argument
  | none, _ => .other

def form (p : PathRead) : TypeForm :=
  if p.qualified then .other else if !p.fromRoot && p.segments.length == 1 then .segment else .path

end PathRead

/-- An argument that is a constant. -/
def constArgument (call : Calls) : Reader Unit := do
  if ← sees Look.literal then literal
  else if ← sees Look.ident then
    let _ ← ident
  else bodyBlock call

def returnType (call : Calls) (plus : Bool) : Reader Unit := do
  if ← optionalPunct "->" then
    let _ ← call (.type plus)

/-- Whether angle brackets after a name hold arguments. -/
def beginsArguments (inExpression : Bool) : Look := fun ts =>
  (!inExpression && Look.punct "<" ts && !Look.punct "<=" ts && !Look.punct "<<=" ts) ||
    (Look.punct "::" ts && Look.third (Look.punct "<") ts)

/-- Whether `<` begins generic parameters and not a qualified path. -/
def beginsGenerics : Look := fun ts =>
  Look.punct "<" ts &&
    (Look.second (Look.punct ">") ts || Look.second (Look.punct "#") ts ||
      ((Look.second Look.lifetime ts || Look.second Look.ident ts) &&
        (Look.third (Look.punct ">") ts || Look.third (Look.punct ",") ts ||
          (Look.third (Look.punct ":") ts && !Look.third (Look.punct "::") ts) ||
          Look.third (Look.punct "=") ts)) ||
      Look.second (Look.word "const") ts)

/-- A bound in a place where most are read. -/
def plainBound (call : Calls) : Reader BoundKind := call (.bound false true)

def genericArgument (call : Calls) : Reader (Option TypeSyntax) := do
  if ← sees (fun ts => Look.lifetime ts && !Look.second (Look.punct "+") ts) then
    lifetime
    return none
  let constant : Look := fun ts => Look.literal ts || Look.opens .brace ts
  if ← sees constant then
    constArgument call
    return none
  let argument ← call (.type true)
  if argument.form = .segment then
    if ← optionalPunct "=" then
      if ← sees constant then constArgument call
      else
        let _ ← call (.type true)
      return none
    if ← optionalPunct ":" then
      let _ ← separatedWhile (fun ts => Look.punct "," ts || Look.punct ">" ts) "+"
        (plainBound call)
      return none
  return some argument.type

def angleArguments (call : Calls) : Reader (List (Option TypeSyntax)) := do
  let _ ← optionalPunct "::"
  punct "<"
  let arguments ← separatedUntil (Look.punct ">") "," (genericArgument call)
  punct ">"
  return arguments

def segment (call : Calls) (inExpression : Bool) : Reader Segment := do
  if ← sees (Look.words ["super", "self", "crate", "try"]) then return ⟨← anyWord, none⟩
  let name ← if ← sees (Look.word "Self") then anyWord else ident
  if ← sees (beginsArguments inExpression) then return ⟨name, some (← angleArguments call)⟩
  return ⟨name, none⟩

/-- A path; it ends before a double colon that parentheses follow. -/
def path (call : Calls) (inExpression : Bool) : Reader PathRead := do
  let fromRoot ← optionalPunct "::"
  let first ← segment call inExpression
  let more ← many (fun ts => Look.punct "::" ts && !Look.third (Look.opens .paren) ts) do
    punct "::"
    segment call inExpression
  return ⟨false, fromRoot, first :: more⟩

/-- The constant in front of a conditional bound, allowed in some places only. -/
def boundMark (allowed : Bool) : Reader Bool := do
  if ← sees (Look.opens .bracket) then
    group .bracket (word "const")
    if allowed then return true else refuse
  if ← optionalWord "const" then
    if allowed then return true else refuse
  return false

def typeParameter (call : Calls) : Reader Unit := do
  let _ ← ident
  if ← optionalPunct ":" then
    let stop : Look := fun ts => Look.punct "," ts || Look.punct ">" ts || Look.punct "=" ts
    let _ ← separatedWhile stop "+" (plainBound call)
  if ← optionalPunct "=" then
    let _ ← call (.type true)

def lifetimeParameter : Reader Unit := do
  lifetime
  if ← optionalPunct ":" then
    let _ ← separatedWhile (fun ts => Look.punct "," ts || Look.punct ">" ts) "+" lifetime

def constParameter (call : Calls) : Reader Unit := do
  word "const"
  let _ ← ident
  punct ":"
  let _ ← call (.type true)
  if ← optionalPunct "=" then constArgument call

def genericParameter (call : Calls) : Reader Unit := do
  let _ ← outerAttributes call
  if ← sees Look.ident then typeParameter call
  else if ← sees Look.lifetime then lifetimeParameter
  else constParameter call

/-- `for` with parameters in angle brackets. -/
def binder (call : Calls) : Reader Unit := do
  word "for"
  punct "<"
  let _ ← separatedUntil (Look.punct ">") "," (genericParameter call)
  punct ">"

def parenArguments (call : Calls) : Reader Unit := do
  let _ ← group .paren (separated "," (call (.type true)))
  returnType call false

/-- A trait with what may stand in front of it. -/
def traitBound (call : Calls) (markAllowed : Bool) : Reader BoundKind := do
  let before ← when (Look.word "for") (binder call)
  let marked ← boundMark markAllowed
  let maybe ← optionalPunct "?"
  let between ← if before.isNone && maybe then when (Look.word "for") (binder call) else pure none
  let path ← path call false
  if path.lastArguments.isEmpty then
    let follows : Look := fun ts =>
      Look.opens .paren ts || (Look.punct "::" ts && Look.third (Look.opens .paren) ts)
    if ← sees follows then
      let _ ← optionalPunct "::"
      parenArguments call
  if maybe && (before.isSome || between.isSome) then refuse
  return if marked then .markedTrait else .trait

def captures : Reader Unit := do
  word "use"
  punct "<"
  let _ ← separatedUntil (Look.punct ">") "," do
    if ← sees Look.lifetime then lifetime
    else if ← sees (Look.word "Self") then word "Self"
    else
      let _ ← ident
  punct ">"

def readBound (call : Calls) (captureAllowed markAllowed : Bool) : Reader BoundKind := do
  if ← sees Look.lifetime then
    lifetime
    return .lifetime
  if ← sees (Look.word "use") then
    captures
    if captureAllowed then return .capture else refuse
  if ← sees (Look.opens .paren) then group .paren (traitBound call markAllowed)
  else traitBound call markAllowed

/-- A path that may begin with a type in angle brackets. -/
def qualifiedPath (call : Calls) (inExpression : Bool) : Reader PathRead := do
  if !(← sees (Look.punct "<")) then path call inExpression
  else
    punct "<"
    let _ ← call (.type true)
    let trait ← if ← optionalWord "as" then PathRead.segments <$> path call false else pure []
    punct ">"
    let more ← loop (fun acc => do
      punct "::"
      let acc := (← segment call inExpression) :: acc
      if ← sees (Look.punct "::") then return .inl acc else return .inr acc.reverse) []
    return ⟨true, false, trait ++ more⟩

/-- Bounds joined by plus signs, of which one may stand at the end. -/
def bounds (call : Calls) (plus captureAllowed markAllowed : Bool) : Reader (List BoundKind) :=
  loop (fun acc => do
    let acc := (← call (.bound captureAllowed markAllowed)) :: acc
    if !plus then return .inr acc
    if !(← optionalPunct "+") then return .inr acc
    let goesOn : Look := fun ts =>
      Look.anyWord ts || Look.punct "::" ts || Look.punct "?" ts || Look.lifetime ts ||
        Look.opens .paren ts || (markAllowed && (Look.opens .bracket ts || Look.word "const" ts))
    if ← sees goesOn then return .inl acc else return .inr acc) []

def generics (call : Calls) : Reader Unit := do
  if ← optionalPunct "<" then
    let _ ← separatedUntil (Look.punct ">") "," do
      let _ ← outerAttributes call
      if ← sees Look.lifetime then lifetimeParameter
      else if ← sees Look.ident then typeParameter call
      else if ← sees (Look.word "_") then word "_"
      else constParameter call
    punct ">"

/-- Where a list of conditions, or of bounds in one, ends. -/
def endsConditions : Look := fun ts =>
  Look.atEnd ts || Look.opens .brace ts || Look.punct "," ts || Look.punct ";" ts ||
    (Look.punct ":" ts && !Look.punct "::" ts) || Look.punct "=" ts

def condition (call : Calls) : Reader Unit := do
  if ← sees (fun ts => Look.lifetime ts && Look.second (Look.punct ":") ts) then
    lifetime
    punct ":"
    let _ ← separatedWhile (fun ts => endsConditions ts || Look.punct ":" ts) "+" lifetime
  else
    let _ ← when (Look.word "for") (binder call)
    let _ ← call (.type true)
    punct ":"
    let _ ← separatedWhile endsConditions "+" (plainBound call)

/-- Conditions after `where`, if any. -/
def whereClause (call : Calls) : Reader Bool := do
  if ← optionalWord "where" then
    if ← sees beginsGenerics then refuse
    let _ ← separatedWhile endsConditions "," (condition call)
    return true
  return false

end ClassExport.Source
