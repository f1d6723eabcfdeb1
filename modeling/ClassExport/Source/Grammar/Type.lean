import ClassExport.Source.Grammar.Path
import ClassExport.Source.Literal

/-! Types. -/
namespace ClassExport.Source

open Reader

def unread : TypeRead := ⟨.other, .other⟩

/-- Bounds added to a first one; what they make is an object type. -/
def moreBounds (call : Calls) : Reader TypeRead := do
  let more ← many (Look.punct "+") do
    punct "+"
    call (.bound false false)
  return ⟨.other, .bounds more.isEmpty⟩

/-- What parentheses hold, when they begin a type. -/
inductive ParenContent where
  | finished (read : TypeRead)
  | question
  | inner (read : TypeRead)

def parenContent (call : Calls) : Reader ParenContent := do
  if ← sees Look.atEnd then return .finished unread
  if ← sees Look.lifetime then
    let kinds ← bounds call true false false
    if kinds.contains .trait then return .finished ⟨.paren .other, .other⟩ else refuse
  if ← sees (Look.punct "?") then
    let _ ← traitBound call false
    return .question
  let first ← call (.type true)
  if ← optionalPunct "," then
    let _ ← separated "," (call (.type true))
    return .finished unread
  return .inner first

def TypeForm.joins : TypeForm → Bool
  | .segment | .path | .bounds true => true
  | _ => false

def parenType (call : Calls) (plus : Bool) : Reader TypeRead := do
  match ← group .paren (parenContent call) with
  | .finished read => return read
  | .question => moreBounds call
  | .inner first =>
    if plus && first.form.joins && (← sees (Look.punct "+")) then moreBounds call
    else return ⟨.paren first.type, .other⟩

/-- `extern` with an optional name of a calling convention. -/
def callingConvention : Reader Unit := do
  if ← optionalWord "extern" then
    let _ ← attempt (literalWith isStringLiteral)

def bareArgument (call : Calls) (isFirst : Bool) : Reader Unit := do
  let _ ← outerAttributes call
  let mutSelf : Look := fun ts => isFirst && Look.word "mut" ts && Look.second (Look.word "self") ts
  let hasMut ← sees mutSelf
  if hasMut then word "mut"
  let names : Look := fun ts =>
    (Look.ident ts || Look.word "_" ts || (isFirst && Look.word "self" ts)) &&
      Look.second (Look.punct ":") ts && !Look.second (Look.punct "::") ts
  let named ← sees names
  let isSelf ← sees (fun ts => isFirst && Look.word "self" ts && names ts)
  if named then
    let _ ← anyWord
    punct ":"
  if !isSelf && (← sees mutSelf) then
    word "mut"
    word "self"
  else if hasMut && !named then word "self"
  else
    let _ ← call (.type true)

def bareArguments (call : Calls) : Reader Unit :=
  loop (fun isFirst => do
    if ← sees Look.atEnd then return .inr ()
    let _ ← outerAttributes call
    let variadic : Look := fun ts =>
      Look.punct "..." ts ||
        ((Look.ident ts || Look.word "_" ts) && Look.second (Look.punct ":") ts &&
          Look.third (Look.punct "...") ts)
    if ← sees variadic then
      if ← sees Look.anyWord then
        let _ ← anyWord
        punct ":"
      punct "..."
      let _ ← optionalPunct ","
      return .inr ()
    bareArgument call isFirst
    if ← sees Look.atEnd then return .inr ()
    punct ","
    return .inl false) true

/-- The type of a function. -/
def bareFunction (call : Calls) : Reader TypeRead := do
  let _ ← when (Look.word "for") (binder call)
  let _ ← optionalWord "unsafe"
  callingConvention
  word "fn"
  group .paren (bareArguments call)
  returnType call false
  return unread

def pathType (call : Calls) (plus bound : Bool) : Reader TypeRead := do
  let p ← qualifiedPath call false
  if p.qualified then return ⟨p.typeSyntax, .other⟩
  if p.isPlain && (← sees fun ts => Look.punct "!" ts && !Look.punct "!=" ts) then
    punct "!"
    let _ ← anyGroup anyDelimiter
    return unread
  if !bound && !(plus && (← sees (Look.punct "+"))) then return ⟨p.typeSyntax, p.form⟩
  if !plus then return ⟨.other, .bounds true⟩
  let goesOn : Look := fun ts =>
    Look.anyWord ts || Look.punct "::" ts || Look.punct "?" ts || Look.lifetime
      ts || Look.opens .paren ts
  loop (fun single => do
    if !(← optionalPunct "+") then return .inr ⟨.other, .bounds single⟩
    if !(← sees goesOn) then return .inr ⟨.other, .bounds false⟩
    let _ ← call (.bound false false)
    return .inl false) true

def objectType (call : Calls) (plus markAllowed captureAllowed : Bool) : Reader TypeRead := do
  let kinds ← bounds call plus captureAllowed markAllowed
  if kinds.contains .trait || kinds.contains .markedTrait then return unread else refuse

def bracketType (call : Calls) : Reader TypeRead :=
  group .bracket do
    let element ← call (.type true)
    if ← optionalPunct ";" then
      let _ ← expression call true
      return ⟨.array element.type, .other⟩
    return ⟨.slice element.type, .other⟩

/-- A type; `plus` tells whether bounds may be joined to it. -/
def readType (call : Calls) (plus : Bool) : Reader TypeRead := do
  let bound := (← when (Look.word "for") (binder call)).isSome
  if bound then
    let follows : Look := fun ts =>
      Look.ident ts || Look.words ["fn", "unsafe", "extern", "super", "self", "Self", "crate"] ts
    if !(← sees follows) then refuse
  let ts ← get
  if Look.opens .paren ts then parenType call plus
  else if Look.words ["fn", "unsafe", "extern"] ts then bareFunction call
  else if pathWord ts || Look.punct "::" ts || Look.punct "<" ts then pathType call plus bound
  else if Look.word "dyn" ts then
    word "dyn"
    let _ ← optionalPunct "*"
    objectType call plus false false
  else if Look.opens .bracket ts then bracketType call
  else if Look.punct "*" ts then
    punct "*"
    if !(← optionalWord "const") then word "mut"
    let _ ← call (.type false)
    return unread
  else if Look.punct "&" ts then
    punct "&"
    optionalLifetime
    let _ ← optionalWord "mut"
    let target ← call (.type false)
    return ⟨.reference target.type, .other⟩
  else if Look.punct "!" ts then
    punct "!"
    return unread
  else if Look.word "impl" ts then
    word "impl"
    objectType call plus true true
  else if Look.word "_" ts then
    word "_"
    return unread
  else if Look.lifetime ts then
    let kinds ← bounds call true false false
    if kinds.contains .trait then return ⟨.other, .bounds false⟩ else refuse
  else refuse

end ClassExport.Source
