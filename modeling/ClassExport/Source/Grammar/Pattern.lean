import ClassExport.Source.Grammar.Path
import ClassExport.Source.Literal

/-! Patterns. -/
namespace ClassExport.Source

open Reader

def isBar : Look := fun ts => Look.punct "|" ts && !Look.punct "||" ts && !Look.punct "|=" ts

/-- Patterns between bars, of which one may stand in front. -/
def alternatives (call : Calls) : Reader PatternKind := do
  let leading ← optionalPunct "|"
  let first ← call .pattern
  let more ← many isBar do
    punct "|"
    call .pattern
  return if leading || !more.isEmpty then .other else first

/-- The name or the index of a member; tells whether it is a name. -/
def member : Reader Bool := do
  if ← sees Look.ident then
    let _ ← ident
    return true
  let _ ← literalWith fun text => isIndex text.toList
  return false

/-- The bound of a range, which may be left out before what ends a pattern. -/
def rangeBound (call : Calls) : Reader Bool := do
  let missing : Look := fun ts =>
    Look.atEnd ts || Look.punct "|" ts || Look.punct "=" ts ||
      (Look.punct ":" ts && !Look.punct "::" ts) || Look.punct "," ts || Look.punct ";" ts ||
      Look.word "if" ts
  let ts ← get
  if missing ts then return false
  if Look.literal ts then literal
  else if pathWord ts || Look.punct "::" ts || Look.punct "<" ts then
    let _ ← qualifiedPath call true
  else
    word "const"
    bodyBlock call
  return true

/-- The dots of a range; three dots mean the same as two and an equals sign. Tells whether the end
is open. -/
def rangeDots (three : Bool) : Reader Bool := do
  if ← optionalPunct "..=" then return false
  if ← sees (Look.punct "...") then
    if three then
      punct "..."
      return false
    else refuse
  punct ".."
  return true

def rangeEnd (call : Calls) (startGiven : Bool) : Reader PatternKind := do
  let isOpen ← rangeDots startGiven
  let endGiven ← rangeBound call
  if !isOpen && !endGiven then refuse
  if startGiven then return if endGiven then .other else .openRange
  return if endGiven then .openRange else .rest

def fieldPattern (call : Calls) : Reader Unit := do
  let boxed ← optionalWord "box"
  let byRef ← optionalWord "ref"
  let isMut ← optionalWord "mut"
  if boxed || byRef || isMut then
    let _ ← ident
  else
    let named ← member
    if !named || (← sees (Look.punct ":")) then
      punct ":"
      let _ ← alternatives call

def structPattern (call : Calls) : Reader PatternKind := do
  group .brace <| loop (fun _ => do
    if ← sees Look.atEnd then return .inr ()
    let _ ← outerAttributes call
    if ← optionalPunct ".." then return .inr ()
    fieldPattern call
    if ← sees Look.atEnd then return .inr ()
    punct ","
    return .inl ()) ()
  return .other

def pathPattern (call : Calls) : Reader PatternKind := do
  let p ← qualifiedPath call true
  if p.isPlain && (← sees fun ts => Look.punct "!" ts && !Look.punct "!=" ts) then
    punct "!"
    let _ ← anyGroup anyDelimiter
    return .other
  if ← sees (Look.opens .brace) then structPattern call
  else if ← sees (Look.opens .paren) then
    let _ ← group .paren (separated "," (alternatives call))
    return .other
  else if ← sees (Look.punct "..") then rangeEnd call true
  else return .other

def identPattern (call : Calls) : Reader PatternKind := do
  let _ ← optionalWord "ref"
  let _ ← optionalWord "mut"
  if !(← optionalWord "self") then
    let _ ← ident
  if ← optionalPunct "@" then
    let _ ← call .pattern
  return .other

/-- In brackets a range must have both ends. -/
def slicePattern (call : Calls) : Reader PatternKind := do
  let _ ← group .bracket <| separated "," do
    if (← alternatives call) = .openRange then refuse
  return .other

def readPattern (call : Calls) : Reader PatternKind := do
  let ts ← get
  let named : Look := fun ts =>
    (Look.ident ts &&
      (Look.second (Look.punct "::") ts || Look.second (Look.punct "!") ts ||
        Look.second (Look.opens .brace) ts || Look.second (Look.opens .paren) ts ||
        Look.second (Look.punct "..") ts)) ||
      (Look.word "self" ts && Look.second (Look.punct "::") ts) || Look.punct "::" ts ||
      Look.punct "<" ts || Look.words ["Self", "super", "crate"] ts
  if named ts then pathPattern call
  else if Look.word "_" ts then
    word "_"
    return .other
  else if Look.word "box" ts then
    word "box"
    let _ ← call .pattern
    return .other
  else if Look.punct "-" ts || Look.literal ts || Look.word "const" ts then
    if !(← rangeBound call) then refuse
    if ← sees (Look.punct "..") then rangeEnd call true else return .other
  else if Look.words ["ref", "mut", "self"] ts || Look.ident ts then identPattern call
  else if Look.punct "&" ts then
    punct "&"
    let _ ← optionalWord "mut"
    let _ ← call .pattern
    return .other
  else if Look.opens .paren ts then
    let _ ← group .paren (separated "," (alternatives call))
    return .other
  else if Look.opens .bracket ts then slicePattern call
  else if Look.punct ".." ts && !Look.punct "..." ts then rangeEnd call false
  else refuse

end ClassExport.Source
