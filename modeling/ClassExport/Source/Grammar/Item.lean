import ClassExport.Source.Grammar.Expression
import ClassExport.Source.Grammar.Type

/-! Items. Of most of them only the form is checked. -/
namespace ClassExport.Source

open Reader

/-- Parentheses after `pub` that hold more than one word belong to what follows. -/
def visibility : Reader Visibility := do
  if !(← optionalWord "pub") then return .inherited
  match ← get with
  | .opening .paren :: .word w :: rest =>
    if w.text = "in" then
      let _ ← group .paren (word "in" *> plainPath)
      return .restricted
    if ["crate", "self", "super"].contains w.text && Look.atEnd rest then
      let _ ← anyGroup [.paren]
      return .restricted
    return .everywhere
  | _ => return .everywhere

/-- What may stand before `fn`; `safe` only in a foreign block. -/
def functionMarks (foreign : Bool) : Reader Unit := do
  let _ ← optionalWord "const"
  let _ ← optionalWord "async"
  if !(← optionalWord "unsafe") && foreign then
    let _ ← optionalWord "safe"
  callingConvention

def beginsFunction (foreign : Bool) : Look := fun ts =>
  match functionMarks foreign ts with
  | some (_, ts) => Look.word "fn" ts
  | none => false

def receiver (call : Calls) : Reader Unit := do
  let byRef ← optionalPunct "&"
  if byRef then optionalLifetime
  let _ ← optionalWord "mut"
  word "self"
  if !byRef && (← optionalPunct ":") then
    let _ ← call (.type true)

/-- Dots for any further parameters. -/
def variadic : Reader Unit := do
  punct "..."
  if !(← sees Look.atEnd) then punct ","

def parameters (call : Calls) : Reader Unit :=
  loop (fun isFirst => do
    if ← sees Look.atEnd then return .inr ()
    let _ ← outerAttributes call
    if ← sees (Look.punct "...") then
      variadic
      return .inr ()
    if (← attempt (receiver call)).isSome then
      if !isFirst then refuse
    else if ← sees (fun ts => Look.ident ts && Look.second (Look.punct "<") ts) then
      let _ ← call (.type true)
    else
      let _ ← call .pattern
      punct ":"
      if ← sees (Look.punct "...") then
        variadic
        return .inr ()
      let _ ← call (.type true)
    if ← sees Look.atEnd then return .inr ()
    punct ","
    return .inl false) true

def signature (call : Calls) (foreign : Bool) : Reader Unit := do
  functionMarks foreign
  word "fn"
  let _ ← ident
  generics call
  group .paren (parameters call)
  returnType call true
  let _ ← whereClause call

/-- A function; its body may be left out. -/
def function (call : Calls) (foreign : Bool) : Reader Unit := do
  signature call foreign
  if !(← optionalPunct ";") then bodyBlock call

/-- A member `_` may have the members of a struct or union of its own. -/
def namedField (call : Calls) : Reader FieldSyntax := do
  let _ ← outerAttributes call
  let visible ← visibility
  let unnamed ← sees (Look.word "_")
  let name ← if unnamed then anyWord else ident
  punct ":"
  let nested : Look := fun ts =>
    Look.word "struct" ts || (Look.word "union" ts && Look.second (Look.opens .brace) ts)
  if unnamed && (← sees nested) then
    let _ ← anyWord
    let _ ← call .fields
    return ⟨visible, name, .other⟩
  return ⟨visible, name, (← call (.type true)).type⟩

def readFields (call : Calls) : Reader (List FieldSyntax) :=
  group .brace (separated "," (namedField call))

def tupleFields (call : Calls) : Reader Unit := do
  let _ ← group .paren <| separated "," do
    let _ ← outerAttributes call
    let _ ← visibility
    call (.type true)

def structItem (call : Calls) : Reader Item := do
  word "struct"
  let name ← ident
  generics call
  let conditioned ← whereClause call
  if !conditioned && (← sees (Look.opens .paren)) then
    tupleFields call
    let _ ← whereClause call
    punct ";"
    return .struct name .tuple
  if ← sees (Look.opens .brace) then return .struct name (.named (← call .fields))
  punct ";"
  return .struct name .unit

def unionItem (call : Calls) : Reader Unit := do
  word "union"
  let _ ← ident
  generics call
  let _ ← whereClause call
  let _ ← call .fields

def variant (call : Calls) : Reader Unit := do
  let _ ← outerAttributes call
  let _ ← visibility
  let _ ← ident
  if ← sees (Look.opens .brace) then
    let _ ← call .fields
  else if ← sees (Look.opens .paren) then tupleFields call
  if ← optionalPunct "=" then
    let _ ← expression call true

def enumItem (call : Calls) : Reader Unit := do
  word "enum"
  let _ ← ident
  generics call
  let _ ← whereClause call
  let _ ← group .brace (separated "," (variant call))

/-- Bounds up to what `stop` sees. -/
def boundsUntil (call : Calls) (stop : Look) : Reader Unit := do
  let _ ← separatedUntil stop "+" (plainBound call)

/-- A name for a type; conditions stand before the equals sign, after the type, or in either
place. -/
def typeAlias (call : Calls) (whereBefore whereAfter : Bool) : Reader Unit := do
  word "type"
  let _ ← ident
  generics call
  if ← optionalPunct ":" then
    boundsUntil call fun ts => Look.word "where" ts || Look.punct "=" ts || Look.punct ";" ts
  let conditioned ← if whereBefore then whereClause call else pure false
  if ← optionalPunct "=" then
    let _ ← call (.type true)
  if whereAfter && !conditioned then
    let _ ← whereClause call
  punct ";"

def optionalValue (call : Calls) : Reader Unit := do
  if ← optionalPunct "=" then
    let _ ← expression call true

def constItem (call : Calls) : Reader Unit := do
  word "const"
  if !(← optionalWord "_") then
    let _ ← ident
  generics call
  punct ":"
  let _ ← call (.type true)
  optionalValue call
  let _ ← whereClause call
  punct ";"

/-- A static; outside a foreign block the type may be left out where a value is given. -/
def staticItem (call : Calls) (foreign : Bool) : Reader Unit := do
  if foreign && !(← optionalWord "unsafe") then
    let _ ← optionalWord "safe"
  word "static"
  let _ ← optionalWord "mut"
  let _ ← ident
  if foreign || !(← sees (Look.punct "=")) then
    punct ":"
    let _ ← call (.type true)
  optionalValue call
  punct ";"

/-- A macro in the place of an item; where `naming` is on, a name may stand before its content. -/
def invocationItem (naming : Bool) : Reader Unit := do
  let _ ← plainPath
  punct "!"
  if naming then
    let _ ← when (fun ts => Look.ident ts || Look.word "try" ts) anyWord
  if (← anyGroup anyDelimiter) != .brace then punct ";"

/-- Where a macro may begin in the place of an item. -/
def beginsInvocation : Look := fun ts =>
  Look.ident ts || Look.words ["self", "super", "crate"] ts || Look.punct "::" ts

/-- An item of a trait or of an implementation. In the latter `default` can name a macro. -/
def associatedItem (call : Calls) (inTrait : Bool) : Reader Unit := do
  let _ ← outerAttributes call
  let visible ← visibility
  let marked : Look := fun ts =>
    Look.word "default" ts && (inTrait || !Look.second (Look.punct "!") ts)
  let isDefault := (← when marked anyWord).isSome
  let ts ← get
  if beginsFunction false ts then function call false
  else if Look.word "const" ts then constItem call
  else if Look.word "type" ts then typeAlias call false true
  else if visible = .inherited && !isDefault && beginsInvocation ts then invocationItem false
  else refuse

def foreignItem (call : Calls) : Reader Unit := do
  let _ ← outerAttributes call
  let visible ← visibility
  let ts ← get
  if beginsFunction true ts then function call true
  else if Look.word "static" ts ||
      (Look.words ["unsafe", "safe"] ts && Look.second (Look.word "static") ts) then
    staticItem call true
  else if Look.word "type" ts then typeAlias call true true
  else if visible = .inherited && beginsInvocation ts then invocationItem false
  else refuse

/-- Items in braces, after attributes of the whole. -/
def braced (call : Calls) (r : Reader α) : Reader (List α) :=
  group .brace do
    let _ ← innerAttributes call
    toEnd r

def foreignBlock (call : Calls) : Reader Unit := do
  let _ ← optionalWord "unsafe"
  if !(← sees (Look.word "extern")) then refuse
  callingConvention
  let _ ← braced call (foreignItem call)

def externCrate : Reader Unit := do
  word "extern"
  word "crate"
  if !(← optionalWord "self") then
    let _ ← ident
  if ← optionalWord "as" then
    if !(← optionalWord "_") then
      let _ ← ident
  punct ";"

def moduleItem (call : Calls) : Reader Item := do
  let _ ← optionalWord "unsafe"
  word "mod"
  let name ← if ← sees (Look.word "try") then anyWord else ident
  if ← optionalPunct ";" then return .module name none
  return .module name (some (← braced call (call .item)))

/-- A trait, or a name for bounds; only a trait without marks can be the latter. -/
def traitItem (call : Calls) : Reader Unit := do
  let isUnsafe ← optionalWord "unsafe"
  let isAuto ← optionalWord "auto"
  word "trait"
  let _ ← ident
  generics call
  if !isUnsafe && !isAuto && (← optionalPunct "=") then
    boundsUntil call fun ts => Look.word "where" ts || Look.punct ";" ts
    let _ ← whereClause call
    punct ";"
  else
    if ← optionalPunct ":" then
      boundsUntil call fun ts => Look.word "where" ts || Look.opens .brace ts
    let _ ← whereClause call
    let _ ← braced call (associatedItem call true)

def implementation (call : Calls) : Reader Unit := do
  let _ ← optionalWord "default"
  let _ ← optionalWord "unsafe"
  word "impl"
  if ← sees beginsGenerics then generics call
  let marked : Look := fun ts =>
    Look.word "const" ts || (Look.punct "?" ts && Look.second (Look.word "const") ts)
  if ← sees marked then
    let _ ← optionalPunct "?"
    word "const"
  let _ ← when (fun ts => Look.punct "!" ts && !Look.second (Look.opens .brace) ts) (punct "!")
  let _ ← call (.type true)
  if ← optionalWord "for" then
    let _ ← call (.type true)
  let _ ← whereClause call
  let _ ← braced call (associatedItem call false)

def macroDefinition : Reader Unit := do
  word "macro"
  let _ ← ident
  let _ ← when (Look.opens .paren) (anyGroup [.paren])
  let _ ← anyGroup [.brace]

/-- A tree of imports; `root` tells whether a path in a group may begin at the root. -/
def readUseTree (call : Calls) (root : Bool) : Reader (Option UseTree) := do
  if ← sees (fun ts => Look.ident ts || Look.words ["self", "super", "crate", "try"] ts) then
    let name ← anyWord
    if ← optionalPunct "::" then
      match ← call (.useTree false) with
      | some tree => return some (.path name tree)
      | none => refuse
    if ← optionalWord "as" then
      let newName ← if ← sees (Look.word "_") then anyWord else ident
      return some (.rename name newName)
    return some (.name name)
  if ← optionalPunct "*" then return some .glob
  let trees ← group .brace <| separated "," do
    let fromRoot ← if root then optionalPunct "::" else pure false
    let tree ← call (.useTree (root && !fromRoot))
    return if fromRoot then none else tree
  return if trees.all Option.isSome then some (.group (trees.filterMap id)) else none

def useItem (call : Calls) : Reader Item := do
  word "use"
  let fromRoot ← optionalPunct "::"
  let tree ← call (.useTree !fromRoot)
  punct ";"
  return match tree with
    | some tree => .use tree
    | none => .other

/-- An item after its attributes. -/
def restOfItem (call : Calls) : Reader Item := do
  let visible ← visibility
  let ts ← get
  if Look.word "use" ts then return ← useItem call
  if Look.word "struct" ts then return ← structItem call
  if Look.word "mod" ts || (Look.word "unsafe" ts && Look.second (Look.word "mod") ts) then
    return ← moduleItem call
  let beginsTrait : Look := fun ts =>
    Look.word "trait" ts || (Look.word "auto" ts && Look.second (Look.word "trait") ts)
  if beginsFunction false ts then function call false
  else if Look.word "extern" ts && Look.second (Look.word "crate") ts then externCrate
  else if Look.word "extern" ts || (Look.word "unsafe" ts &&
    Look.second (Look.word "extern") ts) then
    if visible != .inherited then refuse
    foreignBlock call
  else if Look.word "static" ts then staticItem call false
  else if Look.word "const" ts then constItem call
  else if Look.word "type" ts then typeAlias call true false
  else if Look.word "enum" ts then enumItem call
  else if Look.word "union" ts && Look.second Look.ident ts then unionItem call
  else if beginsTrait ts || (Look.word "unsafe" ts && Look.second beginsTrait ts)
    then traitItem call
  else if Look.word "impl" ts || (Look.word "unsafe" ts && Look.second (Look.word "impl") ts) ||
      (Look.word "default" ts && !Look.second (Look.punct "!") ts) then
    implementation call
  else if Look.word "macro" ts then macroDefinition
  else if visible = .inherited && beginsInvocation ts then invocationItem true
  else refuse
  return .other

def readItem (call : Calls) : Reader Item := do
  let _ ← outerAttributes call
  restOfItem call

end ClassExport.Source
