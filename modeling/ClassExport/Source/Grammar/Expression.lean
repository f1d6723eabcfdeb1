import ClassExport.Source.Grammar.Pattern
import ClassExport.Source.Literal
import ClassExport.Text.Pieces

/-! Expressions: operators by how tightly they bind, what follows an operand, and the operands. -/
namespace ClassExport.Source

open Reader

/-! How tightly operators bind. -/
namespace Level

def assignment : Nat := 1
def range : Nat := 2
def comparison : Nat := 6
def cast : Nat := 13

end Level

/-- Binary operators; of those that fit, the first is meant. -/
def binaryOperators : List (String × Nat) := [
  ("+=", Level.assignment), ("-=", Level.assignment), ("*=", Level.assignment),
  ("/=", Level.assignment), ("%=", Level.assignment), ("^=", Level.assignment),
  ("&=", Level.assignment), ("|=", Level.assignment), ("<<=", Level.assignment),
  (">>=", Level.assignment), ("&&", 4), ("||", 3), ("<<", 10), (">>", 10),
  ("==", Level.comparison), ("<=", Level.comparison), ("!=", Level.comparison),
  (">=", Level.comparison), ("+", 11), ("-", 11), ("*", 12), ("/", 12), ("%", 12),
  ("^", 8), ("&", 9), ("|", 7), ("<", Level.comparison), (">", Level.comparison)]

def operatorAhead? (ts : List Token) : Option (String × Nat) :=
  binaryOperators.find? fun (op, _) => Look.punct op ts

def isAssignment : Look := fun ts => Look.punct "=" ts && !Look.punct "=>" ts

/-- One dot, and not the two of a range. -/
def isDot : Look := fun ts => Look.punct "." ts && !Look.punct ".." ts

/-- How tightly what follows an operand binds; zero for what is no operator. -/
def levelAhead (ts : List Token) : Nat :=
  match operatorAhead? ts with
  | some (_, level) => level
  | none =>
    if isAssignment ts then Level.assignment
    else if Look.punct ".." ts then Level.range
    else if Look.word "as" ts then Level.cast
    else 0

/-- The right side of an operator, with all that binds more tightly. -/
def rightSide (call : Calls) (braces : Bool) (level : Nat) : Reader ExprKind := do
  let first ← call (.unary braces)
  loop (fun right => do
    let ts ← get
    let next := levelAhead ts
    if next > level || (next == level && level == Level.assignment) then
      let right ← call (.climb braces right next)
      if (← get).length = ts.length then return .inr right else return .inl right
    else return .inr right) first

/-- What may follow the dots of a range that has no end. -/
def endsOpenRange (braces : Bool) : Look := fun ts =>
  Look.atEnd ts || isDot ts || (!braces && Look.opens .brace ts) || Look.word "as" ts ||
    [",", ";", "?", "=>", "=", "+", "/", "%", "^", ">", "<=", "!=", "-=", "*=",
      "&=", "|=", "<<="].any
      fun p => Look.punct p ts

/-- The dots of a range, and its end. -/
def restOfRange (call : Calls) (braces : Bool) : Reader Unit := do
  let isOpen ← rangeDots false
  if !(isOpen && (← sees (endsOpenRange braces))) then
    let _ ← rightSide call braces Level.range

/-- A type to convert to; access to what results needs parentheses. -/
def castTarget (call : Calls) : Reader Unit := do
  let _ ← call (.type false)
  let accesses : Look := fun ts =>
    isDot ts || Look.punct "?" ts || Look.opens .bracket ts || Look.opens .paren ts
  if ← sees accesses then refuse

def readClimb (call : Calls) (braces : Bool) (left : ExprKind) (base : Nat) : Reader ExprKind :=
  loop (fun left => do
    let ts ← get
    if left = .range then return .inr left
    match operatorAhead? ts with
    | some (op, level) =>
      if level < base then return .inr left
      if level == Level.comparison && left = .comparison then refuse
      punct op
      let _ ← rightSide call braces level
      return .inl (if level == Level.comparison then .comparison else .other)
    | none =>
      if base ≤ Level.assignment && isAssignment ts then
        punct "="
        let _ ← rightSide call braces Level.assignment
        return .inl .other
      else if base ≤ Level.range && Look.punct ".." ts then
        restOfRange call braces
        return .inl .range
      else if base ≤ Level.cast && Look.word "as" ts then
        word "as"
        castTarget call
        return .inl .other
      else return .inr left) left

/-- Arguments, or the elements of a tuple or an array. -/
def expressions (call : Calls) : Reader Unit := do
  let _ ← separated "," (expression call true)

/-- The indices in a number that stands for a chain of members, as in `pair.0.1`; tells whether a
member must follow the last dot. -/
def memberChain : Reader Bool := do
  let text := (← literalWith isFloatLiteral).toList
  let dangling := text.getLast? == some '.'
  if (Text.pieces '.' (if dangling then text.dropLast else text)).all isIndex
    then return dangling else refuse

/-- A dot and a member, with the arguments of a method. -/
def memberAccess (call : Calls) : Reader Unit := do
  punct "."
  if (← attempt memberChain) = some false then return
  if ← sees (fun ts => match ts with | .literal text :: _ => isFloatLiteral text | _ => false)
    then refuse
  if ← optionalWord "await" then return
  if ← member then
    let generic ← sees (Look.punct "::")
    if generic then
      let _ ← angleArguments call
    if generic || (← sees (Look.opens .paren)) then group .paren (expressions call)

/-- Calls, members, indices and question marks after an operand. -/
def accesses (call : Calls) (start : ExprKind) : Reader ExprKind :=
  loop (fun kind => do
    let ts ← get
    if Look.opens .paren ts then
      group .paren (expressions call)
      return .inl .other
    else if isDot ts && kind != .range then
      memberAccess call
      return .inl .other
    else if Look.opens .bracket ts then
      let _ ← group .bracket (expression call true)
      return .inl .other
    else if Look.punct "?" ts && kind != .range then
      punct "?"
      return .inl .other
    else return .inr kind) start

/-- A chain of conditions, each with a block, and the block for when none holds. -/
def ifChain (call : Calls) : Reader Unit :=
  loop (fun _ => do
    word "if"
    let _ ← expression call false
    plainBlock call
    if !(← optionalWord "else") then return .inr ()
    if ← sees (Look.word "if") then return .inl ()
    plainBlock call
    return .inr ()) ()

def whileLoop (call : Calls) : Reader Unit := do
  word "while"
  let _ ← expression call false
  bodyBlock call

def forLoop (call : Calls) : Reader Unit := do
  word "for"
  let _ ← alternatives call
  word "in"
  let _ ← expression call false
  bodyBlock call

def endlessLoop (call : Calls) : Reader Unit := do
  word "loop"
  bodyBlock call

/-- An arm of a match; a comma may be left out after a block and at the end. -/
def arm (call : Calls) : Reader Unit := do
  let _ ← outerAttributes call
  let _ ← alternatives call
  if ← optionalWord "if" then
    let _ ← expression call true
  punct "=>"
  let kind ← call .early
  if kind != .block && !(← sees Look.atEnd) then punct ","
  else
    let _ ← optionalPunct ","

def matchArms (call : Calls) : Reader Unit := do
  word "match"
  let _ ← expression call false
  group .brace do
    let _ ← innerAttributes call
    let _ ← toEnd (arm call)

/-- A loop or block with a label. -/
def labelled (call : Calls) : Reader Unit := do
  lifetime
  punct ":"
  let ts ← get
  if Look.word "while" ts then whileLoop call
  else if Look.word "for" ts then forLoop call
  else if Look.word "loop" ts then endlessLoop call
  else bodyBlock call

/-- Whether `for` begins the parameters of a closure and not a loop. -/
def bindsClosure : Look := fun ts =>
  Look.word "for" ts && Look.second (Look.punct "<") ts &&
    (Look.third Look.lifetime ts || Look.third (Look.punct ">") ts)

/-- A reader for an expression that ends a statement by itself, where one begins. -/
def blockAhead? (call : Calls) (ts : List Token) : Option (Reader Unit) :=
  let braced (w : String) : Bool := Look.word w ts && Look.second (Look.opens .brace) ts
  if Look.word "if" ts then some (ifChain call)
  else if Look.word "while" ts then some (whileLoop call)
  else if Look.word "for" ts && !bindsClosure ts then some (forLoop call)
  else if Look.word "loop" ts then some (endlessLoop call)
  else if Look.word "match" ts then some (matchArms call)
  else if braced "try" then some (word "try" *> plainBlock call)
  else if Look.word "unsafe" ts then some (word "unsafe" *> bodyBlock call)
  else if braced "const" then some (word "const" *> bodyBlock call)
  else if Look.opens .brace ts then some (bodyBlock call)
  else if Look.lifetime ts then some (labelled call)
  else none

/-- An expression that stops after a block, unless a member or a question mark follows it. -/
def readEarly (call : Calls) : Reader ExprKind := do
  let _ ← outerAttributes call
  match blockAhead? call (← get) with
  | none => call (.climb true (← call (.unary true)) 0)
  | some block =>
    block
    if ← sees (fun ts => isDot ts || Look.punct "?" ts) then
      call (.climb true (← accesses call .block) 0)
    else return .block

def closureParameter (call : Calls) : Reader Unit := do
  let _ ← outerAttributes call
  let _ ← call .pattern
  if ← optionalPunct ":" then
    let _ ← call (.type true)

def closure (call : Calls) (braces : Bool) : Reader Unit := do
  let _ ← when (Look.word "for") (binder call)
  for w in ["const", "static", "async", "move"] do
    let _ ← optionalWord w
  punct "|"
  let _ ← separatedUntil (Look.punct "|") "," (closureParameter call)
  punct "|"
  if ← optionalPunct "->" then
    let _ ← call (.type true)
    plainBlock call
  else
    let _ ← expression call braces

def beginsClosure : Look := fun ts =>
  Look.punct "|" ts || Look.words ["move", "static"] ts || bindsClosure ts ||
    (Look.word "const" ts && !Look.second (Look.opens .brace) ts) ||
    (Look.word "async" ts && (Look.second (Look.punct "|") ts || Look.second (Look.word "move") ts))

/-- Whether an expression follows a word that can do without one. -/
def beginsExpression : Look := fun ts =>
  let butNot (p : String) (longer : List String) : Bool :=
    Look.punct p ts && !longer.any fun q => Look.punct q ts
  (Look.anyWord ts && !Look.word "as" ts) || anyDelimiter.any (fun d => Look.opens d ts) ||
    Look.literal ts || butNot "!" ["!="] || butNot "-" ["-=", "->"] || butNot "*" ["*="] ||
    butNot "|" ["|="] || butNot "&" ["&="] || Look.punct ".." ts || butNot "<" ["<=", "<<="] ||
    Look.punct "::" ts || Look.lifetime ts || Look.punct "#" ts

/-- `break`, with a label and a value; a label before the value must not be one of the value. -/
def breakOut (call : Calls) (braces : Bool) : Reader Unit := do
  word "break"
  if ← sees Look.lifetime then
    lifetime
    if ← sees (Look.punct ":") then refuse
  let valued : Look := fun ts => beginsExpression ts && (braces || !Look.opens .brace ts)
  let _ ← when valued (expression call braces)

/-- The fields of a struct, the last of which may stand for the rest. -/
def structFields (call : Calls) : Reader Unit :=
  loop (fun _ => do
    if ← sees Look.atEnd then return .inr ()
    if ← optionalPunct ".." then
      let _ ← when (fun ts => !Look.atEnd ts) (expression call true)
      return .inr ()
    let _ ← outerAttributes call
    let named ← member
    if !named || (← sees (Look.punct ":")) then
      punct ":"
      let _ ← expression call true
    if ← sees Look.atEnd then return .inr ()
    punct ","
    return .inl ()) ()

/-- A path, or the macro or the struct that it names with what belongs to it. -/
def pathOperand (call : Calls) (braces : Bool) : Reader ExprKind := do
  let p ← qualifiedPath call true
  if p.isPlain && (← sees fun ts => Look.punct "!" ts && !Look.punct "!=" ts) then
    punct "!"
    return .invocation (← anyGroup anyDelimiter)
  if braces then
    let _ ← when (Look.opens .brace) (group .brace (structFields call))
  return .other

def bracketOperand (call : Calls) : Reader Unit :=
  group .bracket do
    if ← sees Look.atEnd then return
    let _ ← expression call true
    if ← optionalPunct ";" then
      let _ ← expression call true
    else if !(← sees Look.atEnd) then
      punct ","
      expressions call

/-- An operand without what stands before or after it. -/
def operand (call : Calls) (braces : Bool) : Reader ExprKind := do
  let ts ← get
  if Look.literal ts then
    literal
    return .other
  if let some block := blockAhead? call ts then
    block
    return .block
  if Look.word "async" ts &&
      (Look.second (Look.opens .brace) ts ||
        (Look.second (Look.word "move") ts && Look.third (Look.opens .brace) ts)) then
    word "async"
    let _ ← optionalWord "move"
    plainBlock call
  else if beginsClosure ts then closure call braces
  else if Look.word "builtin" ts && Look.second (Look.punct "#") ts then
    word "builtin"
    punct "#"
    let _ ← ident
    let _ ← anyGroup [.paren]
  else if pathWord ts || Look.punct "::" ts || Look.punct "<" ts || (Look.word "try" ts &&
      (Look.second (Look.punct "!") ts || Look.second (Look.punct "::") ts)) then
    return ← pathOperand call braces
  else if Look.opens .paren ts then group .paren (expressions call)
  else if Look.word "break" ts then breakOut call braces
  else if Look.word "continue" ts then
    word "continue"
    optionalLifetime
  else if Look.words ["return", "yield"] ts then
    let _ ← anyWord
    let _ ← when beginsExpression (expression call true)
  else if Look.word "become" ts then
    word "become"
    let _ ← expression call true
  else if Look.opens .bracket ts then bracketOperand call
  else if Look.word "let" ts then
    word "let"
    let _ ← alternatives call
    punct "="
    let _ ← call (.climb braces (← call (.unary braces)) Level.comparison)
  else if Look.punct ".." ts then
    restOfRange call braces
    return .range
  else word "_"
  return .other

/-- An operand with what stands before and after it. -/
def readUnary (call : Calls) (braces : Bool) : Reader ExprKind := do
  let marked := !(← outerAttributes call).isEmpty
  let ts ← get
  if Look.punct "&" ts then
    punct "&"
    let raw : Look := fun ts =>
      Look.word "raw" ts && (Look.second (Look.word "mut") ts || Look.second (Look.word "const") ts)
    if ← sees raw then
      word "raw"
      let _ ← anyWord
    else
      let _ ← optionalWord "mut"
    let _ ← call (.unary braces)
    return .other
  if Look.punct "*" ts || Look.punct "!" ts || Look.punct "-" ts then
    let _ ← take some
    let _ ← call (.unary braces)
    return .other
  let kind ← accesses call (← operand call braces)
  if marked && kind = .range then refuse else return kind

end ClassExport.Source
