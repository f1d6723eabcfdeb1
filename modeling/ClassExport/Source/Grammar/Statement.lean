import ClassExport.Source.Grammar.Item

/-! Statements. -/
namespace ClassExport.Source

open Reader

/-- Whether an item begins, apart from one that a macro makes. -/
def beginsItem : Look := fun ts =>
  let second (w : String) : Bool := Look.second (Look.word w) ts
  let third (w : String) : Bool := Look.third (Look.word w) ts
  let bar : Look := Look.punct "|"
  Look.words ["pub", "extern", "use", "fn", "mod", "type", "struct", "enum", "trait",
    "impl", "macro"] ts ||
    (Look.word "crate" ts && !Look.second (Look.punct "::") ts) ||
    (Look.word "static" ts && (second "mut" || Look.second Look.ident ts)) ||
    (Look.word "const" ts &&
      !(Look.second (Look.opens .brace) ts || second "static" ||
        (second "async" && !(third "unsafe" || third "extern" || third "fn")) ||
        second "move" || Look.second bar ts)) ||
    (Look.word "unsafe" ts && !Look.second (Look.opens .brace) ts) ||
    (Look.word "async" ts && (second "unsafe" || second "extern" || second "fn")) ||
    (Look.word "union" ts && Look.second Look.ident ts) ||
    (Look.word "auto" ts && second "trait") ||
    (Look.word "default" ts && (second "unsafe" || second "impl"))

inductive MacroPlace where
  | item
  | statement

/-- A macro that is no expression: it has a name of its own, or it has braces and nothing is done
with what it gives. -/
def macroAhead? (ts : List Token) : Option MacroPlace :=
  match plainPath ts with
  | none => none
  | some (_, ts) =>
    if !Look.punct "!" ts then none
    else if Look.second Look.ident ts || Look.second (Look.word "try") ts then some .item
    else if Look.second (Look.opens .brace) ts && !Look.third isDot ts &&
      !Look.third (Look.punct "?") ts then
      some .statement
    else none

/-- A binding; a block for when the pattern does not fit may follow a value that ends in no
brace. -/
def localBinding (call : Calls) : Reader Unit := do
  word "let"
  let _ ← call .pattern
  if ← optionalPunct ":" then
    let _ ← call (.type true)
  if ← optionalPunct "=" then
    let (_, braced) ← endingInBrace (expression call true)
    if !braced && (← optionalWord "else") then plainBlock call
  punct ";"

/-- A statement; tells whether it ends by itself. -/
def statement (call : Calls) : Reader Bool := do
  let _ ← outerAttributes call
  let ts ← get
  match macroAhead? ts with
  | some .statement =>
    let _ ← plainPath
    punct "!"
    let _ ← anyGroup anyDelimiter
    let _ ← optionalPunct ";"
    return true
  | some .item =>
    let _ ← restOfItem call
    return true
  | none =>
    if Look.word "let" ts then
      localBinding call
      return true
    if beginsItem ts then
      let _ ← restOfItem call
      return true
    let kind ← call .early
    let closed ← optionalPunct ";"
    return closed || kind = .block || kind = .invocation .brace

/-- Statements up to the end of the group; only the last need not end by itself. -/
def readStatements (call : Calls) : Reader Unit :=
  loop (fun _ => do
    let _ ← many (Look.punct ";") (punct ";")
    if ← sees Look.atEnd then return .inr ()
    let closed ← statement call
    if ← sees Look.atEnd then return .inr ()
    if closed then return .inl () else refuse) ()

end ClassExport.Source
