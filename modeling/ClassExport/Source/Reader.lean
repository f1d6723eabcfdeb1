import ClassExport.Source.Token

/-! Readers of token lists, and what can be seen at the head of a list. -/
namespace ClassExport.Source

/-- Takes tokens off the front, or refuses. -/
abbrev Reader := StateT (List Token) Option

/-- A question about the tokens ahead. -/
abbrev Look := List Token → Bool

namespace Look

def either (a b : Look) : Look := fun ts => a ts || b ts

def butNot (a b : Look) : Look := fun ts => a ts && !b ts

/-- What holds after one token or group. -/
def second (a : Look) : Look := fun ts => (afterTree? ts).any a

def third (a : Look) : Look := fun ts => ((afterTree? ts).bind afterTree?).any a

/-- The end of the enclosing group, or of the text. -/
def atEnd : Look
  | [] | .closing _ :: _ => true
  | _ => false

def opens (d : Delimiter) : Look
  | .opening e :: _ => d = e
  | _ => false

def word (w : String) : Look
  | .word v :: _ => v.text = w
  | _ => false

def anyWord : Look
  | .word _ :: _ => true
  | _ => false

def lifetime : Look
  | .lifetime _ :: _ => true
  | _ => false

end Look

/-- Words that name nothing; a raw identifier is none of them. -/
def keywords : List String := [
  "_", "abstract", "as", "async", "await", "become", "box", "break", "const",
    "continue", "crate", "do",
  "dyn", "else", "enum", "extern", "false", "final", "fn", "for", "if", "impl", "in", "let", "loop",
  "macro", "match", "mod", "move", "mut", "override", "priv", "pub", "ref",
    "return", "Self", "self",
  "static", "struct", "super", "trait", "true", "try", "type", "typeof", "unsafe", "unsized", "use",
  "virtual", "where", "while", "yield"]

namespace Look

def ident : Look
  | .word w :: _ => !keywords.contains w.text
  | _ => false

def words (ws : List String) : Look
  | .word w :: _ => ws.contains w.text
  | _ => false

/-- A number, a string or character, `true` or `false`; a number may have a minus sign. -/
def literal : Look
  | .literal _ :: _ => true
  | .word w :: _ => w.text = "true" || w.text = "false"
  | .punct '-' _ :: .literal text :: _ => text.toList.head?.any Char.isDigit
  | _ => false

end Look

/-- The tokens after punctuation whose characters all but the last are joint to the next. -/
def afterPunct? : List Char → List Token → Option (List Token)
  | [c], .punct d _ :: ts => if c = d then some ts else none
  | c :: cs, .punct d true :: ts => if c = d then afterPunct? cs ts else none
  | _, _ => none

def Look.punct (p : String) : Look := fun ts => (afterPunct? p.toList ts).isSome

namespace Reader

def refuse : Reader α := fun _ => none

def sees (a : Look) : Reader Bool := fun ts => some (a ts, ts)

/-- Takes one token of which `f` makes a result. -/
def take (f : Token → Option α) : Reader α
  | t :: ts => (f t).map (·, ts)
  | [] => none

/-- Takes any word, keywords too. -/
def anyWord : Reader String := take fun
  | .word w => some w.text
  | _ => none

def ident : Reader String := take fun
  | .word w => if keywords.contains w.text then none else some w.text
  | _ => none

def word (w : String) : Reader Unit := take fun
  | .word v => if v.text = w then some () else none
  | _ => none

def lifetime : Reader Unit := take fun
  | .lifetime _ => some ()
  | _ => none

def punct (p : String) : Reader Unit := fun ts => (afterPunct? p.toList ts).map ((), ·)

/-- Reads `r` where `a` is seen, and tells whether it did. -/
def when (a : Look) (r : Reader α) : Reader (Option α) := do
  if ← sees a then some <$> r else return none

def optionalWord (w : String) : Reader Bool := return (← when (Look.word w) (word w)).isSome

def optionalPunct (p : String) : Reader Bool := return (← when (Look.punct p) (punct p)).isSome

def optionalLifetime : Reader Unit := do
  let _ ← when Look.lifetime lifetime

def literal : Reader Unit := fun ts =>
  if Look.literal ts then
    match ts with
    | .punct _ _ :: _ :: ts => some ((), ts)
    | _ :: ts => some ((), ts)
    | [] => none
  else none

/-- A literal that `p` accepts. -/
def literalWith (p : String → Bool) : Reader String := take fun
  | .literal text => if p text then some text else none
  | _ => none

/-- A bracketed group whose whole content `content` reads. -/
def group (d : Delimiter) (content : Reader α) : Reader α := do
  take fun t => if t = .opening d then some () else none
  let result ← content
  take fun t => if t = .closing d then some () else none
  return result

/-- A bracketed group of any content. -/
def anyGroup (ds : List Delimiter) : Reader Delimiter
  | .opening d :: ts => if ds.contains d then some (d, afterGroup 0 ts) else none
  | _ => none

/-- Reads if it can, and takes nothing if it cannot. -/
def attempt (r : Reader α) : Reader (Option α) := fun ts =>
  match r ts with
  | some (a, rest) => some (some a, rest)
  | none => some (none, ts)

/-- The tokens that `r` would leave, which it must be able to read; nothing is taken. -/
def after (r : Reader α) : Reader (List Token) := fun ts => (r ts).map fun (_, rest) => (rest, ts)

/-- Tells also whether the last token taken closes a brace. -/
def endingInBrace (r : Reader α) : Reader (α × Bool) := fun ts =>
  (r ts).map fun (a, rest) =>
    ((a, (ts.take (ts.length - rest.length)).getLast? == some (.closing .brace)), rest)

def loopWithin (step : σ → Reader (σ ⊕ α)) : Nat → σ → Reader α
  | 0, _ => refuse
  | fuel + 1, state => do
    match ← step state with
    | .inl state => loopWithin step fuel state
    | .inr result => return result

/-- Repeats a step that takes a token or more each time it does not end. -/
def loop (step : σ → Reader (σ ⊕ α)) (start : σ) : Reader α := fun ts =>
  loopWithin step (ts.length + 1) start ts

/-- Repeats `r` as long as `a` is seen. -/
def many (a : Look) (r : Reader α) : Reader (List α) :=
  loop (fun acc => do
    if ← sees a then return .inl ((← r) :: acc) else return .inr acc.reverse) []

/-- Reads up to the end of the group. -/
def toEnd (r : Reader α) : Reader (List α) := many (fun ts => !Look.atEnd ts) r

/-- Reads to the end of the group with `separator` between; one may stand at the end. -/
def separated (separator : String) (r : Reader α) : Reader (List α) :=
  loop (fun acc => do
    if ← sees Look.atEnd then return .inr acc.reverse
    let acc := (← r) :: acc
    if ← sees Look.atEnd then return .inr acc.reverse
    punct separator
    return .inl acc) []

/-- Reads up to what `stop` sees, with `separator` between; one may stand at the end. -/
def separatedUntil (stop : Look) (separator : String) (r : Reader α) : Reader (List α) :=
  loop (fun acc => do
    if ← sees stop then return .inr acc.reverse
    let acc := (← r) :: acc
    if ← sees stop then return .inr acc.reverse
    punct separator
    return .inl acc) []

/-- Like `separatedUntil`, but the list also ends where no separator follows. -/
def separatedWhile (stop : Look) (separator : String) (r : Reader α) : Reader (List α) :=
  loop (fun acc => do
    if ← sees stop then return .inr acc.reverse
    let acc := (← r) :: acc
    if ← optionalPunct separator then return .inl acc else return .inr acc.reverse) []

end Reader
end ClassExport.Source
