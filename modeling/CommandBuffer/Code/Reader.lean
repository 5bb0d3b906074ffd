import CommandBuffer.Code.Lexer
import CommandBuffer.Code.TreeTokens
import CommandBuffer.Text.Pieces

/-! # Reading expressions

Expressions are read back from their tokens with the precedence of the operators:
a cast binds tighter than any infix operator, and equal operators group to the
left. Two comparisons in a row have no grouping and are refused. The reader knows
the expressions that definitions are written with: literals, paths, operators,
casts, calls, members, indexing, brackets, tuples and arrays.
-/

namespace CommandBuffer.Code.Reader

/-- The keywords that may be segments of a path. -/
def segmentKeywords : List String := ["self", "Self", "super", "crate"]

/-- The spelling may be a segment of a path. -/
def isSegment (spelling : String) : Bool :=
  segmentKeywords.contains spelling || !(Name.verbatim spelling).isBare

/-- What follows an operator at the start of the tokens. -/
def afterMarks? : List Char → List Token → Option (List Token)
  | [], tokens => some tokens
  | [sign], .mark c _ :: rest => if c == sign then some rest else none
  | sign :: next :: signs, .mark c true :: rest =>
    if c == sign then afterMarks? (next :: signs) rest else none
  | _, _ => none

def startsWith (signs : List Char) (tokens : List Token) : Bool := (afterMarks? signs tokens).isSome

/-! ## Operators -/

/-- The operators that assign; no definition is written with one. -/
def assignments : List (List Char) :=
  [['+', '='], ['-', '='], ['*', '='], ['/', '='], ['%', '='], ['^', '='], ['&', '='], ['|', '='],
    ['<', '<', '='], ['>', '>', '=']]

/-- The infix operators, the longer ones first. -/
def longestFirst : List InfixOp :=
  InfixOp.all.filter (·.text.length == 2) ++ InfixOp.all.filter (·.text.length == 1)

/-- What can continue an expression. -/
inductive Continuation where
  | infixed (op : InfixOp)
  | cast
  deriving DecidableEq, Repr

/-- The level at which a cast binds. -/
def castLevel : Nat := 10

def Continuation.level : Continuation → Nat
  | .infixed op => op.level
  | .cast => castLevel

/-- The continuation at the start of the tokens, and what follows it. -/
def continuation? (tokens : List Token) : Option (Continuation × List Token) :=
  match tokens with
  | .name "as" :: rest => some (.cast, rest)
  | _ =>
    if assignments.any (startsWith · tokens) then none
    else longestFirst.findSome? fun op => (afterMarks? op.text.toList tokens).map (.infixed op, ·)

def prefixOps : List PrefixOp := [.borrow, .deref, .complement, .negate]

/-- The prefix operator at the start of the tokens, and what follows it. -/
def prefix? : List Token → Option (PrefixOp × List Token)
  | .mark '&' _ :: .name "mut" :: rest => some (.borrowMutably, rest)
  | .mark '&' _ :: rest => some (.borrow, rest)
  | .mark '*' _ :: rest => some (.deref, rest)
  | .mark '!' _ :: rest => some (.complement, rest)
  | .mark '-' _ :: rest => some (.negate, rest)
  | _ => none

/-! ## Paths and types -/

/-- The segments that follow a segment. -/
def furtherSegments : List Token → List Name × List Token
  | .mark ':' true :: .mark ':' isJoint :: .name spelling :: rest =>
    if isSegment spelling then
      let (segments, rest) := furtherSegments rest
      (.verbatim spelling :: segments, rest)
    else ([], .mark ':' true :: .mark ':' isJoint :: .name spelling :: rest)
  | tokens => ([], tokens)

/-- A path, which does not end in a separator. -/
def path? (tokens : List Token) : Option ((Bool × List Name) × List Token) :=
  let (isGlobal, start) := match afterMarks? [':', ':'] tokens with
    | some rest => (true, rest)
    | none => (false, tokens)
  match start with
  | .name spelling :: rest =>
    if isSegment spelling then
      let (segments, rest) := furtherSegments rest
      if startsWith [':', ':'] rest then none
      else some ((isGlobal, .verbatim spelling :: segments), rest)
    else none
  | _ => none

/-- The tokens would go on with the type or with the value of a cast. -/
def extendsCast (tokens : List Token) : Bool :=
  (startsWith ['<'] tokens && !startsWith ['<', '='] tokens) || startsWith ['?'] tokens
    || (startsWith ['.'] tokens && !startsWith ['.', '.'] tokens)
    || match tokens with
      | .opening delimiter :: _ => delimiter != .curly
      | _ => false

/-- The type of a cast: a path that nothing extends. -/
def castType? (tokens : List Token) : Option (Ty × List Token) :=
  match path? tokens with
  | some ((isGlobal, segments), rest) =>
    if extendsCast rest then none else some (.path isGlobal segments, rest)
  | none => none

/-! ## Members -/

/-- The positions of components fit into 32 bits. -/
def positionBound : Nat := 0x100000000

/-- The position that an integer without a suffix spells, in base ten. -/
def position? (spelling : List Char) : Option String :=
  let (base, digits) := match spelling with
    | '0' :: 'x' :: digits => (16, digits)
    | '0' :: 'o' :: digits => (8, digits)
    | '0' :: 'b' :: digits => (2, digits)
    | digits => (10, digits)
  let digits := digits.filter (· != '_')
  let value := digits.foldl (fun value digit => base * value + Literal.hexValue digit) 0
  if digits.isEmpty || !digits.all (Literal.isDigitIn base) || positionBound ≤ value then none
  else some (toString value)

/-- The components of a tuple that a literal behind a point selects, one after the
other; the flag says that the literal ends in a point of its own. -/
def components? (spelling : String) : Option (List String × Bool) :=
  let pieces := Text.splitOn '.' spelling.toList
  let isOpen := 1 < pieces.length && pieces.getLast?.any List.isEmpty
  ((if isOpen then pieces.dropLast else pieces).mapM position?).map (·, isOpen)

def Expr.components (value : Expr) : List String → Expr := List.foldl .component value

/-- The value is a comparison that no bracket closes. -/
def isComparison : Expr → Bool
  | .infixed op _ _ => op.isComparison
  | _ => false

/-! ## Expressions -/

mutual

/-- An expression at the start of the tokens. -/
def expr? : Nat → List Token → Option (Expr × List Token)
  | 0, _ => none
  | fuel + 1, tokens => do
    let (operand, rest) ← operand? fuel tokens
    continue? fuel 0 operand rest

/-- Extends a value by every continuation that binds at least at the level. -/
def continue? : Nat → Nat → Expr → List Token → Option (Expr × List Token)
  | 0, _, _, _ => none
  | fuel + 1, level, value, tokens =>
    match continuation? tokens with
    | none => some (value, tokens)
    | some (.cast, rest) => do
      let (type, rest) ← castType? rest
      continue? fuel level (.cast value type) rest
    | some (.infixed op, rest) =>
      if op.level < level then some (value, tokens)
      else if op.isComparison && isComparison value then none
      else do
        let (right, rest) ← operand? fuel rest
        let (right, rest) ← tighten? fuel op.level right rest
        continue? fuel level (.infixed op value right) rest

/-- Extends the right side of an operator by what binds tighter than its level. -/
def tighten? : Nat → Nat → Expr → List Token → Option (Expr × List Token)
  | 0, _, _, _ => none
  | fuel + 1, level, value, tokens =>
    match continuation? tokens with
    | none => some (value, tokens)
    | some (next, _) =>
      if next.level ≤ level then some (value, tokens)
      else do
        let (value, rest) ← continue? fuel next.level value tokens
        tighten? fuel level value rest

/-- A value with its prefix operators and members. -/
def operand? : Nat → List Token → Option (Expr × List Token)
  | 0, _ => none
  | fuel + 1, tokens =>
    match prefix? tokens with
    | some (op, rest) => do
      let (operand, rest) ← operand? fuel rest
      return (.prefixed op operand, rest)
    | none => do
      let (value, rest) ← atom? fuel tokens
      members? fuel value rest

/-- A literal, a placeholder, a path, or an expression in brackets. -/
def atom? : Nat → List Token → Option (Expr × List Token)
  | 0, _ => none
  | _ + 1, .literal spelling :: rest => some (.literal spelling, rest)
  | _ + 1, .name "true" :: rest => some (.literal "true", rest)
  | _ + 1, .name "false" :: rest => some (.literal "false", rest)
  | _ + 1, .name "_" :: rest => some (.placeholder, rest)
  | fuel + 1, .opening .round :: rest => do
    let ((items, hasLastComma), rest) ← items? fuel .round rest
    match items, hasLastComma with
    | [inner], false => return (.paren inner, rest)
    | items, hasLastComma => return (.tuple items hasLastComma, rest)
  | _ + 1, .opening .square :: .closing .square :: rest => some (.array [] false, rest)
  | fuel + 1, .opening .square :: rest => do
    let (first, after) ← expr? fuel rest
    match afterMarks? [';'] after with
    | some after => do
      let (length, after) ← expr? fuel after
      match after with
      | .closing .square :: after => return (.repeated first length, after)
      | _ => none
    | none => do
      let ((items, hasLastComma), after) ← furtherItems? fuel .square first after
      return (.array items hasLastComma, after)
  | _ + 1, tokens => do
    let ((isGlobal, segments), rest) ← path? tokens
    return (.path isGlobal segments, rest)

/-- Extends a value by calls, members, indexing and early returns. -/
def members? : Nat → Expr → List Token → Option (Expr × List Token)
  | 0, _, _ => none
  | fuel + 1, value, .opening .round :: rest => do
    let ((arguments, hasLastComma), rest) ← items? fuel .round rest
    members? fuel (.call value arguments hasLastComma) rest
  | fuel + 1, value, .opening .square :: rest => do
    let (position, rest) ← expr? fuel rest
    match rest with
    | .closing .square :: rest => members? fuel (.element value position) rest
    | _ => none
  | fuel + 1, value, .mark '?' _ :: rest => members? fuel (.attempt value) rest
  | _ + 1, value, .mark '.' true :: .mark '.' isJoint :: rest =>
    some (value, .mark '.' true :: .mark '.' isJoint :: rest)
  | fuel + 1, value, .mark '.' _ :: .literal spelling :: rest => do
    let (positions, isOpen) ← components? spelling
    let value := Expr.components value positions
    if isOpen then named? fuel value rest else members? fuel value rest
  | fuel + 1, value, .mark '.' _ :: rest => named? fuel value rest
  | _ + 1, value, tokens => some (value, tokens)

/-- A member with a name: a field, or a method with its arguments. -/
def named? : Nat → Expr → List Token → Option (Expr × List Token)
  | 0, _, _ => none
  | fuel + 1, value, .name spelling :: .opening .round :: rest =>
    if (Name.verbatim spelling).isBare then none
    else do
      let ((arguments, hasLastComma), rest) ← items? fuel .round rest
      members? fuel (.method value (.verbatim spelling) [] arguments hasLastComma) rest
  | fuel + 1, value, .name spelling :: rest =>
    if (Name.verbatim spelling).isBare then none
    else members? fuel (.field value (.verbatim spelling)) rest
  | _ + 1, _, _ => none

/-- Expressions with commas between them, up to the closing bracket. -/
def items? : Nat → Delimiter → List Token → Option ((List Expr × Bool) × List Token)
  | 0, _, _ => none
  | fuel + 1, delimiter, tokens =>
    match tokens with
    | .closing closed :: rest => if closed == delimiter then some (([], false), rest) else none
    | _ => do
      let (item, rest) ← expr? fuel tokens
      furtherItems? fuel delimiter item rest

/-- An expression with those that follow it behind commas, up to the closing bracket. -/
def furtherItems? : Nat → Delimiter → Expr → List Token → Option ((List Expr × Bool) × List Token)
  | fuel + 1, delimiter, item, .mark ',' _ :: rest => do
    let ((items, hasLastComma), rest) ← items? fuel delimiter rest
    return ((item :: items, items.isEmpty || hasLastComma), rest)
  | _ + 1, delimiter, item, .closing closed :: rest =>
    if closed == delimiter then some (([item], false), rest) else none
  | _, _, _, _ => none

end

/-- Every token is read by at most six steps. -/
def stepsFor (tokens : List Token) : Nat := 6 * (tokens.length + 1)

/-- The expression that the tokens spell, all of them. -/
def read? (tokens : List Token) : Option Expr :=
  match expr? (stepsFor tokens) tokens with
  | some (value, []) => some value
  | _ => none

/-- The expression that a text spells. -/
def readText? (text : String) : Option Expr := Lexer.read? text.toList >>= read?

end CommandBuffer.Code.Reader
