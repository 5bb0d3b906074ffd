import CommandBuffer.Code.Reader

/-! # Reading module paths

A module path is a sequence of segments with separators between them and, perhaps,
one in front. The keywords that name a module take no generic arguments. Generic
arguments are lifetimes, constants and types, the types without bounds and functions.
-/

namespace CommandBuffer.Code.ModulePath
open Reader

/-- The keywords that stand for a module. -/
def moduleKeywords : List String := ["self", "super", "crate", "try"]

/-- Generic arguments start here, perhaps behind a separator. -/
def generics? (tokens : List Token) : Option (List Token × List Token) :=
  match afterMarks? [':', ':', '<'] tokens <|> afterMarks? [':', ':'] tokens >>= afterMarks? ['<'] with
  | some rest => some (pathMark ++ operator ['<'], rest)
  | none =>
    if startsWith ['<', '='] tokens then none
    else (afterMarks? ['<'] tokens).map (operator ['<'], ·)

/-- A generic argument as it is written out. -/
structure GenericArgument where
  isLifetime : Bool := false
  tokens : List Token
  deriving DecidableEq, Repr

/-- Generic arguments with the commas between them. Lifetimes come first; then what came
before a last lifetime keeps the comma that it had. -/
def genericTokens (arguments : List GenericArgument) (hasLastComma : Bool) : List Token :=
  let (lifetimes, others) := arguments.partition (·.isLifetime)
  let keepsComma := !others.isEmpty && arguments.getLast?.any (·.isLifetime)
  commaSeparated ((lifetimes ++ others).map (·.tokens))
    ++ if hasLastComma || keepsComma then [comma] else []

/-- A literal, of which a number may have a sign. -/
def constant? : List Token → Option (List Token × List Token)
  | .literal spelling :: rest => some ([.literal spelling], rest)
  | .name "true" :: rest => some (word "true", rest)
  | .name "false" :: rest => some (word "false", rest)
  | .mark '-' _ :: .literal spelling :: rest =>
    if spelling.toList.head?.any Char.isDigit then some (operator ['-'] ++ [.literal spelling], rest)
    else none
  | _ => none

/-- A type that starts here is a path. -/
def startsPath : List Token → Bool
  | .name spelling :: _ => isSegment spelling
  | tokens => startsWith [':', ':'] tokens

/-- What stands between the mark of a reference and its type. -/
def qualifier : List Token → List Token × List Token
  | .lifetime label :: .name "mut" :: rest => (.lifetime label :: word "mut", rest)
  | .lifetime label :: rest => ([.lifetime label], rest)
  | .name "mut" :: rest => (word "mut", rest)
  | rest => ([], rest)

mutual

/-- The segments at the start of the tokens, with what follows them. -/
def segments? : Nat → List Token → Option (List PathSegment × List Token)
  | 0, _ => none
  | fuel + 1, .name spelling :: rest => do
    let (segment, rest) ← segment? fuel spelling rest
    match afterMarks? [':', ':'] rest with
    | none => return ([segment], rest)
    | some rest => do
      let (segments, rest) ← segments? fuel rest
      return (segment :: segments, rest)
  | _ + 1, _ => none

/-- The segment with a name, and the generic arguments that follow it. -/
def segment? : Nat → String → List Token → Option (PathSegment × List Token)
  | 0, _, _ => none
  | fuel + 1, spelling, tokens =>
    if moduleKeywords.contains spelling then some (⟨spelling, []⟩, tokens)
    else if isSegment spelling then
      match generics? tokens with
      | none => some (⟨spelling, []⟩, tokens)
      | some (start, rest) => do
        let ((arguments, hasLastComma), rest) ← arguments? fuel rest
        let generics := start ++ genericTokens arguments hasLastComma ++ operator ['>']
        return (⟨spelling, generics⟩, rest)
    else none

/-- A path and what follows it. -/
def path? : Nat → List Token → Option (ModulePath × List Token)
  | 0, _ => none
  | fuel + 1, tokens => do
    let isGlobal := startsWith [':', ':'] tokens
    let (segments, rest) ← segments? fuel ((afterMarks? [':', ':'] tokens).getD tokens)
    return ({ isGlobal, segments }, rest)

/-- Generic arguments up to the closing bracket. -/
def arguments? : Nat → List Token → Option ((List GenericArgument × Bool) × List Token)
  | 0, _ => none
  | fuel + 1, tokens =>
    match afterMarks? ['>'] tokens with
    | some rest => some (([], false), rest)
    | none => do
      let (argument, rest) ← argument? fuel tokens
      match afterMarks? [','] rest with
      | some rest => do
        let ((arguments, hasLastComma), rest) ← arguments? fuel rest
        return ((argument :: arguments, arguments.isEmpty || hasLastComma), rest)
      | none => (afterMarks? ['>'] rest).map (([argument], false), ·)

/-- One generic argument; a name may be set to a constant or a type. -/
def argument? : Nat → List Token → Option (GenericArgument × List Token)
  | 0, _ => none
  | _ + 1, .lifetime label :: rest => some ({ isLifetime := true, tokens := [.lifetime label] }, rest)
  | fuel + 1, tokens =>
    match constant? tokens with
    | some (value, rest) => some ({ tokens := value }, rest)
    | none =>
      if startsPath tokens then do
        let (path, rest) ← path? fuel tokens
        match afterMarks? ['='] rest with
        | none => return ({ tokens := path.tokens }, rest)
        | some rest =>
          if path.isGlobal || 1 < path.segments.length then none
          else do
            let (value, rest) ← constant? rest <|> type? fuel rest
            return ({ tokens := path.tokens ++ operator ['='] ++ value }, rest)
      else do
        let (type, rest) ← type? fuel tokens
        return ({ tokens := type }, rest)

/-- A type as it is written out. -/
def type? : Nat → List Token → Option (List Token × List Token)
  | 0, _ => none
  | _ + 1, .name "_" :: rest => some (word "_", rest)
  | _ + 1, .mark '!' _ :: rest => some (operator ['!'], rest)
  | fuel + 1, .mark '&' _ :: rest => do
    let (target, after) ← type? fuel (qualifier rest).2
    return (operator ['&'] ++ (qualifier rest).1 ++ target, after)
  | fuel + 1, .mark '*' _ :: .name kind :: rest => do
    let (target, after) ← type? fuel rest
    if kind == "const" || kind == "mut" then return (operator ['*'] ++ word kind ++ target, after)
    else none
  | fuel + 1, .opening .round :: rest => do
    let (types, rest) ← types? fuel rest
    return (enclosed .round types, rest)
  | fuel + 1, .opening .square :: rest => do
    let (element, rest) ← type? fuel rest
    match rest with
    | .closing .square :: rest => return (enclosed .square element, rest)
    | rest => do
      let (length, rest) ← afterMarks? [';'] rest >>= expr? fuel
      match rest with
      | .closing .square :: rest =>
        return (enclosed .square (element ++ operator [';'] ++ length.tokens), rest)
      | _ => none
  | fuel + 1, tokens =>
    if startsPath tokens then do
      let (path, rest) ← path? fuel tokens
      return (path.tokens, rest)
    else none

/-- Types with commas between them, up to the closing bracket. -/
def types? : Nat → List Token → Option (List Token × List Token)
  | 0, _ => none
  | _ + 1, .closing .round :: rest => some ([], rest)
  | fuel + 1, tokens => do
    let (type, rest) ← type? fuel tokens
    match rest with
    | .mark ',' _ :: rest => do
      let (types, rest) ← types? fuel rest
      return (type ++ comma :: types, rest)
    | .closing .round :: rest => return (type, rest)
    | _ => none

end

/-- The path that the tokens spell, all of them. -/
def ofTokens? (tokens : List Token) : Option ModulePath :=
  match path? (stepsFor tokens) tokens with
  | some (path, []) => some path
  | _ => none

/-- The path that a text spells. -/
def ofText? (text : String) : Option ModulePath := Lexer.read? text.toList >>= ofTokens?

end CommandBuffer.Code.ModulePath
