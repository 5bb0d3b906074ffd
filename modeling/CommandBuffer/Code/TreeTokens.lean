import CommandBuffer.Code.Tree

/-! # The tokens of a tree

The leaves of a tree in order. A tree says which brackets it has, so nothing is
added here to keep operators apart: whether the tokens are read back as the tree
depends on the operators inside it.
-/

namespace CommandBuffer.Code

def comma : Token := .mark ',' false

def word (spelling : String) : List Token := [.name spelling]

/-- Names joined by path separators. -/
def pathTokens (segments : List Name) : List Token :=
  separatedBy pathMark (segments.map fun name => word name.spelling)

def rootedPathTokens (isGlobal : Bool) (segments : List Name) : List Token :=
  (if isGlobal then pathMark else []) ++ pathTokens segments

def Name.tokens (name : Name) : List Token := word name.spelling

/-- The pieces with a comma between any two. -/
def commaSeparated (pieces : List (List Token)) : List Token := separatedBy [comma] pieces

/-- Tokens between angle brackets. -/
def angled (tokens : List Token) : List Token := operator ['<'] ++ tokens ++ operator ['>']

/-- The comma between an item and the rest, or behind the last item. -/
def commaBefore {α : Type} (rest : List α) (hasLastComma : Bool) : List Token :=
  if rest.isEmpty && !hasLastComma then [] else [comma]

namespace Ty

mutual

def tokens : Ty → List Token
  | path isGlobal segments => rootedPathTokens isGlobal segments
  | applied head arguments => head.tokens ++ angled (listTokens arguments)
  | unit => enclosed .round []
  | reference lifetime isMutable target =>
    operator ['&'] ++ (lifetime.map Token.lifetime).toList
      ++ (if isMutable then word "mut" else []) ++ tokens target
  | slice element => enclosed .square (tokens element)
  | array element length =>
    enclosed .square (tokens element ++ operator [';'] ++ [.literal (toString length)])

/-- The types with a comma between any two. -/
def listTokens : List Ty → List Token
  | [] => []
  | type :: rest => tokens type ++ commaBefore rest false ++ listTokens rest

end

end Ty

def Pattern.tokens : Pattern → List Token
  | wildcard => word "_"
  | bind isMutable name => (if isMutable then word "mut" else []) ++ name.tokens
  | number value => [.literal (toString value)]
  | path segments => pathTokens segments
  | some inner => word "Some" ++ enclosed .round inner.tokens
  | pair first second => enclosed .round (first.tokens ++ [comma] ++ second.tokens)

def PrefixOp.tokens : PrefixOp → List Token
  | negate => operator ['-']
  | complement => operator ['!']
  | deref => operator ['*']
  | borrow => operator ['&']
  | borrowMutably => operator ['&'] ++ word "mut"

def InfixOp.tokens (op : InfixOp) : List Token := operator op.text.toList

/-- The mark between a value and its members. -/
def dot : List Token := operator ['.']

namespace Expr

mutual

def tokens : Expr → List Token
  | path isGlobal segments => rootedPathTokens isGlobal segments
  | generic segments arguments =>
    pathTokens segments ++ pathMark ++ angled (Ty.listTokens arguments)
  | literal spelling => [.literal spelling]
  | placeholder => word "_"
  | prefixed op operand => op.tokens ++ tokens operand
  | infixed op left right => tokens left ++ op.tokens ++ tokens right
  | cast value type => tokens value ++ word "as" ++ type.tokens
  | paren inner => enclosed .round (tokens inner)
  | tuple items hasLastComma => enclosed .round (listTokens items hasLastComma)
  | array items hasLastComma => enclosed .square (listTokens items hasLastComma)
  | repeated item length => enclosed .square (tokens item ++ operator [';'] ++ tokens length)
  | field value name => tokens value ++ dot ++ name.tokens
  | component value position => tokens value ++ dot ++ [.literal position]
  | element value position => tokens value ++ enclosed .square (tokens position)
  | call function arguments hasLastComma =>
    tokens function ++ enclosed .round (listTokens arguments hasLastComma)
  | method value name types arguments hasLastComma =>
    tokens value ++ dot ++ name.tokens
      ++ (if types.isEmpty then [] else pathMark ++ angled (Ty.listTokens types))
      ++ enclosed .round (listTokens arguments hasLastComma)
  | attempt value => tokens value ++ operator ['?']
  | upTo bound => operator ['.', '.'] ++ tokens bound
  | closure parameter body => operator ['|'] ++ parameter.tokens ++ operator ['|'] ++ tokens body
  | expand macroPath arguments =>
    pathTokens macroPath ++ operator ['!'] ++ enclosed .round (listTokens arguments false)
  | vector item length =>
    word "vec" ++ operator ['!'] ++ enclosed .square (tokens item ++ operator [';'] ++ tokens length)
  | construct name fields values =>
    name.tokens ++ enclosed .curly (fieldTokens fields values)

/-- The expressions with a comma between any two, and one behind the last if it has one. -/
def listTokens : List Expr → Bool → List Token
  | [], _ => []
  | value :: rest, hasLastComma =>
    tokens value ++ commaBefore rest hasLastComma ++ listTokens rest hasLastComma

/-- The values with the names of their fields, a comma behind each. -/
def fieldTokens : List Name → List Expr → List Token
  | name :: names, value :: values =>
    name.tokens ++ operator [':'] ++ tokens value ++ [comma] ++ fieldTokens names values
  | _, _ => []

end

end Expr

/-- The end of a statement. -/
def semicolon : List Token := operator [';']

namespace Stmt

def armTokens (arm : Pattern × Expr) : List Token :=
  arm.1.tokens ++ operator ['=', '>'] ++ arm.2.tokens ++ [comma]

mutual

def tokens : Stmt → List Token
  | bind pattern type value =>
    word "let" ++ pattern.tokens
      ++ (type.map fun t => operator [':'] ++ t.tokens).getD []
      ++ operator ['='] ++ value.tokens ++ semicolon
  | bindOr pattern value otherwise =>
    word "let" ++ pattern.tokens ++ operator ['='] ++ value.tokens ++ word "else"
      ++ enclosed .curly (listTokens otherwise) ++ semicolon
  | when condition body => word "if" ++ condition.tokens ++ enclosed .curly (listTokens body)
  | whenMatches pattern value body =>
    word "if" ++ word "let" ++ pattern.tokens ++ operator ['='] ++ value.tokens
      ++ enclosed .curly (listTokens body)
  | assign target value => target.tokens ++ operator ['='] ++ value.tokens ++ semicolon
  | run value => value.tokens ++ semicolon
  | exit value => word "return" ++ (value.map Expr.tokens).getD [] ++ semicolon
  | result value => value.tokens
  | select subject arms =>
    word "match" ++ subject.tokens ++ enclosed .curly (arms.flatMap armTokens)

def listTokens : List Stmt → List Token
  | [] => []
  | stmt :: rest => tokens stmt ++ listTokens rest

end

end Stmt

def Attribute.body : Attribute → List Token
  | doc text => word "doc" ++ operator ['='] ++ [.literal (Text.quoted text)]
  | rawDoc text => word "doc" ++ operator ['='] ++ [.literal ("r\"" ++ text ++ "\"")]
  | test => word "test"
  | repr layout => word "repr" ++ enclosed .round layout.tokens
  | derive traits => word "derive" ++ enclosed .round (commaSeparated (traits.map Name.tokens))
  | allow lint => word "allow" ++ enclosed .round (pathTokens lint)

/-- The attribute of what follows it. -/
def Attribute.tokens (mark : Attribute) : List Token :=
  operator ['#'] ++ enclosed .square mark.body

/-- The attribute of the file that it stands in. -/
def Attribute.innerTokens (mark : Attribute) : List Token :=
  operator ['#'] ++ operator ['!'] ++ enclosed .square mark.body

def attributeTokens (attributes : List Attribute) : List Token := attributes.flatMap Attribute.tokens

def Visibility.tokens : Visibility → List Token
  | hidden => []
  | withinCrate => word "pub" ++ enclosed .round (word "crate")
  | everywhere => word "pub"

def Receiver.tokens : Receiver → List Token
  | byValue => word "self"
  | shared => operator ['&'] ++ word "self"
  | exclusive => operator ['&'] ++ word "mut" ++ word "self"

def Parameter.tokens (parameter : Parameter) : List Token :=
  parameter.name.tokens ++ operator [':'] ++ parameter.type.tokens

def Signature.tokens (signature : Signature) : List Token :=
  word "fn" ++ signature.name.tokens
    ++ enclosed .round (receiver ++ commaSeparated (signature.parameters.map Parameter.tokens))
    ++ (signature.result.map fun t => operator ['-', '>'] ++ t.tokens).getD []
where
  receiver : List Token :=
    match signature.receiver with
    | none => []
    | some receiver => receiver.tokens ++ commaBefore signature.parameters signature.isOpen

def Function.tokens (function : Function) : List Token :=
  attributeTokens function.attributes ++ function.visibility.tokens ++ function.signature.tokens
    ++ enclosed .curly (Stmt.listTokens function.body)

def Constant.tokens (constant : Constant) : List Token :=
  attributeTokens constant.attributes ++ constant.visibility.tokens ++ word "const"
    ++ constant.name.tokens ++ operator [':'] ++ constant.type.tokens
    ++ operator ['='] ++ constant.value.tokens ++ semicolon

def Member.tokens : Member → List Token
  | .constant member => member.tokens
  | .function member => member.tokens

def Prototype.tokens (prototype : Prototype) : List Token :=
  attributeTokens prototype.attributes ++ prototype.signature.tokens ++ semicolon

def Variant.tokens (variant : Variant) : List Token :=
  variant.name.tokens ++ operator ['='] ++ [.literal (toString variant.value), comma]

def Struct.tokens (struct : Struct) : List Token :=
  attributeTokens struct.attributes ++ word "pub" ++ word "struct" ++ struct.name.tokens
    ++ enclosed .curly (struct.fields.flatMap fun field => word "pub" ++ field.tokens ++ [comma])

namespace Item

def tokens : Item → List Token
  | importAll attributes path =>
    attributeTokens attributes ++ word "use" ++ path.tokens ++ pathMark ++ operator ['*'] ++ semicolon
  | .constant item => item.tokens
  | ensure condition =>
    word "const" ++ word "_" ++ operator [':'] ++ enclosed .round [] ++ operator ['=']
      ++ word "assert" ++ operator ['!'] ++ enclosed .round condition.tokens ++ semicolon
  | enumeration attributes name variants =>
    attributeTokens attributes ++ word "pub" ++ word "enum" ++ name.tokens
      ++ enclosed .curly (variants.flatMap Variant.tokens)
  | .struct item => item.tokens
  | unitStruct attributes name =>
    attributeTokens attributes ++ word "pub" ++ word "struct" ++ name.tokens ++ semicolon
  | typeAlias attributes name type =>
    attributeTokens attributes ++ word "pub" ++ word "type" ++ name.tokens ++ operator ['=']
      ++ type.tokens ++ semicolon
  | implement trait? target members =>
    word "impl" ++ (trait?.map fun name => name.tokens ++ word "for").getD []
      ++ target.tokens ++ enclosed .curly (members.flatMap Member.tokens)
  | interface attributes name methods =>
    attributeTokens attributes ++ word "pub" ++ word "trait" ++ name.tokens
      ++ enclosed .curly (methods.flatMap Prototype.tokens)
  | .function item => item.tokens

end Item

namespace SourceFile

def tokens (file : SourceFile) : List Token :=
  file.docs.flatMap Attribute.innerTokens ++ file.items.flatMap Item.tokens

/-- The code as text. -/
def text (file : SourceFile) : String := tokenText file.tokens

end SourceFile
end CommandBuffer.Code
