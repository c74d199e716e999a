import ObjectGraph.Declaration.ItemPath
import ObjectGraph.Declaration.Pattern

/-!
The extent of a constant expression: the length of an array, or an argument in braces. Everything
that computes a value may stand there, so the patterns are those of expressions, of the statements
in blocks, and of the shapes that values are matched with. Nothing is computed; the patterns say
whether tokens are an expression.
-/

set_option autoImplicit false
namespace ObjectGraph.Declaration

/-- The rules of expressions. Where what is asked for ends before a brace, as a condition does, no
fields in braces may stand behind a path. -/
inductive ExpressionRule where
  | expression (mayHaveFields : Bool)
  | logic (mayHaveFields : Bool)
  | comparison (mayHaveFields : Bool)
  | sum (mayHaveFields : Bool)
  | operand (mayHaveFields : Bool)
  | atom (mayHaveFields : Bool)
  | ordered
  | choice
  | block
  | statement
  | cases
  | shape
deriving DecidableEq, Repr

namespace ExpressionRule

open Pattern

abbrev Form := Pattern ExpressionRule

def whole : Form :=
  rule (expression true)

def name : Form :=
  token fun
    | .word text => isIdentifierWord text
    | _ => false

def literal : Form :=
  token fun
    | .literal _ | .word "true" | .word "false" => true
    | _ => false

/-- A lifetime, which is also how a loop is named. -/
def label : Form :=
  token fun
    | .lifetime _ => true
    | _ => false

def braces : Form :=
  inside .curly (many tree)

def attributes : Form :=
  many (all [marks "#", inside .square (many tree)])

def ownAttributes : Form :=
  many (all [marks "#", marks "!", inside .square (many tree)])

/-- The sign of a range and its upper bound. Only behind the plain sign it may be missing. -/
def rangeTo (bound : Form) : Form :=
  any [all [marks "..=", bound], all [no (marks "..."), marks "..", maybe bound]]

def sign (text : String) (longer : List String) : Form :=
  all [no (any (longer.map marks)), marks text]

def comparisonSign : Form :=
  any [marks "==", marks "!=", marks "<=", marks ">=", sign "<" ["<<"], sign ">" [">>"]]

def operator : Form :=
  any [sign "<<" ["<<="], sign ">>" [">>="], sign "&" ["&&", "&="], sign "|" ["||", "|="],
    sign "+" ["+="], sign "-" ["-="], sign "*" ["*="], sign "/" ["/="], sign "%" ["%="],
    sign "^" ["^="]]

def assignment : Form :=
  any (sign "=" ["==", "=>"]
    :: ["+=", "-=", "*=", "/=", "%=", "^=", "&=", "|=", "<<=", ">>="].map marks)

/-- Whether a value goes on with one of its members, or with the way out of a failure. -/
def goesOn : Form :=
  any [marks "?", sign "." [".."]]

def expansion : Form :=
  all [sign "!" ["!="], brackets]

def fieldValue : Form :=
  all [attributes, any [all [any [name, literal], marks ":", whole], name]]

def fieldsWith (field others : Form) : Form :=
  inside .curly (maybe (any [others,
    all [field, many (all [marks ",", field]), maybe (all [marks ",", maybe others])]]))

def member : Form :=
  all [sign "." [".."], any [word "await", literal, path]]

def closureParameters : Form :=
  let parameter := all [attributes, rule shape, maybe (all [marks ":", type true])]
  all [marks "|", list parameter, marks "|"]

def closure (mayHaveFields : Bool) : Form :=
  all [maybe (word "static"), maybe (word "async"), maybe (word "move"), closureParameters,
    any [all [marks "->", type true, rule block], rule (expression mayHaveFields)]]

def leave (mayHaveFields : Bool) : Form :=
  let value := maybe (all [if mayHaveFields then nothing else no braces,
    rule (expression mayHaveFields)])
  any [all [word "break", maybe label, value], all [word "continue", maybe label],
    all [words ["return", "yield"], value]]

def items : Form :=
  inside .square (maybe (all [whole, any [
    all [marks ";", whole],
    all [many (all [marks ",", whole]), maybe (marks ",")]]]))

/-- An expression: a range of values, or a place and what it is given. -/
def expressionForm (mayHaveFields : Bool) : Form :=
  let bound := all [if mayHaveFields then nothing else no braces, rule (logic mayHaveFields)]
  let range := any [rangeTo bound,
    all [rule (logic mayHaveFields), maybe (all [rangeTo bound, no (marks "..")])]]
  all [range, maybe (all [assignment, rule (expression mayHaveFields)])]

/-- An operand with the signs in front of it and the members, calls and indices behind it. -/
def operandForm (mayHaveFields : Bool) : Form :=
  let referred := maybe (any [all [word "raw", words ["const", "mut"]], word "mut"])
  all [attributes, any [
    all [marks "&", referred, rule (operand mayHaveFields)],
    all [any [marks "*", marks "!", marks "-"], rule (operand mayHaveFields)],
    all [rule (atom mayHaveFields),
      many (any [inside .round (list whole), inside .square whole, marks "?", member])]]]

def atomForm (mayHaveFields : Bool) : Form :=
  any [
    literal,
    word "_",
    inside .round (list whole),
    items,
    rule ordered,
    closure mayHaveFields,
    leave mayHaveFields,
    all [word "async", maybe (word "move"), rule block],
    all [word "let", rule cases, sign "=" ["=="], rule (comparison false)],
    all [path, any [
      expansion,
      if mayHaveFields then fieldsWith fieldValue (all [marks "..", maybe whole]) else no nothing,
      nothing]]]

/-- What is done for the first of some cases that a value has the shape of. -/
def caseForm : Form :=
  all [attributes, rule cases, maybe (all [word "if", whole]), marks "=>", any [
    all [rule ordered, no goesOn, maybe (marks ",")],
    all [whole, any [marks ",", atEnd]]]]

/-- What a block orders: a choice, cases, a loop, or a block itself. -/
def orderedForm : Form :=
  any [
    rule choice,
    all [word "match", rule (expression false), inside .curly (all [ownAttributes, many caseForm])],
    all [words ["unsafe", "const", "try"], rule block],
    all [maybe (all [label, marks ":"]), any [
      all [word "while", rule (expression false), rule block],
      all [word "for", rule cases, word "in", rule (expression false), rule block],
      all [word "loop", rule block],
      rule block]]]

def choiceForm : Form :=
  all [word "if", rule (expression false), rule block,
    maybe (all [word "else", any [rule choice, rule block]])]

def binding : Form :=
  all [word "let", rule shape, maybe (all [marks ":", type true]),
    maybe (all [marks "=", whole, maybe (all [word "else", rule block])]), marks ";"]

/-- A declaration among statements, of which only the extent matters. -/
def declaration : Form :=
  all [
    any [
      words ["enum", "extern", "fn", "impl", "mod", "pub", "static", "struct", "trait", "type",
        "use"],
      all [words ["const", "unsafe", "async"], no (any [braces, word "move", marks "|"])],
      all [word "macro_rules", marks "!"]],
    many (all [no (any [marks ";", braces]), tree]),
    any [marks ";", braces]]

/-- A statement. An expression ends with a semicolon or at the end of the block, unless it is an
order that ends with a block of its own. -/
def statementForm : Form :=
  any [
    marks ";",
    all [attributes, any [
      binding,
      declaration,
      all [rule ordered, no goesOn],
      all [path, marks "!", braces, no goesOn],
      all [no (word "let"), whole, any [marks ";", atEnd]]]]]

def casesForm : Form :=
  all [maybe (marks "|"), rule shape, many (all [sign "|" ["||"], rule shape])]

def fieldShape : Form :=
  all [attributes, any [
    all [any [name, literal], marks ":", rule cases],
    all [maybe (word "ref"), maybe (word "mut"), name]]]

def shapeForm : Form :=
  let constant := any [literal, all [marks "-", literal]]
  let bound := any [constant, path]
  let inner := maybe (all [marks "@", rule shape])
  any [
    word "_",
    all [marks "&", maybe (word "mut"), rule shape],
    inside .round (list (rule cases)),
    inside .square (list (rule cases)),
    rangeTo bound,
    all [constant, maybe (rangeTo bound)],
    all [word "ref", maybe (word "mut"), name, inner],
    all [word "mut", name, inner],
    all [word "const", rule block],
    all [path, any [
      expansion,
      inside .round (list (rule cases)),
      fieldsWith fieldShape (marks ".."),
      all [marks "@", rule shape],
      rangeTo bound,
      nothing]]]

def form : ExpressionRule → Form
  | expression mayHaveFields => expressionForm mayHaveFields
  | logic mayHaveFields =>
    let compared := rule (comparison mayHaveFields)
    all [compared, many (all [any [marks "||", marks "&&"], compared])]
  | comparison mayHaveFields =>
    let compared := rule (sum mayHaveFields)
    all [compared, maybe (all [comparisonSign, compared, no comparisonSign])]
  | sum mayHaveFields =>
    let added := rule (operand mayHaveFields)
    all [added, many (any [all [word "as", type false], all [operator, added]])]
  | operand mayHaveFields => operandForm mayHaveFields
  | atom mayHaveFields => atomForm mayHaveFields
  | ordered => orderedForm
  | choice => choiceForm
  | block => inside .curly (all [ownAttributes, many (rule statement)])
  | statement => statementForm
  | cases => casesForm
  | shape => shapeForm

end ExpressionRule

namespace Expression

def depthFor (tokens : List Token) : Nat :=
  512 * (tokens.length + 1)

def isAsRuled (readers : Pattern.Readers) (rule : ExpressionRule) (tokens : List Token) : Bool :=
  ((Pattern.rule rule).after? readers ExpressionRule.form (depthFor tokens) tokens).any (·.isEmpty)

end Expression
end ObjectGraph.Declaration
