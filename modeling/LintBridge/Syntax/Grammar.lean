import LintBridge.Syntax.Rule

/-!
# The grammar of Python source

Statements and expressions with the constructs that a reader points at. Operators
bind, from loose to tight: `lambda`, the conditional, `or`, `and`, `not`,
comparisons, `|`, `&`, `^`, shifts, sums, products, signs, `**`, and what follows
an operand directly.
-/

namespace LintBridge.Syntax

/-- The names of the grammar. -/
inductive Nonterminal where
  | statement | simpleStatement | suite
  | assigned | expression | element | expressions
  | disjunction | conjunction | inversion | comparison
  | bitOr | bitAnd | bitXor | shift | sum | product | sign | power | operand
  | target | targets | string | specifier
  deriving DecidableEq, Repr

namespace Grammar

open Rule

/-- Rules over the names of this grammar. -/
abbrev Pattern := Rule Nonterminal

/-- One of some symbols. -/
def oneOf (symbols : List String) : Pattern :=
  .alt (symbols.map .symbol)

/-- A parenthesized or bare list. -/
def maybeParenthesized (rule : Pattern) : Pattern :=
  .alt [.seq [.symbol "(", rule, .symbol ")"], rule]

/-- A dotted name. -/
def dottedName : Pattern :=
  .construct "dotted_name" (.seq [.identifier, .many (.seq [.symbol ".", .identifier])])

/-- A name to import, perhaps under another one. -/
def importItem : Pattern :=
  .fork dottedName
    [(some "aliased_import", .seq [.keyword "as", .identifier]), (none, nothing)]

/-- The module to import from, as counted from the package by dots. -/
def relativeImport : Pattern :=
  .construct "relative_import"
    (.seq [.construct "import_prefix" (repeated (.symbol ".")), .opt dottedName])

/-- Import statements. -/
def imports : List Pattern :=
  [.construct "import_statement" (.seq [.keyword "import", listed importItem]),
    .construct "import_from_statement"
      (.seq [.keyword "from", .alt [relativeImport, dottedName], .keyword "import",
        .alt [.symbol "*", maybeParenthesized (listed importItem)]])]

/-- Expressions after a word, separated by commas. -/
def wordAndList (name word : String) (rule : Pattern) : Pattern :=
  .construct name (.seq [.keyword word, rule, .many (.seq [.symbol ",", rule])])

/-- Statements that begin with a word and take up one line. -/
def wordStatements : List Pattern :=
  [wordAndList "assert_statement" "assert" (.call .expression),
    wordAndList "global_statement" "global" .identifier,
    wordAndList "nonlocal_statement" "nonlocal" .identifier,
    .construct "return_statement" (.seq [.keyword "return", .opt (.call .expressions)]),
    .construct "delete_statement" (.seq [.keyword "del", .call .expressions]),
    .construct "raise_statement"
      (.seq [.keyword "raise",
        .opt (.seq [.call .expressions, .opt (.seq [.keyword "from", .call .expression])])]),
    .construct "pass_statement" (.keyword "pass"),
    .construct "break_statement" (.keyword "break"),
    .construct "continue_statement" (.keyword "continue")]

/-- The `yield` of a value, of several, or of all values of another generator. -/
def yielded : Pattern :=
  .construct "yield"
    (.seq [.keyword "yield",
      .opt (.alt [.seq [.keyword "from", .call .expression], .call .expressions])])

/-- The operators of augmented assignments. -/
def augmentedOperators : List String :=
  ["+=", "-=", "*=", "/=", "@=", "//=", "%=", "**=", ">>=", "<<=", "&=", "^=", "|="]

/-- An assignment, which takes in all assignments to its right, or a bare expression. -/
def assignment : Pattern :=
  .fork (.call .expressions)
    [(some "assignment", .seq [.symbol "=", .call .assigned]),
      (some "assignment",
        .seq [.symbol ":", .call .expression, .opt (.seq [.symbol "=", .call .assigned])]),
      (some "augmented_assignment", .seq [oneOf augmentedOperators, .call .assigned]),
      (none, nothing)]

/-- The value of an assignment. -/
def assignedValue : Pattern :=
  .alt [yielded,
    .fork (.call .expressions)
      [(some "assignment", .seq [.symbol "=", .call .assigned]),
        (some "augmented_assignment", .seq [oneOf augmentedOperators, .call .assigned]),
        (none, nothing)]]

/-- A condition with its suite after a word. -/
def conditioned (name word : String) : Pattern :=
  .construct name
    (.seq [.keyword word, .call .expression, .symbol ":", .call .suite])

/-- A suite after a word. -/
def clause (name word : String) : Pattern :=
  .construct name (.seq [.keyword word, .symbol ":", .call .suite])

/-- The part of a statement for the case that its condition fails. -/
def elseClause : Pattern :=
  .opt (clause "else_clause" "else")

/-- The conditional statement. -/
def ifStatement : Pattern :=
  .construct "if_statement"
    (.seq [.keyword "if", .call .expression, .symbol ":", .call .suite,
      .many (conditioned "elif_clause" "elif"), elseClause])

/-- The loop over a condition. -/
def whileStatement : Pattern :=
  .construct "while_statement"
    (.seq [.keyword "while", .call .expression, .symbol ":", .call .suite, elseClause])

/-- The loop over the items of a value. -/
def forStatement : Pattern :=
  .construct "for_statement"
    (.seq [.opt (.keyword "async"), .keyword "for", .call .targets, .keyword "in",
      .call .expressions, .symbol ":", .call .suite, elseClause])

/-- What an exception handler catches, and the name it gets. -/
def caught : Pattern :=
  .seq [.fork (.call .expression)
      [(some "as_pattern", .seq [.keyword "as", .call .expression]), (none, nothing)],
    .opt (.seq [.symbol ",", .call .expressions])]

/-- The statement that handles exceptions. -/
def tryStatement : Pattern :=
  .construct "try_statement"
    (.seq [.keyword "try", .symbol ":", .call .suite,
      .many (.construct "except_clause"
        (.seq [.alt [.merged (.seq [.keyword "except", .symbol "*"]), .keyword "except"],
          .opt caught, .symbol ":", .call .suite])),
      elseClause, .opt (clause "finally_clause" "finally")])

/-- A value managed by a `with` statement, perhaps under a name. -/
def withItem : Pattern :=
  .construct "with_item"
    (.fork (.call .expression)
      [(some "as_pattern", .seq [.keyword "as", .call .target]), (none, nothing)])

/-- The statement that manages values around its suite. -/
def withStatement : Pattern :=
  .construct "with_statement"
    (.seq [.opt (.keyword "async"), .keyword "with",
      .alt [
        .seq [.construct "with_clause" (.seq [.symbol "(", listed withItem, .symbol ")"]),
          .symbol ":"],
        .seq [.construct "with_clause" (listed withItem), .symbol ":"]],
      .call .suite])

/-- A parameter name, perhaps one that takes in the remaining arguments. -/
def parameterName : Pattern :=
  .alt [.construct "list_splat_pattern" (.seq [.symbol "*", .identifier]),
    .construct "dictionary_splat_pattern" (.seq [.symbol "**", .identifier]),
    .identifier]

/-- The default value of a parameter. -/
def defaultValue : Pattern :=
  .seq [.symbol "=", .call .expression]

/-- A parameter without a type, or a mark between parameters. -/
def plainParameter : Pattern :=
  .alt [.fork parameterName [(some "default_parameter", defaultValue), (none, nothing)],
    .symbol "*", .symbol "/",
    .construct "tuple_pattern" (.seq [.symbol "(", listed (.call .target), .symbol ")"])]

/-- A parameter of a function definition. -/
def parameter : Pattern :=
  .alt [
    .fork (.seq [parameterName, .symbol ":", .call .element])
      [(some "typed_default_parameter", defaultValue), (some "typed_parameter", nothing)],
    plainParameter]

/-- The parameters of types and functions. -/
def typeParameters : Pattern :=
  .opt (.construct "type_parameter"
    (.seq [.symbol "[", listed (.alt [parameter, .call .expression]), .symbol "]"]))

/-- A function definition. -/
def functionDefinition : Pattern :=
  .construct "function_definition"
    (.seq [.opt (.keyword "async"), .keyword "def", .identifier, typeParameters,
      .construct "parameters" (.seq [.symbol "(", .opt (listed parameter), .symbol ")"]),
      .opt (.seq [.symbol "->", .call .expression]), .symbol ":", .call .suite])

/-- An argument of a call. -/
def argument : Pattern :=
  .alt [
    .construct "dictionary_splat" (.seq [.symbol "**", .call .expression]),
    .construct "keyword_argument" (.seq [.identifier, .symbol "=", .call .expression]),
    .call .element]

/-- The loops and conditions of a comprehension. -/
def comprehension : Pattern :=
  let loop := .construct "for_in_clause"
    (.seq [.opt (.keyword "async"), .keyword "for", .call .targets, .keyword "in",
      .call .disjunction])
  .seq [loop, .many (.alt [loop,
    .construct "if_clause" (.seq [.keyword "if", .call .disjunction])])]

/-- A bracketed list whose first item may begin a comprehension instead. -/
def bracketed (list generator left right : String) (item : Pattern) : Pattern :=
  .fork (.seq [.symbol left, .opt item])
    [(some generator, .seq [comprehension, .symbol right]),
      (some list, .seq [.many (.seq [.symbol ",", item]), .opt (.symbol ","), .symbol right])]

/-- The arguments of a call. -/
def arguments : Pattern :=
  bracketed "argument_list" "generator_expression" "(" ")" argument

/-- A class definition. -/
def classDefinition : Pattern :=
  .construct "class_definition"
    (.seq [.keyword "class", .identifier, typeParameters, .opt arguments, .symbol ":",
      .call .suite])

/-- A definition with its decorators. -/
def decoratedDefinition : Pattern :=
  .construct "decorated_definition"
    (.seq [
      repeated (.construct "decorator"
        (.seq [.symbol "@", .call .expression, .any .newline])),
      .alt [functionDefinition, classDefinition]])

/-- The statements of a line. -/
def simpleLine : Pattern :=
  .seq [.call .simpleStatement, .many (.seq [.symbol ";", .call .simpleStatement]),
    .opt (.symbol ";"), .any .newline]

/-- A statement that prints or runs without parentheses. -/
def commandStatement (name word : String) : Pattern :=
  .construct name
    (.seq [.keyword word, .opt (.symbol ">>"), .call .expression,
      .many (.seq [.alt [.symbol ",", .keyword "in"], .call .expression]), .opt (.symbol ",")])

/-- Items of a subscript. -/
def subscriptItem : Pattern :=
  let bounds : Pattern := .seq [.symbol ":", .opt (.call .expression),
    .opt (.seq [.symbol ":", .opt (.call .expression)])]
  .alt [.fork (.call .element) [(some "slice", bounds), (none, nothing)],
    .construct "slice" bounds]

/-- Items of a dictionary or a set. -/
def entry : Pattern :=
  .alt [.construct "dictionary_splat" (.seq [.symbol "**", .call .bitOr]),
    .fork (.call .element)
      [(some "pair", .seq [.symbol ":", .call .expression]), (none, nothing)]]

/-- What stands between parentheses: a value, several, or a generator. -/
def parenthesized : Pattern :=
  let item : Pattern := .alt [yielded, .call .element]
  .fork (.seq [.symbol "(", .opt item])
    [(some "parenthesized_expression", .symbol ")"),
      (some "generator_expression", .seq [comprehension, .symbol ")"]),
      (some "tuple", .seq [.many (.seq [.symbol ",", item]), .opt (.symbol ","), .symbol ")"])]

/-- A replacement field of a format string. -/
def field (name : String) : Pattern :=
  .construct name
    (.seq [.symbol "\x7b", .alt [yielded, .call .expressions], .opt (.symbol "="),
      .opt (.any .conversion), .opt (.call .specifier), .symbol "\x7d"])

/-- The format of a replacement field, which may hold fields of its own. -/
def formatSpecifier : Pattern :=
  .construct "format_specifier"
    (.seq [.symbol ":", .many (.alt [.any .stringText, field "format_expression"])])

/-- A string: text with escapes, and replacement fields. -/
def stringLiteral : Pattern :=
  .construct "string"
    (.seq [.any .stringStart,
      .many (.alt [
        .construct "string_content" (repeated (.alt [.any .stringText, .any .escape])),
        field "interpolation"]),
      .any .stringEnd])

/-- Operands that nothing follows. -/
def atom : Pattern :=
  .alt [.identifier, .any .number,
    .fork (.call .string) [(some "concatenated_string", repeated (.call .string)), (none, nothing)],
    parenthesized,
    bracketed "list" "list_comprehension" "[" "]" (.call .element),
    bracketed "dictionary" "dictionary_comprehension" "\x7b" "\x7d" entry,
    .keyword "True", .keyword "False", .keyword "None",
    .merged (.seq [.symbol ".", .symbol ".", .symbol "."])]

/-- An operator between two operands, grouping to the left. -/
def leftBinary (name : String) (operand operator : Pattern) : Pattern :=
  .chain operand [(name, .seq [operator, operand])]

/-- The rule of each name. -/
def rule : Nonterminal → Pattern
  | .statement =>
      .alt [ifStatement, forStatement, whileStatement, tryStatement, withStatement,
        functionDefinition, classDefinition, decoratedDefinition, simpleLine]
  | .simpleStatement =>
      .alt (imports ++ wordStatements ++
        [.fork (.alt [yielded, assignment])
            [(none, .ahead (.alt [.any .newline, .symbol ";"]))],
          commandStatement "print_statement" "print", commandStatement "exec_statement" "exec"])
  | .suite =>
      .alt [
        .seq [.any .indent, .construct "block"
          (.seq [repeated (.call .statement), .any .dedent])],
        .construct "block" simpleLine]
  | .assigned => assignedValue
  | .expression =>
      .alt [
        .construct "lambda"
          (.seq [.keyword "lambda",
            .opt (.construct "lambda_parameters" (listed plainParameter)),
            .symbol ":", .call .expression]),
        .construct "named_expression"
          (.seq [.identifier, .symbol ":=", .call .expression]),
        .fork (.call .disjunction)
          [(some "conditional_expression",
              .seq [.keyword "if", .call .disjunction, .keyword "else", .call .expression]),
            (none, nothing)]]
  | .element =>
      .alt [.construct "list_splat" (.seq [.symbol "*", .call .expression]), .call .expression]
  | .expressions =>
      .fork (.call .element)
        [(some "expression_list",
            .seq [.symbol ",", .opt (listed (.call .element))]),
          (none, nothing)]
  | .disjunction => leftBinary "boolean_operator" (.call .conjunction) (.keyword "or")
  | .conjunction => leftBinary "boolean_operator" (.call .inversion) (.keyword "and")
  | .inversion =>
      .alt [.construct "not_operator" (.seq [.keyword "not", .call .inversion]),
        .call .comparison]
  | .comparison =>
      .fork (.call .bitOr)
        [(some "comparison_operator",
            repeated (.seq [
              .alt [oneOf ["<", "<=", "==", "!=", ">=", ">", "<>"], .keyword "in",
                .construct "not in" (.seq [.keyword "not", .keyword "in"]),
                .construct "is not" (.seq [.keyword "is", .keyword "not"]),
                .keyword "is"],
              .call .bitOr])),
          (none, nothing)]
  | .bitOr => leftBinary "binary_operator" (.call .bitAnd) (.symbol "|")
  | .bitAnd => leftBinary "binary_operator" (.call .bitXor) (.symbol "&")
  | .bitXor => leftBinary "binary_operator" (.call .shift) (.symbol "^")
  | .shift => leftBinary "binary_operator" (.call .sum) (oneOf ["<<", ">>"])
  | .sum => leftBinary "binary_operator" (.call .product) (oneOf ["+", "-"])
  | .product => leftBinary "binary_operator" (.call .sign) (oneOf ["*", "@", "/", "%", "//"])
  | .sign =>
      .alt [.construct "unary_operator" (.seq [oneOf ["+", "-", "~"], .call .sign]),
        .construct "await" (.seq [.keyword "await", .call .sign]),
        .call .power]
  | .power =>
      .fork (.call .operand)
        [(some "binary_operator", .seq [.symbol "**", .call .sign]), (none, nothing)]
  | .operand =>
      .chain atom
        [("attribute", .seq [.symbol ".", .identifier]),
          ("subscript", .seq [.symbol "[", listed subscriptItem, .symbol "]"]),
          ("call", arguments)]
  | .target =>
      .alt [.construct "list_splat_pattern" (.seq [.symbol "*", .call .operand]), .call .operand]
  | .targets =>
      .fork (.call .target)
        [(some "pattern_list", .seq [.symbol ",", .opt (listed (.call .target))]),
          (none, nothing)]
  | .string => stringLiteral
  | .specifier => formatSpecifier

end Grammar

end LintBridge.Syntax
