import LintBridge.Syntax.Token
import LintBridge.Text.IdentifierChar

/-!
# Lexical analysis

Cuts a source text into tokens. Brackets, strings and the replacement fields of
format strings nest, so the lexer keeps a stack of what it is inside of. A token
that begins a line outside of all brackets and strings remembers how far the line
is indented.
-/

namespace LintBridge.Syntax

open LintBridge.Text

/-- How a string is written: its quotes and what its prefix asks for. -/
structure Delimiter where
  quote : Char
  triple : Bool
  raw : Bool
  bytes : Bool
  format : Bool
  deriving DecidableEq, Repr

/-- The quotes that end a string. -/
def Delimiter.closing (delimiter : Delimiter) : List Char :=
  List.replicate (if delimiter.triple then 3 else 1) delimiter.quote

/-- What the lexer is inside of. -/
inductive Nesting where
  | bracket
  | string (delimiter : Delimiter)
  /-- A replacement field; the flag tells whether a conversion has been seen. -/
  | field (converted : Bool)
  /-- The format specifier of a replacement field. -/
  | specifier

/-- A token, and the indentation of its line when it is the first of the line. -/
structure LineToken where
  token : Token
  indentation : Option Nat

/-- The text still to read, where it begins, what it is inside of, and the
indentation of the line as long as the line has no token. -/
structure LexState where
  rest : List Char
  point : Point
  nesting : List Nesting
  indentation : Option Nat

namespace Lexer

/-- The point after a character. -/
def advance (point : Point) (c : Char) : Point :=
  if c = '\n' then ⟨point.row + 1, 0⟩ else ⟨point.row, point.column + c.utf8Size⟩

/-- Characters between tokens that do not end a line. -/
def isGap (c : Char) : Bool :=
  c == ' ' || c == '\t' || c == '\x0c' || c == '\r' ||
    c == '\uFEFF' || c == '\u2060' || c == '\u200B'

/-- The indentation after a gap character: a tab counts eight, and a form feed or
carriage return starts over. -/
def indentAfter (indentation : Nat) (c : Char) : Nat :=
  if c = ' ' then indentation + 1
  else if c = '\t' then indentation + 8
  else if c = '\x0c' ∨ c = '\r' then 0
  else indentation

/-- The length of the run of a class of characters at the front of a text. -/
def runLength (inRun : Char → Bool) (text : List Char) : Nat :=
  (text.takeWhile inRun).length

/-- The symbols of more than one character, longer ones first. -/
def longSymbols : List (List Char) :=
  ["**=", "//=", ">>=", "<<=", "**", "//", ">>", "<<", "<=", ">=", "==", "!=", "<>", "->",
    "+=", "-=", "*=", "/=", "%=", "&=", "|=", "^=", "@=", ":="].map String.toList

/-- The symbols of one character. -/
def shortSymbols : List Char :=
  "()[]\x7b\x7d+-*/%@&|^~<>=.,:;!".toList

/-- The length of the symbol at the front of a text, 0 if there is none. -/
def symbolLength (text : List Char) : Nat :=
  match longSymbols.find? (·.isPrefixOf text) with
  | some symbol => symbol.length
  | none =>
      match text with
      | c :: _ => if shortSymbols.contains c then 1 else 0
      | [] => 0

/-- Hexadecimal digits. -/
def isHexDigit (c : Char) : Bool :=
  c.isDigit || ('a' ≤ c && c ≤ 'f') || ('A' ≤ c && c ≤ 'F')

/-- The length of the decimal digits at the front of a text; underscores may
follow the first digit. -/
def digitsLength : List Char → Nat
  | [] => 0
  | c :: rest => if c.isDigit then 1 + runLength (fun d => d.isDigit || d == '_') rest else 0

/-- The length of an exponent at the front of a text, 0 if there is none. -/
def exponentLength : List Char → Nat
  | [] => 0
  | e :: rest =>
      if e = 'e' ∨ e = 'E' then
        let sign := runLength (fun c => c == '+' || c == '-') (rest.take 1)
        let digits := digitsLength (rest.drop sign)
        if digits = 0 then 0 else 1 + sign + digits
      else 0

/-- Whether a text begins with a radix mark and a digit after it. -/
def startsRadix : List Char → Bool
  | '0' :: mark :: digit :: _ => "xXoObB".toList.contains mark && (isHexDigit digit || digit == '_')
  | _ => false

/-- The length of the number at the front of a text. -/
def numberLength (text : List Char) : Nat :=
  if startsRadix text then
    2 + runLength (fun c => isHexDigit c || c == '_') (text.drop 2)
  else
    let whole := digitsLength text
    let fraction := match text.drop whole with
      | '.' :: rest => 1 + digitsLength rest
      | _ => 0
    let exponent := exponentLength (text.drop (whole + fraction))
    let length := whole + fraction + exponent
    length + runLength (fun c => "jJlL".toList.contains c) ((text.drop length).take 1)

/-- Whether a text begins with a number. -/
def startsNumber : List Char → Bool
  | '.' :: digit :: _ => digit.isDigit
  | c :: _ => c.isDigit
  | [] => false

/-- The length of a string's prefix and opening quotes at the front of a text,
and how the string is written. -/
def stringStart? (text : List Char) : Option (Nat × Delimiter) :=
  let letters := text.takeWhile fun c => "fFrRbBuU".toList.contains c
  if 2 < letters.length then none
  else match text.drop letters.length with
    | quote :: rest =>
        if quote = '"' ∨ quote = '\'' then
          let triple := [quote, quote].isPrefixOf rest
          let asks (lower higher : Char) := letters.contains lower || letters.contains higher
          some (letters.length + (if triple then 3 else 1),
            ⟨quote, triple, asks 'r' 'R', asks 'b' 'B', asks 'f' 'F'⟩)
        else none
    | [] => none

/-- The length of a hexadecimal escape: its two leading characters and exactly
the given number of digits, or 0. -/
def hexEscapeLength (digits : Nat) (text : List Char) : Nat :=
  if runLength isHexDigit (text.take digits) = digits then 2 + digits else 0

/-- The length of the escape that the given text after a backslash makes up with
the backslash, 0 if it makes up none. Names and long code points escape nothing
in a string of bytes. -/
def escapeLength (delimiter : Delimiter) : List Char → Nat
  | [] => 0
  | c :: rest =>
      if delimiter.bytes && (c == 'N' || c == 'u' || c == 'U') then 0
      else if c = 'u' then hexEscapeLength 4 rest
      else if c = 'U' then hexEscapeLength 8 rest
      else if c = 'x' then hexEscapeLength 2 rest
      else if c.isDigit then 2 + runLength Char.isDigit (rest.take 2)
      else if c = 'N' then
        match rest with
        | '{' :: name =>
            let length := runLength (· != '}') name
            if 0 < length && (name.drop length).head? == some '}' then 4 + length else 0
        | _ => 0
      else if "'\"abfrntv\\\n".toList.contains c then 2
      else if c = '\r' ∧ rest.head? = some '\n' then 3
      else 0

/-- The length of the plain text at the front of the content of a string. -/
def plainLength (delimiter : Delimiter) : List Char → Nat
  | [] => 0
  | c :: rest =>
      if delimiter.closing.isPrefixOf (c :: rest) then 0
      else if !delimiter.triple && c == '\n' then 0
      else if delimiter.format && (c == '{' || c == '}') then 0
      else if c = '\\' then
        if delimiter.raw then
          match rest with
          | d :: rest => 
              if d = delimiter.quote ∨ d = '\\' ∨ d = '\n' then 2 + plainLength delimiter rest
              else 1 + plainLength delimiter (d :: rest)
          | [] => 1
        else if escapeLength delimiter rest = 0 then 1 + plainLength delimiter rest
        else 0
      else 1 + plainLength delimiter rest

/-- The length of the plain text at the front of a format specifier. -/
def specifierLength (text : List Char) : Nat :=
  runLength (fun c => c != '{' && c != '}' && c != '\n') text

end Lexer

open Lexer

namespace LexState

/-- Read some characters: their text, and the state after them. -/
def read (state : LexState) (length : Nat) : String × LexState :=
  let chars := state.rest.take length
  (String.ofList chars,
    { state with rest := state.rest.drop length, point := chars.foldl advance state.point })

/-- Read some characters as a token of the given kind. -/
def token (state : LexState) (kind : TokenKind) (length : Nat) (nesting : List Nesting) :
    List LineToken × LexState :=
  let (text, after) := state.read length
  ([⟨⟨kind, text, state.point, after.point⟩, state.indentation⟩],
    { after with nesting, indentation := none })

/-- What the lexer is inside of after a symbol, and the kind of the symbol. -/
def afterSymbol (symbol : List Char) (nesting : List Nesting) : List Nesting :=
  match symbol, nesting with
  | ['('], _ | ['['], _ => .bracket :: nesting
  | ['{'], _ => .bracket :: nesting
  | [')'], .bracket :: outer | [']'], .bracket :: outer | ['}'], .bracket :: outer => outer
  | ['}'], .field _ :: outer => outer
  | [':'], .field converted :: outer => .specifier :: .field converted :: outer
  | _, _ => nesting

/-- Read the token at the front of program text, or skip a character between tokens. -/
def stepCode (state : LexState) : List LineToken × LexState :=
  match state.rest with
  | [] => ([], state)
  | c :: rest =>
      if c = '\n' then
        let (_, after) := state.read 1
        ([], { after with
          indentation := if state.nesting.isEmpty then some 0 else state.indentation })
      else if isGap c then
        let (_, after) := state.read 1
        ([], { after with indentation := state.indentation.map (indentAfter · c) })
      else if c = '#' then state.token .comment (runLength (· != '\n') state.rest) state.nesting
      else if c = '\\' ∧ rest.head? = some '\n' then
        let (tokens, after) := state.token .continuation 2 state.nesting
        (tokens, { after with indentation := state.indentation })
      else
        match stringStart? state.rest with
        | some (length, delimiter) =>
            state.token .stringStart length (.string delimiter :: state.nesting)
        | none =>
            if isIdentifierStart c then
              state.token .word (runLength isIdentifierChar state.rest) state.nesting
            else if startsNumber state.rest then
              state.token .number (numberLength state.rest) state.nesting
            else
              let converts := match state.nesting, rest with
                | .field false :: _, letter :: _ => c == '!' && letter.isLower
                | _, _ => false
              if converts then
                state.token .conversion 2 (.field true :: state.nesting.drop 1)
              else
                let length := match state.nesting with
                  | .field true :: _ => 1
                  | _ => symbolLength state.rest
                if length = 0 then state.token .stray 1 state.nesting
                else
                  state.token .symbol length
                    (afterSymbol (state.rest.take length) state.nesting)

/-- Read the token at the front of the content of a string. -/
def stepString (state : LexState) (delimiter : Delimiter) (outer : List Nesting) :
    List LineToken × LexState :=
  let plain := plainLength delimiter state.rest
  if 0 < plain then state.token .stringText plain state.nesting
  else if delimiter.closing.isPrefixOf state.rest then
    state.token .stringEnd delimiter.closing.length outer
  else
    match state.rest with
    | '\\' :: rest => state.token .escape (escapeLength delimiter rest) state.nesting
    | '{' :: '{' :: _ | '}' :: '}' :: _ => state.token .escape 2 state.nesting
    | '{' :: _ => state.token .symbol 1 (.field false :: state.nesting)
    | '\n' :: _ => ([], { state with nesting := outer })
    | _ => state.token .stray 1 state.nesting

/-- Read the token at the front of a format specifier. -/
def stepSpecifier (state : LexState) (outer : List Nesting) : List LineToken × LexState :=
  let plain := specifierLength state.rest
  if 0 < plain then state.token .stringText plain state.nesting
  else
    match state.rest with
    | '{' :: _ => state.token .symbol 1 (.field false :: state.nesting)
    | '}' :: _ => state.token .symbol 1 (outer.drop 1)
    | _ => (state.read 1).2 |> ([], ·)

/-- Read one token, or skip a character between tokens. -/
def step (state : LexState) : List LineToken × LexState :=
  match state.nesting with
  | .string delimiter :: outer => state.stepString delimiter outer
  | .specifier :: outer => state.stepSpecifier outer
  | _ => state.stepCode

/-- The tokens of the rest of the text. The first argument bounds the number of
steps. -/
def tokens : Nat → LexState → List LineToken
  | 0, _ => []
  | fuel + 1, state =>
      if state.rest.isEmpty then []
      else
        let (found, after) := state.step
        found ++ tokens fuel after

end LexState

/-- The tokens of a source text. A step reads at least one character, except the
one that leaves a string cut off by the end of its line. -/
def lex (source : List Char) : List LineToken :=
  LexState.tokens (2 * source.length + 1) ⟨source, ⟨0, 0⟩, [], some 0⟩

end LintBridge.Syntax
