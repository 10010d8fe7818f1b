import Ussd.Text.Blank
import Ussd.Text.Pieces
/-!
# Tokens of a message template

A message template is text with tags between double (or triple) braces. A tilde at the edge of a
tag drops the blanks of the text on that side.
-/

namespace Ussd.Message

inductive Token where
  | text (characters : List Char)
  | tag (inside : List Char)
  deriving DecidableEq, Repr

inductive TemplateError where
  | unclosedTag
  | unknownBlock (name : String)
  | unterminated (name : String)
  | unexpectedClose (name : String)
  | unexpectedElse
  deriving DecidableEq, Repr

def TemplateError.message : TemplateError → String
  | .unclosedTag => "unclosed tag"
  | .unknownBlock name => "unknown block helper '" ++ name ++ "'"
  | .unterminated name => "block '" ++ name ++ "' is not closed"
  | .unexpectedClose name => "unexpected closing tag '" ++ name ++ "'"
  | .unexpectedElse => "unexpected else"

def openTag : List Char := ['\x7b', '\x7b']

def closeTag : List Char := ['\x7d', '\x7d']

def closeTripleTag : List Char := ['\x7d', '\x7d', '\x7d']

/-- A tag without its tildes: whether it trims before, whether it trims after, and its inside. -/
def takeTildes (inside : List Char) : Bool × Bool × List Char :=
  let before := Text.startsWith ['~'] inside
  let inside := if before then inside.tail else inside
  let after := Text.endsWith ['~'] inside
  (before, after, if after then inside.dropLast else inside)

def textToken (characters : List Char) : List Token :=
  if characters.isEmpty then [] else [.text characters]

def tagInside? (afterOpen : List Char) : Option (List Char × List Char) :=
  match afterOpen with
  | '\x7b' :: rest => Text.cutFragment? closeTripleTag rest
  | rest => Text.cutFragment? closeTag rest

/-- The tokens of a template; `fuel` bounds the number of tags, and `trimming` tells whether the
text that comes next loses its leading blanks. -/
def tokensFrom (fuel : Nat) (trimming : Bool) (template : List Char) :
    Except TemplateError (List Token) :=
  let shorten (text : List Char) : List Char := if trimming then Text.trimStart text else text
  match fuel with
  | 0 => .ok []
  | fuel + 1 =>
    match Text.cutFragment? openTag template with
    | none => .ok (textToken (shorten template))
    | some (text, afterOpen) =>
      match tagInside? afterOpen with
      | none => .error .unclosedTag
      | some (inside, rest) =>
        let parts := takeTildes inside
        let text := shorten text
        let text := if parts.1 then Text.trimEnd text else text
        match tokensFrom fuel parts.2.1 rest with
        | .error error => .error error
        | .ok tokens => .ok (textToken text ++ .tag (Text.trim parts.2.2) :: tokens)

def tokens (template : List Char) : Except TemplateError (List Token) :=
  tokensFrom (template.length + 1) false template

end Ussd.Message
