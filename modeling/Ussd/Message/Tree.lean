import Ussd.Message.Token
/-!
# The block structure of a message template

Tags that open and close blocks are matched by one pass over the tokens with a stack of the blocks
that are open. Every block has a body and a part that is shown otherwise, which is empty where the
template has no `else`.
-/

namespace Ussd.Message

inductive BlockKind where
  | ifTrue
  | unless
  | each
  | with
  deriving DecidableEq, Repr

def BlockKind.name : BlockKind → String
  | .ifTrue => "if"
  | .unless => "unless"
  | .each => "each"
  | .with => "with"

def BlockKind.named? (name : String) : Option BlockKind :=
  [BlockKind.ifTrue, .unless, .each, .with].find? (·.name == name)

inductive Part where
  | text (characters : List Char)
  | expression (inside : List Char)
  | block (kind : BlockKind) (argument : List Char) (body otherwise : List Part)
  deriving Inhabited

inductive TagRole where
  | opens (name argument : List Char)
  | closes (name : List Char)
  | orElse
  | comment
  | shows (inside : List Char)

def roleOf (tag : List Char) : TagRole :=
  match tag with
  | '#' :: rest =>
    let inside := Text.trim rest
    match Text.cutAt? Text.isBlank inside with
    | some (name, argument) => .opens name (Text.trim argument)
    | none => .opens inside []
  | '/' :: rest => .closes (Text.trim rest)
  | '!' :: _ => .comment
  | _ => if String.ofList tag = "else" then .orElse else .shows tag

/-- A block that is open: the parts before it and, once its `else` has been met, its body. -/
structure OpenBlock where
  kind : BlockKind
  argument : List Char
  before : List Part
  body : Option (List Part)

def OpenBlock.close (block : OpenBlock) (parts : List Part) : List Part :=
  match block.body with
  | none => block.before ++ [.block block.kind block.argument parts []]
  | some body => block.before ++ [.block block.kind block.argument body parts]

/-- Goes through the tokens with the open blocks, innermost first, and the parts collected in the
innermost of them. -/
def parseFrom (stack : List OpenBlock) (parts : List Part) :
    List Token → Except TemplateError (List Part)
  | [] =>
    match stack with
    | [] => .ok parts
    | block :: _ => .error (.unterminated block.kind.name)
  | .text characters :: rest => parseFrom stack (parts ++ [.text characters]) rest
  | .tag inside :: rest =>
    match roleOf inside with
    | .opens name argument =>
      match BlockKind.named? (String.ofList name) with
      | none => .error (.unknownBlock (String.ofList name))
      | some kind =>
        parseFrom ({ kind := kind, argument := argument, before := parts, body := none } :: stack)
          [] rest
    | .closes name =>
      match stack with
      | [] => .error (.unexpectedClose (String.ofList name))
      | block :: outer =>
        if String.ofList name = block.kind.name then parseFrom outer (block.close parts) rest
        else .error (.unterminated block.kind.name)
    | .orElse =>
      match stack with
      | [] => .error .unexpectedElse
      | block :: outer =>
        match block.body with
        | none => parseFrom ({ block with body := some parts } :: outer) [] rest
        | some _ => .error (.unterminated block.kind.name)
    | .comment => parseFrom stack parts rest
    | .shows inside => parseFrom stack (parts ++ [.expression inside]) rest

def parse (tokens : List Token) : Except TemplateError (List Part) := parseFrom [] [] tokens

def partsOf (template : List Char) : Except TemplateError (List Part) :=
  match tokens template with
  | .error error => .error error
  | .ok tokens => parse tokens

end Ussd.Message
