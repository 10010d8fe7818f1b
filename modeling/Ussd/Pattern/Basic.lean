import Ussd.Pattern.CharClass
/-!
# Patterns and what they match

A pattern is a regular expression over characters with assertions about a place in the text. The
meaning of a pattern is the set of places that can be reached from a set of places, so that no
choice has to be taken back: a text matches if some place can be reached from some place.
-/

namespace Ussd

namespace Pattern

/-- What can be asserted about a place between two characters. The assertions on words know either the
word characters of ASCII alone or all of them. -/
inductive Assertion where
  | textStart
  | textEnd
  | lineStart (carriageReturns : Bool)
  | lineEnd (carriageReturns : Bool)
  | wordBoundary (ascii : Bool)
  | noWordBoundary (ascii : Bool)
  | wordStart (ascii : Bool)
  | wordEnd (ascii : Bool)
  | wordStartHalf (ascii : Bool)
  | wordEndHalf (ascii : Bool)
  deriving DecidableEq, Repr

end Pattern

inductive Pattern where
  | empty
  | charClass (members : Pattern.CharClass)
  | assertion (claim : Pattern.Assertion)
  | sequence (first second : Pattern)
  | choice (left right : Pattern)
  | repeated (inner : Pattern) (least : Nat) (most : Option Nat)
  deriving Inhabited

namespace Pattern

def charBefore? (text : Array Char) (place : Nat) : Option Char :=
  match place with
  | 0 => none
  | place + 1 => text[place]?

def isWord (ascii : Bool) (c : Char) : Bool :=
  Text.isWordChar c && (!ascii || decide (c.toNat < 128))

def wordSides (ascii : Bool) (text : Array Char) (place : Nat) : Bool × Bool :=
  ((charBefore? text place).any (isWord ascii), text[place]?.any (isWord ascii))

def Assertion.holdsAt (claim : Assertion) (text : Array Char) (place : Nat) : Bool :=
  let onWords (ascii : Bool) (test : Bool → Bool → Bool) : Bool :=
    let sides := wordSides ascii text place
    test sides.1 sides.2
  match claim with
  | .textStart => place == 0
  | .textEnd => place == text.size
  | .lineStart false => place == 0 || charBefore? text place == some '\n'
  | .lineEnd false => place == text.size || text[place]? == some '\n'
  | .lineStart true =>
    place == 0 || charBefore? text place == some '\n' ||
      (charBefore? text place == some '\r' && text[place]? != some '\n')
  | .lineEnd true =>
    place == text.size || text[place]? == some '\r' ||
      (text[place]? == some '\n' && charBefore? text place != some '\r')
  | .wordBoundary ascii => onWords ascii fun before after => before != after
  | .noWordBoundary ascii => onWords ascii fun before after => before == after
  | .wordStart ascii => onWords ascii fun before after => !before && after
  | .wordEnd ascii => onWords ascii fun before after => before && !after
  | .wordStartHalf ascii => onWords ascii fun before _ => !before
  | .wordEndHalf ascii => onWords ascii fun _ after => !after

def addPlaces (known places : List Nat) : List Nat :=
  places.foldl (fun known place => if known.contains place then known else place :: known) known

def stepTimes (step : List Nat → List Nat) : Nat → List Nat → List Nat
  | 0, places => places
  | count + 1, places => if places.isEmpty then [] else stepTimes step count (step places)

/-- All places that up to `count` steps reach, those of no step included. Stops early once a step
finds no new place. -/
def stepsUpTo (step : List Nat → List Nat) : Nat → List Nat → List Nat → List Nat
  | 0, known, _ => known
  | count + 1, known, places =>
    let fresh := (step places).filter fun place => !known.contains place
    if fresh.isEmpty then known else stepsUpTo step count (addPlaces known fresh) fresh

def reach (text : Array Char) : Pattern → List Nat → List Nat
  | .empty, places => places
  | .charClass members, places =>
    places.filterMap fun place =>
      match text[place]? with
      | some c => if members.contains c then some (place + 1) else none
      | none => none
  | .assertion claim, places => places.filter (claim.holdsAt text)
  | .sequence first second, places => reach text second (reach text first places)
  | .choice left right, places => addPlaces (reach text left places) (reach text right places)
  | .repeated inner least most, places =>
    let start := stepTimes (reach text inner) least places
    let further := match most with
      | some most => min (most - least) (text.size + 1)
      | none => text.size + 1
    stepsUpTo (reach text inner) further start start

def isFoundIn (pattern : Pattern) (text : List Char) : Bool :=
  let characters := text.toArray
  !(reach characters pattern (List.range (characters.size + 1))).isEmpty

/-- A measure of the automaton of a pattern, in which repetitions are written out. -/
def weight : Pattern → Nat
  | .empty => 1
  | .charClass _ => 1
  | .assertion _ => 1
  | .sequence first second => weight first + weight second
  | .choice left right => weight left + weight right + 1
  | .repeated inner least most => weight inner * max 1 (most.getD (least + 1)) + 1

end Pattern

end Ussd
