import Ussd.Message.Tree
import Ussd.Proofs.TextPieces

/-! # Well nested tags

The block structure of a message template as a grammar: which lists of tokens are the writing of
which parts. The parser goes through the tokens once with a stack of open blocks; it accepts exactly
what the grammar derives, and its result is what is derived. -/

namespace Ussd.Message

namespace BlockKind

theorem named?_eq_some_iff {name : String} {kind : BlockKind} :
    named? name = some kind ↔ name = kind.name := by
  constructor
  · intro found
    have same := List.find?_some found
    exact (beq_iff_eq.mp same).symm
  · rintro rfl
    cases kind <;> rfl

theorem name_notBlank (kind : BlockKind) : ∀ c ∈ kind.name.toList, Text.isBlank c = false := by
  cases kind <;> exact Text.forall_of_all (by decide)

end BlockKind

/-! ## What tags do -/

def elseTag : List Char := "else".toList

/-- The role of a tag by its text. A tag that opens a block begins with a hash; what follows is a
name and, after a blank, an argument. -/
inductive Plays : List Char → TagRole → Prop
  | opens {inside name behind : List Char} (split : Text.trim inside = name ++ behind)
      (isWord : ∀ c ∈ name, Text.isBlank c = false)
      (separated : ∀ c ∈ behind.head?, Text.isBlank c) :
      Plays ('#' :: inside) (.opens name (Text.trim behind))
  | closes (inside : List Char) : Plays ('/' :: inside) (.closes (Text.trim inside))
  | comment (note : List Char) : Plays ('!' :: note) .comment
  | orElse : Plays elseTag .orElse
  | shows {tag : List Char} (plain : ∀ c ∈ tag.head?, c ∉ ['#', '/', '!'])
      (notElse : tag ≠ elseTag) : Plays tag (.shows tag)

theorem plays_roleOf (tag : List Char) : Plays tag (roleOf tag) := by
  unfold roleOf
  split
  case h_1 inside =>
    dsimp only
    split
    · rename_i name argument cut
      rcases Text.of_cutAt?_eq_some cut with ⟨c, split, blank, isWord⟩
      rw [← Text.trim_cons_blank blank argument]
      exact .opens split isWord (by simpa using blank)
    · rename_i uncut
      exact .opens (List.append_nil _).symm (Text.cutAt?_eq_none_iff.mp uncut) (by simp)
  case h_2 inside => exact .closes inside
  case h_3 note => exact .comment note
  case h_4 notOpening notClosing notComment =>
    split
    · rename_i isElse
      rw [← String.toList_ofList (l := tag), isElse]
      exact .orElse
    · rename_i notElse
      refine .shows ?_ ?_
      · intro c first
        rcases List.head?_eq_some_iff.mp first with ⟨rest, rfl⟩
        simp only [List.mem_cons, List.not_mem_nil, or_false, not_or]
        refine ⟨?_, ?_, ?_⟩
        · rintro rfl; exact notOpening rest rfl
        · rintro rfl; exact notClosing rest rfl
        · rintro rfl; exact notComment rest rfl
      · rintro rfl
        exact notElse (String.ofList_toList)

theorem Plays.roleOf_eq {tag : List Char} {role : TagRole} (plays : Plays tag role) :
    roleOf tag = role := by
  cases plays with
  | @opens inside name behind split isWord separated =>
      simp only [roleOf, split]
      cases behind with
      | nil =>
          rw [List.append_nil, Text.cutAt?_eq_none_iff.mpr isWord]
          rfl
      | cons c rest =>
          have blank : Text.isBlank c := separated c rfl
          rw [Text.cutAt?_append isWord blank, Text.trim_cons_blank blank]
  | closes inside => rfl
  | comment note => rfl
  | orElse => rfl
  | shows plain notElse =>
      have other := plays_roleOf tag
      generalize roleOf tag = role at other
      cases other with
      | shows => rfl
      | orElse => exact absurd rfl notElse
      | opens | closes | comment => simp at plain

/-! ## The grammar -/

/-- The tokens are well nested and are the writing of the parts. -/
inductive Nested : List Token → List Part → Prop
  | nil : Nested [] []
  | text {rest : List Token} {parts : List Part} (characters : List Char)
      (nested : Nested rest parts) : Nested (.text characters :: rest) (.text characters :: parts)
  | comment {tag : List Char} {rest : List Token} {parts : List Part} (plays : Plays tag .comment)
      (nested : Nested rest parts) : Nested (.tag tag :: rest) parts
  | shown {tag : List Char} {rest : List Token} {parts : List Part}
      (plays : Plays tag (.shows tag)) (nested : Nested rest parts) :
      Nested (.tag tag :: rest) (.expression tag :: parts)
  | block {kind : BlockKind} {argument opening closing : List Char} {inner rest : List Token}
      {body parts : List Part} (opens : Plays opening (.opens kind.name.toList argument))
      (nestedBody : Nested inner body) (closes : Plays closing (.closes kind.name.toList))
      (nested : Nested rest parts) :
      Nested (.tag opening :: (inner ++ .tag closing :: rest))
        (.block kind argument body [] :: parts)
  | branches {kind : BlockKind} {argument opening closing : List Char}
      {inner other rest : List Token} {body otherwise parts : List Part}
      (opens : Plays opening (.opens kind.name.toList argument)) (nestedBody : Nested inner body)
      (nestedOther : Nested other otherwise) (closes : Plays closing (.closes kind.name.toList))
      (nested : Nested rest parts) :
      Nested (.tag opening :: (inner ++ .tag elseTag :: (other ++ .tag closing :: rest)))
        (.block kind argument body otherwise :: parts)

/-- Every tag that opens a block names one of the four kinds and is closed by a tag of the same
name, with at most one `else` directly in the block, and there is no other `else` or closing tag. -/
def WellNested (tokens : List Token) : Prop := ∃ parts, Nested tokens parts

theorem Nested.append {front back : List Token} {made parts : List Part}
    (nested : Nested front made) (behind : Nested back parts) :
    Nested (front ++ back) (made ++ parts) := by
  induction nested with
  | nil => exact behind
  | text characters _ induction => exact .text characters induction
  | comment plays _ induction => exact .comment plays induction
  | shown plays _ induction => exact .shown plays induction
  | block opens nestedBody closes _ _ induction =>
      simpa using Nested.block opens nestedBody closes induction
  | branches opens nestedBody nestedOther closes _ _ _ induction =>
      simpa using Nested.branches opens nestedBody nestedOther closes induction

/-! ## What the parser does with a tag -/

theorem parseFrom_opening {kind : BlockKind} {argument opening : List Char}
    (opens : Plays opening (.opens kind.name.toList argument)) (stack : List OpenBlock)
    (parts : List Part) (rest : List Token) :
    parseFrom stack parts (.tag opening :: rest) =
      parseFrom ({ kind := kind, argument := argument, before := parts, body := none } :: stack) []
        rest := by
  have named : BlockKind.named? (String.ofList kind.name.toList) = some kind := by
    rw [String.ofList_toList, BlockKind.named?_eq_some_iff]
  simp only [parseFrom, opens.roleOf_eq, named]

theorem parseFrom_closing {block : OpenBlock} {closing : List Char}
    (closes : Plays closing (.closes block.kind.name.toList)) (outer : List OpenBlock)
    (parts : List Part) (rest : List Token) :
    parseFrom (block :: outer) parts (.tag closing :: rest) =
      parseFrom outer (block.close parts) rest := by
  simp only [parseFrom, closes.roleOf_eq, String.ofList_toList, if_true]

theorem parseFrom_else {block : OpenBlock} (first : block.body = none) (outer : List OpenBlock)
    (parts : List Part) (rest : List Token) :
    parseFrom (block :: outer) parts (.tag elseTag :: rest) =
      parseFrom ({ block with body := some parts } :: outer) [] rest := by
  simp only [parseFrom, Plays.orElse.roleOf_eq, first]

/-! ## Well nested tokens are accepted -/

/-- The parser adds what is derived to the parts that it has collected, whatever blocks are open. -/
theorem Nested.parseFrom_append {tokens : List Token} {made : List Part}
    (nested : Nested tokens made) (stack : List OpenBlock) (parts : List Part)
    (rest : List Token) :
    parseFrom stack parts (tokens ++ rest) = parseFrom stack (parts ++ made) rest := by
  induction nested generalizing stack parts rest with
  | nil => simp
  | text characters _ induction => simp [parseFrom, induction]
  | comment plays _ induction => simp [parseFrom, plays.roleOf_eq, induction]
  | shown plays _ induction => simp [parseFrom, plays.roleOf_eq, induction]
  | block opens _ closes _ body induction =>
      rw [List.cons_append, List.append_assoc, List.cons_append, parseFrom_opening opens, body,
        parseFrom_closing closes, induction]
      simp [OpenBlock.close]
  | branches opens _ _ closes _ body other induction =>
      rw [List.cons_append, List.append_assoc, List.cons_append, List.append_assoc,
        List.cons_append, parseFrom_opening opens, body, parseFrom_else rfl, other,
        parseFrom_closing closes, induction]
      simp [OpenBlock.close]

/-! ## What is accepted is well nested -/

/-- The tokens close the open blocks, innermost first, and lead to the result. -/
inductive Completes : List OpenBlock → List Part → List Token → List Part → Prop
  | done {parts made : List Part} {tokens : List Token} (nested : Nested tokens made) :
      Completes [] parts tokens (parts ++ made)
  | closed {block : OpenBlock} {outer : List OpenBlock} {parts made result : List Part}
      {closing : List Char} {inner rest : List Token} (nested : Nested inner made)
      (closes : Plays closing (.closes block.kind.name.toList))
      (completes : Completes outer (block.close (parts ++ made)) rest result) :
      Completes (block :: outer) parts (inner ++ .tag closing :: rest) result
  | branched {block : OpenBlock} {outer : List OpenBlock}
      {parts made otherwise result : List Part} {closing : List Char}
      {inner other rest : List Token} (first : block.body = none) (nested : Nested inner made)
      (nestedOther : Nested other otherwise)
      (closes : Plays closing (.closes block.kind.name.toList))
      (completes : Completes outer
        (OpenBlock.close { block with body := some (parts ++ made) } otherwise) rest result) :
      Completes (block :: outer) parts
        (inner ++ .tag elseTag :: (other ++ .tag closing :: rest)) result

theorem Completes.prepend {stack : List OpenBlock} {parts made result : List Part}
    {front rest : List Token} (nested : Nested front made)
    (completes : Completes stack (parts ++ made) rest result) :
    Completes stack parts (front ++ rest) result := by
  cases completes with
  | done behind =>
      rw [List.append_assoc]
      exact .done (nested.append behind)
  | closed behind closes completes =>
      rw [List.append_assoc] at completes
      rw [← List.append_assoc]
      exact .closed (nested.append behind) closes completes
  | branched first behind nestedOther closes completes =>
      rw [List.append_assoc] at completes
      rw [← List.append_assoc]
      exact .branched first (nested.append behind) nestedOther closes completes

/-- A block that is opened and closed again leaves the other blocks to be closed. -/
theorem Completes.opened {kind : BlockKind} {argument opening : List Char}
    {stack : List OpenBlock} {parts result : List Part} {rest : List Token}
    (opens : Plays opening (.opens kind.name.toList argument))
    (completes : Completes
      ({ kind := kind, argument := argument, before := parts, body := none } :: stack) [] rest
      result) :
    Completes stack parts (.tag opening :: rest) result := by
  cases completes with
  | closed nested closes completes =>
      simpa using Completes.prepend (.block opens nested closes .nil) completes
  | branched first nested nestedOther closes completes =>
      simpa using Completes.prepend (.branches opens nested nestedOther closes .nil) completes

theorem completes_of_parseFrom {stack : List OpenBlock} {parts result : List Part}
    {tokens : List Token} (accepted : parseFrom stack parts tokens = .ok result) :
    Completes stack parts tokens result := by
  induction tokens generalizing stack parts with
  | nil =>
      cases stack with
      | nil =>
          cases accepted
          simpa using (Completes.done .nil : Completes [] result [] (result ++ []))
      | cons block outer => cases accepted
  | cons token rest induction =>
      cases token with
      | text characters =>
          rw [parseFrom] at accepted
          exact .prepend (.text characters .nil) (induction accepted)
      | tag tag =>
          have plays := plays_roleOf tag
          rw [parseFrom.eq_def] at accepted
          dsimp only at accepted
          generalize roleOf tag = role at plays accepted
          cases role with
          | opens name argument =>
              cases named : BlockKind.named? (String.ofList name) with
              | none => simp [named] at accepted
              | some kind =>
                  simp only [named] at accepted
                  rw [← String.toList_ofList (l := name),
                    BlockKind.named?_eq_some_iff.mp named] at plays
                  exact .opened plays (induction accepted)
          | closes name =>
              cases stack with
              | nil => cases accepted
              | cons block outer =>
                  dsimp only at accepted
                  split at accepted
                  · rename_i same
                    rw [← String.toList_ofList (l := name), same] at plays
                    have completes := induction accepted
                    rw [← List.append_nil parts] at completes
                    exact .closed .nil plays completes
                  · cases accepted
          | orElse =>
              cases plays
              cases stack with
              | nil => cases accepted
              | cons block outer =>
                  dsimp only at accepted
                  split at accepted
                  · rename_i first
                    cases induction accepted with
                    | closed nested closes completes =>
                        rw [← List.append_nil parts] at completes
                        exact .branched first .nil nested closes completes
                    | branched notFirst => cases notFirst
                  · cases accepted
          | comment => exact .prepend (.comment plays .nil) (by simpa using induction accepted)
          | shows inside =>
              cases plays with
              | shows plain notElse =>
                  exact .prepend (.shown (.shows plain notElse) .nil) (induction accepted)

/-- The parser accepts exactly the tokens that are well nested. -/
theorem parse_eq_ok_iff {tokens : List Token} {parts : List Part} :
    parse tokens = .ok parts ↔ Nested tokens parts := by
  constructor
  · intro accepted
    cases completes_of_parseFrom accepted with
    | done nested => exact nested
  · intro nested
    have parsed := nested.parseFrom_append [] [] []
    rw [List.append_nil] at parsed
    exact parsed

end Ussd.Message
