import Reckon.Proofs.Expr.Calls
import Reckon.Proofs.Session.Joining

/-!
# Layout

White space and comments keep words apart and mean nothing besides. Two texts with the
same words are read alike, whichever calls are made on them: only the places of errors
tell them apart.
-/

namespace Reckon

namespace Lexer

theorem sameWord_self {lexer : Lexer} {t : Token} (h : t ∈ lexer.words) : t.SameWord t := by
  apply forall_mem_tokens _ lexer t (List.mem_filter.mp h).left
  intro lexer hrest
  exact ⟨rfl, rfl, kind_next_ne_endOfInput hrest, describe_next_ne hrest⟩

end Lexer

theorem Token.forall₂_sameWord_of_map_word_eq {ws ws' : List Token}
    (hws : forall t, t ∈ ws -> t.SameWord t) (h : ws.map word = ws'.map word) :
    List.Forall₂ SameWord ws ws' := by
  induction ws generalizing ws' with
  | nil =>
      rw [List.map_nil, eq_comm, List.map_eq_nil_iff] at h
      rw [h]
      exact .nil
  | cons t ws ih =>
      cases ws' with
      | nil => cases h
      | cons u us =>
          rw [List.map_cons, List.map_cons] at h
          injection h with hword hwords
          injection hword with hkind hlexeme
          have ht := hws t List.mem_cons_self
          exact .cons ⟨hkind.symm, hlexeme.symm, ht.kind_ne, ht.describe_ne⟩
            (ih (fun v hv => hws v (List.mem_cons_of_mem t hv)) hwords)

namespace Parser

/-!
## Answers without places
-/

/-- A result without the place of an error. -/
def forgetPlace {α : Type} : Except SyntaxError α -> Except SyntaxError α
  | .ok a => .ok a
  | .error e => .error e.forgetPlace

def Answer.forgetPlace : Answer -> Answer
  | .parsed result => .parsed (Parser.forgetPlace result)
  | .skipped => .skipped
  | .item result? => .item (result?.map Parser.forgetPlace)

theorem Agree.forgetPlace_eq {α : Type} {last last' : Token} {r r' : Except SyntaxError α}
    (hlast : last.describe = last'.describe) (h : Agree last last' r r') :
    forgetPlace r = forgetPlace r' := by
  cases h with
  | ok a => rfl
  | @error x y hfault _ =>
      show Except.error (SyntaxError.mk x.fault Position.start ⟨0, 0⟩) =
        .error ⟨y.fault, Position.start, ⟨0, 0⟩⟩
      rw [hfault]
  | ended =>
      show Except.error (SyntaxError.mk (.unexpected last.describe _) Position.start ⟨0, 0⟩) =
        .error ⟨.unexpected last'.describe _, Position.start, ⟨0, 0⟩⟩
      rw [hlast]

theorem Answer.Agree.forgetPlace_eq {last last' : Token} {x y : Answer}
    (hlast : last.describe = last'.describe) (h : Answer.Agree last last' x y) :
    x.forgetPlace = y.forgetPlace := by
  cases h with
  | parsed hagree => exact congrArg Answer.parsed (hagree.forgetPlace_eq hlast)
  | skipped => rfl
  | item hrel =>
      cases hrel with
      | none => rfl
      | some hagree => exact congrArg (fun r => Answer.item (some r)) (hagree.forgetPlace_eq hlast)

/-!
## Texts with the same words
-/

theorem alongside_ofChars {a b : List Char}
    (h : (Lexer.ofChars a).words.map Token.word = (Lexer.ofChars b).words.map Token.word) :
    Alongside (Lexer.ofChars a).endToken (Lexer.ofChars b).endToken (Lexer.ofChars a).words
      (Lexer.ofChars b).words (TokenBuffer.ofChars a) (TokenBuffer.ofChars b) where
  end_here := rfl
  end_there := rfl
  here := TokenBuffer.delivers_ofChars a
  there := TokenBuffer.delivers_ofChars b
  sameWords := Token.forall₂_sameWord_of_map_word_eq (fun _ ht => Lexer.sameWord_self ht) h

/-- Two texts with the same words answer any calls alike, but for the places of
errors. -/
theorem answers_eq_of_words_eq (limit : Nat) (calls : List Call) {a b : List Char}
    (h : (Lexer.ofChars a).words.map Token.word = (Lexer.ofChars b).words.map Token.word) :
    (answers limit calls (TokenBuffer.ofChars a)).map Answer.forgetPlace =
      (answers limit calls (TokenBuffer.ofChars b)).map Answer.forgetPlace := by
  have hend : (Lexer.ofChars a).endToken.describe = (Lexer.ofChars b).endToken.describe := rfl
  exact Session.map_eq_map_of_forall₂ (fun _ _ hagree => hagree.forgetPlace_eq hend)
    ((alongside_ofChars h).forall₂_answers limit calls)

/-- A comment, a tab and a line end in the place of blanks, and an error behind them. -/
theorem answers_eq_of_words_eq_of_text :
    let a := "1 + 2; )".toList
    let b := "1+// one\n\t2;)".toList
    let calls := [Call.parse, .skip, .parse, .next]
    (Lexer.ofChars a).words.map Token.word = (Lexer.ofChars b).words.map Token.word ∧
      (answers 1 calls (TokenBuffer.ofChars a)).map Answer.forgetPlace =
        (answers 1 calls (TokenBuffer.ofChars b)).map Answer.forgetPlace ∧
      (answers 1 calls (TokenBuffer.ofChars b)).map Answer.forgetPlace =
        [.parsed (.ok (.expression
            (.binary .add (.literal (.integer 1)) (.literal (.integer 2))))),
          .skipped,
          .parsed (.error ⟨.unexpected ")" expectedAtStart, Position.start, ⟨0, 0⟩⟩),
          .item none] := by
  intro a b calls
  have hwords : (Lexer.ofChars a).words.map Token.word =
      (Lexer.ofChars b).words.map Token.word := by
    decide +kernel
  exact ⟨hwords, answers_eq_of_words_eq 1 calls hwords, by decide +kernel⟩

end Parser
end Reckon
