import Reckon.Expr.Parser
import Reckon.Proofs.Token.Outlook

/-!
# Reading words

What one attempt to read an expression does is told here as a relation between
words: those that lie ahead, what comes of them, and those that lie ahead
afterwards. There is one rule for each path through the reader, and no rule
takes anything back. A lawful source that offers the words goes along.
-/

namespace Reckon
namespace Parser

open TokenSource

/-!
## The rules
-/

/-- The start of a statement, read from the words ahead. -/
inductive Starts : List Token -> Except SyntaxError Start -> List Token -> Prop where
  | token {first : Token} {ws : List Token} :
      isSign first.kind = false -> Starts (first :: ws) (readToken first) ws
  | signed {sign number : Token} {form : LiteralForm} {ws : List Token} :
      isSign sign.kind = true -> numberForm? number.kind = some form ->
      Starts (sign :: number :: ws)
        (readLiteral form (sign.lexeme ++ number.lexeme) sign.position
          ⟨sign.position.offset, number.stop - sign.position.offset⟩) ws
  | unsigned {sign other : Token} {ws : List Token} :
      isSign sign.kind = true -> numberForm? other.kind = none ->
      Starts (sign :: other :: ws) (.error (.unexpected sign expectedAfterSign))
        (other :: ws)

/-- An attempt to read an expression, as part of a chain that `room` more operands
fit in. -/
inductive Reads (limit : Nat) :
    Nat -> List Token -> Except SyntaxError Parsed -> List Token -> Prop where
  | tooDeep {first : Token} {ws : List Token} :
      Reads limit 0 (first :: ws) (.error (.atToken (.tooDeep limit) first)) ws
  | startError {room : Nat} {ws rest : List Token} {e : SyntaxError} :
      Starts ws (.error e) rest -> Reads limit (room + 1) ws (.error e) rest
  | endOfStatement {room : Nat} {ws rest : List Token} :
      Starts ws (.ok .endOfStatement) rest ->
      Reads limit (room + 1) ws (.ok .endOfStatement) rest
  | endOfInput {room : Nat} {ws rest : List Token} :
      Starts ws (.ok .endOfInput) rest -> Reads limit (room + 1) ws (.ok .endOfInput) rest
  | operand {room : Nat} {ws rest : List Token} {v : Value} {next : Token} :
      Starts ws (.ok (.operand v)) (next :: rest) ->
      next.kind.stepOp? = none -> next.kind.binaryOp? = none ->
      Reads limit (room + 1) ws (.ok (.expression (.literal v))) (next :: rest)
  | step {room : Nat} {ws rest : List Token} {v : Value} {next : Token} {op : StepOp} :
      Starts ws (.ok (.operand v)) (next :: rest) -> next.kind = .step op ->
      Reads limit (room + 1) ws (.ok (.expression (.step op (.literal v)))) rest
  | dangling {room : Nat} {ws rest : List Token} {v : Value} {next ahead : Token}
      {op : BinaryOp} :
      Starts ws (.ok (.operand v)) (next :: ahead :: rest) -> next.kind = .binary op ->
      endsStatement ahead.kind = true ->
      Reads limit (room + 1) ws (.error (.unexpected ahead expectedAfterOperator))
        (ahead :: rest)
  | chain {room : Nat} {ws rest after : List Token} {v : Value} {next ahead : Token}
      {op : BinaryOp} {rhs : Expr} :
      Starts ws (.ok (.operand v)) (next :: ahead :: rest) -> next.kind = .binary op ->
      endsStatement ahead.kind = false ->
      Reads limit room (ahead :: rest) (.ok (.expression rhs)) after ->
      Reads limit (room + 1) ws (.ok (.expression (.graft op (.literal v) rhs))) after
  | chainError {room : Nat} {ws rest after : List Token} {v : Value} {next ahead : Token}
      {op : BinaryOp} {e : SyntaxError} :
      Starts ws (.ok (.operand v)) (next :: ahead :: rest) -> next.kind = .binary op ->
      endsStatement ahead.kind = false ->
      Reads limit room (ahead :: rest) (.error e) after ->
      Reads limit (room + 1) ws (.error e) after

/-!
## The rules and the reader

Each rule describes the reader on every source that offers the words of the rule.
-/

section Sources

variable {σ : Type} [TokenSource σ] [Lawful σ]

theorem Starts.readStart {ws rest : List Token} {start : Except SyntaxError Start}
    (h : Starts ws start rest) {s : σ} (hs : Offers s ws) :
    exists after, Parser.readStart (scanWord s).1 (scanWord s).2 = (start, after) ∧
      Offers after rest := by
  cases h with
  | token hsign =>
      rcases hs.scanWord with ⟨hfirst, hrest, -⟩
      refine ⟨_, ?_, hrest⟩
      rw [Parser.readStart, hfirst, hsign]
      rfl
  | signed hsign hform =>
      rcases hs.scanWord with ⟨hfirst, hbehind, -⟩
      rcases hbehind.scanWord with ⟨hnumber, hrest, -⟩
      refine ⟨_, ?_, hrest⟩
      rw [Parser.readStart, hfirst, if_pos hsign, readSigned, hnumber, hform]
  | unsigned hsign hform =>
      rcases hs.scanWord with ⟨hfirst, hbehind, -⟩
      rcases hbehind.scanWord with ⟨hother, -, hagain⟩
      refine ⟨_, ?_, hagain⟩
      rw [Parser.readStart, hfirst, if_pos hsign, readSigned, hother, hform]

/-- What the rules say comes of the words ahead is what the reader makes of them,
and it leaves the words ahead that the rules leave. -/
theorem Reads.parseWithin {limit room : Nat} {ws rest : List Token}
    {parsed : Except SyntaxError Parsed} (h : Reads limit room ws parsed rest) {s : σ}
    (hs : Offers s ws) :
    exists after, Parser.parseWithin limit room s = (parsed, after) ∧
      Offers after rest := by
  induction h generalizing s with
  | tooDeep =>
      rcases hs.scanWord with ⟨hfirst, hrest, -⟩
      refine ⟨_, ?_, hrest⟩
      rw [Parser.parseWithin, hfirst]
  | startError hstart =>
      rcases hstart.readStart hs with ⟨after, hread, hafter⟩
      refine ⟨after, ?_, hafter⟩
      simp only [Parser.parseWithin, hread]
  | endOfStatement hstart =>
      rcases hstart.readStart hs with ⟨after, hread, hafter⟩
      refine ⟨after, ?_, hafter⟩
      simp only [Parser.parseWithin, hread]
  | endOfInput hstart =>
      rcases hstart.readStart hs with ⟨after, hread, hafter⟩
      refine ⟨after, ?_, hafter⟩
      simp only [Parser.parseWithin, hread]
  | operand hstart hstep hbinary =>
      rcases hstart.readStart hs with ⟨after, hread, hafter⟩
      rcases hafter.scanWord with ⟨hnext, -, hagain⟩
      refine ⟨_, ?_, hagain⟩
      simp only [Parser.parseWithin, hread, hnext]
      split
      · next hkind =>
          rw [hkind] at hstep
          cases hstep
      · next hkind =>
          rw [hkind] at hbinary
          cases hbinary
      · rfl
  | step hstart hkind =>
      rcases hstart.readStart hs with ⟨after, hread, hafter⟩
      rcases hafter.scanWord with ⟨hnext, hrest, -⟩
      refine ⟨_, ?_, hrest⟩
      simp only [Parser.parseWithin, hread, hnext, hkind]
  | dangling hstart hkind hends =>
      rcases hstart.readStart hs with ⟨after, hread, hafter⟩
      rcases hafter.scanWord with ⟨hnext, hbehind, -⟩
      rcases hbehind.scanWord with ⟨hahead, -, hagain⟩
      refine ⟨_, ?_, hagain⟩
      simp only [Parser.parseWithin, hread, hnext, hkind, hahead, if_pos hends]
  | chain hstart hkind hends _ ih =>
      rcases hstart.readStart hs with ⟨after, hread, hafter⟩
      rcases hafter.scanWord with ⟨hnext, hbehind, -⟩
      rcases hbehind.scanWord with ⟨hahead, -, hagain⟩
      rcases ih hagain with ⟨last, hparse, hlast⟩
      refine ⟨last, ?_, hlast⟩
      simp only [Parser.parseWithin, hread, hnext, hkind, hahead, hends, hparse]
      rfl
  | chainError hstart hkind hends _ ih =>
      rcases hstart.readStart hs with ⟨after, hread, hafter⟩
      rcases hafter.scanWord with ⟨hnext, hbehind, -⟩
      rcases hbehind.scanWord with ⟨hahead, -, hagain⟩
      rcases ih hagain with ⟨last, hparse, hlast⟩
      refine ⟨last, ?_, hlast⟩
      simp only [Parser.parseWithin, hread, hnext, hkind, hahead, hends, hparse]
      rfl

end Sources

end Parser
end Reckon
