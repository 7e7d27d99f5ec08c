import Reckon.Proofs.Expr.Chain

/-!
# Reading chains

The words of a chain are laid down by a grammar: operands, which are literals or
signed numbers, with binary operators between them, and at most one step behind
the last. Words that follow the grammar are read as the tree of the chain, or
refused at the operand that is one too many.
-/

namespace Reckon
namespace Parser

open TokenSource

/-!
## The grammar
-/

/-- The words of an operand and its value: a literal, or a sign and a number. -/
inductive OperandWords : List Token -> Value -> Prop where
  | literal {t : Token} {form : LiteralForm} {v : Value} :
      t.kind = .literal form -> form.read t.lexeme = .ok v -> OperandWords [t] v
  | signed {sign number : Token} {form : LiteralForm} {v : Value} :
      isSign sign.kind = true -> numberForm? number.kind = some form ->
      form.read (sign.lexeme ++ number.lexeme) = .ok v -> OperandWords [sign, number] v

/-- The words of a chain, its first value and its links. -/
inductive ChainWords : List Token -> Value -> List Link -> Prop where
  | operand {ws : List Token} {v : Value} : OperandWords ws v -> ChainWords ws v []
  | link {ws rest : List Token} {t : Token} {op : BinaryOp} {v w : Value}
      {links : List Link} :
      OperandWords ws v -> t.kind = .binary op -> ChainWords rest w links ->
      ChainWords (ws ++ t :: rest) v ((op, w) :: links)

/-- What ends a chain: a step, whatever follows it, or a word that is neither a step
nor a binary operator. -/
inductive ClosingWords : Option StepOp -> List Token -> Token -> Prop where
  | bare {next : Token} :
      next.kind.stepOp? = none -> next.kind.binaryOp? = none -> ClosingWords none [] next
  | step {t next : Token} {op : StepOp} :
      t.kind = .step op -> ClosingWords (some op) [t] next

/-!
## The grammar and the rules
-/

theorem OperandWords.starts {ws : List Token} {v : Value} (h : OperandWords ws v)
    (rest : List Token) : Starts (ws ++ rest) (.ok (.operand v)) rest := by
  cases h with
  | @literal t form _ hkind hread =>
      have hsign : isSign t.kind = false := by
        rw [hkind]
        rfl
      have htoken : readToken t = .ok (.operand v) := by
        simp only [readToken, hkind, readLiteral, hread]
      rw [← htoken]
      exact .token hsign
  | @signed sign number form _ hsign hform hread =>
      have hliteral : forall position span,
          readLiteral form (sign.lexeme ++ number.lexeme) position span =
            .ok (.operand v) := by
        intro position span
        simp only [readLiteral, hread]
      have hstarts : Starts (sign :: number :: rest)
          (readLiteral form (sign.lexeme ++ number.lexeme) sign.position
            ⟨sign.position.offset, number.stop - sign.position.offset⟩) rest :=
        .signed hsign hform
      rw [hliteral] at hstarts
      exact hstarts

theorem OperandWords.exists_cons {ws : List Token} {v : Value} (h : OperandWords ws v) :
    exists first rest, ws = first :: rest ∧ endsStatement first.kind = false := by
  cases h with
  | @literal t form _ hkind _ =>
      refine ⟨t, [], rfl, ?_⟩
      rw [hkind]
      rfl
  | @signed sign number _ _ hsign _ _ =>
      refine ⟨sign, [number], rfl, ?_⟩
      rw [isSign, Bool.or_eq_true, beq_iff_eq, beq_iff_eq] at hsign
      rcases hsign with hkind | hkind
      · rw [hkind]
        rfl
      · rw [hkind]
        rfl

theorem ChainWords.exists_cons {ws : List Token} {v : Value} {links : List Link}
    (h : ChainWords ws v links) :
    exists first rest, ws = first :: rest ∧ endsStatement first.kind = false := by
  cases h with
  | operand hoperand => exact hoperand.exists_cons
  | link hoperand _ _ =>
      rcases hoperand.exists_cons with ⟨first, rest, rfl, hends⟩
      exact ⟨first, _, rfl, hends⟩

/-- A chain that there is room for is read as its tree. -/
theorem ChainWords.reads {ws : List Token} {v : Value} {links : List Link}
    (h : ChainWords ws v links) {limit room : Nat} {post : Option StepOp}
    {closing : List Token} {next : Token} (hroom : links.length ≤ room)
    (hclosing : ClosingWords post closing next) (more : List Token) :
    Reads limit (room + 1) (ws ++ closing ++ next :: more)
      (.ok (.expression (.ofChain post v links))) (next :: more) := by
  induction h generalizing room with
  | operand hoperand =>
      have hstarts := hoperand.starts (closing ++ next :: more)
      rw [← List.append_assoc] at hstarts
      rw [Expr.ofChain_nil]
      cases hclosing with
      | bare hstep hbinary => exact .operand hstarts hstep hbinary
      | step hkind => exact .step hstarts hkind
  | @link ws rest t op v w links hoperand hkind hrest ih =>
      cases room with
      | zero => exact absurd hroom (Nat.not_succ_le_zero _)
      | succ room =>
          rcases hrest.exists_cons with ⟨first, behind, rfl, hends⟩
          have hstarts := hoperand.starts
            (t :: (first :: behind ++ closing ++ next :: more))
          rw [Expr.ofChain_cons, List.append_assoc, List.append_assoc, List.cons_append,
            ← List.append_assoc]
          exact .chain hstarts hkind hends (ih (Nat.le_of_succ_le_succ hroom))

/-- One operand more than there is room for is refused at its first word. -/
theorem ChainWords.reads_tooDeep {ws : List Token} {v : Value} {links : List Link}
    (h : ChainWords ws v links) {limit : Nat} {t next : Token} {op : BinaryOp}
    (hkind : t.kind = .binary op) (hnext : endsStatement next.kind = false)
    (more : List Token) :
    Reads limit (links.length + 1) (ws ++ t :: next :: more)
      (.error (.atToken (.tooDeep limit) next)) more := by
  induction h with
  | operand hoperand => exact .chainError (hoperand.starts _) hkind hnext .tooDeep
  | @link ws rest t' op' v w links hoperand hkind' hrest ih =>
      rcases hrest.exists_cons with ⟨first, behind, rfl, hends⟩
      have hstarts := hoperand.starts (t' :: (first :: behind ++ t :: next :: more))
      rw [List.append_assoc, List.cons_append]
      exact .chainError hstarts hkind' hends ih

/-!
## Chains are read as their trees
-/

/-- A chain is read as its tree if it has no more operators than the limit, and the
word behind it comes next. A longer chain is refused at the first word of the
operand that the limit leaves no room for. -/
theorem parse_chain {σ : Type} [TokenSource σ] [Lawful σ] {limit : Nat} {s : σ}
    {ws : List Token} {v : Value} {links : List Link} (h : ChainWords ws v links) :
    (forall post closing next more, links.length ≤ limit ->
      ClosingWords post closing next -> Offers s (ws ++ closing ++ next :: more) ->
      exists after, parse limit s = (.ok (.expression (.ofChain post v links)), after) ∧
        (scanWord after).1 = next ∧ Offers after (next :: more) ∧
        (Expr.ofChain post v links).symbols = Expr.chainSymbols post v links ∧
        (Expr.ofChain post v links).Grouped) ∧
    (forall t op next more, links.length = limit ->
      t.kind = .binary op -> endsStatement next.kind = false ->
      Offers s (ws ++ t :: next :: more) ->
      (parse limit s).1 = .error (.atToken (.tooDeep limit) next)) := by
  constructor
  · intro post closing next more hlength hclosing hoffers
    have hreads : Reads limit (limit + 1) (ws ++ closing ++ next :: more)
        (.ok (.expression (.ofChain post v links))) (next :: more) :=
      h.reads hlength hclosing more
    rcases hreads.parseWithin hoffers with ⟨after, hparse, hafter⟩
    exact ⟨after, hparse, hafter.scanWord.left, hafter, Expr.symbols_ofChain post v links,
      Expr.grouped_ofChain post v links⟩
  · intro t op next more hlength hkind hnext hoffers
    subst hlength
    have hreads : Reads links.length (links.length + 1) (ws ++ t :: next :: more)
        (.error (.atToken (.tooDeep links.length) next)) more :=
      h.reads_tooDeep hkind hnext more
    rcases hreads.parseWithin hoffers with ⟨after, hparse, -⟩
    rw [parse, hparse]

/-- A chain of three operands, read with room for two operators and for one. -/
theorem parse_chain_of_text :
    (exists after, parse 2 (TokenBuffer.ofChars "2 * -3 + 1++".toList) =
        (.ok (.expression (.binary .add
          (.binary .mul (.literal (.integer 2)) (.literal (.integer (-3))))
          (.step .increment (.literal (.integer 1))))), after) ∧
        (scanWord after).1.kind = .endOfInput) ∧
      (parse 1 (TokenBuffer.ofChars "2 * -3 + 1++".toList)).1 =
        .error (.atToken (.tooDeep 1) ⟨.literal .integer, ⟨0, 9, 9⟩, ['1']⟩) := by
  let word (kind : TokenKind) (column : Nat) (lexeme : List Char) : Token :=
    ⟨kind, ⟨0, column, column⟩, lexeme⟩
  let two := word (.literal .integer) 0 ['2']
  let times := word (.binary .mul) 2 ['*']
  let minus := word (.binary .sub) 4 ['-']
  let three := word (.literal .integer) 5 ['3']
  let plus := word (.binary .add) 7 ['+']
  let one := word (.literal .integer) 9 ['1']
  let increment := word (.step .increment) 10 ['+', '+']
  let last := word .endOfInput 12 []
  have hoffers : Offers (TokenBuffer.ofChars "2 * -3 + 1++".toList)
      [two, times, minus, three, plus, one, increment, last] := by
    have hwords : (Lexer.ofChars "2 * -3 + 1++".toList).words =
        [two, times, minus, three, plus, one, increment] := by
      decide +kernel
    have hdelivers := TokenBuffer.delivers_ofChars "2 * -3 + 1++".toList 0
    rw [hwords] at hdelivers
    exact hdelivers
  have hproduct : ChainWords [two, times, minus, three] (.integer 2) [(.mul, .integer (-3))] :=
    .link (.literal rfl rfl) rfl (.operand (.signed rfl rfl rfl))
  have hsum : ChainWords [two, times, minus, three, plus, one] (.integer 2)
      [(.mul, .integer (-3)), (.add, .integer 1)] :=
    .link (.literal rfl rfl) rfl
      (.link (.signed rfl rfl rfl) rfl (.operand (.literal rfl rfl)))
  constructor
  · rcases (parse_chain hsum).left (some .increment) [increment] last [] (Nat.le_refl 2)
      (.step rfl) hoffers with ⟨after, hparse, hnext, -⟩
    refine ⟨after, ?_, ?_⟩
    · rw [hparse, Expr.ofChain_cons, Expr.ofChain_cons, Expr.ofChain_nil]
      rfl
    · rw [hnext]
  · exact (parse_chain hproduct).right plus .add one [increment, last] rfl rfl rfl hoffers

end Parser
end Reckon
