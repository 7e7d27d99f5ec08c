import Mathlib.Data.List.Chain
import Reckon.Proofs.Token.Placement
import Reckon.Token.Lexer

/-!
# The tokens of a text

A lexer is called again and again. Its first calls yield the tokens of the text,
all others the end of input. The tokens cut the text into pieces without a gap,
each piece is told by its position where it starts, and white space is never cut
in two.
-/

namespace Reckon

/-- A kind of token that is neither white space nor the end of the input. -/
def TokenKind.IsWord (kind : TokenKind) : Prop :=
  kind ≠ .blank ∧ kind ≠ .endOfInput

namespace Scan

/-!
## Which tokens are blank

Only white space and comments make a blank token. The kinds of all other tokens
are found by looking at the ways in which a token is scanned.
-/

theorem isWord_kindOfLower (word : String) : (Word.kindOfLower word).IsWord := by
  unfold Word.kindOfLower
  split
  case h_5 => split <;> simp [TokenKind.IsWord]
  all_goals simp [TokenKind.IsWord]

theorem isWord_string (quote : Char) (cs : List Char) : (string quote cs).kind.IsWord := by
  unfold string
  split <;> simp [TokenKind.IsWord]

theorem isWord_number (cs : List Char) : (number cs).kind.IsWord := by
  unfold number
  dsimp only
  split
  · simp [TokenKind.IsWord]
  · split <;> simp [TokenKind.IsWord]

theorem isWord_pairKind {c d : Char} {kind : TokenKind} (h : pairKind? c d = some kind) :
    kind.IsWord := by
  unfold pairKind? at h
  split at h
  case h_10 => cases h
  all_goals
    cases h
    simp [TokenKind.IsWord]

theorem isWord_single (c : Char) (rest : List Char) : (single c rest).kind.IsWord := by
  unfold single markKind?
  dsimp only
  split <;> simp [TokenKind.IsWord]

theorem isWord_mark (c : Char) (rest : List Char) : (mark c rest).kind.IsWord := by
  unfold mark
  split
  · split
    · next h => exact isWord_pairKind h
    · exact isWord_single c _
  · exact isWord_single c _

/-- Whether white space or a comment starts with a character. -/
def startsBlank (c : Char) (rest : List Char) : Bool :=
  Unicode.isWhiteSpace c || startsComment c rest

theorem kind_first_of_startsBlank {c : Char} {rest : List Char}
    (h : startsBlank c rest = true) : (first c rest).kind = .blank := by
  have hstart : (Unicode.isWhiteSpace c || startsComment c rest) = true := h
  rw [first, if_pos hstart]

theorem isWord_first {c : Char} {rest : List Char} (h : startsBlank c rest = false) :
    (first c rest).kind.IsWord := by
  have hstart : ¬ (Unicode.isWhiteSpace c || startsComment c rest) = true :=
    Bool.eq_false_iff.mp h
  rw [first, if_neg hstart]
  split
  · exact isWord_string c rest
  · split
    · exact isWord_number (c :: rest)
    · split
      · exact isWord_kindOfLower _
      · exact isWord_mark c rest

theorem kind_first_ne_endOfInput (c : Char) (rest : List Char) :
    (first c rest).kind ≠ .endOfInput := by
  cases h : startsBlank c rest with
  | true =>
      rw [kind_first_of_startsBlank h]
      intro hkind
      cases hkind
  | false => exact (isWord_first h).right

theorem startsBlank_splitBlank {inComment : Bool} {cs : List Char} {c : Char}
    {rest : List Char} (h : (splitBlank inComment cs).2 = c :: rest) :
    startsBlank c rest = false := by
  fun_induction splitBlank inComment cs with
  | case1 => cases h
  | case2 _ _ _ _ hsplit ih =>
      apply ih
      rw [hsplit]
      exact h
  | case3 _ _ _ hsplit ih =>
      apply ih
      rw [hsplit]
      exact h
  | case4 _ _ _ _ _ _ hsplit ih =>
      apply ih
      rw [hsplit]
      exact h
  | case5 d after hcomment hspace =>
      cases h
      have hslashes : startsComment c rest = false := by
        rw [startsComment, Bool.and_eq_false_iff]
        cases rest with
        | nil => exact Or.inr rfl
        | cons e more =>
            by_cases hc : c = '/'
            · refine Or.inr (beq_eq_false_iff_ne.mpr ?_)
              intro he
              cases he
              exact hcomment more hc rfl
            · exact Or.inl (beq_eq_false_iff_ne.mpr hc)
      rw [startsBlank, hslashes, Bool.or_false]
      exact Bool.eq_false_iff.mpr hspace

theorem startsBlank_rest_first {c d : Char} {rest after : List Char}
    (hblank : (first c rest).kind = .blank) (h : (first c rest).rest = d :: after) :
    startsBlank d after = false := by
  cases hstart : startsBlank c rest with
  | true =>
      have hcond : (Unicode.isWhiteSpace c || startsComment c rest) = true := hstart
      rw [first, if_pos hcond] at h
      exact startsBlank_splitBlank h
  | false => exact absurd hblank (isWord_first hstart).left

end Scan

namespace Lexer

/-!
## Calls of a lexer
-/

/-- The token that is yielded after `n` others. -/
def call : Lexer -> Nat -> Token
  | lexer, 0 => lexer.next.1
  | lexer, n + 1 => lexer.next.2.call n

/-- What holds at the end of a text, and before a token if it holds behind it,
holds everywhere. -/
theorem induction {motive : Lexer -> Prop}
    (atEnd : forall lexer : Lexer, lexer.rest = [] -> motive lexer)
    (onward : forall lexer : Lexer, lexer.rest ≠ [] -> motive lexer.next.2 -> motive lexer)
    (lexer : Lexer) : motive lexer := by
  induction h : lexer.rest.length using Nat.strongRecOn generalizing lexer with
  | ind n ih =>
      by_cases hrest : lexer.rest = []
      · exact atEnd lexer hrest
      · exact onward lexer hrest (ih _ (h ▸ length_next_lt hrest) lexer.next.2 rfl)

theorem tokens_of_rest_eq_nil {lexer : Lexer} (h : lexer.rest = []) :
    lexer.tokens = [] := by
  rw [tokens, run_of_rest_eq_nil h]

theorem position_next (lexer : Lexer) :
    lexer.next.2.position = lexer.position.advance lexer.next.1.lexeme := by
  unfold next
  split <;> rfl

theorem position_next_token (lexer : Lexer) :
    lexer.next.1.position = lexer.position := by
  unfold next
  split <;> rfl

/-- The end of the input, at which every lexer over a text arrives. -/
def endToken (lexer : Lexer) : Token :=
  ⟨.endOfInput, lexer.position.advance lexer.rest, []⟩

theorem endToken_next (lexer : Lexer) : lexer.next.2.endToken = lexer.endToken := by
  rw [endToken, endToken, position_next, ← Position.advance_append, lexeme_append_next]

theorem call_of_rest_eq_nil {lexer : Lexer} (h : lexer.rest = []) (n : Nat) :
    lexer.call n = lexer.endToken := by
  have hnext := next_kind_eq_endOfInput_of_nil h
  have hend : lexer.endToken = ⟨.endOfInput, lexer.position, []⟩ := by
    rw [endToken, h]
    rfl
  induction n with
  | zero => rw [call, hnext, hend]
  | succ n ih => rw [call, hnext, ih]

theorem call_eq (lexer : Lexer) (n : Nat) :
    lexer.call n = lexer.tokens.getD n lexer.endToken := by
  induction lexer using induction generalizing n with
  | atEnd lexer h =>
      rw [call_of_rest_eq_nil h, tokens_of_rest_eq_nil h, List.getD_nil]
  | onward lexer h ih =>
      rw [tokens_of_rest_ne_nil h]
      cases n with
      | zero => rfl
      | succ n => rw [call, ih, List.getD_cons_succ, endToken_next]

/-!
## Tokens one by one
-/

theorem kind_next_ne_endOfInput {lexer : Lexer} (h : lexer.rest ≠ []) :
    lexer.next.1.kind ≠ .endOfInput := by
  unfold next
  split
  · next hrest => exact absurd hrest h
  · exact Scan.kind_first_ne_endOfInput _ _

theorem lexeme_next_ne_nil {lexer : Lexer} (h : lexer.rest ≠ []) :
    lexer.next.1.lexeme ≠ [] := by
  unfold next
  split
  · next hrest => exact absurd hrest h
  · exact Scan.lexeme_ne_nil _ _

theorem forall_mem_tokens {property : Token -> Prop}
    (h : forall lexer : Lexer, lexer.rest ≠ [] -> property lexer.next.1) (lexer : Lexer) :
    forall t, t ∈ lexer.tokens -> property t := by
  induction lexer using induction with
  | atEnd lexer hrest =>
      intro t ht
      rw [tokens_of_rest_eq_nil hrest] at ht
      cases ht
  | onward lexer hrest ih =>
      intro t ht
      rw [tokens_of_rest_ne_nil hrest] at ht
      cases ht with
      | head => exact h lexer hrest
      | tail _ ht => exact ih t ht

theorem position_of_tokens_eq {lexer : Lexer} {before after : List Token} {t : Token}
    (h : lexer.tokens = before ++ t :: after) :
    t.position = lexer.position.advance (before.flatMap Token.lexeme) := by
  induction lexer using induction generalizing before with
  | atEnd lexer hrest =>
      rw [tokens_of_rest_eq_nil hrest] at h
      cases before <;> cases h
  | onward lexer hrest ih =>
      rw [tokens_of_rest_ne_nil hrest] at h
      cases before with
      | nil =>
          cases h
          exact position_next_token lexer
      | cons first before =>
          rw [List.cons_append] at h
          injection h with hfirst htokens
          rw [ih htokens, position_next, hfirst, List.flatMap_cons,
            Position.advance_append]

theorem kind_next_next {lexer : Lexer} (h : lexer.next.1.kind = .blank) :
    lexer.next.2.next.1.kind ≠ .blank := by
  unfold next at h
  split at h
  · cases h
  · next c rest hrest =>
      have hnext : lexer.next.2.rest = (Scan.first c rest).rest := by
        unfold next
        rw [hrest]
      cases hmore : (Scan.first c rest).rest with
      | nil =>
          rw [hmore] at hnext
          rw [next_kind_eq_endOfInput_of_nil hnext]
          intro hkind
          cases hkind
      | cons d after =>
          rw [hmore] at hnext
          have hstart := Scan.startsBlank_rest_first h hmore
          have hkind : lexer.next.2.next.1.kind = (Scan.first d after).kind := by
            rw [next, hnext]
          rw [hkind]
          exact (Scan.isWord_first hstart).left

/-- Blank tokens are kept apart. -/
theorem isChain_tokens (lexer : Lexer) :
    lexer.tokens.IsChain fun s t => s.kind = .blank -> t.kind ≠ .blank := by
  induction lexer using induction with
  | atEnd lexer hrest =>
      rw [tokens_of_rest_eq_nil hrest]
      exact List.IsChain.nil
  | onward lexer hrest ih =>
      rw [tokens_of_rest_ne_nil hrest]
      by_cases hmore : lexer.next.2.rest = []
      · rw [tokens_of_rest_eq_nil hmore]
        exact List.IsChain.singleton _
      · rw [tokens_of_rest_ne_nil hmore] at ih ⊢
        exact List.IsChain.cons_cons kind_next_next ih

/-!
## The sequence as a whole
-/

/-- The numbers of a position are counts of the text before it: its bytes, its
line ends, and the characters behind the last of these. -/
structure CountsOf (p : Position) (before : List Char) : Prop where
  offset_eq : p.offset = (String.ofList before).utf8ByteSize
  line_eq : p.line = before.count '\n'
  column_eq : p.column = (Text.lastLine before).length

theorem countsOf_advance_start (before : List Char) :
    CountsOf (Position.start.advance before) before := by
  rw [Position.advance_start]
  exact ⟨Text.byteLength_eq_utf8ByteSize before, rfl, rfl⟩

/-- The byte at which the line of a place starts, the place being behind a text. -/
def lineStart (before : List Char) : Nat :=
  (String.ofList before).utf8ByteSize - (String.ofList (Text.lastLine before)).utf8ByteSize

theorem isSlice_lastLine (before after : List Char) :
    Text.IsSlice (String.ofList (before ++ after)) (lineStart before)
      (String.ofList before).utf8ByteSize (String.ofList (Text.lastLine before)) := by
  rcases Text.exists_append_lastLine before with ⟨finished, hfinished⟩
  have hslice := Text.isSlice_append finished (Text.lastLine before) after
  have hstart : lineStart before = Text.byteLength finished := by
    have hlength := congrArg Text.byteLength hfinished
    rw [Text.byteLength_append] at hlength
    rw [lineStart, ← Text.byteLength_eq_utf8ByteSize, ← Text.byteLength_eq_utf8ByteSize]
    omega
  rw [hfinished] at hslice
  rw [hstart, ← Text.byteLength_eq_utf8ByteSize]
  exact hslice

/-- A token that lies between two parts of a text: its position counts the part
before it, and the text can be sliced at the start of its line, where the token
starts and where it stops. -/
structure PlacedIn (cs before : List Char) (t : Token) (after : List Char) : Prop where
  countsOf : CountsOf t.position before
  slice_line : Text.IsSlice (String.ofList cs) (lineStart before) t.position.offset
    (String.ofList (Text.lastLine before))
  slice_token : Text.IsSlice (String.ofList cs) t.position.offset t.stop t.text
  slice_rest : Text.IsSlice (String.ofList cs) t.stop (String.ofList cs).utf8ByteSize
    (String.ofList after)

theorem placedIn_of_position (before after : List Char) {t : Token}
    (h : t.position = Position.start.advance before) :
    PlacedIn (before ++ t.lexeme ++ after) before t after := by
  have hcounts := countsOf_advance_start before
  rw [← h] at hcounts
  have hoffset : t.position.offset = Text.byteLength before := by
    rw [hcounts.offset_eq, Text.byteLength_eq_utf8ByteSize]
  have hstop : t.stop = Text.byteLength (before ++ t.lexeme) := by
    rw [Token.stop, hoffset, Text.byteLength_append]
  constructor
  · exact hcounts
  · rw [hcounts.offset_eq, List.append_assoc]
    exact isSlice_lastLine before (t.lexeme ++ after)
  · rw [hoffset, hstop]
    exact Text.isSlice_append before t.lexeme after
  · have hslice := Text.isSlice_append (before ++ t.lexeme) after []
    rw [List.append_nil] at hslice
    rw [hstop, ← Text.byteLength_eq_utf8ByteSize]
    exact hslice

/-- The calls of a lexer over a text yield tokens that are not empty, make up the
text, stand where the tokens before them end and are never blank twice in a row,
and for ever after an empty token at the end of the text. -/
theorem tokens_partition_text (cs : List Char) :
    (ofChars cs).tokens.flatMap Token.lexeme = cs ∧
      (forall t, t ∈ (ofChars cs).tokens -> t.lexeme ≠ [] ∧ t.kind ≠ .endOfInput) ∧
      (forall before t after, (ofChars cs).tokens = before ++ t :: after ->
        PlacedIn cs (before.flatMap Token.lexeme) t (after.flatMap Token.lexeme)) ∧
      (ofChars cs).tokens.IsChain (fun s t => s.kind = .blank -> t.kind ≠ .blank) ∧
      exists last : Token, last.kind = .endOfInput ∧ last.lexeme = [] ∧
        PlacedIn cs cs last [] ∧
        forall n, (ofChars cs).call n = (ofChars cs).tokens.getD n last := by
  have htext : (ofChars cs).tokens.flatMap Token.lexeme = cs := lexemes_tokens (ofChars cs)
  refine ⟨htext, ?_, ?_, isChain_tokens (ofChars cs), (ofChars cs).endToken, rfl, rfl, ?_,
    call_eq (ofChars cs)⟩
  · exact forall_mem_tokens
      (fun _ hrest => ⟨lexeme_next_ne_nil hrest, kind_next_ne_endOfInput hrest⟩)
      (ofChars cs)
  · intro before t after h
    have hplaced := placedIn_of_position (before.flatMap Token.lexeme)
      (after.flatMap Token.lexeme) (position_of_tokens_eq h)
    rw [h, List.flatMap_append, List.flatMap_cons, ← List.append_assoc] at htext
    rw [htext] at hplaced
    exact hplaced
  · have hposition : (ofChars cs).endToken.position = Position.start.advance cs := rfl
    have hplaced := placedIn_of_position cs [] hposition
    have hlexeme : (ofChars cs).endToken.lexeme = [] := rfl
    rw [hlexeme, List.append_nil, List.append_nil] at hplaced
    exact hplaced

end Lexer
end Reckon
