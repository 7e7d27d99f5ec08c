import Reckon.Proofs.Expr.Loop
import Reckon.Session.Basic

/-!
# Lines joined by a semicolon

Two texts with a semicolon between them are answered like the one and then like
the other, provided that the tokens of the two stay what they are. Errors move
with their texts; and an operator at the end of the first text misses its operand
before the semicolon, no longer before the end of the input.
-/

namespace Reckon

/-!
## Words of a text
-/

/-- A token without its place. -/
def Token.word (t : Token) : TokenKind × List Char :=
  (t.kind, t.lexeme)

theorem Scan.kind_first_of_lexeme_eq {c : Char} {rest : List Char}
    (h : (first c rest).lexeme = TokenKind.endOfInput.name.toList) :
    (first c rest).kind = .identifier := by
  have hname : TokenKind.endOfInput.name.toList = ['E', 'O', 'F'] := by decide
  rw [hname] at h
  have htext := lexeme_append_rest c rest
  rw [h] at htext
  have hc : 'E' = c := (List.cons.inj htext).left
  subst hc
  have hkind : (first 'E' rest).kind = Word.kind (first 'E' rest).lexeme := rfl
  rw [hkind, h]
  rfl

namespace Lexer

theorem describe_next_ne {lexer : Lexer} (hrest : lexer.rest ≠ [])
    (hkind : lexer.next.1.kind ≠ .identifier) :
    lexer.next.1.describe ≠ TokenKind.endOfInput.name := by
  intro hdescribe
  unfold Token.describe at hdescribe
  have hlexeme := lexeme_next_ne_nil hrest
  split at hdescribe
  · next hname =>
      have hblank : lexer.next.1.kind = .blank := by
        simpa [hlexeme] using hname
      rw [hblank] at hdescribe
      exact absurd hdescribe (by decide)
  · apply hkind
    have htext : lexer.next.1.lexeme = TokenKind.endOfInput.name.toList := by
      rw [← hdescribe, Token.text, String.toList_ofList]
    unfold next at htext ⊢
    split
    · next hnil => exact absurd hnil hrest
    · next c rest hcons =>
        rw [hcons] at htext
        exact Scan.kind_first_of_lexeme_eq htext

theorem sameWords_of_map_word_eq {lexer : Lexer} {ts : List Token}
    (h : ts.map Token.word = lexer.tokens.map Token.word) :
    List.Forall₂ Token.SameWord lexer.words (ts.filter fun t => t.kind ≠ .blank) := by
  induction lexer using induction generalizing ts with
  | atEnd lexer hrest =>
      rw [tokens_of_rest_eq_nil hrest, List.map_nil, List.map_eq_nil_iff] at h
      rw [h, words, tokens_of_rest_eq_nil hrest]
      exact .nil
  | onward lexer hrest ih =>
      rw [tokens_of_rest_ne_nil hrest] at h
      cases ts with
      | nil => cases h
      | cons t ts =>
          rw [List.map_cons, List.map_cons] at h
          injection h with hword hwords
          injection hword with hkind hlexeme
          rw [words, tokens_of_rest_ne_nil hrest]
          by_cases hblank : lexer.next.1.kind = .blank
          · rw [List.filter_cons_of_neg (by simpa using hblank),
              List.filter_cons_of_neg (by simpa [hkind] using hblank)]
            exact ih hwords
          · rw [List.filter_cons_of_pos (by simpa using hblank),
              List.filter_cons_of_pos (by simpa [hkind] using hblank)]
            refine .cons ⟨hkind, hlexeme, kind_next_ne_endOfInput hrest, ?_⟩ (ih hwords)
            exact describe_next_ne hrest

end Lexer

/-!
## Answers without places
-/

def SyntaxError.forgetPlace (e : SyntaxError) : SyntaxError :=
  ⟨e.fault, Position.start, ⟨0, 0⟩⟩

/-- A fault with a semicolon in place of the end of the input. -/
def SyntaxFault.beforeSemicolon : SyntaxFault -> SyntaxFault
  | .unexpected found expected =>
      if found = TokenKind.endOfInput.name then .unexpected TokenKind.semicolon.name expected
      else .unexpected found expected
  | fault => fault

namespace Response

/-- A response without the place of an error in the text. -/
def forgetPlace : Response -> Response
  | .failure (.text e) => .failure (.text e.forgetPlace)
  | response => response

/-- A response with a semicolon in place of the end of the input. -/
def beforeSemicolon : Response -> Response
  | .failure (.text e) => .failure (.text { e with fault := e.fault.beforeSemicolon })
  | response => response

end Response

theorem SyntaxFault.beforeSemicolon_eq {fault : SyntaxFault}
    (h : ¬ Parser.NamesEnd fault) : fault.beforeSemicolon = fault := by
  cases fault with
  | unexpected found expected => exact if_neg h
  | malformed _ _ => rfl
  | notImplemented _ _ => rfl
  | tooDeep _ => rfl

namespace Session

/-- The responses of the loop over the statements of a line. -/
def responses (settings : Settings) (line : List Char) : List Response :=
  (statements settings line).map (respond settings)

theorem forgetPlace_and_beforeSemicolon_respondTo (result : Except EvalError Value) :
    (respondTo result).forgetPlace = respondTo result ∧
      (respondTo result).beforeSemicolon = respondTo result := by
  -- What an expression evaluates to has no place in the text.
  cases result with
  | ok v =>
      unfold respondTo
      dsimp only
      split
      · exact ⟨rfl, rfl⟩
      · exact ⟨rfl, rfl⟩
  | error e =>
      unfold respondTo
      dsimp only
      split
      · exact ⟨rfl, rfl⟩
      · exact ⟨rfl, rfl⟩

theorem forgetPlace_respond_error (settings : Settings) (e : SyntaxError) :
    (respond settings (.error e)).forgetPlace =
      if e.fault.isTrap then .trap else .failure (.text e.forgetPlace) := by
  unfold respond
  dsimp only
  split
  · rfl
  · rfl

theorem forgetPlace_respond_semicolon {settings : Settings} {last mark : Token}
    {r r' : Except SyntaxError Expr} (hlast : last.describe = TokenKind.endOfInput.name)
    (hmark : mark.describe = TokenKind.semicolon.name) (h : Parser.Agree last mark r r') :
    (respond settings r).forgetPlace.beforeSemicolon =
      (respond settings r').forgetPlace := by
  cases h with
  | ok e =>
      rcases forgetPlace_and_beforeSemicolon_respondTo (e.evaluate settings.evalDepth) with
        ⟨hplace, hend⟩
      show (respondTo _).forgetPlace.beforeSemicolon = (respondTo _).forgetPlace
      rw [hplace, hend]
  | @error x y hfault hend =>
      have hsame := SyntaxFault.beforeSemicolon_eq hend
      rw [forgetPlace_respond_error, forgetPlace_respond_error, SyntaxError.forgetPlace,
        SyntaxError.forgetPlace, hfault]
      split
      · rfl
      · show Response.failure (.text ⟨x.fault.beforeSemicolon, _, _⟩) = _
        rw [hsame]
  | ended =>
      show Response.failure (.text ⟨(SyntaxFault.unexpected last.describe _).beforeSemicolon,
          Position.start, ⟨0, 0⟩⟩) =
        .failure (.text ⟨.unexpected mark.describe _, Position.start, ⟨0, 0⟩⟩)
      rw [hlast, hmark, SyntaxFault.beforeSemicolon, if_pos rfl]

theorem forgetPlace_respond_end {settings : Settings} {last last' : Token}
    {r r' : Except SyntaxError Expr} (hlast : last.describe = last'.describe)
    (h : Parser.Agree last last' r r') :
    (respond settings r).forgetPlace = (respond settings r').forgetPlace := by
  cases h with
  | ok e => rfl
  | @error x y hfault _ =>
      rw [forgetPlace_respond_error, forgetPlace_respond_error, SyntaxError.forgetPlace,
        SyntaxError.forgetPlace, hfault]
  | ended =>
      show Response.failure (.text ⟨.unexpected last.describe _, Position.start, ⟨0, 0⟩⟩) =
        .failure (.text ⟨.unexpected last'.describe _, Position.start, ⟨0, 0⟩⟩)
      rw [hlast]

theorem map_eq_map_of_forall₂ {α β γ : Type} {R : α -> β -> Prop} {f : α -> γ} {g : β -> γ}
    (hR : forall a b, R a b -> f a = g b) {as : List α} {bs : List β}
    (h : List.Forall₂ R as bs) : as.map f = bs.map g := by
  rw [← List.forall₂_eq_eq_eq, List.forall₂_map_left_iff, List.forall₂_map_right_iff]
  exact h.imp fun a b => hR a b

/-- Two texts whose tokens a semicolon keeps apart are answered one after the other.
Only errors move, and a missing operand at the end of the first text is missed
before the semicolon. -/
theorem responses_append_semicolon (settings : Settings) {a b : List Char}
    (h : (Lexer.ofChars (a ++ ';' :: b)).tokens.map Token.word =
      (Lexer.ofChars a).tokens.map Token.word ++
        (.semicolon, [';']) :: (Lexer.ofChars b).tokens.map Token.word) :
    (responses settings (a ++ ';' :: b)).map Response.forgetPlace =
      (responses settings a).map (fun response => response.forgetPlace.beforeSemicolon) ++
        (responses settings b).map Response.forgetPlace := by
  rcases List.map_eq_append_iff.mp h with ⟨ta, tail, htokens, hta, htail⟩
  rcases List.map_eq_cons_iff.mp htail with ⟨mark, tb, rfl, hword, htb⟩
  injection hword with hkind hlexeme
  have hwords : (Lexer.ofChars (a ++ ';' :: b)).words =
      (ta.filter fun t => t.kind ≠ .blank) ++
        mark :: tb.filter fun t => t.kind ≠ .blank := by
    rw [Lexer.words, htokens, List.filter_append, List.filter_cons_of_pos (by simp [hkind])]
  have hdelivers := TokenBuffer.delivers_ofChars (a ++ ';' :: b)
  rw [hwords] at hdelivers
  rcases Parser.statements_append settings.maxDepth hkind rfl rfl rfl
      (Lexer.sameWords_of_map_word_eq hta) (Lexer.sameWords_of_map_word_eq htb) hdelivers
      (TokenBuffer.delivers_ofChars a) (TokenBuffer.delivers_ofChars b) with
    ⟨before, behind, hstatements, hbefore, hbehind⟩
  have hmark : mark.describe = TokenKind.semicolon.name := by
    rw [Token.describe, Token.text, hkind, hlexeme]
    rfl
  have hend : (Lexer.ofChars b).endToken.describe =
      (Lexer.ofChars (a ++ ';' :: b)).endToken.describe := rfl
  rw [responses, responses, responses, statements, hstatements, List.map_append,
    List.map_append, List.map_map, List.map_map, List.map_map, List.map_map]
  congr 1
  · exact (map_eq_map_of_forall₂
      (fun _ _ hagree => forgetPlace_respond_semicolon rfl hmark hagree) hbefore).symm
  · exact (map_eq_map_of_forall₂
      (fun _ _ hagree => forgetPlace_respond_end hend hagree) hbehind).symm

/-- An operator without an operand before the semicolon, and a number behind it. -/
theorem responses_append_semicolon_of_text :
    (Lexer.ofChars ("1 +".toList ++ ';' :: "2".toList)).tokens.map Token.word =
        (Lexer.ofChars "1 +".toList).tokens.map Token.word ++
          (.semicolon, [';']) :: (Lexer.ofChars "2".toList).tokens.map Token.word ∧
      (responses {} ("1 +".toList ++ ';' :: "2".toList)).map Response.forgetPlace =
        [.failure (.text ⟨.unexpected ";" ["expression"], Position.start, ⟨0, 0⟩⟩),
          .value "2"] := by
  have htokens : (Lexer.ofChars ("1 +".toList ++ ';' :: "2".toList)).tokens.map Token.word =
      (Lexer.ofChars "1 +".toList).tokens.map Token.word ++
        (.semicolon, [';']) :: (Lexer.ofChars "2".toList).tokens.map Token.word := by
    decide +kernel
  have hfirst : (responses {} "1 +".toList).map
        (fun response => response.forgetPlace.beforeSemicolon) =
      [.failure (.text ⟨.unexpected ";" ["expression"], Position.start, ⟨0, 0⟩⟩)] := by
    decide +kernel
  have hsecond : (responses {} "2".toList).map Response.forgetPlace = [.value "2"] := by
    decide +kernel
  constructor
  · exact htokens
  · rw [responses_append_semicolon {} htokens, hfirst, hsecond]
    rfl

end Session
end Reckon
