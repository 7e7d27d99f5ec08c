import Reckon.Failure
import Reckon.Proofs.Expr.Reporting

/-!
# What errors point at

An error names a place in the text by its position and by the span of its label, and tells
what it found there. All are about the same tokens: one word, or a sign through the number
behind it with what is blank between them, or nothing where the text is at its end.
-/

namespace Reckon

/-- The text that a fault names: what was found, or the text of a literal. -/
def SyntaxFault.named? : SyntaxFault -> Option String
  | .unexpected found _ => some found
  | .malformed text _ => some text
  | .notImplemented _ found => some found
  | .tooDeep _ => none

theorem Lexer.lexeme_ne_nil_of_mem_tokens (lexer : Lexer) :
    forall t, t ∈ lexer.tokens -> t.lexeme ≠ [] :=
  forall_mem_tokens (fun _ => lexeme_next_ne_nil) lexer

namespace Parser

open TokenSource
open Text (byteLength)

/-!
## Tokens that an error covers
-/

/-- Whether a fault can be about some tokens. Only a literal that is malformed can be about
more than one. -/
inductive Covers : SyntaxFault -> List Token -> Prop where
  | word {fault : SyntaxFault} {t : Token} : t.kind ≠ .blank -> Covers fault [t]
  | signed {text : String} {fault : LiteralFault} {form : LiteralForm} {sign number : Token}
      {blanks : List Token} :
      isSign sign.kind = true -> (forall b, b ∈ blanks -> b.kind = .blank) ->
      blanks.length ≤ 1 -> numberForm? number.kind = some form ->
      Covers (.malformed text fault) (sign :: (blanks ++ [number]))
  | ended {found : String} {expected : List String} : Covers (.unexpected found expected) []

/-- How tokens are named: by the text of those that are not blank, or by the name of the
end of the input where there are none. -/
def nameOf (covered : List Token) : String :=
  if covered = [] then TokenKind.endOfInput.name
  else String.ofList ((covered.filter fun t => t.kind ≠ .blank).flatMap Token.lexeme)

/-- An error that points at some tokens of a text: its position counts what is before
them, the span of its label cuts them out of the text, and it names them. The span is empty
at the end of the text only. -/
structure PointsAt (cs : List Char) (e : SyntaxError) (label : Label)
    (before covered after : List Token) : Prop where
  labelled : (Failure.text e).label? = some label
  tokens_eq : (Lexer.ofChars cs).tokens = before ++ (covered ++ after)
  offset_eq : label.span.offset = e.position.offset
  countsOf : Lexer.CountsOf e.position (before.flatMap Token.lexeme)
  slice : Text.IsSlice (String.ofList cs) label.span.offset
    (label.span.offset + label.span.length) (String.ofList (covered.flatMap Token.lexeme))
  covers : Covers e.fault covered
  atEnd : label.span.length = 0 -> covered = [] ∧ after = []
  named : forall text, e.fault.named? = some text -> text = nameOf covered

theorem byteLength_lexemes_ne {covered : List Token} (hne : covered ≠ [])
    (h : forall t, t ∈ covered -> t.lexeme ≠ []) :
    byteLength (covered.flatMap Token.lexeme) ≠ 0 := by
  rcases List.exists_cons_of_ne_nil hne with ⟨t, ts, rfl⟩
  rcases List.exists_cons_of_ne_nil (h t List.mem_cons_self) with ⟨c, rest, hlexeme⟩
  rw [List.flatMap_cons, hlexeme, List.cons_append, Text.byteLength_cons]
  have hpos := c.utf8Size_pos
  omega

theorem kind_ne_blank_of_isSign {kind : TokenKind} (h : isSign kind = true) :
    kind ≠ .blank := by
  rintro rfl
  cases h

theorem kind_ne_blank_of_numberForm? {kind : TokenKind} {form : LiteralForm}
    (h : numberForm? kind = some form) : kind ≠ .blank := by
  rintro rfl
  cases h

theorem nameOf_word {t : Token} (ht : t.kind ≠ .blank) : nameOf [t] = t.text := by
  rw [nameOf, if_neg (List.cons_ne_nil t []), List.filter_cons_of_pos (by simpa using ht),
    List.filter_nil, List.flatMap_singleton]
  rfl

theorem nameOf_signed {sign number : Token} {blanks : List Token} (hsign : sign.kind ≠ .blank)
    (hblanks : forall b, b ∈ blanks -> b.kind = .blank) (hnumber : number.kind ≠ .blank) :
    nameOf (sign :: (blanks ++ [number])) = String.ofList (sign.lexeme ++ number.lexeme) := by
  have hnone : blanks.filter (fun t => t.kind ≠ .blank) = [] := by
    rw [List.filter_eq_nil_iff]
    intro b hb
    simp [hblanks b hb]
  rw [nameOf, if_neg (List.cons_ne_nil _ _), List.filter_cons_of_pos (by simpa using hsign),
    List.filter_append, hnone, List.filter_cons_of_pos (by simpa using hnumber), List.filter_nil]
  simp

section Points

variable {cs : List Char} {e : SyntaxError} {before covered after : List Token}

theorem pointsAt_of_position
    (htokens : (Lexer.ofChars cs).tokens = before ++ (covered ++ after))
    (hposition : e.position = Position.start.advance (before.flatMap Token.lexeme))
    (hspan : e.span = ⟨e.position.offset, byteLength (covered.flatMap Token.lexeme)⟩)
    (hcovers : Covers e.fault covered) (hend : covered = [] -> after = [])
    (hnamed : forall text, e.fault.named? = some text -> text = nameOf covered) :
    PointsAt cs e ⟨e.span, e.fault.remark⟩ before covered after where
  labelled := rfl
  tokens_eq := htokens
  offset_eq := by rw [hspan]
  countsOf := hposition ▸ Lexer.countsOf_advance_start _
  slice := by
    have htext : before.flatMap Token.lexeme ++ covered.flatMap Token.lexeme ++
        after.flatMap Token.lexeme = cs := by
      have hlexemes : (Lexer.ofChars cs).tokens.flatMap Token.lexeme = cs :=
        Lexer.lexemes_tokens (Lexer.ofChars cs)
      rw [htokens, List.flatMap_append, List.flatMap_append, ← List.append_assoc] at hlexemes
      exact hlexemes
    have hoffset : e.position.offset = byteLength (before.flatMap Token.lexeme) := by
      rw [hposition, Position.advance_start]
    have hslice := Text.isSlice_append (before.flatMap Token.lexeme)
      (covered.flatMap Token.lexeme) (after.flatMap Token.lexeme)
    rw [htext, Text.byteLength_append, ← hoffset] at hslice
    rw [hspan]
    exact hslice
  covers := hcovers
  atEnd := by
    rw [hspan]
    intro hlength
    have hlexemes := Lexer.lexeme_ne_nil_of_mem_tokens (Lexer.ofChars cs)
    rw [htokens] at hlexemes
    have hnil : covered = [] := by
      by_contra hne
      exact byteLength_lexemes_ne hne (fun t ht =>
        hlexemes t (List.mem_append_right _ (List.mem_append_left _ ht))) hlength
    exact ⟨hnil, hend hnil⟩
  named := hnamed

theorem pointsAt_word {t : Token} {fault : SyntaxFault}
    (htokens : (Lexer.ofChars cs).tokens = before ++ t :: after) (hkind : t.kind ≠ .blank)
    (hnamed : forall text, fault.named? = some text -> text = t.text) :
    PointsAt cs (.atToken fault t) ⟨t.span, fault.remark⟩ before [t] after := by
  refine pointsAt_of_position htokens (Lexer.position_of_tokens_eq htokens) ?_ (.word hkind)
    (fun h => absurd h (List.cons_ne_nil t [])) ?_
  · rw [List.flatMap_singleton]
    rfl
  · rw [nameOf_word hkind]
    exact hnamed

theorem pointsAt_end (cs : List Char) (expected : List String) :
    PointsAt cs (.unexpected (Lexer.ofChars cs).endToken expected)
      ⟨(Lexer.ofChars cs).endToken.span, "here"⟩ (Lexer.ofChars cs).tokens [] [] := by
  have htext : (Lexer.ofChars cs).tokens.flatMap Token.lexeme = cs :=
    Lexer.lexemes_tokens (Lexer.ofChars cs)
  refine pointsAt_of_position ?_ ?_ rfl .ended (fun _ => rfl) ?_
  · rw [List.append_nil, List.append_nil]
  · rw [htext]
    rfl
  · rintro text h
    cases h
    rfl

theorem stop_eq_of_tokens_eq {sign number : Token} {blanks : List Token}
    (htokens : (Lexer.ofChars cs).tokens = before ++ (sign :: (blanks ++ [number]) ++ after)) :
    number.stop =
      sign.position.offset + byteLength ((sign :: (blanks ++ [number])).flatMap Token.lexeme) := by
  have hsign : sign.position = Position.start.advance (before.flatMap Token.lexeme) :=
    Lexer.position_of_tokens_eq htokens
  have hnumber : (Lexer.ofChars cs).tokens = (before ++ sign :: blanks) ++ number :: after := by
    rw [htokens]
    simp
  have hposition : number.position =
      sign.position.advance ((sign :: blanks).flatMap Token.lexeme) := by
    rw [Lexer.position_of_tokens_eq hnumber, hsign, List.flatMap_append, Position.advance_append]
    rfl
  rw [Token.stop, hposition, Position.offset_advance, ← List.cons_append, List.flatMap_append,
    List.flatMap_singleton, Text.byteLength_append, Nat.add_assoc]

theorem pointsAt_signed {sign number : Token} {blanks : List Token} {form : LiteralForm}
    {fault : LiteralFault}
    (htokens : (Lexer.ofChars cs).tokens = before ++ (sign :: (blanks ++ [number]) ++ after))
    (hsign : isSign sign.kind = true) (hblanks : forall b, b ∈ blanks -> b.kind = .blank)
    (hlength : blanks.length ≤ 1) (hform : numberForm? number.kind = some form) :
    PointsAt cs
      ⟨.malformed (String.ofList (sign.lexeme ++ number.lexeme)) fault, sign.position,
        ⟨sign.position.offset, number.stop - sign.position.offset⟩⟩
      ⟨⟨sign.position.offset, number.stop - sign.position.offset⟩,
        s!"this {fault.kind.name} literal"⟩
      before (sign :: (blanks ++ [number])) after := by
  have hposition := Lexer.position_of_tokens_eq htokens
  refine pointsAt_of_position htokens hposition ?_ (.signed hsign hblanks hlength hform)
    (fun h => absurd h (List.cons_ne_nil _ _)) ?_
  · rw [stop_eq_of_tokens_eq htokens, Nat.add_sub_cancel_left]
  · rintro text h
    cases h
    rw [nameOf_signed (kind_ne_blank_of_isSign hsign) hblanks
      (kind_ne_blank_of_numberForm? hform)]

end Points

/-!
## Words of a text
-/

section Sources

variable {σ : Type} [TokenSource σ] {cs : List Char} {before : List Token} {s : σ}

theorem Behind.scan_nil (h : Behind cs before s)
    (htext : (Lexer.ofChars cs).tokens = before) :
    (scan s).1 = (Lexer.ofChars cs).endToken ∧ Behind cs before (scan s).2 := by
  rcases h with ⟨after, htokens, hnext⟩
  have hnil : after = [] := by
    rw [htext] at htokens
    exact List.self_eq_append_right.mp htokens
  subst hnil
  exact ⟨hnext 0, [], htokens, fun n => hnext (n + 1)⟩

theorem Behind.scan_cons {t : Token} {after : List Token} (h : Behind cs before s)
    (htext : (Lexer.ofChars cs).tokens = before ++ t :: after) :
    (scan s).1 = t ∧ Behind cs (before ++ [t]) (scan s).2 := by
  rcases h with ⟨rest, htokens, hnext⟩
  rw [htext] at htokens
  cases List.append_cancel_left htokens
  refine ⟨hnext 0, after, ?_, fun n => hnext (n + 1)⟩
  rw [htext, List.append_assoc]
  rfl

theorem Behind.exists_word (h : Behind cs before s) :
    (scanWord s).1 = (Lexer.ofChars cs).endToken ∨
      exists blanks : List Token, (forall b, b ∈ blanks -> b.kind = .blank) ∧
        blanks.length ≤ 1 ∧ (scanWord s).1.kind ≠ .blank ∧
        Behind cs (before ++ blanks ++ [(scanWord s).1]) (scanWord s).2 := by
  have hapart := Inside.blanksApart ⟨before, h⟩ 0
  have hend : (Lexer.ofChars cs).endToken.kind ≠ .blank := fun h => nomatch h
  rcases h with ⟨after, htext, hnext⟩
  have hs : Behind cs before s := ⟨after, htext, hnext⟩
  cases after with
  | nil =>
      rw [List.append_nil] at htext
      have hscan := (hs.scan_nil htext).left
      rw [scanWord, hscan, if_neg hend]
      exact .inl hscan
  | cons t after =>
      rcases hs.scan_cons htext with ⟨hscan, hbehind⟩
      by_cases hblank : t.kind = .blank
      · have hword : scanWord s = scan (scan s).2 := by
          rw [scanWord, hscan, if_pos hblank]
        rw [hword]
        rw [← List.singleton_append, ← List.append_assoc] at htext
        cases after with
        | nil =>
            rw [List.append_nil] at htext
            exact .inl (hbehind.scan_nil htext).left
        | cons u after =>
            rcases hbehind.scan_cons htext with ⟨hmore, hrest⟩
            have hu : (scan (scan s).2).1.kind ≠ .blank := by
              apply hapart
              show (scan s).1.kind = .blank
              rw [hscan, hblank]
            refine .inr ⟨[t], ?_, Nat.le_refl 1, hu, hmore.symm ▸ hrest⟩
            intro b hb
            rw [List.mem_singleton.mp hb, hblank]
      · have hword : scanWord s = scan s := by
          rw [scanWord, hscan, if_neg hblank]
        rw [hword, hscan]
        refine .inr ⟨[], List.forall_mem_nil _, Nat.zero_le 1, hblank, ?_⟩
        rw [List.append_nil]
        exact hbehind

/-!
## Errors about words
-/

variable {e : SyntaxError}

theorem exists_pointsAt_unexpected (hs : Inside cs s) (expected : List String) :
    exists label before covered after,
      PointsAt cs (.unexpected (scanWord s).1 expected) label before covered after := by
  rcases hs with ⟨before, hs⟩
  rcases hs.exists_word with hend | ⟨blanks, -, -, hkind, after, htext, -⟩
  · rw [hend]
    exact ⟨_, _, _, _, pointsAt_end cs expected⟩
  · rw [List.append_assoc, List.singleton_append] at htext
    have hlexeme : (scanWord s).1.lexeme ≠ [] := by
      apply Lexer.lexeme_ne_nil_of_mem_tokens (Lexer.ofChars cs)
      rw [htext]
      exact List.mem_append_right _ List.mem_cons_self
    refine ⟨_, _, _, _, pointsAt_word htext hkind ?_⟩
    rintro text h
    cases h
    have hempty : (scanWord s).1.lexeme.isEmpty = false := List.isEmpty_eq_false_iff.mpr hlexeme
    rw [Token.describe, hempty, beq_eq_false_iff_ne.mpr hkind]
    rfl

theorem exists_pointsAt_atToken (hs : Inside cs s) {fault : SyntaxFault}
    (hend : (scanWord s).1.kind ≠ .endOfInput)
    (hnamed : forall text, fault.named? = some text -> text = (scanWord s).1.text) :
    exists label before covered after,
      PointsAt cs (.atToken fault (scanWord s).1) label before covered after := by
  rcases hs with ⟨before, hs⟩
  rcases hs.exists_word with hword | ⟨blanks, -, -, hkind, after, htext, -⟩
  · rw [hword] at hend
    exact absurd rfl hend
  · rw [List.append_assoc, List.singleton_append] at htext
    exact ⟨_, _, _, _, pointsAt_word htext hkind hnamed⟩

theorem exists_pointsAt_readToken (hs : Inside cs s)
    (h : readToken (scanWord s).1 = .error e) :
    exists label before covered after, PointsAt cs e label before covered after := by
  have hword (fault : SyntaxFault) := @exists_pointsAt_atToken _ _ cs s hs fault
  have hunexpected := exists_pointsAt_unexpected hs
  generalize (scanWord s).1 = first at h hword hunexpected
  unfold readToken at h
  split at h
  case h_1 form hkind =>
    unfold readLiteral at h
    split at h
    · cases h
    · cases h
      refine hword _ ?_ ?_
      · rw [hkind]
        exact fun h => nomatch h
      · rintro text h
        cases h
        rfl
  case h_2 => cases h
  case h_3 => cases h
  case h_9 =>
    cases h
    exact hunexpected _
  all_goals
    next hkind =>
      cases h
      refine hword _ ?_ ?_
      · rw [hkind]
        exact fun h => nomatch h
      · rintro text h
        cases h
        rfl

theorem exists_pointsAt_readStart (hs : Inside cs s)
    (h : (readStart (scanWord s).1 (scanWord s).2).1 = .error e) :
    exists label before covered after, PointsAt cs e label before covered after := by
  unfold readStart at h
  split at h
  · next hsign =>
      unfold readSigned at h
      dsimp only at h
      split at h
      · next form hform =>
          unfold readLiteral at h
          split at h
          · cases h
          · cases h
            rcases hs with ⟨before, hs⟩
            rcases hs.exists_word with hend | ⟨gap, -, -, -, hbehind⟩
            · rw [hend] at hsign
              cases hsign
            · rcases hbehind.exists_word with hend | ⟨blanks, hblanks, hlength, -, after, htext, -⟩
              · rw [hend] at hform
                cases hform
              · have htokens : (Lexer.ofChars cs).tokens = (before ++ gap) ++
                    ((scanWord s).1 :: (blanks ++ [(scanWord (scanWord s).2).1]) ++ after) := by
                  rw [htext]
                  simp
                exact ⟨_, _, _, after, pointsAt_signed htokens hsign hblanks hlength hform⟩
      · cases h
        exact exists_pointsAt_unexpected hs _
  · exact exists_pointsAt_readToken hs h

end Sources

/-- Every error that comes of a text points at tokens of it: at one word, at the sign and
the number of a literal, or at the end of the text. -/
theorem pointsAt_of_reports {cs : List Char} {limit : Nat} {e : SyntaxError}
    (h : Reports limit cs e) :
    exists label before covered after, PointsAt cs e label before covered after := by
  have hholds : HoldsOfErrors TokenBuffer cs limit fun e =>
      exists label before covered after, PointsAt cs e label before covered after := by
    constructor
    case start => exact fun s hs e => exists_pointsAt_readStart hs
    case operand => exact fun s hs => exists_pointsAt_unexpected hs _
    case room =>
      intro s hs hends
      refine exists_pointsAt_atToken hs ?_ (fun text h => nomatch h)
      intro hkind
      rw [hkind] at hends
      cases hends
  exact hholds.of_reports h

/-- A line end and a comment stand between the sign and the number. -/
theorem pointsAt_of_reports_of_comment :
    let cs := "2;\n- // \u00e9\n 5q".toList
    let e : SyntaxError := ⟨.malformed "-5q" (.duration (.unknownUnit ['q'])), ⟨1, 0, 3⟩, ⟨3, 11⟩⟩
    Reports 256 cs e ∧
      exists label before covered after, PointsAt cs e label before covered after := by
  intro cs e
  have hanswers : answers 256 [.next, .skip, .parse] (TokenBuffer.ofChars cs) =
      [.item (some (.ok (.literal (.integer 2)))), .skipped, .parsed (.error e)] := by
    decide +kernel
  have hmem : .parsed (.error e) ∈ answers 256 [.next, .skip, .parse] (TokenBuffer.ofChars cs) := by
    rw [hanswers]
    exact List.mem_cons_of_mem _ (List.mem_cons_of_mem _ List.mem_cons_self)
  have hreport : Reports 256 cs e := .call hmem rfl
  exact ⟨hreport, pointsAt_of_reports hreport⟩

end Parser
end Reckon
