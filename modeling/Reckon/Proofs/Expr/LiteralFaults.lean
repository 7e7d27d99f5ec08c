import Reckon.Proofs.Expr.NumberFaults
import Reckon.Proofs.Expr.Reporting
import Reckon.Proofs.Text.Unquoting

/-!
# What can be wrong with a literal

The scanner decides what is a literal, and a reader of its own for each form of literals
reads the text. Between them they leave little that can be wrong: the text of a token has
the shape that its reader needs, whatever the reader is asked for.
-/

namespace Reckon

open Reckon.Parser (isSign numberForm?)
open Scan (NumberShape signTexts)

/-!
## The shape of a token
-/

theorem Parser.isSign_iff {kind : TokenKind} :
    isSign kind = true <-> kind = .binary .add ∨ kind = .binary .sub := by
  rw [isSign, Bool.or_eq_true_iff, beq_iff_eq, beq_iff_eq]

/-- The shape that the text of a token has if a literal may be read from it. -/
structure Scan.Shaped (kind : TokenKind) (lexeme : List Char) : Prop where
  number : forall form, numberForm? kind = some form -> NumberShape form lexeme
  string : kind = .literal .string -> Text.Quoted lexeme
  sign : isSign kind = true -> lexeme ∈ signTexts

def Token.Shaped (t : Token) : Prop :=
  Scan.Shaped t.kind t.lexeme

namespace Scan

/-- Whether a literal may be read from the text of a token of a kind, or from a text that
this begins. -/
def holdsLiteral : TokenKind -> Bool
  | .literal (.boolean _) => false
  | .literal _ => true
  | .binary .add => true
  | .binary .sub => true
  | _ => false

theorem Shaped.of_other {kind : TokenKind} (h : holdsLiteral kind = false)
    (lexeme : List Char) : Shaped kind lexeme := by
  constructor
  · intro form hform
    unfold numberForm? at hform
    split at hform
    case h_4 => cases hform
    all_goals cases h
  · rintro rfl
    cases h
  · intro hsign
    rcases Parser.isSign_iff.mp hsign with rfl | rfl
    · cases h
    · cases h

theorem NumberShape.numberForm?_eq {form : LiteralForm} {cs : List Char}
    (h : NumberShape form cs) : numberForm? (.literal form) = some form := by
  cases h with
  | intro _ _ _ hending => cases hending <;> rfl

theorem shaped_string (rest : List Char) :
    Shaped (string '"' rest).kind (string '"' rest).lexeme := by
  unfold string
  split
  · next hsplit =>
      constructor
      · intro form hform
        cases hform
      · intro _
        rcases exists_stringBody hsplit with ⟨body, rfl, hbody⟩
        exact .intro hbody
      · intro hsign
        cases hsign
  · exact .of_other rfl _

theorem shaped_number {c : Char} (hc : c.isDigit = true) (rest : List Char) :
    Shaped (number (c :: rest)).kind (number (c :: rest)).lexeme := by
  rcases exists_numberShape hc rest with ⟨form, hkind, hshape⟩
  rw [hkind]
  constructor
  · intro form' hform
    rw [hshape.numberForm?_eq] at hform
    cases hform
    exact hshape
  · intro hstring
    cases hstring
    cases hshape.numberForm?_eq
  · intro hsign
    cases hsign

theorem shaped_kindOfLower (word : String) (lexeme : List Char) :
    Shaped (Word.kindOfLower word) lexeme := by
  unfold Word.kindOfLower
  split
  case h_5 => split <;> exact .of_other rfl _
  all_goals exact .of_other rfl _

theorem shaped_sign {kind : TokenKind} {lexeme : List Char} (hsign : isSign kind = true)
    (h : lexeme ∈ signTexts) : Shaped kind lexeme := by
  constructor
  · intro form hform
    rcases Parser.isSign_iff.mp hsign with rfl | rfl
    · cases hform
    · cases hform
  · rintro rfl
    cases hsign
  · exact fun _ => h

theorem shaped_single (c : Char) (rest : List Char) :
    Shaped (single c rest).kind (single c rest).lexeme := by
  unfold single markKind?
  dsimp only
  split
  case h_1 => exact shaped_sign rfl (by decide)
  case h_2 => exact shaped_sign rfl (by decide)
  all_goals exact .of_other rfl _

theorem shaped_mark (c : Char) (rest : List Char) :
    Shaped (mark c rest).kind (mark c rest).lexeme := by
  unfold mark
  split
  · split
    · next hpair =>
        unfold pairKind? at hpair
        split at hpair
        case h_10 => cases hpair
        all_goals
          cases hpair
          exact .of_other rfl _
    · exact shaped_single c _
  · exact shaped_single c _

/-- Every token has the shape that its kind asks for. -/
theorem shaped_first (c : Char) (rest : List Char) :
    Shaped (first c rest).kind (first c rest).lexeme := by
  unfold first
  split
  · exact .of_other rfl _
  · split
    · next hquote =>
        rw [beq_iff_eq.mp hquote]
        exact shaped_string rest
    · split
      · next hdigit => exact shaped_number hdigit rest
      · split
        · exact shaped_kindOfLower _ _
        · exact shaped_mark c rest

end Scan

theorem Lexer.shaped_of_mem_tokens (lexer : Lexer) :
    forall t, t ∈ lexer.tokens -> t.Shaped := by
  refine forall_mem_tokens ?_ lexer
  intro lexer hrest
  rcases lexer with ⟨rest, position⟩
  rcases List.exists_cons_of_ne_nil hrest with ⟨c, cs, rfl⟩
  exact Scan.shaped_first c cs

/-!
## Reading a token
-/

/-- The faults of a literal whose text is a token, or a sign and a number. -/
def LiteralFault.InToken : LiteralFault -> Prop
  | .integer _ => False
  | .decimal fault => fault.OutOfRange
  | .string fault => fault.InEscape
  | .duration fault => fault.BehindDigits

/-- What is wrong with a literal that is reported, by the kind of value that it was to
denote. -/
structure LiteralFault.Reportable (fault : LiteralFault) : Prop where
  kind_mem : fault.kind ∈ [Kind.decimal, Kind.string, Kind.duration]
  decimal : fault.kind = .decimal -> exists found : Decimal.Fault,
    fault = .decimal found ∧ found.OutOfRange
  string : fault.kind = .string -> exists found : Text.QuotedFault,
    fault = .string found ∧ found.InEscape
  duration : fault.kind = .duration ->
    fault = .duration .missingUnit ∨ (exists unit, fault = .duration (.unknownUnit unit)) ∨
      fault = .duration .overflow

theorem LiteralFault.InToken.reportable {text : String} {fault : LiteralFault}
    (h : fault.InToken) (htrap : (SyntaxFault.malformed text fault).isTrap = false) :
    fault.Reportable := by
  cases fault with
  | integer found => exact h.elim
  | decimal found =>
      constructor
      case kind_mem => exact List.mem_cons_self
      case decimal => exact fun _ => ⟨found, rfl, h⟩
      all_goals
        intro hkind
        cases hkind
  | string found =>
      constructor
      case kind_mem => exact List.mem_cons_of_mem _ List.mem_cons_self
      case string => exact fun _ => ⟨found, rfl, h⟩
      all_goals
        intro hkind
        cases hkind
  | duration found =>
      constructor
      case kind_mem => exact List.mem_cons_of_mem _ (List.mem_cons_of_mem _ List.mem_cons_self)
      case duration =>
        intro _
        cases found with
        | missingUnit => exact .inl rfl
        | unknownUnit unit => exact .inr (.inl ⟨unit, rfl⟩)
        | overflow => exact .inr (.inr rfl)
        | trap => cases htrap
        | invalid => exact h.elim
      all_goals
        intro hkind
        cases hkind

namespace LiteralForm

variable {form : LiteralForm} {lexeme : List Char} {fault : LiteralFault}

theorem inToken_of_read_number {sign : List Char} (hsign : sign ∈ signTexts)
    (hshape : NumberShape form lexeme) (h : form.read (sign ++ lexeme) = .error fault) :
    fault.InToken := by
  cases form with
  | integer =>
      exfalso
      cases hshape with
      | @intro whole _ _ hne hwhole _ hending =>
          cases hending
          rcases Numeral.exists_integerOfChars hsign hne hwhole with ⟨n, hn⟩
          have hchars : whole ++ (Numeral.pointChars [] ++ []) = whole := List.append_nil whole
          rw [hchars, read, hn] at h
          cases h
  | decimal =>
      rw [read] at h
      split at h
      · cases h
      · next hread =>
          cases h
          exact Decimal.outOfRange_of_ofChars hsign hshape hread
  | duration =>
      rw [read] at h
      split at h
      · cases h
      · next hread =>
          cases h
          exact Duration.behindDigits_of_ofChars hsign hshape hread
  | string => cases hshape.numberForm?_eq
  | boolean b => cases h

theorem inToken_of_read (hshaped : Scan.Shaped (.literal form) lexeme)
    (h : form.read lexeme = .error fault) : fault.InToken := by
  have hnumber (hform : numberForm? (.literal form) = some form) : fault.InToken := by
    have hsign : [] ∈ signTexts := by decide
    exact inToken_of_read_number hsign (hshaped.number form hform) h
  cases form with
  | integer => exact hnumber rfl
  | decimal => exact hnumber rfl
  | duration => exact hnumber rfl
  | string =>
      rw [read] at h
      split at h
      · cases h
      · next hread =>
          cases h
          exact (hshaped.string rfl).inEscape_of_unquote hread
  | boolean b => cases h

end LiteralForm

namespace Parser

open TokenSource

/-- The faults that a reader of tokens reports. -/
def CanReport : SyntaxFault -> Prop
  | .malformed _ fault => fault.InToken
  | .unexpected _ expected =>
      expected ∈ [expectedAtStart, expectedAfterSign, expectedAfterOperator]
  | .notImplemented _ _ => True
  | .tooDeep _ => True

theorem canReport_missing_operand (ahead : Token) :
    CanReport (SyntaxError.unexpected ahead expectedAfterOperator).fault :=
  List.mem_cons_of_mem _ (List.mem_cons_of_mem _ List.mem_cons_self)

theorem canReport_of_readLiteral {form : LiteralForm} {cs : List Char} {position : Position}
    {span : Span} {e : SyntaxError}
    (hread : forall fault, form.read cs = .error fault -> fault.InToken)
    (h : readLiteral form cs position span = .error e) : CanReport e.fault := by
  unfold readLiteral at h
  split at h
  · cases h
  · next fault hfault =>
      cases h
      exact hread fault hfault

theorem canReport_of_readToken {first : Token} {e : SyntaxError} (hfirst : first.Shaped)
    (h : readToken first = .error e) : CanReport e.fault := by
  unfold readToken at h
  split at h
  case h_1 form hkind =>
    have hshaped : Scan.Shaped (.literal form) first.lexeme := hkind ▸ hfirst
    exact canReport_of_readLiteral (fun _ => LiteralForm.inToken_of_read hshaped) h
  case h_2 => cases h
  case h_3 => cases h
  case h_9 =>
    cases h
    exact List.mem_cons_self
  all_goals
    cases h
    trivial

section Sources

variable {σ : Type} [TokenSource σ]

theorem canReport_of_readStart {first : Token} {s : σ} {e : SyntaxError}
    (hfirst : first.Shaped) (hnumber : (scanWord s).1.Shaped)
    (h : (readStart first s).1 = .error e) : CanReport e.fault := by
  unfold readStart at h
  split at h
  · next hsign =>
      unfold readSigned at h
      dsimp only at h
      split at h
      · next form hform =>
          have hread : forall fault, form.read (first.lexeme ++ (scanWord s).1.lexeme) =
              .error fault -> fault.InToken := fun _ =>
            LiteralForm.inToken_of_read_number (hfirst.sign hsign) (hnumber.number form hform)
          exact canReport_of_readLiteral hread h
      · cases h
        exact List.mem_cons_of_mem _ List.mem_cons_self
  · exact canReport_of_readToken hfirst h

theorem Inside.shaped {cs : List Char} {s : σ} (h : Inside cs s) :
    (TokenSource.scanWord s).1.Shaped :=
  h.scanWord (Scan.Shaped.of_other rfl _) (Lexer.shaped_of_mem_tokens _)

theorem holdsOfErrors_canReport [Lawful σ] (cs : List Char) (limit : Nat) :
    HoldsOfErrors σ cs limit fun e => CanReport e.fault where
  start s hs e := by
    have hbehind := (lockstep_inside s s ⟨rfl, hs⟩).right.left.right
    exact canReport_of_readStart hs.shaped hbehind.shaped
  operand s _ := canReport_missing_operand (scanWord s).1
  room _ _ _ := trivial

/-!
## Tokens that are taken for literals
-/

/-- Reads the text of a token of any kind as a literal. What is to come of a token that
is no literal is left open. -/
def readKind (otherwise : Except SyntaxError Start) (kind : TokenKind) (cs : List Char)
    (position : Position) (span : Span) : Except SyntaxError Start :=
  match kind with
  | .literal form => readLiteral form cs position span
  | _ => otherwise

/-- Reads what begins with a token, going by kinds of tokens and not by forms of
literals. -/
def readStartOr (otherwise : Except SyntaxError Start) (first : Token) (s : σ) :
    Except SyntaxError Start × σ :=
  if first.kind.isLiteral then
    (readKind otherwise first.kind first.lexeme first.position first.span, s)
  else if isSign first.kind then
    let number := scanWord s
    if (numberForm? number.1.kind).isSome then
      let span := ⟨first.position.offset, number.1.stop - first.position.offset⟩
      (readKind otherwise number.1.kind (first.lexeme ++ number.1.lexeme) first.position span,
        number.2)
    else (.error (.unexpected first expectedAfterSign), unscan number.2)
  else (readToken first, s)

theorem kind_of_numberForm? {kind : TokenKind} {form : LiteralForm}
    (h : numberForm? kind = some form) : kind = .literal form := by
  unfold numberForm? at h
  split at h
  case h_4 => cases h
  all_goals
    cases h
    rfl

/-- Only literals are read as literals. -/
theorem readStartOr_eq (otherwise : Except SyntaxError Start) (first : Token) (s : σ) :
    readStartOr otherwise first s = readStart first s := by
  unfold readStartOr readStart
  cases hliteral : first.kind.isLiteral with
  | true =>
      unfold TokenKind.isLiteral at hliteral
      split at hliteral
      · next form hkind =>
          have hsign : isSign (.literal form) = false := rfl
          rw [hkind, hsign, readToken, hkind]
          rfl
      · cases hliteral
  | false =>
      rw [if_neg Bool.false_ne_true]
      split
      · unfold readSigned
        dsimp only
        cases hform : numberForm? (scanWord s).1.kind with
        | none => rfl
        | some form =>
            rw [kind_of_numberForm? hform]
            rfl
      · rfl

end Sources

/-!
## Errors in a text
-/

theorem Reports.canReport {limit : Nat} {cs : List Char} {e : SyntaxError}
    (h : Reports limit cs e) : CanReport e.fault :=
  (holdsOfErrors_canReport cs limit).of_reports h

/-- Whatever is read from a text, no integer is reported as malformed, a decimal only as out
of range, a string only for what stands in an escape, and a duration only for a unit that is
missing or unknown or for a number that is out of range. What is missed is an operand, a
number behind a sign or an expression behind an operator, but never a literal, as only
literals are read as such. -/
theorem faults_of_reports (cs : List Char) (limit : Nat) :
    (forall e, Reports limit cs e -> e.fault.isTrap = false ->
      (forall text fault, e.fault = .malformed text fault -> fault.Reportable) ∧
        forall found expected, e.fault = .unexpected found expected ->
          expected ∈ [expectedAtStart, expectedAfterSign, expectedAfterOperator]) ∧
      forall otherwise first (s : TokenBuffer),
        readStartOr otherwise first s = readStart first s := by
  refine ⟨fun e he htrap => ⟨?_, ?_⟩, readStartOr_eq⟩
  · intro text fault hfault
    have hreport := he.canReport
    rw [hfault] at hreport htrap
    exact hreport.reportable htrap
  · intro found expected hfault
    have hreport := he.canReport
    rw [hfault] at hreport
    exact hreport

/-- A letter that stands for no escape. -/
theorem faults_of_reports_of_escape :
    let fault : SyntaxFault := .malformed "\"\\q\"" (.string (.unknownEscape 'q'))
    Reports 256 "\"\\q\"".toList ⟨fault, Position.start, ⟨0, 4⟩⟩ ∧ fault.isTrap = false ∧
      (LiteralFault.string (.unknownEscape 'q')).Reportable := by
  intro fault
  have hanswers : answers 256 [.parse] (TokenBuffer.ofChars "\"\\q\"".toList) =
      [.parsed (.error ⟨fault, Position.start, ⟨0, 4⟩⟩)] := by
    decide +kernel
  have hreport : Reports 256 "\"\\q\"".toList ⟨fault, Position.start, ⟨0, 4⟩⟩ :=
    .call (hanswers ▸ List.mem_singleton_self _) rfl
  exact ⟨hreport, rfl, ((faults_of_reports _ 256).left _ hreport rfl).left _ _ rfl⟩

end Parser
end Reckon
