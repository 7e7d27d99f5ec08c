import Reckon.Token.Scan

/-!
# The token sequence of a text

A lexer is a place in a text together with its position. It yields one token
after the other, and empty end-of-input tokens for ever after the last.
`tokens` is the sequence of all proper tokens; `lexemes_tokens` says that their
lexemes make up the text.
-/

namespace Reckon

/-- What is left to be scanned, and where it starts. -/
structure Lexer where
  rest : List Char
  position : Position
  deriving DecidableEq, Repr

namespace Lexer

def ofChars (cs : List Char) : Lexer := ⟨cs, Position.start⟩

def next (lexer : Lexer) : Token × Lexer :=
  match lexer.rest with
  | [] => (⟨.endOfInput, lexer.position, []⟩, lexer)
  | c :: rest =>
      let found := Scan.first c rest
      (⟨found.kind, lexer.position, found.lexeme⟩,
        ⟨found.rest, lexer.position.advance found.lexeme⟩)

theorem length_next_lt {lexer : Lexer} (h : lexer.rest ≠ []) :
    lexer.next.2.rest.length < lexer.rest.length := by
  unfold next
  split
  · next hrest => exact absurd hrest h
  · next c rest hrest =>
      rw [hrest]
      exact Scan.length_rest_lt c rest

/-- All tokens up to the end of the text, and the lexer there. -/
def run (lexer : Lexer) : List Token × Lexer :=
  if h : lexer.rest = [] then ([], lexer)
  else
    have := length_next_lt h
    match lexer.next.2.run with
    | (tokens, last) => (lexer.next.1 :: tokens, last)
termination_by lexer.rest.length

def tokens (lexer : Lexer) : List Token :=
  lexer.run.1

def last (lexer : Lexer) : Lexer :=
  lexer.run.2

theorem run_of_rest_eq_nil {lexer : Lexer} (h : lexer.rest = []) :
    lexer.run = ([], lexer) := by
  rw [run]
  simp [h]

theorem tokens_of_rest_ne_nil {lexer : Lexer} (h : lexer.rest ≠ []) :
    lexer.tokens = lexer.next.1 :: lexer.next.2.tokens := by
  rw [tokens, run]
  simp [h, tokens]

theorem lexeme_append_next (lexer : Lexer) :
    lexer.next.1.lexeme ++ lexer.next.2.rest = lexer.rest := by
  unfold next
  split
  · next h => simp [h]
  · next c rest h =>
      rw [h]
      exact Scan.lexeme_append_rest c rest

/-- The lexemes of all tokens make up the text. -/
theorem lexemes_tokens (lexer : Lexer) :
    lexer.tokens.flatMap Token.lexeme = lexer.rest := by
  induction h : lexer.rest.length using Nat.strongRecOn generalizing lexer with
  | ind n ih =>
      by_cases hrest : lexer.rest = []
      · simp [tokens, run_of_rest_eq_nil hrest, hrest]
      · have hlt := length_next_lt hrest
        rw [tokens_of_rest_ne_nil hrest, List.flatMap_cons,
          ih _ (h ▸ hlt) lexer.next.2 rfl, lexeme_append_next]

theorem next_kind_eq_endOfInput_of_nil {lexer : Lexer} (h : lexer.rest = []) :
    lexer.next = (⟨.endOfInput, lexer.position, []⟩, lexer) := by
  unfold next
  simp [h]

end Lexer
end Reckon
