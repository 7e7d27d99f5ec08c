import Reckon.Proofs.Token.Sequence
import Reckon.Token.Buffer
import Reckon.Token.Script

/-!
# What a source has in store

A source is told apart from others by the tokens that it yields one after the
other, and by nothing else. It is lawful if taking back a token makes it yield
that token once more. A reader of words passes over blank tokens one at a time,
so what it meets is known as long as no two of them stand together.
-/

namespace Reckon

namespace Lexer

/-- The tokens of a text without blank ones. -/
def words (lexer : Lexer) : List Token :=
  lexer.tokens.filter fun t => t.kind ≠ .blank

theorem words_of_kind_ne_blank {lexer : Lexer} (hrest : lexer.rest ≠ [])
    (hkind : lexer.next.1.kind ≠ .blank) :
    lexer.words = lexer.next.1 :: lexer.next.2.words := by
  rw [words, tokens_of_rest_ne_nil hrest, List.filter_cons_of_pos (by simpa using hkind),
    words]

end Lexer

namespace TokenSource

variable {σ : Type} [TokenSource σ]

/-- The token that a source yields after `n` others. -/
def upcoming : σ -> Nat -> Token
  | s, 0 => (scan s).1
  | s, n + 1 => upcoming (scan s).2 n

/-- A source that yields a token again once it has been taken back. -/
class Lawful (σ : Type) [TokenSource σ] : Prop where
  upcoming_unscan_scan (s : σ) : upcoming (unscan (scan s).2) = upcoming s

/-- The next tokens of a source. -/
def Yields (s : σ) (ts : List Token) : Prop :=
  forall n t, ts[n]? = some t -> upcoming s n = t

theorem yields_cons {s : σ} {t : Token} {ts : List Token} :
    Yields s (t :: ts) <-> (scan s).1 = t ∧ Yields (scan s).2 ts := by
  constructor
  · intro h
    exact ⟨h 0 t rfl, fun n u hu => h (n + 1) u hu⟩
  · intro h n u hu
    cases n with
    | zero =>
        cases hu
        exact h.left
    | succ n => exact h.right n u hu

theorem Yields.unscan [Lawful σ] {s : σ} {ts : List Token} (h : Yields s ts) :
    Yields (TokenSource.unscan (scan s).2) ts := by
  intro n t ht
  rw [Lawful.upcoming_unscan_scan]
  exact h n t ht

/-!
## Words and the blanks between them
-/

/-- Words, and the tokens that they are together with at most one blank token
before each. -/
inductive Spaced : List Token -> List Token -> Prop where
  | nil : Spaced [] []
  | word {t : Token} {ws ts : List Token} :
      t.kind ≠ .blank -> Spaced ws ts -> Spaced (t :: ws) (t :: ts)
  | blank {b t : Token} {ws ts : List Token} :
      b.kind = .blank -> t.kind ≠ .blank -> Spaced ws ts -> Spaced (t :: ws) (b :: t :: ts)

theorem Spaced.cons_blank {b t : Token} {ws ts : List Token} (hb : b.kind = .blank)
    (ht : t.kind ≠ .blank) (h : Spaced ws (t :: ts)) : Spaced ws (b :: t :: ts) := by
  cases h with
  | word _ hrest => exact Spaced.blank hb ht hrest
  | blank hblank _ _ => exact absurd hblank ht

theorem spaced_filter {ts after : List Token} {last : Token}
    (hchain : ts.IsChain fun s t => s.kind = .blank -> t.kind ≠ .blank)
    (hlast : last.kind ≠ .blank) (hafter : Spaced after after) :
    Spaced (ts.filter (fun t => t.kind ≠ .blank) ++ last :: after)
      (ts ++ last :: after) := by
  induction ts with
  | nil => exact Spaced.word hlast hafter
  | cons t ts ih =>
      by_cases ht : t.kind = .blank
      · rw [List.filter_cons_of_neg (by simpa using ht)]
        have hrest := ih hchain.of_cons
        cases ts with
        | nil => exact Spaced.cons_blank ht hlast hrest
        | cons u ts =>
            have hu : u.kind ≠ .blank := hchain.rel ht
            exact Spaced.cons_blank ht hu hrest
      · rw [List.filter_cons_of_pos (by simpa using ht)]
        exact Spaced.word ht (ih hchain.of_cons)

/-- The next words of a source, each of which may have a blank token before it.
What comes behind them is left open. -/
def Offers (s : σ) (ws : List Token) : Prop :=
  exists ts, Spaced ws ts ∧ Yields s ts

/-- A word that is read can be taken back, although the blank token before it is
passed over for good. -/
theorem Offers.scanWord [Lawful σ] {s : σ} {t : Token} {ws : List Token}
    (h : Offers s (t :: ws)) :
    (scanWord s).1 = t ∧ Offers (scanWord s).2 ws ∧
      Offers (unscan (scanWord s).2) (t :: ws) := by
  rcases h with ⟨ts, hspaced, hyields⟩
  cases hspaced with
  | word ht hrest =>
      have hscan := yields_cons.mp hyields
      have hword : TokenSource.scanWord s = scan s := by
        rw [TokenSource.scanWord, hscan.left, if_neg ht]
      rw [hword]
      exact ⟨hscan.left, ⟨_, hrest, hscan.right⟩,
        ⟨_, Spaced.word ht hrest, hyields.unscan⟩⟩
  | blank hb ht hrest =>
      have hscan := yields_cons.mp hyields
      have hbehind := yields_cons.mp hscan.right
      have hword : TokenSource.scanWord s = scan (scan s).2 := by
        rw [TokenSource.scanWord, hscan.left, if_pos hb]
      rw [hword]
      exact ⟨hbehind.left, ⟨_, hrest, hbehind.right⟩,
        ⟨_, Spaced.word ht hrest, hscan.right.unscan⟩⟩

/-!
## Words up to the end

A source that comes to an end yields the end of the input for ever.
-/

/-- All words of a source, and the token behind them, which is repeated. -/
def Delivers (s : σ) (ws : List Token) (last : Token) : Prop :=
  forall n, Offers s (ws ++ last :: List.replicate n last)

theorem Delivers.scanWord_cons [Lawful σ] {s : σ} {t last : Token} {ws : List Token}
    (h : Delivers s (t :: ws) last) :
    (scanWord s).1 = t ∧ Delivers (scanWord s).2 ws last ∧
      Delivers (unscan (scanWord s).2) (t :: ws) last :=
  ⟨(h 0).scanWord.left, fun n => (h n).scanWord.right.left,
    fun n => (h n).scanWord.right.right⟩

theorem Delivers.scanWord_nil [Lawful σ] {s : σ} {last : Token} (h : Delivers s [] last) :
    (scanWord s).1 = last ∧ Delivers (scanWord s).2 [] last ∧
      Delivers (unscan (scanWord s).2) [] last :=
  ⟨(h 0).scanWord.left, fun n => (h (n + 1)).scanWord.right.left,
    fun n => (h n).scanWord.right.right⟩

end TokenSource

/-!
## Two lawful sources
-/

instance : TokenSource.Lawful TokenScript where
  upcoming_unscan_scan _ := rfl

namespace TokenBuffer

open TokenSource (upcoming Yields Offers Delivers)

theorem scan_unscan_scan (b : TokenBuffer) : b.scan.2.unscan.scan = b.scan := by
  rcases b with ⟨lexer, last, pushedBack⟩
  cases pushedBack with
  | false => rfl
  | true =>
      cases last with
      | none => rfl
      | some t => rfl

instance : TokenSource.Lawful TokenBuffer where
  upcoming_unscan_scan b := by
    funext n
    cases n with
    | zero => exact congrArg Prod.fst (scan_unscan_scan b)
    | succ n =>
        show upcoming b.scan.2.unscan.scan.2 n = upcoming b.scan.2 n
        rw [scan_unscan_scan]

theorem upcoming_eq_call (lexer : Lexer) (last : Option Token) (n : Nat) :
    upcoming (⟨lexer, last, false⟩ : TokenBuffer) n = lexer.call n := by
  induction n generalizing lexer last with
  | zero => rfl
  | succ n ih => exact ih lexer.next.2 (some lexer.next.1)

theorem yields_ofChars (cs : List Char) (n : Nat) :
    Yields (ofChars cs) ((Lexer.ofChars cs).tokens ++
      List.replicate n (Lexer.ofChars cs).endToken) := by
  intro i t ht
  have hcall : upcoming (ofChars cs) i = (Lexer.ofChars cs).call i :=
    upcoming_eq_call (Lexer.ofChars cs) none i
  rw [hcall, Lexer.call_eq, List.getD_eq_getElem?_getD]
  by_cases hi : i < (Lexer.ofChars cs).tokens.length
  · rw [List.getElem?_append_left hi] at ht
    rw [ht, Option.getD_some]
  · have hle := Nat.le_of_not_lt hi
    rw [List.getElem?_append_right hle, List.getElem?_replicate] at ht
    rw [List.getElem?_eq_none hle, Option.getD_none]
    split at ht
    · cases ht
      rfl
    · cases ht

theorem spaced_replicate {t : Token} (h : t.kind ≠ .blank) (n : Nat) :
    TokenSource.Spaced (List.replicate n t) (List.replicate n t) := by
  induction n with
  | zero => exact .nil
  | succ n ih => exact .word h ih

theorem delivers_ofChars (cs : List Char) :
    Delivers (ofChars cs) (Lexer.ofChars cs).words (Lexer.ofChars cs).endToken := by
  intro n
  have hend : (Lexer.ofChars cs).endToken.kind ≠ .blank := by
    intro h
    cases h
  refine ⟨_, TokenSource.spaced_filter (Lexer.isChain_tokens (Lexer.ofChars cs)) hend
    (spaced_replicate hend n), ?_⟩
  rw [← List.replicate_succ]
  exact yields_ofChars cs (n + 1)

end TokenBuffer
end Reckon
