import Mathlib.Algebra.Ring.Nat
import Reckon.Command.Options
import Reckon.Proofs.Expr.Height

/-!
# Limits that fit together

One limit says how many operators an expression may have when it is read, another
how deep it may be when it is evaluated. If the second is larger than the first, as
in all settings that can be asked for, whatever is read can be evaluated to its full
depth. Equal limits are not enough. A depth of two to the power of 63 or more makes no
settings at all.
-/

namespace Reckon

namespace Command

theorem Options.isSome_settings?_iff {options : Options} {isTerminal : Bool}
    {prompt sourceName : String} :
    (options.settings? isTerminal prompt sourceName).isSome = true <->
      options.maxDepth?.getD defaultMaxDepth < 2 ^ 63 := by
  have hrange : depthRange = 2 * 2 ^ 63 := rfl
  unfold settings?
  dsimp only
  split
  · next hlarge =>
      rw [hrange] at hlarge
      exact iff_of_false Bool.false_ne_true (by omega)
  · next hsmall =>
      rw [hrange] at hsmall
      exact iff_of_true rfl (by omega)

theorem Options.lt_evalDepth {options : Options} {isTerminal : Bool}
    {prompt sourceName : String} {settings : Settings}
    (h : options.settings? isTerminal prompt sourceName = some settings) :
    settings.maxDepth = options.maxDepth?.getD defaultMaxDepth ∧
      settings.maxDepth + 1 ≤ settings.evalDepth := by
  have hdefault : 1 ≤ defaultEvalDepth := by decide
  unfold settings? at h
  dsimp only at h
  split at h
  · cases h
  · cases h
    refine ⟨rfl, ?_⟩
    dsimp only
    omega

/-- An expression that is read under a limit is never too deep under a larger one, and
the limits of every session are such. There is a session unless a depth of two to the power
of 63 or more was asked for. Under any limit a text can be read whose expression is too deep
for that limit itself. -/
theorem evaluate_parsed_ne_tooDeep :
    (forall maxDepth evalDepth, maxDepth + 1 ≤ evalDepth ->
      forall {σ : Type} [TokenSource σ] (s : σ) (e : Expr),
        (Parser.parse maxDepth s).1 = .ok (.expression e) ->
        forall limit, e.evaluate evalDepth ≠ .error (.tooDeep limit)) ∧
      ({} : Settings).maxDepth + 1 ≤ ({} : Settings).evalDepth ∧
      (forall (options : Options) (isTerminal : Bool) (prompt sourceName : String),
        ((options.settings? isTerminal prompt sourceName).isSome = true <->
          options.maxDepth?.getD defaultMaxDepth < 2 ^ 63) ∧
        forall settings, options.settings? isTerminal prompt sourceName = some settings ->
          settings.maxDepth = options.maxDepth?.getD defaultMaxDepth ∧
            settings.maxDepth + 1 ≤ settings.evalDepth) ∧
      forall maxDepth, exists cs e,
        (Parser.parse maxDepth (TokenBuffer.ofChars cs)).1 = .ok (.expression e) ∧
          e.evaluate maxDepth = .error (.tooDeep maxDepth) := by
  refine ⟨?_, by decide, ?_, ?_⟩
  · intro maxDepth evalDepth hle σ _ s e hparse limit
    have hheight := Parser.height_le_of_parse hparse
    exact Expr.evaluate_ne_tooDeep (Nat.le_trans hheight hle) limit
  · intro options isTerminal prompt sourceName
    exact ⟨Options.isSome_settings?_iff, fun _ => Options.lt_evalDepth⟩
  · intro maxDepth
    have hdeep := Parser.evaluateAt_ladder maxDepth 0
    rw [Nat.zero_add] at hdeep
    exact ⟨Parser.ladderChars maxDepth, Parser.ladder maxDepth,
      Parser.parse_ladderChars maxDepth, hdeep⟩

/-- An expression with two operators and a step, as high as it can be. -/
theorem evaluate_parsed_ne_tooDeep_of_text :
    let e : Expr := .binary .add (.literal (.integer 1))
      (.binary .mul (.literal (.integer 2)) (.step .increment (.literal (.integer 3))))
    (Parser.parse 2 (TokenBuffer.ofChars "1 + 2 * 3++".toList)).1 = .ok (.expression e) ∧
      e.evaluate 2 = .error (.tooDeep 2) ∧
      (forall limit, e.evaluate 3 ≠ .error (.tooDeep limit)) ∧
      exists settings,
        ({ maxDepth? := some 2 } : Options).settings? false "" "<input>" = some settings ∧
          2 + 1 ≤ settings.evalDepth ∧
          forall limit, e.evaluate settings.evalDepth ≠ .error (.tooDeep limit) := by
  intro e
  have hparse : (Parser.parse 2 (TokenBuffer.ofChars "1 + 2 * 3++".toList)).1 =
      .ok (.expression e) := by
    decide +kernel
  rcases evaluate_parsed_ne_tooDeep.right.right.left { maxDepth? := some 2 } false "" "<input>"
    with ⟨hsome, hsettings⟩
  rcases Option.isSome_iff_exists.mp (hsome.mpr (by decide)) with ⟨settings, heq⟩
  rcases hsettings settings heq with ⟨hdepth, hle⟩
  rw [hdepth] at hle
  refine ⟨hparse, rfl, ?_, settings, heq, hle, ?_⟩
  · exact evaluate_parsed_ne_tooDeep.left 2 3 (Nat.le_refl _) _ e hparse
  · exact evaluate_parsed_ne_tooDeep.left 2 settings.evalDepth hle _ e hparse

end Command
end Reckon
