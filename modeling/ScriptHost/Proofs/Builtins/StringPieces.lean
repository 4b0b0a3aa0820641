import ScriptHost.Proofs.Builtins.Standard
import ScriptHost.Proofs.Text.Splitting

/-! A string is split at the occurrences of a separator that are found from the left, and there are
such exactly if the string contains the separator. -/
namespace ScriptHost

open Builtins Text

theorem callMethod_contains (env : Environment) (text needle : String) :
    standardRegistry.callMethod "contains" env [.string text, .string needle] =
      pure (.finished (.bool (Text.contains needle text))) := by
  have member : Strings.contains ∈ standardBuiltins := by simp [standardBuiltins, Strings.all]
  exact callMethod_standard member rfl rfl env

theorem callMethod_split (env : Environment) (text sep : String) :
    standardRegistry.callMethod "split" env [.string text, .string sep] =
      if sep = "" then throw (.invalidArgument .emptySeparator)
      else pure (.finished (.list ((Text.split sep text).map Value.string))) := by
  have member : Strings.split ∈ standardBuiltins := by simp [standardBuiltins, Strings.all]
  have ran : Strings.split.run env [.string text, .string sep] =
      if sep.isEmpty then throw (.invalidArgument .emptySeparator)
      else pure (.finished (.list ((Text.split sep text).map Value.string))) := rfl
  rw [callMethod_standard member rfl rfl env, ran]
  exact if_congr String.isEmpty_iff rfl rfl

/-- What splitting a string comes to. There is no separator that is empty; at any other the string
falls into the only pieces that are cut at first occurrences, several of them exactly if it contains
the separator. -/
inductive SplitsString (env : Environment) (text sep : String) : Action Progress → Prop where
  | refused (empty : sep = "") :
      SplitsString env text sep (throw (.invalidArgument .emptySeparator))
  | pieces (nonempty : sep ≠ "") (isSplit : IsSplit sep text pieces)
      (only : ∀ other, IsSplit sep text other → other = pieces)
      (several : standardRegistry.callMethod "contains" env [.string text, .string sep] =
        pure (.finished (.bool (2 ≤ pieces.length)))) :
      SplitsString env text sep (pure (.finished (.list (pieces.map Value.string))))

theorem splitsString (env : Environment) (text sep : String) :
    SplitsString env text sep
      (standardRegistry.callMethod "split" env [.string text, .string sep]) := by
  rw [callMethod_split]
  by_cases empty : sep = ""
  · rw [if_pos empty]
    exact .refused empty
  · rw [if_neg empty]
    refine .pieces empty (isSplit_split empty text) (fun _ => IsSplit.eq_split empty) ?_
    have several : Text.contains sep text = decide (2 ≤ (Text.split sep text).length) :=
      Bool.eq_iff_iff.mpr ((contains_iff_two_le empty).trans decide_eq_true_iff.symm)
    rw [callMethod_contains, several]

end ScriptHost
