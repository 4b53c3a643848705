import Highlighting.Grammar.Source

/-!
The order of captures. Those of a rule are kept in a table that is gone through in an order of its
own, which no file tells and which may be another one whenever a file is read.
-/
namespace Highlighting

/-- A rule has the same captures in another order. -/
structure RuleSource.Reordered (r r' : RuleSource) : Prop where
  captures : Option.Rel List.Perm r.captures r'.captures
  beginCaptures : Option.Rel List.Perm r.beginCaptures r'.beginCaptures
  endCaptures : Option.Rel List.Perm r.endCaptures r'.endCaptures
  whileCaptures : Option.Rel List.Perm r.whileCaptures r'.whileCaptures
  rest : r' = { r with
    captures := r'.captures
    beginCaptures := r'.beginCaptures
    endCaptures := r'.endCaptures
    whileCaptures := r'.whileCaptures }

structure GrammarSource.Reordered (s s' : GrammarSource) : Prop where
  size_eq : s'.rules.size = s.rules.size
  rules : ∀ (number : Nat) (r r' : RuleSource), s.rules[number]? = some r →
    s'.rules[number]? = some r' → r.Reordered r'
  rest : s' = { s with rules := s'.rules }

theorem rel_perm_refl (names : Option RuleNames) : Option.Rel List.Perm names names := by
  cases names with
  | none => exact .none
  | some names => exact .some (List.Perm.refl names)

theorem RuleSource.Reordered.refl (r : RuleSource) : r.Reordered r :=
  ⟨rel_perm_refl _, rel_perm_refl _, rel_perm_refl _, rel_perm_refl _, rfl⟩

theorem GrammarSource.Reordered.refl (s : GrammarSource) : s.Reordered s where
  size_eq := rfl
  rules number r r' h h' := by
    rw [h] at h'
    cases h'
    exact .refl r
  rest := rfl

/-- The orders in which a run goes through the captures of the files that it reads. -/
structure Arrangement where
  arrange : (scopeName : String) → GrammarSource → GrammarSource
  reordered : ∀ (scopeName : String) (source : GrammarSource),
    source.Reordered (arrange scopeName source)

namespace Arrangement

def written : Arrangement := ⟨fun _ source => source, fun _ source => .refl source⟩

instance : Inhabited Arrangement := ⟨written⟩

end Arrangement

end Highlighting
