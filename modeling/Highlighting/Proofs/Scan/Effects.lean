import Highlighting.Scan.Cache

/-!
Two ways to reason about a scan without looking at the patterns it has read: what holds of every
result (`Ensures`), and that the result does not hang on the cache (`CacheFree`).
-/
namespace Highlighting
variable {α β : Type} {e : Engine}

/-- Each entry is what the engine reads from its source. -/
def PatternCache.Sound (e : Engine) (cache : PatternCache) : Prop :=
  ∀ source matcher, cache.get? source = some matcher → e.compile? source = some matcher

theorem PatternCache.sound_empty (e : Engine) : PatternCache.Sound e {} := by
  intro source matcher h
  cases h

theorem PatternCache.Sound.put {cache : PatternCache} {source : String} {matcher : Matcher}
    (h : cache.Sound e) (hm : e.compile? source = some matcher) :
    PatternCache.Sound e (cache.put source matcher) := by
  intro other m hget
  by_cases ho : other = source
  · subst other
    rw [Table.get?_put_self] at hget
    cases hget
    exact hm
  · rw [Table.get?_put_of_ne _ _ ho] at hget
    exact h other m hget

namespace ScanM

theorem bind_apply (x : ScanM α) (f : α → ScanM β) (cache : PatternCache) :
    (x >>= f) cache = (x cache).bind fun r => f r.1 r.2 := rfl

structure Ensures (x : ScanM α) (P : α → Prop) : Prop where
  result : ∀ cache a rest, x cache = .ok (a, rest) → P a

theorem Ensures.pure {P : α → Prop} {a : α} (h : P a) : Ensures (pure a) P where
  result := by
    intro cache b rest hr
    cases hr
    exact h

theorem Ensures.throw {P : α → Prop} (fault : ScanFault) :
    Ensures (throw fault : ScanM α) P where
  result := by
    intro cache a rest hr
    cases hr

theorem Ensures.bind {x : ScanM α} {f : α → ScanM β} {P : α → Prop} {Q : β → Prop}
    (hx : Ensures x P) (hf : ∀ a, P a → Ensures (f a) Q) : Ensures (x >>= f) Q where
  result := by
    intro cache b rest hr
    rw [bind_apply] at hr
    cases hc : x cache with
    | error fault => rw [hc] at hr; cases hr
    | ok r =>
      rw [hc] at hr
      exact (hf r.1 (hx.result cache r.1 r.2 hc)).result r.2 b rest hr

theorem Ensures.trivial (x : ScanM α) : Ensures x fun _ => True where
  result _ _ _ _ := True.intro

theorem Ensures.and {x : ScanM α} {P Q : α → Prop} (hp : Ensures x P) (hq : Ensures x Q) :
    Ensures x fun a => P a ∧ Q a where
  result cache a rest h := ⟨hp.result cache a rest h, hq.result cache a rest h⟩

theorem Ensures.imp {x : ScanM α} {P Q : α → Prop} (hp : Ensures x P) (h : ∀ a, P a → Q a) :
    Ensures x Q where
  result cache a rest hr := h a (hp.result cache a rest hr)

/-- With any two sound caches the results agree, and the caches stay sound. -/
structure CacheFree (e : Engine) (x : ScanM α) : Prop where
  agree : ∀ c d : PatternCache, c.Sound e → d.Sound e →
    (∃ fault, x c = .error fault ∧ x d = .error fault) ∨
    ∃ a c' d', x c = .ok (a, c') ∧ x d = .ok (a, d') ∧
      PatternCache.Sound e c' ∧ PatternCache.Sound e d'

theorem CacheFree.pure (a : α) : CacheFree e (pure a : ScanM α) where
  agree c d hc hd := .inr ⟨a, c, d, rfl, rfl, hc, hd⟩

theorem CacheFree.throw (fault : ScanFault) : CacheFree e (throw fault : ScanM α) where
  agree _ _ _ _ := .inl ⟨fault, rfl, rfl⟩

theorem CacheFree.bind {x : ScanM α} {f : α → ScanM β} (hx : CacheFree e x)
    (hf : ∀ a, CacheFree e (f a)) : CacheFree e (x >>= f) where
  agree := by
    intro c d hc hd
    rcases hx.agree c d hc hd with ⟨fault, h₁, h₂⟩ | ⟨a, c', d', h₁, h₂, hc', hd'⟩
    · refine .inl ⟨fault, ?_, ?_⟩
      · rw [bind_apply, h₁]; rfl
      · rw [bind_apply, h₂]; rfl
    · have h := (hf a).agree c' d' hc' hd'
      rw [bind_apply, bind_apply, h₁, h₂]
      exact h

theorem CacheFree.read (source : String) : CacheFree e (e.read source) := by
  -- a cached pattern and a fresh one are the same value, so each cache gives what the engine gives
  have answer : ∀ c : PatternCache, c.Sound e →
      (e.compile? source = none ∧ e.read source c = .error (.badPattern source)) ∨
      ∃ m c', e.compile? source = some m ∧ e.read source c = .ok (m, c') ∧
        PatternCache.Sound e c' := by
    intro c hc
    cases hget : c.get? source with
    | some m => exact .inr ⟨m, c, hc source m hget, by simp only [Engine.read, hget], hc⟩
    | none =>
      cases hm : e.compile? source with
      | none => exact .inl ⟨rfl, by simp only [Engine.read, hget, hm]⟩
      | some m =>
        exact .inr ⟨m, c.put source m, rfl, by simp only [Engine.read, hget, hm], hc.put hm⟩
  refine ⟨fun c d hc hd => ?_⟩
  rcases answer c hc with ⟨hn, h₁⟩ | ⟨m, c', hm, h₁, hc'⟩ <;>
    rcases answer d hd with ⟨hn', h₂⟩ | ⟨m', d', hm', h₂, hd'⟩
  · exact .inl ⟨_, h₁, h₂⟩
  · rw [hn] at hm'; cases hm'
  · rw [hm] at hn'; cases hn'
  · rw [hm] at hm'
    cases hm'
    exact .inr ⟨m, c', d', h₁, h₂, hc', hd'⟩

end ScanM

end Highlighting
