import Highlighting.Proofs.Scan.CacheFree

/-!
Resuming a parse. A buffer's state is coherent if it is what a scan of its lines from the first one
gives; a parse on top of such a state does what a scan of the new lines from the first one does.
-/
namespace Highlighting

theorem firstDifference_eq_none_iff {old new : List String} :
    firstDifference old new = none ↔ old = new := by
  induction old generalizing new with
  | nil => cases new <;> simp [firstDifference]
  | cons a old ih =>
    cases new with
    | nil => simp [firstDifference]
    | cons b new =>
      by_cases hab : a = b
      · simp [firstDifference, hab, ih]
      · simp [firstDifference, hab]

theorem firstDifference_eq_some {old new : List String} {i : Nat}
    (h : firstDifference old new = some i) :
    i ≤ old.length ∧ i ≤ new.length ∧ old.take i = new.take i ∧ old[i]? ≠ new[i]? := by
  induction old generalizing new i with
  | nil =>
    cases new with
    | nil => cases h
    | cons b new =>
      cases h
      simp
  | cons a old ih =>
    cases new with
    | nil =>
      cases h
      simp
    | cons b new =>
      by_cases hab : a = b
      · simp only [firstDifference, hab, if_true, Option.map_eq_some_iff] at h
        obtain ⟨j, hj, rfl⟩ := h
        obtain ⟨h₁, h₂, h₃, h₄⟩ := ih hj
        refine ⟨by simpa using h₁, by simpa using h₂, ?_, by simpa using h₄⟩
        simp only [List.take_succ_cons, hab, h₃]
      · simp only [firstDifference, hab, if_false, Option.some.injEq] at h
        subst h
        simp [hab]

namespace Grammar
variable (g : Grammar)

theorem scanLines_take {lines : List String} {line : Nat} {stack : Stack}
    {cache : PatternCache} {tokens : List (List Token)} {ends : List Stack} (n : Nat)
    (h : g.scanLines line stack lines cache = .ok (tokens, ends)) :
    g.scanLines line stack (lines.take n) cache = .ok (tokens.take n, ends.take n) := by
  induction lines generalizing line stack cache tokens ends n with
  | nil => cases h; simp [scanLines, pure, Except.pure]
  | cons text rest ih =>
    cases n with
    | zero => rfl
    | succ n =>
      rw [scanLines] at h
      rw [List.take_succ_cons, scanLines]
      split at h
      · cases h
      · next spans after cache' hs =>
        cases hr : g.scanLines (line + 1) after rest cache' with
        | error failure => rw [hr] at h; cases h
        | ok r =>
          rw [hr] at h
          cases h
          simp only [ih n hr]
          rfl

theorem scanLines_append {first : List String} {line : Nat} {stack : Stack}
    {cache : PatternCache} {tokens : List (List Token)} {ends : List Stack}
    (hc : cache.Sound g.engine) (rest : List String)
    (h : g.scanLines line stack first cache = .ok (tokens, ends)) :
    g.scanLines line stack (first ++ rest) cache =
      (g.scanLines (line + first.length) (ends.getLast?.getD stack) rest {}).map
        fun r => (tokens ++ r.1, ends ++ r.2) := by
  induction first generalizing line stack cache tokens ends with
  | nil =>
    cases h
    rw [List.nil_append, g.scanLines_cache rest line stack cache {} hc (PatternCache.sound_empty _)]
    change _ = (g.scanLines line stack rest {}).map fun r => r
    cases g.scanLines line stack rest {} <;> rfl
  | cons text first ih =>
    rw [scanLines] at h
    rw [List.cons_append, scanLines]
    rcases (g.scanLine_cacheFree text.toList stack).agree cache cache hc hc with
      ⟨fault, hs, -⟩ | ⟨⟨spans, after⟩, cache', -, hs, -, hc', -⟩
    · rw [hs] at h; cases h
    · simp only [hs] at h ⊢
      cases hr : g.scanLines (line + 1) after first cache' with
      | error failure => rw [hr] at h; cases h
      | ok r =>
        rw [hr] at h
        cases h
        have hlen : line + (text :: first).length = line + 1 + first.length := by
          simp only [List.length_cons]
          omega
        rw [ih hc' hr, hlen, List.getLast?_cons, Option.getD_some]
        cases g.scanLines (line + 1 + first.length) (r.2.getLast?.getD after) rest {} <;> rfl

end Grammar

/-- The state is what a scan of its lines from the first one gives. -/
def BufferState.Coherent (g : Grammar) (s : BufferState) : Prop :=
  ∃ ends, g.scanLines 0 (.initial g) s.lines {} = .ok (s.tokens, ends) ∧
    s.starts = .initial g :: ends

namespace Tokenizer
variable {g : Grammar}

/-- What a parse goes on from is coherent, and up to where it starts has the lines at hand. -/
theorem resume_coherent {previous : Option BufferState} {scopeName : String}
    (h : ∀ s, previous = some s → s.scopeName = scopeName → s.Coherent g)
    (lines : List String) :
    let resumed := resume g previous scopeName lines
    resumed.1.Coherent g ∧ resumed.1.scopeName = scopeName ∧
      (resumed.2 = none → resumed.1.lines = lines) ∧
      ∀ start, resumed.2 = some start →
        start ≤ lines.length ∧ resumed.1.lines.take start = lines.take start := by
  have fresh : BufferState.Coherent g ⟨scopeName, [], [.initial g], []⟩ := ⟨[], rfl, rfl⟩
  cases previous with
  | none =>
    refine ⟨fresh, rfl, nofun, ?_⟩
    rintro start ⟨⟩
    exact ⟨Nat.zero_le _, rfl⟩
  | some s =>
    by_cases hs : s.scopeName = scopeName
    · simp only [resume, hs, if_true]
      refine ⟨h s rfl hs, trivial, firstDifference_eq_none_iff.1, ?_⟩
      intro start hd
      exact ⟨(firstDifference_eq_some hd).2.1, (firstDifference_eq_some hd).2.2.1⟩
    · simp only [resume, hs, if_false]
      refine ⟨fresh, trivial, nofun, ?_⟩
      rintro start ⟨⟩
      exact ⟨Nat.zero_le _, rfl⟩

/-- A parse is a scan from the first line, whatever it reuses. -/
theorem parseWith_eq {previous : Option BufferState} {scopeName : String}
    (h : ∀ s, previous = some s → s.scopeName = scopeName → s.Coherent g)
    (lines : List String) :
    parseWith g previous scopeName lines =
      (g.scanLines 0 (.initial g) lines {}).map fun r =>
        (⟨r.1.flatten, (resume g previous scopeName lines).2⟩,
          ⟨scopeName, lines, .initial g :: r.2, r.1⟩) := by
  obtain ⟨⟨ends, hscan, hstarts⟩, hname, hnone, hsome⟩ := resume_coherent h lines
  unfold parseWith
  rcases hr : resume g previous scopeName lines with ⟨⟨name, old, starts, tokens⟩, start?⟩
  rw [hr] at hscan hstarts hname hnone hsome
  dsimp only at hscan hstarts hname hnone hsome ⊢
  cases start? with
  | none =>
    rw [← hnone rfl, hscan, hname, hstarts]
    rfl
  | some start =>
    obtain ⟨hle, htake⟩ := hsome start rfl
    have hkept := g.scanLines_take start hscan
    rw [htake] at hkept
    have hwhole := g.scanLines_append (PatternCache.sound_empty _) (lines.drop start) hkept
    rw [List.take_append_drop, List.length_take, Nat.min_eq_left hle, Nat.zero_add] at hwhole
    dsimp only
    rw [hwhole, hstarts, List.take_succ_cons, List.getLast?_cons, Option.getD_some]
    cases g.scanLines start ((ends.take start).getLast?.getD (.initial g)) (lines.drop start) {}
      <;> rfl

end Tokenizer

end Highlighting
