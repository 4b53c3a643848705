import Highlighting.Proofs.Tokenizer.Tiling

/-!
What a parse finds changed. Above the first changed line the tokens are those of the parse before,
and the same lines again are not changed at all.
-/
namespace Highlighting

theorem Grammar.filter_tokens_take {g : Grammar} {lines : List String} {first : Nat}
    {stack : Stack} {cache : PatternCache} {tokens : List (List Token)} {ends : List Stack}
    (h : g.scanLines first stack lines cache = .ok (tokens, ends)) (n : Nat) :
    tokens.flatten.filter (·.line < first + n) = (tokens.take n).flatten := by
  induction lines generalizing first stack cache tokens ends n with
  | nil => cases h; rw [List.take_nil]; rfl
  | cons text rest ih =>
    have hall := (g.scanLines_tile h).inLines
    rw [scanLines] at h
    split at h
    · cases h
    · next spans after cache' hs =>
      have hline := (g.scanLine_tile text.toList stack first).result _ _ _ hs
      cases hr : g.scanLines (first + 1) after rest cache' with
      | error failure => rw [hr] at h; cases h
      | ok r =>
        rw [hr] at h
        cases h
        cases n with
        | zero =>
          refine List.filter_eq_nil_iff.2 fun t ht => ?_
          have := (hall t ht).1
          simp only [decide_eq_true_eq]
          omega
        | succ n =>
          have hhere : (spans.map (Token.ofSpan first)).filter (·.line < first + (n + 1)) =
              spans.map (Token.ofSpan first) := by
            refine List.filter_eq_self.2 fun t ht => ?_
            have := hline.line_eq t ht
            simp only [decide_eq_true_eq]
            omega
          have hrest := ih hr n
          rw [Nat.add_assoc, Nat.add_comm 1 n] at hrest
          rw [List.take_succ_cons, List.flatten_cons, List.flatten_cons, List.filter_append, hhere,
            hrest]

theorem Grammar.scanLines_error {g : Grammar} {lines : List String} {first : Nat} {stack : Stack}
    {cache : PatternCache} {failure : Failure}
    (h : g.scanLines first stack lines cache = .error failure) :
    ∃ line fault, failure = .tokenize line fault ∧
      ∃ text stack cache, g.scanLine text stack cache = .error fault := by
  induction lines generalizing first stack cache with
  | nil => cases h
  | cons text rest ih =>
    rw [scanLines] at h
    split at h
    · next fault hfault => cases h; exact ⟨first, fault, rfl, _, _, _, hfault⟩
    · next spans after cache' _ =>
      cases hr : g.scanLines (first + 1) after rest cache' with
      | error other => rw [hr] at h; cases h; exact ih hr
      | ok r => rw [hr] at h; cases h

namespace Tokenizer
variable {t : Tokenizer} {files : Files} {g : Grammar}

theorem tokens_unchanged {s : BufferState} (hc : s.Coherent g) {lines : List String}
    {tokens : List (List Token)} {ends : List Stack}
    (hs : g.scanLines 0 (.initial g) lines {} = .ok (tokens, ends)) {start : Nat}
    (hd : firstDifference s.lines lines = some start) :
    tokens.flatten.filter (·.line < start) = s.tokens.flatten.filter (·.line < start) := by
  obtain ⟨olds, hscan, -⟩ := hc
  have hnew := g.scanLines_take start hs
  have hold := g.scanLines_take start hscan
  rw [(firstDifference_eq_some hd).2.2.1, hnew] at hold
  have htake : tokens.take start = s.tokens.take start := by
    injection hold with he
    exact (Prod.mk.inj he).1
  have hfirst := Grammar.filter_tokens_take hs start
  have hfirst' := Grammar.filter_tokens_take hscan start
  rw [Nat.zero_add] at hfirst hfirst'
  rw [hfirst, hfirst', htake]

theorem tokens_eq_of_same {s : BufferState} (hc : s.Coherent g) {lines : List String}
    {tokens : List (List Token)} {ends : List Stack}
    (hs : g.scanLines 0 (.initial g) lines {} = .ok (tokens, ends)) (hl : s.lines = lines) :
    tokens = s.tokens := by
  obtain ⟨olds, hscan, -⟩ := hc
  rw [hl, hs] at hscan
  injection hscan with he
  exact (Prod.mk.inj he).1

theorem mem_tokens_of_unchanged {previous : Option BufferState} {scopeName : String}
    {lines : List String} {tokens : List (List Token)} {ends : List Stack}
    (h : ∀ s, previous = some s → s.scopeName = scopeName → s.Coherent g)
    (hs : g.scanLines 0 (.initial g) lines {} = .ok (tokens, ends)) {x : Token}
    (hx : x ∈ tokens.flatten)
    (hb : ∀ start, (resume g previous scopeName lines).2 = some start → x.line < start) :
    ∃ s, previous = some s ∧ s.scopeName = scopeName ∧ x ∈ s.tokens.flatten := by
  cases previous with
  | none => exact absurd (hb 0 rfl) (Nat.not_lt_zero _)
  | some s =>
    by_cases hn : s.scopeName = scopeName
    · refine ⟨s, rfl, hn, ?_⟩
      have hc := h s rfl hn
      simp only [resume, hn, if_true] at hb
      cases hd : firstDifference s.lines lines with
      | none => exact tokens_eq_of_same hc hs (firstDifference_eq_none_iff.1 hd) ▸ hx
      | some start =>
        have hlt := hb start hd
        have hmem : x ∈ tokens.flatten.filter (·.line < start) :=
          List.mem_filter.2 ⟨hx, decide_eq_true hlt⟩
        rw [tokens_unchanged hc hs hd] at hmem
        exact (List.mem_filter.1 hmem).1
    · simp only [resume, hn, if_false] at hb
      exact absurd (hb 0 rfl) (Nat.not_lt_zero _)

theorem parseWith_state {previous : Option BufferState} {scopeName : String} {lines : List String}
    {parsed : Parsed} {s : BufferState}
    (h : parseWith g previous scopeName lines = .ok (parsed, s)) :
    s.scopeName = scopeName ∧ s.lines = lines ∧ s.tokens.flatten = parsed.tokens := by
  unfold parseWith at h
  rcases hr : resume g previous scopeName lines with ⟨state, _ | start⟩ <;>
    rw [hr] at h <;> dsimp only at h
  · cases h
    cases previous with
    | none => cases hr
    | some s =>
      by_cases hn : s.scopeName = scopeName
      · simp only [resume, hn, if_true, Prod.mk.injEq] at hr
        obtain ⟨rfl, hd⟩ := hr
        exact ⟨hn, firstDifference_eq_none_iff.1 hd, rfl⟩
      · simp only [resume, hn, if_false] at hr
        cases hr
  · cases hs : g.scanLines start (((state.starts.take (start + 1)).getLast?).getD (.initial g))
        (lines.drop start) {} with
    | error failure => rw [hs] at h; cases h
    | ok r =>
      rw [hs] at h
      cases h
      exact ⟨rfl, rfl, rfl⟩

theorem parse_ok {t' : Tokenizer} {buffer : Nat} {scopeName : String} {lines : List String}
    {parsed : Parsed} (h : t.parse files buffer scopeName lines = (.ok parsed, t')) :
    ∃ g s, (t.registry.load files scopeName).1 = .ok g ∧
      t' = { registry := (t.registry.load files scopeName).2, buffers := t.buffers.put buffer s } ∧
      s.scopeName = scopeName ∧ s.lines = lines ∧ s.tokens.flatten = parsed.tokens := by
  unfold parse at h
  rcases hl : t.registry.load files scopeName with ⟨failure | g, registry⟩ <;> rw [hl] at h
  · cases h
  · dsimp only at h
    cases hp : parseWith g (t.buffers.get? buffer) scopeName lines with
    | error failure => rw [hp] at h; cases h
    | ok r =>
      rw [hp] at h
      cases h
      exact ⟨g, r.2, rfl, rfl, parseWith_state hp⟩

theorem parse_again {t' : Tokenizer} {buffer : Nat} {scopeName : String} {lines : List String}
    {parsed : Parsed} (h : t.parse files buffer scopeName lines = (.ok parsed, t')) :
    (t'.parse files buffer scopeName lines).1 = .ok ⟨parsed.tokens, none⟩ := by
  obtain ⟨g, s, hl, rfl, hn, hlines, htokens⟩ := parse_ok h
  have hg := Registry.load_grammars_self hl
  have hd : firstDifference s.lines lines = none := firstDifference_eq_none_iff.2 hlines
  unfold parse
  dsimp only
  rw [Registry.load, hg]
  dsimp only
  rw [Table.get?_put_self, parseWith, resume]
  simp only [hn, if_true, hd]
  rw [← htokens]

theorem parseWith_error {previous : Option BufferState} {scopeName : String} {lines : List String}
    {failure : Failure} (h : parseWith g previous scopeName lines = .error failure) :
    ∃ line fault, failure = .tokenize line fault := by
  unfold parseWith at h
  rcases hr : resume g previous scopeName lines with ⟨state, _ | start⟩ <;>
    rw [hr] at h <;> dsimp only at h
  · cases h
  · cases hs : g.scanLines start (((state.starts.take (start + 1)).getLast?).getD (.initial g))
        (lines.drop start) {} with
    | error other =>
      rw [hs] at h
      cases h
      obtain ⟨line, fault, hfailure, -⟩ := Grammar.scanLines_error hs
      exact ⟨line, fault, hfailure⟩
    | ok r => rw [hs] at h; cases h

theorem parse_error {t' : Tokenizer} {buffer : Nat} {scopeName : String} {lines : List String}
    {failure : Failure} (h : t.parse files buffer scopeName lines = (.error failure, t')) :
    t'.buffers = t.buffers ∧ ∀ reason, failure ≠ .highlightApply reason := by
  unfold parse at h
  rcases hl : t.registry.load files scopeName with ⟨other | g, registry⟩ <;> rw [hl] at h
  · cases h
    obtain ⟨name, fault, rfl⟩ := Registry.load_error (congrArg Prod.fst hl)
    exact ⟨rfl, nofun⟩
  · dsimp only at h
    cases hp : parseWith g (t.buffers.get? buffer) scopeName lines with
    | error other =>
      rw [hp] at h
      cases h
      obtain ⟨line, fault, rfl⟩ := parseWith_error hp
      exact ⟨rfl, nofun⟩
    | ok r => rw [hp] at h; cases h

end Tokenizer

end Highlighting
