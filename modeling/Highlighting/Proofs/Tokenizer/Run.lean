import Highlighting.Proofs.Registry.Loading
import Highlighting.Proofs.Tokenizer.Snapshot

/-!
Tokenizers over whole runs. After any calls, failed ones included, the state of each buffer is
coherent with the grammar that the registry keeps for it.
-/
namespace Highlighting.Tokenizer

inductive Call
  | parse (buffer : Nat) (scopeName : String) (lines : List String)
  | tokenize (scopeName : String) (lines : List String)
  | forget (buffer : Nat)
  | scopeName (path : Path)

def step (files : Files) (t : Tokenizer) : Call → Tokenizer
  | .parse buffer scopeName lines => (t.parse files buffer scopeName lines).2
  | .tokenize scopeName lines => (t.tokenize files scopeName lines).2
  | .forget buffer => t.forget buffer
  | .scopeName path => (t.scopeName files path).2

def run (t : Tokenizer) (calls : List (Files × Call)) : Tokenizer :=
  calls.foldl (fun t c => t.step c.1 c.2) t

/-- Each buffer's state comes from a scan of all its lines with a grammar that the registry
keeps. -/
structure Coherent (t : Tokenizer) : Prop where
  state : ∀ buffer s, t.buffers.get? buffer = some s →
    ∃ g, t.registry.grammars.get? s.scopeName = some g ∧ s.Coherent g

theorem coherent_of_registry (registry : Registry) : Coherent { registry := registry } where
  state buffer s h := by cases h

variable {files : Files} {t : Tokenizer}

theorem Coherent.of_registry (h : t.Coherent) {registry : Registry}
    (hr : ∀ name g, t.registry.grammars.get? name = some g →
      registry.grammars.get? name = some g) :
    Coherent { t with registry := registry } where
  state buffer s hs := by
    obtain ⟨g, hg, hc⟩ := h.state buffer s hs
    exact ⟨g, hr _ _ hg, hc⟩

theorem Coherent.previous (h : t.Coherent) {buffer : Nat} {scopeName : String} {g : Grammar}
    (hl : (t.registry.load files scopeName).1 = .ok g) :
    ∀ s, t.buffers.get? buffer = some s → s.scopeName = scopeName → s.Coherent g := by
  intro s hs hn
  obtain ⟨g', hg, hc⟩ := h.state buffer s hs
  have hk := Registry.load_grammars_of_get? files scopeName hg
  have hself := Registry.load_grammars_self hl
  rw [hn, hself] at hk
  cases hk
  exact hc

/-- What a parse does, in a coherent tokenizer: it fails as loading or scanning fails, and then
keeps all buffers, or it keeps what a scan of all lines gives. -/
theorem Coherent.parse_cases (h : t.Coherent) (files : Files) (buffer : Nat) (scopeName : String)
    (lines : List String) :
    (∃ failure, t.parse files buffer scopeName lines =
        (.error failure, { t with registry := (t.registry.load files scopeName).2 }) ∧
      ((t.registry.load files scopeName).1 = .error failure ∨
        ∃ g, (t.registry.load files scopeName).1 = .ok g ∧
          g.scanLines 0 (.initial g) lines {} = .error failure)) ∨
    ∃ g tokens ends, (t.registry.load files scopeName).1 = .ok g ∧
      g.scanLines 0 (.initial g) lines {} = .ok (tokens, ends) ∧
      t.parse files buffer scopeName lines =
        (.ok ⟨tokens.flatten, (resume g (t.buffers.get? buffer) scopeName lines).2⟩,
          { registry := (t.registry.load files scopeName).2
            buffers := t.buffers.put buffer ⟨scopeName, lines, .initial g :: ends, tokens⟩ }) := by
  have previous : ∀ g, (t.registry.load files scopeName).1 = .ok g →
      ∀ s, t.buffers.get? buffer = some s → s.scopeName = scopeName → s.Coherent g :=
    fun g hg => h.previous hg
  unfold parse
  rcases hl : t.registry.load files scopeName with ⟨failure | g, registry⟩
  · exact .inl ⟨failure, rfl, .inl rfl⟩
  dsimp only
  rw [parseWith_eq (previous g (by rw [hl]))]
  cases hs : g.scanLines 0 (.initial g) lines {} with
  | error failure => exact .inl ⟨failure, rfl, .inr ⟨g, rfl, hs⟩⟩
  | ok r => exact .inr ⟨g, r.1, r.2, rfl, hs, rfl⟩

theorem tokenize_fst (files : Files) (t : Tokenizer) (scopeName : String) (lines : List String) :
    (t.tokenize files scopeName lines).1 =
      (t.registry.load files scopeName).1.bind fun g =>
        (g.scanLines 0 (.initial g) lines {}).map fun r => r.1.flatten := by
  unfold tokenize
  rcases t.registry.load files scopeName with ⟨failure | g, registry⟩
  · rfl
  · change (g.scanLines 0 (.initial g) lines {}).bind (fun r => .ok r.1.flatten) =
      (g.scanLines 0 (.initial g) lines {}).map fun r => r.1.flatten
    cases g.scanLines 0 (.initial g) lines {} <;> rfl

theorem Coherent.parse_tokens (h : t.Coherent) (files : Files) (buffer : Nat) (scopeName : String)
    (lines : List String) :
    (t.parse files buffer scopeName lines).1.map Parsed.tokens =
      (t.tokenize files scopeName lines).1 := by
  rw [tokenize_fst]
  rcases h.parse_cases files buffer scopeName lines with
    ⟨failure, hp, hl | ⟨g, hl, hs⟩⟩ | ⟨g, tokens, ends, hl, hs, hp⟩
  · rw [hp, hl]; rfl
  · rw [hp, hl, Except.bind, hs]; rfl
  · rw [hp, hl, Except.bind, hs]; rfl

theorem Coherent.step (h : t.Coherent) (files : Files) (call : Call) :
    (t.step files call).Coherent := by
  cases call with
  | parse buffer scopeName lines =>
    rw [Tokenizer.step]
    rcases h.parse_cases files buffer scopeName lines with
      ⟨failure, hp, -⟩ | ⟨g, tokens, ends, hl, hs, hp⟩
    · rw [hp]
      exact h.of_registry fun name g hg => Registry.load_grammars_of_get? files scopeName hg
    · rw [hp]
      refine ⟨fun other s hget => ?_⟩
      by_cases ho : other = buffer
      · subst other
        rw [Table.get?_put_self] at hget
        cases hget
        exact ⟨g, Registry.load_grammars_self hl, ends, hs, rfl⟩
      · rw [Table.get?_put_of_ne _ _ ho] at hget
        obtain ⟨g', hg, hc⟩ := h.state other s hget
        exact ⟨g', Registry.load_grammars_of_get? files scopeName hg, hc⟩
  | tokenize scopeName lines =>
    exact h.of_registry fun name g hg => Registry.load_grammars_of_get? files scopeName hg
  | forget buffer =>
    refine ⟨fun other s hget => ?_⟩
    by_cases ho : other = buffer
    · subst other
      rw [Tokenizer.step, Tokenizer.forget, Table.get?_erase_self] at hget
      cases hget
    · rw [Tokenizer.step, Tokenizer.forget, Table.get?_erase_of_ne _ ho] at hget
      exact h.state other s hget
  | scopeName path =>
    refine h.of_registry fun name g hg => ?_
    have hs := Registry.scopeName_grammars files t.registry path
    exact (congrArg (fun grammars => grammars.get? name) hs).trans hg

theorem Coherent.run (h : t.Coherent) (calls : List (Files × Call)) : (t.run calls).Coherent :=
  List.foldlRecOn calls _ h fun _ h call _ => h.step call.1 call.2

theorem step_registry (h : t.Coherent) (hf : t.registry.Faithful files) (call : Call) :
    (t.step files call).registry.Faithful files ∧
      (t.step files call).registry.unread = t.registry.unread := by
  cases call with
  | parse buffer scopeName lines =>
    rw [Tokenizer.step]
    rcases h.parse_cases files buffer scopeName lines with
      ⟨failure, hp, -⟩ | ⟨g, tokens, ends, -, -, hp⟩ <;> rw [hp] <;>
      exact ⟨hf.load scopeName, Registry.load_unread files t.registry scopeName⟩
  | tokenize scopeName lines =>
    exact ⟨hf.load scopeName, Registry.load_unread files t.registry scopeName⟩
  | forget buffer => exact ⟨hf, rfl⟩
  | scopeName path => exact ⟨hf.scopeName path, Registry.scopeName_unread files t.registry path⟩

theorem run_registry (h : t.Coherent) (hf : t.registry.Faithful files) (calls : List Call) :
    (t.run (calls.map (files, ·))).registry.Faithful files ∧
      (t.run (calls.map (files, ·))).registry.unread = t.registry.unread := by
  induction calls generalizing t with
  | nil => exact ⟨hf, rfl⟩
  | cons call calls ih =>
    obtain ⟨hf', hu⟩ := step_registry h hf call
    obtain ⟨hrun, hunread⟩ := ih (h.step files call) hf'
    exact ⟨hrun, hunread.trans hu⟩

/-- Over files that stay as they are, a parse anywhere in a run gives the very tokens, or the very
failure, that the lines give from scratch, be that before all calls, at the same point or after
any other calls. -/
theorem parse_refines_tokenize (engine : Engine) (roots : List Path) (order : Arrangement)
    (atStart files : Files) (calls others : List Call) (buffer : Nat) (scopeName : String)
    (lines : List String) :
    let start : Tokenizer := { registry := .new engine atStart roots order }
    ((start.run (calls.map (files, ·))).parse files buffer scopeName lines).1.map Parsed.tokens =
      ((start.run (others.map (files, ·))).tokenize files scopeName lines).1 := by
  intro start
  have hstart : start.Coherent := coherent_of_registry _
  have hfaithful : start.registry.Faithful files :=
    (Registry.new_unread engine atStart roots order).faithful files
  obtain ⟨hf, hu⟩ := run_registry hstart hfaithful calls
  obtain ⟨hf', hu'⟩ := run_registry hstart hfaithful others
  rw [(hstart.run _).parse_tokens, tokenize_fst, tokenize_fst, hf.load_fst, hf'.load_fst, hu, hu']

end Highlighting.Tokenizer
