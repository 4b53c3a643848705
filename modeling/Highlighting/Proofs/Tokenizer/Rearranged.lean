import Highlighting.Proofs.Registry.Rearranged
import Highlighting.Proofs.Tokenizer.Run

/-! Tokenizers that go through captures in different orders answer alike where no order shows. -/
namespace Highlighting

/-- What the state of a buffer is about. -/
def BufferState.about (s : BufferState) : String × List String := (s.scopeName, s.lines)

namespace Tokenizer

def scan (t : Tokenizer) (files : Files) (scopeName : String) (lines : List String) :
    Except Failure (List (List Token) × List Stack) :=
  (t.registry.load files scopeName).1.bind fun g => g.scanLines 0 (.initial g) lines {}

/-- Two tokenizers know the same files, each with an order of its own, and have parsed the same. -/
structure Beside (files : Files) (t t' : Tokenizer) : Prop where
  left : t.Coherent
  right : t'.Coherent
  registry : Registry.Beside files t.registry t'.registry
  resolved : t.registry.resolved = t'.registry.resolved
  buffers : ∀ buffer, (t.buffers.get? buffer).map BufferState.about =
    (t'.buffers.get? buffer).map BufferState.about

theorem beside_of_registry {files : Files} {r r' : Registry} (h : Registry.Beside files r r')
    (hresolved : r.resolved = r'.resolved) :
    Beside files { registry := r } { registry := r' } :=
  ⟨coherent_of_registry r, coherent_of_registry r', h, hresolved, fun _ => rfl⟩

theorem resume_snd {g g' : Grammar} {previous previous' : Option BufferState}
    (h : previous.map BufferState.about = previous'.map BufferState.about) (scopeName : String)
    (lines : List String) :
    (resume g previous scopeName lines).2 = (resume g' previous' scopeName lines).2 := by
  cases previous with
  | none =>
    cases previous' with
    | none => rfl
    | some s' => cases h
  | some s =>
    cases previous' with
    | none => cases h
    | some s' =>
      obtain ⟨hscope, hlines⟩ := Prod.mk.inj (Option.some.inj h)
      simp only [resume, hscope, hlines]
      split <;> rfl

variable {files : Files} {t t' : Tokenizer}

theorem tokenize_scan (files : Files) (t : Tokenizer) (scopeName : String) (lines : List String) :
    (t.tokenize files scopeName lines).1 =
      (t.scan files scopeName lines).map fun r => r.1.flatten := by
  rw [tokenize_fst, scan]
  cases (t.registry.load files scopeName).1 <;> rfl

/-- What a parse does, told by a scan of all lines. -/
theorem Coherent.parse_scan (h : t.Coherent) (files : Files) (buffer : Nat) (scopeName : String)
    (lines : List String) :
    (∃ failure, t.scan files scopeName lines = .error failure ∧
      t.parse files buffer scopeName lines =
        (.error failure, { t with registry := (t.registry.load files scopeName).2 })) ∨
    ∃ g tokens ends, t.scan files scopeName lines = .ok (tokens, ends) ∧
      t.parse files buffer scopeName lines =
        (.ok ⟨tokens.flatten, (resume g (t.buffers.get? buffer) scopeName lines).2⟩,
          { registry := (t.registry.load files scopeName).2
            buffers := t.buffers.put buffer ⟨scopeName, lines, .initial g :: ends, tokens⟩ }) := by
  obtain ⟨failure, hp, hl | ⟨g, hl, hs⟩⟩ | ⟨g, tokens, ends, hl, hs, hp⟩ :=
    h.parse_cases files buffer scopeName lines
  · exact .inl ⟨failure, by rw [scan, hl]; rfl, hp⟩
  · exact .inl ⟨failure, by rw [scan, hl]; exact hs, hp⟩
  · exact .inr ⟨g, tokens, ends, by rw [scan, hl]; exact hs, hp⟩

namespace Beside

theorem scan (h : Beside files t t') {scopeName : String}
    (orderly : t.registry.Orderly files scopeName) (lines : List String) :
    Concur (fun r r' => r.1 = r'.1) (t.scan files scopeName lines)
      (t'.scan files scopeName lines) := by
  have hload := h.registry.load_fst orderly
  unfold Tokenizer.scan
  generalize (t.registry.load files scopeName).1 = loaded at hload ⊢
  generalize (t'.registry.load files scopeName).1 = loaded' at hload ⊢
  cases hload with
  | error halike => exact .error halike
  | @ok g g' hresembles =>
    have htokens := hresembles.scanLines_fst 0 lines {}
    change Concur _ (g.scanLines 0 (.initial g) lines {}) (g'.scanLines 0 (.initial g') lines {})
    cases hs : g.scanLines 0 (.initial g) lines {} with
    | error failure =>
      cases hs' : g'.scanLines 0 (.initial g') lines {} with
      | error failure' =>
        rw [hs, hs'] at htokens
        cases htokens
        exact .error (.refl _)
      | ok r' =>
        rw [hs, hs'] at htokens
        cases htokens
    | ok r =>
      cases hs' : g'.scanLines 0 (.initial g') lines {} with
      | error failure' =>
        rw [hs, hs'] at htokens
        cases htokens
      | ok r' =>
        rw [hs, hs'] at htokens
        exact .ok (Except.ok.inj htokens)

theorem load (h : Beside files t t') (scopeName : String) :
    Beside files { t with registry := (t.registry.load files scopeName).2 }
      { t' with registry := (t'.registry.load files scopeName).2 } where
  left := h.left.step files (.tokenize scopeName [])
  right := h.right.step files (.tokenize scopeName [])
  registry := h.registry.load scopeName
  resolved := by rw [Registry.load_resolved, Registry.load_resolved, h.resolved]
  buffers := h.buffers

theorem parse (h : Beside files t t') {scopeName : String}
    (orderly : t.registry.Orderly files scopeName) (buffer : Nat) (lines : List String) :
    Concur Eq (t.parse files buffer scopeName lines).1 (t'.parse files buffer scopeName lines).1 ∧
      Beside files (t.parse files buffer scopeName lines).2
        (t'.parse files buffer scopeName lines).2 := by
  have hscan := h.scan orderly lines
  have hload := h.load scopeName
  have hleft := h.left.step files (.parse buffer scopeName lines)
  have hright := h.right.step files (.parse buffer scopeName lines)
  rw [Tokenizer.step] at hleft hright
  obtain ⟨failure, hs, hp⟩ | ⟨g, tokens, ends, hs, hp⟩ :=
      h.left.parse_scan files buffer scopeName lines <;>
    obtain ⟨failure', hs', hp'⟩ | ⟨g', tokens', ends', hs', hp'⟩ :=
      h.right.parse_scan files buffer scopeName lines <;>
    rw [hs, hs'] at hscan <;> rw [hp, hp'] <;> cases hscan
  · exact ⟨.error ‹_›, hload⟩
  · next hsame =>
    obtain rfl : tokens = tokens' := hsame
    rw [hp] at hleft
    rw [hp'] at hright
    refine ⟨.ok (congrArg _ (resume_snd (h.buffers buffer) scopeName lines)), hleft, hright,
      hload.registry, hload.resolved, fun other => ?_⟩
    by_cases hother : other = buffer
    · rw [hother, Table.get?_put_self, Table.get?_put_self]
      rfl
    · rw [Table.get?_put_of_ne _ _ hother, Table.get?_put_of_ne _ _ hother]
      exact h.buffers other

theorem tokenize (h : Beside files t t') {scopeName : String}
    (orderly : t.registry.Orderly files scopeName) (lines : List String) :
    Concur Eq (t.tokenize files scopeName lines).1 (t'.tokenize files scopeName lines).1 ∧
      Beside files (t.tokenize files scopeName lines).2 (t'.tokenize files scopeName lines).2 := by
  refine ⟨?_, h.load scopeName⟩
  have hscan := h.scan orderly lines
  rw [tokenize_scan, tokenize_scan]
  generalize t.scan files scopeName lines = scanned at hscan ⊢
  generalize t'.scan files scopeName lines = scanned' at hscan ⊢
  cases hscan with
  | error halike => exact .error halike
  | ok hsame => exact .ok (congrArg List.flatten hsame)

theorem scopeName (h : Beside files t t') (path : Path) :
    (t.scopeName files path).1 = (t'.scopeName files path).1 ∧
      Beside files (t.scopeName files path).2 (t'.scopeName files path).2 := by
  obtain ⟨hsame, hresolved⟩ := h.registry.scopeName_eq h.resolved path
  exact ⟨hsame, h.left.step files (.scopeName path), h.right.step files (.scopeName path),
    h.registry.scopeName path, hresolved, h.buffers⟩

theorem forget (h : Beside files t t') (buffer : Nat) :
    Beside files (t.forget buffer) (t'.forget buffer) where
  left := h.left.step files (.forget buffer)
  right := h.right.step files (.forget buffer)
  registry := h.registry
  resolved := h.resolved
  buffers other := by
    by_cases hother : other = buffer
    · rw [Tokenizer.forget, Tokenizer.forget, hother, Table.get?_erase_self, Table.get?_erase_self]
    · rw [Tokenizer.forget, Tokenizer.forget, Table.get?_erase_of_ne _ hother,
        Table.get?_erase_of_ne _ hother]
      exact h.buffers other

end Beside

theorem orderly_step (h : t.Coherent) (hf : t.registry.Faithful files) (call : Call)
    {scopeName : String} (orderly : t.registry.Orderly files scopeName) :
    (t.step files call).registry.Orderly files scopeName := by
  obtain ⟨hfaithful, hunread⟩ := step_registry h hf call
  rw [← hfaithful.orderly, hunread]
  exact hf.orderly.2 orderly

end Tokenizer

end Highlighting
