import Highlighting.Proofs.Highlighter.Served
import Highlighting.Proofs.MarkStore.Arranged

/-!
The states that requests lead to, over files that may change and an editor that may refuse any call.
In each of them the tokenizer is coherent and marks are kept by line.
-/
namespace Highlighting.Highlighter

inductive Reachable : Highlighter → Prop
  | new (registry : Registry) (rules : RuleTable) : Reachable (.new registry rules)
  | handle {h : Highlighter} (reachable : Reachable h) (files : Files) (host : Host)
      (request : Request) : Reachable (h.handle files host request).2.1
  | enable {h : Highlighter} (reachable : Reachable h) : Reachable h.enable

variable (h : Highlighter) (files : Files) (host : Host)

/-- A request is skipped, or uses up the stack, or fails before the editor is asked, or gets as far
as a plan. -/
theorem serve_cases (buffer : Nat) (v : View) :
    (∃ reason tokenizer calls, h.tokenizer.run calls = tokenizer ∧
      h.serve files host buffer v = (.skipped reason, { h with tokenizer := tokenizer }, host)) ∨
    (∃ tokenizer, h.Exhausts files buffer v tokenizer ∧
      h.serve files host buffer v = (.aborted, { h with tokenizer := tokenizer }, host)) ∨
    (∃ failure tokenizer calls, h.tokenizer.run calls = tokenizer ∧
      (∀ reason, failure ≠ .highlightApply reason) ∧
      h.serve files host buffer v = fail { h with tokenizer := tokenizer } host failure) ∨
    ∃ scopeName parsed tokenizer, h.Parses files buffer v scopeName parsed tokenizer := by
  have served := h.serve_served files host buffer v
  generalize h.serve files host buffer v = r at served
  cases served with
  | skipped reason tokenizer calls run kept => exact .inl ⟨reason, tokenizer, calls, run, rfl⟩
  | aborted tokenizer exhausts => exact .inr (.inl ⟨tokenizer, exhausts, rfl⟩)
  | failed failure tokenizer calls run kept own =>
    exact .inr (.inr (.inl ⟨failure, tokenizer, calls, run, own, rfl⟩))
  | refused scopeName parsed tokenizer parses reason store host' unwilling kept sent =>
    exact .inr (.inr (.inr ⟨scopeName, parsed, tokenizer, parses⟩))
  | done scopeName parsed tokenizer parses outcome store host' answered range renewed sent =>
    exact .inr (.inr (.inr ⟨scopeName, parsed, tokenizer, parses⟩))

theorem conclude_parts (outcome : Outcome) (made : Option String × MarkStore × Host) :
    (h.conclude outcome made).2.1.tokenizer = h.tokenizer ∧
      (h.conclude outcome made).2.1.store = made.2.1 := by
  rcases made with ⟨_ | reason, store, host⟩ <;> exact ⟨rfl, rfl⟩

theorem Parses.tokenizer_eq {buffer : Nat} {v : View} {scopeName : String} {parsed : Parsed}
    {tokenizer : Tokenizer} {h : Highlighter} {files : Files}
    (parses : h.Parses files buffer v scopeName parsed tokenizer) :
    tokenizer =
      h.tokenizer.run [(files, .scopeName v.path), (files, .parse buffer scopeName v.lines)] :=
  (congrArg Prod.snd parses.parse).symm

theorem showScope_parts (path : Path) (lines : List String) :
    ∃ calls, (h.showScope files host path lines).2.1 =
      { h with tokenizer := h.tokenizer.run calls } := by
  unfold showScope
  split
  · exact ⟨[], rfl⟩
  cases hn : h.tokenizer.scopeName files path with
  | mk named tokenizer =>
    have hnamed : h.tokenizer.run [(files, .scopeName path)] = tokenizer := congrArg Prod.snd hn
    cases named with
    | error failure =>
      refine ⟨[(files, .scopeName path)], ?_⟩
      rw [hnamed]
      dsimp only
      split
      · rfl
      · split <;> rfl
    | ok scopeName =>
      refine ⟨[(files, .scopeName path), (files, .tokenize scopeName lines)], ?_⟩
      have hrun : h.tokenizer.run [(files, .scopeName path), (files, .tokenize scopeName lines)] =
          (tokenizer.tokenize files scopeName lines).2 := by rw [← hnamed]; rfl
      rw [hrun]
      dsimp only
      cases (tokenizer.tokenize files scopeName lines).1 with
      | error failure =>
        dsimp only [Except.map]
        split
        · rfl
        · split <;> rfl
      | ok tokens =>
        dsimp only [Except.map]
        split <;> rfl

/-- What a request makes of a highlighter: the tokenizer answers calls, and either the editor
accepts calls or a buffer is closed. -/
theorem handle_parts (request : Request) :
    ∃ calls, (h.handle files host request).2.1.tokenizer = h.tokenizer.run calls ∧
      ((∃ made : List HostCall,
        (h.handle files host request).2.1.store = made.foldl MarkStore.apply h.store) ∨
      ∃ buffer, (h.handle files host request).2.1.store = h.store.forget buffer) := by
  cases request with
  | highlight buffer path lines visibleEnd refresh =>
    let v : View := ⟨path, lines, visibleEnd, refresh⟩
    change ∃ calls, (h.serve files host buffer v).2.1.tokenizer = h.tokenizer.run calls ∧
      ((∃ made : List HostCall,
        (h.serve files host buffer v).2.1.store = made.foldl MarkStore.apply h.store) ∨
      ∃ buffer', (h.serve files host buffer v).2.1.store = h.store.forget buffer')
    obtain ⟨reason, tokenizer, calls, run, hs⟩ | ⟨tokenizer, exhausts, hs⟩ |
      ⟨failure, tokenizer, calls, run, -, hs⟩ | ⟨scopeName, parsed, tokenizer, parses⟩ :=
      h.serve_cases files host buffer v
    · exact ⟨calls, by rw [hs, run], .inl ⟨[], by rw [hs]; rfl⟩⟩
    · obtain ⟨calls, run⟩ := exhausts.run
      exact ⟨calls, by rw [hs, run], .inl ⟨[], by rw [hs]; rfl⟩⟩
    · exact ⟨calls, by rw [hs, run]; rfl, .inl ⟨[], by rw [hs]; rfl⟩⟩
    · rw [parses.serve_eq, carryOut_eq]
      obtain ⟨htokenizer, hstore⟩ := conclude_parts { h with tokenizer := tokenizer } _ _
      rw [htokenizer, hstore]
      obtain ⟨made, -, hmade⟩ := h.store.callAll_store host _
      exact ⟨_, parses.tokenizer_eq, .inl ⟨made, hmade⟩⟩
  | undecorate buffer range =>
    rw [handle, undecorate_eq]
    obtain ⟨htokenizer, hstore⟩ := conclude_parts h .undecorated
      (h.store.callAll host [.removeMarks buffer range])
    rw [htokenizer, hstore]
    obtain ⟨made, -, hmade⟩ := h.store.callAll_store host [.removeMarks buffer range]
    exact ⟨[], rfl, .inl ⟨made, hmade⟩⟩
  | showScope buffer path lines =>
    obtain ⟨calls, hcalls⟩ := h.showScope_parts files host path lines
    rw [handle, hcalls]
    exact ⟨calls, rfl, .inl ⟨[], rfl⟩⟩
  | close buffer => exact ⟨[(files, .forget buffer)], rfl, .inr ⟨buffer, rfl⟩⟩

/-- The tokenizer's states fit its grammars, and marks are kept by line. -/
structure Sound (h : Highlighter) : Prop where
  coherent : h.tokenizer.Coherent
  byLine : ∀ buffer, ByLine (h.store.marks buffer)

theorem Reachable.sound {h : Highlighter} (reachable : h.Reachable) : h.Sound := by
  induction reachable with
  | new registry rules => exact ⟨Tokenizer.coherent_of_registry registry, fun _ => .nil⟩
  | handle reachable files host request ih =>
    obtain ⟨calls, htokenizer, hstore⟩ := handle_parts _ files host request
    refine ⟨htokenizer ▸ ih.coherent.run calls, fun buffer => ?_⟩
    obtain ⟨made, hmade⟩ | ⟨closed, hclosed⟩ := hstore
    · exact hmade ▸ MarkStore.byLine_foldl_apply ih.byLine made buffer
    · rw [hclosed, MarkStore.marks_forget]
      split
      · exact .nil
      · exact ih.byLine buffer
  | enable reachable ih => exact ⟨ih.coherent, ih.byLine⟩

end Highlighting.Highlighter
