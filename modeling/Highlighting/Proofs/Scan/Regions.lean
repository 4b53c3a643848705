import Highlighting.Proofs.Sample
import Highlighting.Proofs.Scan.Painting
import Highlighting.Tokenizer

/-! Which regions can be open: each stands in the one around it as its rule says. -/
namespace Highlighting
open ScanM

/-- A region of a rule that may stand there is open inside another one. -/
structure Frame.Inside (g : Grammar) (f around : Frame) : Prop where
  candidate : f.rule ∈ g.candidatesOf around.rule
  opened : ∃ opening, (g.rule f.rule).opening? = some opening ∧
    f.nameScopes = around.contentScopes.enter opening.name ∧
    f.contentScopes = f.nameScopes.enter opening.contentName
  resolved_iff : f.resolved.isSome ↔
    ∃ edge, (g.rule f.rule).edge? = some edge ∧ edge.isDynamic

namespace Stack

/-- The grammar itself is open at the bottom, and every other frame inside the one below it. -/
structure Nested (g : Grammar) (s : Stack) : Prop where
  root_eq : s.root = ⟨g.root, [g.scopeName], [g.scopeName], none, none⟩
  depth_pos : 1 ≤ s.depth
  depth_le : s.depth ≤ maxDepth
  inside : s.frames.IsChain (Frame.Inside g)

/-- A stack as one line hands it on to the next. -/
structure AtBoundary (g : Grammar) (s : Stack) : Prop extends Nested g s where
  forgotten : ∀ f ∈ s.frames, f.enteredAt = none

variable {g : Grammar} {s s' : Stack} {f : Frame}

theorem initial_nested (g : Grammar) : (initial g).Nested g where
  root_eq := rfl
  depth_pos := Nat.le_refl 1
  depth_le := (by decide : 1 ≤ maxDepth)
  inside := List.isChain_singleton _

theorem Nested.push (h : s.Nested g) (hf : f.Inside g s.top) (hp : s.push? f = some s') :
    s'.Nested g := by
  obtain ⟨hframes, hroot, hdepth⟩ := frames_of_push hp
  obtain ⟨below, htop⟩ := s.frames_eq_top_cons
  refine ⟨hroot.trans h.root_eq, Nat.le_add_left 1 _, hdepth, ?_⟩
  have hinside := h.inside
  rw [htop] at hinside
  rw [hframes, htop]
  exact List.isChain_cons_cons.2 ⟨hf, hinside⟩

theorem Nested.pop (h : s.Nested g) (hp : s.pop? = some (f, s')) : s'.Nested g := by
  obtain ⟨hframes, hroot, hdepth⟩ := frames_of_pop hp
  refine ⟨hroot.trans h.root_eq, Nat.le_add_left 1 _, hdepth.trans h.depth_le, ?_⟩
  have hinside := h.inside
  rw [hframes] at hinside
  exact hinside.tail

theorem Nested.suffix (h : s.Nested g) {kept : List Frame} (hk : kept <:+ s.regions) :
    Nested g { s with regions := kept } where
  root_eq := h.root_eq
  depth_pos := Nat.le_add_left 1 _
  depth_le := (Nat.succ_le_succ hk.length_le).trans h.depth_le
  inside := by
    obtain ⟨closed, hc⟩ := hk
    refine h.inside.suffix ⟨closed, ?_⟩
    rw [frames, frames, ← hc, List.append_assoc]

theorem Nested.endLine (h : s.Nested g) : s.endLine.AtBoundary g := by
  have hframes : s.endLine.frames = s.frames.map fun f => { f with enteredAt := none } := by
    rw [frames, frames, List.map_append]
    rfl
  have hdepth : s.endLine.depth = s.depth := by
    rw [depth, depth, Stack.endLine, List.length_map]
  refine ⟨⟨?_, Nat.le_add_left 1 _, hdepth ▸ h.depth_le, ?_⟩, ?_⟩
  · rw [Stack.endLine, h.root_eq]
  · rw [hframes, List.isChain_map]
    exact h.inside.imp fun f around hf => ⟨hf.candidate, hf.opened, hf.resolved_iff⟩
  · intro f hf
    rw [hframes] at hf
    obtain ⟨f', -, rfl⟩ := List.mem_map.1 hf
    rfl

theorem initial_atBoundary (g : Grammar) : (initial g).AtBoundary g := (initial_nested g).endLine

end Stack

def Scopes.Rooted (g : Grammar) (scopes : Scopes) : Prop := scopes.head? = some g.scopeName

theorem Scopes.Rooted.enter {g : Grammar} {scopes : Scopes} (h : scopes.Rooted g)
    (name : Option String) : (scopes.enter name).Rooted g := by
  unfold Rooted at h ⊢
  rw [Scopes.enter, List.head?_append, h]
  rfl

theorem Stack.Nested.scoped {g : Grammar} {s : Stack} (h : s.Nested g) :
    s.Scoped (Scopes.Rooted g) := by
  -- each frame's scopes go on from those of the frame around it, so the induction is from the root
  refine h.inside.backwards_induction _ _ ?_ ?_
  · intro f around hf haround
    obtain ⟨opening, -, hname, hcontent⟩ := hf.opened
    have hn : f.nameScopes.Rooted g := hname ▸ haround.2.enter _
    exact ⟨hn, hcontent ▸ hn.enter _⟩
  · intro hne
    have hlast : s.frames.getLast hne = s.root := List.getLast_append_singleton _
    rw [hlast, h.root_eq]
    exact ⟨rfl, rfl⟩

/-- What is found is the end of a region or one of these rules. -/
def Candidate.Among (rules : List Nat) : Candidate → Prop
  | .stop => True
  | .rule id => id ∈ rules

namespace Grammar
variable (g : Grammar)

theorem nextMatch_among (text : Text) (pos : Nat) (stack : Stack) :
    Ensures (g.nextMatch text pos stack)
      fun found? => ∀ b ∈ found?, b.candidate.Among (g.candidatesOf stack.top.rule) := by
  have hfound : Runs (fun _ => True) (g.nextMatch text pos stack)
      fun found? => ∀ b ∈ found?, b.candidate.Among (g.candidatesOf stack.top.rule) := by
    refine nextMatch_holds (fun _ => ?_) fun id hid _ _ _ _ => hid
    exact (Lockstep.refl _).imp fun _ _ _ _ => trivial
  exact hfound.ensures

theorem resolve_isSome (text : Text) (groups : Groups) (edge : Option EdgePattern) :
    (resolve text groups edge).isSome ↔ ∃ e, edge = some e ∧ e.isDynamic := by
  rw [resolve, Option.isSome_map, Option.isSome_iff_exists]
  exact exists_congr fun e => Option.filter_eq_some_iff

section Steps
variable {g} (rescan : Rescan)

theorem openRegion_nested (text : Text) {stack : Stack} (hs : stack.Nested g) {found : Found}
    {rule : Nat} (hrule : rule ∈ g.candidatesOf stack.top.rule) {opening : Opening}
    (ho : (g.rule rule).opening? = some opening) {edge : Option EdgePattern}
    (he : (g.rule rule).edge? = edge) (out : Paint) :
    Ensures (openRegion rescan text stack found rule opening
      (resolve text found.groups edge) out) fun step => step.stack.Nested g := by
  -- captures are scanned on stacks of their own, so what they do to them does not matter here
  refine (Ensures.trivial (Captures.paint rescan text stack _ _ _ out)).bind fun out _ => ?_
  dsimp only
  split
  · exact Ensures.pure hs
  · split
    · next hpush =>
      refine Ensures.pure (hs.push ⟨hrule, ⟨opening, ho, rfl, rfl⟩, ?_⟩ hpush)
      rw [he]
      exact resolve_isSome text found.groups edge
    · exact Ensures.throw _

theorem closeRegion_nested (text : Text) (pos : Nat) {stack : Stack} (hs : stack.Nested g)
    (found : Found) (out : Paint) :
    Ensures (g.closeRegion rescan text pos stack found out) fun step => step.stack.Nested g := by
  unfold closeRegion
  split
  · exact Ensures.pure hs
  · next frame below hpop =>
    have hbelow := hs.pop hpop
    refine (Ensures.trivial (Captures.paint rescan text below _ _ _ _)).bind fun out _ => ?_
    dsimp only
    split
    · exact Ensures.pure hbelow
    · exact Ensures.pure hbelow

theorem act_nested (text : Text) (pos : Nat) {stack : Stack} (hs : stack.Nested g)
    {found : Found} (hf : found.candidate.Among (g.candidatesOf stack.top.rule)) (out : Paint) :
    Ensures (g.act rescan text pos stack found out) fun step => step.stack.Nested g := by
  unfold act
  split
  · exact closeRegion_nested rescan text pos hs found out
  · next id hid =>
    rw [hid] at hf
    dsimp only
    split
    · refine (Ensures.trivial (Captures.paint rescan text stack _ _ _ _)).bind fun out _ => ?_
      split
      · exact Ensures.pure hs
      · exact Ensures.pure hs
    · next hr => exact openRegion_nested rescan text hs hf (by rw [hr]; rfl) (by rw [hr]; rfl) _
    · next hr => exact openRegion_nested rescan text hs hf (by rw [hr]; rfl) (by rw [hr]; rfl) _
    · exact Ensures.pure hs

theorem walk_nested (text : Text) (steps pos : Nat) {stack : Stack} (hs : stack.Nested g)
    (out : Paint) :
    Ensures (g.walk rescan text steps pos stack out) fun r => r.1.Nested g := by
  refine walk_ensures (fun stack _ => stack.Nested g) ?_ steps pos stack out hs
  intro pos stack out hs
  refine (g.nextMatch_among text pos stack).imp fun found? hfound found hmem => ?_
  exact act_nested rescan text pos hs (hfound found hmem) out

end Steps

variable {g}

theorem scan_nested (nesting : Nat) (text : Text) (pos : Nat) {stack : Stack}
    (hs : stack.Nested g) (out : Paint) :
    Ensures (g.scan nesting text pos stack out) fun r => r.1.Nested g := by
  cases nesting with
  | zero => exact Ensures.throw _
  | succ nesting =>
    exact (walk_nested _ text _ pos hs out).bind fun r hr => Ensures.pure hr

theorem scanLine_atBoundary (nesting : Nat) (line : List Char) {stack : Stack}
    (hs : stack.Nested g) :
    Ensures (g.scanLineWithin nesting line stack) fun r => r.2.AtBoundary g := by
  unfold scanLineWithin
  refine (keepOpen_suffix _ _ stack stack.regions.reverse [] _ _).bind fun r hr => ?_
  obtain ⟨pos, after, out⟩ := r
  obtain ⟨left, hleft, rfl⟩ := hr
  rw [List.reverse_reverse, List.append_nil] at hleft
  refine (scan_nested _ _ pos (hs.suffix hleft) out).bind fun r hr => ?_
  exact Ensures.pure hr.endLine

theorem scanLine_rooted (line : List Char) {stack : Stack} (hs : stack.Nested g) :
    Ensures (g.scanLine line stack) fun r => ∀ span ∈ r.1, span.scopes.Rooted g := by
  have strokes : Strokes (Scopes.Rooted g) fun p => ∀ span ∈ p.spans, span.scopes.Rooted g := by
    refine ⟨fun scopes name h => h.enter name, fun p place scopes hk h => ?_⟩
    unfold Paint.upTo
    dsimp only
    split
    · exact List.forall_mem_cons.2 ⟨hk, h⟩
    · exact h
  refine (scanLine_strokes strokes g.engine.room line hs.scoped nofun).imp fun r hr => ?_
  obtain ⟨p, scopes, hp, hk, he⟩ := hr
  intro span hspan
  rw [he, Paint.pieces, List.mem_reverse] at hspan
  exact strokes.upTo p _ scopes hk hp span hspan

theorem scanLines_atBoundary {lines : List String} {first : Nat} {stack : Stack}
    {cache : PatternCache} {tokens : List (List Token)} {ends : List Stack}
    (hs : stack.Nested g) (h : g.scanLines first stack lines cache = .ok (tokens, ends)) :
    (∀ s ∈ ends, s.AtBoundary g) ∧ ∀ t ∈ tokens.flatten, t.scopes.head? = some g.scopeName := by
  induction lines generalizing first stack cache tokens ends with
  | nil =>
    cases h
    exact ⟨nofun, nofun⟩
  | cons text rest ih =>
    rw [scanLines] at h
    split at h
    · cases h
    · next spans after cache' hline =>
      have hafter := (scanLine_atBoundary g.engine.room text.toList hs).result _ _ _ hline
      have hspans := (scanLine_rooted text.toList hs).result _ _ _ hline
      cases hr : g.scanLines (first + 1) after rest cache' with
      | error failure => rw [hr] at h; cases h
      | ok r =>
        rw [hr] at h
        cases h
        obtain ⟨hends, htokens⟩ := ih hafter.toNested hr
        refine ⟨List.forall_mem_cons.2 ⟨hafter, hends⟩, fun t ht => ?_⟩
        rw [List.flatten_cons, List.mem_append] at ht
        obtain ht | ht := ht
        · obtain ⟨span, hspan, rfl⟩ := List.mem_map.1 ht
          exact hspans span hspan
        · exact htokens t ht

/-- Whatever the lines, each stack on the way from the grammar alone is one that a boundary between
lines allows, and every token has the grammar's scope outermost. -/
theorem stacks_atBoundary (g : Grammar) (lines : List String) (cache : PatternCache)
    (tokens : List (List Token)) (ends : List Stack)
    (h : g.scanLines 0 (.initial g) lines cache = .ok (tokens, ends)) :
    (∀ s ∈ Stack.initial g :: ends, s.AtBoundary g) ∧
      ∀ t ∈ tokens.flatten, t.scopes.head? = some g.scopeName := by
  obtain ⟨hends, htokens⟩ := scanLines_atBoundary (Stack.initial_nested g) h
  exact ⟨List.forall_mem_cons.2 ⟨Stack.initial_atBoundary g, hends⟩, htokens⟩

theorem stacks_atBoundary_quotes :
    let g := Sample.quotes
    let root : Frame := ⟨0, ["source.q"], ["source.q"], none, none⟩
    let quote : Frame := ⟨2, ["source.q", "quote"], ["source.q", "quote"], none, none⟩
    let bracket : Frame := ⟨1, ["source.q", "quote", "meta.bracket"],
      ["source.q", "quote", "meta.bracket", "inner", "text"], some ")\\(", none⟩
    let tokens : List (List Token) := [[⟨["source.q", "quote"], 0, 0, 1⟩,
      ⟨["source.q", "quote", "meta.bracket"], 0, 1, 1⟩], [⟨["source.q", "quote"], 1, 0, 1⟩]]
    let ends : List Stack := [⟨root, [bracket, quote]⟩, ⟨root, [bracket, quote]⟩]
    g.scanLines 0 (.initial g) [">(", ">"] {} = .ok (tokens, ends) ∧
      (∀ s ∈ Stack.initial g :: ends, s.AtBoundary g) ∧
      ∀ t ∈ tokens.flatten, t.scopes.head? = some g.scopeName := by
  intro g root quote bracket tokens ends
  have hscan : g.scanLines 0 (.initial g) [">(", ">"] {} = .ok (tokens, ends) := by
    unfold g tokens ends bracket quote root
    cbv
  exact ⟨hscan, stacks_atBoundary g _ _ tokens ends hscan⟩

end Grammar

end Highlighting
