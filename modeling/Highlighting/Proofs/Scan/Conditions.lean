import Highlighting.Proofs.Sample
import Highlighting.Proofs.Scan.CacheFree
import Highlighting.Proofs.Scan.Reading

/-! Which regions a new line leaves open: those below the first whose condition is not met. -/
namespace Highlighting
open ScanM

theorem ScanM.CacheFree.runs {α : Type} {e : Engine} {x : ScanM α} (h : CacheFree e x) :
    Runs (PatternCache.Sound e) x fun _ => True where
  eq cache _ := (Lockstep.refl x).eq cache trivial
  result := by
    intro cache hc a rest hx
    obtain ⟨fault, hf, -⟩ | ⟨b, left, right, hb, -, hleft, -⟩ := h.agree cache cache hc hc
    · rw [hx] at hf
      cases hf
    · rw [hx] at hb
      cases hb
      exact ⟨trivial, hleft⟩

def EdgePattern.matcher? (p : EdgePattern) (e : Engine) (resolved : Option String) :
    Option Matcher :=
  p.fixed <|> e.compile? (resolved.getD p.source)

namespace Grammar
variable (g : Grammar)

theorem edgeMatcher_runs (p : EdgePattern) (resolved : Option String) :
    g.Runs (g.edgeMatcher p resolved) fun m => p.matcher? g.engine resolved = some m := by
  unfold edgeMatcher EdgePattern.matcher?
  split
  · next hfixed => exact .pure (by rw [hfixed]; rfl)
  · next hfixed =>
    refine ⟨fun cache _ => (Lockstep.refl _).eq cache trivial, fun cache hc m rest hread => ?_⟩
    rw [hfixed]
    exact Engine.read_ok hc hread

/-- The pattern that must match on each further line for a region to go on, if it is such a
region. -/
def condition? (frame : Frame) : Option EdgePattern :=
  match g.rule frame.rule with
  | .lines _ go _ => some go
  | _ => none

def Meets (text : Text) (frame : Frame) (start stop : Nat) : Prop :=
  ∃ p ∈ g.condition? frame, ∃ m ∈ p.matcher? g.engine frame.resolved,
    ∃ groups ∈ m.search text start,
    groups.whole = ⟨start, stop⟩

/-- Regions go on, outermost first: each one that has a condition meets it where the match of the
last one ended. -/
inductive GoOn (text : Text) : (start : Nat) → List Frame → (stop : Nat) → Prop
  | nil (pos : Nat) : GoOn text pos [] pos
  | asked {frame : Frame} {start mid stop : Nat} {frames : List Frame}
      (met : g.Meets text frame start mid) (rest : GoOn text mid frames stop) :
      GoOn text start (frame :: frames) stop
  | unasked {frame : Frame} {start stop : Nat} {frames : List Frame}
      (free : g.condition? frame = none) (rest : GoOn text start frames stop) :
      GoOn text start (frame :: frames) stop

/-- A region has a condition, and it is not met at a place. -/
def Fails (text : Text) (frame : Frame) (pos : Nat) : Prop :=
  (g.condition? frame).isSome ∧ ∀ stop, ¬g.Meets text frame pos stop

variable {g} {text : Text} {start stop : Nat}

theorem GoOn.split {below above : List Frame} (h : g.GoOn text start (below ++ above) stop) :
    ∃ mid, g.GoOn text start below mid ∧ g.GoOn text mid above stop := by
  induction below generalizing start with
  | nil => exact ⟨start, .nil start, h⟩
  | cons frame below ih =>
    cases h with
    | asked met rest =>
      obtain ⟨mid, hbelow, habove⟩ := ih rest
      exact ⟨mid, .asked met hbelow, habove⟩
    | unasked free rest =>
      obtain ⟨mid, hbelow, habove⟩ := ih rest
      exact ⟨mid, .unasked free hbelow, habove⟩

theorem GoOn.not_fails {frame : Frame} {above : List Frame}
    (h : g.GoOn text start (frame :: above) stop) : ¬g.Fails text frame start := by
  rintro ⟨hsome, hnot⟩
  cases h with
  | asked met _ => exact hnot _ met
  | unasked free _ =>
    rw [free] at hsome
    cases hsome

theorem keepOpen_goOn (nesting : Nat) (text : Text) (stack : Stack) (rest : List Frame) :
    ∀ (kept : List Frame) (pos : Nat) (out : Paint),
      g.Runs (g.keepOpen (g.rescan nesting) text stack rest kept pos out) fun r =>
        ∃ held cut, rest = held ++ cut ∧ r.2.1 = { stack with regions := held.reverse ++ kept } ∧
          g.GoOn text pos held r.1 ∧ ∀ frame ∈ cut.head?, g.Fails text frame r.1 := by
  induction rest with
  | nil => intro kept pos out; exact .pure ⟨[], [], rfl, rfl, .nil pos, nofun⟩
  | cons frame rest ih =>
    intro kept pos out
    rw [keepOpen]
    split
    · next opening go captures hrule =>
      have hcondition : g.condition? frame = some go := by rw [condition?, hrule]
      refine (g.edgeMatcher_runs go frame.resolved).bind fun m hm => ?_
      split
      · next groups hgroups =>
        obtain ⟨hsearch, hstart⟩ := Option.filter_eq_some_iff.1 hgroups
        have hmet : g.Meets text frame pos groups.whole.stop := by
          refine ⟨go, hcondition, m, hm, groups, hsearch, ?_⟩
          rw [← beq_iff_eq.1 hstart]
        refine (Captures.paint_cacheFree (g.rescan_cacheFree nesting) ..).runs.bind fun out _ => ?_
        refine (ih (frame :: kept) _ _).imp fun r hr => ?_
        obtain ⟨held, cut, rfl, hafter, hgo, hfails⟩ := hr
        refine ⟨frame :: held, cut, rfl, ?_, .asked hmet hgo, hfails⟩
        rw [hafter, List.reverse_cons, List.append_assoc, List.singleton_append]
      · next hnone =>
        refine .pure ⟨[], frame :: rest, rfl, rfl, .nil pos, ?_⟩
        rintro _ ⟨⟩
        refine ⟨by rw [hcondition]; rfl, ?_⟩
        rintro stop ⟨go', hgo', m', hm', groups, hgroups, hwhole⟩
        cases hcondition.symm.trans hgo'
        cases hm.symm.trans hm'
        rw [hgroups, Option.filter_some_pos (by rw [hwhole]; exact beq_self_eq_true pos)] at hnone
        cases hnone
    · next hrule =>
      have hcondition : g.condition? frame = none := by
        unfold condition?
        split
        · next hlines => exact absurd hlines (hrule _ _ _)
        · rfl
      refine (ih (frame :: kept) pos out).imp fun r hr => ?_
      obtain ⟨held, cut, rfl, hafter, hgo, hfails⟩ := hr
      refine ⟨frame :: held, cut, rfl, ?_, .unasked hcondition hgo, hfails⟩
      rw [hafter, List.reverse_cons, List.append_assoc, List.singleton_append]

/-- A new line leaves open the regions below the lowest one whose condition is not met, where each
condition is asked at the end of the match for the one below it; they stay as they were, and the
line is scanned from the end of the last match on. So no region stays open that does not meet its
condition, however many are open inside of it. -/
theorem conditions_cut (g : Grammar) (nesting : Nat) (text : Text) (stack : Stack) (out : Paint)
    (cache : PatternCache) (hc : cache.Sound g.engine) (pos : Nat) (after : Stack) (out' : Paint)
    (rest : PatternCache)
    (h : g.keepOpen (g.rescan nesting) text stack stack.regions.reverse [] 0 out cache =
      .ok ((pos, after, out'), rest)) :
    ∃ cut kept, stack.regions = cut ++ kept ∧ after = { stack with regions := kept } ∧
      g.GoOn text 0 kept.reverse pos ∧ (∀ frame ∈ cut.getLast?, g.Fails text frame pos) ∧
      ∀ inner frame below, stack.regions = inner ++ frame :: below →
        (∀ mid, g.GoOn text 0 below.reverse mid → g.Fails text frame mid) → kept <:+ below := by
  obtain ⟨⟨held, cut, hregions, hafter, hgo, hfails⟩, -⟩ :=
    (keepOpen_goOn nesting text stack _ [] 0 out).result cache hc _ _ h
  have hparts : stack.regions = cut.reverse ++ held.reverse := by
    rw [← List.reverse_append, ← hregions, List.reverse_reverse]
  rw [List.append_nil] at hafter
  refine ⟨cut.reverse, held.reverse, hparts, hafter, ?_, ?_, ?_⟩
  · rwa [List.reverse_reverse]
  · rwa [List.getLast?_reverse]
  · intro inner frame below heq hfail
    -- a frame that is kept has met its condition where the regions below it led
    have hkept : ∀ above, held.reverse ≠ above ++ frame :: below := by
      intro above habove
      have hframes : held = below.reverse ++ frame :: above.reverse := by
        rw [← List.reverse_reverse held, habove]
        simp
      rw [hframes] at hgo
      obtain ⟨mid, hbelow, hframe⟩ := hgo.split
      exact hframe.not_fails (hfail mid hbelow)
    rw [hparts] at heq
    obtain ⟨above, -, habove⟩ | ⟨between, -, hbetween⟩ := List.append_eq_append_iff.1 heq
    · exact absurd habove (hkept above)
    · obtain ⟨-, heq⟩ | ⟨between, -, rfl⟩ := List.append_eq_cons_iff.1 hbetween.symm
      · exact absurd heq (hkept [])
      · exact List.suffix_append _ _

theorem conditions_cut_replies :
    let g := Sample.replies
    let root : Frame := ⟨0, ["source.r"], ["source.r"], none, none⟩
    let quote (scopes : Scopes) : Frame := ⟨1, scopes, scopes, none, none⟩
    let bracket (scopes : Scopes) : Frame := ⟨2, scopes, scopes, none, none⟩
    let outer : List Frame := [bracket ["source.r", "quote", "bracket"],
      quote ["source.r", "quote"]]
    let inner : List Frame := [bracket ["source.r", "quote", "bracket", "quote", "bracket"],
      quote ["source.r", "quote", "bracket", "quote"]]
    let text : Text := #['>', 'a', '>', '\n']
    let out : Paint := ⟨[⟨0, 1, ["source.r", "quote"]⟩], 1, 3⟩
    (∃ tokens, g.scanLines 0 (.initial g) [">(>("] {} = .ok (tokens, [⟨root, inner ++ outer⟩])) ∧
      g.keepOpen (g.rescan g.engine.room) text ⟨root, inner ++ outer⟩ (inner ++ outer).reverse [] 0
        (.fresh 3) {} = .ok ((1, ⟨root, outer⟩, out), {}) ∧
      g.GoOn text 0 outer.reverse 1 ∧
      g.Fails text (quote ["source.r", "quote", "bracket", "quote"]) 1 := by
  intro g root quote bracket outer inner text out
  have hkeep : g.keepOpen (g.rescan g.engine.room) text ⟨root, inner ++ outer⟩
      (inner ++ outer).reverse [] 0 (.fresh 3) {} = .ok ((1, ⟨root, outer⟩, out), {}) := by
    unfold g out text inner outer bracket quote root
    cbv
  have hscan : ∃ tokens, g.scanLines 0 (.initial g) [">(>("] {} =
      .ok (tokens, [⟨root, inner ++ outer⟩]) := by
    refine ⟨?tokens, ?scanned⟩
    case scanned =>
      unfold g inner outer bracket quote root
      cbv
      rfl
  obtain ⟨cut, kept, hregions, hafter, hgo, hfails, -⟩ := conditions_cut g g.engine.room text
    ⟨root, inner ++ outer⟩ (.fresh 3) {} (PatternCache.sound_empty _) 1 ⟨root, outer⟩ out {} hkeep
  obtain rfl : kept = outer := (congrArg Stack.regions hafter).symm
  obtain rfl : cut = inner := List.append_cancel_right hregions.symm
  exact ⟨hscan, hkeep, hgo, hfails _ rfl⟩

end Grammar

end Highlighting
