import Highlighting.Proofs.Scan.Effects
import Highlighting.Tokenizer
import Mathlib.Logic.Function.Basic

/-! Grammars that hold the same rules in other places scan lines alike. -/
namespace Highlighting
open ScanM

section Relabel
variable (σ : Nat → Nat)

def Capture.relabel (c : Capture) : Capture := { c with patterns := c.patterns.map σ }

def Opening.relabel (o : Opening) : Opening :=
  { o with captures := o.captures.map (Capture.relabel σ), patterns := o.patterns.map σ }

def Rule.relabel : Rule → Rule
  | .container patterns => .container (patterns.map σ)
  | .single name matcher captures => .single name matcher (captures.map (Capture.relabel σ))
  | .block opening stop captures stopLast =>
    .block (opening.relabel σ) stop (captures.map (Capture.relabel σ)) stopLast
  | .lines opening go captures =>
    .lines (opening.relabel σ) go (captures.map (Capture.relabel σ))

def Frame.relabel (f : Frame) : Frame := { f with rule := σ f.rule }

def Stack.relabel (s : Stack) : Stack := ⟨s.root.relabel σ, s.regions.map (Frame.relabel σ)⟩

def Candidate.relabel : Candidate → Candidate
  | .stop => .stop
  | .rule id => .rule (σ id)

def Found.relabel (f : Found) : Found := { f with candidate := f.candidate.relabel σ }

def Step.relabel : Step → Step
  | .go pos stack out => .go pos (stack.relabel σ) out
  | .halt stack out => .halt (stack.relabel σ) out

/-- One grammar is the other one with its rules in other places. -/
structure Grammar.Relabels (g g' : Grammar) : Prop where
  injective : Function.Injective σ
  scopeName_eq : g'.scopeName = g.scopeName
  root_eq : g'.root = σ g.root
  engine_eq : g'.engine = g.engine
  rule_eq : ∀ id, g'.rule (σ id) = (g.rule id).relabel σ
  candidates_eq : ∀ id, g'.candidatesOf (σ id) = (g.candidatesOf id).map σ

end Relabel

variable {σ : Nat → Nat} {g g' : Grammar} {text : Text} {stack : Stack} {rescan rescan' : Rescan}

theorem Capture.isEmpty_relabel (c : Capture) : (c.relabel σ).isEmpty = c.isEmpty := by
  rw [isEmpty, isEmpty, relabel, Option.isNone_map]

theorem Rule.matcher?_relabel (r : Rule) : (r.relabel σ).matcher? = r.matcher? := by
  cases r <;> rfl

theorem Rule.stopCaptures_relabel (r : Rule) :
    (r.relabel σ).stopCaptures = r.stopCaptures.map (Capture.relabel σ) := by
  cases r <;> rfl

theorem Found.start_relabel (σ : Nat → Nat) (f : Found) : (f.relabel σ).start = f.start := rfl

namespace Stack

theorem top_relabel (σ : Nat → Nat) (s : Stack) : (s.relabel σ).top = s.top.relabel σ := by
  rw [top, top, relabel, List.head?_map]
  cases s.regions.head? <;> rfl

theorem scopes_relabel (σ : Nat → Nat) (s : Stack) : (s.relabel σ).scopes = s.scopes := by
  rw [scopes, scopes, top_relabel]
  rfl

theorem push?_relabel (σ : Nat → Nat) (s : Stack) (f : Frame) :
    (s.relabel σ).push? (f.relabel σ) = (s.push? f).map (Stack.relabel σ) := by
  have hdepth : (s.relabel σ).depth = s.depth := by rw [depth, depth, relabel, List.length_map]
  rw [push?, push?, hdepth]
  split <;> rfl

theorem pop?_relabel (σ : Nat → Nat) (s : Stack) :
    (s.relabel σ).pop? = s.pop?.map fun r => (r.1.relabel σ, r.2.relabel σ) := by
  obtain ⟨root, regions⟩ := s
  cases regions <;> rfl

theorem endLine_relabel (σ : Nat → Nat) (s : Stack) :
    (s.relabel σ).endLine = s.endLine.relabel σ := by
  rw [endLine, endLine, relabel, relabel, List.map_map, List.map_map]
  rfl

end Stack

/-- Scans of captured text do the same for stacks with the same regions in other places. -/
abbrev Rescan.Relabels (σ : Nat → Nat) (rescan rescan' : Rescan) : Prop :=
  ∀ text pos stack out, rescan' text pos (stack.relabel σ) out = rescan text pos stack out

namespace Captures

theorem paintGroup_relabel (hr : rescan.Relabels σ rescan') (text : Text) (stack : Stack)
    (base : Scopes) (c : Capture) (span : Span) (opened : List OpenGroup) (out : Paint) :
    paintGroup rescan' text (stack.relabel σ) base (c.relabel σ) span opened out =
      paintGroup rescan text stack base c span opened out := by
  unfold paintGroup
  obtain ⟨name, patterns⟩ := c
  cases patterns with
  | none => rfl
  | some rule =>
    have hpush (scopes : Scopes) :=
      stack.push?_relabel σ ⟨rule, scopes, scopes, none, some span.start⟩
    simp only [Frame.relabel] at hpush
    simp only [Capture.relabel, Option.map_some, hpush]
    cases stack.push? _ with
    | none => rfl
    | some nested => simp only [Option.map_some, hr]

theorem paintFrom_relabel (hr : rescan.Relabels σ rescan') (text : Text) (stack : Stack)
    (groups : Groups) (base : Scopes) (captures : Captures) :
    ∀ (index : Nat) (opened : List OpenGroup) (out : Paint),
      paintFrom rescan' text (stack.relabel σ) groups base index
        (captures.map (Capture.relabel σ)) opened out =
      paintFrom rescan text stack groups base index captures opened out := by
  induction captures with
  | nil => intro index opened out; rfl
  | cons c rest ih =>
    intro index opened out
    simp only [List.map_cons, paintFrom, Capture.isEmpty_relabel, paintGroup_relabel hr, ih]

theorem paint_relabel (hr : rescan.Relabels σ rescan') (text : Text) (stack : Stack)
    (groups : Groups) (base : Scopes) (captures : Captures) (out : Paint) :
    paint rescan' text (stack.relabel σ) groups base (captures.map (Capture.relabel σ)) out =
      paint rescan text stack groups base captures out :=
  paintFrom_relabel hr text stack groups base captures 0 [] out

end Captures

namespace Grammar

theorem better_relabel (σ : Nat → Nat) (best : Option Found) (c : Candidate)
    (groups : Option Groups) :
    better (best.map (Found.relabel σ)) (c.relabel σ) groups =
      (better best c groups).map (Found.relabel σ) := by
  cases groups with
  | none => rfl
  | some groups =>
    cases best with
    | none => rfl
    | some b =>
      simp only [better, Option.map_some]
      rw [apply_ite (Option.map (Found.relabel σ))]
      rfl

theorem openRegion_relabel (hσ : Function.Injective σ) (hr : rescan.Relabels σ rescan')
    (text : Text) (stack : Stack) (found : Found) (rule : Nat) (opening : Opening)
    (resolved : Option String) (out : Paint) :
    openRegion rescan' text (stack.relabel σ) (found.relabel σ) (σ rule)
      (opening.relabel σ) resolved
        out =
      Step.relabel σ <$> openRegion rescan text stack found rule opening resolved out := by
  have hagain : (decide ((found.relabel σ).start = (found.relabel σ).stop) &&
      decide ((stack.relabel σ).top.rule = σ rule) &&
      decide ((stack.relabel σ).top.enteredAt = some (found.relabel σ).start)) =
      (decide (found.start = found.stop) && decide (stack.top.rule = rule) &&
        decide (stack.top.enteredAt = some found.start)) := by
    have hrule : (stack.top.relabel σ).rule = σ rule ↔ stack.top.rule = rule := hσ.eq_iff
    rw [Stack.top_relabel, decide_eq_decide.2 hrule]
    rfl
  have hpush (scopes content : Scopes) :=
    stack.push?_relabel σ ⟨rule, scopes, content, resolved, some found.start⟩
  have hpaint := Captures.paint_relabel hr text stack found.groups
    (stack.scopes.enter opening.name) opening.captures out
  simp only [Frame.relabel] at hpush
  simp only [openRegion, hagain, Stack.scopes_relabel, map_bind]
  change Captures.paint rescan' text _ found.groups _ (opening.captures.map _) out >>= _ = _
  rw [show (opening.relabel σ).name = opening.name from rfl, hpaint]
  refine bind_congr fun out => ?_
  split
  · rfl
  · simp only [Opening.relabel, Found.start_relabel, hpush]
    cases stack.push? _ <;> rfl

namespace Relabels
variable (h : g.Relabels σ g')
include h

theorem edgeMatcher_eq (p : EdgePattern) (resolved : Option String) :
    g'.edgeMatcher p resolved = g.edgeMatcher p resolved := by
  rw [edgeMatcher, edgeMatcher, h.engine_eq]

theorem bestRule_eq (text : Text) (pos : Nat) (best : Option Found) (rules : List Nat) :
    g'.bestRule text pos (best.map (Found.relabel σ)) (rules.map σ) =
      (g.bestRule text pos best rules).map (Found.relabel σ) := by
  induction rules generalizing best with
  | nil => rfl
  | cons rule rest ih =>
    have hany : ((best.map (Found.relabel σ)).any fun b => b.start == pos) =
        best.any fun b => b.start == pos := by
      rw [Option.any_map]
      rfl
    rw [List.map_cons, bestRule, bestRule, hany, h.rule_eq, Rule.matcher?_relabel]
    split
    · rfl
    · cases (g.rule rule).matcher? with
      | none => exact ih best
      | some m =>
        have hbetter := better_relabel σ best (.rule rule) (m.search text pos)
        exact (congrArg (fun b => g'.bestRule text pos b _) hbetter).trans (ih _)

theorem nextMatch_eq (text : Text) (pos : Nat) (stack : Stack) :
    g'.nextMatch text pos (stack.relabel σ) =
      Option.map (Found.relabel σ) <$> g.nextMatch text pos stack := by
  have hrule : g'.rule (stack.top.relabel σ).rule = (g.rule stack.top.rule).relabel σ := h.rule_eq _
  have hbest (best : Option Found) := h.bestRule_eq text pos best (g.candidatesOf stack.top.rule)
  have hcandidates : g'.candidatesOf (stack.top.relabel σ).rule =
      (g.candidatesOf stack.top.rule).map σ := h.candidates_eq _
  simp only [nextMatch, Stack.top_relabel, hrule, hcandidates]
  cases hr : g.rule stack.top.rule with
  | container | single | lines => exact congrArg pure (hbest none)
  | block opening stop captures stopLast =>
    cases stop with
    | none => exact congrArg pure (hbest none)
    | some stop =>
      simp only [Rule.relabel, h.edgeMatcher_eq, map_bind]
      refine bind_congr fun matcher => ?_
      have hended := better_relabel σ none .stop (matcher.search text pos)
      split
      · rw [map_pure, ← better_relabel]
        exact congrArg (fun b => pure (better b _ _)) (hbest none)
      · rw [map_pure, ← hbest, ← hended]
        rfl

variable (hr : rescan.Relabels σ rescan')
include hr

theorem closeRegion_eq (text : Text) (pos : Nat) (stack : Stack) (found : Found) (out : Paint) :
    g'.closeRegion rescan' text pos (stack.relabel σ) (found.relabel σ) out =
      Step.relabel σ <$> g.closeRegion rescan text pos stack found out := by
  unfold closeRegion
  rw [Stack.pop?_relabel]
  cases stack.pop? with
  | none => rfl
  | some r =>
    obtain ⟨frame, below⟩ := r
    have hcaptures : (g'.rule (frame.relabel σ).rule).stopCaptures =
        (g.rule frame.rule).stopCaptures.map (Capture.relabel σ) := by
      rw [Frame.relabel, h.rule_eq, Rule.stopCaptures_relabel]
    simp only [Option.map_some, hcaptures, Captures.paint_relabel hr, map_bind]
    refine bind_congr fun out => ?_
    rw [apply_ite (Functor.map (Step.relabel σ))]
    rfl

theorem act_eq (text : Text) (pos : Nat) (stack : Stack) (found : Found) (out : Paint) :
    g'.act rescan' text pos (stack.relabel σ) (found.relabel σ) out =
      Step.relabel σ <$> g.act rescan text pos stack found out := by
  obtain ⟨candidate, groups⟩ := found
  cases candidate with
  | stop => exact h.closeRegion_eq hr text pos stack _ out
  | rule id =>
    simp only [act, Found.relabel, Candidate.relabel, h.rule_eq, Stack.scopes_relabel]
    cases g.rule id with
    | container patterns => rfl
    | single name matcher captures =>
      simp only [Rule.relabel, Captures.paint_relabel hr, map_bind]
      refine bind_congr fun out => ?_
      rw [apply_ite (Functor.map (Step.relabel σ))]
      rfl
    | block opening stop captures stopLast =>
      exact openRegion_relabel h.injective hr text stack ⟨.rule id, groups⟩ id opening _ _
    | lines opening go captures =>
      exact openRegion_relabel h.injective hr text stack ⟨.rule id, groups⟩ id opening _ _

theorem walk_eq (text : Text) (steps : Nat) :
    ∀ (pos : Nat) (stack : Stack) (out : Paint),
      g'.walk rescan' text steps pos (stack.relabel σ) out =
        (fun r => (r.1.relabel σ, r.2)) <$> g.walk rescan text steps pos stack out := by
  induction steps with
  | zero =>
    intro pos stack out
    simp only [walk]
    split <;> rfl
  | succ steps ih =>
    intro pos stack out
    simp only [walk]
    split
    · simp only [h.nextMatch_eq, map_bind, bind_map_left]
      refine bind_congr fun found? => ?_
      cases found? with
      | none => rfl
      | some found =>
        simp only [Option.map_some, h.act_eq hr, map_bind, bind_map_left]
        refine bind_congr fun step => ?_
        cases step with
        | go pos stack out => exact ih pos stack out
        | halt stack out => rfl
    · rfl

omit hr

theorem scan_eq (nesting : Nat) (text : Text) (pos : Nat) (stack : Stack) (out : Paint) :
    g'.scan nesting text pos (stack.relabel σ) out =
      (fun r => (r.1.relabel σ, r.2)) <$> g.scan nesting text pos stack out := by
  induction nesting generalizing text pos stack out with
  | zero => rfl
  | succ nesting ih =>
    have hr : Rescan.Relabels σ (g.rescan nesting) (g'.rescan nesting) := by
      intro text pos stack out
      rw [rescan, rescan, ih, bind_map_left]
    have hwalk := h.walk_eq hr text (stepLimit text) pos stack out
    change g'.walk (g'.rescan nesting) _ _ _ _ _ >>= _ =
      _ <$> (g.walk (g.rescan nesting) text _ pos stack out >>= _)
    rw [hwalk, bind_map_left, map_bind]
    refine bind_congr fun r => ?_
    dsimp only
    rw [Stack.scopes_relabel]
    rfl

theorem rescan_eq (nesting : Nat) : Rescan.Relabels σ (g.rescan nesting) (g'.rescan nesting) := by
  intro text pos stack out
  rw [rescan, rescan, h.scan_eq, bind_map_left]

theorem keepOpen_eq (nesting : Nat) (text : Text) (stack : Stack) (rest : List Frame) :
    ∀ (kept : List Frame) (pos : Nat) (out : Paint),
      g'.keepOpen (g'.rescan nesting) text (stack.relabel σ) (rest.map (Frame.relabel σ))
        (kept.map (Frame.relabel σ)) pos out =
      (fun r => (r.1, r.2.1.relabel σ, r.2.2)) <$>
        g.keepOpen (g.rescan nesting) text stack rest kept pos out := by
  induction rest with
  | nil => intro kept pos out; rfl
  | cons frame rest ih =>
    intro kept pos out
    have hrule : g'.rule (frame.relabel σ).rule = (g.rule frame.rule).relabel σ := h.rule_eq _
    simp only [List.map_cons, keepOpen, hrule]
    cases g.rule frame.rule with
    | container | single | block => exact ih (frame :: kept) pos out
    | lines opening go captures =>
      simp only [Rule.relabel, h.edgeMatcher_eq, map_bind]
      refine bind_congr fun matcher => ?_
      split
      · simp only [Captures.paint_relabel (h.rescan_eq nesting), map_bind]
        exact bind_congr fun out => ih (frame :: kept) _ _
      · rfl

theorem scanLine_eq (line : List Char) (stack : Stack) :
    g'.scanLine line (stack.relabel σ) =
      (fun r => (r.1, r.2.relabel σ)) <$> g.scanLine line stack := by
  have hkeep := h.keepOpen_eq g.engine.room (line ++ ['\n']).toArray stack
    stack.regions.reverse [] 0 (.fresh line.length)
  rw [List.map_reverse, List.map_nil] at hkeep
  simp only [scanLine, scanLineWithin, map_bind, h.engine_eq]
  change g'.keepOpen _ _ _ (stack.regions.map (Frame.relabel σ)).reverse _ _ _ >>= _ = _
  rw [hkeep, bind_map_left]
  refine bind_congr fun r => ?_
  simp only [h.scan_eq, bind_map_left, Stack.endLine_relabel, map_pure]

theorem scanLines_eq (lines : List String) :
    ∀ (number : Nat) (stack : Stack) (cache : PatternCache),
      g'.scanLines number (stack.relabel σ) lines cache =
        (g.scanLines number stack lines cache).map fun r => (r.1, r.2.map (Stack.relabel σ)) := by
  induction lines with
  | nil => intro number stack cache; rfl
  | cons line rest ih =>
    intro number stack cache
    have hline : g'.scanLine line.toList (stack.relabel σ) cache =
        (g.scanLine line.toList stack cache).map fun r => ((r.1.1, r.1.2.relabel σ), r.2) := by
      rw [h.scanLine_eq]
      change (g.scanLine line.toList stack cache).bind _ = _
      cases g.scanLine line.toList stack cache <;> rfl
    rw [scanLines, scanLines, hline]
    cases g.scanLine line.toList stack cache with
    | error fault => rfl
    | ok r =>
      obtain ⟨⟨spans, after⟩, cache'⟩ := r
      change (g'.scanLines (number + 1) (after.relabel σ) rest cache').bind _ = _
      rw [ih]
      change _ = Except.map _ ((g.scanLines (number + 1) after rest cache').bind _)
      cases g.scanLines (number + 1) after rest cache' <;> rfl

theorem initial_eq : Stack.initial g' = (Stack.initial g).relabel σ := by
  simp only [Stack.initial, h.root_eq, h.scopeName_eq]
  rfl

end Relabels

/-- Two grammars hold the same rules, each in places of its own. -/
structure Resembles (g g' : Grammar) : Prop where
  ruleCount_eq : g.ruleCount = g'.ruleCount
  relabels : ∃ σ, g.Relabels σ g'

theorem Resembles.scanLines_fst {g g' : Grammar} (h : g.Resembles g') (first : Nat)
    (lines : List String) (cache : PatternCache) :
    (g.scanLines first (.initial g) lines cache).map Prod.fst =
      (g'.scanLines first (.initial g') lines cache).map Prod.fst := by
  obtain ⟨σ, hrelabels⟩ := h.relabels
  rw [hrelabels.initial_eq, hrelabels.scanLines_eq]
  cases g.scanLines first (.initial g) lines cache <;> rfl

end Grammar
end Highlighting
