import Highlighting.Proofs.Pattern.Items
import Highlighting.Proofs.Grammar.Arena
import Highlighting.Proofs.Scan.Captured
import Highlighting.Proofs.Scan.Checked
import Highlighting.Proofs.Scan.Regions

/-! A scan of lines reaches for nothing that is not there. -/
namespace Highlighting

def Groups.Within (groups : Groups) (size : Nat) : Prop :=
  ∀ i span, groups.get? i = some span → span.start ≤ span.stop ∧ span.stop ≤ size

namespace Pattern

theorem Regex.matchAt_within (regex : Regex) {text : Text} {origin pos : Nat} {groups : Groups}
    (h : regex.matchAt text origin pos = some groups) : groups.Within text.size := by
  unfold Regex.matchAt at h
  split at h
  · obtain ⟨d, -, rfl⟩ := Option.map_eq_some_iff.1 h
    rintro (_ | i) span hspan
    · cases hspan
      exact ⟨Nat.min_le_right _ _, d.pos_le_size⟩
    · simp only [Groups.get?, List.getElem?_map, Option.join_eq_some_iff, Option.map_eq_some_iff]
        at hspan
      obtain ⟨group, -, took, -, rfl⟩ := hspan
      exact ⟨took.start_le, took.stop_le⟩
  · cases h

theorem engine_inBounds : engine.InBounds := by
  intro source m hm text position groups h
  obtain ⟨regex, -, rfl⟩ := Option.map_eq_some_iff.1 hm
  have hsearch : ∀ more pos, regex.searchFrom text position pos more = some groups →
      groups.Within text.size := by
    intro more
    induction more with
    | zero => exact fun pos h => regex.matchAt_within h
    | succ more ih =>
      intro pos h
      rw [Regex.searchFrom, Option.orElse_eq_orElse, Option.orElse_eq_or,
        Option.or_eq_some_iff] at h
      obtain h | ⟨-, h⟩ := h
      · exact regex.matchAt_within h
      · exact ih _ h
  simp only [Regex.matcher] at h
  split at h
  · exact hsearch _ _ h
  · cases h

end Pattern

theorem Rule.mem_matchers {r : Rule} {m : Matcher} (h : m ∈ r.matcher?) : m ∈ r.matchers := by
  cases r <;> cases h <;> exact List.mem_cons_self

theorem Rule.mem_matchers_edge {r : Rule} {edge : EdgePattern} (h : r.edge? = some edge)
    {m : Matcher} (hm : m ∈ edge.fixed) : m ∈ r.matchers := by
  cases r with
  | container => cases h
  | single => cases h
  | block => cases h; exact List.mem_cons_of_mem _ (Option.mem_toList.2 hm)
  | lines => cases h; exact List.mem_cons_of_mem _ (Option.mem_toList.2 hm)

theorem Engine.read_ok {e : Engine} {source : String} {m : Matcher} {cache rest : PatternCache}
    (hc : cache.Sound e) (h : e.read source cache = .ok (m, rest)) :
    e.compile? source = some m ∧ rest.Sound e := by
  unfold Engine.read at h
  split at h
  · next hget =>
    cases h
    exact ⟨hc source m hget, hc⟩
  · split at h
    · next hread =>
      cases h
      exact ⟨hread, hc.put hread⟩
    · cases h

structure Found.Usable (g : Grammar) (text : Text) (stack : Stack) (found : Found) : Prop where
  within : found.groups.Within text.size
  rule_lt : ∀ id, found.candidate = .rule id → id < g.ruleCount
  ends : found.Ends g stack

structure Paint.Within (limit : Nat) (p : Paint) : Prop where
  limit_eq : p.limit = limit
  spans : ∀ span ∈ p.spans, span.start ≤ span.stop ∧ span.stop ≤ limit

theorem Paint.upTo_within (limit : Nat) : Paint.Kept (Paint.Within limit) := by
  intro p place scopes h
  simp only [Paint.upTo]
  split
  · next hlt =>
    refine ⟨h.limit_eq, List.forall_mem_cons.2 ⟨⟨Nat.le_of_lt hlt, ?_⟩, h.spans⟩⟩
    exact h.limit_eq ▸ Nat.min_le_right _ _
  · exact h

/-- The rules of all frames are in the arena, and the grammar itself has no end. -/
structure Stack.Placed (g : Grammar) (s : Stack) : Prop where
  root_open : (g.rule s.root.rule).ends = false
  rule_lt : ∀ f ∈ s.frames, f.rule < g.ruleCount

namespace Stack
variable {g : Grammar} {s s' : Stack} {frame : Frame}

theorem Placed.push (h : s.Placed g) (hf : frame.rule < g.ruleCount)
    (hp : s.push? frame = some s') : s'.Placed g := by
  obtain ⟨hframes, hroot, -⟩ := frames_of_push hp
  refine ⟨hroot ▸ h.root_open, ?_⟩
  rw [hframes]
  exact List.forall_mem_cons.2 ⟨hf, h.rule_lt⟩

theorem Placed.pop (h : s.Placed g) (hp : s.pop? = some (frame, s')) :
    frame.rule < g.ruleCount ∧ s'.Placed g := by
  obtain ⟨hframes, hroot, -⟩ := frames_of_pop hp
  have hall := h.rule_lt
  rw [hframes] at hall
  obtain ⟨hframe, hbelow⟩ := List.forall_mem_cons.1 hall
  exact ⟨hframe, hroot ▸ h.root_open, hbelow⟩

theorem Placed.pop_ne_none (h : s.Placed g) (hends : (g.rule s.top.rule).ends = true) :
    s.pop? ≠ none := by
  obtain ⟨root, _ | ⟨f, rest⟩⟩ := s
  · have hopen : (g.rule root.rule).ends = false := h.root_open
    have hroot : (g.rule root.rule).ends = true := hends
    rw [hopen] at hroot
    cases hroot
  · nofun

theorem Nested.placed (h : s.Nested g) (hg : g.Closed) : s.Placed g where
  root_open := by
    obtain ⟨patterns, hroot⟩ := hg.root_container
    rw [h.root_eq, hroot]
    rfl
  rule_lt := by
    -- each region is of a rule that is tried inside the one around it: this goes from the root on
    refine h.inside.backwards_induction _ _ ?_ ?_
    · exact fun f around hf _ => hg.candidatesOf_lt around.rule f.rule hf.candidate
    · intro hne
      have hlast : s.frames.getLast hne = s.root := List.getLast_append_singleton _
      rw [hlast, h.root_eq]
      exact hg.root_lt

end Stack

namespace Checked
variable {g : Grammar} {text : Text} {pos id : Nat} {span : Span}

theorem check_eq {holds : Bool} (h : holds = true) (breach : Breach) :
    check holds breach = pure () := if_pos h

theorem search_eq (matcher : Matcher) (h : pos ≤ text.size) :
    search matcher text pos = pure (matcher.search text pos) := by
  rw [search, check_eq (decide_eq_true h), pure_bind]

theorem slice_eq (h : span.start ≤ span.stop ∧ span.stop ≤ text.size) :
    slice text span = pure (text.extract span.start span.stop) := by
  rw [slice, check_eq (by simpa using h), pure_bind]

theorem rule_eq (h : id < g.ruleCount) : rule g id = pure (g.rule id) := by
  have hget : g.rules[id]? = some g.rules[id] := Array.getElem?_eq_getElem h
  rw [rule, Grammar.rule, hget]
  rfl

theorem candidatesOf_eq (hg : g.Closed) (h : id < g.ruleCount) :
    candidatesOf g id = pure (g.candidatesOf id) := by
  have hlt : id < g.candidates.size := hg.candidates_size.symm ▸ h
  have hget : g.candidates[id]? = some g.candidates[id] := Array.getElem?_eq_getElem hlt
  rw [candidatesOf, Grammar.candidatesOf, hget]
  rfl

theorem bestRule_eq (hpos : pos ≤ text.size) {rules : List Nat} (h : ∀ id ∈ rules, id < g.ruleCount)
    (best : Option Found) :
    bestRule g text pos best rules = pure (g.bestRule text pos best rules) := by
  induction rules generalizing best with
  | nil => rfl
  | cons id rest ih =>
    obtain ⟨hid, hrest⟩ := List.forall_mem_cons.1 h
    rw [bestRule, Grammar.bestRule]
    split
    · rfl
    · rw [rule_eq hid, pure_bind]
      cases (g.rule id).matcher? with
      | none => exact ih hrest best
      | some matcher =>
        simp only [search_eq matcher hpos, pure_bind]
        exact ih hrest _

theorem refer_eq {groups : Groups} (h : groups.Within text.size) (source : List Char) :
    refer text groups source = pure (BackReference.resolve text groups.toList source) := by
  fun_induction BackReference.resolve text groups.toList source with
  | case1 c rest index hdigit ih =>
    simp only [refer, hdigit, BackReference.taken, groups.join_getElem?_toList]
    cases hget : groups.get? index with
    | none => exact ih
    | some span =>
      simp only [slice_eq (h index span hget), ih, pure_bind]
      rfl
  | case2 c rest hdigit ih => simp only [refer, hdigit, ih, pure_bind]
  | case3 c rest hplain ih => rw [refer, ih, pure_bind]; exact hplain
  | case4 => rfl

theorem resolve_eq {groups : Groups} (h : groups.Within text.size) (edge : Option EdgePattern) :
    resolve text groups edge = pure (Grammar.resolve text groups edge) := by
  unfold resolve Grammar.resolve
  cases edge.filter EdgePattern.isDynamic with
  | none => rfl
  | some e => simp only [refer_eq h, pure_bind]; rfl

theorem token_eq {number length : Nat} {s : ScopedSpan} (h : s.start ≤ s.stop ∧ s.stop ≤ length) :
    token number length s = pure (Token.ofSpan number s) := by
  rw [token, check_eq (by simpa using h), pure_bind]

theorem tokens_eq {number length : Nat} {spans : List ScopedSpan}
    (h : ∀ s ∈ spans, s.start ≤ s.stop ∧ s.stop ≤ length) :
    spans.mapM (token number length) = pure (spans.map (Token.ofSpan number)) := by
  induction spans with
  | nil => rfl
  | cons s rest ih =>
    obtain ⟨hs, hrest⟩ := List.forall_mem_cons.1 h
    rw [List.mapM_cons, token_eq hs, pure_bind, ih hrest, pure_bind]
    rfl

abbrev Checks {α : Type} (g : Grammar) (x : CheckM α) (y : ScanM α) (P : α → Prop) : Prop :=
  Lockstep (PatternCache.Sound g.engine) Stop.fault x y P

theorem edgeMatcher_checks {R : Matcher → Prop}
    (he : ∀ source m, g.engine.compile? source = some m → R m) (p : EdgePattern)
    (hp : ∀ m ∈ p.fixed, R m) (resolved : Option String) :
    Checks g (plain (g.edgeMatcher p resolved)) (g.edgeMatcher p resolved) R where
  eq _ _ := rfl
  result := by
    intro cache hc m rest h
    rw [Grammar.edgeMatcher] at h
    cases hfixed : p.fixed with
    | some fixed =>
      rw [hfixed] at h
      cases h
      exact ⟨hp _ hfixed, hc⟩
    | none =>
      rw [hfixed] at h
      obtain ⟨hread, hrest⟩ := Engine.read_ok hc h
      exact ⟨he _ _ hread, hrest⟩

theorem matchers_read {R : Matcher → Prop} (hg : g.Closed)
    (he : ∀ source m, g.engine.compile? source = some m → R m) (id : Nat) :
    ∀ m ∈ (g.rule id).matchers, R m := by
  intro m hm
  obtain ⟨pattern, hread⟩ := (hg.rule_fits id).read m hm
  exact he pattern m hread

theorem nextMatch_checks (hg : g.Closed) (he : g.engine.InBounds) (hpos : pos ≤ text.size)
    {stack : Stack} (hs : stack.Placed g) :
    Checks g (nextMatch g text pos stack) (g.nextMatch text pos stack)
      fun found? => ∀ found ∈ found?, found.Usable g text stack := by
  have htop := hs.rule_lt _ stack.top_mem_frames
  have hnone : ∀ found ∈ (none : Option Found), found.Usable g text stack := by simp
  have hrule : ∀ id ∈ g.candidatesOf stack.top.rule, ∀ matcher ∈ (g.rule id).matcher?,
      ∀ groups ∈ matcher.search text pos, Found.Usable g text stack ⟨.rule id, groups⟩ := by
    intro id hid matcher hmatcher groups hgroups
    refine ⟨fun i span hspan => ?_, ?_, by simp [Found.Ends]⟩
    · have hin : matcher.InBounds := matchers_read hg he id matcher (Rule.mem_matchers hmatcher)
      exact hin text pos groups hgroups i span hspan
    · intro other hother
      cases hother
      exact hg.candidatesOf_lt _ id hid
  have hbest := bestRule_eq hpos (hg.candidatesOf_lt stack.top.rule)
  unfold nextMatch Grammar.nextMatch
  simp only [candidatesOf_eq hg htop, rule_eq htop, pure_bind]
  rcases hr : g.rule stack.top.rule with _ | _ | ⟨opening, _ | stop, stops, last⟩ | _
  · rw [hbest]; exact .pure (Grammar.bestRule_holds hrule hnone)
  · rw [hbest]; exact .pure (Grammar.bestRule_holds hrule hnone)
  · rw [hbest]; exact .pure (Grammar.bestRule_holds hrule hnone)
  · have hends : (g.rule stack.top.rule).ends = true := by rw [hr]; rfl
    have hfixed : ∀ m ∈ stop.fixed, m.InBounds := fun m hm =>
      matchers_read hg he _ m (Rule.mem_matchers_edge (congrArg Rule.edge? hr) hm)
    have hregion := check_eq (Option.isSome_iff_ne_none.2 (hs.pop_ne_none hends)) .region
    simp only [hregion, pure_bind]
    refine (edgeMatcher_checks he stop hfixed _).bind fun matcher hmatcher => ?_
    rw [search_eq _ hpos, pure_bind]
    have hstop : ∀ groups ∈ matcher.search text pos, Found.Usable g text stack ⟨.stop, groups⟩ :=
      fun groups hgroups => ⟨hmatcher text pos groups hgroups, by simp, fun _ => hends⟩
    simp only [hbest, pure_bind]
    split
    · exact .pure (Grammar.better_holds (Grammar.bestRule_holds hrule hnone) hstop)
    · exact .pure (Grammar.bestRule_holds hrule (Grammar.better_holds hnone hstop))
  · rw [hbest]; exact .pure (Grammar.bestRule_holds hrule hnone)

section Steps
variable {left : Rescan} {right : Highlighting.Rescan}
  (hr : ∀ text pos stack out, stack.Placed g →
    Checks g (left text pos stack out) (right text pos stack out) fun _ => True)
include hr

theorem paintGroup_checks {stack : Stack} (hs : stack.Placed g) (base : Scopes) {c : Capture}
    (hc : ∀ rule ∈ c.patterns, rule < g.ruleCount) (hspan : span.stop ≤ text.size)
    (opened : List OpenGroup) (out : Paint) :
    Checks g (paintGroup left text stack base c span opened out)
      (Captures.paintGroup right text stack base c span opened out) fun _ => True := by
  unfold paintGroup Captures.paintGroup
  obtain ⟨opened, out⟩ := Captures.closeUpTo span.start opened out
  dsimp only
  cases hrule : c.patterns with
  | none => exact .pure trivial
  | some rule =>
    -- a group in another one is cut where that one ends, so it ends no later than its own span
    have hstop : (opened.head?.elim span.stop fun group => min span.stop group.stop) ≤
        text.size := by
      cases opened.head? with
      | none => exact hspan
      | some group => exact Nat.le_trans (Nat.min_le_left _ _) hspan
    have hcut : ∀ stop ≤ text.size, slice text ⟨0, stop⟩ = pure (text.extract 0 stop) :=
      fun stop h => slice_eq ⟨Nat.zero_le stop, h⟩
    dsimp only
    cases hpush : stack.push? _ with
    | none => exact .throw rfl
    | some nested =>
      simp only [hcut _ hstop, pure_bind]
      exact (hr _ _ _ _ (hs.push (hc rule hrule) hpush)).bind fun _ _ => .pure trivial

theorem paintFrom_checks {stack : Stack} (hs : stack.Placed g) {groups : Groups}
    (hgroups : groups.Within text.size) (base : Scopes) {captures : Captures}
    (hc : ∀ rule ∈ captures.places, rule < g.ruleCount) (index : Nat) (opened : List OpenGroup)
    (out : Paint) :
    Checks g (paintFrom left text stack groups base index captures opened out)
      (Captures.paintFrom right text stack groups base index captures opened out)
      fun _ => True := by
  induction captures generalizing index opened out with
  | nil => exact .pure trivial
  | cons c rest ih =>
    have hrest : ∀ rule ∈ Captures.places rest, rule < g.ruleCount := fun rule hrule =>
      hc rule ((List.sublist_cons_self c rest).filterMap _ |>.subset hrule)
    rw [paintFrom, Captures.paintFrom]
    cases hget : groups.get? index with
    | none => exact ih hrest _ _ _
    | some span =>
      dsimp only
      split
      · exact ih hrest _ _ _
      · have hhead : ∀ rule ∈ c.patterns, rule < g.ruleCount := fun rule hrule =>
          hc rule (List.mem_filterMap.2 ⟨c, List.mem_cons_self, hrule⟩)
        exact (paintGroup_checks hr hs base hhead (hgroups index span hget).2 _ _).bind
          fun r _ => ih hrest _ _ _

theorem paint_checks {stack : Stack} (hs : stack.Placed g) {groups : Groups}
    (hgroups : groups.Within text.size) (base : Scopes) {captures : Captures}
    (hc : ∀ rule ∈ captures.places, rule < g.ruleCount) (out : Paint) :
    Checks g (paint left text stack groups base captures out)
      (Captures.paint right text stack groups base captures out) fun _ => True :=
  paintFrom_checks hr hs hgroups base hc 0 [] out

theorem openRegion_checks {stack : Stack} (hs : stack.Placed g) {found : Found}
    (hgroups : found.groups.Within text.size) (hid : id < g.ruleCount) {opening : Opening}
    (hc : ∀ rule ∈ opening.captures.places, rule < g.ruleCount) (resolved : Option String)
    (out : Paint) :
    Checks g (openRegion left text stack found id opening resolved out)
      (Grammar.openRegion right text stack found id opening resolved out)
      fun step => step.stack.Placed g := by
  refine (paint_checks hr hs hgroups _ hc out).bind fun out _ => ?_
  dsimp only
  split
  · exact .pure hs
  · cases hpush : stack.push? _ with
    | none => exact .throw rfl
    | some nested => exact .pure (hs.push hid hpush)

theorem closeRegion_checks (hg : g.Closed) {stack : Stack} (hs : stack.Placed g) {found : Found}
    (hgroups : found.groups.Within text.size) (hends : (g.rule stack.top.rule).ends = true)
    (out : Paint) :
    Checks g (closeRegion g left text pos stack found out)
      (g.closeRegion right text pos stack found out) fun step => step.stack.Placed g := by
  unfold closeRegion Grammar.closeRegion
  cases hpop : stack.pop? with
  | none => exact absurd hpop (hs.pop_ne_none hends)
  | some popped =>
    obtain ⟨frame, below⟩ := popped
    obtain ⟨hframe, hbelow⟩ := hs.pop hpop
    have hc : ∀ rule ∈ (g.rule frame.rule).stopCaptures.places, rule < g.ruleCount :=
      fun rule h => (hg.rule_fits _).places_lt rule (Rule.stopCaptures_places_subset _ h)
    simp only [rule_eq hframe, pure_bind]
    refine (paint_checks hr hbelow hgroups _ hc _).bind fun out _ => ?_
    split
    · exact .pure hbelow
    · exact .pure hbelow

theorem act_checks (hg : g.Closed) {stack : Stack} (hs : stack.Placed g) {found : Found}
    (hf : found.Usable g text stack) (out : Paint) :
    Checks g (act g left text pos stack found out) (g.act right text pos stack found out)
      fun step => step.stack.Placed g := by
  unfold act Grammar.act
  cases hcandidate : found.candidate with
  | stop => exact closeRegion_checks hr hg hs hf.within (hf.ends hcandidate) out
  | rule id =>
    have hid := hf.rule_lt id hcandidate
    have hplaces := (hg.rule_fits id).places_lt
    simp only [rule_eq hid, pure_bind, resolve_eq hf.within]
    rcases hrule : g.rule id with _ | ⟨name, matcher, captures⟩ | ⟨opening, stop, stops, last⟩ |
      ⟨opening, go, goes⟩
    · exact .pure hs
    · rw [hrule] at hplaces
      refine (paint_checks hr hs hf.within _ hplaces _).bind fun out _ => ?_
      split
      · exact .pure hs
      · exact .pure hs
    · rw [hrule] at hplaces
      refine openRegion_checks hr hs hf.within hid (fun rule h => hplaces rule ?_) _ _
      exact List.mem_append_left _ (List.mem_append_right _ h)
    · rw [hrule] at hplaces
      refine openRegion_checks hr hs hf.within hid (fun rule h => hplaces rule ?_) _ _
      exact List.mem_append_left _ (List.mem_append_right _ h)

theorem walk_checks (hg : g.Closed) (he : g.engine.InBounds) (text : Text) (steps pos : Nat)
    {stack : Stack} (hs : stack.Placed g) (out : Paint) :
    Checks g (walk g left text steps pos stack out) (g.walk right text steps pos stack out)
      fun _ => True := by
  induction steps generalizing pos stack out with
  | zero =>
    rw [walk, Grammar.walk]
    split
    · exact .throw rfl
    · exact .pure trivial
  | succ steps ih =>
    rw [walk, Grammar.walk]
    split
    · next hpos =>
      refine (nextMatch_checks hg he (Nat.le_of_lt hpos) hs).bind fun found? hfound => ?_
      cases found? with
      | none => exact .pure trivial
      | some found =>
        refine (act_checks hr hg hs (hfound found rfl) out).bind fun step hnext => ?_
        cases step with
        | go pos stack out => exact ih pos hnext out
        | halt stack out => exact .pure trivial
    · exact .pure trivial

end Steps

section Lines
variable (hg : g.Closed) (he : g.engine.InBounds)
include hg he

theorem rescan_checks (nesting : Nat) (text : Text) (pos : Nat) (stack : Stack) (out : Paint)
    (hs : stack.Placed g) :
    Checks g (rescan g nesting text pos stack out) (g.rescan nesting text pos stack out)
      fun _ => True := by
  induction nesting generalizing text pos stack out with
  | zero => exact .throw rfl
  | succ nesting ih =>
    have hwalk := walk_checks ih hg he text (Grammar.stepLimit text) pos hs out
    have hscan : Checks g (scan g (nesting + 1) text pos stack out)
        (g.scan (nesting + 1) text pos stack out) fun _ => True :=
      hwalk.bind fun _ _ => .pure trivial
    exact hscan.bind fun _ _ => .pure trivial

theorem scan_checks (nesting : Nat) (text : Text) (pos : Nat) {stack : Stack} (hs : stack.Placed g)
    (out : Paint) :
    Checks g (scan g nesting text pos stack out) (g.scan nesting text pos stack out)
      fun _ => True := by
  cases nesting with
  | zero => exact .throw rfl
  | succ nesting =>
    have hr := rescan_checks hg he nesting
    have hwalk := walk_checks hr hg he text (Grammar.stepLimit text) pos hs out
    exact hwalk.bind fun _ _ => .pure trivial

theorem keepOpen_checks (nesting : Nat) {stack : Stack} (hs : stack.Placed g) {rest : List Frame}
    (hrest : ∀ f ∈ rest, f.rule < g.ruleCount) (kept : List Frame) (hpos : pos ≤ text.size)
    (out : Paint) :
    Checks g (keepOpen g (rescan g nesting) text stack rest kept pos out)
      (g.keepOpen (g.rescan nesting) text stack rest kept pos out) fun _ => True := by
  induction rest generalizing kept pos out with
  | nil => exact .pure trivial
  | cons frame rest ih =>
    obtain ⟨hframe, hrest⟩ := List.forall_mem_cons.1 hrest
    rw [keepOpen, Grammar.keepOpen]
    simp only [rule_eq hframe, pure_bind]
    have hplaces := (hg.rule_fits frame.rule).places_lt
    rcases hrule : g.rule frame.rule with _ | _ | _ | ⟨opening, go, captures⟩
    · exact ih hrest _ hpos _
    · exact ih hrest _ hpos _
    · exact ih hrest _ hpos _
    · rw [hrule] at hplaces
      have hfixed : ∀ m ∈ go.fixed, m.InBounds := fun m hm =>
        matchers_read hg he _ m (Rule.mem_matchers_edge (congrArg Rule.edge? hrule) hm)
      refine (edgeMatcher_checks he go hfixed _).bind fun matcher hmatcher => ?_
      simp only [search_eq matcher hpos, pure_bind]
      cases hfound : (matcher.search text pos).filter fun groups => groups.whole.start == pos with
      | none => exact .pure trivial
      | some groups =>
        have hgroups : groups.Within text.size :=
          hmatcher text pos groups (Option.filter_eq_some_iff.1 hfound).1
        have hc : ∀ rule ∈ captures.places, rule < g.ruleCount := fun rule h =>
          hplaces rule (List.mem_append_right _ h)
        refine (paint_checks (rescan_checks hg he nesting) hs hgroups _ hc _).bind fun out _ => ?_
        exact ih hrest _ (hgroups 0 _ rfl).2 _

theorem scanLine_checks (nesting : Nat) (line : List Char) {stack : Stack} (hs : stack.Nested g) :
    Checks g (scanLine g nesting line stack) (g.scanLineWithin nesting line stack) fun r =>
      r.2.Nested g ∧ ∀ span ∈ r.1, span.start ≤ span.stop ∧ span.stop ≤ line.length := by
  have hregions : ∀ f ∈ stack.regions.reverse, f.rule < g.ruleCount := fun f hf =>
    (hs.placed hg).rule_lt f (List.mem_append_left _ (List.mem_reverse.1 hf))
  have hscan : Checks g (scanLine g nesting line stack) (g.scanLineWithin nesting line stack)
      fun _ => True := by
    refine ((keepOpen_checks hg he nesting (hs.placed hg) hregions [] (Nat.zero_le _) _).and_ensures
      (Grammar.keepOpen_suffix _ _ stack _ [] 0 _)).bind fun r hr => ?_
    obtain ⟨-, left, hleft, hstack⟩ := hr
    rw [List.reverse_reverse, List.append_nil] at hleft
    have hafter : r.2.1.Nested g := hstack ▸ hs.suffix hleft
    exact (scan_checks hg he nesting _ _ (hafter.placed hg) _).bind fun _ _ => .pure trivial
  have hspans : ScanM.Ensures (g.scanLineWithin nesting line stack) fun r =>
      ∀ span ∈ r.1, span.start ≤ span.stop ∧ span.stop ≤ line.length := by
    refine (Grammar.scanLine_keeps (Paint.upTo_within line.length) nesting line stack
      ⟨rfl, nofun⟩).imp fun r hr => ?_
    obtain ⟨p, scopes, hp, he⟩ := hr
    intro span hspan
    rw [he, Paint.pieces, List.mem_reverse] at hspan
    exact (Paint.upTo_within line.length p _ scopes hp).spans span hspan
  exact (hscan.and_ensures ((Grammar.scanLine_atBoundary nesting line hs).and hspans)).imp
    fun r hr => ⟨hr.2.1.toNested, hr.2.2⟩

theorem tokenLine_checks (nesting number : Nat) (line : List Char) {stack : Stack}
    (hs : stack.Nested g) :
    Checks g (tokenLine g nesting number line stack)
      (do let (spans, stack) ← g.scanLineWithin nesting line stack
          return (spans.map (Token.ofSpan number), stack)) fun r => r.2.Nested g := by
  refine (scanLine_checks hg he nesting line hs).bind fun r hr => ?_
  simp only [tokens_eq hr.2, pure_bind]
  exact .pure hr.1

/-- A checked scan of lines comes to what a scan of them comes to, or to a fault. -/
theorem scanLines_checks (nesting : Nat) (lines : List String) (number : Nat) {stack : Stack}
    (hs : stack.Nested g) {cache : PatternCache} (hc : cache.Sound g.engine) :
    ∃ result : Except (Nat × ScanFault) (List (List Token) × List Stack),
      scanLines g nesting number stack lines cache =
        result.mapError (fun e => (e.1, .fault e.2)) ∧
      (nesting = g.engine.room → g.scanLines number stack lines cache =
        result.mapError fun e => .tokenize e.1 e.2) := by
  induction lines generalizing number stack cache with
  | nil => exact ⟨.ok ([], []), rfl, fun _ => rfl⟩
  | cons text rest ih =>
    have hsame : nesting = g.engine.room → g.scanLine text.toList stack cache =
        g.scanLineWithin nesting text.toList stack cache := fun hn => hn ▸ rfl
    have htokens := (tokenLine_checks hg he nesting number text.toList hs).eq cache hc
    rw [ScanM.bind_apply] at htokens
    rw [scanLines, Grammar.scanLines, htokens]
    cases hscan : g.scanLineWithin nesting text.toList stack cache with
    | error fault =>
      refine ⟨.error (number, fault), rfl, fun hn => ?_⟩
      rw [hsame hn, hscan]
      rfl
    | ok r =>
      obtain ⟨⟨spans, after⟩, cache'⟩ := r
      obtain ⟨⟨hafter, -⟩, hc'⟩ :=
        (scanLine_checks hg he nesting text.toList hs).result cache hc _ _ hscan
      obtain ⟨result, hchecked, hplain⟩ := ih (number + 1) hafter hc'
      refine ⟨result.map fun r => (spans.map (Token.ofSpan number) :: r.1, after :: r.2), ?_,
        fun hn => ?_⟩
      · change (scanLines g nesting (number + 1) after rest cache').bind _ = _
        rw [hchecked]
        cases result <;> rfl
      · rw [hsame hn, hscan]
        change (g.scanLines (number + 1) after rest cache').bind _ = _
        rw [hplain hn]
        cases result <;> rfl

end Lines

/-- Whatever the lines, and however deep scans lie in each other, a checked scan from a boundary
between lines never stops for want of what it reaches for. So a scan gives what the checked one
gives, and where it fails it fails at a line. -/
theorem scanLines_never_breach (engine : Engine) (he : engine.InBounds) (library : Library)
    (file : String) (g : Grammar) (asked : List String)
    (hcompile : Grammar.compile engine library file = (.ok g, asked)) (first : Nat)
    (earlier : List String) (before : PatternCache) (tokens : List (List Token))
    (ends : List Stack)
    (hearlier : g.scanLines first (.initial g) earlier before = .ok (tokens, ends))
    (stack : Stack) (hstack : stack ∈ Stack.initial g :: ends) (number : Nat) (lines : List String)
    (cache : PatternCache) (hcache : cache.Sound engine) :
    (∀ nesting line breach,
      scanLines g nesting number stack lines cache ≠ .error (line, .breach breach)) ∧
    ((∃ r, scanLines g g.engine.room number stack lines cache = .ok r ∧
        g.scanLines number stack lines cache = .ok r) ∨
      ∃ line fault,
        scanLines g g.engine.room number stack lines cache = .error (line, .fault fault) ∧
        g.scanLines number stack lines cache = .error (.tokenize line fault)) := by
  obtain ⟨hg, rfl, -⟩ := Compile.closed_of_compile hcompile
  have hs : stack.Nested g := by
    obtain rfl | hmem := List.mem_cons.1 hstack
    · exact Stack.initial_nested g
    · exact ((Grammar.scanLines_atBoundary (Stack.initial_nested g) hearlier).1 stack hmem).toNested
  constructor
  · intro nesting line breach hbreach
    obtain ⟨result, hchecked, -⟩ := scanLines_checks hg he nesting lines number hs hcache
    rw [hchecked] at hbreach
    cases result <;> cases hbreach
  · obtain ⟨result, hchecked, hplain⟩ :=
      scanLines_checks hg he g.engine.room lines number hs hcache
    rw [hchecked, hplain rfl]
    cases result with
    | ok r => exact .inl ⟨r, rfl, rfl⟩
    | error e => exact .inr ⟨e.1, e.2, rfl, rfl⟩

theorem scanLines_never_breach_marked :
    let g := Sample.marked
    let root : Frame := ⟨0, ["source.m"], ["source.m"], none, none⟩
    let opened : Stack := ⟨root, [⟨1, ["source.m"], ["source.m"], some "^kk", none⟩]⟩
    let tokens : List (List Token) := [[⟨["source.m"], 0, 0, 1⟩, ⟨["source.m"], 0, 1, 1⟩,
      ⟨["source.m", "keyword.m"], 0, 2, 1⟩, ⟨["source.m", "keyword.m"], 0, 3, 1⟩]]
    Pattern.engine.InBounds ∧
      Grammar.compile Pattern.engine Sample.markedFile "source.m" = (.ok g, []) ∧
      g.scanLines 0 (.initial g) ["é<kk"] {} = .ok (tokens, [opened]) ∧
      (∀ nesting line breach,
        scanLines g nesting 1 opened ["kk é"] {} ≠ .error (line, .breach breach)) ∧
      g.scanLines 1 opened ["kk é"] {} =
        .ok ([[⟨["source.m"], 1, 0, 2⟩, ⟨["source.m"], 1, 2, 2⟩]], [.initial g]) := by
  intro g root opened tokens
  have hcompile : Grammar.compile Pattern.engine Sample.markedFile "source.m" = (.ok g, []) := by
    unfold g
    cbv
  have hearlier : g.scanLines 0 (.initial g) ["é<kk"] {} = .ok (tokens, [opened]) := by
    unfold g tokens opened root
    cbv
  have hinside := scanLines_never_breach Pattern.engine Pattern.engine_inBounds
    Sample.markedFile _ g [] hcompile 0 ["é<kk"] {} tokens [opened] hearlier opened
    (List.mem_cons_of_mem _ List.mem_cons_self) 1 ["kk é"] {} (PatternCache.sound_empty _)
  refine ⟨Pattern.engine_inBounds, hcompile, hearlier, hinside.1, ?_⟩
  unfold g opened root
  cbv

/-- A rule that is not there is a breach. -/
example : scanLines { Sample.grammar with candidates := #[[7], []] } 1 0 (.initial Sample.grammar)
    ["k"] {} = .error (0, .breach (.rule 7)) := by
  cbv

end Checked

end Highlighting
