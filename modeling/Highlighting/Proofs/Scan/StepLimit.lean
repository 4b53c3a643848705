import Highlighting.Proofs.Sample
import Highlighting.Proofs.Scan.Discipline
import Highlighting.Proofs.Scan.Onward
import Highlighting.Proofs.Scan.Reading
import Highlighting.Proofs.Text.Utf8

/-!
How many matches a scan takes. A match that takes no text ends a region that was opened further back
or opens one, so what counts is how many can be opened in each other at one place.
-/
namespace Highlighting
open ScanM

namespace Grammar
variable (g : Grammar)

/-- What opens a region of the rule is found at a place itself, and takes no text. -/
def OpensEmpty (text : Text) (pos rule : Nat) : Prop :=
  ∃ opening groups, (g.rule rule).opening? = some opening ∧
    opening.matcher.search text pos = some groups ∧ groups.whole = ⟨pos, pos⟩

/-- Regions that can be opened at one place one in the other, innermost first. -/
structure OpenTogether (text : Text) (pos : Nat) (rules : List Nat) : Prop where
  empty : ∀ rule ∈ rules, g.OpensEmpty text pos rule
  inside : rules.IsChain fun inner outer => inner ∈ g.candidatesOf outer ∧ inner ≠ outer

/-- No more than `most` regions can be opened together, as far as a stack has room. -/
def OpensAtMost (text : Text) (most : Nat) : Prop :=
  ∀ pos rules, g.OpenTogether text pos rules → rules.length < Stack.maxDepth → rules.length ≤ most

/-- The innermost regions of a stack, which were opened at the place where the scan is. -/
structure OpenedHere (text : Text) (pos : Nat) (stack : Stack) (here : List Frame) : Prop where
  innermost : ∃ below, stack.regions = here ++ below
  enteredAt : ∀ f ∈ here, f.enteredAt = some pos
  together : g.OpenTogether text pos (here.map Frame.rule)

structure FoundAhead (text : Text) (pos : Nat) (stack : Stack) (found : Found) : Prop where
  start_le : pos ≤ found.start
  stop_le : found.start ≤ found.stop ∧ found.stop ≤ text.size
  tried : ∀ rule, found.candidate = .rule rule → rule ∈ g.candidatesOf stack.top.rule ∧
    ∃ m, (g.rule rule).matcher? = some m ∧ m.search text pos = some found.groups

/-- A bound on the matches that a scan can still take. Each place has room for `most` regions that
are opened there, `here` of which have been. -/
def potential (text : Text) (most pos : Nat) (stack : Stack) (here : List Frame) : Nat :=
  2 * (text.size - pos) + stack.regions.length + 2 * (most - here.length) +
    2 * (most * (text.size - 1 - pos))

variable {g} {text : Text} {most pos : Nat} {stack after : Stack} {found : Found}
  {here : List Frame}

theorem mul_room_le (most : Nat) {size next : Nat} (hlt : pos < next) (hnext : next < size) :
    most * (size - 1 - next) + most ≤ most * (size - 1 - pos) := by
  rw [← Nat.mul_succ]
  exact Nat.mul_le_mul_left most (by omega)

theorem potential_nil_lt (hlt : pos < found.stop) (hnext : found.stop < text.size)
    (hdepth : after.regions.length ≤ stack.regions.length + 1) :
    potential text most found.stop after [] < potential text most pos stack here := by
  have hroom := mul_room_le most hlt hnext
  simp only [potential, List.length_nil]
  omega

theorem Leads.length_le (h : g.Leads pos stack found after) :
    after.regions.length ≤ stack.regions.length + 1 := by
  cases h with
  | past | container => exact Nat.le_succ _
  | close hpop => exact Nat.le_succ_of_le (Nat.le_of_succ_le_succ (Stack.frames_of_pop hpop).2.2)
  | enter _ _ _ hpush =>
    rw [Stack.regions_of_push hpush]
    exact Nat.le_refl _

theorem OpenedHere.nil : g.OpenedHere text pos stack [] :=
  ⟨⟨_, rfl⟩, nofun, nofun, .nil⟩

theorem OpenedHere.top (h : g.OpenedHere text pos stack here) {frame : Frame}
    (hframe : here.head? = some frame) : stack.top = frame ∧ frame.enteredAt = some pos := by
  obtain ⟨⟨below, hregions⟩, hentered, -⟩ := h
  obtain ⟨rest, rfl⟩ := List.head?_eq_some_iff.1 hframe
  refine ⟨?_, hentered frame List.mem_cons_self⟩
  rw [Stack.top, hregions]
  rfl

theorem OpenedHere.enter (h : g.OpenedHere text pos stack here)
    (hf : g.FoundAhead text pos stack found) (hempty : found.groups.whole = ⟨pos, pos⟩) {rule : Nat}
    {opening : Opening} {frame : Frame} (hrule : found.candidate = .rule rule)
    (hopening : (g.rule rule).opening? = some opening)
    (hframe : frame.rule = rule ∧ frame.enteredAt = some found.start)
    (hpush : stack.push? frame = some after)
    (hnew : ¬(found.start = found.stop ∧ stack.top.rule = rule ∧
      stack.top.enteredAt = some found.start)) :
    g.OpenedHere text pos after (frame :: here) := by
  have hstart : found.start = pos := congrArg Span.start hempty
  have hstop : found.stop = pos := congrArg Span.stop hempty
  obtain ⟨hcandidate, m, hm, hsearch⟩ := hf.tried rule hrule
  obtain rfl := hframe.1
  refine ⟨?_, List.forall_mem_cons.2 ⟨hstart ▸ hframe.2, h.enteredAt⟩, ?_, ?_⟩
  · obtain ⟨below, hregions⟩ := h.innermost
    exact ⟨below, (Stack.regions_of_push hpush).trans (congrArg (frame :: ·) hregions)⟩
  · rw [Rule.matcher?_of_opening? hopening] at hm
    cases hm
    exact List.forall_mem_cons.2
      ⟨⟨opening, found.groups, hopening, hsearch, hempty⟩, h.together.empty⟩
  · refine List.IsChain.cons h.together.inside fun outer houter => ?_
    rw [List.head?_map, Option.mem_def, Option.map_eq_some_iff] at houter
    obtain ⟨f, hhead, rfl⟩ := houter
    obtain ⟨htop, hentered⟩ := h.top hhead
    subst htop
    exact ⟨hcandidate, fun heq => hnew ⟨hstart.trans hstop.symm, heq.symm, hstart ▸ hentered⟩⟩

/-- A match leaves less to do: it takes text, ends a region, or uses some of the room for regions
that are opened where it stands. -/
theorem Leads.potential_lt (h : g.Leads pos stack found after)
    (hf : g.FoundAhead text pos stack found) (hm : g.OpensAtMost text most)
    (hhere : g.OpenedHere text pos stack here) (hnext : found.stop < text.size) :
    ∃ here', g.OpenedHere text found.stop after here' ∧
      potential text most found.stop after here' < potential text most pos stack here := by
  by_cases hlt : pos < found.stop
  · exact ⟨[], .nil, potential_nil_lt hlt hnext h.length_le⟩
  have hstop : found.stop = pos :=
    Nat.le_antisymm (Nat.le_of_not_lt hlt) (Nat.le_trans hf.start_le hf.stop_le.1)
  have hstart : found.start = pos :=
    Nat.le_antisymm (hstop ▸ hf.stop_le.1) hf.start_le
  rw [hstop]
  cases h with
  | past hpast => exact absurd hpast hlt
  | container hrule hnone =>
    obtain ⟨-, m, hsome, -⟩ := hf.tried _ hrule
    rw [hnone] at hsome
    cases hsome
  | close hpop hnew =>
    -- the region that ends was opened elsewhere, so none has been opened here
    have hnil : here = [] := by
      cases here with
      | nil => rfl
      | cons f rest =>
        obtain ⟨htop, hentered⟩ := hhere.top rfl
        rw [Stack.top_of_pop hpop] at htop
        exact absurd ⟨hstop, htop ▸ hentered⟩ hnew
    subst hnil
    refine ⟨[], .nil, ?_⟩
    simp only [potential, Stack.regions_of_pop hpop, List.length_cons]
    omega
  | enter hrule hopening hframe hpush hnew =>
    have hempty : found.groups.whole = ⟨pos, pos⟩ :=
      congr (congrArg Span.mk hstart) hstop
    have hmore := hhere.enter hf hempty hrule hopening hframe hpush hnew
    refine ⟨_, hmore, ?_⟩
    obtain ⟨below, hregions⟩ := hmore.innermost
    have hdepth : after.regions.length + 1 ≤ Stack.maxDepth := (Stack.frames_of_push hpush).2.2
    have hlength := congrArg List.length hregions
    have hmost := hm pos _ hmore.together
    simp only [List.length_map, List.length_append, List.length_cons] at hlength hmost
    have hroom := hmost (by omega)
    simp only [potential, Stack.regions_of_push hpush, List.length_cons]
    omega

theorem opensAtMost_one (h : ∀ pos inner outer, ¬g.OpenTogether text pos [inner, outer]) :
    g.OpensAtMost text 1 := by
  intro pos rules hrules _
  match rules with
  | [] | [_] => simp
  | inner :: outer :: rest =>
    refine absurd ⟨?_, ?_⟩ (h pos inner outer)
    · exact fun rule hrule => hrules.empty rule (List.mem_append_left rest hrule)
    · exact hrules.inside.prefix ⟨rest, rfl⟩

/-- A fault, where the want of progress is taken for another one. -/
def maskProgress (fault : ScanFault) : ScanFault :=
  if fault = .noProgress then .tooDeep else fault

theorem maskProgress_ne : maskProgress .noProgress ≠ .noProgress := by decide

section Progress
variable (hg : g.Closed) (hin : g.engine.InBounds) (hforward : g.engine.Forward)
include hg hin hforward

theorem nextMatch_ahead (text : Text) (pos : Nat) (stack : Stack) :
    Lockstep (PatternCache.Sound g.engine) maskProgress (g.nextMatch text pos stack)
      (g.nextMatch text pos stack) fun found? =>
        ∀ found ∈ found?, g.FoundAhead text pos stack found := by
  have hread := nextMatch_read hg
    (fun source m hm => And.intro (hin source m hm) (hforward source m hm)) text pos stack
  refine (hread.with_faults (nextMatch_alike (fun _ => rfl) text pos stack)).imp ?_
  intro found? h found hfound
  obtain ⟨m, ⟨hbounds, hahead⟩, hsearch, htried⟩ := h found hfound
  refine ⟨hahead text pos _ hsearch, hbounds text pos _ hsearch 0 _ rfl, fun rule hrule => ?_⟩
  exact ⟨(htried rule hrule).1, m, (htried rule hrule).2, hsearch⟩

def progressing (text : Text) : Discipline g where
  copy := maskProgress
  sound := PatternCache.Sound g.engine
  text t := ∃ cut, t = text.extract 0 cut
  found _ _ _ := True
  place _ := True
  scopes _ _ := True
  stack _ s := s.depth ≤ Stack.maxDepth
  paint _ := True
  tooDeep := rfl
  exhausted := rfl
  place_le _ _ := trivial
  cut h stop := begins_extract h stop
  size _ := trivial
  next _ _ pos := (nextMatch_ahead hg hin hforward _ pos _).imp fun _ _ _ _ => trivial
  edge _ _ _ _ _ hrule :=
    ((edgeMatcher_read hg (fun _ _ _ => trivial) (congrArg Rule.edge? hrule) _).with_faults
      (edgeMatcher_alike (fun _ => rfl) _ _)).imp fun _ _ _ _ _ _ _ _ => ⟨trivial, trivial⟩
  groups _ _ _ _ _ := ⟨trivial, trivial⟩
  enter _ _ := trivial
  scopes_further _ _ := trivial
  stack_further _ h := h
  top _ := trivial
  push hp _ _ _ := (Stack.frames_of_push hp).2.2
  pop _ hs _ _ hp := ⟨trivial, trivial, Nat.le_trans (Stack.frames_of_pop hp).2.2 hs⟩
  upTo _ _ _ := trivial

/-- A scan that may take as many matches as are left to do takes no more. -/
theorem walk_progresses {line : Text} {rescan : Rescan}
    (hr : (progressing hg hin hforward line).Rescans text rescan)
    (ht : (progressing hg hin hforward line).text text) (hm : g.OpensAtMost text most)
    (steps : Nat) :
    ∀ (pos : Nat) (stack : Stack) (p : Paint), stack.depth ≤ Stack.maxDepth →
      (pos < text.size → ∃ here, g.OpenedHere text pos stack here ∧
        potential text most pos stack here ≤ steps) →
      (progressing hg hin hforward line).Runs (g.walk rescan text steps pos stack p) fun r =>
        r.1.depth ≤ Stack.maxDepth ∧ (progressing hg hin hforward line).From p r.2 := by
  induction steps with
  | zero =>
    intro pos stack p hs hleft
    rw [walk]
    split
    · next hpos =>
      obtain ⟨here, -, hle⟩ := hleft hpos
      unfold potential at hle
      omega
    · exact .pure ⟨hs, .refl p, trivial⟩
  | succ steps ih =>
    intro pos stack p hs hleft
    rw [walk]
    split
    · next hpos =>
      obtain ⟨here, hhere, hle⟩ := hleft hpos
      refine (nextMatch_ahead hg hin hforward text pos stack).bind fun found? hfound => ?_
      cases found? with
      | none => exact .pure ⟨hs, .refl p, trivial⟩
      | some found =>
        have hact : (progressing hg hin hforward line).Runs (g.act rescan text pos stack found p)
            ((progressing hg hin hforward line).After p) :=
          Discipline.act_from hr ht pos hs trivial trivial
        refine (hact.and_ensures (act_onward rescan text pos stack found p)).bind
          fun step hstep => ?_
        obtain ⟨⟨hdepth, hgo⟩, honward⟩ := hstep
        cases step with
        | halt stack out => exact .pure ⟨hdepth, hgo⟩
        | go next after out =>
          obtain ⟨rfl, hleads⟩ := leads_of_onward honward
          refine (ih _ after out hdepth fun hnext => ?_).imp fun _ => .imp_right hgo.trans
          obtain ⟨here', hhere', hlt⟩ :=
            hleads.potential_lt (hfound found rfl) hm hhere hnext
          exact ⟨here', hhere', by omega⟩
    · exact .pure ⟨hs, .refl p, trivial⟩

theorem walks_progress {line : Text} (hm : ∀ cut, g.OpensAtMost (line.extract 0 cut) most)
    {limit : Text → Nat} (hlimit : ∀ t : Text, (2 * most + 2) * t.size + Stack.maxDepth ≤ limit t) :
    (progressing hg hin hforward line).Walks limit := by
  intro rescan text hr ht pos stack p hs _
  obtain ⟨cut, rfl⟩ := ht
  refine walk_progresses hg hin hforward hr ⟨cut, rfl⟩ (hm cut) _ pos stack p hs fun hpos => ?_
  refine ⟨[], .nil, ?_⟩
  generalize line.extract 0 cut = text at hpos
  have hdepth : stack.regions.length + 1 ≤ Stack.maxDepth := hs
  have hlast := hlimit text
  have hroom : most * (text.size - 1 - pos) + most ≤ most * text.size := by
    rw [← Nat.mul_succ]
    exact Nat.mul_le_mul_left most (by omega)
  rw [Nat.add_mul, Nat.mul_assoc] at hlast
  simp only [potential, List.length_nil]
  omega

theorem scanLimited_progresses (hm : ∀ cut, g.OpensAtMost (text.extract 0 cut) most)
    {limit : Text → Nat} (hlimit : ∀ t : Text, (2 * most + 2) * t.size + Stack.maxDepth ≤ limit t)
    (nesting pos : Nat) {stack : Stack} (hs : stack.depth ≤ Stack.maxDepth) (out : Paint)
    {cache : PatternCache} (hc : cache.Sound g.engine) :
    g.scanLimited limit nesting text pos stack out cache ≠ .error .noProgress := by
  have ht : (progressing hg hin hforward text).text text := ⟨text.size, by simp⟩
  have hends := Discipline.scanLimited_ends (walks_progress hg hin hforward hm hlimit) nesting
  have hmask : (progressing hg hin hforward text).copy .noProgress ≠ .noProgress := maskProgress_ne
  exact (hends text ht pos stack out hs trivial).ne_error hmask hc

theorem scanLine_progresses {line : List Char}
    (hm : ∀ cut, g.OpensAtMost ((line ++ ['\n']).toArray.extract 0 cut) 1) {stack : Stack}
    (hs : stack.depth ≤ Stack.maxDepth) :
    Lockstep (PatternCache.Sound g.engine) maskProgress (g.scanLine line stack)
      (g.scanLine line stack) fun _ => True := by
  have hw : (progressing hg hin hforward (line ++ ['\n']).toArray).Walks stepLimit := by
    refine walks_progress hg hin hforward hm fun t => ?_
    have hsize := Utf8.length_le_size t.toList
    rw [Array.length_toList] at hsize
    unfold stepLimit
    omega
  have ht : (progressing hg hin hforward (line ++ ['\n']).toArray).text (line ++ ['\n']).toArray :=
    ⟨(line ++ ['\n']).toArray.size, by simp⟩
  have hkeep := Discipline.keepOpen_from hw g.engine.room ht stack.regions.reverse [] 0
    (.fresh line.length) hs (fun _ _ => trivial) trivial
  unfold scanLine scanLineWithin
  refine (hkeep.and_ensures (keepOpen_suffix _ _ stack _ [] 0 _)).bind fun r hr => ?_
  obtain ⟨hgo, left, hleft, hstack⟩ := hr
  rw [List.reverse_reverse, List.append_nil] at hleft
  have hdepth : r.2.1.depth ≤ Stack.maxDepth := by
    rw [hstack]
    exact (Nat.succ_le_succ hleft.length_le).trans hs
  exact (Discipline.scan_ends hw g.engine.room ht _ hdepth hgo.paint).bind fun _ _ => .pure trivial

theorem scanLines_progress {lines : List String}
    (hm : ∀ line ∈ lines, ∀ cut, g.OpensAtMost ((line.toList ++ ['\n']).toArray.extract 0 cut) 1)
    (first : Nat) {stack : Stack} (hs : stack.Nested g) {cache : PatternCache}
    (hc : cache.Sound g.engine) (number : Nat) :
    g.scanLines first stack lines cache ≠ .error (.tokenize number .noProgress) := by
  induction lines generalizing first stack cache with
  | nil =>
    intro h
    cases h
  | cons line rest ih =>
    obtain ⟨hline, hrest⟩ := List.forall_mem_cons.1 hm
    have hscan := scanLine_progresses hg hin hforward hline hs.depth_le
    rw [scanLines]
    split
    · next fault hfault =>
      intro h
      cases h
      exact hscan.ne_error maskProgress_ne hc hfault
    · next spans after cache' hok =>
      have hafter := (scanLine_atBoundary g.engine.room line.toList hs).result _ _ _ hok
      have hmore := ih hrest (first + 1) hafter.toNested (hscan.result cache hc _ _ hok).2
      cases hr : g.scanLines (first + 1) after rest cache' with
      | error failure =>
        rw [hr] at hmore
        exact hmore
      | ok r =>
        intro h
        cases h

end Progress

/-- No scan stops for want of progress that may take two matches for each character, and two more
for each region that can be opened together with others there. That many there can always be as are
as many as a stack has room for; and where it is one at most, the limit there is suffices, whatever
lines come one after the other. -/
theorem step_limit_suffices (engine : Engine) (hin : engine.InBounds) (hforward : engine.Forward)
    (library : Library) (file : String) (g : Grammar) (asked : List String)
    (hcompile : Grammar.compile engine library file = (.ok g, asked)) :
    (∀ (text : Text) (most : Nat), (∀ cut, g.OpensAtMost (text.extract 0 cut) most) →
      ∀ limit : Text → Nat, (∀ t : Text, (2 * most + 2) * t.size + Stack.maxDepth ≤ limit t) →
      ∀ nesting pos stack out cache, stack.depth ≤ Stack.maxDepth → cache.Sound engine →
        g.scanLimited limit nesting text pos stack out cache ≠ .error .noProgress) ∧
    (∀ text, g.OpensAtMost text (Stack.maxDepth - 1)) ∧
    g.scanLimited stepLimit = g.scan ∧
    ∀ lines : List String, (∀ line ∈ lines, ∀ cut pos inner outer,
      ¬g.OpenTogether ((line.toList ++ ['\n']).toArray.extract 0 cut) pos [inner, outer]) →
      ∀ first stack cache, stack.Nested g → cache.Sound engine →
      ∀ number, g.scanLines first stack lines cache ≠ .error (.tokenize number .noProgress) := by
  obtain ⟨hg, rfl, -⟩ := Compile.closed_of_compile hcompile
  refine ⟨?_, fun _ _ _ _ hlt => Nat.le_sub_one_of_lt hlt, g.scanLimited_stepLimit, ?_⟩
  · intro text most hm limit hlimit nesting pos stack out cache hs hc
    exact scanLimited_progresses hg hin hforward hm hlimit nesting pos hs out hc
  · intro lines hone first stack cache hs hc
    refine scanLines_progress hg hin hforward (fun line hline cut => ?_) first hs hc
    exact opensAtMost_one (hone line hline cut)

theorem scanLine_of_walk (hroom : 0 < g.engine.room) {line : List Char} {cache : PatternCache}
    {fault : ScanFault}
    (h : ∀ rescan out, g.walk rescan (line ++ ['\n']).toArray (stepLimit (line ++ ['\n']).toArray) 0
      (.initial g) out cache = .error fault) :
    g.scanLine line (.initial g) cache = .error fault := by
  have hscan (nesting out) :
      g.scan (nesting + 1) (line ++ ['\n']).toArray 0 (.initial g) out cache = .error fault := by
    simp only [scan, bind_apply, h]
    rfl
  have hkeep : g.keepOpen (g.rescan g.engine.room) (line ++ ['\n']).toArray (.initial g)
      (Stack.initial g).regions.reverse [] 0 (.fresh line.length) =
      pure (0, .initial g, .fresh line.length) := rfl
  rw [scanLine, scanLineWithin, hkeep, pure_bind, ← Nat.sub_add_cancel hroom]
  dsimp only
  rw [bind_apply, hscan]
  rfl

section Tower

def towerLine : List Char := (List.replicate 52 ['a', 'b']).flatten

def towerText : Text := (towerLine ++ ['\n']).toArray

def towerFrames (pos : Nat) : Nat → List Frame
  | 0 => []
  | level + 1 => ⟨level + 1, ["source.t"], ["source.t"], none, some pos⟩ :: towerFrames pos level

def towerStack (pos level : Nat) : Stack :=
  ⟨(Stack.initial (Sample.tower 8)).root, towerFrames pos level⟩

theorem towerText_at (i : Nat) (h : i < 52) :
    towerText[2 * i]? = some 'a' ∧ towerText[2 * i + 1]? = some 'b' := by
  simp only [towerText, towerLine, List.getElem?_toArray]
  revert i
  decide

theorem towerText_size : towerText.size = 105 := rfl

theorem tower_level (level : Nat) (h : level < 8) :
    (Sample.tower 8).rule (level + 1) = Sample.region (level + 2) ∧
      (Sample.tower 8).candidatesOf (level + 1) = [level + 2] := by
  interval_cases level <;> exact ⟨rfl, rfl⟩

variable {text : Text} {c : Char} {pos i : Nat}

abbrev firstFrom (c : Char) (text : Text) (pos : Nat) : Option Nat :=
  (List.range text.size).find? fun i => decide (pos ≤ i) && text[i]? == some c

theorem firstFrom_some (h : firstFrom c text pos = some i) : pos ≤ i ∧ i < text.size := by
  have hfound := List.find?_some h
  simp only [Bool.and_eq_true, decide_eq_true_eq] at hfound
  exact ⟨hfound.1, List.mem_range.1 (List.mem_of_find?_eq_some h)⟩

theorem firstFrom_here (h : text[pos]? = some c) : firstFrom c text pos = some pos := by
  obtain ⟨hlt, -⟩ := Array.getElem?_eq_some_iff.1 h
  rw [firstFrom, List.find?_range_eq_some]
  refine ⟨by simp [h], List.mem_range.2 hlt, fun j hj => ?_⟩
  simp [Nat.not_le_of_lt hj]

theorem firstFrom_ahead (h : text[pos]? ≠ some c) : ∀ i ∈ firstFrom c text pos, pos < i := by
  intro i hi
  have hfound := List.find?_some hi
  simp only [Bool.and_eq_true, decide_eq_true_eq, beq_iff_eq] at hfound
  refine Nat.lt_of_le_of_ne hfound.1 ?_
  rintro rfl
  exact h hfound.2

theorem before_ahead (h : text[pos]? ≠ some c) :
    ∀ groups ∈ (Sample.before c).search text pos, pos < groups.whole.start := by
  intro groups hgroups
  obtain ⟨i, hi, rfl⟩ := Option.map_eq_some_iff.1 hgroups
  exact firstFrom_ahead h i hi

theorem tower_nextMatch {level : Nat} (hlevel : level < 8) (opened : Nat) (text : Text)
    (pos : Nat) :
    (Sample.tower 8).nextMatch text pos (towerStack opened (level + 1)) =
      pure ((Sample.tower 8).bestRule text pos
        (better none .stop ((Sample.before 'b').search text pos)) [level + 2]) := by
  obtain ⟨hrule, hcandidates⟩ := tower_level level hlevel
  rw [← hcandidates]
  exact nextMatch_of_block hrule

theorem tower_enter {i : Nat} (h : i < 52) {level : Nat} (hlevel : level < 8) :
    (Sample.tower 8).nextMatch towerText (2 * i) (towerStack (2 * i) level) =
      pure (some ⟨.rule (level + 1), ⟨⟨2 * i, 2 * i⟩, []⟩⟩) := by
  obtain ⟨ha, -⟩ := towerText_at i h
  have hopen : (Sample.before 'a').search towerText (2 * i) = some ⟨⟨2 * i, 2 * i⟩, []⟩ :=
    congrArg (Option.map _) (firstFrom_here ha)
  have hmatcher : ((Sample.tower 8).rule (level + 1)).matcher? = some (Sample.before 'a') :=
    congrArg Rule.matcher? (tower_level level hlevel).1
  cases level with
  | zero =>
    exact (nextMatch_of_open rfl).trans
      (congrArg pure (bestRule_cons_here (by simp) hmatcher hopen rfl _))
  | succ level =>
    have hends := before_ahead (c := 'b') (by rw [ha]; decide)
    rw [tower_nextMatch (by omega)]
    exact congrArg pure (bestRule_cons_here (better_holds (by simp) hends) hmatcher hopen rfl _)

theorem tower_take {i : Nat} (h : i < 52) :
    (Sample.tower 8).nextMatch towerText (2 * i) (towerStack (2 * i) 8) =
      pure (some ⟨.rule 9, ⟨⟨2 * i, 2 * i + 1⟩, []⟩⟩) := by
  obtain ⟨ha, -⟩ := towerText_at i h
  have htake : (Sample.character 'a').search towerText (2 * i) = some ⟨⟨2 * i, 2 * i + 1⟩, []⟩ :=
    congrArg (Option.map _) (firstFrom_here ha)
  have hends := before_ahead (c := 'b') (by rw [ha]; decide)
  rw [tower_nextMatch (by decide)]
  exact congrArg pure (bestRule_cons_here (better_holds (by simp) hends) rfl htake rfl _)

theorem tower_leave {i : Nat} (h : i < 52) {level : Nat} (hlevel : level < 8) :
    (Sample.tower 8).nextMatch towerText (2 * i + 1) (towerStack (2 * i) (level + 1)) =
      pure (some ⟨.stop, ⟨⟨2 * i + 1, 2 * i + 1⟩, []⟩⟩) := by
  obtain ⟨-, hb⟩ := towerText_at i h
  have hends : (Sample.before 'b').search towerText (2 * i + 1) =
      some ⟨⟨2 * i + 1, 2 * i + 1⟩, []⟩ := congrArg (Option.map _) (firstFrom_here hb)
  rw [tower_nextMatch hlevel, hends]
  have hhere : Found.start ⟨.stop, ⟨⟨2 * i + 1, 2 * i + 1⟩, []⟩⟩ = 2 * i + 1 := rfl
  exact congrArg pure (bestRule_of_here hhere _)

theorem tower_out {i : Nat} (h : i < 52) (opened : Nat) :
    (Sample.tower 8).nextMatch towerText (2 * i + 1) (towerStack opened 0) =
      pure (some ⟨.rule 10, ⟨⟨2 * i + 1, 2 * i + 2⟩, []⟩⟩) := by
  obtain ⟨-, hb⟩ := towerText_at i h
  have htake : (Sample.character 'b').search towerText (2 * i + 1) =
      some ⟨⟨2 * i + 1, 2 * i + 2⟩, []⟩ := congrArg (Option.map _) (firstFrom_here hb)
  have hregion : ((Sample.tower 8).rule 1).matcher? = some (Sample.before 'a') := rfl
  have hahead := before_ahead (c := 'a') (by rw [hb]; decide)
  have hnone : ∀ b ∈ (none : Option Found), 2 * i + 1 < b.start := by simp
  obtain ⟨best, hbest, hrest⟩ := bestRule_cons_ahead hnone hregion hahead [10]
  refine (nextMatch_of_open rfl).trans (congrArg pure (hrest.trans ?_))
  exact bestRule_cons_here hbest rfl htake rfl _

/-- Whatever has been painted, and whatever captured text is scanned with, the tower stops for want
of progress. -/
def TowerStuck (steps pos : Nat) (stack : Stack) : Prop :=
  ∀ rescan out cache,
    (Sample.tower 8).walk rescan towerText steps pos stack out cache = .error .noProgress

theorem TowerStuck.step {steps pos next : Nat} {stack after : Stack} {found : Found}
    (hpos : pos < towerText.size)
    (hnext : (Sample.tower 8).nextMatch towerText pos stack = pure (some found))
    (hact : ∀ rescan out, ∃ out',
      (Sample.tower 8).act rescan towerText pos stack found out = pure (.go next after out'))
    (h : TowerStuck steps next after) : TowerStuck (steps + 1) pos stack := by
  intro rescan out cache
  obtain ⟨out', hout⟩ := hact rescan out
  rw [walk, if_pos hpos]
  simp only [hnext, pure_bind, hout]
  exact h rescan out' cache

theorem TowerStuck.enter {i : Nat} (hi : i < 52) {level : Nat} (hlevel : level < 8) {steps : Nat}
    (h : TowerStuck steps (2 * i) (towerStack (2 * i) (level + 1))) :
    TowerStuck (steps + 1) (2 * i) (towerStack (2 * i) level) := by
  refine .step (by rw [towerText_size]; omega) (tower_enter hi hlevel) (fun rescan out => ?_) h
  have hpush : (towerStack (2 * i) level).push? ⟨level + 1, ["source.t"], ["source.t"], none,
      some (2 * i)⟩ = some (towerStack (2 * i) (level + 1)) := by
    interval_cases level <;> rfl
  have htop : (towerStack (2 * i) level).top.rule ≠ level + 1 := by
    cases level with
    | zero => exact Nat.zero_ne_one
    | succ level => exact Nat.ne_of_lt (Nat.lt_succ_self _)
  have hscopes : (towerStack (2 * i) level).scopes = ["source.t"] := by cases level <;> rfl
  have henter : Scopes.enter ["source.t"] none = ["source.t"] := rfl
  have hresolve : resolve towerText ⟨⟨2 * i, 2 * i⟩, []⟩
      (some ⟨"(?=b)", some (Sample.before 'b')⟩) = none := rfl
  simp only [act, (tower_level level hlevel).1, Sample.region, openRegion, Captures.paint,
    Captures.paintFrom, hscopes, henter, pure_bind, Found.start, Found.stop, htop, hresolve, hpush,
    decide_false, Bool.and_false, Bool.false_and, Bool.false_eq_true, if_false]
  exact ⟨_, rfl⟩

theorem TowerStuck.take {i : Nat} (hi : i < 52) {steps : Nat}
    (h : TowerStuck steps (2 * i + 1) (towerStack (2 * i) 8)) :
    TowerStuck (steps + 1) (2 * i) (towerStack (2 * i) 8) := by
  refine .step (by rw [towerText_size]; omega) (tower_take hi) (fun rescan out => ?_) h
  have hrule : (Sample.tower 8).rule 9 = .single (some "a") (Sample.character 'a') [] := rfl
  have hlt : 2 * i < 2 * i + 1 := Nat.lt_succ_self _
  simp only [act, hrule, Captures.paint, Captures.paintFrom, pure_bind, Found.stop, hlt, if_true]
  exact ⟨_, rfl⟩

theorem TowerStuck.leave {i : Nat} (hi : i < 52) {level : Nat} (hlevel : level < 8) {steps : Nat}
    (h : TowerStuck steps (2 * i + 1) (towerStack (2 * i) level)) :
    TowerStuck (steps + 1) (2 * i + 1) (towerStack (2 * i) (level + 1)) := by
  refine .step (by rw [towerText_size]; omega) (tower_leave hi hlevel) (fun rescan out => ?_) h
  have hpop : (towerStack (2 * i) (level + 1)).pop? =
      some (⟨level + 1, ["source.t"], ["source.t"], none, some (2 * i)⟩,
        towerStack (2 * i) level) := rfl
  have hne : some (2 * i) ≠ some (2 * i + 1) := by simp
  have hstops : (Sample.region (level + 2)).stopCaptures = [] := rfl
  simp only [act, closeRegion, hpop, (tower_level level hlevel).1, hstops, Captures.paint,
    Captures.paintFrom, pure_bind, Found.stop, hne, decide_false, Bool.and_false,
    Bool.false_eq_true, if_false]
  exact ⟨_, rfl⟩

theorem TowerStuck.out {i : Nat} (hi : i < 52) {steps : Nat}
    (h : TowerStuck steps (2 * (i + 1)) (towerStack (2 * (i + 1)) 0)) :
    TowerStuck (steps + 1) (2 * i + 1) (towerStack (2 * i) 0) := by
  refine .step (by rw [towerText_size]; omega) (tower_out hi _) (fun rescan out => ?_) h
  have hrule : (Sample.tower 8).rule 10 = .single (some "b") (Sample.character 'b') [] := rfl
  have hlt : 2 * i + 1 < 2 * i + 2 := Nat.lt_succ_self _
  simp only [act, hrule, Captures.paint, Captures.paintFrom, pure_bind, Found.stop, hlt, if_true]
  exact ⟨_, rfl⟩

theorem TowerStuck.levels {i : Nat} (hi : i < 52) {left steps total : Nat} (hleft : left ≤ 8)
    (htotal : total = steps + (8 - left) + 1 + 8)
    (h : TowerStuck steps (2 * i + 1) (towerStack (2 * i) left)) :
    TowerStuck total (2 * i) (towerStack (2 * i) 0) := by
  have hleave : ∀ k, left + k ≤ 8 →
      TowerStuck (steps + k) (2 * i + 1) (towerStack (2 * i) (left + k)) := by
    intro k hk
    induction k with
    | zero => exact h
    | succ k ih => exact (ih (by omega)).leave hi (by omega)
  have henter : ∀ k, k ≤ 8 →
      TowerStuck (steps + (8 - left) + 1 + k) (2 * i) (towerStack (2 * i) (8 - k)) := by
    intro k hk
    induction k with
    | zero =>
      have htop := hleave (8 - left) (by omega)
      rw [Nat.add_sub_cancel' hleft] at htop
      exact htop.take hi
    | succ k ih =>
      have hlevel := ih (by omega)
      rw [show 8 - k = 8 - (k + 1) + 1 by omega] at hlevel
      exact hlevel.enter hi (by omega)
  rw [htotal]
  exact henter 8 (Nat.le_refl _)

theorem TowerStuck.again {i : Nat} (hi : i < 52) {steps : Nat}
    (h : TowerStuck steps (2 * (i + 1)) (towerStack (2 * (i + 1)) 0)) :
    TowerStuck (steps + 18) (2 * i) (towerStack (2 * i) 0) :=
  .levels hi (Nat.zero_le _) (by omega) (h.out hi)

theorem towerStuck_start : TowerStuck (stepLimit towerText) 0 (.initial (Sample.tower 8)) := by
  -- the last time, three of the regions are still open when no more steps are left
  have hopen : TowerStuck 0 (2 * 51 + 1) (towerStack (2 * 51) 3) := by
    intro rescan out cache
    rw [walk, if_pos (by rw [towerText_size]; decide)]
    rfl
  have hall : ∀ k, k ≤ 51 → TowerStuck (14 + 18 * k) (2 * (51 - k))
      (towerStack (2 * (51 - k)) 0) := by
    intro k hk
    induction k with
    | zero => exact .levels (by decide) (by decide) rfl hopen
    | succ k ih =>
      have hnext := ih (by omega)
      rw [show 51 - k = 51 - (k + 1) + 1 by omega] at hnext
      exact hnext.again (by omega)
  have hlimit : stepLimit towerText = 14 + 18 * 51 := by decide +kernel
  rw [hlimit]
  exact hall 51 (Nat.le_refl _)

theorem looking_reads {R : Matcher → Prop}
    (hR : ∀ c width, width ≤ 1 → R ⟨0, fun text pos =>
      (firstFrom c text pos).map fun i => ⟨⟨i, i + width⟩, []⟩⟩) {source : String} {m : Matcher}
    (h : Sample.looking.compile? source = some m) : R m := by
  simp only [Sample.looking] at h
  split at h
  · obtain ⟨c, -, rfl⟩ := Option.map_eq_some_iff.1 h
    exact hR c 0 (by decide)
  · obtain ⟨c, -, rfl⟩ := Option.map_eq_some_iff.1 h
    exact hR c 1 (by decide)

theorem looking_inBounds : Sample.looking.InBounds := by
  intro source m h
  refine looking_reads (fun c width hwidth => ?_) h
  intro text pos groups hgroups
  obtain ⟨i, hi, rfl⟩ := Option.map_eq_some_iff.1 hgroups
  have hlt := (firstFrom_some hi).2
  rintro (_ | k) span hspan
  · cases hspan
    exact ⟨Nat.le_add_right _ _, by dsimp only; omega⟩
  · cases hspan

theorem looking_forward : Sample.looking.Forward := by
  intro source m h
  refine looking_reads (fun c width hwidth => ?_) h
  intro text pos groups hgroups
  obtain ⟨i, hi, rfl⟩ := Option.map_eq_some_iff.1 hgroups
  exact (firstFrom_some hi).1

set_option maxRecDepth 4000 in
theorem tower_compile :
    Grammar.compile Sample.looking (Sample.towerFile 8) "source.t" =
      (.ok (Sample.tower 8), []) := by
  cbv

/-- Each time, eighteen matches take `ab`; but the limit leaves room for eight in the long run. -/
theorem tower_no_progress :
    Grammar.compile Sample.looking (Sample.towerFile 8) "source.t" = (.ok (Sample.tower 8), []) ∧
      Sample.looking.InBounds ∧ Sample.looking.Forward ∧
      (Sample.tower 8).scanLine towerLine (.initial (Sample.tower 8)) {} = .error .noProgress := by
  exact ⟨tower_compile, looking_inBounds, looking_forward,
    scanLine_of_walk (by decide) fun rescan out => towerStuck_start rescan out {}⟩

theorem tower_opening {rule : Nat} {opening : Opening}
    (h : ((Sample.tower 1).rule rule).opening? = some opening) : rule = 1 := by
  match rule with
  | 1 => rfl
  | 0 | 2 | 3 => cases h
  | _ + 4 => cases h

theorem step_limit_suffices_tower :
    Sample.looking.InBounds ∧ Sample.looking.Forward ∧
      (∀ (text : Text) pos inner outer, ¬(Sample.tower 1).OpenTogether text pos [inner, outer]) ∧
      (∀ number, (Sample.tower 1).scanLines 0 (.initial (Sample.tower 1)) ["abab", "aab"] {} ≠
        .error (.tokenize number .noProgress)) ∧
      ∀ nesting, (Sample.tower 8).scanLimited (fun t => 1024 * t.size + 512) nesting towerText 0
        (.initial (Sample.tower 8)) (.fresh towerLine.length) {} ≠ .error .noProgress := by
  have hone (text : Text) (pos inner outer : Nat) :
      ¬(Sample.tower 1).OpenTogether text pos [inner, outer] := by
    intro h
    obtain ⟨_, -, hinner, -⟩ := h.empty inner List.mem_cons_self
    obtain ⟨_, -, houter, -⟩ := h.empty outer (List.mem_cons_of_mem _ List.mem_cons_self)
    have hne := (List.isChain_cons_cons.1 h.inside).1.2
    exact hne ((tower_opening hinner).trans (tower_opening houter).symm)
  have hcompile : Grammar.compile Sample.looking (Sample.towerFile 1) "source.t" =
      (.ok (Sample.tower 1), []) := by cbv
  obtain ⟨hlimited, hmost, -, -⟩ := step_limit_suffices Sample.looking looking_inBounds
    looking_forward (Sample.towerFile 8) "source.t" _ _ tower_compile
  obtain ⟨-, -, -, hlines⟩ := step_limit_suffices Sample.looking looking_inBounds looking_forward
    (Sample.towerFile 1) "source.t" _ _ hcompile
  refine ⟨looking_inBounds, looking_forward, hone, ?_, fun nesting => ?_⟩
  · exact hlines _ (fun _ _ _ => hone _) 0 _ _ (Stack.initial_nested _) (PatternCache.sound_empty _)
  · refine hlimited towerText _ (fun _ => hmost _) _ (fun t => ?_) nesting 0 _ _ _ ?_
      (PatternCache.sound_empty _)
    · exact Nat.le_refl _
    · decide

end Tower

end Grammar

end Highlighting
