import Highlighting.Proofs.Sample
import Highlighting.Proofs.Scan.Discipline
import Highlighting.Proofs.Scan.Onward

/-! The scopes of captured text that is scanned once more. -/
namespace Highlighting
open ScanM

theorem Scopes.prefix_enter (scopes : Scopes) (name : Option String) :
    scopes <+: scopes.enter name := List.prefix_append _ _

/-- All regions of `entry` are open in a stack, and the scopes of those further in are of some
kind. -/
structure Stack.Around (K : Scopes → Prop) (entry s : Stack) : Prop where
  root_eq : s.root = entry.root
  regions : ∃ inner, s.regions = inner ++ entry.regions ∧
    ∀ f ∈ inner, K f.nameScopes ∧ K f.contentScopes

namespace Stack
variable {K : Scopes → Prop} {entry s s' : Stack} {f : Frame}

theorem Around.refl (K : Scopes → Prop) (s : Stack) : s.Around K s := ⟨rfl, [], rfl, nofun⟩

theorem Around.scopes (h : entry.Around K s) (he : K entry.scopes) : K s.scopes := by
  obtain ⟨root, regions⟩ := s
  obtain ⟨rfl, inner, rfl, hinner⟩ := h
  cases inner with
  | nil => exact he
  | cons f rest => exact (hinner f List.mem_cons_self).2

theorem Around.push (h : entry.Around K s) (hf : K f.nameScopes ∧ K f.contentScopes)
    (hp : s.push? f = some s') : entry.Around K s' := by
  obtain ⟨hroot, inner, hregions, hinner⟩ := h
  unfold push? at hp
  split at hp
  · cases hp
    exact ⟨hroot, f :: inner, congrArg (f :: ·) hregions, List.forall_mem_cons.2 ⟨hf, hinner⟩⟩
  · cases hp

theorem Around.pop (h : entry.Around K s) (hp : s.pop? = some (f, s')) :
    s = entry ∨ (K f.nameScopes ∧ K f.contentScopes) ∧ entry.Around K s' := by
  obtain ⟨root, regions⟩ := s
  obtain ⟨hroot, inner, rfl, hinner⟩ := h
  subst hroot
  cases inner with
  | nil => exact .inl rfl
  | cons g rest =>
    cases hp
    obtain ⟨hf, hrest⟩ := List.forall_mem_cons.1 hinner
    exact .inr ⟨hf, rfl, rest, rfl, hrest⟩

end Stack

def Paint.Reached (place : Nat) (p : Paint) : Prop := min place p.limit ≤ p.last

namespace Paint
variable {p q : Paint} {place : Nat}

theorem Reached.further (h : p.Reached place) (hq : p.Further q) : q.Reached place := by
  unfold Reached at h ⊢
  rw [hq.limit_eq]
  exact Nat.le_trans h hq.last_le

theorem reached_upTo (p : Paint) {stop : Nat} (h : place ≤ stop) (scopes : Scopes) :
    (p.upTo stop scopes).Reached place := by
  have hlimit := (p.further_upTo stop scopes).limit_eq
  unfold Reached
  rw [hlimit, last_upTo]
  omega

/-- What has been painted since some earlier paint has some scopes outermost, up to a place. -/
def Under (p earlier : Paint) (scopes : Scopes) (place : Nat) : Prop :=
  ∃ inside, p.spans = inside ++ earlier.spans ∧ ∀ s ∈ inside, s.start < place → scopes <+: s.scopes

theorem Under.upTo {earlier : Paint} {scopes inner : Scopes} {stop : Nat}
    (h : p.Under earlier scopes place) (hs : scopes <+: inner ∨ p.Reached place) :
    (p.upTo stop inner).Under earlier scopes place := by
  obtain ⟨inside, hinside, hscopes⟩ := h
  unfold Paint.upTo
  dsimp only
  split
  · next hlt =>
    refine ⟨⟨p.last, min stop p.limit, inner⟩ :: inside, congrArg (_ :: ·) hinside, ?_⟩
    refine List.forall_mem_cons.2 ⟨fun hstart => ?_, hscopes⟩
    obtain hprefix | hreached := hs
    · exact hprefix
    · unfold Reached at hreached
      dsimp only at hstart
      omega
  · exact ⟨inside, hinside, hscopes⟩

end Paint

namespace Grammar
open Captures

/-- The end of the innermost region is found in a beginning of a text, at or before a place. -/
def EndFound (g : Grammar) (text : Text) (stack : Stack) (place : Nat) : Prop :=
  ∃ cut pos cache found rest,
    g.nextMatch (text.extract 0 cut) pos stack cache = .ok (some found, rest) ∧
      found.candidate = .stop ∧ found.start ≤ place

def captured (g : Grammar) (text : Text) (entry : Stack) (earlier : Paint) (scopes : Scopes)
    (htop : scopes <+: entry.top.nameScopes ∧ scopes <+: entry.top.contentScopes) (place : Nat)
    (hend : ∀ start, g.EndFound text entry start → place ≤ start) : Discipline g where
  copy := id
  sound _ := True
  text t := ∃ cut, t = text.extract 0 cut
  found _ s m := m.candidate = .stop → s = entry → place ≤ m.start
  place _ := True
  scopes p s := scopes <+: s ∨ p.Reached place
  stack p s := entry.Around (scopes <+: ·) s ∨ p.Reached place
  paint p := p.Under earlier scopes place
  tooDeep := id_eq _
  exhausted := id_eq _
  place_le _ _ := trivial
  cut h stop := begins_extract h stop
  size _ := trivial
  next := by
    rintro t p s ⟨cut, rfl⟩ - pos
    refine ⟨(Lockstep.refl _).eq, fun cache _ found? rest hnext => ⟨?_, trivial⟩⟩
    rintro found rfl hstop rfl
    exact hend _ ⟨cut, pos, cache, found, rest, hnext, hstop, Nat.le_refl _⟩
  edge _ _ _ _ _ _ := (Lockstep.refl _).imp fun _ _ _ _ _ _ _ _ => ⟨trivial, trivial⟩
  groups _ _ _ _ _ := ⟨trivial, trivial⟩
  enter h name := h.imp_left fun h => h.trans (Scopes.prefix_enter _ name)
  scopes_further hq h := h.imp_right fun h => h.further hq
  stack_further hq h := h.imp_right fun h => h.further hq
  top h := h.imp_left fun h => h.scopes htop.2
  push := by
    rintro p s s' f hp (hs | hs) (hname | hname) (hcontent | hcontent)
    · exact .inl (hs.push ⟨hname, hcontent⟩ hp)
    all_goals exact .inr ‹_›
  pop := by
    rintro t p s s' m f - (hs | hs) hf hstop hp
    · obtain rfl | ⟨⟨hname, hcontent⟩, hbelow⟩ := hs.pop hp
      · have hframe : f = s.top := by
          obtain ⟨root, _ | ⟨g, rest⟩⟩ := s
          · cases hp
          · cases hp
            rfl
        have hreached := p.reached_upTo (hf hstop rfl) f.contentScopes
        exact ⟨.inl (hframe ▸ htop.2), .inr hreached, .inr hreached⟩
      · exact ⟨.inl hcontent, .inl hname, .inl hbelow⟩
    · have hafter := hs.further (p.further_upTo m.start f.contentScopes)
      exact ⟨.inr hs, .inr hafter, .inr hafter⟩
  upTo _ hs h := h.upTo hs

variable {g : Grammar}

theorem EndFound.mono {text : Text} {stack : Stack} {place later : Nat}
    (h : g.EndFound text stack place) (hle : place ≤ later) : g.EndFound text stack later := by
  obtain ⟨cut, pos, cache, found, rest, hnext, hstop, hstart⟩ := h
  exact ⟨cut, pos, cache, found, rest, hnext, hstop, Nat.le_trans hstart hle⟩

theorem EndFound.ends {text : Text} {stack : Stack} {place : Nat}
    (h : g.EndFound text stack place) : (g.rule stack.top.rule).ends = true := by
  obtain ⟨cut, pos, cache, found, rest, hnext, hstop, -⟩ := h
  have hends : Alike id (g.nextMatch (text.extract 0 cut) pos stack) (g.nextMatch _ pos stack)
      fun found? => ∀ found ∈ found?, found.Ends g stack := nextMatch_alike (fun _ => rfl) _
        pos stack
  exact (hends.result cache trivial _ _ hnext).1 found rfl hstop

/-- What is painted inside of a region has its scopes, or stands behind an end of the region. -/
theorem rescan_under {nesting pos : Nat} {text : Text} {entry : Stack} {out out' : Paint}
    {scopes : Scopes} {cache rest : PatternCache}
    (htop : scopes <+: entry.top.nameScopes ∧ scopes <+: entry.top.contentScopes)
    (h : g.rescan nesting text pos entry out cache = .ok (out', rest)) :
    ∃ inside, out'.spans = inside ++ out.spans ∧
      ∀ s ∈ inside, scopes <+: s.scopes ∨ g.EndFound text entry s.start := by
  have hunder : ∀ place, (∀ start, g.EndFound text entry start → place ≤ start) →
      out'.Under out scopes place := by
    intro place hend
    let d := captured g text entry out scopes htop place hend
    have ht : d.text text := ⟨text.size, Array.extract_size.symm⟩
    have hs : d.stack out entry := .inl (.refl _ entry)
    have hrun := Discipline.rescan_from (d.walks rfl stepLimit) nesting ht pos hs ⟨[], rfl, nofun⟩
    exact (hrun.result cache trivial _ _ h).1.paint
  obtain ⟨inside, hinside, -⟩ := hunder 0 fun _ _ => Nat.zero_le _
  refine ⟨inside, hinside, fun s hs => or_iff_not_imp_right.2 fun hend => ?_⟩
  -- no end is found up to where this piece starts, so all pieces that start there have the scopes
  obtain ⟨inside', hinside', hscopes⟩ := hunder (s.start + 1) fun start hstart =>
    Nat.succ_le_of_lt (Nat.lt_of_not_le fun hle => hend (hstart.mono hle))
  have hsame : inside' = inside := List.append_cancel_right (hinside'.symm.trans hinside)
  exact hscopes s (hsame ▸ hs) (Nat.lt_succ_self _)

/-- Captured text that is scanned once more has the scopes of its capture outermost, but for what
stands behind an end of the capture's own rule, if that has one. Whatever is done with captured
text, the match alone decides which regions are open after it. -/
theorem captured_text_scoped (g : Grammar) :
    (∀ nesting text stack base c rule span opened out cache opened' out' rest,
      c.patterns = some rule →
      paintGroup (g.rescan nesting) text stack base c span opened out cache =
        .ok ((opened', out'), rest) →
      ∃ group around earlier nested inside,
        closeUpTo span.start opened out = (around, earlier) ∧ opened' = group :: around ∧
        group.scopes = (around.head?.elim base OpenGroup.scopes).enter c.name ∧
        group.stop = around.head?.elim span.stop (fun outer => min span.stop outer.stop) ∧
        stack.push? ⟨rule, group.scopes, group.scopes, none, some span.start⟩ = some nested ∧
        out'.spans = inside ++
          (earlier.upTo span.start (around.head?.elim base OpenGroup.scopes)).spans ∧
        ∀ s ∈ inside, group.scopes <+: s.scopes ∨
          (g.rule rule).ends = true ∧ g.EndFound (text.extract 0 group.stop) nested s.start) ∧
    ∀ rescan text pos stack found out cache step rest,
      g.act rescan text pos stack found out cache = .ok (step, rest) →
        g.onward text pos stack found = some step.onward := by
  constructor
  · intro nesting text stack base c rule span opened out cache opened' out' rest hc h
    unfold paintGroup at h
    rcases hclose : closeUpTo span.start opened out with ⟨around, earlier⟩
    simp only [hclose, hc] at h
    rcases hpush : stack.push? ⟨rule, (around.head?.elim base OpenGroup.scopes).enter c.name,
      (around.head?.elim base OpenGroup.scopes).enter c.name, none, some span.start⟩ with _ | nested
    · rw [hpush] at h
      cases h
    · simp only [hpush, bind_apply] at h
      cases hrescan : g.rescan nesting _ span.start nested _ cache with
      | error fault => rw [hrescan] at h; cases h
      | ok r =>
        rw [hrescan] at h
        cases h
        have htop := Stack.top_of_push hpush
        obtain ⟨inside, hinside, hscopes⟩ :=
          rescan_under (by rw [htop]; exact ⟨List.prefix_refl _, List.prefix_refl _⟩) hrescan
        refine ⟨_, around, earlier, nested, inside, rfl, rfl, rfl, rfl, hpush, hinside,
          fun s hs => ?_⟩
        refine (hscopes s hs).imp_right fun hend => ⟨?_, hend⟩
        have hends := hend.ends
        rw [htop] at hends
        exact hends
  · intro rescan text pos stack found out cache step rest h
    exact (act_onward rescan text pos stack found out).result cache step rest h

section Leaving

def leavingText : Text := #['a', 'b', 'c', '\n']

def leavingSpans : List ScopedSpan :=
  [⟨2, 3, ["source.l"]⟩, ⟨1, 2, ["source.l", "cap"]⟩, ⟨0, 1, ["source.l", "cap"]⟩]

def leavingNested : Stack :=
  ⟨(Stack.initial Sample.leaving).root,
    [⟨2, ["source.l", "cap"], ["source.l", "cap"], none, some 0⟩]⟩

theorem leaving_paintGroup :
    paintGroup (Sample.leaving.rescan Sample.leaving.engine.room) leavingText
      (.initial Sample.leaving) ["source.l"] { name := some "cap", patterns := some 2 } ⟨0, 3⟩ []
      (.fresh 3) {} =
        .ok (([⟨3, ["source.l", "cap"]⟩], ⟨leavingSpans, 3, 3⟩), {}) := by
  unfold leavingSpans
  cbv

/-- The rule of a capture may have an end, and behind it captured text does not have the capture's
scopes. -/
theorem captured_text_leaves :
    Grammar.compile Pattern.engine Sample.leavingFile "source.l" = (.ok Sample.leaving, []) ∧
      paintGroup (Sample.leaving.rescan Sample.leaving.engine.room) leavingText
        (.initial Sample.leaving) ["source.l"] { name := some "cap", patterns := some 2 } ⟨0, 3⟩ []
        (.fresh 3) {} =
          .ok (([⟨3, ["source.l", "cap"]⟩], ⟨leavingSpans, 3, 3⟩), {}) ∧
      (¬∀ s ∈ leavingSpans, ["source.l", "cap"] <+: s.scopes) ∧
      Sample.leaving.scanLines 0 (.initial Sample.leaving) ["abc"] {} =
        .ok ([[⟨["source.l", "cap"], 0, 0, 1⟩, ⟨["source.l", "cap"], 0, 1, 1⟩,
          ⟨["source.l"], 0, 2, 1⟩]], [.initial Sample.leaving]) := by
  refine ⟨by cbv, leaving_paintGroup, by decide, by cbv⟩

theorem captured_text_scoped_leaving :
    (∀ s ∈ leavingSpans, ["source.l", "cap"] <+: s.scopes ∨
      Sample.leaving.EndFound (leavingText.extract 0 3) leavingNested s.start) ∧
    Sample.leaving.onward leavingText 0 (.initial Sample.leaving) ⟨.rule 1, ⟨⟨0, 3⟩, []⟩⟩ =
      some ⟨some 3, .initial Sample.leaving⟩ := by
  have hact : Sample.leaving.act (Sample.leaving.rescan Sample.leaving.engine.room) leavingText 0
      (.initial Sample.leaving) ⟨.rule 1, ⟨⟨0, 3⟩, []⟩⟩ (.fresh 3) {} =
        .ok (.go 3 (.initial Sample.leaving) ⟨leavingSpans, 3, 3⟩, {}) := by
    unfold leavingSpans
    cbv
  obtain ⟨hpaint, honward⟩ := captured_text_scoped Sample.leaving
  refine ⟨?_, honward _ _ _ _ _ _ _ _ _ hact⟩
  obtain ⟨group, around, earlier, nested, inside, hclose, hgroup, -, -, hpush, hinside, hscopes⟩ :=
    hpaint _ _ _ _ _ 2 _ _ _ _ _ _ _ rfl leaving_paintGroup
  cases hclose
  cases hgroup
  cases hpush
  have hspans : leavingSpans = inside := hinside.trans (List.append_nil _)
  exact fun s hs => (hscopes s (hspans ▸ hs)).imp_right And.right

end Leaving

end Grammar

end Highlighting
