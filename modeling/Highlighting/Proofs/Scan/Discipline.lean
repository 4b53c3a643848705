import Highlighting.Proofs.Scan.Captured

/-!
All that a scan does to a line is to paint it up to some place, again and again. What every stroke
keeps, the scan keeps, through captures and the scans inside them.
-/
namespace Highlighting
open ScanM

/-- Pieces painted from one place up to another. -/
structure Paint.Between (start stop : Nat) (spans : List ScopedSpan) : Prop where
  within : ∀ s ∈ spans, start ≤ s.start ∧ s.start < s.stop ∧ s.stop ≤ stop
  reaches : start = stop ∨ ∃ s ∈ spans, s.stop = stop

structure Paint.Further (p q : Paint) : Prop where
  limit_eq : q.limit = p.limit
  last_le : p.last ≤ q.last
  spans : ∃ inside, q.spans = inside ++ p.spans ∧ Between p.last q.last inside

namespace Paint
variable {p q r : Paint}

theorem Further.refl (p : Paint) : p.Further p := ⟨rfl, Nat.le_refl _, [], rfl, nofun, .inl rfl⟩

theorem Further.trans (h : p.Further q) (h' : q.Further r) : p.Further r := by
  obtain ⟨hlimit, hle, inside, hinside, hwithin, hreaches⟩ := h
  obtain ⟨hlimit', hle', inside', hinside', hwithin', hreaches'⟩ := h'
  refine ⟨hlimit'.trans hlimit, Nat.le_trans hle hle', inside' ++ inside, ?_, ?_, ?_⟩
  · rw [hinside', hinside, List.append_assoc]
  · refine List.forall_mem_append.2 ⟨fun s hs => ?_, fun s hs => ?_⟩
    · exact (hwithin' s hs).imp_left (Nat.le_trans hle)
    · obtain ⟨hstart, hlt, hstop⟩ := hwithin s hs
      exact ⟨hstart, hlt, Nat.le_trans hstop hle'⟩
  · obtain heq' | ⟨s, hs, hstop⟩ := hreaches'
    · refine hreaches.imp (·.trans heq') fun ⟨s, hs, hstop⟩ => ?_
      exact ⟨s, List.mem_append_right _ hs, hstop.trans heq'⟩
    · exact .inr ⟨s, List.mem_append_left _ hs, hstop⟩

theorem further_upTo (p : Paint) (place : Nat) (scopes : Scopes) :
    p.Further (p.upTo place scopes) := by
  unfold upTo
  dsimp only
  split
  · next hlt =>
    refine ⟨rfl, Nat.le_of_lt hlt, [⟨p.last, min place p.limit, scopes⟩], rfl, ?_, ?_⟩
    · exact List.forall_mem_singleton.2 ⟨Nat.le_refl _, hlt, Nat.le_refl _⟩
    · exact .inr ⟨_, List.mem_singleton_self _, rfl⟩
  · exact .refl p

theorem last_upTo (p : Paint) (place : Nat) (scopes : Scopes) :
    (p.upTo place scopes).last = max p.last (min place p.limit) := by
  unfold upTo
  dsimp only
  split
  · next hlt => exact (Nat.max_eq_right (Nat.le_of_lt hlt)).symm
  · next hle => exact (Nat.max_eq_left (Nat.le_of_not_lt hle)).symm

end Paint

theorem begins_extract {text t : Text} (h : ∃ cut, t = text.extract 0 cut) (stop : Nat) :
    ∃ cut, t.extract 0 stop = text.extract 0 cut := by
  obtain ⟨cut, rfl⟩ := h
  exact ⟨min (0 + stop) cut, Array.extract_extract⟩

/-- What a scan keeps true while it paints: of the patterns read, of the texts that it scans and
what it finds there, of the places that it paints up to, of scopes, stacks and the paint itself. -/
structure Discipline (g : Grammar) where
  /-- What becomes of faults; those that stay as they are can be why a scan ends. -/
  copy : ScanFault → ScanFault
  sound : PatternCache → Prop
  text : Text → Prop
  found : Text → Stack → Found → Prop
  place : Nat → Prop
  scopes : Paint → Scopes → Prop
  stack : Paint → Stack → Prop
  paint : Paint → Prop
  tooDeep : copy .tooDeep = .tooDeep
  exhausted : copy .exhausted = .exhausted
  place_le : ∀ {a b}, place b → a ≤ b → place a
  cut : ∀ {t}, text t → ∀ stop, text (t.extract 0 stop)
  size : ∀ {t}, text t → place t.size
  next : ∀ {t p s}, text t → stack p s → ∀ pos,
    Lockstep sound copy (g.nextMatch t pos s) (g.nextMatch t pos s) fun m? => ∀ m ∈ m?, found t s m
  edge : ∀ {t}, text t → ∀ {f : Frame} {opening go captures},
    g.rule f.rule = .lines opening go captures →
    Lockstep sound copy (g.edgeMatcher go f.resolved) (g.edgeMatcher go f.resolved) fun matcher =>
      ∀ pos, ∀ groups ∈ matcher.search t pos, ∀ i, ∀ span ∈ groups.get? i,
        place span.start ∧ place span.stop
  groups : ∀ {t s m}, text t → found t s m → ∀ i, ∀ span ∈ m.groups.get? i,
    place span.start ∧ place span.stop
  enter : ∀ {p s}, scopes p s → ∀ name, scopes p (s.enter name)
  scopes_further : ∀ {p q s}, p.Further q → scopes p s → scopes q s
  stack_further : ∀ {p q s}, p.Further q → stack p s → stack q s
  top : ∀ {p s}, stack p s → scopes p s.scopes
  push : ∀ {p s s'} {f : Frame}, s.push? f = some s' → stack p s → scopes p f.nameScopes →
    scopes p f.contentScopes → stack p s'
  /-- The end of a region is painted as its content up to where it was found. -/
  pop : ∀ {t p s s' m} {f : Frame}, text t → stack p s → found t s m → m.candidate = .stop →
    s.pop? = some (f, s') → scopes p f.contentScopes ∧
      scopes (p.upTo m.start f.contentScopes) f.nameScopes ∧
      stack (p.upTo m.start f.contentScopes) s'
  upTo : ∀ {p at_ s}, place at_ → scopes p s → paint p → paint (p.upTo at_ s)

namespace Grammar
variable (g : Grammar)

/-- A scan that may take another number of steps. -/
def scanLimited (limit : Text → Nat) : (nesting : Nat) → Text → Nat → Stack → Paint →
    ScanM (Stack × Paint)
  | 0, _, _, _, _ => throw .exhausted
  | nesting + 1, text, pos, stack, out => do
    let rescan : Rescan := fun text pos stack out => do
      return (← scanLimited limit nesting text pos stack out).2
    let (stack, out) ← g.walk rescan text (limit text) pos stack out
    return (stack, out.upTo text.size stack.scopes)

theorem scanLimited_stepLimit : g.scanLimited stepLimit = g.scan := by
  funext nesting
  induction nesting with
  | zero => rfl
  | succ nesting ih =>
    funext text pos stack out
    rw [scanLimited, ih, scan]

end Grammar

namespace Discipline
variable {g : Grammar} (d : Discipline g)

abbrev Runs {α : Type} (x : ScanM α) (P : α → Prop) : Prop := Lockstep d.sound d.copy x x P

/-- How paint may go on. -/
structure From (p q : Paint) : Prop where
  further : p.Further q
  paint : d.paint q

/-- Groups that may be painted to their ends. -/
def Open (p : Paint) (opened : List OpenGroup) : Prop :=
  ∀ group ∈ opened, d.place group.stop ∧ d.scopes p group.scopes

variable {d} {p q r : Paint} {opened : List OpenGroup}

theorem From.trans (h : d.From p q) (h' : d.From q r) : d.From p r :=
  ⟨h.further.trans h'.further, h'.paint⟩

theorem from_upTo {place : Nat} {scopes : Scopes} (hp : d.place place) (hs : d.scopes p scopes)
    (h : d.paint p) : d.From p (p.upTo place scopes) :=
  ⟨p.further_upTo place scopes, d.upTo hp hs h⟩

theorem Open.further (h : d.Open p opened) (hq : p.Further q) : d.Open q opened :=
  fun group hg => (h group hg).imp_right (d.scopes_further hq)

section Captures
open Captures

theorem closeUpTo_from (place : Nat) (ho : d.Open p opened) (h : d.paint p) :
    d.Open (closeUpTo place opened p).2 (closeUpTo place opened p).1 ∧
      d.From p (closeUpTo place opened p).2 := by
  induction opened generalizing p with
  | nil => exact ⟨ho, .refl p, h⟩
  | cons group rest ih =>
    obtain ⟨⟨hstop, hscopes⟩, hrest⟩ := List.forall_mem_cons.1 ho
    rw [closeUpTo]
    split
    · have hgo := from_upTo hstop hscopes h
      exact (ih (Open.further hrest hgo.further) hgo.paint).imp_right hgo.trans
    · exact ⟨ho, .refl p, h⟩

theorem closeAll_from (ho : d.Open p opened) (h : d.paint p) : d.From p (closeAll opened p) := by
  induction opened generalizing p with
  | nil => exact ⟨.refl p, h⟩
  | cons group rest ih =>
    obtain ⟨⟨hstop, hscopes⟩, hrest⟩ := List.forall_mem_cons.1 ho
    have hgo := from_upTo hstop hscopes h
    exact hgo.trans (ih (Open.further hrest hgo.further) hgo.paint)

abbrev Rescans (d : Discipline g) (text : Text) (rescan : Rescan) : Prop :=
  ∀ stop, d.place stop → ∀ pos (stack : Stack) out, d.stack out stack → d.paint out →
    d.Runs (rescan (text.extract 0 stop) pos stack out) (d.From out)

variable {rescan : Rescan} {text : Text} {stack : Stack} {base : Scopes}

theorem paintGroup_from (hr : d.Rescans text rescan) (hs : d.stack p stack) (hb : d.scopes p base)
    (c : Capture) {span : Span} (hplace : d.place span.start)
    (hfree : (closeUpTo span.start opened p).1 = [] → d.place span.stop) (ho : d.Open p opened)
    (h : d.paint p) :
    d.Runs (paintGroup rescan text stack base c span opened p)
      fun r => d.Open r.2 r.1 ∧ d.From p r.2 := by
  obtain ⟨ho, hclosed⟩ := closeUpTo_from span.start ho h
  unfold paintGroup
  rcases hc : closeUpTo span.start opened p with ⟨opened, out⟩
  rw [hc] at ho hclosed hfree
  have houter : d.scopes out (opened.head?.elim base OpenGroup.scopes) := by
    cases opened with
    | nil => exact d.scopes_further hclosed.further hb
    | cons group rest => exact (ho group List.mem_cons_self).2
  have hstop : d.place (opened.head?.elim span.stop fun group => min span.stop group.stop) := by
    cases opened with
    | nil => exact hfree rfl
    | cons group rest =>
      exact d.place_le (ho group List.mem_cons_self).1 (Nat.min_le_right _ _)
  have hstart := from_upTo hplace houter hclosed.paint
  have hscopes := d.enter (d.scopes_further hstart.further houter) c.name
  have hgo := hclosed.trans hstart
  dsimp only
  split
  · exact .pure ⟨List.forall_mem_cons.2 ⟨⟨hstop, hscopes⟩, ho.further hstart.further⟩, hgo⟩
  · split
    · exact .throw d.tooDeep.symm
    · next nested hpush =>
      have hnested := d.push hpush (d.stack_further hgo.further hs) hscopes hscopes
      refine (hr _ hstop _ _ _ hnested hstart.paint).bind fun out hout => .pure ⟨?_, hgo.trans hout⟩
      have hfurther := hstart.further.trans hout.further
      exact List.forall_mem_cons.2 ⟨⟨hstop, d.scopes_further hout.further hscopes⟩,
        ho.further hfurther⟩

theorem paintFrom_from (hr : d.Rescans text rescan) {groups : Groups}
    (hg : ∀ i, ∀ span ∈ groups.get? i, d.place span.start ∧ d.place span.stop)
    (captures : Captures) :
    ∀ (index : Nat) (opened : List OpenGroup) (p : Paint), d.stack p stack → d.scopes p base →
      d.Open p opened → d.paint p →
      d.Runs (paintFrom rescan text stack groups base index captures opened p) (d.From p) := by
  induction captures with
  | nil => intro index opened p _ _ ho h; exact .pure (closeAll_from ho h)
  | cons c rest ih =>
    intro index opened p hs hb ho h
    rw [paintFrom]
    split
    · exact ih _ _ _ hs hb ho h
    · next span hspan =>
      split
      · exact ih _ _ _ hs hb ho h
      · obtain ⟨hstart, hstop⟩ := hg index span hspan
        refine (paintGroup_from hr hs hb c hstart (fun _ => hstop) ho h).bind fun r hr => ?_
        obtain ⟨ho, hgo⟩ := hr
        have hs := d.stack_further hgo.further hs
        have hb := d.scopes_further hgo.further hb
        exact (ih _ _ _ hs hb ho hgo.paint).imp fun _ => hgo.trans

theorem paint_from (hr : d.Rescans text rescan) {groups : Groups}
    (hg : ∀ i, ∀ span ∈ groups.get? i, d.place span.start ∧ d.place span.stop)
    (hs : d.stack p stack) (hb : d.scopes p base) (captures : Captures) (h : d.paint p) :
    d.Runs (Captures.paint rescan text stack groups base captures p) (d.From p) :=
  paintFrom_from hr hg captures 0 [] p hs hb nofun h

end Captures

section Steps
open Grammar
variable {rescan : Rescan} {text : Text} {stack : Stack} {found : Found}

abbrev After (d : Discipline g) (p : Paint) (step : Step) : Prop :=
  d.stack step.out step.stack ∧ d.From p step.out

theorem whole_from (ht : d.text text) (hf : d.found text stack found) {scopes : Scopes}
    (hs : d.scopes p scopes) (h : d.paint p) : d.From p (p.upTo found.stop scopes) :=
  from_upTo (d.groups ht hf 0 _ rfl).2 hs h

theorem openRegion_from (hr : d.Rescans text rescan) (ht : d.text text) (hs : d.stack p stack)
    (hf : d.found text stack found) (rule : Nat) (opening : Opening) (resolved : Option String)
    (h : d.paint p) :
    d.Runs (openRegion rescan text stack found rule opening resolved p) (d.After p) := by
  have hname := d.enter (d.top hs) opening.name
  refine (paint_from hr (d.groups ht hf) hs hname _ h).bind fun out hout => ?_
  have hstop := hout.trans (whole_from ht hf (d.scopes_further hout.further hname) hout.paint)
  have hs := d.stack_further hstop.further hs
  have hname := d.scopes_further hstop.further hname
  dsimp only
  split
  · exact .pure ⟨hs, hstop⟩
  · split
    · next hpush => exact .pure ⟨d.push hpush hs hname (d.enter hname _), hstop⟩
    · exact .throw d.tooDeep.symm

theorem closeRegion_from (hr : d.Rescans text rescan) (ht : d.text text) (pos : Nat)
    (hs : d.stack p stack) (hf : d.found text stack found) (hstop : found.candidate = .stop)
    (h : d.paint p) :
    d.Runs (g.closeRegion rescan text pos stack found p) (d.After p) := by
  unfold closeRegion
  split
  · exact .pure ⟨hs, .refl p, h⟩
  · next frame below hpop =>
    obtain ⟨hcontent, hname, hbelow⟩ := d.pop ht hs hf hstop hpop
    have hstart := from_upTo (d.groups ht hf 0 _ rfl).1 hcontent h
    refine (paint_from hr (d.groups ht hf) hbelow hname _ hstart.paint).bind fun out hout => ?_
    have hwhole := whole_from ht hf (d.scopes_further hout.further hname) hout.paint
    have hbelow := d.stack_further (hout.trans hwhole).further hbelow
    have hgo := (hstart.trans hout).trans hwhole
    dsimp only
    split
    · exact .pure ⟨hbelow, hgo⟩
    · exact .pure ⟨hbelow, hgo⟩

theorem act_from (hr : d.Rescans text rescan) (ht : d.text text) (pos : Nat)
    (hs : d.stack p stack) (hf : d.found text stack found) (h : d.paint p) :
    d.Runs (g.act rescan text pos stack found p) (d.After p) := by
  unfold act
  split
  · next hstop => exact closeRegion_from hr ht pos hs hf hstop h
  · have hstart := from_upTo (d.groups ht hf 0 _ rfl).1 (d.top hs) h
    have hs := d.stack_further hstart.further hs
    dsimp only
    split
    · next name _ captures _ =>
      have hname := d.enter (d.top hs) name
      refine (paint_from hr (d.groups ht hf) hs hname captures hstart.paint).bind fun out hout => ?_
      have hwhole := whole_from ht hf (d.scopes_further hout.further hname) hout.paint
      have hs := d.stack_further (hout.trans hwhole).further hs
      have hgo := (hstart.trans hout).trans hwhole
      split
      · exact .pure ⟨hs, hgo⟩
      · exact .pure ⟨hs, hgo⟩
    · exact (openRegion_from hr ht hs hf _ _ _ hstart.paint).imp fun _ => .imp_right hstart.trans
    · exact (openRegion_from hr ht hs hf _ _ _ hstart.paint).imp fun _ => .imp_right hstart.trans
    · exact .pure ⟨hs, hstart⟩

abbrev Walks (d : Discipline g) (limit : Text → Nat) : Prop :=
  ∀ {rescan : Rescan} {text : Text}, d.Rescans text rescan → d.text text →
    ∀ (pos : Nat) (stack : Stack) (p : Paint), d.stack p stack → d.paint p →
      d.Runs (g.walk rescan text (limit text) pos stack p)
        fun r => d.stack r.2 r.1 ∧ d.From p r.2

theorem walks (hcopy : d.copy .noProgress = .noProgress) (limit : Text → Nat) :
    d.Walks limit := by
  intro rescan text hr ht
  generalize limit text = steps
  induction steps with
  | zero =>
    intro pos stack p hs h
    rw [walk]
    split
    · exact .throw hcopy.symm
    · exact .pure ⟨hs, .refl p, h⟩
  | succ steps ih =>
    intro pos stack p hs h
    rw [walk]
    split
    · refine (d.next ht hs pos).bind fun found? hfound => ?_
      cases found? with
      | none => exact .pure ⟨hs, .refl p, h⟩
      | some found =>
        refine (act_from hr ht pos hs (hfound found rfl) h).bind fun step hstep => ?_
        obtain ⟨hs, hgo⟩ := hstep
        cases step with
        | go pos stack out =>
          exact (ih pos stack out hs hgo.paint).imp fun _ => .imp_right hgo.trans
        | halt stack out => exact .pure ⟨hs, hgo⟩
    · exact .pure ⟨hs, .refl p, h⟩

end Steps

section Lines
open Grammar
variable {text : Text} {stack : Stack}

abbrev Ends (d : Discipline g) (limit : Text → Nat) (nesting : Nat) : Prop :=
  ∀ (text : Text), d.text text → ∀ (pos : Nat) (stack : Stack) (p : Paint), d.stack p stack →
    d.paint p → d.Runs (g.scanLimited limit nesting text pos stack p) fun r =>
      ∃ q, d.stack q r.1 ∧ d.From p q ∧ r.2 = q.upTo text.size r.1.scopes

theorem Ends.rescan {limit : Text → Nat} {nesting : Nat} (h : d.Ends limit nesting)
    (ht : d.text text) (pos : Nat) (hs : d.stack p stack) (hp : d.paint p) :
    d.Runs (do return (← g.scanLimited limit nesting text pos stack p).2) (d.From p) := by
  refine (h text ht pos stack p hs hp).bind fun r hr => ?_
  obtain ⟨q, hq, hgo, he⟩ := hr
  exact .pure (he ▸ hgo.trans (from_upTo (d.size ht) (d.top hq) hgo.paint))

theorem scanLimited_ends {limit : Text → Nat} (hw : d.Walks limit) (nesting : Nat) :
    d.Ends limit nesting := by
  -- captured text is scanned with one level of nesting less
  induction nesting with
  | zero => intro text _ pos stack p _ _; exact .throw d.exhausted.symm
  | succ nesting ih =>
    intro text ht pos stack p hs h
    refine (hw (fun stop _ pos _ _ => ih.rescan (d.cut ht stop) pos) ht pos stack p hs h).bind ?_
    exact fun r hr => .pure ⟨r.2, hr.1, hr.2, rfl⟩

theorem scan_ends (hw : d.Walks stepLimit) (nesting : Nat) (ht : d.text text) (pos : Nat)
    (hs : d.stack p stack) (h : d.paint p) :
    d.Runs (g.scan nesting text pos stack p) fun r =>
      ∃ q, d.stack q r.1 ∧ d.From p q ∧ r.2 = q.upTo text.size r.1.scopes :=
  g.scanLimited_stepLimit ▸ scanLimited_ends hw nesting text ht pos stack p hs h

theorem rescan_from (hw : d.Walks stepLimit) (nesting : Nat) (ht : d.text text) (pos : Nat)
    (hs : d.stack p stack) (h : d.paint p) :
    d.Runs (g.rescan nesting text pos stack p) (d.From p) := by
  rw [rescan, ← g.scanLimited_stepLimit]
  exact (scanLimited_ends hw nesting).rescan ht pos hs h

theorem keepOpen_from (hw : d.Walks stepLimit) (nesting : Nat) (ht : d.text text)
    (rest : List Frame) :
    ∀ (kept : List Frame) (pos : Nat) (p : Paint), d.stack p stack →
      (∀ f ∈ rest, d.scopes p f.nameScopes) → d.paint p →
      d.Runs (g.keepOpen (g.rescan nesting) text stack rest kept pos p) fun r =>
        d.From p r.2.2 := by
  induction rest with
  | nil => intro kept pos p _ _ h; exact .pure ⟨.refl p, h⟩
  | cons frame rest ih =>
    intro kept pos p hs hf h
    obtain ⟨hname, hrest⟩ := List.forall_mem_cons.1 hf
    rw [keepOpen]
    split
    · next captures hrule =>
      refine (d.edge ht hrule).bind fun matcher hmatcher => ?_
      split
      · next groups hgroups =>
        have hg := hmatcher pos groups (Option.filter_eq_some_iff.1 hgroups).1
        have hr : d.Rescans text (g.rescan nesting) :=
          fun stop _ pos _ _ => rescan_from hw nesting (d.cut ht stop) pos
        refine (paint_from hr hg hs hname captures h).bind fun out hout => ?_
        have hwhole := from_upTo (hg 0 _ rfl).2 (d.scopes_further hout.further hname) hout.paint
        have hgo := hout.trans hwhole
        have hrest := fun f hf => d.scopes_further hgo.further (hrest f hf)
        exact (ih _ _ _ (d.stack_further hgo.further hs) hrest hgo.paint).imp fun _ => hgo.trans
      · exact .pure ⟨.refl p, h⟩
    · exact ih _ _ _ hs hrest h

end Lines

end Discipline

end Highlighting
