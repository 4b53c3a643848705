import Highlighting.Proofs.Scan.Discipline
import Highlighting.Proofs.Scan.Reading

/-! How far the processing of a match paints. -/
namespace Highlighting
open ScanM

namespace Paint.Further
variable {p q : Paint}

theorem stops_le_iff (h : p.Further q) {inside : List ScopedSpan}
    (hinside : q.spans = inside ++ p.spans) (place : Nat) :
    (∀ s ∈ inside, s.stop ≤ place) ↔ q.last ≤ max p.last place := by
  obtain ⟨-, hle, inside', hinside', hwithin, hreaches⟩ := h
  have hsame : inside' = inside := List.append_cancel_right (hinside'.symm.trans hinside)
  subst hsame
  constructor
  · intro hstops
    obtain heq | ⟨s, hs, hstop⟩ := hreaches
    · omega
    · have := hstops s hs
      omega
  · intro hlast s hs
    obtain ⟨hstart, hlt, hstop⟩ := hwithin s hs
    omega

end Paint.Further

/-- Where the last of the outermost groups ends that have a capture and took text; `upto` is where
those seen so far end. A group that starts before that lies inside of one, and is cut there. -/
def Captures.reach (groups : Groups) : Captures → (index upto : Nat) → Nat
  | [], _, upto => upto
  | c :: rest, index, upto =>
    match groups.get? index with
    | none => reach groups rest (index + 1) upto
    | some span =>
      if c.isEmpty || span.isEmpty then reach groups rest (index + 1) upto
      else reach groups rest (index + 1) (if span.start < upto then upto else span.stop)

namespace Grammar
variable {g : Grammar} (hg : g.Closed) (he : g.engine.InBounds)
include hg he

theorem nextMatch_within (text : Text) (pos : Nat) (stack : Stack) :
    g.Runs (g.nextMatch text pos stack) fun m? => ∀ m ∈ m?, m.groups.Within text.size := by
  refine (nextMatch_read hg he text pos stack).imp fun m? h m hm => ?_
  obtain ⟨matcher, hin, hsearch, -⟩ := h m hm
  exact hin text pos m.groups hsearch

def shortTexts (size last : Nat) : Discipline g where
  copy := id
  sound := PatternCache.Sound g.engine
  text t := t.size ≤ size
  found t _ m := m.groups.Within t.size
  place := (· ≤ size)
  scopes _ _ := True
  stack _ _ := True
  paint p := p.last ≤ max last (min size p.limit)
  tooDeep := id_eq _
  exhausted := id_eq _
  place_le h hle := Nat.le_trans hle h
  cut h stop := by
    rw [Array.size_extract]
    omega
  size h := h
  next _ _ pos := nextMatch_within hg he _ pos _
  edge := by
    intro t ht f opening go captures hrule
    refine (edgeMatcher_read hg he (congrArg Rule.edge? hrule) _).imp ?_
    intro m hm pos groups hgroups i span hspan
    have := hm t pos groups hgroups i span hspan
    omega
  groups := by
    intro t s m ht h i span hspan
    have := h i span hspan
    omega
  enter _ _ := trivial
  scopes_further _ _ := trivial
  stack_further _ _ := trivial
  top _ := trivial
  push _ _ _ _ := trivial
  pop _ _ _ _ _ := ⟨trivial, trivial, trivial⟩
  upTo := by
    intro p place s hplace _ h
    have hlimit := (p.further_upTo place s).limit_eq
    rw [hlimit, Paint.last_upTo]
    omega

end Grammar

namespace Captures
variable {p : Paint} {upto place : Nat} {opened : List OpenGroup}

theorem closeUpTo_eq_nil (h : ∀ group ∈ opened, group.stop ≤ place) :
    (closeUpTo place opened p).1 = [] := by
  induction opened generalizing p with
  | nil => rfl
  | cons group rest ih =>
    obtain ⟨hgroup, hrest⟩ := List.forall_mem_cons.1 h
    rw [closeUpTo, if_pos hgroup]
    exact ih hrest

theorem mem_closeUpTo {group : OpenGroup} (h : group ∈ opened) (hstop : place < group.stop) :
    group ∈ (closeUpTo place opened p).1 := by
  induction opened generalizing p with
  | nil => cases h
  | cons first rest ih =>
    rw [closeUpTo]
    split
    · next hle =>
      obtain rfl | hrest := List.mem_cons.1 h
      · exact absurd hle (Nat.not_le_of_lt hstop)
      · exact ih hrest
    · exact h

theorem further_closeAll (opened : List OpenGroup) (p : Paint) :
    p.Further (closeAll opened p) :=
  List.foldlRecOn opened _ (.refl p) fun _ h _ _ => h.trans (Paint.further_upTo _ _ _)

theorem le_last_closeAll {group : OpenGroup} (h : group ∈ opened) :
    min group.stop p.limit ≤ (closeAll opened p).last := by
  induction opened generalizing p with
  | nil => cases h
  | cons first rest ih =>
    have hlimit := (p.further_upTo first.stop first.scopes).limit_eq
    obtain rfl | hrest := List.mem_cons.1 h
    · have hlast := (further_closeAll rest (p.upTo group.stop group.scopes)).last_le
      rw [Paint.last_upTo] at hlast
      exact Nat.le_trans (Nat.le_max_right _ _) hlast
    · exact hlimit ▸ ih hrest

theorem paintGroup_opened (rescan : Rescan) (text : Text) (stack : Stack) (base : Scopes)
    (c : Capture) (span : Span) (opened : List OpenGroup) (p : Paint) :
    Ensures (paintGroup rescan text stack base c span opened p) fun r =>
      ∃ group, r.1 = group :: (closeUpTo span.start opened p).1 ∧
        ((closeUpTo span.start opened p).1 = [] → group.stop = span.stop) := by
  unfold paintGroup
  rcases hc : closeUpTo span.start opened p with ⟨opened, out⟩
  dsimp only
  split
  · refine Ensures.pure ⟨_, rfl, ?_⟩
    rintro rfl
    rfl
  · split
    · exact Ensures.throw _
    · refine (Ensures.trivial _).bind fun out _ => Ensures.pure ⟨_, rfl, ?_⟩
      rintro rfl
      rfl

/-- The groups that are open, the outermost of which ends at `upto`, and how far the line has been
painted since some earlier paint. -/
structure Opened (first : Paint) (upto : Nat) (opened : List OpenGroup) (p : Paint) : Prop where
  further : first.Further p
  last_le : p.last ≤ max first.last (min upto p.limit)
  stop_le : ∀ group ∈ opened, group.stop ≤ upto
  outermost : upto = 0 ∨ ∃ group ∈ opened, group.stop = upto

structure Comes (upto : Nat) (first p : Paint) : Prop where
  further : first.Further p
  le_last : min upto p.limit ≤ p.last
  last_le : p.last ≤ max first.last (min upto p.limit)

theorem Opened.closeAll {first : Paint} (h : Opened first upto opened p)
    (hlast : (closeAll opened p).last ≤ max first.last (min upto p.limit)) :
    Comes upto first (closeAll opened p) := by
  have hfurther := further_closeAll opened p
  refine ⟨h.further.trans hfurther, ?_, hfurther.limit_eq.symm ▸ hlast⟩
  rw [hfurther.limit_eq]
  obtain rfl | ⟨group, hgroup, rfl⟩ := h.outermost
  · omega
  · exact le_last_closeAll hgroup

variable {g : Grammar} (hg : g.Closed) (he : g.engine.InBounds) {first : Paint}
include hg he

theorem Opened.paintGroup (h : Opened first upto opened p) (nesting : Nat) (text : Text)
    (stack : Stack) (base : Scopes) (c : Capture) {span : Span} (hspan : span.start ≤ span.stop)
    (hne : span.isEmpty = false) :
    g.Runs (paintGroup (g.rescan nesting) text stack base c span opened p)
      fun r => Opened first (if span.start < upto then upto else span.stop) r.1 r.2 := by
  have hlt : span.start < span.stop := by
    have hne : span.start ≠ span.stop := by simpa [Span.isEmpty] using hne
    omega
  generalize hafter : (if span.start < upto then upto else span.stop) = after
  have hle : upto ≤ after ∧ span.start < after := by
    subst hafter
    split <;> omega
  -- the outermost group stays open, or all are closed and the new one is the outermost
  have houter : (∃ group ∈ (closeUpTo span.start opened p).1, group.stop = after) ∨
      (closeUpTo span.start opened p).1 = [] ∧ span.stop = after := by
    by_cases hin : span.start < upto
    · obtain rfl | ⟨group, hgroup, rfl⟩ := h.outermost
      · exact absurd hin (Nat.not_lt_zero _)
      · exact .inl ⟨group, mem_closeUpTo hgroup hin, by rw [← hafter, if_pos hin]⟩
    · have hstops : ∀ group ∈ opened, group.stop ≤ span.start := fun group hgroup =>
        Nat.le_trans (h.stop_le group hgroup) (Nat.le_of_not_lt hin)
      exact .inr ⟨closeUpTo_eq_nil hstops, by rw [← hafter, if_neg hin]⟩
  let d := Grammar.shortTexts hg he after first.last
  have hr : d.Rescans text (g.rescan nesting) := by
    intro stop hstop pos stack out hs hp
    have ht : d.text (text.extract 0 stop) := by
      change (text.extract 0 stop).size ≤ after
      change stop ≤ after at hstop
      rw [Array.size_extract]
      omega
    exact Discipline.rescan_from (d.walks rfl Grammar.stepLimit) nesting ht pos hs hp
  have hfree : (closeUpTo span.start opened p).1 = [] → d.place span.stop := by
    intro hnil
    obtain ⟨group, hgroup, -⟩ | ⟨-, hstop⟩ := houter
    · rw [hnil] at hgroup
      cases hgroup
    · exact Nat.le_of_eq hstop
  have hopen : d.Open p opened := fun group hgroup =>
    ⟨Nat.le_trans (h.stop_le group hgroup) hle.1, trivial⟩
  have hpaint : d.paint p := by
    have hlast := h.last_le
    change p.last ≤ max first.last (min after p.limit)
    omega
  have hs : d.stack p stack := trivial
  have hb : d.scopes p base := trivial
  have hstart : d.place span.start := Nat.le_of_lt hle.2
  have hruns := Discipline.paintGroup_from hr hs hb c hstart hfree hopen hpaint
  refine (hruns.and_ensures (paintGroup_opened _ _ _ _ _ _ _ _)).imp fun r hr => ?_
  obtain ⟨⟨hopen, hfrom⟩, group, hopened, hstop⟩ := hr
  refine ⟨h.further.trans hfrom.further, hfrom.paint,
    fun group hgroup => (hopen group hgroup).1, ?_⟩
  rw [hopened]
  obtain ⟨outer, houter, heq⟩ | ⟨hnil, heq⟩ := houter
  · exact .inr ⟨outer, List.mem_cons_of_mem _ houter, heq⟩
  · exact .inr ⟨group, List.mem_cons_self, (hstop hnil).trans heq⟩

theorem Opened.paintFrom (nesting : Nat) (text : Text) (stack : Stack) {groups : Groups}
    (hgroups : groups.Within text.size) (base : Scopes) (captures : Captures) :
    ∀ (index upto : Nat) (opened : List OpenGroup) (p : Paint), Opened first upto opened p →
      g.Runs (paintFrom (g.rescan nesting) text stack groups base index captures opened p)
        (Comes (reach groups captures index upto) first) := by
  induction captures with
  | nil =>
    intro index upto opened p h
    let d := Grammar.shortTexts hg he upto first.last
    have hopen : d.Open p opened := fun group hgroup => ⟨h.stop_le group hgroup, trivial⟩
    refine .pure (h.closeAll ?_)
    have hpaint := (Discipline.closeAll_from hopen h.last_le).paint
    exact (further_closeAll opened p).limit_eq ▸ hpaint
  | cons c rest ih =>
    intro index upto opened p h
    rw [Captures.paintFrom, reach]
    cases hget : groups.get? index with
    | none => exact ih _ _ _ _ h
    | some span =>
      dsimp only
      cases hskip : c.isEmpty || span.isEmpty with
      | true => exact ih _ _ _ _ h
      | false =>
        have hne : span.isEmpty = false := (Bool.or_eq_false_iff.1 hskip).2
        have hspan := (hgroups index span hget).1
        refine (h.paintGroup hg he nesting text stack base c hspan hne).bind fun r hr => ?_
        exact ih _ _ _ _ hr

theorem paint_comes (nesting : Nat) (text : Text) (stack : Stack) {groups : Groups}
    (hgroups : groups.Within text.size) (base : Scopes) (captures : Captures) (p : Paint) :
    g.Runs (paint (g.rescan nesting) text stack groups base captures p)
      (Comes (reach groups captures 0 0) p) :=
  Opened.paintFrom hg he nesting text stack hgroups base captures 0 0 [] p
    ⟨.refl p, Nat.le_max_left _ _, nofun, .inl rfl⟩

end Captures

/-- The paint has come to the end of a match and of the groups of it that are captured, as far as
the line goes, unless it was further before. -/
structure Groups.Claims (groups : Groups) (captures : Captures) (p q : Paint) : Prop where
  further : p.Further q
  le_last : min (captures.reach groups 0 0) p.limit ≤ q.last
  last_le : q.last ≤ max (max p.last groups.whole.stop) (min (captures.reach groups 0 0) p.limit)

namespace Groups.Claims
variable {groups : Groups} {captures : Captures} {p q : Paint}

/-- All that is painted ends at or before the end of the match exactly if the groups do, unless it
had been painted before. -/
theorem stops_le_iff (h : groups.Claims captures p q) :
    ∃ inside, q.spans = inside ++ p.spans ∧
      ((∀ s ∈ inside, s.stop ≤ groups.whole.stop) ↔
        min (captures.reach groups 0 0) p.limit ≤ max p.last groups.whole.stop) := by
  obtain ⟨inside, hinside, -⟩ := h.further.spans
  refine ⟨inside, hinside, (h.further.stops_le_iff hinside _).trans ?_⟩
  have hle := h.le_last
  have hlast := h.last_le
  omega

theorem of_stroke (hp : p.Further q) (hq : q.last ≤ max p.last groups.whole.stop) :
    groups.Claims [] p q := by
  refine ⟨hp, ?_, Nat.le_trans hq (Nat.le_max_left _ _)⟩
  rw [Captures.reach]
  omega

end Groups.Claims

namespace Grammar
variable {g : Grammar} (hg : g.Closed) (he : g.engine.InBounds)

/-- The captures of a match. -/
def capturesOf (g : Grammar) (stack : Stack) (found : Found) : Captures :=
  match found.candidate with
  | .stop => (stack.pop?.map fun popped => (g.rule popped.1.rule).stopCaptures).getD []
  | .rule id =>
    match g.rule id with
    | .container _ => []
    | .single _ _ captures => captures
    | .block opening .. | .lines opening .. => opening.captures

include hg he

theorem paint_claims (nesting : Nat) (text : Text) (stack : Stack) {groups : Groups}
    (hgroups : groups.Within text.size) (base : Scopes) (captures : Captures) {p q : Paint}
    (hp : p.Further q) (hq : q.last ≤ max p.last groups.whole.stop) :
    g.Runs (Captures.paint (g.rescan nesting) text stack groups base captures q)
      fun out => ∀ scopes, groups.Claims captures p (out.upTo groups.whole.stop scopes) := by
  refine (Captures.paint_comes hg he nesting text stack hgroups base captures q).imp ?_
  intro out h scopes
  have hstop := out.further_upTo groups.whole.stop scopes
  refine ⟨(hp.trans h.further).trans hstop, ?_, ?_⟩
  · have hle := h.le_last
    rw [h.further.limit_eq, hp.limit_eq] at hle
    exact Nat.le_trans hle hstop.last_le
  · have hlast := h.last_le
    rw [h.further.limit_eq, hp.limit_eq] at hlast
    rw [Paint.last_upTo]
    omega

theorem act_claims (nesting : Nat) (text : Text) (pos : Nat) (stack : Stack) {found : Found}
    (hf : found.groups.Within text.size) (p : Paint) :
    g.Runs (g.act (g.rescan nesting) text pos stack found p)
      fun step => found.groups.Claims (g.capturesOf stack found) p step.out := by
  have hwhole : found.start ≤ found.stop := (hf 0 _ rfl).1
  have hstart : ∀ scopes, p.Further (p.upTo found.start scopes) ∧
      (p.upTo found.start scopes).last ≤ max p.last found.stop := by
    intro scopes
    refine ⟨p.further_upTo _ _, ?_⟩
    rw [Paint.last_upTo]
    omega
  have hpaint := fun stack base captures scopes => paint_claims hg he nesting text stack hf base
    captures (hstart scopes).1 (hstart scopes).2
  unfold act capturesOf
  cases found.candidate with
  | stop =>
    unfold closeRegion
    cases stack.pop? with
    | none => exact .pure (.of_stroke (.refl p) (Nat.le_max_left _ _))
    | some popped =>
      refine (hpaint _ _ _ _).bind fun out hout => ?_
      dsimp only
      split
      · exact .pure (hout _)
      · exact .pure (hout _)
  | rule rule =>
    dsimp only
    have hopen : ∀ opening resolved, g.Runs
        (openRegion (g.rescan nesting) text stack found rule opening resolved
          (p.upTo found.start stack.scopes))
        fun step => found.groups.Claims opening.captures p step.out := by
      intro opening resolved
      refine (hpaint _ _ _ _).bind fun out hout => ?_
      dsimp only
      split
      · exact .pure (hout _)
      · split
        · exact .pure (hout _)
        · exact .throw rfl
    cases g.rule rule with
    | container => exact .pure (.of_stroke (hstart _).1 (hstart _).2)
    | single name _ captures =>
      refine (hpaint _ _ _ _).bind fun out hout => ?_
      dsimp only
      split
      · exact .pure (hout _)
      · exact .pure (hout _)
    | block opening => exact hopen opening _
    | lines opening => exact hopen opening _

omit hg he in
theorem keepOpen_of_match (rescan : Rescan) {text : Text} {frame : Frame} {opening : Opening}
    {go : EdgePattern} {captures : Captures}
    (hrule : g.rule frame.rule = .lines opening go captures)
    {pos : Nat} {cache cache' : PatternCache} {matcher : Matcher}
    (hmatcher : g.edgeMatcher go frame.resolved cache = .ok (matcher, cache')) {groups : Groups}
    (hgroups : matcher.search text pos = some groups) (hpos : groups.whole.start = pos)
    (stack : Stack) (rest kept : List Frame) (p : Paint) :
    g.keepOpen rescan text stack (frame :: rest) kept pos p cache =
      (Captures.paint rescan text stack groups frame.nameScopes captures p >>= fun out =>
        g.keepOpen rescan text stack rest (frame :: kept) groups.whole.stop
          (out.upTo groups.whole.stop frame.nameScopes)) cache' := by
  have hfilter : (matcher.search text pos).filter (fun groups => groups.whole.start == pos) =
      some groups := by
    rw [hgroups]
    exact Option.filter_some_pos (beq_iff_eq.2 hpos)
  rw [keepOpen, hrule]
  simp only [bind_apply, hmatcher, Except.bind, hfilter]

theorem keepOpen_claims (nesting : Nat) {text : Text} {frame : Frame} {opening : Opening}
    {go : EdgePattern} {captures : Captures}
    (hrule : g.rule frame.rule = .lines opening go captures)
    {pos : Nat} {cache cache' : PatternCache} (hc : cache.Sound g.engine) {matcher : Matcher}
    (hmatcher : g.edgeMatcher go frame.resolved cache = .ok (matcher, cache')) {groups : Groups}
    (hgroups : matcher.search text pos = some groups) (hpos : groups.whole.start = pos)
    {stack : Stack} {rest kept : List Frame} {p : Paint} {r : Nat × Stack × Paint}
    {last : PatternCache}
    (h : g.keepOpen (g.rescan nesting) text stack (frame :: rest) kept pos p cache =
      .ok (r, last)) :
    ∃ q cache'', groups.Claims captures p q ∧
      g.keepOpen (g.rescan nesting) text stack rest (frame :: kept) groups.whole.stop q cache'' =
        .ok (r, last) := by
  obtain ⟨hin, hc'⟩ :=
    (edgeMatcher_read hg he (congrArg Rule.edge? hrule) _).result cache hc _ _ hmatcher
  rw [keepOpen_of_match _ hrule hmatcher hgroups hpos, bind_apply] at h
  have hpaint := paint_claims hg he nesting text stack (hin text pos groups hgroups)
    frame.nameScopes captures (.refl p) (Nat.le_max_left _ _)
  cases hout : Captures.paint (g.rescan nesting) text stack groups frame.nameScopes captures p
      cache' with
  | error fault => rw [hout] at h; cases h
  | ok painted =>
    rw [hout] at h
    exact ⟨_, _, (hpaint.result cache' hc' _ _ hout).1 _, h⟩

end Grammar

theorem Captures.reach_le {groups : Groups} {place : Nat} (captures : Captures) :
    ∀ (index upto : Nat), upto ≤ place →
      (∀ i span, i < captures.length → groups.get? (index + i) = some span → span.stop ≤ place) →
      captures.reach groups index upto ≤ place := by
  induction captures with
  | nil => intro index upto hupto _; exact hupto
  | cons c rest ih =>
    intro index upto hupto h
    have hrest : ∀ i span, i < rest.length → groups.get? (index + 1 + i) = some span →
        span.stop ≤ place := by
      intro i span hi hget
      rw [Nat.add_assoc, Nat.add_comm 1 i] at hget
      exact h (i + 1) span (Nat.succ_lt_succ hi) hget
    rw [reach]
    cases hget : groups.get? index with
    | none => exact ih _ _ hupto hrest
    | some span =>
      have hspan := h 0 span (Nat.succ_pos _) hget
      dsimp only
      split
      · exact ih _ _ hupto hrest
      · refine ih _ _ ?_ hrest
        split
        · exact hupto
        · exact hspan

namespace Grammar

/-- Whatever a match captures, all that is painted for it ends at or before its end exactly if its
outermost captured groups do, as far as the line goes and was not painted before: for a match that
opens or ends a region or stands for itself, and for one that keeps a region open. Groups inside the
match never reach past its end. -/
theorem matches_claim_iff (engine : Engine) (he : engine.InBounds) (library : Library)
    (file : String) (g : Grammar) (asked : List String)
    (hcompile : Grammar.compile engine library file = (.ok g, asked)) (nesting : Nat)
    (text : Text) :
    (∀ pos stack found out cache cache' step rest, cache.Sound engine →
      g.nextMatch text pos stack cache = .ok (some found, cache') →
      g.act (g.rescan nesting) text pos stack found out cache' = .ok (step, rest) →
      ∃ inside, step.out.spans = inside ++ out.spans ∧
        ((∀ s ∈ inside, s.stop ≤ found.stop) ↔
          min ((g.capturesOf stack found).reach found.groups 0 0) out.limit ≤
            max out.last found.stop)) ∧
    (∀ stack frame opening go captures rest kept pos out cache cache' matcher groups r last,
      g.rule frame.rule = .lines opening go captures → cache.Sound engine →
      g.edgeMatcher go frame.resolved cache = .ok (matcher, cache') →
      matcher.search text pos = some groups → groups.whole.start = pos →
      g.keepOpen (g.rescan nesting) text stack (frame :: rest) kept pos out cache = .ok (r, last) →
      ∃ out' cache'' inside, out'.spans = inside ++ out.spans ∧
        ((∀ s ∈ inside, s.stop ≤ groups.whole.stop) ↔
          min (captures.reach groups 0 0) out.limit ≤ max out.last groups.whole.stop) ∧
        g.keepOpen (g.rescan nesting) text stack rest (frame :: kept) groups.whole.stop out'
          cache'' = .ok (r, last)) ∧
    ∀ (groups : Groups) (captures : Captures),
      (∀ i span, i < captures.length → groups.get? i = some span → span.stop ≤ groups.whole.stop) →
      captures.reach groups 0 0 ≤ groups.whole.stop := by
  obtain ⟨hg, rfl, -⟩ := Compile.closed_of_compile hcompile
  refine ⟨?_, ?_, fun groups captures h => ?_⟩
  · intro pos stack found out cache cache' step rest hc hnext hact
    obtain ⟨hwithin, hc'⟩ := (nextMatch_within hg he text pos stack).result cache hc _ _ hnext
    have hclaims := act_claims hg he nesting text pos stack (hwithin found rfl) out
    exact (hclaims.result cache' hc' _ _ hact).1.stops_le_iff
  · intro stack frame opening go captures rest kept pos out cache cache' matcher groups r last hrule
      hc hmatcher hgroups hpos h
    obtain ⟨out', cache'', hclaims, hrest⟩ :=
      keepOpen_claims hg he nesting hrule hc hmatcher hgroups hpos h
    obtain ⟨inside, hinside, hiff⟩ := hclaims.stops_le_iff
    exact ⟨out', cache'', inside, hinside, hiff, hrest⟩
  · refine captures.reach_le 0 0 (Nat.zero_le _) fun i span hi hget => ?_
    exact h i span hi (Nat.zero_add i ▸ hget)

section Peeking

def peekingText : Text := #['a', 'b', '\n']

def peekingFound : Found := ⟨.rule 1, ⟨⟨0, 1⟩, [some ⟨1, 2⟩]⟩⟩

def peekingPaint : Paint := ⟨[⟨1, 2, ["source.p", "cap"]⟩, ⟨0, 1, ["source.p"]⟩], 2, 2⟩

theorem peeking_compile :
    Grammar.compile Pattern.engine Sample.peekingFile "source.p" = (.ok Sample.peeking, []) := by
  cbv

theorem peeking_act :
    Sample.peeking.nextMatch peekingText 0 (.initial Sample.peeking) {} =
        .ok (some peekingFound, {}) ∧
      Sample.peeking.act (Sample.peeking.rescan Sample.peeking.engine.room) peekingText 0
        (.initial Sample.peeking) peekingFound (.fresh 2) {} =
          .ok (.go 1 (.initial Sample.peeking) peekingPaint, {}) := by
  unfold peekingPaint
  constructor <;> cbv

/-- A match may claim text beyond its end: a rule that matches that text later on does not get
it. -/
theorem match_claims_more :
    Grammar.compile Pattern.engine Sample.peekingFile "source.p" = (.ok Sample.peeking, []) ∧
      Sample.peeking.nextMatch peekingText 0 (.initial Sample.peeking) {} =
        .ok (some peekingFound, {}) ∧
      Sample.peeking.act (Sample.peeking.rescan Sample.peeking.engine.room) peekingText 0
        (.initial Sample.peeking) peekingFound (.fresh 2) {} =
          .ok (.go 1 (.initial Sample.peeking) peekingPaint, {}) ∧
      (¬∀ s ∈ peekingPaint.spans, s.stop ≤ peekingFound.stop) ∧
      Sample.peeking.scanLines 0 (.initial Sample.peeking) ["ab", "b"] {} =
        .ok ([[⟨["source.p"], 0, 0, 1⟩, ⟨["source.p", "cap"], 0, 1, 1⟩],
          [⟨["source.p", "kw"], 1, 0, 1⟩]], [.initial Sample.peeking, .initial Sample.peeking]) :=
  ⟨peeking_compile, peeking_act.1, peeking_act.2, by decide, by cbv⟩

theorem matches_claim_iff_peeking :
    let frame : Frame := ⟨1, ["source.h"], ["source.h"], none, none⟩
    let stack : Stack := ⟨(Stack.initial Sample.holding).root, [frame]⟩
    let kept : Paint := ⟨[⟨1, 2, ["source.h", "cap"]⟩, ⟨0, 1, ["source.h"]⟩], 2, 3⟩
    Pattern.engine.InBounds ∧
      ((∀ s ∈ peekingPaint.spans, s.stop ≤ 1) ↔ min 2 2 ≤ max 0 1) ∧
      Sample.holding.keepOpen (Sample.holding.rescan Sample.holding.engine.room)
        #['a', 'b', 'c', '\n'] stack [frame] [] 0 (.fresh 3) {} = .ok ((2, stack, kept), {}) ∧
      ((∀ s ∈ kept.spans, s.stop ≤ 2) ↔ min 2 3 ≤ max 0 2) := by
  intro frame stack kept
  have hcompile : Grammar.compile Pattern.engine Sample.holdingFile "source.h" =
      (.ok Sample.holding, []) := by cbv
  have hkeep : Sample.holding.keepOpen (Sample.holding.rescan Sample.holding.engine.room)
      #['a', 'b', 'c', '\n']
      stack [frame] [] 0 (.fresh 3) {} = .ok ((2, stack, kept), {}) := by
    unfold kept stack frame
    cbv
  have hsearch : (Sample.pattern "a(b)").search #['a', 'b', 'c', '\n'] 0 =
      some ⟨⟨0, 2⟩, [some ⟨1, 2⟩]⟩ := by cbv
  obtain ⟨hact, -, -⟩ := matches_claim_iff Pattern.engine Pattern.engine_inBounds
    Sample.peekingFile _ _ _ peeking_compile _ peekingText
  obtain ⟨-, hwhile, -⟩ := matches_claim_iff Pattern.engine Pattern.engine_inBounds
    Sample.holdingFile _ _ _ hcompile _ #['a', 'b', 'c', '\n']
  refine ⟨Pattern.engine_inBounds, ?_, hkeep, ?_⟩
  · obtain ⟨inside, hinside, hiff⟩ := hact _ _ _ _ _ _ _ _ (PatternCache.sound_empty _)
      peeking_act.1 peeking_act.2
    have hspans : peekingPaint.spans = inside := hinside.trans (List.append_nil _)
    rw [hspans]
    exact hiff
  · obtain ⟨out, cache, inside, hinside, hiff, hrest⟩ := hwhile _ _ _ _ _ _ _ _ _ _ _ _ _ _ _ rfl
      (PatternCache.sound_empty _) rfl hsearch rfl hkeep
    cases hrest
    have hspans : kept.spans = inside := hinside.trans (List.append_nil _)
    rw [hspans]
    exact hiff

end Peeking

end Grammar

end Highlighting
