import Highlighting.Proofs.Sample
import Highlighting.Proofs.Scan.Claimed

/-!
The scopes of the text of a match, where captured groups lie in each other or one behind the other.
-/
namespace Highlighting
open ScanM

def ScopedSpan.Covers (s : ScopedSpan) (place : Nat) : Prop := s.start ≤ place ∧ place < s.stop

def Capture.names (c : Capture) : Scopes := (c.name.map Words.ofString).getD []

def Captures.Plain (captures : Captures) : Prop := ∀ c ∈ captures, c.patterns = none

instance (captures : Captures) : Decidable captures.Plain :=
  inferInstanceAs (Decidable (∀ c ∈ captures, c.patterns = none))

namespace Groups

def taken? (groups : Groups) (c : Capture) (index : Nat) : Option (Capture × Span) :=
  ((groups.get? index).filter fun span => !(c.isEmpty || span.isEmpty)).map (c, ·)

/-- The captured groups that are not empty, in the order of their numbers, where the first capture
has the number `index`. -/
def takenFrom (groups : Groups) (index : Nat) (captures : Captures) : List (Capture × Span) :=
  (captures.zipIdx index).filterMap fun (c, index) => groups.taken? c index

def taken (groups : Groups) (captures : Captures) : List (Capture × Span) :=
  groups.takenFrom 0 captures

def namesAt (taken : List (Capture × Span)) (place : Nat) : Scopes :=
  (taken.filter fun t => t.2.start ≤ place ∧ place < t.2.stop).flatMap fun t => t.1.names

/-- A group lies inside an earlier one, or not before its end. -/
def Follows (earlier later : Capture × Span) : Prop :=
  earlier.2.start ≤ later.2.start ∧ later.2.stop ≤ earlier.2.stop ∨ earlier.2.stop ≤ later.2.start

instance : DecidableRel Follows := fun _ _ => inferInstanceAs (Decidable (_ ∨ _))

/-- Captured groups begin in the match, and lie in each other or one behind the other. -/
structure Nested (groups : Groups) (captures : Captures) : Prop where
  within : ∀ t ∈ groups.taken captures, groups.whole.start ≤ t.2.start ∧ t.2.start ≤ t.2.stop
  follows : (groups.taken captures).Pairwise Follows

/-- The places of a match that lie in the line are painted, with the scopes of the match and the
names of the groups that they lie in. -/
def Labels (groups : Groups) (base : Scopes) (captures : Captures) (p q : Paint) : Prop :=
  ∃ inside, q.spans = inside ++ p.spans ∧
    ∀ place, groups.whole.start ≤ place → place < groups.whole.stop → place < p.limit →
      (∃ s ∈ inside, s.Covers place) ∧
        ∀ s ∈ inside, s.Covers place → s.scopes = base ++ namesAt (groups.taken captures) place

theorem namesAt_cons (t : Capture × Span) (rest : List (Capture × Span)) (place : Nat) :
    namesAt (t :: rest) place =
      (if t.2.start ≤ place ∧ place < t.2.stop then t.1.names else []) ++ namesAt rest place := by
  unfold namesAt
  by_cases h : t.2.start ≤ place ∧ place < t.2.stop
  · rw [if_pos h, List.filter_cons_of_pos (by simpa using h), List.flatMap_cons]
  · rw [if_neg h, List.filter_cons_of_neg (by simpa using h), List.nil_append]

theorem taken?_fst {groups : Groups} {c : Capture} {index : Nat} {t : Capture × Span}
    (h : groups.taken? c index = some t) : t.1 = c := by
  obtain ⟨span, -, rfl⟩ := Option.map_eq_some_iff.1 h
  rfl

theorem takenFrom_cons (groups : Groups) (index : Nat) (c : Capture) (rest : Captures) :
    groups.takenFrom index (c :: rest) =
      (groups.taken? c index).toList ++ groups.takenFrom (index + 1) rest := by
  unfold takenFrom
  rw [List.zipIdx_cons, List.filterMap_cons]
  dsimp only
  cases groups.taken? c index <;> rfl

theorem Labels.of_further {groups : Groups} {base : Scopes} {captures : Captures} {p q r : Paint}
    (h : groups.Labels base captures q r) (hp : p.Further q) (hlast : q.last ≤ groups.whole.start) :
    groups.Labels base captures p r := by
  obtain ⟨hlimit, -, before, hbefore, hwithin, -⟩ := hp
  obtain ⟨inside, hinside, hlabel⟩ := h
  refine ⟨inside ++ before, by rw [hinside, hbefore, List.append_assoc],
    fun place hstart hstop hin => ?_⟩
  obtain ⟨⟨s, hs, hcovers⟩, hscopes⟩ := hlabel place hstart hstop (hlimit ▸ hin)
  refine ⟨⟨s, List.mem_append_left _ hs, hcovers⟩, fun s hs hcovers => ?_⟩
  obtain hs | hs := List.mem_append.1 hs
  · exact hscopes s hs hcovers
  · have hle := (hwithin s hs).2.2
    have hlt := hcovers.2
    omega

end Groups

/-- What has been painted since some earlier paint shows each place as a label has it. -/
structure Paint.Shows (first : Paint) (label : Nat → Scopes) (p : Paint) : Prop where
  limit_eq : p.limit = first.limit
  spans : ∃ inside, p.spans = inside ++ first.spans ∧ (∀ s ∈ inside, s.stop ≤ p.last) ∧
    ∀ place, first.last ≤ place → place < p.last →
      (∃ s ∈ inside, s.Covers place) ∧ ∀ s ∈ inside, s.Covers place → s.scopes = label place

namespace Paint.Shows
variable {first p : Paint} {label label' : Nat → Scopes}

theorem refl (p : Paint) (label : Nat → Scopes) : p.Shows label p :=
  ⟨rfl, [], rfl, nofun, fun _ hle hlt => absurd hlt (Nat.not_lt_of_le hle)⟩

theorem congr (h : first.Shows label p)
    (hlabel : ∀ place, first.last ≤ place → place < p.last → label place = label' place) :
    first.Shows label' p := by
  obtain ⟨hlimit, inside, hinside, hstops, hshown⟩ := h
  refine ⟨hlimit, inside, hinside, hstops, fun place hle hlt => ?_⟩
  obtain ⟨hcovered, hscopes⟩ := hshown place hle hlt
  exact ⟨hcovered, fun s hs hcovers => hlabel place hle hlt ▸ hscopes s hs hcovers⟩

theorem upTo (h : first.Shows label p) {stop : Nat} {scopes : Scopes}
    (hlabel : ∀ place, p.last ≤ place → place < stop → place < p.limit → label place = scopes) :
    first.Shows label (p.upTo stop scopes) := by
  obtain ⟨hlimit, inside, hinside, hstops, hshown⟩ := h
  unfold Paint.upTo
  dsimp only
  split
  · next hlt =>
    refine ⟨hlimit, ⟨p.last, min stop p.limit, scopes⟩ :: inside, congrArg _ hinside, ?_, ?_⟩
    · refine List.forall_mem_cons.2 ⟨Nat.le_refl _, fun s hs => ?_⟩
      exact Nat.le_trans (hstops s hs) (Nat.le_of_lt hlt)
    · intro place hle hplace
      by_cases hbefore : place < p.last
      · obtain ⟨⟨s, hs, hcovers⟩, hscopes⟩ := hshown place hle hbefore
        refine ⟨⟨s, List.mem_cons_of_mem _ hs, hcovers⟩, List.forall_mem_cons.2 ⟨?_, hscopes⟩⟩
        exact fun hcovers => absurd hbefore (Nat.not_lt_of_le hcovers.1)
      · have hfrom : p.last ≤ place := Nat.le_of_not_lt hbefore
        refine ⟨⟨_, List.mem_cons_self, hfrom, hplace⟩, List.forall_mem_cons.2 ⟨fun _ => ?_, ?_⟩⟩
        · obtain ⟨hstop, hin⟩ := Nat.lt_min.1 hplace
          exact (hlabel place hfrom hstop hin).symm
        · intro s hs hcovers
          exact absurd (Nat.lt_of_lt_of_le hcovers.2 (hstops s hs)) hbefore
  · exact ⟨hlimit, inside, hinside, hstops, hshown⟩

end Paint.Shows

namespace Captures
variable {first p : Paint} {base : Scopes} {label : Nat → Scopes} {opened : List OpenGroup}
  {place : Nat}

/-- What open groups give to a place that is not painted yet. -/
def ahead (base : Scopes) (opened : List OpenGroup) (place : Nat) : Scopes :=
  (opened.find? fun group => place < group.stop).elim base OpenGroup.scopes

theorem ahead_cons_of_lt {group : OpenGroup} (h : place < group.stop) :
    ahead base (group :: opened) place = group.scopes := by
  unfold ahead
  rw [List.find?_cons_of_pos (by simpa using h), Option.elim_some]

theorem ahead_cons_of_le {group : OpenGroup} (h : group.stop ≤ place) :
    ahead base (group :: opened) place = ahead base opened place := by
  unfold ahead
  rw [List.find?_cons_of_neg (by simpa using h)]

theorem ahead_of_head (h : ∀ group ∈ opened.head?, place < group.stop) :
    ahead base opened place = opened.head?.elim base OpenGroup.scopes := by
  cases opened with
  | nil => rfl
  | cons group rest => exact ahead_cons_of_lt (h group rfl)

/-- How far groups have been painted, and that the open ones give to what is left what a label
has. -/
structure Stands (first : Paint) (base : Scopes) (label : Nat → Scopes) (opened : List OpenGroup)
    (p : Paint) : Prop where
  shows : first.Shows label p
  ahead : ∀ place, p.last ≤ place → place < p.limit → label place = ahead base opened place

namespace Stands

theorem close {group : OpenGroup} {rest : List OpenGroup}
    (h : Stands first base label (group :: rest) p) :
    Stands first base label rest (p.upTo group.stop group.scopes) := by
  constructor
  · refine h.shows.upTo fun place hle hlt hin => ?_
    rw [h.ahead place hle hin, ahead_cons_of_lt hlt]
  · intro place hle hin
    rw [(p.further_upTo _ _).limit_eq] at hin
    rw [Paint.last_upTo] at hle
    rw [h.ahead place (by omega) hin, ahead_cons_of_le (by omega)]

theorem closeUpTo (h : Stands first base label opened p) (place : Nat) :
    Stands first base label (closeUpTo place opened p).1 (closeUpTo place opened p).2 := by
  induction opened generalizing p with
  | nil => exact h
  | cons group rest ih =>
    rw [Captures.closeUpTo]
    split
    · exact ih h.close
    · exact h

theorem closeAll (h : Stands first base label opened p) :
    Stands first base label [] (closeAll opened p) := by
  induction opened generalizing p with
  | nil => exact h
  | cons group rest ih => exact ih h.close

theorem goOn (h : Stands first base label opened p)
    (hopened : ∀ group ∈ opened.head?, place ≤ group.stop) :
    Stands first base label opened (p.upTo place (opened.head?.elim base OpenGroup.scopes)) := by
  have hfurther := p.further_upTo place (opened.head?.elim base OpenGroup.scopes)
  constructor
  · refine h.shows.upTo fun at_ hle hlt hin => ?_
    rw [h.ahead at_ hle hin, ahead_of_head]
    exact fun group hgroup => Nat.lt_of_lt_of_le hlt (hopened group hgroup)
  · intro at_ hle hin
    exact h.ahead at_ (Nat.le_trans hfurther.last_le hle) (hfurther.limit_eq ▸ hin)

theorem push (h : Stands first base label opened p) (t : Capture × Span)
    (hlast : p.last ≤ t.2.start)
    (hcome : ∀ place, p.last ≤ place → place < p.limit → t.2.start ≤ place)
    (hopened : ∀ group ∈ opened.head?, t.2.stop ≤ group.stop) :
    Stands first base
      (fun place => label place ++ if t.2.start ≤ place ∧ place < t.2.stop then t.1.names else [])
      (⟨t.2.stop, (opened.head?.elim base OpenGroup.scopes).enter t.1.name⟩ :: opened) p := by
  constructor
  · refine h.shows.congr fun place _ hlt => ?_
    rw [if_neg (by omega), List.append_nil]
  · intro place hle hin
    have hstart := hcome place hle hin
    rw [h.ahead place hle hin]
    by_cases hstop : place < t.2.stop
    · rw [if_pos ⟨hstart, hstop⟩, ahead_cons_of_lt hstop, ahead_of_head]
      · rfl
      · exact fun group hgroup => Nat.lt_of_lt_of_le hstop (hopened group hgroup)
    · rw [if_neg (by omega), List.append_nil, ahead_cons_of_le (Nat.le_of_not_lt hstop)]

end Stands

/-- Groups are closed from the innermost one on, and a stroke of one that is closed ends at the
place or before it. -/
theorem closeUpTo_spec (place : Nat) (opened : List OpenGroup) (p : Paint) :
    (closeUpTo place opened p).1 <:+ opened ∧
      (∀ group ∈ (closeUpTo place opened p).1.head?, place < group.stop) ∧
      (closeUpTo place opened p).2.last ≤ max p.last place := by
  induction opened generalizing p with
  | nil => exact ⟨List.suffix_refl _, nofun, Nat.le_max_left _ _⟩
  | cons group rest ih =>
    rw [closeUpTo]
    split
    · next hle =>
      obtain ⟨hsuffix, hhead, hlast⟩ := ih (p.upTo group.stop group.scopes)
      rw [Paint.last_upTo] at hlast
      exact ⟨hsuffix.trans (List.suffix_cons _ _), hhead, by omega⟩
    · next hlt =>
      refine ⟨List.suffix_refl _, ?_, Nat.le_max_left _ _⟩
      rintro _ ⟨⟩
      exact Nat.lt_of_not_le hlt

/-- The paint has not passed the groups that are left, and each of these lies inside an open one or
not before its end. -/
structure Ready (left : List (Capture × Span)) (opened : List OpenGroup) (p : Paint) : Prop where
  span : ∀ t ∈ left, p.last ≤ t.2.start ∧ t.2.start ≤ t.2.stop
  opened : ∀ t ∈ left, ∀ group ∈ opened, t.2.stop ≤ group.stop ∨ group.stop ≤ t.2.start

namespace Ready
variable {t : Capture × Span} {left : List (Capture × Span)} {still : List OpenGroup}

theorem stop_le (h : Ready (t :: left) opened p) (hsuffix : still <:+ opened)
    (hhead : ∀ group ∈ still.head?, t.2.start < group.stop) :
    ∀ group ∈ still.head?, t.2.stop ≤ group.stop := by
  intro group hgroup
  have hmem := hsuffix.mem (List.mem_of_mem_head? hgroup)
  obtain hle | hle := h.opened t List.mem_cons_self group hmem
  · exact hle
  · exact absurd hle (Nat.not_le_of_lt (hhead group hgroup))

theorem push (h : Ready (t :: left) opened p) (hsuffix : still <:+ opened)
    (hfollows : ∀ later ∈ left, Groups.Follows t later) {q : Paint} (hq : q.last ≤ t.2.start)
    (scopes : Scopes) : Ready left (⟨t.2.stop, scopes⟩ :: still) q := by
  obtain ⟨⟨-, hspan⟩, hspans⟩ := List.forall_mem_cons.1 h.span
  obtain ⟨-, hopened⟩ := List.forall_mem_cons.1 h.opened
  constructor
  · intro later hlater
    have hstart : t.2.start ≤ later.2.start :=
      (hfollows later hlater).elim And.left (Nat.le_trans hspan)
    exact ⟨Nat.le_trans hq hstart, (hspans later hlater).2⟩
  · intro later hlater group hgroup
    obtain rfl | hgroup := List.mem_cons.1 hgroup
    · exact (hfollows later hlater).imp_left And.right
    · exact hopened later hlater group (hsuffix.mem hgroup)

end Ready

section Painting
variable (rescan : Rescan) (text : Text) (stack : Stack)

theorem paintGroup_stands (h : Stands first base label opened p) {t : Capture × Span}
    {left : List (Capture × Span)} (hready : Ready (t :: left) opened p)
    (hfollows : ∀ later ∈ left, Groups.Follows t later) (hplain : t.1.patterns = none) :
    ∃ r, paintGroup rescan text stack base t.1 t.2 opened p = pure r ∧ Ready left r.1 r.2 ∧
      Stands first base
        (fun place => label place ++ if t.2.start ≤ place ∧ place < t.2.stop then t.1.names else [])
        r.1 r.2 := by
  obtain ⟨hsuffix, hhead, hlast⟩ := closeUpTo_spec t.2.start opened p
  have hclosed := h.closeUpTo t.2.start
  unfold paintGroup
  rcases hclose : closeUpTo t.2.start opened p with ⟨still, out⟩
  rw [hclose] at hsuffix hhead hlast hclosed
  dsimp only at hsuffix hhead hlast hclosed ⊢
  have hholds := hready.stop_le hsuffix hhead
  have hstop : (still.head?.elim t.2.stop fun group => min t.2.stop group.stop) = t.2.stop := by
    cases still with
    | nil => rfl
    | cons group rest => exact Nat.min_eq_left (hholds group rfl)
  have hgone := hclosed.goOn fun group hgroup => Nat.le_of_lt (hhead group hgroup)
  have hstart := (hready.span t List.mem_cons_self).1
  have hcome := Paint.last_upTo out t.2.start (still.head?.elim base OpenGroup.scopes)
  have hlimit := (out.further_upTo t.2.start (still.head?.elim base OpenGroup.scopes)).limit_eq
  have hle : (out.upTo t.2.start (still.head?.elim base OpenGroup.scopes)).last ≤ t.2.start := by
    omega
  rw [hplain, hstop]
  refine ⟨_, rfl, hready.push hsuffix hfollows hle _, hgone.push t hle ?_ hholds⟩
  intro place hplace hin
  omega

variable {groups : Groups}

theorem paintFrom_cons (index : Nat) (c : Capture) (rest : Captures) :
    paintFrom rescan text stack groups base index (c :: rest) opened p =
      match groups.taken? c index with
      | none => paintFrom rescan text stack groups base (index + 1) rest opened p
      | some t => paintGroup rescan text stack base t.1 t.2 opened p >>= fun r =>
        paintFrom rescan text stack groups base (index + 1) rest r.1 r.2 := by
  rw [paintFrom, Groups.taken?]
  cases groups.get? index with
  | none => rfl
  | some span =>
    dsimp only
    cases hskip : c.isEmpty || span.isEmpty with
    | true => rw [Option.filter_some_neg (by rw [hskip]; rfl)]; rfl
    | false => rw [Option.filter_some_pos (by rw [hskip]; rfl)]; rfl

theorem paintFrom_stands (captures : Captures) (hplain : captures.Plain) :
    ∀ (index : Nat) (label : Nat → Scopes) (opened : List OpenGroup) (p : Paint),
      Stands first base label opened p → Ready (groups.takenFrom index captures) opened p →
      (groups.takenFrom index captures).Pairwise Groups.Follows →
      ∃ q, paintFrom rescan text stack groups base index captures opened p = pure q ∧
        Stands first base
          (fun place => label place ++ Groups.namesAt (groups.takenFrom index captures) place) []
          q := by
  induction captures with
  | nil =>
    intro index label opened p h hready hfollows
    refine ⟨closeAll opened p, rfl, ?_⟩
    have hlabel : label =
        fun place => label place ++ Groups.namesAt (groups.takenFrom index []) place := by
      funext place
      exact (List.append_nil _).symm
    exact hlabel ▸ h.closeAll
  | cons c rest ih =>
    intro index label opened p h hready hfollows
    obtain ⟨hc, hrest⟩ := List.forall_mem_cons.1 hplain
    rw [Groups.takenFrom_cons] at hready hfollows ⊢
    rw [paintFrom_cons]
    cases htaken : groups.taken? c index with
    | none =>
      rw [htaken] at hready hfollows
      exact ih hrest (index + 1) label opened p h hready hfollows
    | some t =>
      rw [htaken, Option.toList_some, List.singleton_append] at hready hfollows
      obtain ⟨hfirst, hfollows⟩ := List.pairwise_cons.1 hfollows
      obtain ⟨⟨still, out⟩, hpaint, hready, hstands⟩ := paintGroup_stands rescan text stack h hready
        hfirst (Groups.taken?_fst htaken ▸ hc)
      obtain ⟨q, hq, hall⟩ := ih hrest (index + 1) _ still out hstands hready hfollows
      refine ⟨q, ?_, ?_⟩
      · dsimp only
        rw [hpaint, pure_bind]
        exact hq
      · simpa only [Option.toList_some, List.singleton_append, Groups.namesAt_cons,
          List.append_assoc] using hall

theorem paint_labels (base : Scopes) {captures : Captures} (hplain : captures.Plain)
    (hnested : groups.Nested captures) (hlast : p.last ≤ groups.whole.start) :
    ∃ q, paint rescan text stack groups base captures p = pure q ∧
      groups.Labels base captures p (q.upTo groups.whole.stop base) := by
  have hstart : Stands p base (fun _ => base) [] p := ⟨.refl p _, fun _ _ _ => rfl⟩
  have hready : Ready (groups.taken captures) [] p := by
    refine ⟨fun t ht => ?_, fun _ _ => nofun⟩
    obtain ⟨hwhole, hspan⟩ := hnested.within t ht
    exact ⟨Nat.le_trans hlast hwhole, hspan⟩
  obtain ⟨q, hq, hstands⟩ :=
    paintFrom_stands rescan text stack captures hplain 0 _ [] p hstart hready hnested.follows
  have hshows : p.Shows _ (q.upTo groups.whole.stop base) := (hstands.goOn nofun).shows
  obtain ⟨inside, hinside, -, hshown⟩ := hshows.spans
  refine ⟨q, hq, inside, hinside, fun place hle hlt hin => hshown place (by omega) ?_⟩
  rw [Paint.last_upTo, hstands.shows.limit_eq]
  omega

theorem paint_labels_behind (base : Scopes) {captures : Captures} (hplain : captures.Plain)
    (hnested : groups.Nested captures) (hlast : p.last ≤ groups.whole.start) (before : Scopes) :
    ∃ q, paint rescan text stack groups base captures (p.upTo groups.whole.start before) = pure q ∧
      groups.Labels base captures p (q.upTo groups.whole.stop base) := by
  have hstart : (p.upTo groups.whole.start before).last ≤ groups.whole.start := by
    rw [Paint.last_upTo]
    omega
  obtain ⟨q, hq, hlabels⟩ := paint_labels rescan text stack base hplain hnested hstart
  exact ⟨q, hq, hlabels.of_further (p.further_upTo _ _) hstart⟩

end Painting

end Captures

namespace Grammar

def scopesOf? (g : Grammar) (stack : Stack) (found : Found) : Option Scopes :=
  match found.candidate with
  | .stop => stack.pop?.map fun popped => popped.1.nameScopes
  | .rule id =>
    match g.rule id with
    | .container _ => none
    | .single name _ _ => some (stack.scopes.enter name)
    | .block opening .. | .lines opening .. => some (stack.scopes.enter opening.name)

variable {g : Grammar} (rescan : Rescan) (text : Text)

theorem openRegion_labels (stack : Stack) {found : Found} (rule : Nat) {opening : Opening}
    (resolved : Option String) (hplain : opening.captures.Plain)
    (hnested : found.groups.Nested opening.captures) {p : Paint} (hlast : p.last ≤ found.start)
    (before : Scopes) (cache : PatternCache) :
    openRegion rescan text stack found rule opening resolved (p.upTo found.start before) cache =
        .error .tooDeep ∨
      ∃ step, openRegion rescan text stack found rule opening resolved
        (p.upTo found.start before) cache =
          .ok (step, cache) ∧
        found.groups.Labels (stack.scopes.enter opening.name) opening.captures p step.out := by
  obtain ⟨q, hq, hlabels⟩ := Captures.paint_labels_behind rescan text stack
    (stack.scopes.enter opening.name) hplain hnested hlast before
  unfold openRegion
  dsimp only
  rw [Found.start, hq, pure_bind]
  split
  · exact .inr ⟨_, rfl, hlabels⟩
  · cases stack.push? _ with
    | some pushed => exact .inr ⟨_, rfl, hlabels⟩
    | none => exact .inl rfl

/-- A match comes to a result, unless it opens a region and too many are open, and it labels its
text. -/
theorem act_labels (pos : Nat) (stack : Stack) {found : Found} {base : Scopes} {captures : Captures}
    (hbase : g.scopesOf? stack found = some base) (hcaptures : g.capturesOf stack found = captures)
    (hplain : captures.Plain) (hnested : found.groups.Nested captures) {p : Paint}
    (hlast : p.last ≤ found.start) (cache : PatternCache) :
    g.act rescan text pos stack found p cache = .error .tooDeep ∨
      ∃ step, g.act rescan text pos stack found p cache = .ok (step, cache) ∧
        found.groups.Labels base captures p step.out := by
  unfold scopesOf? at hbase
  unfold capturesOf at hcaptures
  unfold act
  cases hcandidate : found.candidate with
  | stop =>
    rw [hcandidate] at hbase hcaptures
    unfold closeRegion
    cases hpop : stack.pop? with
    | none => rw [hpop] at hbase; cases hbase
    | some popped =>
      obtain ⟨frame, below⟩ := popped
      rw [hpop] at hbase hcaptures
      cases hbase
      have hstop : (g.rule frame.rule).stopCaptures = captures := hcaptures
      obtain ⟨q, hq, hlabels⟩ := Captures.paint_labels_behind rescan text below
        frame.nameScopes hplain hnested hlast frame.contentScopes
      refine .inr ?_
      dsimp only
      rw [hstop, Found.start, hq, pure_bind]
      split <;> exact ⟨_, rfl, hlabels⟩
  | rule id =>
    rw [hcandidate] at hbase hcaptures
    dsimp only at hbase hcaptures ⊢
    cases hrule : g.rule id with
    | container => rw [hrule] at hbase; cases hbase
    | single name matcher captures =>
      rw [hrule] at hbase hcaptures
      cases hbase
      cases hcaptures
      obtain ⟨q, hq, hlabels⟩ := Captures.paint_labels_behind rescan text stack
        (stack.scopes.enter name) hplain hnested hlast stack.scopes
      refine .inr ?_
      dsimp only
      rw [Found.start, hq, pure_bind]
      split <;> exact ⟨_, rfl, hlabels⟩
    | block opening stop stopCaptures stopLast =>
      rw [hrule] at hbase hcaptures
      cases hbase
      cases hcaptures
      exact openRegion_labels rescan text stack id _ hplain hnested hlast stack.scopes cache
    | lines opening go goCaptures =>
      rw [hrule] at hbase hcaptures
      cases hbase
      cases hcaptures
      exact openRegion_labels rescan text stack id _ hplain hnested hlast stack.scopes cache

theorem keepOpen_labels {frame : Frame} {opening : Opening} {go : EdgePattern} {captures : Captures}
    (hrule : g.rule frame.rule = .lines opening go captures) {pos : Nat}
    {cache cache' : PatternCache}
    {matcher : Matcher} (hmatcher : g.edgeMatcher go frame.resolved cache = .ok (matcher, cache'))
    {groups : Groups} (hgroups : matcher.search text pos = some groups)
    (hpos : groups.whole.start = pos) (hplain : captures.Plain) (hnested : groups.Nested captures)
    {p : Paint} (hlast : p.last ≤ pos) (stack : Stack) (rest kept : List Frame) :
    ∃ q, groups.Labels frame.nameScopes captures p q ∧
      g.keepOpen rescan text stack (frame :: rest) kept pos p cache =
        g.keepOpen rescan text stack rest (frame :: kept) groups.whole.stop q cache' := by
  obtain ⟨q, hq, hlabels⟩ := Captures.paint_labels rescan text stack frame.nameScopes hplain hnested
    (hpos ▸ hlast)
  refine ⟨_, hlabels, ?_⟩
  rw [keepOpen_of_match rescan hrule hmatcher hgroups hpos, hq, pure_bind]

/-- Where captures have no patterns and the groups that they name lie in each other or one behind
the other, each place of a match has the scopes of the match and the names of the groups that it
lies in: when captures are painted up to the end of a match, when a match stands for itself or opens
or ends a region, and when it keeps a region open. -/
theorem matches_labelled (g : Grammar) (rescan : Rescan) (text : Text) :
    (∀ stack groups base captures out, Captures.Plain captures → groups.Nested captures →
      out.last ≤ groups.whole.start →
      ∃ out', Captures.paint rescan text stack groups base captures out = pure out' ∧
        groups.Labels base captures out (out'.upTo groups.whole.stop base)) ∧
    (∀ pos stack found base out cache, g.scopesOf? stack found = some base →
      (g.capturesOf stack found).Plain → found.groups.Nested (g.capturesOf stack found) →
      out.last ≤ found.start →
      g.act rescan text pos stack found out cache = .error .tooDeep ∨
        ∃ step, g.act rescan text pos stack found out cache = .ok (step, cache) ∧
          found.groups.Labels base (g.capturesOf stack found) out step.out) ∧
    ∀ stack frame opening go captures rest kept pos out cache cache' matcher groups,
      g.rule frame.rule = .lines opening go captures →
      g.edgeMatcher go frame.resolved cache = .ok (matcher, cache') →
      matcher.search text pos = some groups → groups.whole.start = pos →
      captures.Plain → groups.Nested captures → out.last ≤ pos →
      ∃ out', groups.Labels frame.nameScopes captures out out' ∧
        g.keepOpen rescan text stack (frame :: rest) kept pos out cache =
          g.keepOpen rescan text stack rest (frame :: kept) groups.whole.stop out' cache' := by
  refine ⟨?_, ?_, ?_⟩
  · intro stack groups base captures out hplain hnested hlast
    exact Captures.paint_labels rescan text stack base hplain hnested hlast
  · intro pos stack found base out cache hbase hplain hnested hlast
    exact act_labels rescan text pos stack hbase rfl hplain hnested hlast cache
  · intro stack frame opening go captures rest kept pos out cache cache' matcher groups
      hrule hmatcher hgroups hpos hplain hnested hlast
    exact keepOpen_labels rescan text hrule hmatcher hgroups hpos hplain hnested hlast stack
      rest kept

section Pairs

def pairsText : Text := #['a', 'b', ' ', '\n']

def pairsFound : Found :=
  ⟨.rule 1, ⟨⟨0, 2⟩, [some ⟨0, 2⟩, some ⟨0, 1⟩, some ⟨1, 2⟩, none, some ⟨2, 2⟩]⟩⟩

def pairsCaptures : Captures :=
  [{}, { name := some "both of" }, { name := some "first" }, { name := some "second" },
    { name := some "other" }, { name := some "empty" }]

def pairsPaint : Paint :=
  ⟨[⟨1, 2, ["source.n", "pair", "both", "of", "second"]⟩,
    ⟨0, 1, ["source.n", "pair", "both", "of", "first"]⟩], 2, 3⟩

theorem pairs_nextMatch :
    Sample.pairs.nextMatch pairsText 0 (.initial Sample.pairs) {} = .ok (some pairsFound, {}) := by
  cbv

theorem pairs_scopesOf :
    Sample.pairs.scopesOf? (.initial Sample.pairs) pairsFound = some ["source.n", "pair"] := by
  have hname : Scopes.enter ["source.n"] (some "pair") = ["source.n", "pair"] := by cbv
  exact congrArg some hname

theorem pairs_act (rescan : Rescan) :
    Sample.pairs.act rescan pairsText 0 (.initial Sample.pairs) pairsFound (.fresh 3) {} =
      .ok (.go 2 (.initial Sample.pairs) pairsPaint, {}) := by
  have hrule : Sample.pairs.rule 1 =
      .single (some "pair") (Sample.pattern "((a)(b)|(c))()") pairsCaptures := rfl
  unfold act pairsFound pairsPaint
  dsimp only
  rw [hrule]
  -- the patterns do not matter for what follows
  generalize Sample.pattern "((a)(b)|(c))()" = matcher
  generalize hstack : Stack.initial Sample.pairs = stack
  obtain rfl : stack = ⟨⟨0, ["source.n"], ["source.n"], none, none⟩, []⟩ := hstack.symm
  cbv

theorem matches_labelled_pairs :
    let quoted : Text := #['>', ' ', 'c', '\n']
    let frame : Frame := ⟨2, ["source.n", "quote"], ["source.n", "quote"], none, none⟩
    let stack : Stack := ⟨(Stack.initial Sample.pairs).root, [frame]⟩
    let groups : Groups := ⟨⟨0, 2⟩, [some ⟨0, 2⟩, some ⟨1, 2⟩]⟩
    let captures : Captures := [{ name := some "go" }, {}, { name := some "gap" }]
    let rescan := Sample.pairs.rescan Sample.pairs.engine.room
    Sample.pairs.nextMatch pairsText 0 (.initial Sample.pairs) {} = .ok (some pairsFound, {}) ∧
      pairsCaptures.Plain ∧ pairsFound.groups.Nested pairsCaptures ∧
      pairsFound.groups.Labels ["source.n", "pair"] pairsCaptures (.fresh 3) pairsPaint ∧
      captures.Plain ∧ groups.Nested captures ∧
      ∃ out, groups.Labels ["source.n", "quote"] captures (.fresh 3) out ∧
        Sample.pairs.keepOpen rescan quoted stack [frame] [] 0 (.fresh 3) {} =
          Sample.pairs.keepOpen rescan quoted stack [] [frame] 2 out {} := by
  intro quoted frame stack groups captures rescan
  have htaken : pairsFound.groups.taken pairsCaptures =
      [({ name := some "both of" }, ⟨0, 2⟩), ({ name := some "first" }, ⟨0, 1⟩),
        ({ name := some "second" }, ⟨1, 2⟩)] := rfl
  have hnested : pairsFound.groups.Nested pairsCaptures := by
    constructor <;> rw [htaken] <;> decide
  have hplain : pairsCaptures.Plain := by decide
  have htaken' : groups.taken captures =
      [({ name := some "go" }, ⟨0, 2⟩), ({ name := some "gap" }, ⟨1, 2⟩)] := rfl
  have hnested' : groups.Nested captures := by
    constructor <;> rw [htaken'] <;> decide
  have hplain' : captures.Plain := by
    unfold captures
    decide
  have hsearch : (Sample.pattern "(>( ))").search quoted 0 = some groups := by
    unfold quoted groups
    cbv
  obtain ⟨-, hact, -⟩ := matches_labelled Sample.pairs rescan pairsText
  obtain ⟨-, -, hwhile⟩ := matches_labelled Sample.pairs rescan quoted
  have hlabels : pairsFound.groups.Labels ["source.n", "pair"] pairsCaptures
      (.fresh 3) pairsPaint := by
    have hcases := hact 0 (.initial Sample.pairs) pairsFound ["source.n", "pair"] (.fresh 3) {}
      pairs_scopesOf hplain hnested (Nat.le_refl 0)
    rw [pairs_act] at hcases
    obtain hdeep | ⟨step, hstep, hlabels⟩ := hcases
    · cases hdeep
    · cases hstep
      exact hlabels
  obtain ⟨out, hout, hrest⟩ := hwhile stack frame _ _ captures [] [] 0 (.fresh 3) {} {} _ groups
    rfl rfl hsearch rfl hplain' hnested' (Nat.le_refl 0)
  exact ⟨pairs_nextMatch, hplain, hnested, hlabels, hplain', hnested', out, hout, hrest⟩

end Pairs

end Grammar

end Highlighting
