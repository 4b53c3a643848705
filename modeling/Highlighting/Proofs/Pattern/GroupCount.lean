import Highlighting.Pattern.Match
import Highlighting.Proofs.Pattern.Openings

/-! How many groups a pattern has: no more than it opens brackets that are not escaped. -/
namespace Highlighting

namespace Pattern
variable {α β : Type} {text : List Char} {n m : Nat}

/-- The groups that have been opened, and the brackets that may open more. -/
def Progress.weight (p : Progress) : Nat := p.groupCount + openings p.rest

theorem weight_eq {p : Progress} (h : p.rest = text) : p.weight = p.groupCount + openings text := by
  rw [Progress.weight, h]

/-- Reading on from `p` leads to no more groups than `n`, brackets that are still to be read
included. -/
def Stays (n : Nat) (read : ReadM α) (p : Progress) : Prop :=
  ∀ a p', read p = .ok (a, p') → p'.weight ≤ n

namespace Stays
variable {p : Progress}

theorem pure {a : α} (h : p.weight ≤ n) : Stays n (pure a) p := by
  rintro _ _ ⟨⟩
  exact h

theorem throw (fault : Fault) : Stays n (throw fault : ReadM α) p := nofun

theorem thrown {fault : Fault} {f : α → ReadM β} :
    Stays n (MonadExcept.throw fault >>= f) p := nofun

theorem bind {read : ReadM α} {f : α → ReadM β} (h : Stays m read p)
    (hf : ∀ a p', p'.weight ≤ m → Stays n (f a) p') : Stays n (read >>= f) p := by
  intro b q hq
  have hrun : (read >>= f) p = (read p).bind fun r => f r.1 r.2 := rfl
  cases hread : read p with
  | error fault =>
    rw [hrun, hread] at hq
    cases hq
  | ok r =>
    rw [hrun, hread] at hq
    exact hf r.1 r.2 (h r.1 r.2 hread) b q hq

theorem mono {read : ReadM α} (h : Stays m read p) (hle : m ≤ n) : Stays n read p :=
  fun a p' hread => Nat.le_trans (h a p' hread) hle

theorem value {a : α} {f : α → ReadM β} (h : Stays n (f a) p) : Stays n (Pure.pure a >>= f) p := h

theorem rest {f : List Char → ReadM β} (h : Stays n (f p.rest) p) : Stays n (rest >>= f) p := h

theorem get {f : Progress → ReadM β} (h : Stays n (f p) p) : Stays n (get >>= f) p := h

theorem set {f : PUnit → ReadM β} {p' : Progress} (h : Stays n (f ⟨⟩) p') :
    Stays n (set p' >>= f) p := h

theorem modify {f : PUnit → ReadM β} {g : Progress → Progress} (h : Stays n (f ⟨⟩) (g p)) :
    Stays n (modify g >>= f) p := h

theorem setRest {f : Unit → ReadM β} {text : List Char}
    (h : Stays n (f ()) { p with rest := text }) :
    Stays n (setRest text >>= f) p := h

theorem lift {x : Except Fault α} {f : α → ReadM β} (h : ∀ a, x = .ok a → Stays n (f a) p) :
    Stays n ((x : ReadM α) >>= f) p := by
  cases x with
  | error fault => nofun
  | ok a => exact h a rfl

theorem readWith {read : List Char → Except Fault (α × Rest)} {f : α → ReadM β}
    (h : Leaves m (read p.rest))
    (hf : ∀ a text, openings text ≤ m → Stays n (f a) { p with rest := text }) :
    Stays n (readWith read >>= f) p := by
  unfold Pattern.readWith
  simp only [bind_assoc, pure_bind]
  exact .rest (.lift fun r hr => .setRest (hf r.1 r.2 (h r.1 r.2 hr)))

end Stays

section
variable {p : Progress} {o : Options}

theorem skip_stays (o : Options) (p : Progress) : Stays p.weight (skip o) p := by
  unfold skip
  refine .rest (.lift fun text h => ?_)
  rintro _ _ ⟨⟩
  exact Nat.add_le_add_left (skipIgnored_le h) _

theorem readRepeats_stays (fuel : Nat) (whole : Bool) (node : Node) (p : Progress) :
    Stays p.weight (readRepeats o fuel whole node) p := by
  induction fuel generalizing whole node p with
  | zero => exact .throw _
  | succ fuel ih =>
    unfold readRepeats
    refine .bind (skip_stays o p) fun _ q hq => .rest (.lift fun r? hr => ?_)
    cases r? with
    | none => exact .pure hq
    | some r =>
      have hnext : { q with rest := r.2 }.weight ≤ p.weight :=
        Nat.le_trans (Nat.add_le_add_left (readRepeat_le hr) _) hq
      have hread := fun whole node => (ih whole node { q with rest := r.2 }).mono hnext
      dsimp only
      split
      · exact .thrown
      · refine .setRest ?_
        split
        · exact hread _ _
        · split
          · exact .bind (hread _ _) fun node q' hq' => .pure hq'
          · exact hread _ _

theorem backRef_stays (groups : List Nat) : Stays p.weight (o.backRef groups) p :=
  .get (.pure (Nat.le_refl _))

theorem readBackReference_stays {close : Char} (hclose : close ≠ '\\') :
    Stays p.weight (readBackReference o close) p := by
  unfold readBackReference
  refine .readWith (readReference_leaves hclose _) fun name text htext => ?_
  have hnext := Nat.add_le_add_left htext p.groupCount
  split
  · exact .thrown
  · refine .get ?_
    split
    · refine .lift fun group _ => ?_
      split
      · exact .thrown
      · refine .set ((backRef_stays _).mono hnext)
    · split
      · exact (backRef_stays _).mono hnext
      · exact .throw _

theorem readCall_stays {close : Char} (hclose : close ≠ '\\') :
    Stays p.weight (readCall close) p := by
  unfold readCall
  refine .readWith (readReference_leaves hclose _) fun name text htext => ?_
  have hnext := Nat.add_le_add_left htext p.groupCount
  refine .get ?_
  dsimp only
  split
  · exact .set (.lift fun group _ => .value (.modify (.pure hnext)))
  · exact .value (.modify (.pure hnext))

theorem readCoded_stays (coded : Coded) : Stays p.weight (readCoded o coded) p := by
  unfold readCoded
  split
  · split
    · exact .pure (Nat.le_refl _)
    · exact .throw _
  · dsimp only
    split
    · exact .thrown
    · exact .readWith (readTrail_leaves _ _ _) fun trail text htext =>
        .pure (Nat.add_le_add_left htext _)

theorem isDigit_ne {c : Char} (h : isDigit c = true) : c ≠ '\\' ∧ c ≠ '(' := by
  constructor <;> rintro rfl <;> revert h <;> decide

theorem readDigitEscape_stays {c : Char} {text : Rest} (hc : isDigit c = true) :
    Stays (p.groupCount + openings text) (readDigitEscape o c text) p := by
  have hcons : openings (c :: text) = openings text :=
    openings_cons (isDigit_ne hc).1 (isDigit_ne hc).2
  have hafter := openings_readNumber_le (c :: text)
  unfold readDigitEscape
  dsimp only
  refine .get ?_
  split
  · refine .set ((backRef_stays _).mono (Nat.add_le_add_left ?_ _))
    rwa [hcons] at hafter
  · split
    · exact .setRest (.pure (Nat.le_refl _))
    · have hoctal : openings (if c = '0' then readOctalByte 2 text else
          readOctalByte 3 (c :: text)).2 ≤ openings text := by
        split
        · exact openings_readOctalByte_le 2 text
        · exact hcons ▸ openings_readOctalByte_le 3 (c :: text)
      exact .setRest ((readCoded_stays _).mono (Nat.add_le_add_left hoctal _))

theorem ne_of_closeOf? {quote close : Char} (h : closeOf? quote = some close) :
    quote ≠ '\\' ∧ close ≠ '\\' := by
  unfold closeOf? at h
  split at h <;> cases h <;> decide

theorem readEscape_stays : Stays (p.groupCount + openings ('\\' :: p.rest)) (readEscape o) p := by
  have hproperty : ∀ (negative : Bool) (after : Rest),
      Stays (p.groupCount + openings after) (readEscape.property negative)
        { p with rest := after } :=
    fun negative after => .readWith (readProperty_leaves _ _ _) fun codes text htext =>
      .pure (Nat.add_le_add_left htext _)
  have hcoded : ∀ (c : Char) (after : Rest) {read : List Char → Except Fault (Option Coded × Rest)},
      Leaves (openings after) (read after) →
      Stays (p.groupCount + openings after) (readEscape.coded o c after read) p := by
    intro c after read hread
    refine .setRest (.readWith hread fun coded text htext => ?_)
    have hnext := Nat.add_le_add_left htext p.groupCount
    split
    · exact (readCoded_stays _).mono hnext
    · exact .pure hnext
  unfold readEscape
  refine .rest ?_
  split
  · exact .throw _
  · next c after htext =>
    rw [htext, openings_escaped]
    split
    · exact .setRest (.pure (Nat.le_refl _))
    · split
      · exact .setRest ((hproperty _ _).mono (Nat.add_le_add_left (openings_le_cons (by decide)) _))
      · exact .setRest ((hproperty _ _).mono (Nat.add_le_add_left (openings_le_cons (by decide)) _))
      · split
        · next close hclose =>
          obtain ⟨hopened, hclosed⟩ := ne_of_closeOf? hclose
          exact .setRest ((readBackReference_stays hclosed).mono
            (Nat.add_le_add_left (openings_le_cons hopened) _))
        · exact .setRest (.pure (Nat.le_refl _))
      · split
        · next close hclose =>
          obtain ⟨hopened, hclosed⟩ := ne_of_closeOf? hclose
          exact .setRest ((readCall_stays hclosed).mono
            (Nat.add_le_add_left (openings_le_cons hopened) _))
        · exact .setRest (.pure (Nat.le_refl _))
      · exact .throw _
      · exact .throw _
      · exact .throw _
      · exact hcoded _ _ (readHexEscape_leaves _)
      · exact hcoded _ _ (readShortCode_leaves _)
      · exact hcoded _ _ (readOctalEscape_leaves _)
      · split
        · next hc => exact readDigitEscape_stays hc
        · have hcode := readCode_leaves ((c :: after).length + 1) p.rest
          rw [htext, openings_escaped] at hcode
          refine .readWith (m := openings after) ?_ fun code text htext =>
            (readCoded_stays _).mono (Nat.add_le_add_left htext _)
          rw [htext]
          exact hcode

theorem openGroup_stays (name : Option String) : Stays (p.weight + 1) (openGroup name) p := by
  unfold openGroup
  refine .get (.set (.pure ?_))
  simp only [Progress.weight]
  omega

theorem closeGroup_stays : Stays p.weight closeGroup p := by
  unfold closeGroup
  refine .rest ?_
  split
  · next text htext =>
    rintro _ _ ⟨⟩
    rw [weight_eq htext]
    exact Nat.add_le_add_left (openings_le_cons (by decide)) _
  · exact .throw _

end

/-- What the readers of some fuel that lie in each other do. A group is read from behind its bracket
on, and may open one group for it. -/
structure Bounded (fuel : Nat) : Prop where
  alternatives : ∀ o p, Stays p.weight (readAlternatives fuel o) p
  branch : ∀ o done p, Stays p.weight (readBranch fuel o done) p
  item : ∀ o p, Stays p.weight (readItem fuel o) p
  group : ∀ o p, Stays (p.weight + 1) (readGroup fuel o) p
  plain : ∀ o text wrap p, Stays (p.groupCount + openings text) (plain fuel o text wrap) p
  named : ∀ o close text p, close ≠ '\\' →
    Stays (p.groupCount + openings text + 1) (named fuel o close text) p
  capture : ∀ o name text p,
    Stays (p.groupCount + openings text + 1) (capture fuel o name text) p

theorem bounded_zero : Bounded 0 := by
  constructor <;> intros
  · unfold readAlternatives; exact .throw _
  · unfold readBranch; exact .throw _
  · unfold readItem; exact .throw _
  · unfold readGroup; exact .throw _
  · unfold plain; exact .throw _
  · unfold named; exact .throw _
  · unfold capture; exact .throw _

namespace Bounded
variable {fuel : Nat} (h : Bounded fuel) (o : Options) (p : Progress)
include h

theorem alternatives_succ : Stays p.weight (readAlternatives (fuel + 1) o) p := by
  unfold readAlternatives
  refine .bind (h.branch o [] p) fun first q hq => .rest ?_
  split
  · next text htext =>
    refine .setRest (.bind (h.alternatives o _) fun rest r hr => .pure ?_)
    have htext' : openings text ≤ openings q.rest := htext ▸ openings_le_cons (by decide)
    exact Nat.le_trans hr (Nat.le_trans (Nat.add_le_add_left htext' _) hq)
  · exact .pure hq

theorem branch_succ (done : List Node) : Stays p.weight (readBranch (fuel + 1) o done) p := by
  unfold readBranch
  refine .bind (skip_stays o p) fun _ q hq => .rest ?_
  split
  · exact .pure hq
  · exact .pure hq
  · exact .pure hq
  · refine .bind (h.item o q) fun item r hr => ?_
    refine .bind (readRepeats_stays _ _ _ r) fun item' s hs => ?_
    exact (h.branch o _ s).mono (Nat.le_trans hs (Nat.le_trans hr hq))

theorem item_succ : Stays p.weight (readItem (fuel + 1) o) p := by
  unfold readItem
  refine .rest ?_
  split
  · exact .pure (Nat.le_refl _)
  · next text htext =>
    rw [weight_eq htext, openings_open]
    exact .setRest (h.group o _)
  · next text htext =>
    rw [weight_eq htext]
    refine .setRest (.readWith ((readBracket_leaves _).1 text) fun listed rest hrest => .pure ?_)
    exact Nat.add_le_add_left (Nat.le_trans hrest (openings_le_cons (by decide))) _
  · next text htext =>
    rw [weight_eq htext]
    exact .setRest readEscape_stays
  · next c text _ _ hc htext =>
    have hnext : openings text ≤ openings (c :: text) := openings_le_cons hc
    rw [weight_eq htext]
    have hread : ∀ node : Node, Stays (p.groupCount + openings (c :: text))
        (do setRest text; return node) p :=
      fun node => .setRest (.pure (Nat.add_le_add_left hnext _))
    refine .lift fun r? _ => ?_
    cases r? with
    | some r => split <;> exact .thrown
    | none => split <;> exact hread _

theorem group_succ : Stays (p.weight + 1) (readGroup (fuel + 1) o) p := by
  have hbehind : ∀ (before : List Char) {text : List Char} {c : Char},
      p.rest = before ++ c :: text → c ≠ '\\' → p.groupCount + openings text ≤ p.weight := by
    intro before text c hrest hc
    rw [weight_eq hrest]
    exact Nat.add_le_add_left (openings_le_append before hc) _
  have hplain : ∀ (before : List Char) {text : List Char} {c : Char} (wrap : Node → Node),
      p.rest = before ++ c :: text → c ≠ '\\' →
      Stays (p.weight + 1) (Pattern.plain fuel o text wrap) p :=
    fun before _ _ wrap hrest hc =>
      (h.plain o _ wrap p).mono (Nat.le_succ_of_le (hbehind before hrest hc))
  unfold readGroup
  refine .rest ?_
  split
  · next htext => exact hplain ['?'] _ htext (by decide)
  · next htext => exact hplain ['?'] _ htext (by decide)
  · next htext => exact hplain ['?'] _ htext (by decide)
  · next htext => exact hplain ['?'] _ htext (by decide)
  · next htext => exact hplain ['?', '<'] _ htext (by decide)
  · next htext => exact hplain ['?', '<'] _ htext (by decide)
  · next htext =>
    exact (h.named o _ _ p (by decide)).mono (Nat.succ_le_succ (hbehind ['?'] htext (by decide)))
  · next htext =>
    exact (h.named o _ _ p (by decide)).mono (Nat.succ_le_succ (hbehind ['?'] htext (by decide)))
  · exact .throw _
  · exact .throw _
  · exact .throw _
  · exact .throw _
  · exact .throw _
  · next text _ _ _ _ _ _ _ _ _ _ _ _ _ htext =>
    have hnext : p.groupCount + openings text ≤ p.weight := hbehind [] htext (by decide)
    refine .setRest (.readWith (readOptions_leaves _ _ _) fun r rest hrest => ?_)
    obtain ⟨inner, ends⟩ := r
    have hbody := Nat.le_succ_of_le (Nat.le_trans (Nat.add_le_add_left hrest _) hnext)
    cases ends with
    | own =>
      refine .bind ((h.alternatives inner _).mono hbody) fun body q hq => ?_
      exact .bind (closeGroup_stays.mono hq) fun _ r hr => .pure hr
    | toEnd => exact .bind ((h.alternatives inner _).mono hbody) fun body q hq => .pure hq
  · exact .throw _
  · exact h.capture o none p.rest p

theorem plain_succ (text : List Char) (wrap : Node → Node) :
    Stays (p.groupCount + openings text) (Pattern.plain (fuel + 1) o text wrap) p := by
  unfold Pattern.plain
  refine .setRest (.bind (h.alternatives o _) fun body q hq => ?_)
  exact .bind closeGroup_stays fun _ r hr => .pure (Nat.le_trans hr hq)

theorem named_succ {close : Char} (hclose : close ≠ '\\') (text : List Char) :
    Stays (p.groupCount + openings text + 1) (Pattern.named (fuel + 1) o close text) p := by
  unfold Pattern.named
  refine .setRest (.readWith (readReference_leaves hclose _) fun name rest hrest => ?_)
  split
  · exact .thrown
  · refine .rest ((h.capture o _ _ _).mono ?_)
    exact Nat.add_le_add_right (Nat.add_le_add_left hrest _) _

theorem capture_succ (name : Option String) (text : List Char) :
    Stays (p.groupCount + openings text + 1) (Pattern.capture (fuel + 1) o name text) p := by
  unfold Pattern.capture
  refine .setRest (.bind (openGroup_stays name) fun group q hq => ?_)
  refine .bind (h.alternatives o q) fun body r hr => ?_
  refine .bind closeGroup_stays fun _ s hs => .modify (.pure ?_)
  exact Nat.le_trans hs (Nat.le_trans hr hq)

theorem succ : Bounded (fuel + 1) where
  alternatives := h.alternatives_succ
  branch o done p := h.branch_succ o p done
  item := h.item_succ
  group := h.group_succ
  plain o text wrap p := h.plain_succ o p text wrap
  named o _ text p hclose := h.named_succ o p hclose text
  capture o name text p := h.capture_succ o p name text

end Bounded

theorem bounded (fuel : Nat) : Bounded fuel := by
  induction fuel with
  | zero => exact bounded_zero
  | succ fuel ih => exact ih.succ

end Pattern

end Highlighting
