import Highlighting.Proofs.Scan.Effects
import Highlighting.Tokenizer

/-! Scans do not depend on the patterns that were read before. -/
namespace Highlighting
open ScanM

namespace Captures
variable {e : Engine} {rescan : Rescan}

theorem paintGroup_cacheFree (hr : ∀ text pos stack out, CacheFree e (rescan text pos stack out))
    (text : Text) (stack : Stack) (base : Scopes) (c : Capture) (span : Span)
    (opened : List OpenGroup) (out : Paint) :
    CacheFree e (paintGroup rescan text stack base c span opened out) := by
  unfold paintGroup
  rcases closeUpTo span.start opened out with ⟨opened, out⟩
  dsimp only
  cases c.patterns with
  | none => exact CacheFree.pure _
  | some rule =>
    dsimp only
    split
    · exact CacheFree.throw _
    · exact (hr _ _ _ _).bind fun out => CacheFree.pure _

theorem paintFrom_cacheFree (hr : ∀ text pos stack out, CacheFree e (rescan text pos stack out))
    (text : Text) (stack : Stack) (groups : Groups) (base : Scopes) (captures : Captures) :
    ∀ (index : Nat) (opened : List OpenGroup) (out : Paint),
      CacheFree e (paintFrom rescan text stack groups base index captures opened out) := by
  induction captures with
  | nil => intro index opened out; exact CacheFree.pure _
  | cons c rest ih =>
    intro index opened out
    rw [paintFrom]
    split
    · exact ih _ _ _
    · split
      · exact ih _ _ _
      · exact (paintGroup_cacheFree hr ..).bind fun r => ih _ _ _

theorem paint_cacheFree (hr : ∀ text pos stack out, CacheFree e (rescan text pos stack out))
    (text : Text) (stack : Stack) (groups : Groups) (base : Scopes) (captures : Captures)
    (out : Paint) : CacheFree e (paint rescan text stack groups base captures out) :=
  paintFrom_cacheFree hr text stack groups base captures 0 [] out

end Captures

namespace Grammar
variable (g : Grammar)

theorem edgeMatcher_cacheFree (p : EdgePattern) (resolved : Option String) :
    CacheFree g.engine (g.edgeMatcher p resolved) := by
  unfold edgeMatcher
  split
  · exact CacheFree.pure _
  · exact CacheFree.read _

theorem nextMatch_cacheFree (text : Text) (pos : Nat) (stack : Stack) :
    CacheFree g.engine (g.nextMatch text pos stack) := by
  unfold nextMatch
  dsimp only
  split
  · refine (g.edgeMatcher_cacheFree _ _).bind fun matcher => ?_
    split
    · exact CacheFree.pure _
    · exact CacheFree.pure _
  · exact CacheFree.pure _

section Steps
variable {g} {rescan : Rescan}
  (hr : ∀ text pos stack out, CacheFree g.engine (rescan text pos stack out))
include hr

theorem openRegion_cacheFree (text : Text) (stack : Stack) (found : Found) (rule : Nat)
    (opening : Opening) (resolved : Option String) (out : Paint) :
    CacheFree g.engine (openRegion rescan text stack found rule opening resolved out) := by
  refine (Captures.paint_cacheFree hr ..).bind fun out => ?_
  dsimp only
  split
  · exact CacheFree.pure _
  · split
    · exact CacheFree.pure _
    · exact CacheFree.throw _

theorem closeRegion_cacheFree (text : Text) (pos : Nat) (stack : Stack) (found : Found)
    (out : Paint) : CacheFree g.engine (g.closeRegion rescan text pos stack found out) := by
  unfold closeRegion
  split
  · exact CacheFree.pure _
  · refine (Captures.paint_cacheFree hr ..).bind fun out => ?_
    dsimp only
    split
    · exact CacheFree.pure _
    · exact CacheFree.pure _

theorem act_cacheFree (text : Text) (pos : Nat) (stack : Stack) (found : Found) (out : Paint) :
    CacheFree g.engine (g.act rescan text pos stack found out) := by
  unfold act
  split
  · exact closeRegion_cacheFree hr ..
  · dsimp only
    split
    · refine (Captures.paint_cacheFree hr ..).bind fun out => ?_
      split
      · exact CacheFree.pure _
      · exact CacheFree.pure _
    · exact openRegion_cacheFree hr ..
    · exact openRegion_cacheFree hr ..
    · exact CacheFree.pure _

theorem walk_cacheFree (text : Text) (steps : Nat) :
    ∀ (pos : Nat) (stack : Stack) (out : Paint),
      CacheFree g.engine (g.walk rescan text steps pos stack out) := by
  induction steps with
  | zero =>
    intro pos stack out
    rw [walk]
    split
    · exact CacheFree.throw _
    · exact CacheFree.pure _
  | succ steps ih =>
    intro pos stack out
    rw [walk]
    split
    · refine (g.nextMatch_cacheFree text pos stack).bind fun found? => ?_
      cases found? with
      | none => exact CacheFree.pure _
      | some found =>
        refine (act_cacheFree hr text pos stack found out).bind fun step => ?_
        cases step with
        | go pos stack out => exact ih pos stack out
        | halt stack out => exact CacheFree.pure _
    · exact CacheFree.pure _

end Steps

theorem scan_cacheFree (nesting : Nat) :
    ∀ (text : Text) (pos : Nat) (stack : Stack) (out : Paint),
      CacheFree g.engine (g.scan nesting text pos stack out) := by
  induction nesting with
  | zero => intro text pos stack out; exact CacheFree.throw _
  | succ nesting ih =>
    intro text pos stack out
    have hr : ∀ text pos stack out, CacheFree g.engine
        (do return (← g.scan nesting text pos stack out).2 : ScanM Paint) :=
      fun text pos stack out => (ih text pos stack out).bind fun _ => CacheFree.pure _
    exact (walk_cacheFree hr text _ pos stack out).bind fun _ => CacheFree.pure _

theorem rescan_cacheFree (nesting : Nat) (text : Text) (pos : Nat) (stack : Stack) (out : Paint) :
    CacheFree g.engine (g.rescan nesting text pos stack out) :=
  (g.scan_cacheFree _ text pos stack out).bind fun _ => CacheFree.pure _

theorem keepOpen_cacheFree (nesting : Nat) (text : Text) (stack : Stack) (rest : List Frame) :
    ∀ (kept : List Frame) (pos : Nat) (out : Paint),
      CacheFree g.engine (g.keepOpen (g.rescan nesting) text stack rest kept pos out) := by
  induction rest with
  | nil => intro kept pos out; exact CacheFree.pure _
  | cons frame rest ih =>
    intro kept pos out
    rw [keepOpen]
    split
    · refine (g.edgeMatcher_cacheFree _ _).bind fun matcher => ?_
      split
      · exact (Captures.paint_cacheFree (g.rescan_cacheFree nesting) ..).bind fun out => ih _ _ _
      · exact CacheFree.pure _
    · exact ih _ _ _

theorem scanLine_cacheFree (line : List Char) (stack : Stack) :
    CacheFree g.engine (g.scanLine line stack) := by
  refine (g.keepOpen_cacheFree ..).bind fun r => ?_
  exact (g.scan_cacheFree ..).bind fun _ => CacheFree.pure _

theorem scanLines_cache (lines : List String) :
    ∀ (line : Nat) (stack : Stack) (c d : PatternCache), c.Sound g.engine → d.Sound g.engine →
      g.scanLines line stack lines c = g.scanLines line stack lines d := by
  induction lines with
  | nil => intro line stack c d hc hd; rfl
  | cons text rest ih =>
    intro line stack c d hc hd
    rw [scanLines, scanLines]
    rcases (g.scanLine_cacheFree text.toList stack).agree c d hc hd with
      ⟨fault, h₁, h₂⟩ | ⟨⟨spans, after⟩, c', d', h₁, h₂, hc', hd'⟩
    · rw [h₁, h₂]
    · rw [h₁, h₂]
      dsimp only
      rw [ih (line + 1) after c' d' hc' hd']

end Grammar

end Highlighting
