import Highlighting.Proofs.Scan.Lockstep
import Highlighting.Proofs.Scan.Steps
import Highlighting.Scan.Line

/-!
What a scan does with captured text. It keeps the regions it was entered with open, unless the
innermost one has an end, so text is captured with one region more.
-/
namespace Highlighting
open ScanM

def Rule.ends : Rule → Bool
  | .block _ (some _) _ _ => true
  | _ => false

def Rule.captures : Rule → Captures
  | .container _ => []
  | .single _ _ captures => captures
  | .block opening _ captures _ | .lines opening _ captures => opening.captures ++ captures

theorem Rule.stopCaptures_subset (r : Rule) : r.stopCaptures ⊆ r.captures := by
  cases r with
  | block => exact List.subset_append_right _ _
  | _ => exact List.nil_subset _

namespace Grammar

def Rescans (g : Grammar) (rule : Nat) : Prop :=
  ∃ id, ∃ c ∈ (g.rule id).captures, c.patterns = some rule

/-- No captured text is scanned with a rule that has an end. -/
def CapturesOpen (g : Grammar) : Prop := ∀ rule, g.Rescans rule → (g.rule rule).ends = false

end Grammar

/-- Only a region of a rule with an end is ended. -/
def Found.Ends (g : Grammar) (stack : Stack) (found : Found) : Prop :=
  found.candidate = .stop → (g.rule stack.top.rule).ends = true

namespace Stack

/-- All regions of `entry` are open in `s`. -/
structure Above (entry s : Stack) : Prop where
  root_eq : s.root = entry.root
  regions : entry.regions <:+ s.regions

/-- A stack for text that is captured while all regions of `entry` are open. -/
structure Captured (g : Grammar) (entry s : Stack) : Prop where
  root_eq : s.root = entry.root
  regions : ∃ frame below, s.regions = frame :: below ∧ entry.regions <:+ below ∧
    g.Rescans frame.rule
  depth_le : s.depth ≤ maxDepth

/-- A scan that is entered with the stack closes none of its regions. -/
def Kept (g : Grammar) (entry : Stack) : Prop :=
  entry.regions = [] ∨ (g.rule entry.top.rule).ends = false

variable {g : Grammar} {entry s s' : Stack} {frame : Frame}

theorem Above.refl (s : Stack) : s.Above s := ⟨rfl, List.suffix_refl _⟩

theorem above_bottom (s : Stack) : Above { s with regions := [] } s := ⟨rfl, List.nil_suffix⟩

theorem Above.push (h : entry.Above s) (hp : s.push? frame = some s') : entry.Above s' := by
  unfold push? at hp
  split at hp
  · cases hp
    exact ⟨h.root_eq, h.regions.trans (List.suffix_cons _ _)⟩
  · cases hp

theorem Above.captured (h : entry.Above s) (hf : g.Rescans frame.rule)
    (hp : s.push? frame = some s') : Captured g entry s' := by
  have hdepth := (frames_of_push hp).2.2
  unfold push? at hp
  split at hp
  · cases hp
    exact ⟨h.root_eq, ⟨frame, s.regions, rfl, h.regions, hf⟩, hdepth⟩
  · cases hp

/-- What is closed lies above the regions that are kept: only a rule with an end is closed. -/
theorem Above.pop (h : entry.Above s) (hk : entry.Kept g) (hs : (g.rule s.top.rule).ends = true)
    (hp : s.pop? = some (frame, s')) : entry.Above s' := by
  obtain ⟨root, _ | ⟨f, rest⟩⟩ := s
  · cases hp
  · cases hp
    refine ⟨h.root_eq, ?_⟩
    obtain heq | hrest := List.suffix_cons_iff.1 h.regions
    · obtain hnil | hends := hk
      · rw [hnil] at heq
        cases heq
      · have htop : entry.top = Stack.top ⟨root, frame :: rest⟩ := by rw [top, heq]; rfl
        rw [htop, hs] at hends
        cases hends
    · exact hrest

theorem Captured.depth_lt (h : Captured g entry s) : entry.depth < s.depth := by
  obtain ⟨frame, below, hs, hsuffix, -⟩ := h.regions
  have hle := hsuffix.length_le
  simp only [depth, hs, List.length_cons]
  omega

theorem Captured.rescans (h : Captured g entry s) : g.Rescans s.top.rule := by
  obtain ⟨frame, below, hs, -, hf⟩ := h.regions
  have htop : s.top = frame := by rw [top, hs]; rfl
  exact htop ▸ hf

theorem Captured.kept (h : Captured g entry s) (hg : g.CapturesOpen) : s.Kept g :=
  .inr (hg _ h.rescans)

end Stack

namespace Grammar

theorem nextMatch_holds {g : Grammar} {sound : PatternCache → Prop}
    {copy : ScanFault → ScanFault} {text : Text} {pos : Nat} {stack : Stack} {K : Found → Prop}
    (hedge : ∀ {opening stop stops last},
      g.rule stack.top.rule = .block opening (some stop) stops last →
      Lockstep sound copy (g.edgeMatcher stop stack.top.resolved)
        (g.edgeMatcher stop stack.top.resolved) fun matcher =>
          ∀ groups ∈ matcher.search text pos, K ⟨.stop, groups⟩)
    (hrule : ∀ id ∈ g.candidatesOf stack.top.rule, ∀ matcher ∈ (g.rule id).matcher?,
      ∀ groups ∈ matcher.search text pos, K ⟨.rule id, groups⟩) :
    Lockstep sound copy (g.nextMatch text pos stack) (g.nextMatch text pos stack)
      fun found? => ∀ found ∈ found?, K found := by
  have hnone : ∀ found ∈ (none : Option Found), K found := nofun
  simp only [nextMatch]
  split
  · next hends =>
    refine (hedge hends).bind fun matcher hstop => ?_
    split
    · exact .pure (better_holds (bestRule_holds hrule hnone) hstop)
    · exact .pure (bestRule_holds hrule (better_holds hnone hstop))
  · exact .pure (bestRule_holds hrule hnone)

end Grammar

/-- Two scans that go the same way, whatever they have read. `copy` is what becomes of a fault. -/
abbrev Alike {α : Type} (copy : ScanFault → ScanFault) (x y : ScanM α) (P : α → Prop) : Prop :=
  Lockstep (fun _ => True) copy x y P

section Alike
variable {g : Grammar} {entry : Stack} {copy : ScanFault → ScanFault} {left right : Rescan}
  (hcopy : ∀ fault, fault ≠ .exhausted → copy fault = fault)

theorem Engine.read_alike (hbad : ∀ source, copy (.badPattern source) = .badPattern source)
    (e : Engine) (source : String) :
    Alike copy (e.read source) (e.read source) fun _ => True where
  eq := by
    intro cache _
    unfold Engine.read
    split
    · rfl
    · split
      · rfl
      · exact congrArg Except.error (hbad source).symm
  result _ _ _ _ _ := ⟨trivial, trivial⟩

namespace Captures
variable (hr : ∀ text pos stack out, Stack.Captured g entry stack →
  Alike copy (left text pos stack out) (right text pos stack out) fun _ => True)
include hcopy hr

theorem paintGroup_alike (text : Text) {stack : Stack} (hs : entry.Above stack) (base : Scopes)
    {c : Capture} (hc : ∀ rule, c.patterns = some rule → g.Rescans rule) (span : Span)
    (opened : List OpenGroup) (out : Paint) :
    Alike copy (paintGroup left text stack base c span opened out)
      (paintGroup right text stack base c span opened out) fun _ => True := by
  simp only [paintGroup]
  split
  · exact .pure trivial
  · next rule hrule =>
    split
    · exact .throw (hcopy .tooDeep (by simp)).symm
    · next nested hpush =>
      exact (hr _ _ _ _ (hs.captured (hc rule hrule) hpush)).bind fun _ _ => .pure trivial

theorem paintFrom_alike (text : Text) {stack : Stack} (hs : entry.Above stack) (groups : Groups)
    (base : Scopes) {captures : Captures}
    (hc : ∀ c ∈ captures, ∀ rule, c.patterns = some rule → g.Rescans rule) (index : Nat)
    (opened : List OpenGroup) (out : Paint) :
    Alike copy (paintFrom left text stack groups base index captures opened out)
      (paintFrom right text stack groups base index captures opened out) fun _ => True := by
  induction captures generalizing index opened out with
  | nil => exact .pure trivial
  | cons c rest ih =>
    obtain ⟨hhead, hrest⟩ := List.forall_mem_cons.1 hc
    rw [paintFrom, paintFrom]
    split
    · exact ih hrest _ _ _
    · split
      · exact ih hrest _ _ _
      · exact (paintGroup_alike hcopy hr text hs base hhead _ _ _).bind fun r _ => ih hrest _ _ _

theorem paint_alike (text : Text) {stack : Stack} (hs : entry.Above stack) (groups : Groups)
    (base : Scopes) {id : Nat} {captures : Captures} (hc : captures ⊆ (g.rule id).captures)
    (out : Paint) :
    Alike copy (paint left text stack groups base captures out)
      (paint right text stack groups base captures out) fun _ => True :=
  paintFrom_alike hcopy hr text hs groups base (fun c hmem _ hrule => ⟨id, c, hc hmem, hrule⟩)
    0 [] out

end Captures

namespace Grammar

theorem edgeMatcher_alike (hbad : ∀ source, copy (.badPattern source) = .badPattern source)
    (p : EdgePattern) (resolved : Option String) :
    Alike copy (g.edgeMatcher p resolved) (g.edgeMatcher p resolved) fun _ => True := by
  simp only [edgeMatcher]
  split
  · exact .pure trivial
  · exact g.engine.read_alike hbad _

theorem nextMatch_alike (hbad : ∀ source, copy (.badPattern source) = .badPattern source)
    (text : Text) (pos : Nat) (stack : Stack) :
    Alike copy (g.nextMatch text pos stack) (g.nextMatch text pos stack)
      fun found? => ∀ found ∈ found?, found.Ends g stack := by
  refine nextMatch_holds (fun hends => ?_) fun id _ _ _ _ _ hstop => nomatch hstop
  refine (edgeMatcher_alike hbad _ _).imp fun _ _ _ _ _ => ?_
  rw [hends, Rule.ends]

variable (hr : ∀ text pos stack out, Stack.Captured g entry stack →
  Alike copy (left text pos stack out) (right text pos stack out) fun _ => True)
include hcopy hr

theorem openRegion_alike (text : Text) {stack : Stack} (hs : entry.Above stack) (found : Found)
    {rule : Nat} {opening : Opening} (ho : opening.captures ⊆ (g.rule rule).captures)
    (resolved : Option String) (out : Paint) :
    Alike copy (openRegion left text stack found rule opening resolved out)
      (openRegion right text stack found rule opening resolved out)
      fun step => entry.Above step.stack := by
  refine (Captures.paint_alike hcopy hr text hs _ _ ho out).bind fun out _ => ?_
  dsimp only
  split
  · exact .pure hs
  · split
    · next hpush => exact .pure (hs.push hpush)
    · exact .throw (hcopy .tooDeep (by simp)).symm

theorem closeRegion_alike (hk : entry.Kept g) (text : Text) (pos : Nat) {stack : Stack}
    (hs : entry.Above stack) (hends : (g.rule stack.top.rule).ends = true) (found : Found)
    (out : Paint) :
    Alike copy (g.closeRegion left text pos stack found out)
      (g.closeRegion right text pos stack found out) fun step => entry.Above step.stack := by
  simp only [closeRegion]
  split
  · exact .pure hs
  · next frame below hpop =>
    have hbelow := hs.pop hk hends hpop
    refine (Captures.paint_alike hcopy hr text hbelow _ _ (Rule.stopCaptures_subset _) _).bind
      fun out _ => ?_
    split
    · exact .pure hbelow
    · exact .pure hbelow

theorem act_alike (hk : entry.Kept g) (text : Text) (pos : Nat) {stack : Stack}
    (hs : entry.Above stack) {found : Found} (hf : found.Ends g stack) (out : Paint) :
    Alike copy (g.act left text pos stack found out) (g.act right text pos stack found out)
      fun step => entry.Above step.stack := by
  simp only [act]
  split
  · next hstop => exact closeRegion_alike hcopy hr hk text pos hs (hf hstop) found out
  · next id _ =>
    split
    · next captures hrule =>
      have hc : captures ⊆ (g.rule id).captures := hrule ▸ List.Subset.refl _
      refine (Captures.paint_alike hcopy hr text hs _ _ hc _).bind fun out _ => ?_
      split
      · exact .pure hs
      · exact .pure hs
    · next hrule =>
      exact openRegion_alike hcopy hr text hs found
        (hrule ▸ List.subset_append_left _ _) _ _
    · next hrule =>
      exact openRegion_alike hcopy hr text hs found
        (hrule ▸ List.subset_append_left _ _) _ _
    · exact .pure hs

/-- A scan hangs on the scans of text that is captured while all its first regions are open. -/
theorem walk_alike (hk : entry.Kept g) (text : Text) (steps pos : Nat) {stack : Stack}
    (hs : entry.Above stack) (out : Paint) :
    Alike copy (g.walk left text steps pos stack out) (g.walk right text steps pos stack out)
      fun _ => True := by
  induction steps generalizing pos stack out with
  | zero =>
    rw [walk, walk]
    split
    · exact .throw (hcopy .noProgress (by simp)).symm
    · exact .pure trivial
  | succ steps ih =>
    rw [walk, walk]
    split
    · have hbad : ∀ source, copy (.badPattern source) = .badPattern source :=
        fun _ => hcopy _ (by simp)
      refine (nextMatch_alike hbad text pos stack).bind fun found? hfound => ?_
      cases found? with
      | none => exact .pure trivial
      | some found =>
        refine (act_alike hcopy hr hk text pos hs (hfound found rfl) out).bind fun step hnext => ?_
        cases step with
        | go pos stack out => exact ih pos hnext out
        | halt stack out => exact .pure trivial
    · exact .pure trivial

end Grammar
end Alike

end Highlighting
