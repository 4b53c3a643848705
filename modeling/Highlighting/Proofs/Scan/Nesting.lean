import Highlighting.Proofs.Sample
import Highlighting.Proofs.Scan.Captured

/-!
Scans of captured text that lie in each other. Where captured text is scanned with a rule that has
an end, a scan may ask for itself.
-/
namespace Highlighting
open ScanM

/-- A scan of captured text that is asked for. -/
structure Rescan.Call where
  text : Text
  pos : Nat
  stack : Stack
  out : Paint
  deriving DecidableEq

namespace Rescan

/-- The same scans of captured text but for one, which fails. -/
def failing (rescan : Rescan) (call : Call) (fault : ScanFault) : Rescan :=
  fun text pos stack out =>
    if (⟨text, pos, stack, out⟩ : Call) = call then throw fault else rescan text pos stack out

theorem failing_eq_self {rescan : Rescan} {call : Call} {fault : ScanFault}
    (h : ∀ cache, rescan call.text call.pos call.stack call.out cache = .error fault) :
    rescan.failing call fault = rescan := by
  funext text pos stack out
  unfold failing
  split
  · next heq =>
    subst heq
    exact funext fun cache => (h cache).symm
  · rfl

end Rescan

namespace Grammar
variable (g : Grammar)

def scanWith (rescan : Rescan) (c : Rescan.Call) : ScanM (Stack × Paint) := do
  let (stack, out) ← g.walk rescan c.text (stepLimit c.text) c.pos c.stack c.out
  return (stack, out.upTo c.text.size stack.scopes)

theorem scan_succ (nesting : Nat) (c : Rescan.Call) :
    g.scan (nesting + 1) c.text c.pos c.stack c.out = g.scanWith (g.rescan nesting) c := rfl

/-- A scan asks for another one: if that one fails, it fails in the same way. -/
def AsksAt (nesting : Nat) (cache : PatternCache) (outer inner : Rescan.Call) : Prop :=
  ∀ fault, g.scanWith ((g.rescan nesting).failing inner fault) outer cache = .error fault

def Asks (outer inner : Rescan.Call) : Prop := ∃ nesting cache, g.AsksAt nesting cache outer inner

/-- Scans that ask for each other, one after the other. -/
inductive Nests : Nat → Rescan.Call → Rescan.Call → Prop
  | done (c : Rescan.Call) : Nests 0 c c
  | ask {n : Nat} {outer inner last : Rescan.Call} (h : g.Asks outer inner)
    (rest : Nests n inner last) : Nests (n + 1) outer last

/-- Scans each of which asks for another one of them, or finds no room for a region. -/
def Reenters (nesting : Nat) (Q : Rescan.Call → Prop) : Prop :=
  ∀ c, Q c → ∀ cache, (∃ inner, Q inner ∧ g.AsksAt nesting cache c inner) ∨
    g.scanWith (g.rescan nesting) c cache = .error .tooDeep

variable {g} {entry : Stack} {copy : ScanFault → ScanFault}
  (hcopy : ∀ fault, fault ≠ .exhausted → copy fault = fault)

include hcopy in
theorem scanWith_alike {left right : Rescan} (c : Rescan.Call) (hk : entry.Kept g)
    (hs : entry.Above c.stack) (hr : ∀ text pos stack out, Stack.Captured g entry stack →
      Alike copy (left text pos stack out) (right text pos stack out) fun _ => True) :
    Alike copy (g.scanWith left c) (g.scanWith right c) fun _ => True :=
  (walk_alike hcopy hr hk c.text _ c.pos hs c.out).bind fun _ _ => .pure trivial

/-- A scan asks only for scans of text that is captured while all regions are open that it cannot
close. -/
theorem captured_of_asks {outer inner : Rescan.Call} (hk : entry.Kept g)
    (hs : entry.Above outer.stack) (h : g.Asks outer inner) :
    Stack.Captured g entry inner.stack := by
  obtain ⟨nesting, cache, h⟩ := h
  refine Classical.byContradiction fun hnot => ?_
  -- the scan asked for would make no difference, but it can fail in two ways
  have hsame : ∀ fault, g.scanWith (g.rescan nesting) outer cache = .error fault := by
    intro fault
    have halike : Alike id (g.scanWith (g.rescan nesting) outer)
        (g.scanWith ((g.rescan nesting).failing inner fault) outer) fun _ => True := by
      refine scanWith_alike (fun _ _ => rfl) outer hk hs fun text pos stack out hcaptured => ?_
      have hne : (⟨text, pos, stack, out⟩ : Rescan.Call) ≠ inner := by
        rintro rfl
        exact hnot hcaptured
      rw [Rescan.failing, if_neg hne]
      exact .refl _
    rw [halike.eq cache trivial, h fault]
    rfl
  have htwo := (hsame .noProgress).symm.trans (hsame .tooDeep)
  cases htwo

theorem Nests.captured (hg : g.CapturesOpen) {n : Nat} {first last : Rescan.Call}
    (h : g.Nests n first last) (hs : Stack.Captured g entry first.stack) :
    first.stack.depth + n ≤ Stack.maxDepth := by
  induction h generalizing entry with
  | done c => exact hs.depth_le
  | ask hask _ ih =>
    have hinner := captured_of_asks (hs.kept hg) (.refl _) hask
    have hlt := hinner.depth_lt
    have hle := ih hinner
    omega

section Open
variable (hg : g.CapturesOpen)
include hg

/-- The scans that a scan of captured text asks for have one region more. So it makes no difference
how many of them may lie in each other, if they are as many as regions may. -/
theorem rescan_alike (hcopy : ∀ fault, fault ≠ .exhausted → copy fault = fault) {room n n' : Nat}
    (hn : room ≤ n) (hn' : room ≤ n') {text : Text} {pos : Nat} {stack : Stack} {out : Paint}
    (hs : Stack.Captured g entry stack) (hroom : Stack.maxDepth ≤ stack.depth + room) :
    Alike copy (g.rescan (n + 1) text pos stack out) (g.rescan (n' + 1) text pos stack out)
      fun _ => True := by
  induction room generalizing n n' text pos stack out entry with
  | zero =>
    refine (scanWith_alike hcopy ⟨text, pos, stack, out⟩ (hs.kept hg) (.refl _) ?_).bind
      fun _ _ => .pure trivial
    intro text pos inner out hinner
    have hlt := hinner.depth_lt
    have hle := hinner.depth_le
    omega
  | succ room ih =>
    obtain ⟨n, rfl⟩ := Nat.exists_eq_add_of_lt (Nat.lt_of_succ_le hn)
    obtain ⟨n', rfl⟩ := Nat.exists_eq_add_of_lt (Nat.lt_of_succ_le hn')
    refine (scanWith_alike hcopy ⟨text, pos, stack, out⟩ (hs.kept hg) (.refl _) ?_).bind
      fun _ _ => .pure trivial
    intro text pos inner out hinner
    have hlt := hinner.depth_lt
    exact ih (Nat.le_add_right _ _) (Nat.le_add_right _ _) hinner (by omega)

theorem scan_alike (hcopy : ∀ fault, fault ≠ .exhausted → copy fault = fault) {n n' : Nat}
    (hn : Stack.maxDepth ≤ n) (hn' : Stack.maxDepth ≤ n') (c : Rescan.Call) :
    Alike copy (g.scan n c.text c.pos c.stack c.out) (g.scan n' c.text c.pos c.stack c.out)
      fun _ => True := by
  -- the grammar and a region are open in captured text, so there is room for all scans but two
  have hroom : ∀ {n}, Stack.maxDepth ≤ n → ∃ k, n = (Stack.maxDepth - 2 + k) + 1 + 1 := by
    intro n hn
    simp only [Stack.maxDepth] at hn ⊢
    exact ⟨n - 512, by omega⟩
  obtain ⟨n, rfl⟩ := hroom hn
  obtain ⟨n', rfl⟩ := hroom hn'
  have hbottom : Stack.Kept g { c.stack with regions := [] } := .inl rfl
  refine scanWith_alike hcopy c hbottom c.stack.above_bottom fun text pos inner out hinner => ?_
  have hlt : 1 < inner.depth := hinner.depth_lt
  exact rescan_alike hg hcopy (Nat.le_add_right _ _) (Nat.le_add_right _ _) hinner (by omega)

theorem scan_eq {n n' : Nat} (hn : Stack.maxDepth ≤ n) (hn' : Stack.maxDepth ≤ n') :
    g.scan n = g.scan n' := by
  funext text pos stack out cache
  have halike :
      Alike id (g.scan n text pos stack out) (g.scan n' text pos stack out) fun _ => True :=
    scan_alike hg (fun _ _ => rfl) hn hn' ⟨text, pos, stack, out⟩
  rw [halike.eq cache trivial]
  exact ((Lockstep.refl _).eq cache trivial).symm

theorem rescan_apply {nesting : Nat} (hn : Stack.maxDepth ≤ nesting) (c : Rescan.Call) :
    g.rescan nesting c.text c.pos c.stack c.out =
      (do return (← g.scanWith (g.rescan nesting) c).2) := by
  have hself : g.scan nesting = g.scan (nesting + 1) := scan_eq hg hn (Nat.le_succ_of_le hn)
  rw [rescan, hself]
  rfl

/-- Scans that keep asking for each other find no room for a region in the end. -/
theorem tooDeep_of_reenters {nesting : Nat} (hn : Stack.maxDepth ≤ nesting)
    {Q : Rescan.Call → Prop} (hQ : g.Reenters nesting Q) {c : Rescan.Call} (hc : Q c)
    (cache : PatternCache) : g.scanWith (g.rescan nesting) c cache = .error .tooDeep := by
  have hstep : ∀ c, Q c → (∀ inner, Q inner → g.Asks c inner → ∀ cache,
      g.scanWith (g.rescan nesting) inner cache = .error .tooDeep) →
      ∀ cache, g.scanWith (g.rescan nesting) c cache = .error .tooDeep := by
    intro c hc hinner cache
    obtain ⟨inner, hmem, hask⟩ | hfull := hQ c hc cache
    · have hfails : ∀ cache, g.rescan nesting inner.text inner.pos inner.stack inner.out cache =
          .error .tooDeep := by
        intro cache
        rw [rescan_apply hg hn, bind_apply, hinner inner hmem ⟨_, _, hask⟩]
        rfl
      have hself := hask .tooDeep
      rwa [Rescan.failing_eq_self hfails] at hself
    · exact hfull
  have hcaptured : ∀ (room : Nat) (entry : Stack) (c : Rescan.Call), Q c →
      Stack.Captured g entry c.stack → Stack.maxDepth - c.stack.depth = room →
      ∀ cache, g.scanWith (g.rescan nesting) c cache = .error .tooDeep := by
    intro room
    induction room using Nat.strong_induction_on with
    | _ room ih =>
      intro entry c hc hs hroom
      refine hstep c hc fun inner hmem hask => ?_
      have hinner := captured_of_asks (hs.kept hg) (.refl _) hask
      have hlt := hinner.depth_lt
      have hle := hinner.depth_le
      exact ih _ (by omega) _ inner hmem hinner rfl
  refine hstep c hc (fun inner hmem hask => ?_) cache
  have hbottom : Stack.Kept g { c.stack with regions := [] } := .inl rfl
  exact hcaptured _ _ inner hmem (captured_of_asks hbottom c.stack.above_bottom hask) rfl

theorem keepOpen_alike (hcopy : ∀ fault, fault ≠ .exhausted → copy fault = fault) {nesting : Nat}
    (hn : Stack.maxDepth ≤ nesting) (text : Text) (stack : Stack) (rest kept : List Frame)
    (pos : Nat) (out : Paint) :
    Alike copy (g.keepOpen (g.rescan nesting) text stack rest kept pos out)
      (g.keepOpen (g.rescan nesting) text stack rest kept pos out) fun _ => True := by
  induction rest generalizing kept pos out with
  | nil => exact .pure trivial
  | cons frame rest ih =>
    rw [keepOpen]
    split
    · next captures hrule =>
      have hc : captures ⊆ (g.rule frame.rule).captures := hrule ▸ List.subset_append_right _ _
      refine (edgeMatcher_alike (fun _ => hcopy _ (by simp)) _ _).bind fun matcher _ => ?_
      split
      · have hr : ∀ text pos inner out, Stack.Captured g stack inner →
            Alike copy (g.rescan nesting text pos inner out) (g.rescan nesting text pos inner out)
              fun _ => True := fun text pos inner out _ =>
          (scan_alike hg hcopy hn hn ⟨text, pos, inner, out⟩).bind fun _ _ => .pure trivial
        refine (Captures.paint_alike hcopy hr text (.refl stack) _ _ hc out).bind fun out _ => ?_
        exact ih _ _ _
      · exact .pure trivial
    · exact ih _ _ _

/-- A line comes to a result, or to a fault that is not for want of room for scans in each other. -/
theorem scanLineWithin_ne_exhausted {nesting : Nat} (hn : Stack.maxDepth ≤ nesting)
    (line : List Char) (stack : Stack) (cache : PatternCache) :
    g.scanLineWithin nesting line stack cache ≠ .error .exhausted := by
  -- such a fault could be taken for another one without anything else becoming different
  let copy : ScanFault → ScanFault := fun fault => if fault = .exhausted then .noProgress else fault
  have hcopy : ∀ fault, fault ≠ .exhausted → copy fault = fault := fun fault h => if_neg h
  have halike : Alike copy (g.scanLineWithin nesting line stack)
      (g.scanLineWithin nesting line stack) fun _ => True := by
    refine (keepOpen_alike hg hcopy hn _ stack _ [] 0 _).bind fun r _ => ?_
    exact (scan_alike hg hcopy hn hn ⟨_, r.1, r.2.1, r.2.2⟩).bind fun _ _ => .pure trivial
  exact halike.ne_error (by decide) trivial

end Open

/-- A scan asks only for scans with more regions, unless it was entered in a region with an end.
Where no captured text is scanned with a rule that has an end, scans lie in each other less deep
than regions may; those that keep asking for each other find no room in the end; and how deep they
may lie in each other makes no difference, so every line comes to a result. -/
theorem captured_scans_bounded (g : Grammar) :
    (∀ outer inner, g.Asks outer inner →
      outer.stack.depth < inner.stack.depth ∨ (g.rule outer.stack.top.rule).ends = true) ∧
    (g.CapturesOpen →
      (∀ n first last, g.Nests n first last → n < Stack.maxDepth) ∧
      (∀ nesting, Stack.maxDepth ≤ nesting → ∀ Q, g.Reenters nesting Q → ∀ c, Q c → ∀ cache,
        g.scanWith (g.rescan nesting) c cache = .error .tooDeep) ∧
      (∀ n n', Stack.maxDepth ≤ n → Stack.maxDepth ≤ n' → g.scan n = g.scan n') ∧
      ∀ n, Stack.maxDepth ≤ n → ∀ line stack cache,
        g.scanLineWithin n line stack cache ≠ .error .exhausted) := by
  refine ⟨fun outer inner hask => ?_, fun hg => ⟨fun n first last hn => ?_, ?_, ?_, ?_⟩⟩
  · cases hends : (g.rule outer.stack.top.rule).ends with
    | true => exact .inr rfl
    | false => exact .inl (captured_of_asks (.inr hends) (.refl _) hask).depth_lt
  · cases hn with
    | done => decide
    | ask hask rest =>
      have hbottom : Stack.Kept g { first.stack with regions := [] } := .inl rfl
      have hinner := captured_of_asks hbottom first.stack.above_bottom hask
      have hlt : 1 < _ := hinner.depth_lt
      have hle := rest.captured hg hinner
      omega
  · exact fun nesting hn Q hQ c hc cache => tooDeep_of_reenters hg hn hQ hc cache
  · exact fun n n' hn hn' => scan_eq hg hn hn'
  · exact fun n hn line stack cache => scanLineWithin_ne_exhausted hg hn line stack cache

section Within
variable {n : Nat} {out : Paint} {rescan : Rescan} {cache : PatternCache} {fault : ScanFault}

def withinFrame : Frame := ⟨2, ["source.w"], ["source.w"], none, some 0⟩

def withinCall (n : Nat) (out : Paint) : Rescan.Call :=
  ⟨#['k'], 0, ⟨(Stack.initial Sample.within).root, List.replicate n withinFrame⟩, out⟩

theorem within_match (n : Nat) (out : Paint) :
    Sample.within.nextMatch #['k'] 0 (withinCall n out).stack =
      pure (some ⟨.rule 1, ⟨⟨0, 1⟩, []⟩⟩) := by
  funext cache
  cases n <;> cbv

theorem within_scan
    (hnext : ∀ nested, (withinCall n out).stack.push? withinFrame = some nested →
      rescan #['k'] 0 nested ((out.upTo 0 ["source.w"]).upTo 0 ["source.w"]) cache = .error fault)
    (hfull : (withinCall n out).stack.push? withinFrame = none → fault = .tooDeep) :
    Sample.within.scanWith rescan (withinCall n out) cache = .error fault := by
  have hscopes : (withinCall n out).stack.scopes = ["source.w"] := by cases n <;> rfl
  have henter : Scopes.enter ["source.w"] none = ["source.w"] := rfl
  have hrule : Sample.within.rule 1 = .single none (Sample.pattern "k+") [{ patterns := some 2 }] :=
    rfl
  have hact : Sample.within.act rescan #['k'] 0 (withinCall n out).stack
      ⟨.rule 1, ⟨⟨0, 1⟩, []⟩⟩ out cache = .error fault := by
    simp only [act, Captures.paint, Captures.paintFrom, Captures.paintGroup, Captures.closeUpTo,
      hrule, hscopes, henter, Groups.get?, List.head?_nil, Option.elim_none, Found.start]
    split
    · next hempty => exact absurd hempty (by decide)
    · cases hpush : (withinCall n out).stack.push? withinFrame with
      | none =>
        have hfault := hfull hpush
        rw [withinFrame] at hpush
        rw [hpush, hfault]
        rfl
      | some nested =>
        have hfault := hnext nested hpush
        rw [withinFrame] at hpush
        rw [hpush]
        change (((rescan #['k'] _ _ _ cache).bind _).bind _).bind _ = _
        rw [hfault]
        rfl
  have hlimit : stepLimit (withinCall n out).text = 515 + 1 := rfl
  have hpos : (withinCall n out).pos < (withinCall n out).text.size := Nat.one_pos
  rw [scanWith, hlimit, walk, if_pos hpos]
  change ((Sample.within.nextMatch #['k'] 0 (withinCall n out).stack >>= _) cache).bind _ = _
  rw [within_match]
  change ((Sample.within.act rescan #['k'] 0 (withinCall n out).stack _ out cache).bind
    _).bind _ = _
  rw [hact]
  rfl

theorem within_reenters (nesting : Nat) :
    Sample.within.Reenters nesting fun c => ∃ n out, c = withinCall n out := by
  rintro c ⟨n, out, rfl⟩ cache
  cases hpush : (withinCall n out).stack.push? withinFrame with
  | none =>
    refine .inr (within_scan (fun nested h => ?_) fun _ => rfl)
    rw [hpush] at h
    cases h
  | some nested =>
    have hnested : nested = (withinCall (n + 1) out).stack := by
      unfold Stack.push? at hpush
      split at hpush
      · cases hpush
        rfl
      · cases hpush
    refine .inl ⟨_, ⟨n + 1, (out.upTo 0 ["source.w"]).upTo 0 ["source.w"], rfl⟩, fun fault => ?_⟩
    refine within_scan (fun other h => ?_) fun h => ?_
    · rw [hpush] at h
      cases h
      subst hnested
      exact congrFun (if_pos rfl) cache
    · rw [hpush] at h
      cases h

theorem captured_scans_bounded_within :
    Grammar.compile Pattern.engine Sample.withinFile "source.w" = (.ok Sample.within, []) ∧
      Sample.within.CapturesOpen ∧
      (∀ nesting, Stack.maxDepth ≤ nesting →
        Sample.within.scanWith (Sample.within.rescan nesting) (withinCall 0 (.fresh 1)) {} =
          .error .tooDeep) ∧
      Sample.within.scanLine ['k'] (.initial Sample.within) {} ≠ .error .exhausted := by
  have hopen : Sample.within.CapturesOpen := by
    rintro rule ⟨id, c, hc, hrule⟩
    have hone : c ∈ (Sample.within.rule 1).captures := by
      match id with
      | 0 | 2 | _ + 3 => cases hc
      | 1 => exact hc
    obtain rfl := List.mem_singleton.1 hone
    cases hrule
    rfl
  obtain ⟨-, hbounded⟩ := captured_scans_bounded Sample.within
  obtain ⟨-, hfull, -, hline⟩ := hbounded hopen
  exact ⟨by cbv, hopen, fun nesting hn =>
    hfull nesting hn _ (within_reenters nesting) _ ⟨0, .fresh 1, rfl⟩ _,
      hline _ (by decide +kernel) _ _ _⟩

end Within

section Behind

def behindCall : Rescan.Call where
  text := #['b', 'a']
  pos := 0
  stack := ⟨(Stack.initial Sample.behind).root, [⟨2, ["source.e"], ["source.e"], none, some 0⟩]⟩
  out := ⟨[⟨0, 2, ["source.e"]⟩], 2, 2⟩

def behindLine : Rescan.Call := ⟨#['b', 'a', '\n'], 0, .initial Sample.behind, .fresh 2⟩

theorem behind_asks (rescan : Rescan) (fault : ScanFault) (cache : PatternCache) :
    Sample.behind.scanWith (rescan.failing behindCall fault) behindLine cache = .error fault ∧
      Sample.behind.scanWith (rescan.failing behindCall fault) behindCall cache = .error fault := by
  constructor <;> cbv

theorem behind_rescan (n : Nat) (cache : PatternCache) :
    Sample.behind.rescan n behindCall.text behindCall.pos behindCall.stack behindCall.out cache =
      .error .exhausted := by
  induction n generalizing cache with
  | zero => rfl
  | succ n ih =>
    have hscan := (behind_asks (Sample.behind.rescan n) .exhausted cache).2
    rw [Rescan.failing_eq_self ih] at hscan
    rw [rescan, scan_succ, bind_apply, hscan]
    rfl

theorem behind_scanLine (n : Nat) :
    Sample.behind.scanLineWithin n ['b', 'a'] (.initial Sample.behind) {} = .error .exhausted := by
  have hscan : Sample.behind.scan n behindLine.text 0 (.initial Sample.behind) (.fresh 2) {} =
      .error .exhausted := by
    cases n with
    | zero => rfl
    | succ n =>
      have hline := (behind_asks (Sample.behind.rescan n) .exhausted {}).1
      rwa [Rescan.failing_eq_self (behind_rescan n)] at hline
  change (Sample.behind.scan n behindLine.text 0 (.initial Sample.behind) (.fresh 2) {}).bind _ = _
  rw [hscan]
  rfl

/-- Captured text that is scanned with a rule that has an end: the scan asks for itself, and there
is no end to it, however deep scans may lie in each other. -/
theorem captured_scans_unbounded :
    Grammar.compile Pattern.engine Sample.behindFile "source.e" = (.ok Sample.behind, []) ∧
      Sample.behind.Asks behindLine behindCall ∧ Sample.behind.Asks behindCall behindCall ∧
      (∀ n, Sample.behind.Nests n behindCall behindCall) ∧
      (∀ n, Sample.behind.scanLineWithin n ['b', 'a'] (.initial Sample.behind) {} =
        .error .exhausted) ∧
      Sample.behind.scanLine ['b', 'a'] (.initial Sample.behind) {} = .error .exhausted := by
  have hself : Sample.behind.Asks behindCall behindCall :=
    ⟨0, {}, fun fault => (behind_asks _ fault {}).2⟩
  refine ⟨by cbv, ⟨0, {}, fun fault => (behind_asks _ fault {}).1⟩, hself, fun n => ?_,
    behind_scanLine, behind_scanLine _⟩
  induction n with
  | zero => exact .done _
  | succ n ih => exact .ask hself ih

end Behind

end Grammar

end Highlighting
