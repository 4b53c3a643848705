import Highlighting.Proofs.Sample
import Highlighting.Proofs.Scan.Reading

/-! What a search settles on, though it need not look at all the matches that there are. -/
namespace Highlighting
open ScanM

namespace Found

/-- The match that starts first; of several, the one that stands first in the list. -/
def leftmost : List Found → Option Found
  | [] => none
  | f :: rest =>
    match leftmost rest with
    | none => some f
    | some other => if other.start < f.start then some other else some f

def First (all : List Found) (f : Found) : Prop :=
  ∃ before behind, all = before ++ f :: behind ∧ (∀ b ∈ before, f.start < b.start) ∧
    ∀ b ∈ behind, f.start ≤ b.start

variable {all rest : List Found} {f : Found}

theorem First.start_le (h : First all f) : ∀ b ∈ all, f.start ≤ b.start := by
  obtain ⟨before, behind, rfl, hbefore, hbehind⟩ := h
  intro b hb
  obtain hb | hb := List.mem_append.1 hb
  · exact Nat.le_of_lt (hbefore b hb)
  · obtain rfl | hb := List.mem_cons.1 hb
    · exact Nat.le_refl _
    · exact hbehind b hb

theorem leftmost_eq_none_iff : leftmost all = none ↔ all = [] := by
  cases all with
  | nil => exact iff_of_true rfl rfl
  | cons f rest =>
    refine iff_of_false (fun h => ?_) (List.cons_ne_nil f rest)
    rw [leftmost] at h
    split at h
    · cases h
    · split at h <;> cases h

theorem first_of_leftmost (h : leftmost all = some f) : First all f := by
  induction all generalizing f with
  | nil => cases h
  | cons g rest ih =>
    rw [leftmost] at h
    split at h
    · next hnone =>
      cases h
      obtain rfl := leftmost_eq_none_iff.1 hnone
      exact ⟨[], [], rfl, nofun, nofun⟩
    · next other hother =>
      have hfirst := ih hother
      split at h
      · next hlt =>
        cases h
        obtain ⟨before, behind, rfl, hbefore, hbehind⟩ := hfirst
        exact ⟨g :: before, behind, rfl, List.forall_mem_cons.2 ⟨hlt, hbefore⟩, hbehind⟩
      · next hle =>
        cases h
        refine ⟨[], rest, rfl, nofun, fun b hb => ?_⟩
        exact Nat.le_trans (Nat.le_of_not_lt hle) (hfirst.start_le b hb)

theorem mem_of_leftmost (h : leftmost all = some f) : f ∈ all := by
  obtain ⟨before, behind, rfl, -, -⟩ := first_of_leftmost h
  exact List.mem_append_right _ List.mem_cons_self

theorem leftmost_cons (h : ∀ b ∈ rest, f.start ≤ b.start) : leftmost (f :: rest) = some f := by
  rw [leftmost]
  split
  · rfl
  · next other hother => exact if_neg (Nat.not_lt_of_le (h other (mem_of_leftmost hother)))

theorem leftmost_eq_some_iff : leftmost all = some f ↔ First all f := by
  refine ⟨first_of_leftmost, fun h => ?_⟩
  obtain ⟨before, behind, rfl, hbefore, hbehind⟩ := h
  induction before with
  | nil => exact leftmost_cons hbehind
  | cons b before ih =>
    obtain ⟨hb, hrest⟩ := List.forall_mem_cons.1 hbefore
    rw [List.cons_append, leftmost, ih hrest]
    exact if_pos hb

theorem First.append (h : First all f) (hrest : ∀ b ∈ rest, f.start ≤ b.start) :
    First (all ++ rest) f := by
  obtain ⟨before, behind, rfl, hbefore, hbehind⟩ := h
  refine ⟨before, behind ++ rest, ?_, hbefore, List.forall_mem_append.2 ⟨hbehind, hrest⟩⟩
  rw [List.append_assoc, List.cons_append]

end Found

theorem Sample.character_forward (c : Char) : (character c).Forward := by
  intro text pos groups h
  obtain ⟨i, hi, rfl⟩ := Option.map_eq_some_iff.1 h
  have hfound := List.find?_some hi
  simp only [Bool.and_eq_true, decide_eq_true_eq] at hfound
  exact hfound.1

namespace Grammar
open Found
variable (g : Grammar)

def ruleMatch? (text : Text) (pos id : Nat) : Option Found :=
  ((g.rule id).matcher?.bind fun matcher => matcher.search text pos).map fun groups =>
    ⟨.rule id, groups⟩

/-- All that can be found from `pos` on inside the innermost region, first to last: a match of each
rule that has one, and the end of the region before or behind them. -/
def contenders (text : Text) (pos : Nat) (stack : Stack) : ScanM (List Found) :=
  let frame := stack.top
  let tried := (g.candidatesOf frame.rule).filterMap (g.ruleMatch? text pos)
  match g.rule frame.rule with
  | .block _ (some stop) _ stopLast => do
    let matcher ← g.edgeMatcher stop frame.resolved
    let ended := ((matcher.search text pos).map fun groups => ⟨.stop, groups⟩).toList
    return if stopLast then tried ++ ended else ended ++ tried
  | _ => return tried

variable {g} {text : Text} {pos : Nat}

theorem better_leftmost (all : List Found) (candidate : Candidate) (groups : Option Groups) :
    better (leftmost all) candidate groups =
      leftmost (all ++ (groups.map fun groups => ⟨candidate, groups⟩).toList) := by
  cases groups with
  | none => exact congrArg leftmost (List.append_nil all).symm
  | some groups =>
    symm
    simp only [better]
    cases hall : leftmost all with
    | none =>
      obtain rfl := leftmost_eq_none_iff.1 hall
      rfl
    | some f =>
      have hfirst := leftmost_eq_some_iff.1 hall
      dsimp only
      split
      · next hlt =>
        refine leftmost_eq_some_iff.2 ⟨all, [], rfl, fun b hb => ?_, List.forall_mem_nil _⟩
        exact Nat.lt_of_lt_of_le hlt (hfirst.start_le b hb)
      · next hle =>
        refine leftmost_eq_some_iff.2 (hfirst.append (List.forall_mem_singleton.2 ?_))
        exact Nat.le_of_not_lt hle

theorem le_start_of_ruleMatch? {id : Nat} (hforward : ∀ m ∈ (g.rule id).matcher?, m.Forward)
    {f : Found} (h : g.ruleMatch? text pos id = some f) : pos ≤ f.start := by
  obtain ⟨groups, hgroups, rfl⟩ := Option.map_eq_some_iff.1 h
  obtain ⟨m, hm, hsearch⟩ := Option.bind_eq_some_iff.1 hgroups
  exact hforward m hm text pos groups hsearch

/-- Stopping at a match at the place of the search leaves out none that starts earlier. -/
theorem bestRule_leftmost (rules : List Nat) (all : List Found)
    (hforward : ∀ id ∈ rules, ∀ m ∈ (g.rule id).matcher?, m.Forward) :
    g.bestRule text pos (leftmost all) rules =
      leftmost (all ++ rules.filterMap (g.ruleMatch? text pos)) := by
  induction rules generalizing all with
  | nil => exact congrArg leftmost (List.append_nil all).symm
  | cons id rest ih =>
    have hrest := fun all => ih all (List.forall_mem_cons.1 hforward).2
    rw [bestRule]
    split
    · next hhere =>
      obtain ⟨f, hf, hpos⟩ := (Option.any_eq_true _ _).1 hhere
      rw [hf]
      refine (leftmost_eq_some_iff.2 ((leftmost_eq_some_iff.1 hf).append fun b hb => ?_)).symm
      obtain ⟨other, hother, hb⟩ := List.mem_filterMap.1 hb
      exact beq_iff_eq.1 hpos ▸ le_start_of_ruleMatch? (hforward other hother) hb
    · split
      · next hnone =>
        rw [hrest, List.filterMap_cons_none]
        rw [ruleMatch?, hnone]
        rfl
      · next m hm =>
        have hmatch : g.ruleMatch? text pos id =
            (m.search text pos).map fun groups => ⟨.rule id, groups⟩ := by
          rw [ruleMatch?, hm]
          rfl
        rw [better_leftmost, hrest, ← hmatch, List.append_assoc]
        cases h : g.ruleMatch? text pos id with
        | none => rw [List.filterMap_cons_none h]; rfl
        | some f => rw [List.filterMap_cons_some h]; rfl

theorem nextMatch_eq_leftmost (g : Grammar) (text : Text) (pos : Nat) (stack : Stack)
    (hforward : ∀ id ∈ g.candidatesOf stack.top.rule, ∀ m ∈ (g.rule id).matcher?, m.Forward) :
    g.nextMatch text pos stack = (do return leftmost (← g.contenders text pos stack)) := by
  have hbest : ∀ all, g.bestRule text pos (leftmost all) (g.candidatesOf stack.top.rule) = _ :=
    fun all => bestRule_leftmost _ all hforward
  have hopen : (pure (g.bestRule text pos none (g.candidatesOf stack.top.rule)) : ScanM _) =
      pure (leftmost _) := congrArg pure (hbest [])
  simp only [nextMatch, contenders]
  rcases g.rule stack.top.rule with _ | _ | ⟨opening, _ | stop, stops, last⟩ | _
  · exact hopen
  · exact hopen
  · exact hopen
  · simp only [bind_assoc, pure_bind]
    refine bind_congr fun matcher => ?_
    cases last with
    | true =>
      have hrules : g.bestRule text pos none (g.candidatesOf stack.top.rule) = _ := hbest []
      rw [if_pos rfl, if_pos rfl, hrules, better_leftmost]
      rfl
    | false =>
      have hended : better none .stop (matcher.search text pos) = _ := better_leftmost [] _ _
      rw [if_neg Bool.false_ne_true, if_neg Bool.false_ne_true, hended, hbest]
      rfl
  · exact hopen

/-- A search settles on the leftmost of all that can be found, and of those on the first in order:
on nothing only if there is nothing, and with a fault only if the end of the region cannot be
searched for. What the engine gives for a rule must not start before the place of the search. -/
theorem nextMatch_leftmost (g : Grammar) (text : Text) (pos : Nat) (stack : Stack)
    (hforward : ∀ id ∈ g.candidatesOf stack.top.rule, ∀ m ∈ (g.rule id).matcher?, m.Forward)
    (cache : PatternCache) :
    match g.contenders text pos stack cache with
    | .error fault => g.nextMatch text pos stack cache = .error fault
    | .ok (all, rest) => ∃ found?, g.nextMatch text pos stack cache = .ok (found?, rest) ∧
        (found? = none ↔ all = []) ∧ ∀ f, found? = some f ↔ First all f := by
  rw [nextMatch_eq_leftmost g text pos stack hforward]
  cases h : g.contenders text pos stack cache with
  | error fault => simp only [bind_apply, h]; rfl
  | ok r =>
    refine ⟨leftmost r.1, ?_, leftmost_eq_none_iff, fun f => leftmost_eq_some_iff⟩
    simp only [bind_apply, h]
    rfl

theorem nextMatch_leftmost_tie :
    let bracket : Frame := ⟨1, ["source.q"], ["source.q"], some "(x", none⟩
    let stack : Stack := ⟨(Stack.initial Sample.quotes).root, [bracket]⟩
    let text : Text := #['a', '(', '\n']
    let groups : Groups := ⟨⟨1, 2⟩, []⟩
    let cache : PatternCache := ⟨[("(x", Sample.character '(')]⟩
    (∀ id ∈ Sample.quotes.candidatesOf stack.top.rule,
        ∀ m ∈ (Sample.quotes.rule id).matcher?, m.Forward) ∧
      Sample.quotes.contenders text 1 stack {} =
        .ok ([⟨.stop, groups⟩, ⟨.rule 1, groups⟩], cache) ∧
      Sample.quotes.nextMatch text 1 stack {} = .ok (some ⟨.stop, groups⟩, cache) := by
  intro bracket stack text groups cache
  have hforward : ∀ id ∈ Sample.quotes.candidatesOf stack.top.rule,
      ∀ m ∈ (Sample.quotes.rule id).matcher?, m.Forward := by
    intro id hid m hm
    obtain rfl := List.mem_singleton.1 hid
    cases hm
    exact Sample.character_forward '('
  have hall : Sample.quotes.contenders text 1 stack {} =
      .ok ([⟨.stop, groups⟩, ⟨.rule 1, groups⟩], cache) := by
    unfold cache groups text stack bracket
    cbv
  have hfirst : First [⟨.stop, groups⟩, ⟨.rule 1, groups⟩] ⟨.stop, groups⟩ :=
    ⟨[], _, rfl, List.forall_mem_nil _, List.forall_mem_singleton.2 (Nat.le_refl 1)⟩
  have h := nextMatch_leftmost Sample.quotes text 1 stack hforward {}
  rw [hall] at h
  obtain ⟨found?, hnext, -, hiff⟩ := h
  exact ⟨hforward, hall, (hiff _).2 hfirst ▸ hnext⟩

end Grammar

end Highlighting
