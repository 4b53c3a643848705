import Highlighting.Proofs.MarkStore.Arranged
import Highlighting.Proofs.Sample

/-! The store beside the editor, whichever calls the editor refuses. -/
namespace Highlighting

def Attempt.added : Attempt → List Mark
  | ⟨.addMarks _ marks, none⟩ => marks
  | _ => []

namespace MarkStore

inductive Call
  | set (buffer : Nat) (rule : GroupRule) (tokens : List Token)
  | undecorate (buffer : Nat) (range : LineRange)
  | forget (buffer : Nat)

namespace Call

def buffer : Call → Nat
  | .set buffer .. | .undecorate buffer _ | .forget buffer => buffer

def calls : Call → List HostCall
  | .set buffer rule tokens => addCalls buffer (tokens.filterMap rule.mark?)
  | .undecorate buffer range => [.removeMarks buffer range]
  | .forget _ => []

theorem calls_cases (c : Call) : c.calls = [] ∨ ∃ call, c.calls = [call] := by
  cases c with
  | set buffer rule tokens =>
    rw [Call.calls]
    cases tokens.filterMap rule.mark? with
    | nil => exact .inl rfl
    | cons m rest => exact .inr ⟨_, rfl⟩
  | undecorate buffer range => exact .inr ⟨_, rfl⟩
  | forget buffer => exact .inl rfl

end Call

inductive Event
  | attempted (a : Attempt)
  | forgotten (buffer : Nat)

namespace Event

def attempt? : Event → Option Attempt
  | .attempted a => some a
  | .forgotten _ => none

def alter (buffer : Nat) (shown : List Mark) : Event → List Mark
  | .attempted ⟨call, none⟩ => call.alter buffer shown
  | .attempted ⟨_, some _⟩ => shown
  | .forgotten b => if b = buffer then [] else shown

/-- What the editor shows on a buffer after some events, if it is empty at first and whenever it has
been forgotten. -/
def replay (buffer : Nat) (events : List Event) : List Mark := events.foldl (alter buffer) []

theorem replay_append (buffer : Nat) (events : List Event) (e : Event) :
    replay buffer (events ++ [e]) = e.alter buffer (replay buffer events) := by
  rw [replay, List.foldl_append]
  rfl

end Event

/-- A store, its editor, and what has happened since the store was empty. -/
structure Journal where
  store : MarkStore := {}
  host : Host
  events : List Event := []

namespace Journal

def answer (j : Journal) : Call → MarkStore × Host
  | .set buffer rule tokens =>
    match j.store.set j.host buffer rule tokens with
    | (.ok (_, store), host) => (store, host)
    | (.error _, host) => (j.store, host)
  | .undecorate buffer range =>
    match j.store.undecorate j.host buffer range with
    | (.ok store, host) => (store, host)
    | (.error _, host) => (j.store, host)
  | .forget buffer => (j.store.forget buffer, j.host)

def step (j : Journal) (call : Call) : Journal :=
  let (store, host) := j.answer call
  let attempted := (host.attempts.drop j.host.attempts.length).map Event.attempted
  let forgotten := match call with
    | .forget buffer => [Event.forgotten buffer]
    | _ => []
  ⟨store, host, j.events ++ attempted ++ forgotten⟩

def run (j : Journal) (calls : List Call) : Journal := calls.foldl step j

inductive Stepped (j : Journal) (c : Call) : Journal → Prop
  | forgotten (buffer : Nat) (asked : c = .forget buffer) :
      Stepped j c ⟨j.store.forget buffer, j.host, j.events ++ [.forgotten buffer]⟩
  | idle (asked : c.calls = []) : Stepped j c j
  | accepted (call : HostCall) (asked : c.calls = [call]) :
      Stepped j c ⟨j.store.apply call,
        { j.host with attempts := j.host.attempts ++ [⟨call, none⟩] },
        j.events ++ [.attempted ⟨call, none⟩]⟩
  | refused (call : HostCall) (reason : String) (asked : c.calls = [call]) :
      Stepped j c ⟨j.store, { j.host with attempts := j.host.attempts ++ [⟨call, some reason⟩] },
        j.events ++ [.attempted ⟨call, some reason⟩]⟩

theorem answer_eq (j : Journal) {c : Call} (hc : ∀ buffer, c ≠ .forget buffer) :
    j.answer c = (j.store.callAll j.host c.calls).2 := by
  cases c with
  | set buffer rule tokens =>
    unfold answer
    dsimp only
    rw [set_eq, Call.calls]
    cases tokens.filterMap rule.mark? with
    | nil => rfl
    | cons m rest =>
      rw [addCalls, callAll]
      rcases j.host.make (.addMarks buffer (m :: rest)) with ⟨_ | reason, host⟩ <;> rfl
  | undecorate buffer range =>
    unfold answer
    dsimp only
    rw [undecorate_eq, Call.calls, callAll]
    rcases j.host.make (.removeMarks buffer range) with ⟨_ | reason, host⟩ <;> rfl
  | forget buffer => exact absurd rfl (hc buffer)

theorem step_stepped (j : Journal) (c : Call) : Stepped j c (j.step c) := by
  by_cases hf : ∃ buffer, c = .forget buffer
  · obtain ⟨buffer, rfl⟩ := hf
    have hstep : j.step (.forget buffer) =
        ⟨j.store.forget buffer, j.host, j.events ++ [.forgotten buffer]⟩ := by
      unfold step answer
      simp
    rw [hstep]
    exact .forgotten buffer rfl
  have hc : ∀ buffer, c ≠ .forget buffer := fun buffer he => hf ⟨buffer, he⟩
  have hstep : j.step c =
      let made := (j.store.callAll j.host c.calls).2
      ⟨made.1, made.2, j.events ++
        (made.2.attempts.drop j.host.attempts.length).map Event.attempted⟩ := by
    unfold step
    rw [j.answer_eq hc]
    cases c with
    | forget buffer => exact absurd rfl (hc buffer)
    | set buffer rule tokens => simp
    | undecorate buffer range => simp
  rw [hstep]
  obtain hidle | ⟨call, hone⟩ := c.calls_cases
  · rw [hidle]
    simpa [callAll] using Stepped.idle hidle
  · rw [hone, callAll, Host.make]
    cases j.host.refuse j.host.attempts call with
    | none => simpa [callAll] using Stepped.accepted call hone
    | some reason => simpa using Stepped.refused call reason hone

/-- The store has for each buffer what the editor shows, and the events hold all attempts. -/
structure Mirrors (first : List Attempt) (j : Journal) : Prop where
  attempts : j.host.attempts = first ++ j.events.filterMap Event.attempt?
  marks : ∀ buffer, Arranged (j.store.marks buffer) (Event.replay buffer j.events)

theorem start_mirrors (host : Host) : Mirrors host.attempts { host := host } where
  attempts := by simp
  marks _ := .nil

variable {first : List Attempt} {j : Journal}

theorem Mirrors.step (h : j.Mirrors first) (c : Call) : (j.step c).Mirrors first := by
  have stepped := j.step_stepped c
  generalize j.step c = next at stepped
  cases stepped with
  | forgotten buffer asked =>
    refine ⟨?_, fun other => ?_⟩
    · dsimp only
      rw [h.attempts, List.filterMap_append]
      exact (congrArg (first ++ ·) (List.append_nil _)).symm
    · dsimp only
      rw [Event.replay_append, Event.alter, marks_forget]
      split
      · exact .nil
      · exact h.marks other
  | idle asked => exact h
  | accepted call asked =>
    refine ⟨?_, fun other => ?_⟩
    · dsimp only
      rw [h.attempts, List.filterMap_append, List.append_assoc]
      rfl
    · rw [Event.replay_append]
      exact apply_arranged (h.marks other) call
  | refused call reason asked =>
    refine ⟨?_, fun other => ?_⟩
    · dsimp only
      rw [h.attempts, List.filterMap_append, List.append_assoc]
      rfl
    · rw [Event.replay_append]
      exact h.marks other

theorem Mirrors.run (h : j.Mirrors first) (calls : List Call) : (j.run calls).Mirrors first :=
  List.foldlRecOn calls _ h fun _ h c _ => h.step c

theorem store_eq_of_refused (j : Journal) (c : Call)
    (h : ∃ a ∈ (j.step c).host.attempts.drop j.host.attempts.length, a.refusal.isSome) :
    (j.step c).store = j.store := by
  have stepped := j.step_stepped c
  generalize j.step c = next at stepped h
  cases stepped with
  | forgotten buffer asked => simp at h
  | idle asked => rfl
  | accepted call asked => simp at h
  | refused call reason asked => rfl

theorem marks_eq_of_ne (j : Journal) (c : Call) {other : Nat} (h : other ≠ c.buffer) :
    (j.step c).store.marks other = j.store.marks other := by
  have stepped := j.step_stepped c
  generalize j.step c = next at stepped
  cases stepped with
  | forgotten buffer asked =>
    subst asked
    exact (marks_forget j.store buffer other).trans (if_neg fun he => h he.symm)
  | idle asked => rfl
  | accepted call asked =>
    cases c with
    | set buffer rule tokens =>
      rw [Call.calls] at asked
      cases hm : tokens.filterMap rule.mark? with
      | nil => rw [hm] at asked; cases asked
      | cons m rest =>
        rw [hm] at asked
        cases asked
        rw [apply, marks_put, if_neg fun he => h he.symm]
    | undecorate buffer range =>
      cases asked
      rw [apply, marks_put, if_neg fun he => h he.symm]
    | forget buffer => cases asked
  | refused call reason asked => rfl

theorem set_count {s : MarkStore} {h host : Host} {buffer : Nat} {rule : GroupRule}
    {tokens : List Token} {count : Nat} {after : MarkStore}
    (hset : s.set h buffer rule tokens = (.ok (count, after), host)) :
    count = ((host.attempts.drop h.attempts.length).flatMap Attempt.added).length := by
  rw [set_eq] at hset
  cases hm : tokens.filterMap rule.mark? with
  | nil =>
    rw [hm] at hset
    cases hset
    simp
  | cons m rest =>
    rw [hm, addCalls, callAll, Host.make] at hset
    cases hr : h.refuse h.attempts (.addMarks buffer (m :: rest)) with
    | none =>
      rw [hr] at hset
      cases hset
      simp [Attempt.added]
    | some reason => rw [hr] at hset; cases hset

/-- After any calls, and whichever of them the editor has refused, the marks that are kept for a
buffer are what the accepted calls have left there since it was last forgotten. -/
theorem marks_mirror_host (host : Host) (calls : List Call) :
    let j : Journal := run { host := host } calls
    j.host.attempts = host.attempts ++ j.events.filterMap Event.attempt? ∧
      (∀ buffer, Arranged (j.store.marks buffer) (Event.replay buffer j.events) ∧
        j.store.count buffer = (Event.replay buffer j.events).length) ∧
      (∀ c, (∃ a ∈ (j.step c).host.attempts.drop j.host.attempts.length, a.refusal.isSome) →
        (j.step c).store = j.store) ∧
      (∀ c other, other ≠ c.buffer → (j.step c).store.marks other = j.store.marks other) ∧
      ∀ buffer rule tokens count after host',
        j.store.set j.host buffer rule tokens = (.ok (count, after), host') →
        count = ((host'.attempts.drop j.host.attempts.length).flatMap Attempt.added).length := by
  intro j
  have hj : j.Mirrors host.attempts := (start_mirrors host).run calls
  refine ⟨hj.attempts, fun buffer => ⟨hj.marks buffer, (hj.marks buffer).perm.length_eq⟩, ?_⟩
  exact ⟨j.store_eq_of_refused, fun c other => j.marks_eq_of_ne c,
    fun buffer rule tokens count after host' => set_count⟩

def sampleRule : GroupRule := Sample.rules.resolve "source.k"

def keeping : Host where
  refuse
    | _, .removeMarks .. => some "kept"
    | _, _ => none

theorem marks_mirror_host_kept :
    let j : Journal := run { host := keeping } [.set 1 sampleRule
      [⟨["source.k", "keyword.k"], 1, 0, 1⟩, ⟨["source.k", "keyword.k"], 0, 2, 1⟩]]
    j.store.marks 1 = [⟨0, 2, 3, "Keyword"⟩, ⟨1, 0, 1, "Keyword"⟩] ∧
      Event.replay 1 j.events = [⟨1, 0, 1, "Keyword"⟩, ⟨0, 2, 3, "Keyword"⟩] ∧
      Arranged (j.store.marks 1) (Event.replay 1 j.events) ∧
      (∃ a ∈ (j.step (.undecorate 1 .all)).host.attempts.drop j.host.attempts.length,
        a.refusal.isSome) ∧
      (j.step (.undecorate 1 .all)).store = j.store ∧
      2 ≠ (Call.undecorate 1 .all).buffer ∧
      (j.step (.undecorate 1 .all)).store.marks 2 = j.store.marks 2 ∧
      ∃ after host', j.store.set j.host 2 sampleRule [⟨["keyword.k"], 0, 0, 1⟩] =
          (.ok (1, after), host') ∧
        1 = ((host'.attempts.drop j.host.attempts.length).flatMap Attempt.added).length := by
  intro j
  obtain ⟨-, hmarks, hrefused, hother, hcount⟩ := marks_mirror_host keeping [.set 1 sampleRule
    [⟨["source.k", "keyword.k"], 1, 0, 1⟩, ⟨["source.k", "keyword.k"], 0, 2, 1⟩]]
  have hkept : j.store.marks 1 = [⟨0, 2, 3, "Keyword"⟩, ⟨1, 0, 1, "Keyword"⟩] := by
    unfold j
    cbv
  have hreplay : Event.replay 1 j.events = [⟨1, 0, 1, "Keyword"⟩, ⟨0, 2, 3, "Keyword"⟩] := by
    unfold j
    cbv
  have hlast : (j.step (.undecorate 1 .all)).host.attempts.drop j.host.attempts.length =
      [⟨.removeMarks 1 .all, some "kept"⟩] := by
    unfold j
    cbv
  have hr : ∃ a ∈ (j.step (.undecorate 1 .all)).host.attempts.drop j.host.attempts.length,
      a.refusal.isSome := ⟨_, by rw [hlast]; exact .head _, rfl⟩
  have hnone : j.host.refuse j.host.attempts (.addMarks 2 [⟨0, 0, 1, "Keyword"⟩]) = none := by
    unfold j
    cbv
  have hmark : [(⟨["keyword.k"], 0, 0, 1⟩ : Token)].filterMap sampleRule.mark? =
      [⟨0, 0, 1, "Keyword"⟩] := by cbv
  have hset : j.store.set j.host 2 sampleRule [⟨["keyword.k"], 0, 0, 1⟩] =
      (.ok (1, j.store.apply (.addMarks 2 [⟨0, 0, 1, "Keyword"⟩])),
        (j.host.make (.addMarks 2 [⟨0, 0, 1, "Keyword"⟩])).2) := by
    simp only [set_eq, hmark, addCalls, callAll, Host.make, hnone, List.length_singleton]
  refine ⟨hkept, hreplay, (hmarks 1).1, hr, hrefused _ hr, ?_, ?_, _, _, hset, ?_⟩
  · decide
  · exact hother _ 2 (by decide)
  · exact hcount _ _ _ _ _ _ hset

end Journal

end MarkStore

end Highlighting
