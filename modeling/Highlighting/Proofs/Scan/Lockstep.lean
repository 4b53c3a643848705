import Highlighting.Proofs.Scan.Effects

/-!
Two scans that go in lockstep: from the same patterns read they come to the same result, or to
faults that stand for each other.
-/
namespace Highlighting
variable {ε α β : Type}

/-- The left scan has faults of its own, among which the faults of the right one have a copy. What
is said of the patterns read stays true, and the result is as stated. -/
structure Lockstep (sound : PatternCache → Prop) (copy : ScanFault → ε)
    (x : StateT PatternCache (Except ε) α) (y : ScanM α) (P : α → Prop) : Prop where
  eq : ∀ cache, sound cache → x cache = (y cache).mapError copy
  result : ∀ cache, sound cache → ∀ a rest, y cache = .ok (a, rest) → P a ∧ sound rest

namespace Lockstep
variable {sound : PatternCache → Prop} {copy : ScanFault → ε}
  {x : StateT PatternCache (Except ε) α} {y : ScanM α} {P : α → Prop}

theorem pure {a : α} (h : P a) : Lockstep sound copy (pure a) (pure a) P where
  eq _ _ := rfl
  result := by
    intro cache hc b rest hr
    cases hr
    exact ⟨h, hc⟩

theorem throw {fault : ScanFault} {e : ε} (h : e = copy fault) :
    Lockstep sound copy (throw e) (throw fault) P where
  eq _ _ := congrArg Except.error h
  result := by
    intro cache _ b rest hr
    cases hr

theorem bind {f : α → StateT PatternCache (Except ε) β} {h : α → ScanM β} {Q : β → Prop}
    (hx : Lockstep sound copy x y P) (hf : ∀ a, P a → Lockstep sound copy (f a) (h a) Q) :
    Lockstep sound copy (x >>= f) (y >>= h) Q where
  eq := by
    intro cache hc
    change (x cache).bind (fun r => f r.1 r.2) = ((y cache).bind fun r => h r.1 r.2).mapError copy
    rw [hx.eq cache hc]
    cases hy : y cache with
    | error fault => rfl
    | ok r =>
      obtain ⟨hP, hrest⟩ := hx.result cache hc r.1 r.2 hy
      exact (hf r.1 hP).eq r.2 hrest
  result := by
    intro cache hc b rest hr
    change (y cache).bind (fun r => h r.1 r.2) = _ at hr
    cases hy : y cache with
    | error fault => rw [hy] at hr; cases hr
    | ok r =>
      rw [hy] at hr
      obtain ⟨hP, hrest⟩ := hx.result cache hc r.1 r.2 hy
      exact (hf r.1 hP).result r.2 hrest b rest hr

theorem refl (y : ScanM α) : Lockstep (fun _ => True) id y y fun _ => True where
  eq cache _ := by cases h : y cache <;> rfl
  result _ _ _ _ _ := ⟨trivial, trivial⟩

theorem self (h : Lockstep sound copy x y P) : Lockstep sound id y y P where
  eq cache _ := by cases hy : y cache <;> rfl
  result := h.result

theorem with_faults {ε' : Type} {copy' : ScanFault → ε'} {z : StateT PatternCache (Except ε') α}
    {Q : α → Prop} (h : Lockstep sound copy x y P) (hf : Lockstep (fun _ => True) copy' z y Q) :
    Lockstep sound copy' z y P where
  eq cache _ := hf.eq cache trivial
  result := h.result

theorem and_ensures {Q : α → Prop} (hx : Lockstep sound copy x y P) (hy : ScanM.Ensures y Q) :
    Lockstep sound copy x y fun a => P a ∧ Q a where
  eq := hx.eq
  result cache hc a rest hr :=
    ⟨⟨(hx.result cache hc a rest hr).1, hy.result cache a rest hr⟩,
      (hx.result cache hc a rest hr).2⟩

theorem imp {Q : α → Prop} (hx : Lockstep sound copy x y P) (h : ∀ a, P a → Q a) :
    Lockstep sound copy x y Q where
  eq := hx.eq
  result cache hc a rest hr := (hx.result cache hc a rest hr).imp_left (h a)

theorem ne_error {copy : ScanFault → ScanFault} {fault : ScanFault} (h : Lockstep sound copy y y P)
    (hcopy : copy fault ≠ fault) {cache : PatternCache} (hc : sound cache) :
    y cache ≠ .error fault := by
  intro hy
  have heq := h.eq cache hc
  rw [hy] at heq
  exact hcopy (Except.error.inj heq).symm

theorem ensures (h : Lockstep (fun _ => True) copy x y P) : ScanM.Ensures y P where
  result cache a rest hr := (h.result cache trivial a rest hr).1

end Lockstep

abbrev ScanM.Runs (sound : PatternCache → Prop) (x : ScanM α) (P : α → Prop) : Prop :=
  Lockstep sound id x x P

end Highlighting
