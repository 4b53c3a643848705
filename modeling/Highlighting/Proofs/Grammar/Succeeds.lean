import Highlighting.Proofs.Grammar.Fuel

/-! When a compile ends well. -/
namespace Highlighting.Compile
variable {α β : Type}

def Succeeds (env : Environment) (q : Progress) (x : CompileM α) (Q : α → Prop) : Prop :=
  ∀ p, ∃ a p', Ends env x p a p' ∧ Q a ∧
    ∀ key, (p'.at? key).isSome = true → (p.at? key).isSome = true ∨ (q.at? key).isSome = true

namespace Succeeds
variable {env : Environment} {q : Progress} {x : CompileM α} {Q : α → Prop} {R : β → Prop}

theorem pure {a : α} (h : Q a) : Succeeds env q (pure a) Q := fun p =>
  ⟨a, p, rfl, h, fun _ => .inl⟩

theorem bind {f : α → CompileM β} (h : Succeeds env q x Q)
    (hf : ∀ a, Q a → Succeeds env q (f a) R) : Succeeds env q (x >>= f) R := by
  intro p
  obtain ⟨a, p', hx, ha, hkeys⟩ := h p
  obtain ⟨b, p'', hb, hR, hmore⟩ := hf a ha p'
  exact ⟨b, p'', ends_bind.2 ⟨a, p', hx, hb⟩, hR, fun key hkey =>
    (hmore key hkey).elim (hkeys key) .inr⟩

theorem map {f : α → β} (h : Succeeds env q x Q) (hf : ∀ a, Q a → R (f a)) :
    Succeeds env q (f <$> x) R := by
  rw [map_eq_pure_bind]
  exact h.bind fun a ha => .pure (hf a ha)

theorem read : Succeeds env q read (· = env) := fun p =>
  ⟨env, p, ends_read.2 ⟨rfl, rfl⟩, rfl, fun _ => .inl⟩

theorem get : Succeeds env q get fun _ => True := fun p =>
  ⟨p, p, ends_get.2 ⟨rfl, rfl⟩, trivial, fun _ => .inl⟩

theorem modify {f : Progress → Progress} (hf : ∀ p key, (f p).at? key = p.at? key) :
    Succeeds env q (modify f) fun _ => True := fun p =>
  ⟨(), f p, ends_modify.2 rfl, trivial, fun key hkey => .inl (hf p key ▸ hkey)⟩

end Succeeds

section
variable {env : Environment} {q : Progress}

theorem source_succeeds (file : String) :
    Succeeds env q (source file) (· = fileOf env.library file) := fun p =>
  ⟨_, p, ends_source.2 ⟨rfl, rfl⟩, rfl, fun _ => .inl⟩

theorem ask_succeeds (file : String) :
    Succeeds env q (ask file) (· = (env.library.lookup file).isSome) := by
  refine Succeeds.read.bind ?_
  rintro _ rfl
  split
  · next hfound =>
    refine (Succeeds.modify fun p key => ?_).bind fun _ _ => .pure hfound.symm
    cases key <;> rfl
  · next hnone => exact .pure (Bool.eq_false_iff.2 hnone).symm

theorem fileNamed_succeeds (context : Context) (scope : String) :
    Succeeds env q (fileNamed context scope) (· = fileNamed? env.library context scope) := by
  refine (source_succeeds _).bind ?_
  rintro _ rfl
  unfold fileNamed?
  split
  · exact .pure rfl
  · refine (ask_succeeds scope).bind ?_
    rintro _ rfl
    exact .pure rfl

theorem entry_succeeds (name : Option String) (file : String) :
    Succeeds env q (entry name file) (· = entryOf? env.library name file) := by
  cases name with
  | none => exact .pure rfl
  | some name =>
    refine (source_succeeds _).bind ?_
    rintro _ rfl
    exact .pure rfl

theorem referent_succeeds (context : Context) (reference : String) :
    Succeeds env q (referent context reference) (· = referent? env.library context reference) := by
  by_cases hname : ∃ name, splitReference reference = ("", some name)
  · obtain ⟨name, hname⟩ := hname
    rw [referent, referent?, hname]
    exact .pure rfl
  · have hother := fun name heq => hname ⟨name, heq⟩
    rw [referent_external hother, referent?_external hother]
    refine (fileNamed_succeeds _ _).bind ?_
    rintro _ rfl
    cases fileNamed? env.library context _ with
    | none => exact .pure rfl
    | some file => exact entry_succeeds _ file

theorem matcher_succeeds {pattern : String} {m : Matcher}
    (h : env.engine.compile? pattern = some m) :
    Succeeds env q (matcher pattern) (· = m) := by
  refine Succeeds.read.bind ?_
  rintro _ rfl
  rw [h]
  exact .pure rfl

theorem edge_succeeds {pattern : String} {e : EdgePattern} (h : edge? env.engine pattern = some e) :
    Succeeds env q (edge pattern) (· = e) := by
  unfold edge? at h
  unfold edge
  split at h
  · next hback =>
    rw [if_pos hback]
    exact .pure (Option.some.inj h)
  · next hback =>
    rw [if_neg hback]
    obtain ⟨m, hm, rfl⟩ := Option.map_eq_some_iff.1 h
    refine (matcher_succeeds hm).bind ?_
    rintro _ rfl
    exact .pure rfl

theorem edges_succeed {pattern? : Option String} {e? : Option EdgePattern}
    (h : pattern?.mapM (edge? env.engine) = some e?) :
    Succeeds env q (pattern?.mapM edge) (· = e?) := by
  cases pattern? with
  | none => exact .pure (Option.some.inj h)
  | some pattern =>
    obtain ⟨e, he, rfl⟩ := Option.map_eq_some_iff.1 h
    exact (edge_succeeds he).map fun _ => congrArg some

end

section
variable {engine : Engine} {library : Library} {start : String} {q : Progress}
  {compile : Target → CompileM Nat}

abbrev Given (engine : Engine) (library : Library) (q : Progress) (compile : Target → CompileM Nat)
    (u : Target) : Prop :=
  Succeeds ⟨engine, library⟩ q (compile u) fun _ => True

theorem pattern_succeeds {context : Context} {number : Nat}
    (hc : ∀ u, mention? library context number = some u → Given engine library q compile u) :
    Succeeds ⟨engine, library⟩ q
      (match (ruleOf library context.file number).reference with
        | some reference => follow compile context reference
        | none => some <$> compile (.rule context number)) fun _ => True := by
  unfold mention? target? at hc
  unfold follow
  cases href : (ruleOf library context.file number).reference with
  | none =>
    rw [href] at hc
    exact (hc _ rfl).map fun _ => id
  | some reference =>
    rw [href] at hc
    dsimp only at hc ⊢
    split at hc
    · next hself =>
      rw [if_pos hself]
      exact (hc _ rfl).map fun _ => id
    · next hself =>
      rw [if_neg hself]
      split at hc
      · next hbase =>
        rw [if_pos hbase]
        exact Succeeds.get.bind fun _ _ => .pure trivial
      · next hbase =>
        rw [if_neg hbase]
        refine (referent_succeeds context reference).bind fun t? ht => ?_
        cases t? with
        | none => exact .pure trivial
        | some t => exact (hc t ht.symm).map fun _ => id

theorem patterns_succeed (context : Context) {numbers : List Nat}
    (hc : ∀ number ∈ numbers, ∀ u, mention? library context number = some u →
      Given engine library q compile u) :
    Succeeds ⟨engine, library⟩ q
      (patterns compile (fileOf library context.file) context numbers) fun _ => True := by
  refine Succeeds.bind (Q := fun _ => True) ?_ fun _ _ => .pure trivial
  induction numbers with
  | nil => exact .pure trivial
  | cons number numbers ih =>
    rw [List.mapM_cons]
    refine (pattern_succeeds (hc number List.mem_cons_self)).bind fun _ _ => ?_
    refine (ih fun n hn => hc n (List.mem_cons_of_mem _ hn)).bind fun _ _ => ?_
    exact .pure trivial

theorem capture_succeeds (context : Context) {groups : Nat} {entry : String × Nat} {done : Captures}
    (h : (q.capture? library context.file groups entry).isSome = true)
    (hc : (ruleOf library context.file entry.2).patterns.isSome = true →
      (q.at? (.rule context.file entry.2)).isSome = true →
      Given engine library q compile (.rule context entry.2)) :
    Succeeds ⟨engine, library⟩ q
      (captureEntry compile (fileOf library context.file) context groups done entry)
      fun _ => True := by
  unfold Progress.capture? at h
  cases captureEntry_cases (fileOf library context.file) groups entry with
  | tooLarge fault step comes =>
    rw [comes] at h
    cases h
  | passedOver step =>
    rw [step]
    exact .pure trivial
  | named group name step =>
    rw [step]
    exact .pure trivial
  | rescanned group name holds step comes =>
    rw [comes, Option.isSome_map] at h
    rw [step]
    exact Succeeds.bind (Q := fun _ => True) ((hc holds h).map fun _ => id) fun _ _ => .pure trivial

theorem captures_succeed (context : Context) {groups : Nat} {names : Option RuleNames}
    {captures : Captures} (h : q.captures? library context.file groups names = some captures)
    (hc : ∀ entry ∈ names.getD [],
      (ruleOf library context.file entry.2).patterns.isSome = true →
      (q.at? (.rule context.file entry.2)).isSome = true →
      Given engine library q compile (.rule context entry.2)) :
    Succeeds ⟨engine, library⟩ q
      (Compile.captures compile (fileOf library context.file) context groups names)
      fun _ => True := by
  have hall := (captures?_eq_some_iff.1 h).1
  rw [captures_eq]
  generalize names.getD [] = entries at hc hall ⊢
  generalize ([] : Captures) = before
  induction entries generalizing before with
  | nil => exact .pure trivial
  | cons entry entries ih =>
    obtain ⟨hfirst, hrest⟩ := List.forall_mem_cons.1 hall
    rw [List.foldlM_cons]
    exact (capture_succeeds context hfirst (hc entry List.mem_cons_self)).bind fun next _ =>
      ih (fun e he => hc e (List.mem_cons_of_mem _ he)) hrest next

/-- What a target leads to can be compiled, as far as it has a place in `q`. -/
def Supplied (engine : Engine) (library : Library) (q : Progress) (compile : Target → CompileM Nat)
    (t : Target) : Prop :=
  ∀ u, Mentions library t u → (q.at? (u.key library)).isSome = true →
    Given engine library q compile u

theorem rule_succeeds {context : Context} {number : Nat} {places : List Nat} {r : Rule}
    (hc : Supplied engine library q compile (.rule context number))
    (hholds : q.Holds library (.rule context number))
    (h : Assembled engine (q.captures? library context.file) places
      (ruleOf library context.file number) r) :
    Succeeds ⟨engine, library⟩ q
      (rule compile (fileOf library context.file) context (ruleOf library context.file number))
      fun _ => True := by
  let t : Target := .rule context number
  have hcaptures : ∀ {groups : Nat} {names : Option RuleNames} {captures : Captures},
      names ∈ Target.captureChoices (ruleOf library context.file number) →
      q.captures? library context.file groups names = some captures →
      Succeeds ⟨engine, library⟩ q (Compile.captures compile (fileOf library context.file)
        (t.inside library) groups names) fun _ => True := by
    intro groups names captures hn hcaught
    exact captures_succeed (t.inside library) hcaught fun entry he holds =>
      hc _ (.of_entry (Target.mem_captures hn) he holds)
  unfold rule
  refine (patterns_succeed (t.inside library)
    fun n hn u hu => hc u (.pattern hn hu) (hholds n hn u hu)).bind fun ids _ => ?_
  cases h with
  | container noMatch noBegin =>
    simp only [noMatch, noBegin]
    exact .pure trivial
  | single isMatch compiled caught =>
    simp only [isMatch]
    refine (matcher_succeeds compiled).bind ?_
    rintro _ rfl
    refine (hcaptures (by simp [Target.captureChoices]) caught).bind fun _ _ => .pure trivial
  | block noMatch isBegin compiled caught noWhile isStop stopped =>
    simp only [noMatch, isBegin, noWhile]
    refine (matcher_succeeds compiled).bind ?_
    rintro _ rfl
    refine (hcaptures (by simp [Target.captureChoices]) caught).bind fun _ _ => ?_
    refine (edges_succeed isStop).bind ?_
    rintro _ rfl
    exact (hcaptures (by simp [Target.captureChoices]) stopped).bind fun _ _ => .pure trivial
  | lines noMatch isBegin compiled caught isWhile isGo gone =>
    simp only [noMatch, isBegin, isWhile]
    refine (matcher_succeeds compiled).bind ?_
    rintro _ rfl
    refine (hcaptures (by simp [Target.captureChoices]) caught).bind fun _ _ => ?_
    refine (edge_succeeds isGo).bind ?_
    rintro _ rfl
    exact (hcaptures (by simp [Target.captureChoices]) gone).bind fun _ _ => .pure trivial

theorem ofTarget_succeeds {t : Target} {r : Rule} (hc : Supplied engine library q compile t)
    (hholds : q.Holds library t) (h : q.Rendered engine library t r) :
    Succeeds ⟨engine, library⟩ q (ofTarget compile t) fun _ => True := by
  cases h with
  | root file =>
    refine (source_succeeds file).bind ?_
    rintro _ rfl
    exact (patterns_succeed (Target.inside library (.root file))
      fun n hn u hu => hc u (.pattern hn hu) (hholds n hn u hu)).bind fun _ _ => .pure trivial
  | rule assembled =>
    refine (source_succeeds _).bind ?_
    rintro _ rfl
    exact rule_succeeds hc hholds assembled

theorem target_succeeds
    (hq : ∀ t, Reached library start t → (q.at? (t.key library)).isSome = true →
      q.Holds library t ∧ ∃ r, q.Rendered engine library t r) (fuel : Nat) :
    ∀ t, Reached library start t → (q.at? (t.key library)).isSome = true →
      Given engine library q (target fuel) t := by
  have step : ∀ fuel, (∀ n, fuel = n + 1 → ∀ t, Reached library start t →
      (q.at? (t.key library)).isSome = true → Given engine library q (target n) t) →
      ∀ t, Reached library start t → (q.at? (t.key library)).isSome = true →
        Given engine library q (target fuel) t := by
    intro fuel hless t reached hplace
    have hknown : Succeeds ⟨engine, library⟩ q (known? t) fun _ => True := fun p =>
      ⟨_, p, known_ends t, trivial, fun _ => .inl⟩
    have hallocate : Succeeds ⟨engine, library⟩ q (allocate t) fun _ => True := by
      refine fun p => ⟨_, _, allocate_ends t, trivial, fun key hkey => ?_⟩
      rw [Progress.at?_allot] at hkey
      split at hkey
      · next hk => exact .inr (hk ▸ hplace)
      · exact .inl hkey
    rw [Given, target]
    refine hknown.bind fun id? _ => ?_
    cases id? with
    | some id => exact .pure trivial
    | none =>
      refine hallocate.bind fun id _ => ?_
      cases fuel with
      | zero => exact .pure trivial
      | succ n =>
        obtain ⟨hholds, r, hr⟩ := hq t reached hplace
        have hsupplied : Supplied engine library q (target n) t := fun u hu =>
          hless n rfl u (.step reached hu)
        refine (ofTarget_succeeds hsupplied hholds hr).bind fun rule _ => ?_
        refine (Succeeds.modify fun p key => ?_).bind fun _ _ => .pure trivial
        cases key <;> rfl
  induction fuel with
  | zero => exact step 0 fun n hn => absurd hn (Nat.succ_ne_zero n).symm
  | succ n ih =>
    refine step (n + 1) ?_
    rintro _ ⟨⟩
    exact ih

end

end Highlighting.Compile
