import Highlighting.Proofs.Grammar.Built

/-!
How far a compile can go. With as much fuel as there are keys without a place, more makes no
difference.
-/
namespace Highlighting.Compile

variable {engine : Engine} {library : Library} {start : String} {p p' : Progress}

section Agree
variable {α β : Type} {env : Environment}

theorem run_bind (x : CompileM α) (f : α → CompileM β) (p : Progress) :
    ((x >>= f).run env).run.run p =
      match (x.run env).run.run p with
      | (.ok a, q) => ((f a).run env).run.run q
      | (.error fault, q) => (.error fault, q) := by
  have hrun : ((x >>= f).run env).run.run p =
      ((ExceptT.bindCont (fun a => (f a).run env) ((x.run env).run.run p).1 :
        StateM Progress _)).run ((x.run env).run.run p).2 := rfl
  rw [hrun]
  rcases (x.run env).run.run p with ⟨fault | a, q⟩ <;> rfl

/-- Two computations do the same, and what they end with, if they end well, is as stated. -/
structure Agrees (env : Environment) (x y : CompileM α) (p : Progress)
    (Q : α → Progress → Prop) : Prop where
  same : (x.run env).run.run p = (y.run env).run.run p
  result : ∀ a q, Ends env x p a q → Q a q

variable {x y : CompileM α} {Q : α → Progress → Prop} {R : β → Progress → Prop}

theorem Agrees.refl (h : ∀ a q, Ends env x p a q → Q a q) : Agrees env x x p Q := ⟨rfl, h⟩

theorem Agrees.of_ends {a : α} {q : Progress} (h : Ends env x p a q) (h' : Ends env y p a q)
    (hQ : Q a q) : Agrees env x y p Q := by
  refine ⟨Eq.trans h (Eq.symm h'), fun b r hend => ?_⟩
  cases Eq.trans (Eq.symm h) hend
  exact hQ

theorem Agrees.pure {a : α} (h : Q a p) : Agrees env (pure a) (pure a) p Q := by
  refine .refl fun b q hend => ?_
  obtain ⟨rfl, rfl⟩ := ends_pure.1 hend
  exact h

theorem Agrees.bind {f f' : α → CompileM β} (h : Agrees env x y p Q)
    (hf : ∀ a q, Q a q → Agrees env (f a) (f' a) q R) : Agrees env (x >>= f) (y >>= f') p R where
  same := by
    rw [run_bind, run_bind, ← h.same]
    rcases hx : (x.run env).run.run p with ⟨fault | a, q⟩
    · rfl
    · exact (hf a q (h.result a q hx)).same
  result b q' hend := by
    obtain ⟨a, q, ha, hb⟩ := ends_bind.1 hend
    exact (hf a q (h.result a q ha)).result b q' hb

theorem Agrees.imp {Q' : α → Progress → Prop} (h : Agrees env x y p Q)
    (hQ : ∀ a q, Q a q → Q' a q) : Agrees env x y p Q' :=
  ⟨h.same, fun a q hend => hQ a q (h.result a q hend)⟩

theorem Agrees.map {f : α → β} (h : Agrees env x y p Q) (hf : ∀ a q, Q a q → R (f a) q) :
    Agrees env (f <$> x) (f <$> y) p R := by
  rw [map_eq_pure_bind, map_eq_pure_bind]
  exact h.bind fun a q hq => .pure (hf a q hq)

end Agree

theorem asked_of_fileNamed {env : Environment} {context : Context} {scope : String}
    {file? : Option String} (h : Ends env (fileNamed context scope) p file? p') :
    p.asked ⊆ p'.asked ∧ ∀ file, file? = some file → file = context.file ∨ file ∈ p'.asked := by
  rw [fileNamed, ends_bind] at h
  obtain ⟨_, _, hsource, h⟩ := h
  obtain ⟨-, rfl⟩ := ends_source.1 hsource
  split at h
  · obtain ⟨rfl, rfl⟩ := ends_pure.1 h
    exact ⟨List.Subset.refl _, fun file hf => .inl (Option.some.inj hf).symm⟩
  · simp only [ask, ends_bind, ends_read] at h
    obtain ⟨found, _, ⟨_, _, ⟨rfl, rfl⟩, hask⟩, h⟩ := h
    obtain ⟨rfl, rfl⟩ := ends_pure.1 h
    split at hask
    · simp only [ends_bind, ends_modify, ends_pure] at hask
      obtain ⟨_, _, rfl, rfl, rfl⟩ := hask
      refine ⟨List.subset_cons_self _ _, fun file hf => .inr ?_⟩
      cases hf
      exact List.mem_cons_self
    · obtain ⟨rfl, rfl⟩ := ends_pure.1 hask
      exact ⟨List.Subset.refl _, by simp⟩

theorem asked_of_referent {env : Environment} {context : Context} {reference : String}
    {t? : Option Target} (h : Ends env (referent context reference) p t? p') :
    p.asked ⊆ p'.asked ∧ ∀ t, t? = some t →
      (t.inside env.library).file = context.file ∨ (t.inside env.library).file ∈ p'.asked := by
  by_cases hname : ∃ name, splitReference reference = ("", some name)
  · obtain ⟨name, hname⟩ := hname
    rw [referent, hname] at h
    obtain ⟨rfl, rfl⟩ := ends_pure.1 h
    refine ⟨List.Subset.refl _, fun t ht => .inl ?_⟩
    obtain ⟨number, -, rfl⟩ := Option.map_eq_some_iff.1 ht
    rfl
  · rw [referent_external fun name heq => hname ⟨name, heq⟩, external, ends_bind] at h
    obtain ⟨file?, q, hfile, h⟩ := h
    obtain ⟨hsub, hasked⟩ := asked_of_fileNamed hfile
    cases file? with
    | none =>
      obtain ⟨rfl, rfl⟩ := ends_pure.1 h
      exact ⟨hsub, by simp⟩
    | some file =>
      obtain ⟨rfl, rfl⟩ := ends_entry h
      refine ⟨hsub, fun t ht => ?_⟩
      have hown : (t.inside env.library).file = file := by
        unfold entryOf? at ht
        split at ht
        · cases ht; rfl
        · obtain ⟨number, -, rfl⟩ := Option.map_eq_some_iff.1 ht
          rfl
      rw [hown]
      exact hasked file rfl

section Compile
variable {compile compile' : Target → CompileM Nat} {limit : Nat}

/-- Two ways of compiling agree on a target while not too many keys are pending, and give it a place
in the arena. -/
def Comes (engine : Engine) (library : Library) (start : String)
    (compile compile' : Target → CompileM Nat) (limit : Nat) (u : Target) : Prop :=
  ∀ p, Built engine library start p → (u.inside library).file ∈ start :: p.asked →
    p.pending library ≤ limit →
    Agrees ⟨engine, library⟩ (compile u) (compile' u) p fun id q =>
      (Built engine library start q ∧ Later p q) ∧ id < q.rules.size

theorem some_placed {id : Nat} {q : Progress}
    (h : (Built engine library start q ∧ Later p q) ∧ id < q.rules.size) :
    (Built engine library start q ∧ Later p q) ∧ ∀ id', some id = some id' → id' < q.rules.size :=
  h.imp_right fun hid _ heq => Option.some.inj heq ▸ hid

theorem pattern_comes {context : Context} {number : Nat}
    (hc : ∀ u, mention? library context number = some u →
      Comes engine library start compile compile' limit u)
    (hb : Built engine library start p) (hfile : context.file ∈ start :: p.asked)
    (hp : p.pending library ≤ limit) :
    Agrees ⟨engine, library⟩
      (match (ruleOf library context.file number).reference with
        | some reference => follow compile context reference
        | none => some <$> compile (.rule context number))
      (match (ruleOf library context.file number).reference with
        | some reference => follow compile' context reference
        | none => some <$> compile' (.rule context number)) p
      fun id? q => (Built engine library start q ∧ Later p q) ∧
        ∀ id, id? = some id → id < q.rules.size := by
  unfold mention? at hc
  cases href : (ruleOf library context.file number).reference with
  | none =>
    rw [href] at hc
    exact (hc _ rfl p hb hfile hp).map fun _ _ => some_placed
  | some reference =>
    rw [href] at hc
    dsimp only at hc ⊢
    unfold target? at hc
    unfold follow
    by_cases hself : reference = "$self"
    · rw [if_pos hself] at hc
      rw [if_pos hself, if_pos hself]
      exact (hc _ rfl p hb hfile hp).map fun _ _ => some_placed
    rw [if_neg hself] at hc
    rw [if_neg hself, if_neg hself]
    by_cases hbase : reference = "$base"
    · rw [if_pos hbase, if_pos hbase]
      refine .refl fun id? q hend => ?_
      obtain ⟨_, _, hget, hpure⟩ := ends_bind.1 hend
      obtain ⟨rfl, rfl⟩ := ends_get.1 hget
      obtain ⟨rfl, rfl⟩ := ends_pure.1 hpure
      exact ⟨⟨hb, .refl _⟩, hb.base⟩
    rw [if_neg hbase] at hc
    rw [if_neg hbase, if_neg hbase]
    refine Agrees.bind (Q := fun t? q => t? = referent? library context reference ∧
      (Built engine library start q ∧ Later p q) ∧
      ∀ t, t? = some t → (t.inside library).file ∈ start :: q.asked)
      (.refl fun t? q hend => ?_) fun t? q hq => ?_
    · obtain ⟨hsub, hfiles⟩ := asked_of_referent hend
      obtain ⟨ht, asked, rfl⟩ := ends_referent hend
      refine ⟨ht, hb.ask hsub, fun t heq => ?_⟩
      obtain hown | hasked := hfiles t heq
      · exact hown ▸ (hb.ask hsub).2.mem_files hfile
      · exact List.mem_cons_of_mem _ hasked
    · obtain ⟨ht, ⟨hbuilt, hlater⟩, hfiles⟩ := hq
      cases t? with
      | none => exact .pure ⟨⟨hbuilt, hlater⟩, by simp⟩
      | some t =>
        have hcomes := hc t ht.symm q hbuilt (hfiles t rfl)
          (Nat.le_trans (hlater.pending_le library) hp)
        exact hcomes.map fun id q' hq' => some_placed ⟨⟨hq'.1.1, hlater.trans hq'.1.2⟩, hq'.2⟩

theorem patterns_come (context : Context) {numbers : List Nat}
    (hc : ∀ number ∈ numbers, ∀ u, mention? library context number = some u →
      Comes engine library start compile compile' limit u)
    (hb : Built engine library start p) (hfile : context.file ∈ start :: p.asked)
    (hp : p.pending library ≤ limit) :
    Agrees ⟨engine, library⟩ (patterns compile (fileOf library context.file) context numbers)
      (patterns compile' (fileOf library context.file) context numbers) p
      fun ids q => (Built engine library start q ∧ Later p q) ∧ ∀ id ∈ ids, id < q.rules.size := by
  suffices h : Agrees ⟨engine, library⟩
      (numbers.mapM fun number =>
        match (ruleOf library context.file number).reference with
        | some reference => follow compile context reference
        | none => some <$> compile (.rule context number))
      (numbers.mapM fun number =>
        match (ruleOf library context.file number).reference with
        | some reference => follow compile' context reference
        | none => some <$> compile' (.rule context number)) p
      fun ids? q => (Built engine library start q ∧ Later p q) ∧
        ∀ id? ∈ ids?, ∀ id, id? = some id → id < q.rules.size by
    refine h.bind fun ids? q hq => .pure ⟨hq.1, fun id hid => ?_⟩
    obtain ⟨id?, hmem, heq⟩ := List.mem_filterMap.1 hid
    exact hq.2 id? hmem id heq
  induction numbers generalizing p with
  | nil => exact .pure ⟨⟨hb, .refl p⟩, nofun⟩
  | cons number numbers ih =>
    rw [List.mapM_cons, List.mapM_cons]
    refine (pattern_comes (hc number List.mem_cons_self) hb hfile hp).bind fun id? q hq => ?_
    obtain ⟨⟨hbuilt, hlater⟩, hid⟩ := hq
    refine (ih (fun n hn => hc n (List.mem_cons_of_mem _ hn)) hbuilt (hlater.mem_files hfile)
      (Nat.le_trans (hlater.pending_le library) hp)).bind fun ids? q' hq' => .pure ?_
    obtain ⟨⟨hbuilt', hlater'⟩, hids⟩ := hq'
    refine ⟨⟨hbuilt', hlater.trans hlater'⟩, List.forall_mem_cons.2 ⟨fun id heq => ?_, hids⟩⟩
    exact Nat.lt_of_lt_of_le (hid id heq) hlater'.size

theorem capture_comes (context : Context) {groups : Nat} {entry : String × Nat} {before : Captures}
    (hc : (ruleOf library context.file entry.2).patterns.isSome = true →
      Comes engine library start compile compile' limit (.rule context entry.2))
    (hb : Built engine library start p) (hfile : context.file ∈ start :: p.asked)
    (hp : p.pending library ≤ limit) (hbefore : ∀ id ∈ before.places, id < p.rules.size) :
    Agrees ⟨engine, library⟩
      (captureEntry compile (fileOf library context.file) context groups before entry)
      (captureEntry compile' (fileOf library context.file) context groups before entry) p
      fun done q => (Built engine library start q ∧ Later p q) ∧
        ∀ id ∈ done.places, id < q.rules.size := by
  cases captureEntry_cases (fileOf library context.file) groups entry with
  | tooLarge fault step =>
    rw [step, step]
    exact .refl fun _ _ hend => absurd hend not_ends_throw
  | passedOver step =>
    rw [step, step]
    exact .pure ⟨⟨hb, .refl p⟩, hbefore⟩
  | named group name step =>
    rw [step, step]
    refine .pure ⟨⟨hb, .refl p⟩, fun id hid => ?_⟩
    obtain hid | hid := Captures.mem_places_put hid
    · exact hbefore id hid
    · cases hid
  | rescanned group name holds step =>
    have hrule : Agrees ⟨engine, library⟩ (some <$> compile (.rule context entry.2))
        (some <$> compile' (.rule context entry.2)) p fun id? q =>
          (Built engine library start q ∧ Later p q) ∧ ∀ id, id? = some id → id < q.rules.size :=
      (hc holds p hb hfile hp).map fun _ _ => some_placed
    rw [step, step]
    refine hrule.bind fun id? q hq => .pure ⟨hq.1, fun id hid => ?_⟩
    obtain hid | hid := Captures.mem_places_put hid
    · exact Nat.lt_of_lt_of_le (hbefore id hid) hq.1.2.size
    · exact hq.2 id hid

theorem captures_come (context : Context) {groups : Nat} {names : Option RuleNames}
    (hc : ∀ entry ∈ names.getD [],
      (ruleOf library context.file entry.2).patterns.isSome = true →
      Comes engine library start compile compile' limit (.rule context entry.2))
    (hb : Built engine library start p) (hfile : context.file ∈ start :: p.asked)
    (hp : p.pending library ≤ limit) :
    Agrees ⟨engine, library⟩
      (captures compile (fileOf library context.file) context groups names)
      (captures compile' (fileOf library context.file) context groups names) p
      fun done q => (Built engine library start q ∧ Later p q) ∧
        ∀ id ∈ done.places, id < q.rules.size := by
  have hnone : ∀ id ∈ Captures.places [], id < p.rules.size := nofun
  rw [captures_eq, captures_eq]
  generalize names.getD [] = entries at hc
  generalize ([] : Captures) = before at hnone
  induction entries generalizing p before with
  | nil => exact .pure ⟨⟨hb, .refl p⟩, hnone⟩
  | cons entry entries ih =>
    rw [List.foldlM_cons, List.foldlM_cons]
    refine (capture_comes context (hc entry List.mem_cons_self) hb hfile hp hnone).bind
      fun next q hq => ?_
    obtain ⟨⟨hbuilt, hlater⟩, hnext⟩ := hq
    refine (ih hbuilt (hlater.mem_files hfile) (Nat.le_trans (hlater.pending_le library) hp)
      (fun e he => hc e (List.mem_cons_of_mem _ he)) next hnext).imp fun done q' hdone => ?_
    exact ⟨⟨hdone.1.1, hlater.trans hdone.1.2⟩, hdone.2⟩

theorem matcher_agrees (pattern : String) :
    Agrees ⟨engine, library⟩ (matcher pattern) (matcher pattern) p fun m q =>
      q = p ∧ ∃ pattern, engine.compile? pattern = some m :=
  .refl fun _ _ hend => ⟨(ends_matcher hend).2, _, (ends_matcher hend).1⟩

theorem edge_agrees (pattern : String) :
    Agrees ⟨engine, library⟩ (edge pattern) (edge pattern) p fun e q =>
      q = p ∧ ∀ m ∈ e.fixed, ∃ pattern, engine.compile? pattern = some m :=
  .refl fun _ _ hend => ⟨(ends_edge hend).2, fun m hm => ⟨_, read_of_edge hend m hm⟩⟩

theorem edges_agree (pattern? : Option String) :
    Agrees ⟨engine, library⟩ (pattern?.mapM edge) (pattern?.mapM edge) p fun e? q =>
      q = p ∧ ∀ m ∈ e?.bind EdgePattern.fixed, ∃ pattern, engine.compile? pattern = some m :=
  .refl fun _ _ hend => ⟨(ends_edge? hend).2, read_of_edge? hend⟩

theorem rule_comes {context : Context} {number : Nat}
    (hc : ∀ u, Mentions library (.rule context number) u →
      Comes engine library start compile compile' limit u)
    (hb : Built engine library start p) (hfile : context.file ∈ start :: p.asked)
    (hp : p.pending library ≤ limit) :
    Agrees ⟨engine, library⟩
      (rule compile (fileOf library context.file) context (ruleOf library context.file number))
      (rule compile' (fileOf library context.file) context (ruleOf library context.file number)) p
      fun r q => (Built engine library start q ∧ Later p q) ∧ r.Fits engine q.rules.size := by
  let t : Target := .rule context number
  have hcaptures : ∀ {q : Progress} {groups : Nat} {names : Option RuleNames},
      (Built engine library start q ∧ Later p q) →
      names ∈ Target.captureChoices (ruleOf library context.file number) →
      Agrees ⟨engine, library⟩
        (captures compile (fileOf library context.file) (t.inside library) groups names)
        (captures compile' (fileOf library context.file) (t.inside library) groups names) q
        fun done q' => (Built engine library start q' ∧ Later p q') ∧
          Later q q' ∧ ∀ id ∈ done.places, id < q'.rules.size := by
    rintro q groups names ⟨hbuilt, hlater⟩ hn
    refine (captures_come (t.inside library)
      (fun entry he holds => hc _ (.of_entry (Target.mem_captures hn) he holds)) hbuilt
      (hlater.mem_files hfile) (Nat.le_trans (hlater.pending_le library) hp)).imp
      fun done q' hdone => ?_
    exact ⟨⟨hdone.1.1, hlater.trans hdone.1.2⟩, hdone.1.2, hdone.2⟩
  unfold rule
  refine (patterns_come (t.inside library) (fun n hn u hu => hc u (.pattern hn hu)) hb
    hfile hp).bind fun ids q hq => ?_
  obtain ⟨hq, hids⟩ := hq
  split
  · refine (matcher_agrees _).bind fun m _ hm => ?_
    obtain ⟨rfl, hread⟩ := hm
    refine (hcaptures hq (by simp [Target.captureChoices])).bind
      fun done q' hdone => .pure ⟨hdone.1, hdone.2.2, List.forall_mem_singleton.2 hread⟩
  · refine (matcher_agrees _).bind fun m _ hm => ?_
    obtain ⟨rfl, hread⟩ := hm
    refine (hcaptures hq (by simp [Target.captureChoices])).bind fun begins q' hbegins => ?_
    obtain ⟨hq', hlater, hbegins⟩ := hbegins
    have hopening : ∀ id ∈ ids ++ begins.places, id < q'.rules.size :=
      List.forall_mem_append.2 ⟨hlater.lt_size hids, hbegins⟩
    split
    · refine (edge_agrees _).bind fun go _ hgo => ?_
      obtain ⟨rfl, hgo⟩ := hgo
      refine (hcaptures hq' (by simp [Target.captureChoices])).bind
        fun goes q'' hgoes => .pure ⟨hgoes.1, ?_, ?_⟩
      · exact List.forall_mem_append.2 ⟨hgoes.2.1.lt_size hopening, hgoes.2.2⟩
      · exact List.forall_mem_cons.2 ⟨hread, fun m hm => hgo m (Option.mem_toList.1 hm)⟩
    · refine (edges_agree _).bind fun stop _ hstop => ?_
      obtain ⟨rfl, hstop⟩ := hstop
      refine (hcaptures hq' (by simp [Target.captureChoices])).bind
        fun stops q'' hstops => .pure ⟨hstops.1, ?_, ?_⟩
      · exact List.forall_mem_append.2 ⟨hstops.2.1.lt_size hopening, hstops.2.2⟩
      · exact List.forall_mem_cons.2 ⟨hread, fun m hm => hstop m (Option.mem_toList.1 hm)⟩
  · exact .pure ⟨hq, hids, by simp [Rule.matchers]⟩

theorem ofTarget_comes {t : Target}
    (hc : ∀ u, Mentions library t u → Comes engine library start compile compile' limit u)
    (hb : Built engine library start p) (hfile : (t.inside library).file ∈ start :: p.asked)
    (hp : p.pending library ≤ limit) :
    Agrees ⟨engine, library⟩ (ofTarget compile t) (ofTarget compile' t) p
      fun r q => (Built engine library start q ∧ Later p q) ∧ r.Fits engine q.rules.size := by
  have hsource : ∀ file, Agrees ⟨engine, library⟩ (source file) (source file) p
      fun s q => s = fileOf library file ∧ q = p := fun file => .refl fun _ _ => ends_source.1
  cases t with
  | root name =>
    refine (hsource name).bind fun s q hs => ?_
    obtain ⟨rfl, rfl⟩ := hs
    refine (patterns_come (Target.inside library (.root name))
      (fun n hn u hu => hc u (.pattern hn hu)) hb hfile hp).bind fun ids q hq =>
        .pure ⟨hq.1, hq.2, nofun⟩
  | rule context number =>
    refine (hsource context.file).bind fun s q hs => ?_
    obtain ⟨rfl, rfl⟩ := hs
    exact rule_comes hc hb hfile hp

theorem ofTarget_hollow {t : Target} (h : t.key library ∉ keys library) :
    Ends ⟨engine, library⟩ (ofTarget compile t) p (.container []) p := by
  obtain ⟨hpatterns, -, hrule⟩ := empty_of_not_mem_keys h
  cases t with
  | root name =>
    refine ends_bind.2 ⟨_, _, ends_source.2 ⟨rfl, rfl⟩, ?_⟩
    have hnil : (fileOf library name).patterns = [] := hpatterns
    dsimp only
    rw [hnil]
    rfl
  | rule context number =>
    refine ends_bind.2 ⟨_, _, ends_source.2 ⟨rfl, rfl⟩, ?_⟩
    change Ends _ (rule compile _ context (ruleOf library context.file number)) p _ p
    rw [hrule context number rfl]
    rfl

theorem known_ends (t : Target) :
    Ends ⟨engine, library⟩ (known? t) p (p.at? (t.key library)) p := by
  cases t <;> rfl

theorem allocate_ends (t : Target) :
    Ends ⟨engine, library⟩ (allocate t) p p.rules.size (p.allot library t) := by
  cases t <;> rfl

theorem target_hollow {t : Target} (h : t.key library ∉ keys library)
    (hnew : p.at? (t.key library) = none) (fuel : Nat) :
    Ends ⟨engine, library⟩ (target fuel t) p p.rules.size (p.allot library t) := by
  rw [target]
  refine ends_bind.2 ⟨none, p, hnew ▸ known_ends t, ends_bind.2 ⟨_, _, allocate_ends t, ?_⟩⟩
  cases fuel with
  | zero => exact ends_pure.2 ⟨rfl, rfl⟩
  | succ fuel =>
    refine ends_bind.2 ⟨_, _, ofTarget_hollow h, ends_bind.2 ⟨(), _, ends_modify.2 rfl, ?_⟩⟩
    exact ends_pure.2 ⟨rfl, p.allot_eq library t⟩

theorem target_comes_of_less {fuel fuel' : Nat} {t : Target} (reached : Reached library start t)
    (hless : ∀ less, limit = less + 1 → ∃ n n', fuel = n + 1 ∧ fuel' = n' + 1 ∧
      ∀ u, Mentions library t u → Comes engine library start (target n) (target n') less u) :
    Comes engine library start (target fuel) (target fuel') limit t := by
  intro p hb hfile hp
  cases hat : p.at? (t.key library) with
  | some id =>
    have hends : ∀ fuel, Ends ⟨engine, library⟩ (target fuel t) p id p := fun fuel => by
      rw [target]
      exact ends_bind.2 ⟨some id, p, hat ▸ known_ends t, ends_pure.2 ⟨rfl, rfl⟩⟩
    exact .of_ends (hends fuel) (hends fuel') ⟨⟨hb, .refl p⟩, hb.placed _ id hat⟩
  | none =>
    obtain ⟨hbuilt, hlater⟩ := hb.allot hat (reached.key_of hfile)
    have hsize := Progress.size_allot p library t
    by_cases hm : t.key library ∈ keys library
    · -- the key was pending, so there is fuel, and one key less is pending from here on
      have hlt := Progress.pending_allot_lt hat hm
      obtain ⟨less, rfl⟩ := Nat.exists_eq_succ_of_ne_zero (n := limit) (by omega)
      obtain ⟨n, n', rfl, rfl, hmentioned⟩ := hless less rfl
      rw [target, target]
      refine Agrees.bind (Q := fun id? q => id? = none ∧ q = p)
        (.refl fun id? q hend => ?_) fun id? q hq => ?_
      · obtain ⟨rfl, rfl⟩ := ends_known hend
        exact ⟨hat, rfl⟩
      obtain ⟨rfl, rfl⟩ := hq
      refine Agrees.bind (Q := fun id q' => id = q.rules.size ∧ q' = q.allot library t)
        (.refl fun id q' hend => ends_allocate hend) fun id q' hq' => ?_
      obtain ⟨rfl, rfl⟩ := hq'
      refine (ofTarget_comes hmentioned hbuilt (hlater.mem_files hfile)
        (Nat.le_of_lt_succ (Nat.lt_of_lt_of_le hlt hp))).bind fun r q' hr => ?_
      obtain ⟨⟨hbuilt', hlater'⟩, hplaces⟩ := hr
      obtain ⟨hfilled, hlater''⟩ := hbuilt'.fill q.rules.size hplaces
      refine Agrees.bind (Q := fun _ q'' =>
        q'' = { q' with rules := q'.rules.setIfInBounds q.rules.size r })
        (.refl fun _ q'' hend => ends_fill hend) fun _ q'' heq => ?_
      subst heq
      refine .pure ⟨⟨hfilled, (hlater.trans hlater').trans hlater''⟩, ?_⟩
      have hle := hlater'.size
      have hle' := hlater''.size
      omega
    · refine .of_ends (target_hollow hm hat fuel) (target_hollow hm hat fuel')
        ⟨⟨hbuilt, hlater⟩, ?_⟩
      omega

/-- With fuel for each key that has no place yet, the fuel makes no difference. -/
theorem target_comes {fuel fuel' : Nat} {t : Target} (reached : Reached library start t)
    (hle : limit ≤ fuel) (hle' : limit ≤ fuel') :
    Comes engine library start (target fuel) (target fuel') limit t := by
  induction limit generalizing fuel fuel' t with
  | zero => exact target_comes_of_less reached nofun
  | succ limit ih =>
    refine target_comes_of_less reached ?_
    rintro _ ⟨⟩
    obtain ⟨n, rfl⟩ := Nat.exists_eq_add_of_le' hle
    obtain ⟨n', rfl⟩ := Nat.exists_eq_add_of_le' hle'
    exact ⟨n + limit, n' + limit, by omega, by omega,
      fun u hu => ih (reached.step hu) (Nat.le_add_left ..) (Nat.le_add_left ..)⟩

end Compile

end Highlighting.Compile
