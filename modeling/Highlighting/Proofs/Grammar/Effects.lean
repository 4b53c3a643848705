import Highlighting.Proofs.Grammar.Targets

/-!
Compiling as steps from one progress to the next: what each of them did if it ended well.
-/
namespace Highlighting.Compile
variable {α β : Type} {env : Environment} {p p' : Progress}

def Ends (env : Environment) (x : CompileM α) (p : Progress) (a : α) (p' : Progress) : Prop :=
  (x.run env).run.run p = (.ok a, p')

theorem ends_pure {a b : α} : Ends env (pure a) p b p' ↔ b = a ∧ p' = p := by
  constructor
  · rintro ⟨⟩
    exact ⟨rfl, rfl⟩
  · rintro ⟨rfl, rfl⟩
    rfl

theorem ends_bind {x : CompileM α} {f : α → CompileM β} {b : β} :
    Ends env (x >>= f) p b p' ↔ ∃ a q, Ends env x p a q ∧ Ends env (f a) q b p' := by
  have hrun : ((x >>= f).run env).run.run p =
      ((ExceptT.bindCont (fun a => (f a).run env) ((x.run env).run.run p).1 :
        StateM Progress _)).run ((x.run env).run.run p).2 := rfl
  unfold Ends
  rw [hrun]
  rcases (x.run env).run.run p with ⟨fault | a, q⟩
  · constructor
    · rintro ⟨⟩
    · rintro ⟨a, q, ⟨⟩, -⟩
  · constructor
    · intro h
      exact ⟨a, q, rfl, h⟩
    · rintro ⟨a, q, ⟨⟩, h⟩
      exact h

theorem ends_map {x : CompileM α} {f : α → β} {b : β} :
    Ends env (f <$> x) p b p' ↔ ∃ a, Ends env x p a p' ∧ b = f a := by
  rw [map_eq_pure_bind, ends_bind]
  constructor
  · rintro ⟨a, q, h, hb⟩
    obtain ⟨rfl, rfl⟩ := ends_pure.1 hb
    exact ⟨a, h, rfl⟩
  · rintro ⟨a, h, rfl⟩
    exact ⟨a, p', h, rfl⟩

theorem ends_get {q : Progress} : Ends env get p q p' ↔ q = p ∧ p' = p := by
  constructor
  · rintro ⟨⟩
    exact ⟨rfl, rfl⟩
  · rintro ⟨rfl, rfl⟩
    rfl

theorem ends_modify {f : Progress → Progress} {u : Unit} :
    Ends env (modify f) p u p' ↔ p' = f p := by
  constructor
  · rintro ⟨⟩
    rfl
  · rintro rfl
    rfl

theorem ends_read {e : Environment} : Ends env read p e p' ↔ e = env ∧ p' = p := by
  constructor
  · rintro ⟨⟩
    exact ⟨rfl, rfl⟩
  · rintro ⟨rfl, rfl⟩
    rfl

theorem not_ends_throw {fault : GrammarFault} {a : α} : ¬ Ends env (throw fault) p a p' := nofun

theorem ends_source {file : String} {s : GrammarSource} :
    Ends env (source file) p s p' ↔ s = fileOf env.library file ∧ p' = p := by
  simp only [source, ends_bind, ends_read, ends_pure]
  constructor
  · rintro ⟨_, _, ⟨rfl, rfl⟩, rfl, rfl⟩
    exact ⟨rfl, rfl⟩
  · rintro ⟨rfl, rfl⟩
    exact ⟨env, p', ⟨rfl, rfl⟩, rfl, rfl⟩

def Progress.at? (p : Progress) : Key → Option Nat
  | .root scopeName => p.roots.get? scopeName
  | .rule file number => p.known.get? (file, number)

theorem ends_known {t : Target} {id? : Option Nat} (h : Ends env (known? t) p id? p') :
    id? = p.at? (t.key env.library) ∧ p' = p := by
  cases t with
  | root file =>
    simp only [known?, ends_bind, ends_get, ends_source, ends_pure] at h
    obtain ⟨_, _, ⟨rfl, rfl⟩, _, _, ⟨rfl, rfl⟩, rfl, rfl⟩ := h
    exact ⟨rfl, rfl⟩
  | rule context number =>
    simp only [known?, ends_bind, ends_get, ends_pure] at h
    obtain ⟨_, _, ⟨rfl, rfl⟩, rfl, rfl⟩ := h
    exact ⟨rfl, rfl⟩

def Progress.allot (p : Progress) (library : Library) : Target → Progress
  | .root file =>
    { p with
      rules := p.rules.push (.container [])
      roots := p.roots.put (fileOf library file).scopeName p.rules.size
      base := p.base <|> some p.rules.size }
  | .rule context number =>
    { p with
      rules := p.rules.push (.container [])
      known := p.known.put (context.file, number) p.rules.size }

theorem ends_allocate {t : Target} {id : Nat} (h : Ends env (allocate t) p id p') :
    id = p.rules.size ∧ p' = p.allot env.library t := by
  cases t with
  | root file =>
    simp only [allocate, ends_bind, ends_get, ends_modify, ends_source, ends_pure] at h
    obtain ⟨_, _, ⟨rfl, rfl⟩, _, _, rfl, _, _, ⟨rfl, rfl⟩, _, _, rfl, rfl, rfl⟩ := h
    exact ⟨rfl, rfl⟩
  | rule context number =>
    simp only [allocate, ends_bind, ends_get, ends_modify, ends_pure] at h
    obtain ⟨_, _, ⟨rfl, rfl⟩, _, _, rfl, _, _, rfl, rfl, rfl⟩ := h
    exact ⟨rfl, rfl⟩

theorem ends_fill {id : Nat} {rule : Rule} {u : Unit} (h : Ends env (fill id rule) p u p') :
    p' = { p with rules := p.rules.setIfInBounds id rule } :=
  ends_modify.1 h

theorem ends_ask {file : String} {found : Bool} (h : Ends env (ask file) p found p') :
    found = (env.library.lookup file).isSome ∧ ∃ asked, p' = { p with asked := asked } := by
  simp only [ask, ends_bind, ends_read] at h
  obtain ⟨_, _, ⟨rfl, rfl⟩, h⟩ := h
  split at h
  · next hfound =>
    simp only [ends_bind, ends_modify, ends_pure] at h
    obtain ⟨_, _, rfl, rfl, rfl⟩ := h
    exact ⟨hfound.symm, _, rfl⟩
  · next hnone =>
    obtain ⟨rfl, rfl⟩ := ends_pure.1 h
    exact ⟨(Bool.eq_false_iff.2 hnone).symm, _, rfl⟩

theorem ends_fileNamed {context : Context} {scope : String} {file? : Option String}
    (h : Ends env (fileNamed context scope) p file? p') :
    file? = fileNamed? env.library context scope ∧ ∃ asked, p' = { p with asked := asked } := by
  rw [fileNamed, ends_bind] at h
  obtain ⟨_, _, hsource, h⟩ := h
  obtain ⟨rfl, rfl⟩ := ends_source.1 hsource
  unfold fileNamed?
  split at h
  · next hown =>
    obtain ⟨rfl, rfl⟩ := ends_pure.1 h
    exact ⟨(if_pos hown).symm, _, rfl⟩
  · next hother =>
    rw [ends_bind] at h
    obtain ⟨_, _, hask, h⟩ := h
    obtain ⟨rfl, asked, rfl⟩ := ends_ask hask
    obtain ⟨rfl, rfl⟩ := ends_pure.1 h
    exact ⟨(if_neg hother).symm, asked, rfl⟩

theorem ends_entry {name : Option String} {file : String} {t? : Option Target}
    (h : Ends env (entry name file) p t? p') : t? = entryOf? env.library name file ∧ p' = p := by
  cases name with
  | none => exact ends_pure.1 h
  | some name =>
    rw [entry, ends_bind] at h
    obtain ⟨_, _, hsource, h⟩ := h
    obtain ⟨rfl, rfl⟩ := ends_source.1 hsource
    exact ends_pure.1 h

theorem ends_external {context : Context} {scope : String} {name : Option String}
    {t? : Option Target} (h : Ends env (external context scope name) p t? p') :
    t? = (fileNamed? env.library context scope).bind (entryOf? env.library name) ∧
      ∃ asked, p' = { p with asked := asked } := by
  rw [external, ends_bind] at h
  obtain ⟨file?, _, hfile, h⟩ := h
  obtain ⟨rfl, asked, rfl⟩ := ends_fileNamed hfile
  cases hnamed : fileNamed? env.library context scope with
  | none =>
    rw [hnamed] at h
    obtain ⟨rfl, rfl⟩ := ends_pure.1 h
    exact ⟨rfl, asked, rfl⟩
  | some file =>
    rw [hnamed] at h
    obtain ⟨rfl, rfl⟩ := ends_entry h
    exact ⟨rfl, asked, rfl⟩

theorem referent_external {context : Context} {reference : String}
    (h : ∀ name, splitReference reference ≠ ("", some name)) :
    referent context reference =
      external context (splitReference reference).1 (splitReference reference).2 := by
  unfold referent
  split
  · next name heq => exact absurd heq (h name)
  · next heq => rw [heq]

theorem ends_referent {context : Context} {reference : String} {t? : Option Target}
    (h : Ends env (referent context reference) p t? p') :
    t? = referent? env.library context reference ∧ ∃ asked, p' = { p with asked := asked } := by
  by_cases hname : ∃ name, splitReference reference = ("", some name)
  · obtain ⟨name, hname⟩ := hname
    rw [referent, hname] at h
    rw [referent?, hname]
    obtain ⟨rfl, rfl⟩ := ends_pure.1 h
    exact ⟨rfl, _, rfl⟩
  · have hother := fun name heq => hname ⟨name, heq⟩
    rw [referent_external hother] at h
    rw [referent?_external hother]
    exact ends_external h

theorem ends_follow {compile : Target → CompileM Nat} {context : Context} {reference : String}
    {id? : Option Nat} (h : Ends env (follow compile context reference) p id? p') :
    (reference = "$base" ∧ id? = p.base ∧ p' = p) ∨
      reference ≠ "$base" ∧ ∃ asked,
        (target? env.library context reference = none ∧ id? = none ∧
          p' = { p with asked := asked }) ∨
        ∃ t id, target? env.library context reference = some t ∧ id? = some id ∧
          Ends env (compile t) { p with asked := asked } id p' := by
  unfold follow at h
  unfold target?
  split at h
  · next hself =>
    obtain ⟨id, hcompile, rfl⟩ := ends_map.1 h
    exact .inr ⟨by rw [hself]; decide, p.asked, .inr ⟨_, id, if_pos hself, rfl, hcompile⟩⟩
  next hself =>
  rw [if_neg hself]
  split at h
  · next hbase =>
    rw [ends_bind] at h
    obtain ⟨_, _, hget, h⟩ := h
    obtain ⟨rfl, rfl⟩ := ends_get.1 hget
    exact .inl ⟨hbase, ends_pure.1 h⟩
  · next hbase =>
    rw [if_neg hbase]
    rw [ends_bind] at h
    obtain ⟨_, _, hreferent, h⟩ := h
    obtain ⟨rfl, asked, rfl⟩ := ends_referent hreferent
    refine .inr ⟨hbase, asked, ?_⟩
    cases hr : referent? env.library context reference with
    | none =>
      rw [hr] at h
      exact .inl ⟨rfl, ends_pure.1 h⟩
    | some t =>
      rw [hr] at h
      obtain ⟨id, hcompile, rfl⟩ := ends_map.1 h
      exact .inr ⟨t, id, rfl, rfl, hcompile⟩

theorem ends_matcher {pattern : String} {m : Matcher} (h : Ends env (matcher pattern) p m p') :
    env.engine.compile? pattern = some m ∧ p' = p := by
  rw [matcher, ends_bind] at h
  obtain ⟨_, _, hread, h⟩ := h
  obtain ⟨rfl, rfl⟩ := ends_read.1 hread
  split at h
  · next m' hm =>
    obtain ⟨rfl, rfl⟩ := ends_pure.1 h
    exact ⟨hm, rfl⟩
  · exact absurd h not_ends_throw

theorem ends_edge {pattern : String} {e : EdgePattern} (h : Ends env (edge pattern) p e p') :
    e.source = pattern ∧ p' = p := by
  unfold edge at h
  split at h
  · obtain ⟨rfl, rfl⟩ := ends_pure.1 h
    exact ⟨rfl, rfl⟩
  · rw [ends_bind] at h
    obtain ⟨m, _, hm, h⟩ := h
    obtain ⟨-, rfl⟩ := ends_matcher hm
    obtain ⟨rfl, rfl⟩ := ends_pure.1 h
    exact ⟨rfl, rfl⟩

theorem read_of_edge {pattern : String} {e : EdgePattern} (h : Ends env (edge pattern) p e p') :
    ∀ m ∈ e.fixed, env.engine.compile? pattern = some m := by
  unfold edge at h
  split at h
  · obtain ⟨rfl, rfl⟩ := ends_pure.1 h
    nofun
  · rw [ends_bind] at h
    obtain ⟨m, _, hm, h⟩ := h
    obtain ⟨hread, rfl⟩ := ends_matcher hm
    obtain ⟨rfl, rfl⟩ := ends_pure.1 h
    rintro _ ⟨⟩
    exact hread

theorem ends_edge? {pattern? : Option String} {e? : Option EdgePattern}
    (h : Ends env (pattern?.mapM edge) p e? p') :
    e?.map EdgePattern.source = pattern? ∧ p' = p := by
  cases pattern? with
  | none =>
    obtain ⟨rfl, rfl⟩ := ends_pure.1 h
    exact ⟨rfl, rfl⟩
  | some pattern =>
    obtain ⟨e, he, rfl⟩ := ends_map.1 h
    obtain ⟨rfl, rfl⟩ := ends_edge he
    exact ⟨rfl, rfl⟩

theorem read_of_edge? {pattern? : Option String} {e? : Option EdgePattern}
    (h : Ends env (pattern?.mapM edge) p e? p') :
    ∀ m ∈ e?.bind EdgePattern.fixed, ∃ pattern, env.engine.compile? pattern = some m := by
  cases pattern? with
  | none =>
    obtain ⟨rfl, rfl⟩ := ends_pure.1 h
    nofun
  | some pattern =>
    obtain ⟨e, he, rfl⟩ := ends_map.1 h
    exact fun m hm => ⟨pattern, read_of_edge he m hm⟩

end Highlighting.Compile
