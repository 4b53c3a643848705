import Highlighting.Proofs.Grammar.Rendering

/-! What a compile that ends well has made of the targets that it reached. -/
namespace Highlighting.Compile

/-- A rule is what a target comes to, the places of other targets given. Captures are left open. -/
inductive Renders (engine : Engine) (library : Library) (p : Progress) : Target → Rule → Prop
  | root (file : String) :
      Renders engine library p (.root file) (.container (p.patternsOf library (.root file)))
  | container {context : Context} {number : Nat}
      (noMatch : (ruleOf library context.file number).matchPattern = none)
      (noBegin : (ruleOf library context.file number).beginPattern = none) :
      Renders engine library p (.rule context number)
        (.container (p.patternsOf library (.rule context number)))
  | single {context : Context} {number : Nat} {r : RuleSource} {pattern : String}
      {matcher : Matcher} (captures : Captures) (source : ruleOf library context.file number = r)
      (isMatch : r.matchPattern = some pattern)
      (compiled : engine.compile? pattern = some matcher) :
      Renders engine library p (.rule context number) (.single r.name matcher captures)
  | block {context : Context} {number : Nat} {r : RuleSource} {pattern : String}
      {matcher : Matcher} {stop : Option EdgePattern} (captures stopCaptures : Captures)
      (source : ruleOf library context.file number = r) (noMatch : r.matchPattern = none)
      (isBegin : r.beginPattern = some pattern) (compiled : engine.compile? pattern = some matcher)
      (noWhile : r.whilePattern = none) (isStop : stop.map EdgePattern.source = r.endPattern) :
      Renders engine library p (.rule context number)
        (.block ⟨r.name, r.contentName, matcher, captures,
          p.patternsOf library (.rule context number)⟩ stop stopCaptures r.endLast)
  | lines {context : Context} {number : Nat} {r : RuleSource} {pattern : String}
      {matcher : Matcher} {go : EdgePattern} (captures goCaptures : Captures)
      (source : ruleOf library context.file number = r) (noMatch : r.matchPattern = none)
      (isBegin : r.beginPattern = some pattern) (compiled : engine.compile? pattern = some matcher)
      (isGo : r.whilePattern = some go.source) :
      Renders engine library p (.rule context number)
        (.lines ⟨r.name, r.contentName, matcher, captures,
          p.patternsOf library (.rule context number)⟩ go goCaptures)

theorem Renders.of_rendered {engine : Engine} {library : Library} {p : Progress} {t : Target}
    {rule : Rule} (h : p.Rendered engine library t rule) : Renders engine library p t rule := by
  cases h with
  | root file => exact .root file
  | rule assembled =>
    cases assembled with
    | container noMatch noBegin => exact .container noMatch noBegin
    | single isMatch compiled caught => exact .single _ rfl isMatch compiled
    | block noMatch isBegin compiled caught noWhile isStop stopped =>
      exact .block _ _ rfl noMatch isBegin compiled noWhile (source_of_edges? isStop)
    | lines noMatch isBegin compiled caught isWhile isGo gone =>
      exact .lines _ _ rfl noMatch isBegin compiled (isWhile.trans
        (congrArg some (source_of_edge? isGo).symm))

/-- A target has been compiled to a place. -/
structure Settled (engine : Engine) (library : Library) (start : String) (p : Progress)
    (t : Target) (id : Nat) : Prop where
  reached : Reached library start t
  holds : p.Holds library t
  rendered : ∃ rule, p.rules[id]? = some rule ∧ p.Rendered engine library t rule

theorem Settled.extend {engine : Engine} {library : Library} {start : String} {p p' : Progress}
    {t : Target} {id : Nat} (h : Settled engine library start p t id) (hs : p.Sound)
    (he : p.Extends p') : Settled engine library start p' t id where
  reached := h.reached
  holds := h.holds.extend he
  rendered := by
    obtain ⟨rule, hrule, hrenders⟩ := h.rendered
    have hlt : id < p.rules.size := (Array.getElem?_eq_some_iff.1 hrule).1
    exact ⟨rule, (he.rules id hlt).trans hrule, hrenders.extend hs h.holds he⟩

section
variable (engine : Engine) (library : Library) (start : String)

/-- What has been given a place on the way has been compiled. -/
structure Grows (p p' : Progress) : Prop where
  kept : p.Extends p'
  sound : p'.Sound
  settled : ∀ key id, p'.at? key = some id → p.at? key = some id ∨
    p.rules.size ≤ id ∧ ∃ t, t.key library = key ∧ Settled engine library start p' t id

/-- A way of compiling does what it should on a target while not too many keys are pending. -/
def Compiles (compile : Target → CompileM Nat) (limit : Nat) (u : Target) : Prop :=
  ∀ p id p', p.Sound → p.pending library ≤ limit → Ends ⟨engine, library⟩ (compile u) p id p' →
    Grows engine library start p p' ∧ p'.at? (u.key library) = some id

end

section
variable {engine : Engine} {library : Library} {start : String} {p p' : Progress}
  {compile : Target → CompileM Nat} {limit : Nat}

theorem Grows.refl (hs : p.Sound) : Grows engine library start p p :=
  ⟨.refl p, hs, fun _ _ h => .inl h⟩

theorem Grows.trans {q r : Progress} (h : Grows engine library start p q)
    (h' : Grows engine library start q r) : Grows engine library start p r where
  kept := h.kept.trans h'.kept
  sound := h'.sound
  settled key id hr := by
    obtain hq | ⟨hle, t, ht, hsettled⟩ := h'.settled key id hr
    · obtain hp | ⟨hle, t, ht, hsettled⟩ := h.settled key id hq
      · exact .inl hp
      · exact .inr ⟨hle, t, ht, hsettled.extend h.sound h'.kept⟩
    · exact .inr ⟨Nat.le_trans h.kept.size hle, t, ht, hsettled⟩

theorem Grows.of_asked {asked : List String}
    (h : Grows engine library start { p with asked := asked } p') :
    Grows engine library start p p' where
  kept := ⟨h.kept.place, h.kept.base, h.kept.size, h.kept.rules⟩
  sound := h.sound
  settled := h.settled

theorem sound_asked (hs : p.Sound) (asked : List String) : { p with asked := asked }.Sound :=
  ⟨hs.base, hs.bound, hs.unique⟩

theorem pattern_grows {context : Context} {number : Nat} {id? : Option Nat}
    (hc : ∀ u, mention? library context number = some u →
      Compiles engine library start compile limit u)
    (hs : p.Sound) (hp : p.pending library ≤ limit)
    (h : Ends ⟨engine, library⟩
      (match (ruleOf library context.file number).reference with
        | some reference => follow compile context reference
        | none => some <$> compile (.rule context number)) p id? p') :
    Grows engine library start p p' ∧ id? = p'.stands library context number ∧
      ∀ u, mention? library context number = some u →
        (p'.at? (u.key library)).isSome = true := by
  unfold mention? at hc ⊢
  unfold Progress.stands mention?
  cases href : (ruleOf library context.file number).reference with
  | none =>
    rw [href] at h hc
    obtain ⟨id, hcompile, rfl⟩ := ends_map.1 h
    obtain ⟨hgrows, hat⟩ := hc _ rfl p id p' hs hp hcompile
    refine ⟨hgrows, ?_, ?_⟩
    · rw [if_neg nofun]
      exact hat.symm
    · rintro u ⟨⟩
      rw [hat]
      rfl
  | some reference =>
    rw [href] at h hc
    dsimp only at h hc ⊢
    obtain ⟨hbase, rfl, rfl⟩ | ⟨hbase, asked, ⟨hnone, rfl, rfl⟩ | ⟨t, id, ht, rfl, hcompile⟩⟩ :=
      ends_follow h
    · refine ⟨.refl hs, (if_pos (congrArg some hbase)).symm, ?_⟩
      rw [hbase]
      exact nofun
    · have hnot : ¬ some reference = some "$base" := fun h => hbase (Option.some.inj h)
      dsimp only at hnone
      rw [if_neg hnot, hnone]
      exact ⟨Grows.of_asked (.refl (sound_asked hs asked)), rfl, nofun⟩
    · have hnot : ¬ some reference = some "$base" := fun h => hbase (Option.some.inj h)
      obtain ⟨hgrows, hat⟩ := hc t ht _ id p' (sound_asked hs asked) hp hcompile
      dsimp only at ht
      rw [if_neg hnot, ht, Option.bind_some, hat]
      refine ⟨hgrows.of_asked, rfl, ?_⟩
      rintro u ⟨⟩
      rw [hat]
      rfl

theorem patterns_grow {context : Context} {numbers ids : List Nat}
    (hc : ∀ number ∈ numbers, ∀ u, mention? library context number = some u →
      Compiles engine library start compile limit u)
    (hs : p.Sound) (hp : p.pending library ≤ limit)
    (h : Ends ⟨engine, library⟩ (patterns compile (fileOf library context.file) context numbers)
      p ids p') :
    Grows engine library start p p' ∧
      ids = numbers.filterMap (p'.stands library context) ∧
      ∀ number ∈ numbers, ∀ u, mention? library context number = some u →
        (p'.at? (u.key library)).isSome = true := by
  rw [patterns, ends_bind] at h
  obtain ⟨ids?, q, h, hids⟩ := h
  obtain ⟨rfl, rfl⟩ := ends_pure.1 hids
  induction numbers generalizing p ids? with
  | nil =>
    rw [List.mapM_nil] at h
    obtain ⟨rfl, rfl⟩ := ends_pure.1 h
    exact ⟨.refl hs, rfl, nofun⟩
  | cons number numbers ih =>
    rw [List.mapM_cons, ends_bind] at h
    obtain ⟨id?, q, hpattern, h⟩ := h
    rw [ends_bind] at h
    obtain ⟨rest, q', hrest, h⟩ := h
    obtain ⟨rfl, rfl⟩ := ends_pure.1 h
    obtain ⟨hfirst, hid, hplaced⟩ :=
      pattern_grows (hc number List.mem_cons_self) hs hp hpattern
    obtain ⟨hmore, hids, hall⟩ := ih (fun n hn => hc n (List.mem_cons_of_mem _ hn)) hfirst.sound
      (Nat.le_trans (hfirst.kept.pending_le library) hp) rest hrest (ends_pure.2 ⟨rfl, rfl⟩)
    have hstands := hmore.kept.stands_eq hfirst.sound hplaced
    refine ⟨hfirst.trans hmore, ?_, ?_⟩
    · rw [List.filterMap_cons, List.filterMap_cons, hstands, ← hid, ← hids]
      rfl
    · rintro n (_ | ⟨_, hn⟩) u hu
      · obtain ⟨id, hat⟩ := Option.isSome_iff_exists.1 (hplaced u hu)
        rw [hmore.kept.place _ id hat]
        rfl
      · exact hall n hn u hu

theorem capture_grows {context : Context} {groups : Nat} {entry : String × Nat}
    {before next : Captures}
    (hc : (ruleOf library context.file entry.2).patterns.isSome = true →
      Compiles engine library start compile limit (.rule context entry.2))
    (hs : p.Sound) (hp : p.pending library ≤ limit)
    (h : Ends ⟨engine, library⟩
      (captureEntry compile (fileOf library context.file) context groups before entry) p next p') :
    Grows engine library start p p' ∧ ∀ q, p'.Extends q →
      ∃ c, q.capture? library context.file groups entry = some c ∧
        next = before.putAll c.toList := by
  cases captureEntry_cases (fileOf library context.file) groups entry with
  | tooLarge fault step comes =>
    rw [step] at h
    exact absurd h not_ends_throw
  | passedOver step comes =>
    rw [step] at h
    obtain ⟨rfl, rfl⟩ := ends_pure.1 h
    exact ⟨.refl hs, fun q _ => ⟨none, comes _, rfl⟩⟩
  | named group name step comes =>
    rw [step] at h
    obtain ⟨rfl, rfl⟩ := ends_pure.1 h
    exact ⟨.refl hs, fun q _ => ⟨_, comes _, rfl⟩⟩
  | rescanned group name holds step comes =>
    rw [step, ends_bind] at h
    obtain ⟨_, q, hrule, h⟩ := h
    obtain ⟨rfl, rfl⟩ := ends_pure.1 h
    obtain ⟨id, hcompile, rfl⟩ := ends_map.1 hrule
    obtain ⟨hgrows, hat⟩ := hc holds p id _ hs hp hcompile
    refine ⟨hgrows, fun q hq => ⟨some (group, ⟨name, some id⟩), ?_, rfl⟩⟩
    have hplace : q.at? (.rule context.file entry.2) = some id := hq.place _ id hat
    rw [Progress.capture?, comes, hplace]
    rfl

theorem captures_grow (context : Context) {groups : Nat} {names : Option RuleNames}
    {done : Captures}
    (hc : ∀ entry ∈ names.getD [],
      (ruleOf library context.file entry.2).patterns.isSome = true →
      Compiles engine library start compile limit (.rule context entry.2))
    (hs : p.Sound) (hp : p.pending library ≤ limit)
    (h : Ends ⟨engine, library⟩
      (captures compile (fileOf library context.file) context groups names) p done p') :
    Grows engine library start p p' ∧ ∀ q, p'.Extends q →
      q.captures? library context.file groups names = some done := by
  suffices hall : Grows engine library start p p' ∧ ∀ q, p'.Extends q →
      (∀ entry ∈ names.getD [], (q.capture? library context.file groups entry).isSome = true) ∧
      Captures.putAll [] ((names.getD []).filterMap fun entry =>
        (q.capture? library context.file groups entry).join) = done from
    hall.imp_right fun h q hq => captures?_eq_some_iff.2 (h q hq)
  rw [captures_eq] at h
  generalize names.getD [] = entries at h hc ⊢
  generalize ([] : Captures) = before at h ⊢
  induction entries generalizing p before with
  | nil =>
    rw [List.foldlM_nil] at h
    obtain ⟨rfl, rfl⟩ := ends_pure.1 h
    exact ⟨.refl hs, fun q _ => ⟨nofun, rfl⟩⟩
  | cons entry entries ih =>
    rw [List.foldlM_cons, ends_bind] at h
    obtain ⟨next, q, hentry, h⟩ := h
    obtain ⟨hgrows, hcapture⟩ := capture_grows (hc entry List.mem_cons_self) hs hp hentry
    obtain ⟨hmore, hrest⟩ := ih hgrows.sound (Nat.le_trans (hgrows.kept.pending_le library) hp)
      (fun e he => hc e (List.mem_cons_of_mem _ he)) next h
    refine ⟨hgrows.trans hmore, fun r hr => ?_⟩
    obtain ⟨c, hc, rfl⟩ := hcapture r (hmore.kept.trans hr)
    obtain ⟨hall, hdone⟩ := hrest r hr
    refine ⟨List.forall_mem_cons.2 ⟨hc ▸ rfl, hall⟩, ?_⟩
    rw [← hdone, List.filterMap_cons, hc]
    cases c <;> rfl

theorem rule_grows {context : Context} {number : Nat} {r : Rule}
    (hc : ∀ u, Mentions library (.rule context number) u →
      Compiles engine library start compile limit u)
    (hs : p.Sound) (hp : p.pending library ≤ limit)
    (h : Ends ⟨engine, library⟩ (rule compile (fileOf library context.file) context
      (ruleOf library context.file number)) p r p') :
    Grows engine library start p p' ∧ p'.Holds library (.rule context number) ∧
      p'.Rendered engine library (.rule context number) r := by
  let t : Target := .rule context number
  have hcaptures : ∀ {q q' : Progress} {groups : Nat} {names : Option RuleNames} {done : Captures},
      Grows engine library start p q →
      names ∈ Target.captureChoices (ruleOf library context.file number) →
      Ends ⟨engine, library⟩ (captures compile (fileOf library context.file) (t.inside library)
        groups names) q done q' → Grows engine library start q q' ∧ ∀ r, q'.Extends r →
          r.captures? library context.file groups names = some done := fun hq hn hend =>
    captures_grow (t.inside library)
      (fun entry he holds => hc _ (.of_entry (Target.mem_captures hn) he holds)) hq.sound
      (Nat.le_trans (hq.kept.pending_le library) hp) hend
  rw [rule, ends_bind] at h
  obtain ⟨ids, q, hpatterns, h⟩ := h
  obtain ⟨hgrows, rfl, hholds⟩ := patterns_grow (fun n hn u hu => hc u (.pattern hn hu)) hs hp
    hpatterns
  -- the patterns stand for the same when the captures have been compiled as well
  have hfinal : ∀ {q'}, Grows engine library start q q' →
      Assembled engine (q'.captures? library context.file) (q.patternsOf library t)
        (ruleOf library context.file number) r →
      Grows engine library start p q' ∧ q'.Holds library t ∧ q'.Rendered engine library t r :=
    fun hq hr => ⟨hgrows.trans hq, Progress.Holds.extend hholds hq.kept,
      .rule (hq.kept.patternsOf_eq hgrows.sound hholds ▸ hr)⟩
  split at h
  · next pattern hmatch =>
    rw [ends_bind] at h
    obtain ⟨m, _, hm, h⟩ := h
    obtain ⟨hcompiled, rfl⟩ := ends_matcher hm
    rw [ends_bind] at h
    obtain ⟨done, q', hdone, h⟩ := h
    obtain ⟨rfl, rfl⟩ := ends_pure.1 h
    obtain ⟨hq, hcaught⟩ := hcaptures hgrows (by simp [Target.captureChoices]) hdone
    exact hfinal hq (.single hmatch hcompiled (hcaught _ (.refl _)))
  · next pattern hmatch hbegin =>
    rw [ends_bind] at h
    obtain ⟨m, _, hm, h⟩ := h
    obtain ⟨hcompiled, rfl⟩ := ends_matcher hm
    rw [ends_bind] at h
    obtain ⟨begins, q', hbegins, h⟩ := h
    obtain ⟨hq, hcaught⟩ := hcaptures hgrows (by simp [Target.captureChoices]) hbegins
    split at h
    · next pattern hwhile =>
      rw [ends_bind] at h
      obtain ⟨go, _, hgo, h⟩ := h
      obtain ⟨hread, rfl⟩ := edge?_of_ends hgo
      rw [ends_bind] at h
      obtain ⟨goes, q'', hgoes, h⟩ := h
      obtain ⟨rfl, rfl⟩ := ends_pure.1 h
      obtain ⟨hmore, hgone⟩ := hcaptures (hgrows.trans hq) (by simp [Target.captureChoices])
        hgoes
      exact hfinal (hq.trans hmore) (.lines hmatch hbegin hcompiled (hcaught _ hmore.kept) hwhile
        hread (hgone _ (.refl _)))
    · next hwhile =>
      rw [ends_bind] at h
      obtain ⟨stop, _, hstop, h⟩ := h
      obtain ⟨hread, rfl⟩ := edges?_of_ends hstop
      rw [ends_bind] at h
      obtain ⟨stops, q'', hstops, h⟩ := h
      obtain ⟨rfl, rfl⟩ := ends_pure.1 h
      obtain ⟨hmore, hstopped⟩ := hcaptures (hgrows.trans hq) (by simp [Target.captureChoices])
        hstops
      exact hfinal (hq.trans hmore) (.block hmatch hbegin hcompiled (hcaught _ hmore.kept) hwhile
        hread (hstopped _ (.refl _)))
  · next hmatch hbegin =>
    obtain ⟨rfl, rfl⟩ := ends_pure.1 h
    exact hfinal (.refl hgrows.sound) (.container hmatch hbegin)

theorem Grows.fill {t : Target} {r : Rule} {q : Progress} (reached : Reached library start t)
    (hnew : p.at? (t.key library) = none)
    (h : Grows engine library start (p.allot library t) q) (hholds : q.Holds library t)
    (hrenders : q.Rendered engine library t r)
    (hp' : p' = { q with rules := q.rules.setIfInBounds p.rules.size r }) :
    Grows engine library start p p' ∧ p'.at? (t.key library) = some p.rules.size ∧
      ((p.allot library t).base = some p.rules.size → p'.base = some p.rules.size) := by
  have hsize : p.rules.size < q.rules.size := by
    have hle := h.kept.size
    rw [Progress.size_allot] at hle
    exact hle
  have hat : q.at? (t.key library) = some p.rules.size :=
    h.kept.place _ _ (by rw [Progress.at?_allot, if_pos rfl])
  have hother : ∀ id, id ≠ p.rules.size → p'.rules[id]? = q.rules[id]? := by
    intro id hid
    rw [hp', Array.getElem?_setIfInBounds_ne hid.symm]
  have hown : p'.rules[p.rules.size]? = some r := by
    rw [hp']
    exact Array.getElem?_setIfInBounds_self_of_lt hsize
  have hextends := (Progress.extends_allot hnew).trans h.kept
  subst hp'
  refine ⟨⟨⟨hextends.place, hextends.base, ?_, ?_⟩, ⟨h.sound.base, ?_, h.sound.unique⟩, ?_⟩, hat,
    h.kept.base _⟩
  · rw [Array.size_setIfInBounds]
    exact hextends.size
  · intro id hlt
    rw [hother id (Nat.ne_of_lt hlt), hextends.rules id hlt]
  · rw [Array.size_setIfInBounds]
    exact h.sound.bound
  · intro key id hkey
    obtain hbefore | ⟨hle, u, hu, hsettled⟩ := h.settled key id hkey
    · rw [Progress.at?_allot] at hbefore
      split at hbefore
      · next hk =>
        cases hbefore
        exact .inr ⟨Nat.le_refl _, t, hk.symm, reached, hholds, r, hown,
          hrenders.fill _⟩
      · exact .inl hbefore
    · rw [Progress.size_allot] at hle
      obtain ⟨rule, hrule, hrendered⟩ := hsettled.rendered
      refine .inr ⟨Nat.le_of_succ_le hle, u, hu, hsettled.reached, hsettled.holds, rule, ?_,
        hrendered.fill _⟩
      rw [hother id (Nat.ne_of_gt hle), hrule]

theorem ofTarget_grows {t : Target} {r : Rule}
    (hc : ∀ u, Mentions library t u → Compiles engine library start compile limit u)
    (hs : p.Sound) (hp : p.pending library ≤ limit)
    (h : Ends ⟨engine, library⟩ (ofTarget compile t) p r p') :
    Grows engine library start p p' ∧ p'.Holds library t ∧ p'.Rendered engine library t r := by
  cases t with
  | root name =>
    rw [ofTarget, ends_bind] at h
    obtain ⟨_, _, hfile, h⟩ := h
    obtain ⟨rfl, rfl⟩ := ends_source.1 hfile
    rw [ends_bind] at h
    obtain ⟨ids, q, hpatterns, h⟩ := h
    obtain ⟨rfl, rfl⟩ := ends_pure.1 h
    obtain ⟨hgrows, rfl, hholds⟩ := patterns_grow
      (fun n hn u hu => hc u (.pattern hn hu)) hs hp hpatterns
    exact ⟨hgrows, hholds, .root name⟩
  | rule context number =>
    rw [ofTarget, ends_bind] at h
    obtain ⟨_, _, hfile, h⟩ := h
    obtain ⟨rfl, rfl⟩ := ends_source.1 hfile
    exact rule_grows hc hs hp h

theorem renders_of_not_mem_keys {t : Target} (h : t.key library ∉ keys library) :
    p.Holds library t ∧ p.Rendered engine library t (.container []) := by
  obtain ⟨hpatterns, -, hrule⟩ := empty_of_not_mem_keys h
  have hnil : p.patternsOf library t = [] := by
    rw [Progress.patternsOf, hpatterns]
    rfl
  refine ⟨fun number hn => ?_, ?_⟩
  · rw [hpatterns] at hn
    cases hn
  · cases t with
    | root name => exact hnil ▸ .root name
    | rule context number =>
      have hr := hrule context number rfl
      exact .rule (hnil ▸ .container (by rw [hr]) (by rw [hr]))

/-- A target without a place is given one, and what it comes to is put there. -/
theorem target_grows_of_new {t : Target} {fuel id : Nat} (reached : Reached library start t)
    (hc : ∀ n, fuel = n + 1 → ∀ u, Mentions library t u →
      Compiles engine library start (target n) n u)
    (hnew : p.at? (t.key library) = none) (hs : (p.allot library t).Sound)
    (hp : p.pending library ≤ fuel) (h : Ends ⟨engine, library⟩ (target fuel t) p id p') :
    Grows engine library start p p' ∧ p'.at? (t.key library) = some id ∧
      ((p.allot library t).base = some p.rules.size → p'.base = some id) := by
  rw [target, ends_bind] at h
  obtain ⟨id?, p, hknown, h⟩ := h
  obtain ⟨rfl, rfl⟩ := ends_known hknown
  rw [hnew] at h
  dsimp only at h
  rw [ends_bind] at h
  obtain ⟨_, _, hallot, h⟩ := h
  obtain ⟨rfl, rfl⟩ := ends_allocate hallot
  cases fuel with
  | zero =>
    -- no key is pending, so the library has no room for this one
    have hout : t.key library ∉ keys library := fun hm =>
      absurd (Nat.lt_of_lt_of_le (Progress.pending_allot_lt hnew hm) hp) (Nat.not_lt_zero _)
    obtain ⟨rfl, rfl⟩ := ends_pure.1 h
    obtain ⟨hholds, hrenders⟩ := renders_of_not_mem_keys hout
    exact (Grows.refl hs).fill reached hnew hholds hrenders (p.allot_eq library t)
  | succ n =>
    -- what is mentioned has one key less to go, or nothing is mentioned
    obtain ⟨limit, hlimit, hmentioned⟩ : ∃ limit, (p.allot library t).pending library ≤ limit ∧
        ∀ u, Mentions library t u → Compiles engine library start (target n) limit u := by
      by_cases hm : t.key library ∈ keys library
      · have hlt := Progress.pending_allot_lt hnew hm
        exact ⟨n, by omega, hc n rfl⟩
      · exact ⟨_, Nat.le_refl _, fun u hu => absurd hu (not_mentions_of_not_mem_keys hm)⟩
    dsimp only at h
    rw [ends_bind] at h
    obtain ⟨r, q, hr, h⟩ := h
    obtain ⟨hgrows, hholds, hrenders⟩ := ofTarget_grows hmentioned hs hlimit hr
    rw [ends_bind] at h
    obtain ⟨_, _, hfill, h⟩ := h
    obtain ⟨rfl, rfl⟩ := ends_pure.1 h
    exact hgrows.fill reached hnew hholds hrenders (ends_fill hfill)

theorem target_compiles (fuel : Nat) :
    ∀ t, Reached library start t → Compiles engine library start (target fuel) fuel t := by
  have step : ∀ fuel, (∀ n, fuel = n + 1 → ∀ t, Reached library start t →
      Compiles engine library start (target n) n t) →
      ∀ t, Reached library start t → Compiles engine library start (target fuel) fuel t := by
    intro fuel hless t reached p id p' hs hp h
    cases hat : p.at? (t.key library) with
    | none =>
      obtain ⟨hgrows, hplace, -⟩ := target_grows_of_new reached
        (fun n hn u hu => hless n hn u (.step reached hu)) hat (hs.allot library hat) hp h
      exact ⟨hgrows, hplace⟩
    | some id' =>
      rw [target, ends_bind] at h
      obtain ⟨id?, _, hknown, h⟩ := h
      obtain ⟨rfl, rfl⟩ := ends_known hknown
      rw [hat] at h
      obtain ⟨rfl, rfl⟩ := ends_pure.1 h
      exact ⟨.refl hs, hat⟩
  induction fuel with
  | zero => exact step 0 nofun
  | succ n ih =>
    refine step (n + 1) ?_
    rintro _ ⟨⟩
    exact ih

end

/-- What has been done when the compile of a grammar ends. -/
def progress (engine : Engine) (library : Library) (file : String) : Progress :=
  (((target (targetCount library) (.root file)).run ⟨engine, library⟩).run.run {}).2

section
variable {engine : Engine} {library : Library} {file : String} {g : Grammar} {asked : List String}

theorem ends_of_compile (h : Grammar.compile engine library file = (.ok g, asked)) :
    Ends ⟨engine, library⟩ (target (targetCount library) (.root file)) {} g.root
        (progress engine library file) ∧
      g.rules = (progress engine library file).rules ∧
      g.candidates = g.rules.map (triedInside g.rules) := by
  unfold progress Ends
  unfold Grammar.compile at h
  generalize ((target (targetCount library) (.root file)).run ⟨engine, library⟩).run.run {} = r
    at h ⊢
  obtain ⟨_ | root, p⟩ := r
  · cases h
  · cases h
    exact ⟨rfl, rfl, rfl⟩

theorem made_of_compile (h : Grammar.compile engine library file = (.ok g, asked)) :
    g.scopeName = (fileOf library file).scopeName ∧ g.engine = engine := by
  unfold Grammar.compile at h
  generalize ((target (targetCount library) (.root file)).run ⟨engine, library⟩).run.run {} = r at h
  obtain ⟨_ | root, p⟩ := r
  · cases h
  · cases h
    exact ⟨rfl, rfl⟩

theorem sound_allot_root (library : Library) (file : String) :
    (Progress.allot {} library (.root file)).Sound where
  base := rfl
  bound key id h := by
    rw [Progress.at?_allot] at h
    split at h
    · cases h
      exact Nat.one_pos
    · cases key <;> cases h
  unique key key' id h h' := by
    rw [Progress.at?_allot] at h h'
    split at h <;> split at h'
    · next hk hk' => rw [hk, hk']
    · cases key' <;> cases h'
    · cases key <;> cases h
    · cases key <;> cases h

theorem compile_grows (h : Grammar.compile engine library file = (.ok g, asked)) :
    Grows engine library file {} (progress engine library file) ∧
      (progress engine library file).at? ((Target.root file).key library) = some g.root ∧
      (progress engine library file).base = some g.root := by
  obtain ⟨hends, -, -⟩ := ends_of_compile h
  have hcount : Progress.pending {} library ≤ targetCount library := by
    rw [← length_keys]
    exact List.countP_le_length
  obtain ⟨hgrows, hroot, hbase⟩ := target_grows_of_new .start
    (fun n _ u hu => target_compiles n u (.step .start hu)) rfl (sound_allot_root library file)
    hcount hends
  exact ⟨hgrows, hroot, hbase rfl⟩

/-- Each place of a grammar holds the rule of one target, reached by mentions from the file that was
compiled, and the patterns of that rule are the places of what its patterns lead to. -/
theorem compile_settled (h : Grammar.compile engine library file = (.ok g, asked)) :
    (progress engine library file).Sound ∧
      (progress engine library file).at? ((Target.root file).key library) = some g.root ∧
      ∀ key id, (progress engine library file).at? key = some id → ∃ t, t.key library = key ∧
        Settled engine library file (progress engine library file) t id := by
  obtain ⟨hgrows, hroot, -⟩ := compile_grows h
  refine ⟨hgrows.sound, hroot, fun key id hkey => ?_⟩
  obtain hbefore | ⟨-, hsettled⟩ := hgrows.settled key id hkey
  · cases key <;> cases hbefore
  · exact hsettled

theorem Settled.rule {t : Target} {id : Nat}
    (hc : Grammar.compile engine library file = (.ok g, asked))
    (h : Settled engine library file (progress engine library file) t id) :
    Renders engine library (progress engine library file) t (g.rule id) ∧
      g.candidatesOf id = triedInside g.rules (g.rule id) := by
  obtain ⟨-, hrules, hcandidates⟩ := ends_of_compile hc
  obtain ⟨rule, hrule, hrenders⟩ := h.rendered
  rw [← hrules] at hrule
  have hg : g.rule id = rule := by
    rw [Grammar.rule, hrule]
    rfl
  rw [hg]
  refine ⟨.of_rendered hrenders, ?_⟩
  rw [Grammar.candidatesOf, hcandidates, Array.getElem?_map, hrule]
  rfl

end

end Highlighting.Compile
