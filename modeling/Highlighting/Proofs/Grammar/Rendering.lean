import Highlighting.Proofs.Grammar.Places

/-!
What targets come to when all that they lead to has a place. The places are all that is asked of
other targets.
-/
namespace Highlighting

def Captures.putAll (captures : Captures) (more : List (Nat × Capture)) : Captures :=
  more.foldl (fun done c => Captures.put done c.1 c.2) captures

namespace Compile

/-- What a pattern leads to: a key or, as `none`, the base. -/
def lead? (library : Library) (context : Context) (number : Nat) : Option (Option Key) :=
  if (ruleOf library context.file number).reference = some "$base" then some none
  else (mention? library context number).map fun u => some (u.key library)

def Target.leads (library : Library) (t : Target) : List (Option Key) :=
  (t.patterns library).filterMap (lead? library (t.inside library))

def edge? (engine : Engine) (pattern : String) : Option EdgePattern :=
  if BackReference.occurs pattern.toList then some ⟨pattern, none⟩
  else (engine.compile? pattern).map fun matcher => ⟨pattern, some matcher⟩

def capture? (rules : Array RuleSource) (place? : Nat → Option Nat) (groups : Nat)
    (entry : String × Nat) : Option (Option (Nat × Capture)) :=
  match Words.count? entry.1 with
  | none => some none
  | some group =>
    if largestGroup < group then none
    else if groups < group then some none
    else
      let rule := (rules[entry.2]?).getD {}
      if rule.patterns.isSome then
        (place? entry.2).map fun id => some (group, ⟨rule.name, some id⟩)
      else some (some (group, ⟨rule.name, none⟩))

def captures? (rules : Array RuleSource) (place? : Nat → Option Nat) (groups : Nat)
    (names : Option RuleNames) : Option Captures :=
  if ∀ entry ∈ names.getD [], (capture? rules place? groups entry).isSome = true then
    some (Captures.putAll []
      ((names.getD []).filterMap fun entry => (capture? rules place? groups entry).join))
  else none

/-- What a compile does at an entry of captures, with those of the entries before it. -/
def captureEntry (compile : Target → CompileM Nat) (file : GrammarSource) (context : Context)
    (groups : Nat) (done : Captures) (entry : String × Nat) : CompileM Captures :=
  match Words.count? entry.1 with
  | none => return done
  | some group =>
    if largestGroup < group then throw (.captureTooLarge group)
    else if groups < group then return done
    else do
      let rule := (file.rules[entry.2]?).getD {}
      let patterns ←
        if rule.patterns.isSome then some <$> compile (.rule context entry.2) else pure none
      return done.put group ⟨rule.name, patterns⟩

theorem captures_eq (compile : Target → CompileM Nat) (file : GrammarSource) (context : Context)
    (groups : Nat) (names : Option RuleNames) :
    captures compile file context groups names =
      (names.getD []).foldlM (captureEntry compile file context groups) [] :=
  rfl

inductive CaptureEntry (file : GrammarSource) (groups : Nat) (entry : String × Nat) : Prop
  | tooLarge (fault : GrammarFault)
      (step : ∀ compile context done,
        captureEntry compile file context groups done entry = throw fault)
      (comes : ∀ place?, capture? file.rules place? groups entry = none)
  | passedOver
      (step : ∀ compile context done,
        captureEntry compile file context groups done entry = pure done)
      (comes : ∀ place?, capture? file.rules place? groups entry = some none)
  | named (group : Nat) (name : Option String)
      (step : ∀ compile context done,
        captureEntry compile file context groups done entry = pure (done.put group ⟨name, none⟩))
      (comes : ∀ place?, capture? file.rules place? groups entry =
        some (some (group, ⟨name, none⟩)))
  | rescanned (group : Nat) (name : Option String)
      (holds : ((file.rules[entry.2]?).getD {}).patterns.isSome = true)
      (step : ∀ compile context done, captureEntry compile file context groups done entry =
        some <$> compile (.rule context entry.2) >>= fun id? => pure (done.put group ⟨name, id?⟩))
      (comes : ∀ place?, capture? file.rules place? groups entry =
        (place? entry.2).map fun id => some (group, ⟨name, some id⟩))

theorem captureEntry_cases (file : GrammarSource) (groups : Nat) (entry : String × Nat) :
    CaptureEntry file groups entry := by
  cases hcount : Words.count? entry.1 with
  | none =>
    refine .passedOver (fun compile context done => ?_) fun place? => ?_
    · simp only [captureEntry, hcount]
    · simp only [capture?, hcount]
  | some group =>
    by_cases hlarge : largestGroup < group
    · refine .tooLarge (.captureTooLarge group) (fun compile context done => ?_) fun place? => ?_
      · simp only [captureEntry, hcount, if_pos hlarge]
      · simp only [capture?, hcount, if_pos hlarge]
    by_cases hgroup : groups < group
    · refine .passedOver (fun compile context done => ?_) fun place? => ?_
      · simp only [captureEntry, hcount, if_neg hlarge, if_pos hgroup]
      · simp only [capture?, hcount, if_neg hlarge, if_pos hgroup]
    by_cases hholds : ((file.rules[entry.2]?).getD {}).patterns.isSome = true
    · refine .rescanned group ((file.rules[entry.2]?).getD {}).name hholds
        (fun compile context done => ?_) fun place? => ?_
      · simp only [captureEntry, hcount, if_neg hlarge, if_neg hgroup, if_pos hholds]
      · simp only [capture?, hcount, if_neg hlarge, if_neg hgroup, if_pos hholds]
    · refine .named group ((file.rules[entry.2]?).getD {}).name (fun compile context done => ?_)
        fun place? => ?_
      · simp only [captureEntry, hcount, if_neg hlarge, if_neg hgroup, if_neg hholds, pure_bind]
      · simp only [capture?, hcount, if_neg hlarge, if_neg hgroup, if_neg hholds]

/-- A rule is what a rule of a file comes to, with patterns in given places, and captures as
stated. -/
inductive Assembled (engine : Engine) (captured : Nat → Option RuleNames → Option Captures)
    (patterns : List Nat) (r : RuleSource) : Rule → Prop
  | container (noMatch : r.matchPattern = none) (noBegin : r.beginPattern = none) :
      Assembled engine captured patterns r (.container patterns)
  | single {pattern : String} {matcher : Matcher} {captures : Captures}
      (isMatch : r.matchPattern = some pattern)
      (compiled : engine.compile? pattern = some matcher)
      (caught : captured matcher.groupCount r.captures = some captures) :
      Assembled engine captured patterns r (.single r.name matcher captures)
  | block {pattern : String} {matcher : Matcher} {stop : Option EdgePattern}
      {captures stopCaptures : Captures} (noMatch : r.matchPattern = none)
      (isBegin : r.beginPattern = some pattern) (compiled : engine.compile? pattern = some matcher)
      (caught : captured matcher.groupCount (r.beginCaptures <|> r.captures) = some captures)
      (noWhile : r.whilePattern = none) (isStop : r.endPattern.mapM (edge? engine) = some stop)
      (stopped : captured (stop.elim 0 EdgePattern.groupCount) (r.endCaptures <|> r.captures) =
        some stopCaptures) :
      Assembled engine captured patterns r
        (.block ⟨r.name, r.contentName, matcher, captures, patterns⟩ stop stopCaptures r.endLast)
  | lines {pattern again : String} {matcher : Matcher} {go : EdgePattern}
      {captures goCaptures : Captures} (noMatch : r.matchPattern = none)
      (isBegin : r.beginPattern = some pattern) (compiled : engine.compile? pattern = some matcher)
      (caught : captured matcher.groupCount (r.beginCaptures <|> r.captures) = some captures)
      (isWhile : r.whilePattern = some again) (isGo : edge? engine again = some go)
      (gone : captured go.groupCount (r.whileCaptures <|> r.captures) = some goCaptures) :
      Assembled engine captured patterns r
        (.lines ⟨r.name, r.contentName, matcher, captures, patterns⟩ go goCaptures)

namespace Assembled
variable {engine : Engine} {captured captured' : Nat → Option RuleNames → Option Captures}
  {patterns : List Nat} {r : RuleSource} {rule rule' : Rule}

theorem unique (h : Assembled engine captured patterns r rule)
    (h' : Assembled engine captured patterns r rule') : rule = rule' := by
  cases h <;> cases h' <;> grind

theorem mono (h : Assembled engine captured patterns r rule)
    (hcaptured : ∀ groups names captures, captured groups names = some captures →
      captured' groups names = some captures) : Assembled engine captured' patterns r rule := by
  cases h with
  | container noMatch noBegin => exact .container noMatch noBegin
  | single isMatch compiled caught => exact .single isMatch compiled (hcaptured _ _ _ caught)
  | block noMatch isBegin compiled caught noWhile isStop stopped =>
    exact .block noMatch isBegin compiled (hcaptured _ _ _ caught) noWhile isStop
      (hcaptured _ _ _ stopped)
  | lines noMatch isBegin compiled caught isWhile isGo gone =>
    exact .lines noMatch isBegin compiled (hcaptured _ _ _ caught) isWhile isGo
      (hcaptured _ _ _ gone)

end Assembled

section
variable {env : Environment} {p p' : Progress}

theorem edge?_of_ends {pattern : String} {e : EdgePattern} (h : Ends env (edge pattern) p e p') :
    edge? env.engine pattern = some e ∧ p' = p := by
  unfold edge at h
  unfold edge?
  split at h
  · next hback =>
    obtain ⟨rfl, rfl⟩ := ends_pure.1 h
    exact ⟨if_pos hback, rfl⟩
  · next hback =>
    rw [ends_bind] at h
    obtain ⟨m, _, hm, h⟩ := h
    obtain ⟨hread, rfl⟩ := ends_matcher hm
    obtain ⟨rfl, rfl⟩ := ends_pure.1 h
    rw [if_neg hback, hread]
    exact ⟨rfl, rfl⟩

theorem edges?_of_ends {pattern? : Option String} {e? : Option EdgePattern}
    (h : Ends env (pattern?.mapM edge) p e? p') :
    pattern?.mapM (edge? env.engine) = some e? ∧ p' = p := by
  cases pattern? with
  | none =>
    obtain ⟨rfl, rfl⟩ := ends_pure.1 h
    exact ⟨rfl, rfl⟩
  | some pattern =>
    obtain ⟨e, he, rfl⟩ := ends_map.1 h
    obtain ⟨hread, rfl⟩ := edge?_of_ends he
    refine ⟨?_, rfl⟩
    rw [Option.mapM_some, hread]
    rfl

theorem source_of_edge? {engine : Engine} {pattern : String} {e : EdgePattern}
    (h : edge? engine pattern = some e) : e.source = pattern := by
  unfold edge? at h
  split at h
  · cases h
    rfl
  · obtain ⟨m, -, rfl⟩ := Option.map_eq_some_iff.1 h
    rfl

theorem source_of_edges? {engine : Engine} {pattern? : Option String} {e? : Option EdgePattern}
    (h : pattern?.mapM (edge? engine) = some e?) : e?.map EdgePattern.source = pattern? := by
  cases pattern? with
  | none =>
    cases h
    rfl
  | some pattern =>
    obtain ⟨e, he, rfl⟩ := Option.map_eq_some_iff.1 h
    exact congrArg some (source_of_edge? he)

end

section
variable {rules : Array RuleSource} {place? place'? : Nat → Option Nat} {groups : Nat}

theorem capture?_mono (hplace : ∀ number id, place? number = some id → place'? number = some id)
    {entry : String × Nat} {c : Option (Nat × Capture)}
    (h : capture? rules place? groups entry = some c) :
    capture? rules place'? groups entry = some c := by
  unfold capture? at h ⊢
  cases hcount : Words.count? entry.1 with
  | none =>
    rw [hcount] at h
    exact h
  | some group =>
    rw [hcount] at h
    dsimp only at h ⊢
    split_ifs at h ⊢
    · exact h
    · obtain ⟨id, hid, hc⟩ := Option.map_eq_some_iff.1 h
      rw [hplace _ id hid]
      exact congrArg some hc
    · exact h

theorem captures?_eq_some_iff {names : Option RuleNames} {captures : Captures} :
    captures? rules place? groups names = some captures ↔
      (∀ entry ∈ names.getD [], (capture? rules place? groups entry).isSome = true) ∧
        Captures.putAll []
          ((names.getD []).filterMap fun entry => (capture? rules place? groups entry).join) =
            captures := by
  unfold captures?
  split
  · next hall => exact ⟨fun h => ⟨hall, Option.some.inj h⟩, fun h => congrArg some h.2⟩
  · next hall => exact ⟨nofun, fun h => absurd h.1 hall⟩

theorem captures?_mono (hplace : ∀ number id, place? number = some id → place'? number = some id)
    {names : Option RuleNames} {captures : Captures}
    (h : captures? rules place? groups names = some captures) :
    captures? rules place'? groups names = some captures := by
  rw [captures?_eq_some_iff] at h ⊢
  obtain ⟨hall, hcaptures⟩ := h
  have hsame : ∀ entry ∈ names.getD [], capture? rules place'? groups entry =
      capture? rules place? groups entry := by
    intro entry hentry
    obtain ⟨c, hc⟩ := Option.isSome_iff_exists.1 (hall entry hentry)
    rw [hc, capture?_mono hplace hc]
  refine ⟨fun entry hentry => hsame entry hentry ▸ hall entry hentry, ?_⟩
  rw [List.filterMap_congr fun entry hentry => congrArg Option.join (hsame entry hentry), hcaptures]

end

namespace Progress
variable {library : Library} {context : Context} {number : Nat} {p p' : Progress} {t : Target}

def stand? (p : Progress) : Option Key → Option Nat
  | none => p.base
  | some key => p.at? key

theorem stands_eq_lead : p.stands library context number =
    (lead? library context number).bind p.stand? := by
  rw [stands, lead?]
  split
  · rfl
  · rw [Option.bind_map]
    rfl

theorem patternsOf_eq_leads (p : Progress) (library : Library) (t : Target) :
    p.patternsOf library t = (t.leads library).filterMap p.stand? := by
  rw [patternsOf, Target.leads, List.filterMap_filterMap]
  exact List.filterMap_congr fun number _ => stands_eq_lead

def capture? (p : Progress) (library : Library) (file : String) :
    Nat → String × Nat → Option (Option (Nat × Capture)) :=
  Compile.capture? (fileOf library file).rules fun number => p.at? (.rule file number)

def captures? (p : Progress) (library : Library) (file : String) :
    Nat → Option RuleNames → Option Captures :=
  Compile.captures? (fileOf library file).rules fun number => p.at? (.rule file number)

/-- A rule is what a target comes to, the places of other targets given. -/
inductive Rendered (engine : Engine) (library : Library) (p : Progress) : Target → Rule → Prop
  | root (file : String) :
      Rendered engine library p (.root file) (.container (p.patternsOf library (.root file)))
  | rule {context : Context} {number : Nat} {rule : Rule}
      (assembled : Assembled engine (p.captures? library context.file)
        (p.patternsOf library (.rule context number)) (ruleOf library context.file number) rule) :
      Rendered engine library p (.rule context number) rule

theorem Rendered.fill {engine : Engine} {rule : Rule} (h : p.Rendered engine library t rule)
    (rules : Array Rule) : { p with rules := rules }.Rendered engine library t rule := by
  cases h with
  | root file => exact .root file
  | rule assembled => exact .rule assembled

theorem Rendered.extend {engine : Engine} {rule : Rule} (h : Rendered engine library p t rule)
    (hs : p.Sound) (hh : p.Holds library t) (he : p.Extends p') :
    Rendered engine library p' t rule := by
  have hpatterns := he.patternsOf_eq hs hh
  cases h with
  | root file => exact hpatterns ▸ .root file
  | rule assembled =>
    refine .rule (hpatterns ▸ assembled.mono fun groups names captures h => ?_)
    exact captures?_mono (fun number id => he.place _ id) h

end Progress

end Compile

end Highlighting
