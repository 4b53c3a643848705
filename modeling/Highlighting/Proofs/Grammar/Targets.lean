import Highlighting.Grammar.Compile

/-!
What the patterns of grammar files refer to, read off the files alone. A target is reached if
patterns or captures lead to it from the grammar that is compiled.
-/
namespace Highlighting.Compile

def fileOf (library : Library) (file : String) : GrammarSource := (library.lookup file).getD default

def ruleOf (library : Library) (file : String) (number : Nat) : RuleSource :=
  ((fileOf library file).rules[number]?).getD {}

/-- What a target is known by, whatever names are in view where it is mentioned. -/
inductive Key
  | root (scopeName : String)
  | rule (file : String) (number : Nat)
  deriving DecidableEq

namespace Target

def key (library : Library) : Target → Key
  | .root file => .root (fileOf library file).scopeName
  | .rule context number => .rule context.file number

def inside (library : Library) : Target → Context
  | .root file => ⟨file, [(fileOf library file).repository]⟩
  | .rule context number =>
    { context with repositories :=
        context.repositories ++ (ruleOf library context.file number).repository.toList }

def patterns (library : Library) : Target → List Nat
  | .root file => (fileOf library file).patterns
  | .rule context number => (ruleOf library context.file number).patterns.getD []

def captureFields (r : RuleSource) : List (Option RuleNames) :=
  [r.captures, r.beginCaptures, r.endCaptures, r.whileCaptures]

def captures (library : Library) : Target → List RuleNames
  | .root _ => []
  | .rule context number => (captureFields (ruleOf library context.file number)).filterMap id

/-- The captures that the patterns of a rule are compiled with: its own, if there are some, for a
pattern that begins, ends or goes on with a region, and those of the rule otherwise. -/
def captureChoices (r : RuleSource) : List (Option RuleNames) :=
  r.captures :: [r.beginCaptures, r.endCaptures, r.whileCaptures].map (· <|> r.captures)

theorem mem_captures {library : Library} {context : Context} {number : Nat}
    {names : Option RuleNames} (h : names ∈ captureChoices (ruleOf library context.file number))
    (ns : RuleNames) (hn : names = some ns) : ns ∈ captures library (.rule context number) := by
  refine List.mem_filterMap.2 ⟨some ns, ?_, rfl⟩
  obtain rfl | h := List.mem_cons.1 h
  · exact hn ▸ List.mem_cons_self
  · obtain ⟨own, hown, rfl⟩ := List.mem_map.1 h
    cases own with
    | none => exact hn ▸ List.mem_cons_self
    | some own => exact hn ▸ List.mem_cons_of_mem _ hown

end Target

def fileNamed? (library : Library) (context : Context) (scope : String) : Option String :=
  if scope = (fileOf library context.file).scopeName then some context.file
  else if (library.lookup scope).isSome then some scope
  else none

def entryOf? (library : Library) (name : Option String) (file : String) : Option Target :=
  match name with
  | none => some (.root file)
  | some name =>
    let repository := (fileOf library file).repository
    (repository.lookup name).map (.rule ⟨file, [repository]⟩)

def referent? (library : Library) (context : Context) (reference : String) : Option Target :=
  match splitReference reference with
  | ("", some name) => (inView context name).map (.rule context)
  | (scope, name) => (fileNamed? library context scope).bind (entryOf? library name)

theorem referent?_external {library : Library} {context : Context} {reference : String}
    (h : ∀ name, splitReference reference ≠ ("", some name)) :
    referent? library context reference =
      (fileNamed? library context (splitReference reference).1).bind
        (entryOf? library (splitReference reference).2) := by
  unfold referent?
  split
  · next name heq => exact absurd heq (h name)
  · next heq => rw [heq]

/-- What a reference leads to. The base has no target of its own: it is there from the start. -/
def target? (library : Library) (context : Context) (reference : String) : Option Target :=
  if reference = "$self" then some (.root context.file)
  else if reference = "$base" then none
  else referent? library context reference

def mention? (library : Library) (context : Context) (number : Nat) : Option Target :=
  match (ruleOf library context.file number).reference with
  | some reference => target? library context reference
  | none => some (.rule context number)

inductive Mentions (library : Library) (t : Target) : Target → Prop
  | pattern {number : Nat} {u : Target} (mem : number ∈ t.patterns library)
      (leads : mention? library (t.inside library) number = some u) : Mentions library t u
  | capture {names : RuleNames} {name : String} {number : Nat} (mem : names ∈ t.captures library)
      (entry : (name, number) ∈ names)
      (holds : (ruleOf library (t.inside library).file number).patterns.isSome = true) :
      Mentions library t (.rule (t.inside library) number)

theorem Mentions.of_entry {library : Library} {t : Target} {names : Option RuleNames}
    {entry : String × Nat} (hn : ∀ ns, names = some ns → ns ∈ t.captures library)
    (he : entry ∈ names.getD [])
    (holds : (ruleOf library (t.inside library).file entry.2).patterns.isSome = true) :
    Mentions library t (.rule (t.inside library) entry.2) := by
  cases names with
  | none => cases he
  | some ns => exact .capture (hn ns rfl) he holds

/-- Mentions lead to a target from the grammar that is compiled. -/
inductive Reached (library : Library) (start : String) : Target → Prop
  | start : Reached library start (.root start)
  | step {t u : Target} (reached : Reached library start t) (mentions : Mentions library t u) :
      Reached library start u

def keys (library : Library) : List Key :=
  library.flatMap fun entry =>
    .root (fileOf library entry.1).scopeName ::
      (List.range entry.2.rules.size).map (.rule entry.1)

theorem length_keys (library : Library) : (keys library).length = targetCount library := by
  unfold keys
  generalize fileOf library = sourceOf
  induction library with
  | nil => rfl
  | cons entry library ih =>
    rw [List.flatMap_cons, List.length_append, ih, targetCount, targetCount, List.foldr_cons]
    simp only [List.length_cons, List.length_map, List.length_range]

theorem mem_keys_rule {library : Library} {file : String} {number : Nat}
    (h : number < (fileOf library file).rules.size) : .rule file number ∈ keys library := by
  unfold fileOf at h
  cases hf : library.lookup file with
  | none => rw [hf] at h; exact absurd h (Nat.not_lt_zero _)
  | some source =>
    rw [hf] at h
    obtain ⟨before, after, hl, -⟩ := List.lookup_eq_some_iff.1 hf
    refine List.mem_flatMap.2 ⟨(file, source), by rw [hl]; simp, List.mem_cons_of_mem _ ?_⟩
    exact List.mem_map.2 ⟨number, List.mem_range.2 h, rfl⟩

theorem mem_keys_root {library : Library} {file : String} {source : GrammarSource}
    (h : library.lookup file = some source) :
    .root (fileOf library file).scopeName ∈ keys library := by
  obtain ⟨before, after, hl, -⟩ := List.lookup_eq_some_iff.1 h
  refine List.mem_flatMap.2 ⟨(file, source), by rw [hl]; simp, List.mem_cons_self⟩

theorem empty_of_not_mem_keys {library : Library} {t : Target} (h : t.key library ∉ keys library) :
    t.patterns library = [] ∧ t.captures library = [] ∧
      ∀ context number, t = .rule context number → ruleOf library context.file number = {} := by
  cases t with
  | root file =>
    have hnone : library.lookup file = none := by
      cases hf : library.lookup file with
      | none => rfl
      | some source => exact absurd (mem_keys_root hf) h
    refine ⟨?_, rfl, nofun⟩
    rw [Target.patterns, fileOf, hnone]
    rfl
  | rule context number =>
    have hempty : ruleOf library context.file number = {} := by
      have hsize : ¬ number < (fileOf library context.file).rules.size := fun hlt =>
        h (mem_keys_rule hlt)
      rw [ruleOf, Array.getElem?_eq_none (Nat.le_of_not_lt hsize)]
      rfl
    refine ⟨?_, ?_, ?_⟩
    · rw [Target.patterns, hempty]
      rfl
    · rw [Target.captures, hempty]
      rfl
    · rintro context' number' ⟨⟩
      exact hempty

theorem not_mentions_of_not_mem_keys {library : Library} {t u : Target}
    (h : t.key library ∉ keys library) : ¬ Mentions library t u := by
  obtain ⟨hpatterns, hcaptures, -⟩ := empty_of_not_mem_keys h
  rintro (⟨mem, -⟩ | ⟨mem, -, -⟩)
  · rw [hpatterns] at mem
    cases mem
  · rw [hcaptures] at mem
    cases mem

end Highlighting.Compile
