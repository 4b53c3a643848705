import Highlighting.Proofs.Grammar.Scoping

/-! The arena of a grammar while it is built. Each place belongs to a key of its own. -/
namespace Highlighting

def Captures.places (captures : Captures) : List Nat := captures.filterMap Capture.patterns

def Rule.places : Rule → List Nat
  | .container patterns => patterns
  | .single _ _ captures => captures.places
  | .block opening _ stopCaptures _ =>
    opening.patterns ++ opening.captures.places ++ stopCaptures.places
  | .lines opening _ goCaptures =>
    opening.patterns ++ opening.captures.places ++ goCaptures.places

def Rule.matchers : Rule → List Matcher
  | .container _ => []
  | .single _ matcher _ => [matcher]
  | .block opening stop _ _ => opening.matcher :: (stop.bind EdgePattern.fixed).toList
  | .lines opening go _ => opening.matcher :: go.fixed.toList

structure Rule.Fits (engine : Engine) (size : Nat) (rule : Rule) : Prop where
  places_lt : ∀ place ∈ rule.places, place < size
  read : ∀ matcher ∈ rule.matchers, ∃ pattern, engine.compile? pattern = some matcher

theorem Rule.Fits.mono {engine : Engine} {size size' : Nat} {rule : Rule}
    (h : rule.Fits engine size) (hle : size ≤ size') : rule.Fits engine size' :=
  ⟨fun place hp => Nat.lt_of_lt_of_le (h.places_lt place hp) hle, h.read⟩

theorem Rule.patterns_subset_places (rule : Rule) : rule.patterns ⊆ rule.places := by
  cases rule <;> simp [Rule.patterns, Rule.places]

theorem Rule.stopCaptures_places_subset (rule : Rule) : rule.stopCaptures.places ⊆ rule.places := by
  cases rule with
  | block => exact List.subset_append_right _ _
  | _ => exact List.nil_subset _

theorem Captures.mem_places_put {captures : Captures} {group id : Nat} {c : Capture}
    (h : id ∈ (captures.put group c).places) : id ∈ captures.places ∨ c.patterns = some id := by
  obtain ⟨d, hd, hid⟩ := List.mem_filterMap.1 h
  obtain hd | rfl := List.mem_or_eq_of_mem_set hd
  · obtain hd | hd := List.mem_append.1 hd
    · exact .inl (List.mem_filterMap.2 ⟨d, hd, hid⟩)
    · rw [List.eq_of_mem_replicate hd] at hid
      cases hid
  · exact .inr hid

namespace Compile

def Key.Of (library : Library) (files : List String) : Key → Prop
  | .root scopeName => ∃ file ∈ files, (fileOf library file).scopeName = scopeName
  | .rule file number => file ∈ files ∧ number ∈ (fileOf library file).numbers

theorem Key.Of.mono {library : Library} {files files' : List String} {key : Key}
    (h : key.Of library files) (hsub : files ⊆ files') : key.Of library files' := by
  cases key with
  | root scopeName =>
    obtain ⟨file, hfile, hname⟩ := h
    exact ⟨file, hsub hfile, hname⟩
  | rule file number => exact ⟨hsub h.1, h.2⟩

theorem mem_numbers_of_held {library : Library} {file : String} {holder : Option Nat}
    {number : Nat} (h : number ∈ held library file holder) :
    number ∈ (fileOf library file).numbers := by
  cases holder with
  | none => exact List.mem_append_left _ h
  | some outer =>
    obtain ⟨r, hr, hmem⟩ := rule_of_mem_held h
    exact List.mem_append_right _
      (List.mem_flatMap.2 ⟨r, Array.mem_toList_iff.2 (Array.mem_of_getElem? hr), hmem⟩)

theorem Reached.key_of {library : Library} {start : String} {files : List String} {t : Target}
    (h : Reached library start t) (hfile : (t.inside library).file ∈ files) :
    (t.key library).Of library files := by
  cases t with
  | root file => exact ⟨file, hfile, rfl⟩
  | rule context number =>
    obtain ⟨scope, hscoped⟩ := h.scoped
    cases hscoped.lexical with
    | rule _ mem => exact ⟨hfile, mem_numbers_of_held mem⟩

/-- All that is referred to is in the arena, and each place belongs to a key of its own. -/
structure Built (engine : Engine) (library : Library) (start : String) (p : Progress) : Prop where
  base : ∀ id, p.base = some id → id < p.rules.size
  placed : ∀ key id, p.at? key = some id → id < p.rules.size
  closed : ∀ (id : Nat) (rule : Rule), p.rules[id]? = some rule → rule.Fits engine p.rules.size
  tenants : ∃ keys : List Key, keys.Nodup ∧ keys.length = p.rules.size ∧
    ∀ key ∈ keys, (p.at? key).isSome = true ∧ key.Of library (start :: p.asked)

structure Later (p p' : Progress) : Prop where
  size : p.rules.size ≤ p'.rules.size
  asked : p.asked ⊆ p'.asked
  place : ∀ key, (p.at? key).isSome = true → (p'.at? key).isSome = true

theorem Later.refl (p : Progress) : Later p p :=
  ⟨Nat.le_refl _, List.Subset.refl _, fun _ h => h⟩

theorem Later.trans {p q r : Progress} (h : Later p q) (h' : Later q r) : Later p r where
  size := Nat.le_trans h.size h'.size
  asked := List.Subset.trans h.asked h'.asked
  place key hp := h'.place key (h.place key hp)

theorem Later.lt_size {p p' : Progress} {ids : List Nat} (h : Later p p')
    (hids : ∀ id ∈ ids, id < p.rules.size) : ∀ id ∈ ids, id < p'.rules.size := fun id hid =>
  Nat.lt_of_lt_of_le (hids id hid) h.size

theorem Later.pending_le {p p' : Progress} (h : Later p p') (library : Library) :
    p'.pending library ≤ p.pending library := by
  refine List.countP_mono_left fun key _ hnone => ?_
  cases hp : p.at? key with
  | none => rfl
  | some id =>
    have hplace := h.place key (by rw [hp]; rfl)
    rw [Option.isNone_iff_eq_none.1 hnone] at hplace
    cases hplace

theorem Later.mem_files {p p' : Progress} (h : Later p p') {start file : String}
    (hfile : file ∈ start :: p.asked) : file ∈ start :: p'.asked :=
  List.cons_subset_cons start h.asked hfile

variable {engine : Engine} {library : Library} {start : String} {p p' : Progress}

theorem built_empty (engine : Engine) (library : Library) (start : String) :
    Built engine library start {} where
  base := nofun
  placed key id h := by cases key <;> cases h
  closed id rule h := by cases h
  tenants := ⟨[], List.nodup_nil, rfl, nofun⟩

theorem Built.ask (h : Built engine library start p) {asked : List String}
    (hsub : p.asked ⊆ asked) :
    Built engine library start { p with asked := asked } ∧ Later p { p with asked := asked } := by
  obtain ⟨keys, hnodup, hlength, hkeys⟩ := h.tenants
  refine ⟨⟨h.base, h.placed, h.closed, keys, hnodup, hlength, fun key hk => ?_⟩,
    Nat.le_refl _, hsub, fun _ h => h⟩
  obtain ⟨hplace, hof⟩ := hkeys key hk
  exact ⟨hplace, hof.mono (List.cons_subset_cons start hsub)⟩

theorem asked_allot (p : Progress) (library : Library) (t : Target) :
    (p.allot library t).asked = p.asked := by
  cases t <;> rfl

theorem Built.allot (h : Built engine library start p) {t : Target}
    (hnew : p.at? (t.key library) = none) (hof : (t.key library).Of library (start :: p.asked)) :
    Built engine library start (p.allot library t) ∧ Later p (p.allot library t) := by
  have hsize := Progress.size_allot p library t
  have hextends := Progress.extends_allot hnew
  have hplace : ∀ key, (p.at? key).isSome = true →
      ((p.allot library t).at? key).isSome = true := by
    intro key hkey
    rw [Progress.at?_allot]
    split
    · rfl
    · exact hkey
  refine ⟨⟨?_, ?_, ?_, ?_⟩, hextends.size, by rw [asked_allot]; exact List.Subset.refl _, hplace⟩
  · intro id hid
    rw [hsize]
    cases t with
    | rule context number => exact Nat.lt_succ_of_lt (h.base id hid)
    | root file =>
      change (p.base <|> some p.rules.size) = some id at hid
      cases hb : p.base with
      | none => rw [hb] at hid; cases hid; exact Nat.lt_succ_self _
      | some id' => rw [hb] at hid; cases hid; exact Nat.lt_succ_of_lt (h.base id hb)
  · intro key id hid
    rw [Progress.at?_allot] at hid
    rw [hsize]
    split at hid
    · cases hid; exact Nat.lt_succ_self _
    · exact Nat.lt_succ_of_lt (h.placed key id hid)
  · intro id rule hrule
    rw [Progress.rules_allot, Array.getElem?_push] at hrule
    rw [hsize]
    split at hrule
    · cases hrule; exact ⟨nofun, nofun⟩
    · exact (h.closed id rule hrule).mono (Nat.le_succ _)
  · obtain ⟨keys, hnodup, hlength, hkeys⟩ := h.tenants
    refine ⟨t.key library :: keys, List.nodup_cons.2 ⟨fun hm => ?_, hnodup⟩, ?_, ?_⟩
    · have hsome := (hkeys _ hm).1
      rw [hnew] at hsome
      cases hsome
    · rw [List.length_cons, hlength, hsize]
    · rw [asked_allot]
      refine List.forall_mem_cons.2 ⟨⟨?_, hof⟩, fun key hk => ?_⟩
      · rw [Progress.at?_allot, if_pos rfl]; rfl
      · exact ⟨hplace key (hkeys key hk).1, (hkeys key hk).2⟩

theorem Built.fill (h : Built engine library start p) (id : Nat) {rule : Rule}
    (hrule : rule.Fits engine p.rules.size) :
    Built engine library start { p with rules := p.rules.setIfInBounds id rule } ∧
      Later p { p with rules := p.rules.setIfInBounds id rule } := by
  have hsize : (p.rules.setIfInBounds id rule).size = p.rules.size := Array.size_setIfInBounds
  refine ⟨⟨?_, ?_, ?_, ?_⟩, Nat.le_of_eq hsize.symm, List.Subset.refl _, fun _ h => h⟩
  · exact fun id' hid => hsize ▸ h.base id' hid
  · exact fun key id' hid => hsize ▸ h.placed key id' hid
  · intro id' rule' hget
    rw [hsize]
    dsimp only at hget
    rw [Array.getElem?_setIfInBounds] at hget
    split at hget
    · split at hget
      · cases hget; exact hrule
      · cases hget
    · exact h.closed id' rule' hget
  · obtain ⟨keys, hnodup, hlength, hkeys⟩ := h.tenants
    exact ⟨keys, hnodup, hlength.trans hsize.symm, hkeys⟩

end Compile

end Highlighting
