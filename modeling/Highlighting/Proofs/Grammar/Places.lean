import Highlighting.Proofs.Grammar.Effects
import Mathlib.Data.List.Basic

/-!
The places that targets are given while a grammar is compiled. A place that has been given stays, so
what patterns stand for stays as well.
-/
namespace Highlighting.Compile

namespace Progress

/-- What a rule in a list of patterns stands for. -/
def stands (p : Progress) (library : Library) (context : Context) (number : Nat) : Option Nat :=
  if (ruleOf library context.file number).reference = some "$base" then p.base
  else (mention? library context number).bind fun u => p.at? (u.key library)

theorem stands_of_mention {p : Progress} {library : Library} {context : Context} {number : Nat}
    {u : Target} (h : mention? library context number = some u) :
    p.stands library context number = p.at? (u.key library) := by
  rw [stands, if_neg, h, Option.bind_some]
  intro hbase
  rw [mention?, hbase] at h
  cases h

def patternsOf (p : Progress) (library : Library) (t : Target) : List Nat :=
  (t.patterns library).filterMap (p.stands library (t.inside library))

def Holds (p : Progress) (library : Library) (t : Target) : Prop :=
  ∀ number ∈ t.patterns library, ∀ u, mention? library (t.inside library) number = some u →
    (p.at? (u.key library)).isSome = true

/-- Each key that has a place has it alone. -/
structure Sound (p : Progress) : Prop where
  base : p.base.isSome = true
  bound : ∀ key id, p.at? key = some id → id < p.rules.size
  unique : ∀ key key' id, p.at? key = some id → p.at? key' = some id → key = key'

/-- What has a place keeps it, and what stands there stays. -/
structure Extends (p p' : Progress) : Prop where
  place : ∀ key id, p.at? key = some id → p'.at? key = some id
  base : ∀ id, p.base = some id → p'.base = some id
  size : p.rules.size ≤ p'.rules.size
  rules : ∀ id, id < p.rules.size → p'.rules[id]? = p.rules[id]?

theorem Extends.refl (p : Progress) : p.Extends p :=
  ⟨fun _ _ h => h, fun _ h => h, Nat.le_refl _, fun _ _ => rfl⟩

theorem Extends.trans {p q r : Progress} (h : p.Extends q) (h' : q.Extends r) : p.Extends r where
  place key id hp := h'.place key id (h.place key id hp)
  base id hp := h'.base id (h.base id hp)
  size := Nat.le_trans h.size h'.size
  rules id hlt := (h'.rules id (Nat.lt_of_lt_of_le hlt h.size)).trans (h.rules id hlt)

theorem Extends.stands_eq {p p' : Progress} {library : Library} {context : Context} {number : Nat}
    (h : p.Extends p') (hs : p.Sound)
    (hu : ∀ u, mention? library context number = some u → (p.at? (u.key library)).isSome = true) :
    p'.stands library context number = p.stands library context number := by
  unfold stands
  split
  · obtain ⟨id, hid⟩ := Option.isSome_iff_exists.1 hs.base
    rw [hid, h.base id hid]
  · cases hm : mention? library context number with
    | none => rfl
    | some u =>
      obtain ⟨id, hid⟩ := Option.isSome_iff_exists.1 (hu u hm)
      rw [Option.bind_some, Option.bind_some, hid, h.place _ id hid]

theorem Extends.patternsOf_eq {p p' : Progress} {library : Library} {t : Target}
    (h : p.Extends p') (hs : p.Sound) (hh : p.Holds library t) :
    p'.patternsOf library t = p.patternsOf library t :=
  List.filterMap_congr fun number hn => h.stands_eq hs (hh number hn)

theorem Holds.extend {p p' : Progress} {library : Library} {t : Target} (hh : p.Holds library t)
    (h : p.Extends p') : p'.Holds library t := by
  intro number hn u hu
  obtain ⟨id, hid⟩ := Option.isSome_iff_exists.1 (hh number hn u hu)
  rw [h.place _ id hid]
  rfl

/-- How many keys of a library have no place yet. -/
def pending (p : Progress) (library : Library) : Nat :=
  (keys library).countP fun key => (p.at? key).isNone

theorem Extends.pending_le {p p' : Progress} (h : p.Extends p') (library : Library) :
    p'.pending library ≤ p.pending library := by
  refine List.countP_mono_left fun key _ hnone => ?_
  cases hp : p.at? key with
  | none => rfl
  | some id => rw [h.place key id hp] at hnone; cases hnone

theorem at?_allot (p : Progress) (library : Library) (t : Target) (key : Key) :
    (p.allot library t).at? key =
      if key = t.key library then some p.rules.size else p.at? key := by
  cases t with
  | root file =>
    change _ = if key = .root (fileOf library file).scopeName then _ else _
    cases key with
    | root scopeName =>
      by_cases hs : scopeName = (fileOf library file).scopeName
      · rw [if_pos (congrArg Key.root hs), hs]
        exact Table.get?_put_self ..
      · rw [if_neg fun hk => hs (Key.root.inj hk)]
        exact Table.get?_put_of_ne _ _ hs
    | rule file' number => rfl
  | rule context number =>
    change _ = if key = .rule context.file number then _ else _
    cases key with
    | root scopeName => rfl
    | rule file number' =>
      by_cases hs : (file, number') = (context.file, number)
      · cases hs
        rw [if_pos rfl]
        exact Table.get?_put_self ..
      · rw [if_neg fun hk => hs (by cases hk; rfl)]
        exact Table.get?_put_of_ne _ _ hs

theorem size_allot (p : Progress) (library : Library) (t : Target) :
    (p.allot library t).rules.size = p.rules.size + 1 := by
  cases t <;> exact Array.size_push ..

theorem rules_allot (p : Progress) (library : Library) (t : Target) :
    (p.allot library t).rules = p.rules.push (.container []) := by
  cases t <;> rfl

theorem allot_eq (p : Progress) (library : Library) (t : Target) :
    p.allot library t = { p.allot library t with
      rules := (p.allot library t).rules.setIfInBounds p.rules.size (.container []) } := by
  have hrules : p.rules.push (.container []) =
      (p.rules.push (.container [])).setIfInBounds p.rules.size (.container []) := by
    refine Array.ext_getElem? fun i => ?_
    by_cases hi : i = p.rules.size
    · rw [hi, Array.getElem?_push_size, Array.getElem?_setIfInBounds_self_of_lt (by simp)]
    · rw [Array.getElem?_setIfInBounds_ne (Ne.symm hi)]
  cases t with
  | root file => exact congrArg (fun rules => { p.allot library (.root file) with rules }) hrules
  | rule context number =>
    exact congrArg (fun rules => { p.allot library (.rule context number) with rules }) hrules

theorem extends_allot {p : Progress} {library : Library} {t : Target}
    (hnew : p.at? (t.key library) = none) : p.Extends (p.allot library t) where
  place key id hp := by
    rw [at?_allot, if_neg]
    · exact hp
    · rintro rfl
      rw [hnew] at hp
      cases hp
  base id hp := by
    cases t with
    | root file => exact congrArg (· <|> some p.rules.size) hp
    | rule context number => exact hp
  size := by rw [size_allot]; exact Nat.le_succ _
  rules id hlt := by rw [rules_allot, Array.getElem?_push_lt hlt, Array.getElem?_eq_getElem hlt]

theorem Sound.allot {p : Progress} (hs : p.Sound) (library : Library) {t : Target}
    (hnew : p.at? (t.key library) = none) : (p.allot library t).Sound where
  base := by
    obtain ⟨id, hid⟩ := Option.isSome_iff_exists.1 hs.base
    rw [(extends_allot hnew).base id hid]
    rfl
  bound key id hp := by
    rw [at?_allot] at hp
    rw [size_allot]
    split at hp
    · cases hp
      exact Nat.lt_succ_self _
    · exact Nat.lt_succ_of_lt (hs.bound key id hp)
  unique key key' id hp hp' := by
    rw [at?_allot] at hp hp'
    split at hp <;> split at hp'
    · next hk hk' => rw [hk, hk']
    · cases hp
      exact absurd (hs.bound key' _ hp') (Nat.lt_irrefl _)
    · cases hp'
      exact absurd (hs.bound key _ hp) (Nat.lt_irrefl _)
    · exact hs.unique key key' id hp hp'

theorem pending_allot_lt {p : Progress} {library : Library} {t : Target}
    (hnew : p.at? (t.key library) = none) (hmem : t.key library ∈ keys library) :
    (p.allot library t).pending library < p.pending library := by
  unfold pending
  rw [List.countP_eq_length_filter, List.countP_eq_length_filter]
  have hfilter : (keys library).filter (fun key => ((p.allot library t).at? key).isNone) =
      ((keys library).filter fun key => (p.at? key).isNone).filter (· ≠ t.key library) := by
    rw [List.filter_filter]
    refine List.filter_congr fun key _ => ?_
    rw [at?_allot]
    by_cases hk : key = t.key library
    · simp [hk]
    · simp [hk]
  rw [hfilter]
  refine List.length_filter_lt_length_iff_exists.2 ⟨t.key library, ?_, by simp⟩
  exact List.mem_filter.2 ⟨hmem, by rw [hnew]; rfl⟩

end Progress

end Highlighting.Compile
