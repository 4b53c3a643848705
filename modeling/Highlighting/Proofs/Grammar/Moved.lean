import Highlighting.Proofs.Grammar.Reordered
import Highlighting.Proofs.Scan.Relabelled

/-! What a target comes to when captures stand in another order and rules have other places. -/
namespace Highlighting

/-- No two of the names stand for the same group. -/
def RuleNames.Apart (names : RuleNames) : Prop :=
  ∀ entry ∈ names, ∀ entry' ∈ names, ∀ group, Words.count? entry.1 = some group →
    Words.count? entry'.1 = some group → entry = entry'

theorem RuleNames.Apart.perm {names names' : RuleNames} (h : RuleNames.Apart names)
    (hperm : names.Perm names') : RuleNames.Apart names' := fun entry he entry' he' =>
  h entry (hperm.mem_iff.2 he) entry' (hperm.mem_iff.2 he')

namespace Captures

theorem getElem?_put (captures : Captures) (group : Nat) (c : Capture) (i : Nat) :
    (captures.put group c)[i]? =
      if i = group then some c else captures[i]? <|> if i < group then some default else none := by
  have hlength : (captures ++ List.replicate (group + 1 - captures.length) default).length =
      max captures.length (group + 1) := by
    rw [List.length_append, List.length_replicate]
    omega
  rw [put, List.getElem?_set, hlength]
  by_cases hi : group = i
  · rw [if_pos hi, if_pos (by omega), if_pos hi.symm]
  · rw [if_neg hi, if_neg (Ne.symm hi), List.getElem?_append]
    split
    · next hlt => rw [List.getElem?_eq_getElem hlt]; rfl
    · next hge =>
      rw [List.getElem?_eq_none (Nat.le_of_not_lt hge), List.getElem?_replicate]
      exact if_congr (by omega) rfl rfl

theorem put_comm (captures : Captures) {group group' : Nat} (h : group ≠ group') (c c' : Capture) :
    (captures.put group c).put group' c' = (captures.put group' c').put group c := by
  refine List.ext_getElem? fun i => ?_
  simp only [getElem?_put]
  grind

theorem putAll_perm {more more' : List (Nat × Capture)} (hperm : more.Perm more')
    (happart : ∀ x ∈ more, ∀ y ∈ more, x.1 = y.1 → x = y) (captures : Captures) :
    captures.putAll more = captures.putAll more' := by
  refine hperm.foldl_eq' (fun x hx y hy done => ?_) captures
  by_cases hgroup : x.1 = y.1
  · rw [happart x hx y hy hgroup]
  · exact put_comm done hgroup x.2 y.2

theorem map_putAll (σ : Nat → Nat) (more : List (Nat × Capture)) (captures : Captures) :
    (captures.putAll more).map (Capture.relabel σ) =
      Captures.putAll (captures.map (Capture.relabel σ))
        (more.map (Prod.map id (Capture.relabel σ))) := by
  have hput : ∀ (done : Captures) (group : Nat) (c : Capture),
      (done.put group c).map (Capture.relabel σ) =
        Captures.put (done.map (Capture.relabel σ)) group (c.relabel σ) := by
    intro done group c
    rw [put, put, List.map_set, List.map_append, List.map_replicate, List.length_map]
    rfl
  induction more generalizing captures with
  | nil => rfl
  | cons c more ih =>
    rw [List.map_cons, putAll, putAll, List.foldl_cons, List.foldl_cons]
    exact (ih _).trans (congrArg (fun done => putAll done _) (hput captures c.1 c.2))

end Captures

namespace Compile

section
variable {rules rules' : Array RuleSource} {place? place'? : Nat → Option Nat} {σ : Nat → Nat}
  {groups : Nat}

theorem capture?_moved
    (hrules : ∀ number : Nat,
      RuleSource.Reordered ((rules[number]?).getD {}) ((rules'[number]?).getD {}))
    (hplace : ∀ number id, place? number = some id → place'? number = some (σ id))
    {entry : String × Nat} {c : Option (Nat × Capture)}
    (h : capture? rules place? groups entry = some c) :
    capture? rules' place'? groups entry = some (c.map (Prod.map id (Capture.relabel σ))) := by
  have hpatterns : ((rules'[entry.2]?).getD {}).patterns =
      ((rules[entry.2]?).getD {}).patterns := by
    rw [(hrules entry.2).rest]
  have hname : ((rules'[entry.2]?).getD {}).name = ((rules[entry.2]?).getD {}).name := by
    rw [(hrules entry.2).rest]
  unfold capture? at h ⊢
  cases hcount : Words.count? entry.1 with
  | none =>
    rw [hcount] at h
    cases h
    rfl
  | some group =>
    rw [hcount] at h
    dsimp only at h ⊢
    rw [hpatterns, hname]
    split_ifs at h ⊢
    · cases h
      rfl
    · obtain ⟨id, hid, rfl⟩ := Option.map_eq_some_iff.1 h
      rw [hplace _ id hid]
      rfl
    · cases h
      rfl

theorem group_of_capture? {entry : String × Nat} {c : Nat × Capture}
    (h : capture? rules place? groups entry = some (some c)) : Words.count? entry.1 = some c.1 := by
  unfold capture? at h
  cases hcount : Words.count? entry.1 with
  | none =>
    rw [hcount] at h
    cases h
  | some group =>
    rw [hcount] at h
    dsimp only at h
    split_ifs at h
    · cases h
    · obtain ⟨id, -, hc⟩ := Option.map_eq_some_iff.1 h
      cases hc
      rfl
    · cases h
      rfl

theorem captures?_moved
    (hrules : ∀ number : Nat,
      RuleSource.Reordered ((rules[number]?).getD {}) ((rules'[number]?).getD {}))
    (hplace : ∀ number id, place? number = some id → place'? number = some (σ id))
    {names names' : Option RuleNames} (hnames : Option.Rel List.Perm names names')
    (happart : ∀ ns, names = some ns → ns.Apart) {captures : Captures}
    (h : captures? rules place? groups names = some captures) :
    captures? rules' place'? groups names' = some (captures.map (Capture.relabel σ)) := by
  obtain ⟨hperm, happart⟩ : (names.getD []).Perm (names'.getD []) ∧
      RuleNames.Apart (names.getD []) := by
    cases hnames with
    | none => exact ⟨.refl _, nofun⟩
    | some hperm => exact ⟨hperm, happart _ rfl⟩
  rw [captures?_eq_some_iff] at h ⊢
  obtain ⟨hall, rfl⟩ := h
  have hmoved : ∀ entry ∈ names.getD [], ∃ c, capture? rules place? groups entry = some c ∧
      capture? rules' place'? groups entry = some (c.map (Prod.map id (Capture.relabel σ))) := by
    intro entry hentry
    obtain ⟨c, hc⟩ := Option.isSome_iff_exists.1 (hall entry hentry)
    exact ⟨c, hc, capture?_moved hrules hplace hc⟩
  have hjoin : (names.getD []).filterMap
      (fun entry => (capture? rules' place'? groups entry).join) =
      ((names.getD []).filterMap fun entry => (capture? rules place? groups entry).join).map
        (Prod.map id (Capture.relabel σ)) := by
    rw [List.map_filterMap]
    refine List.filterMap_congr fun entry hentry => ?_
    obtain ⟨c, hc, hc'⟩ := hmoved entry hentry
    rw [hc, hc']
    rfl
  refine ⟨fun entry hentry => ?_, ?_⟩
  · obtain ⟨c, -, hc'⟩ := hmoved entry (hperm.mem_iff.2 hentry)
    rw [hc']
    rfl
  · rw [Captures.map_putAll, ← hjoin]
    refine (Captures.putAll_perm (hperm.filterMap _) ?_ []).symm
    -- captures of one group come from one name
    intro x hx y hy hgroup
    obtain ⟨entry, hentry, hjx⟩ := List.mem_filterMap.1 hx
    obtain ⟨entry', hentry', hjy⟩ := List.mem_filterMap.1 hy
    have hex := Option.join_eq_some_iff.1 hjx
    have hey := Option.join_eq_some_iff.1 hjy
    obtain rfl := happart entry hentry entry' hentry' y.1 (hgroup ▸ group_of_capture? hex)
      (group_of_capture? hey)
    exact Option.some.inj (hjx.symm.trans hjy)

end

theorem Assembled.moved {engine : Engine}
    {captured captured' : Nat → Option RuleNames → Option Captures}
    {patterns : List Nat} {r r' : RuleSource} {rule : Rule} {σ : Nat → Nat}
    (h : Assembled engine captured patterns r rule) (hr : r.Reordered r')
    (hcaptured : ∀ groups names names' captures, Option.Rel List.Perm names names' →
      names ∈ Target.captureChoices r → captured groups names = some captures →
      captured' groups names' = some (captures.map (Capture.relabel σ))) :
    Assembled engine captured' (patterns.map σ) r' (rule.relabel σ) := by
  cases h with
  | container noMatch noBegin =>
    rw [hr.rest]
    exact .container noMatch noBegin
  | single isMatch compiled caught =>
    have hcaught := hcaptured _ _ _ _ hr.captures
      (by simp [Target.captureChoices]) caught
    rw [hr.rest]
    exact .single isMatch compiled hcaught
  | block noMatch isBegin compiled caught noWhile isStop stopped =>
    have hcaught := hcaptured _ _ _ _ (rel_perm_or hr.beginCaptures hr.captures)
      (by simp [Target.captureChoices]) caught
    have hstopped := hcaptured _ _ _ _ (rel_perm_or hr.endCaptures hr.captures)
      (by simp [Target.captureChoices]) stopped
    rw [hr.rest]
    exact .block noMatch isBegin compiled hcaught noWhile isStop hstopped
  | lines noMatch isBegin compiled caught isWhile isGo gone =>
    have hcaught := hcaptured _ _ _ _ (rel_perm_or hr.beginCaptures hr.captures)
      (by simp [Target.captureChoices]) caught
    have hgone := hcaptured _ _ _ _ (rel_perm_or hr.whileCaptures hr.captures)
      (by simp [Target.captureChoices]) gone
    rw [hr.rest]
    exact .lines noMatch isBegin compiled hcaught isWhile isGo hgone

namespace Progress
variable {engine : Engine} {library library' : Library} {p q : Progress} {t u : Target}
  {σ : Nat → Nat} {rule : Rule}

theorem Rendered.unique {rule' : Rule} (h : p.Rendered engine library t rule)
    (h' : p.Rendered engine library t rule') : rule = rule' := by
  cases h with
  | root file =>
    cases h'
    rfl
  | rule assembled =>
    cases h' with
    | rule assembled' => exact assembled.unique assembled'

/-- A target comes to the same as another one that is known by the same key, as long as their
patterns lead to the same. -/
theorem Rendered.of_key (h : p.Rendered engine library t rule)
    (hkey : t.key library = u.key library)
    (hleads : t.leads library = u.leads library) : p.Rendered engine library u rule := by
  have hpatterns : p.patternsOf library t = p.patternsOf library u := by
    rw [patternsOf_eq_leads, patternsOf_eq_leads, hleads]
  cases h with
  | root file =>
    cases u with
    | root file' => exact hpatterns ▸ .root file'
    | rule context number => cases hkey
  | @rule context number rule assembled =>
    cases u with
    | root file' => cases hkey
    | rule context' number' =>
      obtain ⟨hfile, rfl⟩ := Key.rule.inj hkey
      rw [hfile, hpatterns] at assembled
      exact .rule assembled

theorem holds_iff_leads :
    p.Holds library t ↔ ∀ key, some key ∈ t.leads library → (p.at? key).isSome = true := by
  constructor
  · intro h key hkey
    obtain ⟨number, hn, hlead⟩ := List.mem_filterMap.1 hkey
    unfold lead? at hlead
    split at hlead
    · cases hlead
    · obtain ⟨u, hu, hkey⟩ := Option.map_eq_some_iff.1 hlead
      cases hkey
      exact h number hn u hu
  · intro h number hn u hu
    refine h _ (List.mem_filterMap.2 ⟨number, hn, ?_⟩)
    rw [lead?, if_neg, hu]
    · rfl
    · intro hbase
      rw [mention?, hbase] at hu
      cases hu

/-- What has a place in one progress has one in another, which may be elsewhere. -/
structure Moves (σ : Nat → Nat) (p q : Progress) : Prop where
  place : ∀ key id, p.at? key = some id → q.at? key = some (σ id)
  base : ∀ id, p.base = some id → q.base = some (σ id)

theorem Moves.patternsOf_eq (h : Moves σ p q) (hs : p.Sound) (hlibrary : library.Reordered library')
    (hholds : p.Holds library t) : q.patternsOf library' t = (p.patternsOf library t).map σ := by
  rw [patternsOf_eq_leads, patternsOf_eq_leads, t.leads_reordered hlibrary, List.map_filterMap]
  refine List.filterMap_congr fun lead hlead => ?_
  cases lead with
  | none =>
    obtain ⟨id, hid⟩ := Option.isSome_iff_exists.1 hs.base
    rw [stand?, stand?, hid, h.base id hid]
    rfl
  | some key =>
    obtain ⟨id, hid⟩ := Option.isSome_iff_exists.1 (holds_iff_leads.1 hholds key hlead)
    rw [stand?, stand?, hid, h.place key id hid]
    rfl

theorem Moves.rendered (h : Moves σ p q) (hs : p.Sound) (hlibrary : library.Reordered library')
    (hholds : p.Holds library t) (happart : ∀ names ∈ t.captures library, names.Apart)
    (hr : p.Rendered engine library t rule) : q.Rendered engine library' t (rule.relabel σ) := by
  have hpatterns := h.patternsOf_eq hs hlibrary hholds
  cases hr with
  | root file =>
    rw [Rule.relabel, ← hpatterns]
    exact .root file
  | @rule context number rule assembled =>
    refine .rule (hpatterns ▸ assembled.moved (ruleOf_reordered hlibrary _ _) ?_)
    intro groups names names' captures hnames hchoice hcaught
    exact captures?_moved (fileOf_reordered hlibrary _).rule (fun n id => h.place _ id) hnames
      (fun ns hns => happart ns (Target.mem_captures hchoice ns hns)) hcaught

end Progress

end Compile

end Highlighting
