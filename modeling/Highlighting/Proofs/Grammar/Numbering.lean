import Highlighting.Proofs.Grammar.Reordered
import Highlighting.Proofs.Registry.Loading
import Mathlib.Data.List.Nodup

/-!
The numbers that rules get when a grammar file is decoded. Each rule of a file stands in one place
of its text.
-/
namespace Highlighting

namespace Decoder

variable {α β : Type} {P : α → Prop} {Q : β → Prop}

def Gives (d : Decoder α) (P : α → Prop) : Prop :=
  ∀ context left value left', d context left = some (value, left') → P value

theorem gives_pure {value : α} (h : P value) : Gives (pure value) P := by
  rintro context left _ _ ⟨⟩
  exact h

theorem gives_failure : Gives (failure : Decoder α) P := by
  rintro context left value left' ⟨⟩

theorem Gives.bind {d : Decoder α} {f : α → Decoder β} (h : d.Gives P)
    (hf : ∀ value, P value → (f value).Gives Q) : (d >>= f).Gives Q := by
  intro context left value left' heq
  obtain ⟨⟨first, between⟩, hfirst, hrest⟩ := Option.bind_eq_some_iff.1 heq
  exact hf first (h context left first between hfirst) context between value left' hrest

theorem Gives.bind_any {d : Decoder α} {f : α → Decoder β} (hf : ∀ value, (f value).Gives Q) :
    (d >>= f).Gives Q :=
  Gives.bind (P := fun _ => True) (fun _ _ _ _ _ => trivial) fun value _ => hf value

theorem Gives.map {d : Decoder α} {f : α → β} (h : d.Gives fun value => Q (f value)) :
    (f <$> d).Gives Q := by
  rw [← bind_pure_comp]
  exact h.bind fun value hvalue => gives_pure hvalue

theorem gives_optional {decode : Document → Decoder α} {P : Option α → Prop}
    (h : ∀ document, (decode document).Gives fun value => P (some value)) (hnone : P none)
    (document : Document) : (optional decode document).Gives P := by
  refine Gives.bind_any fun document => ?_
  split
  · split
    · exact (h _).map
    · exact gives_pure hnone
    · exact gives_failure
  · exact (h _).map

theorem gives_withDefault {fields : List (String × Document)} {name : String} {missing : α}
    {decode : Document → Decoder α} (hmissing : P missing)
    (h : ∀ document, (decode document).Gives P) :
    (withDefault fields name missing decode).Gives P := by
  unfold withDefault
  cases fields.lookup name with
  | none => exact gives_pure hmissing
  | some document => exact h document

theorem lastOfEach_sublist (entries : List (String × α)) :
    (lastOfEach entries).Sublist entries := by
  suffices h : ∀ done : List (String × α),
      (entries.foldl (fun done entry => done.filter (·.1 ≠ entry.1) ++ [entry]) done).Sublist
        (done ++ entries) from h []
  induction entries with
  | nil => simp
  | cons entry entries ih =>
    intro done
    refine (ih _).trans ?_
    rw [List.append_assoc]
    exact List.filter_sublist.append (List.Sublist.refl _)

end Decoder

open Compile (Target)

def RuleSource.parts (r : RuleSource) : List Nat :=
  r.patterns.getD [] ++
    (Target.captureFields r ++ [r.repository]).flatMap fun names =>
      names.elim [] (List.map Prod.snd)

/-- Rules have been added, and each of their numbers is held once: by what holds the roots, or by
one of the rules that have been added. -/
def Grown (old : Array RuleSource) (roots : List Nat) (new : Array RuleSource) : Prop :=
  ∃ added, new.toList = old.toList ++ added ∧
    (roots ++ added.flatMap RuleSource.parts).Nodup ∧
    ∀ number ∈ roots ++ added.flatMap RuleSource.parts, old.size ≤ number ∧ number < new.size

namespace Grown

variable {old mid new : Array RuleSource} {roots others : List Nat}

theorem refl (rules : Array RuleSource) : Grown rules [] rules :=
  ⟨[], by simp, by simp, by simp⟩

theorem append (h : Grown old roots mid) (h' : Grown mid others new) :
    Grown old (roots ++ others) new := by
  obtain ⟨added, hmid, hnodup, hin⟩ := h
  obtain ⟨more, hnew, hnodup', hin'⟩ := h'
  have hsize : mid.size = old.size + added.length := by simpa using congrArg List.length hmid
  have hsize' : new.size = mid.size + more.length := by simpa using congrArg List.length hnew
  have hperm : (roots ++ others ++ (added ++ more).flatMap RuleSource.parts).Perm
      (roots ++ added.flatMap RuleSource.parts ++ (others ++ more.flatMap RuleSource.parts)) := by
    rw [List.perm_iff_count]
    intro number
    simp only [List.count_append, List.flatMap_append]
    omega
  refine ⟨added ++ more, by rw [hnew, hmid, List.append_assoc], ?_, ?_⟩
  · rw [hperm.nodup_iff]
    refine List.nodup_append.2 ⟨hnodup, hnodup', ?_⟩
    rintro number hmem _ hmem' rfl
    exact absurd (hin number hmem).2 (by have := (hin' number hmem').1; omega)
  · intro number hmem
    obtain hmem | hmem := List.mem_append.1 (hperm.mem_iff.1 hmem)
    · have := hin number hmem
      omega
    · have := hin' number hmem
      omega

theorem sublist (h : Grown old roots new) (hsub : others.Sublist roots) : Grown old others new := by
  obtain ⟨added, hnew, hnodup, hin⟩ := h
  have hall := hsub.append (List.Sublist.refl (added.flatMap RuleSource.parts))
  exact ⟨added, hnew, hnodup.sublist hall, fun number hmem => hin number (hall.mem hmem)⟩

theorem push {rule : RuleSource} (h : Grown old roots mid) (hparts : rule.parts.Perm roots) :
    Grown old [mid.size] (mid.push rule) := by
  obtain ⟨added, hmid, hnodup, hin⟩ := h
  have hsize : mid.size = old.size + added.length := by simpa using congrArg List.length hmid
  have hperm : ((added ++ [rule]).flatMap RuleSource.parts).Perm
      (roots ++ added.flatMap RuleSource.parts) := by
    rw [List.flatMap_append, List.flatMap_singleton]
    exact (List.Perm.append_left _ hparts).trans List.perm_append_comm
  refine ⟨added ++ [rule], by simp [hmid], ?_, ?_⟩
  · rw [List.singleton_append, List.nodup_cons, hperm.mem_iff, hperm.nodup_iff]
    exact ⟨fun hmem => absurd (hin _ hmem).2 (by omega), hnodup⟩
  · intro number hmem
    rw [Array.size_push]
    obtain rfl | hmem := List.mem_cons.1 hmem
    · omega
    · have := hin number (hperm.mem_iff.1 hmem)
      omega

end Grown

def Numbers {α : Type} (roots : α → List Nat) (d : RuleDecoder α) : Prop :=
  ∀ rules, (d rules).Gives fun result => Grown rules (roots result.1) result.2

namespace Numbers

variable {α β : Type} {roots : α → List Nat}

theorem pure {value : α} (h : roots value = []) : Numbers roots (Pure.pure value) := fun rules =>
  Decoder.gives_pure (by rw [h]; exact Grown.refl rules)

theorem failure : Numbers roots (Alternative.failure : RuleDecoder α) := fun _ =>
  Decoder.gives_failure

theorem bind_run {d : RuleDecoder α} {f : α → RuleDecoder β} {Q : β × Array RuleSource → Prop}
    {old rules : Array RuleSource} {before : List Nat} (h : Numbers roots d)
    (hrules : Grown old before rules)
    (hf : ∀ value rules, Grown old (before ++ roots value) rules → (f value rules).Gives Q) :
    ((d >>= f) rules).Gives Q :=
  (h rules).bind fun result hresult => hf result.1 result.2 (hrules.append hresult)

theorem lift_bind {d : Decoder α} {f : α → RuleDecoder β} {Q : β × Array RuleSource → Prop}
    {rules : Array RuleSource} (hf : ∀ value, (f value rules).Gives Q) :
    (((liftM d : RuleDecoder α) >>= f) rules).Gives Q := by
  change ((d >>= fun value => Pure.pure (value, rules)) >>= fun result =>
    f result.1 result.2).Gives Q
  rw [bind_assoc]
  refine Decoder.Gives.bind_any fun value => ?_
  rw [pure_bind]
  exact hf value

theorem mapM {f : β → RuleDecoder α} (h : ∀ item, Numbers roots (f item)) (items : List β) :
    Numbers (fun values => values.flatMap roots) (items.mapM f) := by
  induction items with
  | nil => exact .pure rfl
  | cons item items ih =>
    rw [List.mapM_cons]
    intro old
    refine (h item).bind_run (Grown.refl old) fun value rules hrules => ?_
    refine ih.bind_run hrules fun values rules hrules => ?_
    exact Decoder.gives_pure hrules

end Numbers

namespace RuleSource

variable {α : Type} {child : Document → RuleDecoder Nat}

theorem numbers_inner {roots : α → List Nat} {decode : Document → RuleDecoder α}
    (h : ∀ document, Numbers roots (decode document)) (fields : List (String × Document))
    (name : String) : Numbers (fun value => value.elim [] roots) (inner fields name decode) := by
  intro rules
  unfold inner
  cases fields.lookup name with
  | none => exact Decoder.gives_pure (Grown.refl rules)
  | some document =>
    refine Decoder.Gives.bind (Decoder.gives_optional (P := fun result => ∀ r, result = some r →
      Grown rules (roots r.1) r.2) ?_ nofun document) fun result hresult => ?_
    · intro document context left value left' heq
      rintro _ ⟨⟩
      exact h document rules context left value left' heq
    · split
      · exact Decoder.gives_pure (by simpa using hresult _ rfl)
      · exact Decoder.gives_pure (Grown.refl rules)

theorem numbers_sequence (h : ∀ document, Numbers (fun number => [number]) (child document))
    (depth : Nat) (document : Document) : Numbers id (sequence depth child document) := by
  intro rules
  refine Numbers.lift_bind fun items => ?_
  have hitems := Numbers.mapM h items rules
  simpa using hitems

theorem numbers_mapping (h : ∀ document, Numbers (fun number => [number]) (child document))
    (depth : Nat) (document : Document) :
    Numbers (List.map Prod.snd) (mapping depth child document) := by
  intro rules
  refine Numbers.lift_bind fun entries => ?_
  have hentry : ∀ entry : String × Document, Numbers (fun named : String × Nat => [named.2])
      (do return (entry.1, ← child entry.2)) := fun entry old =>
    (h entry.2).bind_run (Grown.refl old) fun number rules hrules => Decoder.gives_pure hrules
  refine (Numbers.mapM hentry entries).bind_run (Grown.refl rules) fun names rules hrules => ?_
  refine Decoder.gives_pure (hrules.sublist ?_)
  have hlast := (Decoder.lastOfEach_sublist names).map Prod.snd
  simpa [← List.map_eq_flatMap] using hlast

theorem numbers_assemble (h : ∀ document, Numbers (fun number => [number]) (child document))
    (depth : Nat) (document : Document) :
    Numbers (fun number => [number]) (assemble depth child document) := by
  intro rules
  have hnames := numbers_inner (numbers_mapping h (depth - 1))
  -- the fields of text add no rules; what the others add are the roots until the rule is pushed
  refine Numbers.lift_bind fun fields => ?_
  refine Numbers.lift_bind fun reference => ?_
  refine Numbers.lift_bind fun name => ?_
  refine Numbers.lift_bind fun contentName => ?_
  refine Numbers.lift_bind fun matchPattern => ?_
  refine Numbers.lift_bind fun beginPattern => ?_
  refine Numbers.lift_bind fun endPattern => ?_
  refine Numbers.lift_bind fun whilePattern => ?_
  refine (hnames fields _).bind_run (Grown.refl rules) fun captures rules hrules => ?_
  refine (hnames fields _).bind_run hrules fun beginCaptures rules hrules => ?_
  refine (hnames fields _).bind_run hrules fun endCaptures rules hrules => ?_
  refine (hnames fields _).bind_run hrules fun whileCaptures rules hrules => ?_
  refine (numbers_inner (numbers_sequence h (depth - 1)) fields _).bind_run hrules
    fun patterns rules hrules => ?_
  refine (hnames fields _).bind_run hrules fun repository rules hrules => ?_
  refine Numbers.lift_bind fun endLast => ?_
  refine Decoder.gives_pure (hrules.push ?_)
  have hpatterns : patterns.elim [] id = patterns.getD [] := by cases patterns <;> rfl
  simp only [parts, Target.captureFields, List.cons_append, List.nil_append, List.flatMap_cons,
    List.flatMap_nil, List.append_nil, ← hpatterns]
  rw [List.perm_iff_count]
  intro number
  simp only [List.count_append]
  omega

theorem numbers_decode : ∀ (depth : Nat) (document : Document),
    Numbers (fun number => [number]) (decode depth document)
  | 0, document => numbers_assemble (fun _ => Numbers.failure) 0 document
  | 1, document => numbers_assemble (fun _ => Numbers.failure) 1 document
  | depth + 2, document => numbers_assemble (numbers_decode depth) (depth + 2) document

end RuleSource

namespace GrammarSource

def numbers (s : GrammarSource) : List Nat :=
  s.patterns ++ s.repository.map Prod.snd ++ s.rules.toList.flatMap RuleSource.parts

/-- Each rule stands in one place of the file. -/
structure Numbered (s : GrammarSource) : Prop where
  once : s.numbers.Nodup
  within : ∀ number ∈ s.numbers, number < s.rules.size

theorem numbered_of_grown {scopeName : String} {patterns : List Nat} {repository : RuleNames}
    {rules : Array RuleSource} (h : Grown #[] (patterns ++ repository.map Prod.snd) rules) :
    Numbered ⟨scopeName, patterns, repository, rules⟩ := by
  obtain ⟨added, hrules, hnodup, hin⟩ := h
  obtain rfl : rules.toList = added := hrules
  exact ⟨hnodup, fun number hmem => (hin number hmem).2⟩

theorem decode_numbered (depth : Nat) (document : Document) :
    (decode depth document).Gives Numbered := by
  have hchild := RuleSource.numbers_decode (depth - 2)
  refine Decoder.Gives.bind_any fun fields => ?_
  refine Decoder.Gives.bind_any fun scopeName => ?_
  refine Decoder.Gives.bind_any fun _ => ?_
  refine Decoder.Gives.bind (Decoder.gives_withDefault (Grown.refl #[]) fun document =>
    RuleSource.numbers_sequence hchild (depth - 1) document #[]) fun result hpatterns => ?_
  obtain ⟨patterns, rules⟩ := result
  refine Decoder.Gives.bind (Decoder.gives_withDefault (Grown.refl rules) fun document =>
    RuleSource.numbers_mapping hchild (depth - 1) document rules) fun result hrepository => ?_
  exact Decoder.gives_pure (numbered_of_grown (hpatterns.append hrepository))

theorem decoded_of_ofFile {files : Files} {path : Path} {s : GrammarSource}
    (h : ofFile files path = .ok s) :
    ∃ text, Json.decode? decode text = some s ∨ Yaml.decode? decode text = some s := by
  unfold ofFile at h
  cases htext : files.text? path with
  | none =>
    rw [htext] at h
    cases h
  | some text =>
    rw [htext] at h
    refine ⟨text, ?_⟩
    grind

theorem ofFile_numbered {files : Files} {path : Path} {s : GrammarSource}
    (h : ofFile files path = .ok s) : s.Numbered := by
  obtain ⟨text, hjson | hyaml⟩ := decoded_of_ofFile h
  · obtain ⟨json, -, hrest⟩ := Option.bind_eq_some_iff.1 hjson
    obtain ⟨⟨value, left⟩, hvalue, ⟨⟩⟩ := Option.bind_eq_some_iff.1 hrest
    exact decode_numbered _ _ _ _ _ _ hvalue
  · obtain ⟨tokens, -, hrest⟩ := Option.bind_eq_some_iff.1 hyaml
    obtain ⟨⟨document, r⟩, -, hrest⟩ := Option.bind_eq_some_iff.1 hrest
    obtain ⟨⟨value, left⟩, hvalue, ⟨⟩⟩ := Option.bind_eq_some_iff.1 hrest
    exact decode_numbered _ _ _ _ _ _ hvalue

theorem Numbered.eq_of_mem_parts {s : GrammarSource} (h : s.Numbered) {i j number : Nat}
    {r r' : RuleSource} (hr : s.rules[i]? = some r) (hr' : s.rules[j]? = some r')
    (hmem : number ∈ r.parts) (hmem' : number ∈ r'.parts) : i = j := by
  have hdisjoint := (List.nodup_flatMap.1 (List.nodup_append.1 h.once).2.1).2
  rw [List.pairwise_iff_getElem] at hdisjoint
  obtain ⟨hi, rfl⟩ := Array.getElem?_eq_some_iff.1 hr
  obtain ⟨hj, rfl⟩ := Array.getElem?_eq_some_iff.1 hr'
  obtain hlt | heq | hlt := Nat.lt_trichotomy i j
  · exact absurd hmem' (hdisjoint i j hi hj hlt hmem)
  · exact heq
  · exact absurd hmem (hdisjoint j i hj hi hlt hmem')

theorem Numbered.not_mem_parts {s : GrammarSource} (h : s.Numbered) {i number : Nat}
    {r : RuleSource} (hr : s.rules[i]? = some r)
    (hmem : number ∈ s.patterns ++ s.repository.map Prod.snd) : number ∉ r.parts := by
  intro hmem'
  have hr' : r ∈ s.rules.toList := Array.mem_toList_iff.2 (Array.mem_of_getElem? hr)
  have hparts := List.mem_flatMap.2 ⟨r, hr', hmem'⟩
  exact (List.nodup_append.1 h.once).2.2 number hmem number hparts rfl

end GrammarSource

theorem RuleSource.Reordered.parts_perm {r r' : RuleSource} (h : r.Reordered r') :
    r'.parts.Perm r.parts := by
  have hfield : ∀ {names names' : Option RuleNames}, Option.Rel List.Perm names names' →
      (names'.elim [] (List.map Prod.snd)).Perm (names.elim [] (List.map Prod.snd)) := by
    intro names names' hn
    cases hn with
    | none => exact .refl _
    | some hn => exact (hn.map _).symm
  obtain ⟨hfirst, hsecond, hthird, hfourth, hrest⟩ := h
  rw [hrest]
  refine .append (.refl _) ?_
  exact (hfield hfirst).append ((hfield hsecond).append ((hfield hthird).append
    ((hfield hfourth).append (.refl _))))

theorem GrammarSource.Reordered.parts_perm {s s' : GrammarSource} (h : s.Reordered s') :
    (s'.rules.toList.flatMap RuleSource.parts).Perm (s.rules.toList.flatMap RuleSource.parts) := by
  have hrules := h.forall₂
  generalize s.rules.toList = rules at hrules
  generalize s'.rules.toList = rules' at hrules
  induction hrules with
  | nil => exact .refl _
  | cons hfirst _ ih => exact hfirst.parts_perm.append ih

theorem GrammarSource.Numbered.reordered {s s' : GrammarSource} (h : s.Numbered)
    (hs : s.Reordered s') : s'.Numbered := by
  have hperm : s'.numbers.Perm s.numbers := by
    have hrest := hs.rest
    unfold numbers
    rw [hrest]
    exact .append (.refl _) hs.parts_perm
  refine ⟨hperm.nodup_iff.2 h.once, fun number hmem => ?_⟩
  rw [hs.size_eq]
  exact h.within number (hperm.mem_iff.1 hmem)

/-- Whatever a registry has read, the files that it compiles from are numbered. -/
theorem Registry.Faithful.numbered {files : Files} {r : Registry} (h : r.Faithful files)
    (file : String) : (Compile.fileOf (r.library files) file).Numbered := by
  unfold Compile.fileOf
  cases hlookup : (r.library files).lookup file with
  | none => exact GrammarSource.numbered_of_grown (Grown.refl #[])
  | some source =>
    have hsource := sourceOf_of_lookup_library hlookup
    rw [h.sourceOf, sourceOf_unread] at hsource
    split at hsource
    · next path hpath =>
      cases hfile : GrammarSource.ofFile files path with
      | error fault =>
        rw [hfile] at hsource
        cases hsource
      | ok written =>
        rw [hfile] at hsource
        cases hsource
        exact (GrammarSource.ofFile_numbered hfile).reordered (r.order.reordered file written)
    · cases hsource

end Highlighting
