import Highlighting.Proofs.Highlighter.Calls
import Highlighting.Proofs.Registry.Resolution
import Highlighting.Proofs.Tokenizer.Run

/-!
Tokenizers and stores that agree on some buffers. What one request changes is either what agrees or
belongs to its own buffer, and what it is answered depends on nothing else.
-/
namespace Highlighting

namespace Tokenizer

/-- Two tokenizers answer alike as far as some buffers are concerned: they keep the same states of
these, and what they keep of files does not show. -/
structure Agree (files : Files) (S : Nat → Prop) (t t' : Tokenizer) : Prop where
  left : t.registry.Fits files
  right : t'.registry.Fits files
  unread : t.registry.unread = t'.registry.unread
  buffers : ∀ buffer, S buffer → t.buffers.get? buffer = t'.buffers.get? buffer

variable {files : Files} {S : Nat → Prop} {t t' t'' : Tokenizer}

theorem Agree.refl (h : t.registry.Fits files) : Agree files S t t := ⟨h, h, rfl, fun _ _ => rfl⟩

theorem Agree.trans (h : Agree files S t t') (h' : Agree files S t' t'') : Agree files S t t'' where
  left := h.left
  right := h'.right
  unread := h.unread.trans h'.unread
  buffers buffer hb := (h.buffers buffer hb).trans (h'.buffers buffer hb)

theorem Agree.symm (h : Agree files S t t') : Agree files S t' t where
  left := h.right
  right := h.left
  unread := h.unread.symm
  buffers buffer hb := (h.buffers buffer hb).symm

theorem agree_scopeName (h : t.registry.Fits files) {path : Path}
    (hpath : files.exists? path = true) : Agree files S t (t.scopeName files path).2 where
  left := h
  right := h.scopeName hpath
  unread := (Registry.scopeName_unread files t.registry path).symm
  buffers _ _ := rfl

theorem agree_load (h : t.registry.Fits files) (name : String) :
    Agree files S t { t with registry := (t.registry.load files name).2 } where
  left := h
  right := h.load name
  unread := (Registry.load_unread files t.registry name).symm
  buffers _ _ := rfl

theorem agree_tokenize (h : t.registry.Fits files) (scopeName : String) (lines : List String) :
    Agree files S t (t.tokenize files scopeName lines).2 :=
  agree_load h scopeName

theorem agree_forget (h : t.registry.Fits files) {buffer : Nat} (hb : ¬ S buffer) :
    Agree files S t (t.forget buffer) where
  left := h
  right := h
  unread := rfl
  buffers other ho := by
    have hne : other ≠ buffer := by
      rintro rfl
      exact hb ho
    exact (Table.get?_erase_of_ne _ hne).symm

theorem parse_eq (files : Files) (t : Tokenizer) (buffer : Nat) (scopeName : String)
    (lines : List String) :
    t.parse files buffer scopeName lines =
      match (t.registry.load files scopeName).1.bind fun g =>
        parseWith g (t.buffers.get? buffer) scopeName lines with
      | .error failure =>
        (.error failure, { t with registry := (t.registry.load files scopeName).2 })
      | .ok (parsed, state) =>
        (.ok parsed, { registry := (t.registry.load files scopeName).2
                       buffers := t.buffers.put buffer state }) := by
  unfold parse
  rcases t.registry.load files scopeName with ⟨failure | g, registry⟩
  · rfl
  · cases hp : parseWith g (t.buffers.get? buffer) scopeName lines with
    | error failure => simp only [Except.bind, hp]
    | ok r => simp only [Except.bind, hp]

theorem agree_put {registry : Registry} (h : Agree files S t { t with registry := registry })
    {buffer : Nat} (hb : ¬ S buffer) (state : BufferState) :
    Agree files S t { registry := registry, buffers := t.buffers.put buffer state } where
  left := h.left
  right := h.right
  unread := h.unread
  buffers other ho := by
    have hne : other ≠ buffer := by
      rintro rfl
      exact hb ho
    exact (Table.get?_put_of_ne _ _ hne).symm

theorem agree_parse (h : t.registry.Fits files) {buffer : Nat} (hb : ¬ S buffer)
    (scopeName : String) (lines : List String) :
    Agree files S t (t.parse files buffer scopeName lines).2 := by
  rw [parse_eq]
  split
  · exact agree_load h scopeName
  · exact agree_put (agree_load h scopeName) hb _

theorem Agree.scopeName_fst (h : Agree files S t t') {path : Path}
    (hpath : files.exists? path = true) :
    (t.scopeName files path).1 = (t'.scopeName files path).1 := by
  change (t.registry.scopeName files path).1 = (t'.registry.scopeName files path).1
  rw [h.left.resolves.scopeName_fst hpath, h.right.resolves.scopeName_fst hpath, h.unread]

theorem Agree.load_fst (h : Agree files S t t') (name : String) :
    (t.registry.load files name).1 = (t'.registry.load files name).1 := by
  rw [h.left.faithful.load_fst, h.right.faithful.load_fst, h.unread]

theorem Agree.scopeName (h : Agree files S t t') {path : Path}
    (hpath : files.exists? path = true) :
    Agree files S (t.scopeName files path).2 (t'.scopeName files path).2 :=
  (agree_scopeName h.left hpath).symm.trans (h.trans (agree_scopeName h.right hpath))

theorem Agree.load (h : Agree files S t t') (name : String) :
    Agree files S { t with registry := (t.registry.load files name).2 }
      { t' with registry := (t'.registry.load files name).2 } :=
  (agree_load h.left name).symm.trans (h.trans (agree_load h.right name))

theorem Agree.tokenize (h : Agree files S t t') (scopeName : String) (lines : List String) :
    (t.tokenize files scopeName lines).1 = (t'.tokenize files scopeName lines).1 ∧
      Agree files S (t.tokenize files scopeName lines).2
        (t'.tokenize files scopeName lines).2 := by
  refine ⟨?_, h.load scopeName⟩
  rw [tokenize_fst, tokenize_fst, h.load_fst]

theorem Agree.parse (h : Agree files S t t') {buffer : Nat} (hb : S buffer) (scopeName : String)
    (lines : List String) :
    (t.parse files buffer scopeName lines).1 = (t'.parse files buffer scopeName lines).1 ∧
      Agree files S (t.parse files buffer scopeName lines).2
        (t'.parse files buffer scopeName lines).2 := by
  have hload := h.load scopeName
  rw [parse_eq, parse_eq, h.load_fst, h.buffers buffer hb]
  split
  · exact ⟨rfl, hload⟩
  · refine ⟨rfl, hload.left, hload.right, hload.unread, fun other ho => ?_⟩
    by_cases hne : other = buffer
    · rw [hne]
      exact (Table.get?_put_self ..).trans (Table.get?_put_self ..).symm
    · exact (Table.get?_put_of_ne _ _ hne).trans
        ((h.buffers other ho).trans (Table.get?_put_of_ne _ _ hne).symm)

section
variable {α : Type} {path : Path} {read : Tokenizer → String → Except Failure α × Tokenizer}

theorem agree_readAs (h : t.registry.Fits files) (hpath : files.exists? path = true)
    (hread : ∀ t scopeName, t.registry.Fits files → Agree files S t (read t scopeName).2) :
    Agree files S t (t.readAs files path read).2 := by
  have named := agree_scopeName (S := S) h hpath
  unfold readAs
  generalize t.scopeName files path = r at named
  obtain ⟨_ | scopeName, t'⟩ := r
  · exact named
  · exact named.trans (hread t' scopeName named.right)

theorem Agree.readAs (h : Agree files S t t') (hpath : files.exists? path = true)
    (hread : ∀ t t' scopeName, Agree files S t t' →
      (read t scopeName).1 = (read t' scopeName).1 ∧
        Agree files S (read t scopeName).2 (read t' scopeName).2) :
    (t.readAs files path read).1 = (t'.readAs files path read).1 ∧
      Agree files S (t.readAs files path read).2 (t'.readAs files path read).2 := by
  have hresult := h.scopeName_fst hpath
  have named := h.scopeName hpath
  unfold Tokenizer.readAs
  generalize t.scopeName files path = r at hresult named
  generalize t'.scopeName files path = r' at hresult named
  obtain ⟨result, t⟩ := r
  obtain ⟨result', t'⟩ := r'
  obtain rfl : result = result' := hresult
  cases result with
  | error failure => exact ⟨rfl, named⟩
  | ok scopeName =>
    obtain ⟨hsame, hagree⟩ := hread t t' scopeName named
    exact ⟨congrArg (Except.map (scopeName, ·)) hsame, hagree⟩

end

theorem Agree.forget (h : Agree files S t t') (buffer : Nat) :
    Agree files S (t.forget buffer) (t'.forget buffer) where
  left := h.left
  right := h.right
  unread := h.unread
  buffers other ho := by
    by_cases hne : other = buffer
    · rw [hne]
      exact (Table.get?_erase_self ..).trans (Table.get?_erase_self ..).symm
    · exact (Table.get?_erase_of_ne _ hne).trans
        ((h.buffers other ho).trans (Table.get?_erase_of_ne _ hne).symm)

end Tokenizer

namespace MarkStore

/-- Two stores keep the same marks of some buffers. -/
def Agree (S : Nat → Prop) (s s' : MarkStore) : Prop :=
  ∀ buffer, S buffer → s.marks buffer = s'.marks buffer

variable {S : Nat → Prop} {s s' : MarkStore}

theorem Agree.apply (h : s.Agree S s') (call : HostCall) :
    (s.apply call).Agree S (s'.apply call) := by
  intro other ho
  cases call with
  | addMarks buffer marks =>
    rw [MarkStore.apply, MarkStore.apply, marks_put, marks_put]
    split
    · next heq => rw [h buffer (heq ▸ ho)]
    · exact h other ho
  | removeMarks buffer range =>
    rw [MarkStore.apply, MarkStore.apply, marks_put, marks_put]
    split
    · next heq => rw [h buffer (heq ▸ ho)]
    · exact h other ho
  | disable => exact h other ho
  | openScratch fileType lines => exact h other ho

theorem Agree.forget (h : s.Agree S s') (buffer : Nat) :
    (s.forget buffer).Agree S (s'.forget buffer) := by
  intro other ho
  rw [marks_forget, marks_forget, h other ho]

theorem Agree.callAll (h : s.Agree S s') (host : Host) (calls : List HostCall) :
    (s.callAll host calls).1 = (s'.callAll host calls).1 ∧
      (s.callAll host calls).2.1.Agree S (s'.callAll host calls).2.1 ∧
      (s.callAll host calls).2.2 = (s'.callAll host calls).2.2 := by
  induction calls generalizing s s' host with
  | nil => exact ⟨rfl, h, rfl⟩
  | cons call calls ih =>
    rw [MarkStore.callAll, MarkStore.callAll]
    rcases host.make call with ⟨_ | reason, host'⟩
    · exact ih (h.apply call) host'
    · exact ⟨rfl, h, rfl⟩

/-- Calls on a buffer that is not concerned change no marks of one that is. -/
theorem agree_callAll {buffer : Nat} (hb : ¬ S buffer) (s : MarkStore) (host : Host)
    {calls : List HostCall} (hc : ∀ call ∈ calls, call.On buffer) :
    s.Agree S (s.callAll host calls).2.1 := by
  induction calls generalizing s host with
  | nil => exact fun _ _ => rfl
  | cons call calls ih =>
    have happly : s.Agree S (s.apply call) := by
      intro other ho
      have hne : buffer ≠ other := by
        rintro rfl
        exact hb ho
      have hon := hc call List.mem_cons_self
      cases call with
      | addMarks b marks =>
        cases hon
        exact ((marks_put ..).trans (if_neg hne)).symm
      | removeMarks b range =>
        cases hon
        exact ((marks_put ..).trans (if_neg hne)).symm
      | disable => cases hon
      | openScratch => cases hon
    rw [MarkStore.callAll]
    rcases host.make call with ⟨_ | reason, host'⟩
    · have hrest := ih (s.apply call) host' fun c h => hc c (List.mem_cons_of_mem _ h)
      exact fun other ho => (happly other ho).trans (hrest other ho)
    · exact fun _ _ => rfl

theorem agree_forget {buffer : Nat} (hb : ¬ S buffer) (s : MarkStore) :
    s.Agree S (s.forget buffer) := by
  intro other ho
  rw [marks_forget, if_neg]
  rintro rfl
  exact hb ho

end MarkStore

def Request.isShowScope : Request → Bool
  | .showScope .. => true
  | _ => false

namespace Highlighter

/-- Two highlighters answer alike as far as some buffers are concerned, while both are on or off. -/
structure Agree (files : Files) (S : Nat → Prop) (h h' : Highlighter) : Prop where
  tokenizer : Tokenizer.Agree files S h.tokenizer h'.tokenizer
  store : h.store.Agree S h'.store
  rules : h.rules = h'.rules

variable {files : Files} {S : Nat → Prop} {h h' h'' : Highlighter}

theorem Agree.refl (fits : h.tokenizer.registry.Fits files) : Agree files S h h :=
  ⟨.refl fits, fun _ _ => rfl, rfl⟩

theorem Agree.symm (a : Agree files S h h') : Agree files S h' h :=
  ⟨a.tokenizer.symm, fun b hb => (a.store b hb).symm, a.rules.symm⟩

theorem Agree.trans (a : Agree files S h h') (a' : Agree files S h' h'') : Agree files S h h'' :=
  ⟨a.tokenizer.trans a'.tokenizer, fun b hb => (a.store b hb).trans (a'.store b hb),
    a.rules.trans a'.rules⟩

structure EndAlike (files : Files) (S : Nat → Prop) (r r' : Outcome × Highlighter × Host) :
    Prop where
  outcome : r.1 = r'.1
  host : r.2.2 = r'.2.2
  agree : Agree files S r.2.1 r'.2.1

theorem Agree.quiet (a : Agree files S h h') (outcome : Outcome) (host : Host) :
    EndAlike files S (outcome, h, host) (outcome, h', host) :=
  ⟨rfl, rfl, a⟩

theorem Agree.fail (a : Agree files S h h') (host : Host) (failure : Failure) :
    EndAlike files S (h.fail host failure) (h'.fail host failure) :=
  ⟨rfl, rfl, a.tokenizer, a.store, a.rules⟩

theorem Agree.conclude (a : Agree files S h h') (host : Host) (outcome : Outcome)
    (calls : List HostCall) :
    EndAlike files S (h.conclude outcome (h.store.callAll host calls))
      (h'.conclude outcome (h'.store.callAll host calls)) := by
  obtain ⟨hreason, hstore, hhost⟩ := a.store.callAll host calls
  generalize h.store.callAll host calls = made at hreason hstore hhost
  generalize h'.store.callAll host calls = made' at hreason hstore hhost
  obtain ⟨reason, store, host⟩ := made
  obtain ⟨reason', store', host'⟩ := made'
  dsimp only at hreason hstore hhost
  subst hreason hhost
  cases reason with
  | none => exact ⟨rfl, rfl, a.tokenizer, hstore, a.rules⟩
  | some reason =>
    have stored : Agree files S { h with store := store } { h' with store := store' } :=
      ⟨a.tokenizer, hstore, a.rules⟩
    exact stored.fail host (.highlightApply reason)

theorem Agree.renew (a : Agree files S h h') (host : Host) (buffer visibleEnd : Nat)
    (refresh : Bool) (result : Except Failure (String × Parsed)) :
    EndAlike files S (h.renew host buffer visibleEnd refresh result)
      (h'.renew host buffer visibleEnd refresh result) := by
  cases result with
  | error failure =>
    rw [Highlighter.renew, Highlighter.renew]
    obtain ⟨outcome, hquiet⟩ | hfails := giveUp_cases failure
    · rw [hquiet, hquiet]
      exact a.quiet outcome host
    · rw [hfails, hfails]
      exact a.fail host failure
  | ok r =>
    rw [Highlighter.renew, Highlighter.renew, a.rules]
    exact a.conclude host _ _

theorem Agree.highlight (a : Agree files S h h') (hflag : h.disabled = h'.disabled) (host : Host)
    {buffer : Nat} (hb : S buffer) (path : Path) (lines : List String) (visibleEnd : Nat)
    (refresh : Bool) :
    EndAlike files S (h.highlight files host buffer path lines visibleEnd refresh)
      (h'.highlight files host buffer path lines visibleEnd refresh) := by
  cases hoff : h.disabled with
  | true =>
    rw [highlight_of_disabled h host hoff, highlight_of_disabled h' host (hflag.symm.trans hoff)]
    exact a.quiet _ host
  | false =>
    have hoff' : h'.disabled = false := hflag.symm.trans hoff
    cases hfound : files.exists? path with
    | false =>
      rw [highlight_of_missing h host hoff hfound, highlight_of_missing h' host hoff' hfound]
      exact a.quiet _ host
    | true =>
      rw [highlight_eq h host hoff hfound, highlight_eq h' host hoff' hfound]
      obtain ⟨hresult, read⟩ := a.tokenizer.readAs hfound fun t t' scopeName ht =>
        ht.parse hb scopeName lines
      dsimp only
      rw [hresult]
      refine Agree.renew ?_ host buffer visibleEnd refresh _
      exact ⟨read, a.store, a.rules⟩

theorem Agree.showScope (a : Agree files S h h') (host : Host) (path : Path)
    (lines : List String) :
    EndAlike files S (h.showScope files host path lines) (h'.showScope files host path lines) := by
  cases hfound : files.exists? path with
  | false =>
    rw [showScope_of_missing h host hfound, showScope_of_missing h' host hfound]
    exact a.quiet _ host
  | true =>
    rw [showScope_eq h host hfound, showScope_eq h' host hfound]
    obtain ⟨hresult, read⟩ := a.tokenizer.readAs hfound fun t t' scopeName ht =>
      ht.tokenize scopeName lines
    dsimp only
    rw [hresult]
    exact ⟨rfl, rfl, read, a.store, a.rules⟩

theorem Agree.handle (a : Agree files S h h') (hflag : h.disabled = h'.disabled) (host : Host)
    {request : Request} (hb : S request.buffer) :
    EndAlike files S (h.handle files host request) (h'.handle files host request) := by
  cases request with
  | highlight buffer path lines visibleEnd refresh =>
    exact a.highlight hflag host hb path lines visibleEnd refresh
  | undecorate buffer range =>
    rw [Highlighter.handle, Highlighter.handle, undecorate_eq, undecorate_eq]
    exact a.conclude host .undecorated _
  | showScope buffer path lines => exact a.showScope host path lines
  | close buffer =>
    exact ⟨rfl, rfl, a.tokenizer.forget buffer, a.store.forget buffer, a.rules⟩

theorem agree_showScope (fits : h.tokenizer.registry.Fits files) (host : Host) (path : Path)
    (lines : List String) : Agree files S h (h.showScope files host path lines).2.1 := by
  cases hfound : files.exists? path with
  | false =>
    rw [showScope_of_missing h host hfound]
    exact .refl fits
  | true =>
    rw [showScope_eq h host hfound]
    have read := Tokenizer.agree_readAs (S := S) fits hfound fun t scopeName ht =>
      Tokenizer.agree_tokenize ht scopeName lines
    exact ⟨read, fun _ _ => rfl, rfl⟩

theorem agree_conclude (fits : h.tokenizer.registry.Fits files) (host : Host) (outcome : Outcome)
    {buffer : Nat} (hb : ¬ S buffer) {calls : List HostCall}
    (hc : ∀ call ∈ calls, call.On buffer) :
    Agree files S h (h.conclude outcome (h.store.callAll host calls)).2.1 := by
  have stored := MarkStore.agree_callAll hb h.store host hc
  generalize h.store.callAll host calls = made at stored
  obtain ⟨_ | reason, store, host⟩ := made
  · exact ⟨.refl fits, stored, rfl⟩
  · exact ⟨.refl fits, stored, rfl⟩

theorem agree_renew (fits : h.tokenizer.registry.Fits files) (host : Host) {buffer : Nat}
    (hb : ¬ S buffer) (visibleEnd : Nat) (refresh : Bool)
    (result : Except Failure (String × Parsed)) :
    Agree files S h (h.renew host buffer visibleEnd refresh result).2.1 := by
  cases result with
  | error failure =>
    rw [renew]
    obtain ⟨outcome, hquiet⟩ | hfails := giveUp_cases failure
    · rw [hquiet]
      exact .refl fits
    · rw [hfails]
      exact ⟨.refl fits, fun _ _ => rfl, rfl⟩
  | ok r => exact agree_conclude fits host _ hb (Plan.calls_on buffer _ _ _)

theorem agree_highlight (fits : h.tokenizer.registry.Fits files) (host : Host) {buffer : Nat}
    (hb : ¬ S buffer) (path : Path) (lines : List String) (visibleEnd : Nat) (refresh : Bool) :
    Agree files S h (h.highlight files host buffer path lines visibleEnd refresh).2.1 := by
  cases hoff : h.disabled with
  | true =>
    rw [highlight_of_disabled h host hoff]
    exact .refl fits
  | false =>
    cases hfound : files.exists? path with
    | false =>
      rw [highlight_of_missing h host hoff hfound]
      exact .refl fits
    | true =>
      rw [highlight_eq h host hoff hfound]
      have read := Tokenizer.agree_readAs (S := S) fits hfound fun t scopeName ht =>
        Tokenizer.agree_parse ht hb scopeName lines
      refine Agree.trans ?_ (agree_renew read.right host hb visibleEnd refresh _)
      exact ⟨read, fun _ _ => rfl, rfl⟩

theorem agree_handle (fits : h.tokenizer.registry.Fits files) (host : Host) {request : Request}
    (hb : ¬ S request.buffer ∨ request.isShowScope = true) :
    Agree files S h (h.handle files host request).2.1 := by
  cases request with
  | highlight buffer path lines visibleEnd refresh =>
    exact agree_highlight fits host (hb.resolve_right Bool.false_ne_true) path lines visibleEnd
      refresh
  | undecorate buffer range =>
    rw [Highlighter.handle, undecorate_eq]
    refine agree_conclude fits host .undecorated (hb.resolve_right Bool.false_ne_true) ?_
    rintro call hc
    cases List.mem_singleton.1 hc
    rfl
  | showScope buffer path lines => exact agree_showScope fits host path lines
  | close buffer =>
    have hother := hb.resolve_right Bool.false_ne_true
    exact ⟨Tokenizer.agree_forget fits hother, MarkStore.agree_forget hother h.store, rfl⟩

end Highlighter

end Highlighting
