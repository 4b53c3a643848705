import Highlighting.Proofs.Highlighter.Agreement
import Highlighting.Proofs.Highlighter.Reachable
import Highlighting.Proofs.Tokenizer.Rearranged

/-! Highlighters that go through captures in different orders end a request alike. -/
namespace Highlighting

inductive Outcome.Alike : Outcome → Outcome → Prop
  | refl (outcome : Outcome) : Alike outcome outcome
  | disabled {failure failure' : Failure} (h : failure.Alike failure') :
    Alike (.disabled failure) (.disabled failure')
  | failed {failure failure' : Failure} (h : failure.Alike failure') :
    Alike (.failed failure.message) (.failed failure'.message)

theorem Failure.Alike.kind {failure failure' : Failure} (h : failure.Alike failure') :
    failure.isSkip = failure'.isSkip ∧ failure.isAbort = failure'.isAbort := by
  cases h <;> exact ⟨rfl, rfl⟩

/-- The order of captures does not show in the grammar of a file. -/
def Registry.OrderlyAt (r : Registry) (files : Files) (path : Path) : Prop :=
  ∀ name, (r.scopeName files path).1 = .ok name → r.Orderly files name

theorem Registry.Fits.orderlyAt {r : Registry} {files : Files} (h : r.Fits files) {path : Path}
    (hpath : files.exists? path = true) :
    r.unread.OrderlyAt files path ↔ r.OrderlyAt files path := by
  unfold OrderlyAt
  rw [h.resolves.scopeName_fst hpath]
  exact forall₂_congr fun name _ => h.faithful.orderly

theorem Tokenizer.Beside.readAs {α : Type} {files : Files} {path : Path} {t t' : Tokenizer}
    {read : Tokenizer → String → Except Failure α × Tokenizer} (h : Beside files t t')
    (orderly : t.registry.OrderlyAt files path)
    (hread : ∀ t t' scopeName, Beside files t t' → t.registry.Orderly files scopeName →
      Concur Eq (read t scopeName).1 (read t' scopeName).1 ∧
        Beside files (read t scopeName).2 (read t' scopeName).2) :
    Concur Eq (t.readAs files path read).1 (t'.readAs files path read).1 ∧
      Beside files (t.readAs files path read).2 (t'.readAs files path read).2 := by
  obtain ⟨hsame, named⟩ := h.scopeName path
  have hkept : ∀ name, t.registry.Orderly files name →
      (t.scopeName files path).2.registry.Orderly files name := fun name =>
    orderly_step h.left h.registry.left (.scopeName path)
  have hname : ∀ name, (t.scopeName files path).1 = .ok name → t.registry.Orderly files name :=
    orderly
  unfold Tokenizer.readAs
  generalize t.scopeName files path = r at hsame named hkept hname
  generalize t'.scopeName files path = r' at hsame named
  obtain ⟨result, t⟩ := r
  obtain ⟨result', t'⟩ := r'
  obtain rfl : result = result' := hsame
  cases result with
  | error failure => exact ⟨.error (.refl failure), named⟩
  | ok scopeName =>
    obtain ⟨hresult, hbeside⟩ := hread t t' scopeName named (hkept _ (hname _ rfl))
    refine ⟨?_, hbeside⟩
    dsimp only
    generalize (read t scopeName).1 = result at hresult ⊢
    generalize (read t' scopeName).1 = result' at hresult ⊢
    cases hresult with
    | ok hsame => exact .ok (congrArg _ hsame)
    | error halike => exact .error halike

namespace Highlighter

/-- Two highlighters know the same files, each with an order of its own, and have done the same. -/
structure Beside (files : Files) (h h' : Highlighter) : Prop where
  tokenizer : Tokenizer.Beside files h.tokenizer h'.tokenizer
  store : h.store = h'.store
  rules : h.rules = h'.rules
  disabled : h.disabled = h'.disabled

structure EndBeside (files : Files) (r r' : Outcome × Highlighter × Host) : Prop where
  outcome : r.1.Alike r'.1
  host : r.2.2 = r'.2.2
  beside : Beside files r.2.1 r'.2.1

variable {files : Files} {h h' : Highlighter}

theorem Beside.quiet (b : Beside files h h') (outcome : Outcome) (host : Host) :
    EndBeside files (outcome, h, host) (outcome, h', host) :=
  ⟨.refl outcome, rfl, b⟩

theorem Beside.conclude (b : Beside files h h') (host : Host) (outcome : Outcome)
    (calls : List HostCall) :
    EndBeside files (h.conclude outcome (h.store.callAll host calls))
      (h'.conclude outcome (h'.store.callAll host calls)) := by
  rw [b.store]
  rcases h'.store.callAll host calls with ⟨_ | reason, store, host⟩
  · exact ⟨.refl _, rfl, b.tokenizer, rfl, b.rules, b.disabled⟩
  · exact ⟨.refl _, rfl, b.tokenizer, rfl, b.rules, rfl⟩

theorem Beside.giveUp (b : Beside files h h') (host : Host) {failure failure' : Failure}
    (halike : failure.Alike failure') :
    EndBeside files (h.giveUp host failure) (h'.giveUp host failure') := by
  obtain ⟨hskip, habort⟩ := halike.kind
  unfold Highlighter.giveUp
  rw [hskip, habort]
  split
  · exact b.quiet _ host
  split
  · exact b.quiet _ host
  · exact ⟨.disabled halike, rfl, b.tokenizer, b.store, b.rules, rfl⟩

theorem Beside.renew (b : Beside files h h') (host : Host) (buffer visibleEnd : Nat)
    (refresh : Bool) {result result' : Except Failure (String × Parsed)}
    (hresult : Concur Eq result result') :
    EndBeside files (h.renew host buffer visibleEnd refresh result)
      (h'.renew host buffer visibleEnd refresh result') := by
  cases hresult with
  | error halike => exact b.giveUp host halike
  | ok hsame =>
    subst hsame
    rw [Highlighter.renew, Highlighter.renew, b.rules]
    exact b.conclude host _ _

theorem present_alike (host : Host) {result result' : Except Failure (String × List Token)}
    (hresult : Concur Eq result result') :
    (present host result).1.Alike (present host result').1 ∧
      (present host result).2 = (present host result').2 := by
  cases hresult with
  | ok hsame =>
    subst hsame
    exact ⟨.refl _, rfl⟩
  | error halike =>
    obtain ⟨hskip, habort⟩ := halike.kind
    rw [present, present, hskip, habort]
    refine ⟨?_, rfl⟩
    split
    · exact .refl _
    split
    · exact .refl _
    · exact .failed halike

/-- A request on a file of which the grammar is the same in any order ends alike. -/
theorem Beside.handle (b : Beside files h h') (host : Host) {request : Request}
    (orderly : ∀ path ∈ request.path?, files.exists? path = true →
      h.tokenizer.registry.OrderlyAt files path) :
    EndBeside files (h.handle files host request) (h'.handle files host request) := by
  cases request with
  | highlight buffer path lines visibleEnd refresh =>
    rw [Highlighter.handle, Highlighter.handle]
    cases hoff : h.disabled with
    | true =>
      rw [highlight_of_disabled h host hoff, highlight_of_disabled h' host (b.disabled ▸ hoff)]
      exact b.quiet _ host
    | false =>
      have hoff' : h'.disabled = false := b.disabled ▸ hoff
      cases hfound : files.exists? path with
      | false =>
        rw [highlight_of_missing h host hoff hfound, highlight_of_missing h' host hoff' hfound]
        exact b.quiet _ host
      | true =>
        rw [highlight_eq h host hoff hfound, highlight_eq h' host hoff' hfound]
        obtain ⟨hresult, read⟩ := b.tokenizer.readAs (orderly path rfl hfound)
          fun t t' scopeName ht horderly => ht.parse horderly buffer lines
        refine Beside.renew ?_ host buffer visibleEnd refresh hresult
        exact ⟨read, b.store, b.rules, b.disabled⟩
  | undecorate buffer range =>
    rw [Highlighter.handle, Highlighter.handle, undecorate_eq, undecorate_eq]
    exact b.conclude host .undecorated _
  | showScope buffer path lines =>
    rw [Highlighter.handle, Highlighter.handle]
    cases hfound : files.exists? path with
    | false =>
      rw [showScope_of_missing h host hfound, showScope_of_missing h' host hfound]
      exact b.quiet _ host
    | true =>
      rw [showScope_eq h host hfound, showScope_eq h' host hfound]
      obtain ⟨hresult, read⟩ := b.tokenizer.readAs (orderly path rfl hfound)
        fun t t' scopeName ht horderly => ht.tokenize horderly lines
      obtain ⟨houtcome, hhost⟩ := present_alike host hresult
      exact ⟨houtcome, hhost, read, b.store, b.rules, b.disabled⟩
  | close buffer =>
    have hstore : h.store.forget buffer = h'.store.forget buffer := by rw [b.store]
    exact ⟨.refl _, rfl, b.tokenizer.forget buffer, hstore, b.rules, b.disabled⟩

end Highlighter

end Highlighting
