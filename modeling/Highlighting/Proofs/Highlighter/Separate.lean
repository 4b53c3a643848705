import Highlighting.Proofs.Highlighter.Agreement
import Highlighting.Proofs.Highlighter.Containment
import Highlighting.Proofs.Highlighter.Rearranged
import Highlighting.Proofs.Registry.Opened

/-!
Buffers beside each other. Requests share what is kept of files, and see of the states and the marks
only what belongs to their own buffer.
-/
namespace Highlighting

structure Ask where
  id : Nat
  request : Request
  refuse : List Attempt → HostCall → Option String

structure Reply where
  ask : Ask
  outcome : Outcome
  attempts : List Attempt

structure Reply.Alike (r r' : Reply) : Prop where
  ask : r.ask = r'.ask
  outcome : r.outcome.Alike r'.outcome
  attempts : r.attempts = r'.attempts

namespace Outcome

theorem Alike.aborted_iff {outcome outcome' : Outcome} (h : outcome.Alike outcome') :
    outcome = .aborted ↔ outcome' = .aborted := by
  cases h <;> simp

end Outcome

namespace Highlighter
variable (files : Files)

def answer (h : Highlighter) (ask : Ask) : Reply × Highlighter :=
  let (outcome, h, host) := h.handle files { refuse := ask.refuse } ask.request
  (⟨ask, outcome, host.attempts⟩, h)

/-- The replies to requests in turn, as long as the program is there. -/
def replies (h : Highlighter) : List Ask → List Reply
  | [] => []
  | ask :: rest =>
    let (reply, h) := h.answer files ask
    reply :: if reply.outcome = .aborted then [] else h.replies rest

variable {files} {S : Nat → Prop} {h h' : Highlighter}

theorem replies_cons (h : Highlighter) (ask : Ask) (rest : List Ask) :
    h.replies files (ask :: rest) = (h.answer files ask).1 ::
      if (h.answer files ask).1.outcome = .aborted then []
      else (h.answer files ask).2.replies files rest :=
  rfl

theorem disabled_answer (h : Highlighter) (ask : Ask) :
    (h.answer files ask).2.disabled =
      (h.disabled || (h.answer files ask).1.outcome.isDisabled) :=
  (h.handle_told files { refuse := ask.refuse } ask.request).1.flag

theorem Agree.answer (a : Agree files S h h') (hflag : h.disabled = h'.disabled) {ask : Ask}
    (hb : S ask.request.buffer) :
    (h.answer files ask).1 = (h'.answer files ask).1 ∧
      Agree files S (h.answer files ask).2 (h'.answer files ask).2 ∧
      (h.answer files ask).2.disabled = (h'.answer files ask).2.disabled := by
  obtain ⟨houtcome, hhost, hagree⟩ := a.handle hflag { refuse := ask.refuse } hb
  have hreply : (h.answer files ask).1 = (h'.answer files ask).1 := by
    unfold Highlighter.answer
    dsimp only
    rw [houtcome, hhost]
  refine ⟨hreply, hagree, ?_⟩
  rw [disabled_answer, disabled_answer, hreply, hflag]

theorem Agree.replies (a : Agree files S h h') (hflag : h.disabled = h'.disabled)
    {asks : List Ask} (hb : ∀ ask ∈ asks, S ask.request.buffer) :
    h.replies files asks = h'.replies files asks := by
  induction asks generalizing h h' with
  | nil => rfl
  | cons ask asks ih =>
    obtain ⟨hfirst, hrest⟩ := List.forall_mem_cons.1 hb
    obtain ⟨hreply, hagree, hflags⟩ := a.answer hflag hfirst
    rw [replies_cons, replies_cons, hreply, ih hagree hflags hrest]

/-- No order of captures shows in the grammars that requests need. -/
def Orderly (files : Files) (h : Highlighter) (asks : List Ask) : Prop :=
  ∀ ask ∈ asks, ∀ path ∈ ask.request.path?, files.exists? path = true →
    h.tokenizer.registry.OrderlyAt files path

theorem orderly_answer (fits : h.tokenizer.registry.Fits files) (ask : Ask) {asks : List Ask}
    (orderly : h.Orderly files asks) : (h.answer files ask).2.Orderly files asks := by
  have kept : Agree files (fun _ => False) h (h.answer files ask).2 :=
    agree_handle fits _ (.inl not_false)
  intro later hlater path hpath hfound
  have hbefore := orderly later hlater path hpath hfound
  rw [← fits.orderlyAt hfound, kept.tokenizer.unread] at hbefore
  exact (kept.tokenizer.right.orderlyAt hfound).1 hbefore

theorem Beside.replies (b : Beside files h h') (fits : h.tokenizer.registry.Fits files)
    {asks : List Ask} (orderly : h.Orderly files asks) :
    List.Forall₂ Reply.Alike (h.replies files asks) (h'.replies files asks) := by
  induction asks generalizing h h' with
  | nil => exact .nil
  | cons ask asks ih =>
    obtain ⟨hask, hasks⟩ := List.forall_mem_cons.1 orderly
    obtain ⟨houtcome, hhost, hbeside⟩ := b.handle { refuse := ask.refuse } hask
    have hreply : (h.answer files ask).1.Alike (h'.answer files ask).1 :=
      ⟨rfl, houtcome, congrArg Host.attempts hhost⟩
    have kept : Agree files (fun _ => False) h (h.answer files ask).2 :=
      agree_handle fits _ (.inl not_false)
    rw [replies_cons, replies_cons]
    refine .cons hreply ?_
    by_cases hgone : (h.answer files ask).1.outcome = .aborted
    · rw [if_pos hgone, if_pos (hreply.outcome.aborted_iff.1 hgone)]
      exact .nil
    · rw [if_neg hgone, if_neg (hgone ∘ hreply.outcome.aborted_iff.2)]
      exact ih hbeside kept.tokenizer.right (orderly_answer fits ask hasks)

theorem new_beside (engine : Engine) (atStart files : Files) (roots : List Path)
    (rules : RuleTable) (order order' : Arrangement) :
    Beside files (new (.new engine atStart roots order) rules)
      (new (.new engine atStart roots order') rules) where
  tokenizer := by
    refine Tokenizer.beside_of_registry (Registry.new_beside engine atStart files roots order
      order') ?_
    rw [Registry.new_resolved, Registry.new_resolved]
  store := rfl
  rules := rfl
  disabled := rfl

def sampleAsks : List Ask :=
  [⟨0, .highlight 1 ⟨"a"⟩ ["k"] 0 false, fun _ _ => none⟩,
    ⟨1, .highlight 2 ⟨"c"⟩ ["k", "k"] 1 false, fun _ _ => none⟩,
    ⟨2, .showScope 1 ⟨"c"⟩ ["k"], fun _ _ => none⟩,
    ⟨3, .highlight 1 ⟨"a"⟩ ["k", "k"] 1 true, fun _ _ => none⟩, ⟨4, .close 2, fun _ _ => none⟩]

end Highlighter

end Highlighting
