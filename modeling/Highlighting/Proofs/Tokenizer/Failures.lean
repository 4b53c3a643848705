import Highlighting.Proofs.Highlighter.Agreement
import Highlighting.Proofs.Registry.Opened
import Highlighting.Proofs.Tokenizer.Changes
import Highlighting.Proofs.Tokenizer.Rearranged

/-!
Parses that fail. What they have read of files stays with the registry and shows in no answer while
the files stay as they are.
-/
namespace Highlighting

namespace Tokenizer

inductive Answer
  | parsed (result : Except Failure Parsed)
  | tokenized (result : Except Failure (List Token))
  | named (result : Except Failure String)
  | forgotten

def answer (t : Tokenizer) (files : Files) : Call → Answer
  | .parse buffer scopeName lines => .parsed (t.parse files buffer scopeName lines).1
  | .tokenize scopeName lines => .tokenized (t.tokenize files scopeName lines).1
  | .forget _ => .forgotten
  | .scopeName path => .named (t.scopeName files path).1

inductive Answer.Alike : Answer → Answer → Prop
  | parsed {result result' : Except Failure Parsed} (h : Concur Eq result result') :
    Alike (.parsed result) (.parsed result')
  | tokenized {result result' : Except Failure (List Token)} (h : Concur Eq result result') :
    Alike (.tokenized result) (.tokenized result')
  | named (result : Except Failure String) : Alike (.named result) (.named result)
  | forgotten : Alike .forgotten .forgotten

/-- There is no answer: the native stack was used up. -/
def Answer.isAborted : Answer → Bool
  | .parsed (.error failure) | .tokenized (.error failure) => failure.isAbort
  | _ => false

structure Reply where
  call : Call
  answer : Answer

structure Reply.Alike (r r' : Reply) : Prop where
  call : r.call = r'.call
  answer : r.answer.Alike r'.answer

def replies (files : Files) : Tokenizer → List Call → List Reply
  | _, [] => []
  | t, call :: calls =>
    ⟨call, t.answer files call⟩ ::
      if (t.answer files call).isAborted then [] else replies files (t.step files call) calls

def Call.scope? : Call → Option String
  | .parse _ name _ | .tokenize name _ => some name
  | .forget _ | .scopeName _ => none

/-- Two tokenizers keep the same of buffers and paths, and of files nothing that shows. -/
structure Alike (files : Files) (t t' : Tokenizer) : Prop where
  left : t.registry.Faithful files
  right : t'.registry.Faithful files
  unread : t.registry.unread = t'.registry.unread
  resolved : t.registry.resolved = t'.registry.resolved
  buffers : t.buffers = t'.buffers

variable {files : Files} {t t' t'' : Tokenizer}

theorem Alike.refl (h : t.registry.Faithful files) : Alike files t t := ⟨h, h, rfl, rfl, rfl⟩

theorem Alike.symm (h : Alike files t t') : Alike files t' t :=
  ⟨h.right, h.left, h.unread.symm, h.resolved.symm, h.buffers.symm⟩

theorem Alike.trans (h : Alike files t t') (h' : Alike files t' t'') : Alike files t t'' where
  left := h.left
  right := h'.right
  unread := h.unread.trans h'.unread
  resolved := h.resolved.trans h'.resolved
  buffers := h.buffers.trans h'.buffers

theorem alike_load (h : t.registry.Faithful files) (name : String) :
    Alike files t { t with registry := (t.registry.load files name).2 } where
  left := h
  right := h.load name
  unread := (Registry.load_unread files t.registry name).symm
  resolved := (Registry.load_resolved files t.registry name).symm
  buffers := rfl

theorem Alike.load (h : Alike files t t') (name : String) :
    (t.registry.load files name).1 = (t'.registry.load files name).1 ∧
      Alike files { t with registry := (t.registry.load files name).2 }
        { t' with registry := (t'.registry.load files name).2 } := by
  refine ⟨?_, (alike_load h.left name).symm.trans (h.trans (alike_load h.right name))⟩
  rw [h.left.load_fst, h.right.load_fst, h.unread]

/-- Tokenizers that are alike answer a call alike, and are alike after it. -/
theorem Alike.step (h : Alike files t t') (call : Call) :
    t.answer files call = t'.answer files call ∧
      Alike files (t.step files call) (t'.step files call) := by
  cases call with
  | parse buffer scopeName lines =>
    obtain ⟨hsame, hload⟩ := h.load scopeName
    rw [answer, answer, Tokenizer.step, Tokenizer.step, parse_eq, parse_eq, hsame, h.buffers]
    split <;> exact ⟨rfl, hload.left, hload.right, hload.unread, hload.resolved, rfl⟩
  | tokenize scopeName lines =>
    obtain ⟨hsame, hload⟩ := h.load scopeName
    rw [answer, answer, tokenize_fst, tokenize_fst, hsame]
    exact ⟨rfl, hload⟩
  | forget buffer =>
    refine ⟨rfl, h.left, h.right, h.unread, h.resolved, ?_⟩
    simp only [Tokenizer.step, Tokenizer.forget, h.buffers]
  | scopeName path =>
    obtain ⟨hsame, hresolved⟩ :=
      (Registry.beside_of_unread h.left h.right h.unread).scopeName_eq h.resolved path
    have hunread := Registry.scopeName_unread files t.registry path
    have hunread' := Registry.scopeName_unread files t'.registry path
    exact ⟨congrArg Answer.named hsame, h.left.scopeName path, h.right.scopeName path,
      hunread.trans (h.unread.trans hunread'.symm), hresolved, h.buffers⟩

theorem Alike.replies (h : Alike files t t') (calls : List Call) :
    t.replies files calls = t'.replies files calls := by
  induction calls generalizing t t' with
  | nil => rfl
  | cons call calls ih =>
    obtain ⟨hanswer, hstep⟩ := h.step call
    rw [Tokenizer.replies, Tokenizer.replies, hanswer, ih hstep]

theorem Answer.Alike.isAborted {answer answer' : Answer} (h : answer.Alike answer') :
    answer.isAborted = answer'.isAborted := by
  have hfailure : ∀ {failure failure' : Failure}, failure.Alike failure' →
      failure.isAbort = failure'.isAbort := by
    intro failure failure' halike
    cases halike <;> rfl
  cases h with
  | named | forgotten => rfl
  | parsed h | tokenized h =>
    cases h with
    | ok => rfl
    | error halike => exact hfailure halike

theorem Beside.step (h : Beside files t t') {call : Call}
    (orderly : ∀ name ∈ call.scope?, t.registry.Orderly files name) :
    (t.answer files call).Alike (t'.answer files call) ∧
      Beside files (t.step files call) (t'.step files call) := by
  cases call with
  | parse buffer scopeName lines =>
    obtain ⟨hsame, hstep⟩ := h.parse (orderly scopeName rfl) buffer lines
    exact ⟨.parsed hsame, hstep⟩
  | tokenize scopeName lines =>
    obtain ⟨hsame, hstep⟩ := h.tokenize (orderly scopeName rfl) lines
    exact ⟨.tokenized hsame, hstep⟩
  | forget buffer => exact ⟨.forgotten, h.forget buffer⟩
  | scopeName path =>
    obtain ⟨hsame, hstep⟩ := h.scopeName path
    rw [answer, answer, hsame]
    exact ⟨.named _, hstep⟩

theorem Beside.replies (h : Beside files t t') {calls : List Call}
    (orderly : ∀ call ∈ calls, ∀ name ∈ call.scope?, t.registry.Orderly files name) :
    List.Forall₂ Reply.Alike (t.replies files calls) (t'.replies files calls) := by
  induction calls generalizing t t' with
  | nil => exact .nil
  | cons call calls ih =>
    obtain ⟨hcall, hcalls⟩ := List.forall_mem_cons.1 orderly
    obtain ⟨hanswer, hstep⟩ := h.step hcall
    rw [Tokenizer.replies, Tokenizer.replies, ← hanswer.isAborted]
    refine .cons ⟨rfl, hanswer⟩ ?_
    split
    · exact .nil
    · exact ih hstep fun call hmem name hname =>
        orderly_step h.left h.registry.left _ (hcalls call hmem name hname)

end Tokenizer

end Highlighting
