import Highlighting.Proofs.Path
import Highlighting.Proofs.Registry.Opened

/-!
Registries over whole runs: what they keep shows in no answer while files stay, and outlives them
when they do not.
-/
namespace Highlighting

namespace Registry

inductive Query
  | scopeName (path : Path)
  | load (scopeName : String)
  | hasGrammar (scopeName : String)

inductive Answer
  | named (result : Except Failure String)
  | loaded (result : Except Failure Grammar)
  | known (yes : Bool)

/-- Two answers are the same but for the places of rules and for what is wrong with a grammar. -/
inductive Answer.Alike : Answer → Answer → Prop
  | named (result : Except Failure String) : Alike (.named result) (.named result)
  | loaded {result result' : Except Failure Grammar} (h : Concur Grammar.Resembles result result') :
    Alike (.loaded result) (.loaded result')
  | known (yes : Bool) : Alike (.known yes) (.known yes)

namespace Query

def IsNormal : Query → Prop
  | .scopeName path => path.IsNormal
  | .load _ | .hasGrammar _ => True

def Orderly (r : Registry) (files : Files) : Query → Prop
  | .load name => r.Orderly files name
  | .scopeName _ | .hasGrammar _ => True

end Query

def ask (r : Registry) (files : Files) : Query → Answer × Registry
  | .scopeName path =>
    let (result, r) := r.scopeName files path
    (.named result, r)
  | .load scopeName =>
    let (result, r) := r.load files scopeName
    (.loaded result, r)
  | .hasGrammar scopeName => (.known (r.hasGrammar scopeName), r)

def answers (r : Registry) : List (Files × Query) → List Answer
  | [] => []
  | (files, query) :: rest =>
    let (answer, r) := r.ask files query
    answer :: r.answers rest

def run (r : Registry) (queries : List (Files × Query)) : Registry :=
  queries.foldl (fun r q => (r.ask q.1 q.2).2) r

@[simp] theorem run_nil (r : Registry) : r.run [] = r := rfl

variable {files : Files} {r : Registry}

theorem ask_unread (r : Registry) (files : Files) (query : Query) :
    (r.ask files query).2.unread = r.unread := by
  cases query with
  | scopeName path => exact scopeName_unread files r path
  | load name => exact load_unread files r name
  | hasGrammar name => rfl

/-- What is kept of files and of paths in normal form is what the files give. -/
structure Transparent (files : Files) (r : Registry) : Prop where
  faithful : r.Faithful files
  resolves : r.ResolvesOn Path.IsNormal files

theorem Transparent.ask (h : r.Transparent files) {query : Query} (hnormal : query.IsNormal) :
    (r.ask files query).1 = (r.unread.ask files query).1 ∧
      (r.ask files query).2.Transparent files := by
  cases query with
  | scopeName path =>
    refine ⟨congrArg Answer.named (h.resolves.scopeName_fst hnormal),
      h.faithful.scopeName path, h.resolves.scopeName fun other hother hc => ?_⟩
    rw [hother.eq_of_components hnormal hc]
  | load name =>
    exact ⟨congrArg Answer.loaded (h.faithful.load_fst name), h.faithful.load name,
      h.resolves.load name⟩
  | hasGrammar name => exact ⟨rfl, h⟩

/-- Nothing that a registry keeps shows in an answer while the files stay as they are. -/
theorem Transparent.answers (h : r.Transparent files) {queries : List Query}
    (hnormal : ∀ query ∈ queries, query.IsNormal) :
    r.answers (queries.map (files, ·)) =
      queries.map fun query => (r.unread.ask files query).1 := by
  induction queries generalizing r with
  | nil => rfl
  | cons query queries ih =>
    obtain ⟨hquery, hqueries⟩ := List.forall_mem_cons.1 hnormal
    obtain ⟨hanswer, hnext⟩ := h.ask hquery
    have hrest := ih hnext hqueries
    rw [ask_unread] at hrest
    exact congrArg₂ List.cons hanswer hrest

theorem Beside.ask {r' : Registry} (h : Beside files r r') (hresolved : r.resolved = r'.resolved)
    {query : Query} (orderly : query.Orderly r files) :
    (r.ask files query).1.Alike (r'.ask files query).1 := by
  cases query with
  | scopeName path =>
    have hnamed := (h.scopeName_eq hresolved path).1
    change Answer.Alike (.named (r.scopeName files path).1) (.named (r'.scopeName files path).1)
    rw [hnamed]
    exact .named _
  | load name => exact .loaded (h.load_fst orderly)
  | hasGrammar name =>
    rw [Registry.ask, Registry.ask, hasGrammar, hasGrammar, h.sources_eq]
    exact .known _

end Registry

end Highlighting
